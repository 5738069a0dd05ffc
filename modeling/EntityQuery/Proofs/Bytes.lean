import EntityQuery.Bytes
import Mathlib.Algebra.Order.Ring.Int
import Mathlib.Data.List.Induction
import Mathlib.Tactic.SplitIfs

/-!
# Numbers and texts in bytes

Numbers that fit their bytes come back from them, and so do texts.
-/

namespace EntityQuery.Bytes

variable {width number : Nat} {bytes : Bytes}

theorem ofText_append (first second : String) :
    ofText (first ++ second) = ofText first ++ ofText second := by
  unfold ofText
  rw [String.toByteArray_append, ByteArray.data_append, Array.toList_append]

theorem length_ofText (text : String) : (ofText text).length = text.utf8ByteSize := rfl

@[simp]
theorem toText?_ofText (text : String) : toText? (ofText text) = some text := by
  unfold toText? ofText String.fromUTF8?
  rw [Array.toArray_toList, dif_pos text.isValidUTF8]
  rfl

theorem ofText_of_toText? {text : String} (read : toText? bytes = some text) :
    ofText text = bytes := by
  unfold toText? String.fromUTF8? at read
  split at read
  case isTrue =>
      rw [← Option.some.inj read]
      rfl
  case isFalse => exact nomatch read

@[simp]
theorem length_ofNat (width number : Nat) : (ofNat width number).length = width := by
  induction width generalizing number with
  | zero => rfl
  | succ width ih => rw [ofNat, List.length_append, ih, List.length_singleton]

@[simp]
theorem length_ofInt (width : Nat) (number : Int) : (ofInt width number).length = width :=
  length_ofNat _ _

theorem toNat_concat (bytes : Bytes) (byte : UInt8) :
    toNat (bytes ++ [byte]) = 256 * toNat bytes + byte.toNat := by
  rw [toNat, List.foldl_append]
  rfl

theorem toNat_ofNat (small : number < 256 ^ width) : toNat (ofNat width number) = number := by
  induction width generalizing number with
  | zero =>
      rw [Nat.pow_zero, Nat.lt_one_iff] at small
      rw [small]
      rfl
  | succ width ih =>
      rw [Nat.pow_succ] at small
      have last : (UInt8.ofNat (number % 256)).toNat = number % 256 :=
        UInt8.toNat_ofNat_of_lt' (Nat.mod_lt _ (by decide))
      rw [ofNat, toNat_concat, ih (Nat.div_lt_of_lt_mul (by omega)), last]
      exact Nat.div_add_mod number 256

theorem toNat_lt (bytes : Bytes) : toNat bytes < 256 ^ bytes.length := by
  induction bytes using List.reverseRecOn with
  | nil => exact Nat.one_pos
  | append_singleton front byte ih =>
      have last := byte.toNat_lt
      rw [toNat_concat, List.length_append, List.length_singleton, Nat.pow_succ]
      omega

/-- A number in two's complement comes back if twice its size fits the bytes. -/
theorem toInt_ofInt {number : Int} (least : -(256 ^ width : Nat) ≤ 2 * number)
    (most : 2 * number < (256 ^ width : Nat)) : toInt (ofInt width number) = number := by
  have range : 0 < 256 ^ width := Nat.pow_pos (by decide)
  have residue : number % (256 ^ width : Nat) =
      if 0 ≤ number then number else number + (256 ^ width : Nat) := by
    split_ifs with sign
    · exact Int.emod_eq_of_lt sign (by omega)
    · rw [← Int.add_emod_right]
      exact Int.emod_eq_of_lt (by omega) (by omega)
  unfold toInt
  dsimp only
  rw [length_ofInt, ofInt, Nat.pow_eq, residue, toNat_ofNat (by split_ifs <;> omega)]
  split_ifs <;> omega

theorem toInt_ofNat (small : 2 * number < 256 ^ width) :
    toInt (ofNat width number) = number := by
  have whole := toNat_ofNat (show number < 256 ^ width by omega)
  unfold toInt
  dsimp only
  rw [length_ofNat, whole, Nat.pow_eq, if_pos (by exact_mod_cast small)]

/-- A natural number that fits the bytes is the same in two's complement. -/
theorem toNat_ofInt {number : Int} (least : 0 ≤ number) (most : number < (256 ^ width : Nat)) :
    (toNat (ofInt width number) : Int) = number := by
  rw [ofInt, Nat.pow_eq, Int.emod_eq_of_lt least most, toNat_ofNat (by omega)]
  omega

theorem toInt_bounds (bytes : Bytes) :
    -(256 ^ bytes.length : Nat) ≤ 2 * toInt bytes ∧
      2 * toInt bytes < (256 ^ bytes.length : Nat) := by
  have small := toNat_lt bytes
  unfold toInt
  dsimp only
  rw [Nat.pow_eq]
  split_ifs <;> omega

theorem length_of_split? {front back : Bytes} (cut : split? width bytes = some (front, back)) :
    front.length = width := by
  unfold split? at cut
  split at cut
  case isTrue enough =>
      rw [List.splitAt_eq, Option.some_inj, Prod.mk.injEq] at cut
      rw [← cut.1, List.length_take_of_le enough]
  case isFalse => contradiction

theorem split?_append {front : Bytes} (back : Bytes) (length : front.length = width) :
    split? width (front ++ back) = some (front, back) := by
  subst length
  rw [split?, if_pos (by simp), List.splitAt_eq, List.take_left, List.drop_left]

end EntityQuery.Bytes
