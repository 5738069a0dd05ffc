import EntityQuery.Postgres.Decode
import EntityQuery.Postgres.Encode
import EntityQuery.Proofs.Bytes
import EntityQuery.Proofs.Json.Assembly
import EntityQuery.Proofs.Number.Truncation
import EntityQuery.Proofs.Outcome

/-!
# Columns bound as parameters

A value that was decoded from a column can be bound as a parameter of the type of the column, and
the bytes of the parameter are decoded to the same value.  This holds of the types whose values
JSON can hold as they are, and of arrays of them.  A whole number is only bound where the type can
hold it.
-/

namespace EntityQuery

/-- The whole number that a value denotes, which is the value itself or a text of decimal digits
with or without a sign. -/
inductive Json.Denotes : Json → ℤ → Prop
  | integer (number : ℤ) : Denotes (.integer number) number
  | unsigned {text : String} {sign digits : List Char} (written : text.toList = sign ++ digits)
      (positive : sign = [] ∨ sign = ['+']) (filled : digits ≠ [])
      (all : ∀ digit ∈ digits, digit.isDigit = true) :
      Denotes (.string text) (Nat.ofDigitChars 10 digits 0)
  | negative {text : String} {digits : List Char} (written : text.toList = '-' :: digits)
      (filled : digits ≠ []) (all : ∀ digit ∈ digits, digit.isDigit = true) :
      Denotes (.string text) (-Nat.ofDigitChars 10 digits 0)

namespace Numeral

variable {chars : List Char} {text : String} {number : ℤ}

theorem natural?_eq_some {digits : List Char} (filled : digits ≠ [])
    (all : ∀ digit ∈ digits, digit.isDigit = true) :
    natural? digits = some (Nat.ofDigitChars 10 digits 0) := by
  have nonempty : digits.isEmpty = false := List.isEmpty_eq_false_iff.2 filled
  rw [natural?, nonempty, List.all_eq_true.2 all]
  rfl

theorem signed?_eq_map (text : String) :
    signed? text = (natural? (splitSign text.toList).2).map fun size : ℕ =>
      if (splitSign text.toList).1 then -(size : ℤ) else size := by
  unfold signed?
  dsimp only
  cases natural? (splitSign text.toList).2 <;> rfl

/-- A text is read as the whole number that it denotes. -/
theorem signed?_eq_some_iff : signed? text = some number ↔ (Json.string text).Denotes number := by
  rw [signed?_eq_map]
  constructor
  · intro read
    obtain ⟨size, natural, rfl⟩ := Option.map_eq_some_iff.1 read
    obtain ⟨filled, all, rfl⟩ := digits_of_natural? natural
    revert filled all
    unfold splitSign
    split
    case h_1 digits written => exact .negative written
    case h_2 digits written => exact .unsigned written (.inr rfl)
    case h_3 => exact .unsigned rfl (.inl rfl)
  · intro denotes
    cases denotes with
    | @unsigned _ sign digits written positive filled all =>
        have natural := natural?_eq_some filled all
        have split : splitSign text.toList = (false, digits) := by
          rcases positive with rfl | rfl
          · rw [written, List.nil_append]
            exact splitSign_of_natural? natural
          · rw [written]
            rfl
        rw [split, natural]
        rfl
    | negative written filled all =>
        rw [written, splitSign, natural?_eq_some filled all]
        rfl

end Numeral

namespace Json.Denotes

variable {value : Json} {number other : ℤ}

theorem unique (denotes : value.Denotes number) (again : value.Denotes other) : number = other := by
  cases value with
  | integer =>
      cases denotes
      cases again
      rfl
  | string =>
      rw [← Numeral.signed?_eq_some_iff] at denotes again
      exact Option.some.inj (denotes.symm.trans again)
  | null | bool | real | array | object => contradiction

theorem isNull_eq_false (denotes : value.Denotes number) : value.isNull = false := by
  cases denotes <;> rfl

end Json.Denotes

namespace Postgres

variable {value : Json} {number : ℤ}

theorem wholeNumber?_eq_some_iff :
    wholeNumber? value = some number ↔
      value.Denotes number ∧ Numeral.fitsSigned 64 number = true := by
  cases value with
  | integer whole =>
      rw [wholeNumber?, Option.ite_none_right_eq_some, Option.some_inj]
      constructor
      · rintro ⟨fits, rfl⟩
        exact ⟨.integer _, fits⟩
      · rintro ⟨⟨⟩, fits⟩
        exact ⟨fits, rfl⟩
  | string text =>
      rw [wholeNumber?, Numeral.signedWithin?, Option.filter_eq_some_iff,
        Numeral.signed?_eq_some_iff]
  | null | bool | real | array | object =>
      refine iff_of_false nofun ?_
      rintro ⟨⟨⟩, -⟩

theorem map_exactly?_eq_some_iff {width : ℕ} {bytes : Bytes} {read : Bytes → Json} :
    (exactly? width bytes).map read = some value ↔ bytes.length = width ∧ value = read bytes := by
  unfold exactly?
  split_ifs with exact <;> simp [exact, eq_comm]

/-- A reader of whole numbers of so many bytes that gives back those between two bounds, and no
others. -/
theorem map_exactly?_integer {width : ℕ} {least most : ℤ} {read : Bytes → ℤ}
    (back : ∀ number, least ≤ number → number ≤ most → read (Bytes.ofInt width number) = number)
    (inside : ∀ bytes : Bytes, bytes.length = width → least ≤ read bytes ∧ read bytes ≤ most) :
    (∀ number, least ≤ number → number ≤ most →
      (exactly? width (Bytes.ofInt width number)).map (fun bytes => Json.integer (read bytes)) =
        some (.integer number)) ∧
    ∀ bytes value,
      (exactly? width bytes).map (fun bytes => Json.integer (read bytes)) = some value →
      bytes.length = width ∧
        ∃ number, least ≤ number ∧ number ≤ most ∧ value = .integer number := by
  constructor
  · intro number low high
    rw [map_exactly?_eq_some_iff, back number low high]
    exact ⟨Bytes.length_ofInt _ _, rfl⟩
  · intro bytes value read
    obtain ⟨length, rfl⟩ := map_exactly?_eq_some_iff.1 read
    exact ⟨length, _, (inside bytes length).1, (inside bytes length).2, rfl⟩

theorem decodeBool?_eq_some_iff {bytes : Bytes} :
    decodeBool? bytes = some value ↔ ∃ byte, bytes = [byte] ∧ value = .bool (byte != 0) := by
  constructor
  · intro read
    unfold decodeBool? at read
    split at read
    case h_1 byte => exact ⟨byte, rfl, (Option.some.inj read).symm⟩
    case h_2 => contradiction
  · rintro ⟨byte, rfl, rfl⟩
    rfl

theorem decodeText?_eq_some_iff {bytes : Bytes} :
    decodeText? bytes = some value ↔ ∃ text, bytes = Bytes.ofText text ∧ value = .string text := by
  constructor
  · intro read
    obtain ⟨text, written, rfl⟩ := Option.map_eq_some_iff.1 read
    exact ⟨text, (Bytes.ofText_of_toText? written).symm, rfl⟩
  · rintro ⟨text, rfl, rfl⟩
    rw [decodeText?, Bytes.toText?_ofText, Option.map_some]

/-- A JSON value that was decoded is decoded again from its compact text. -/
theorem decodeJson?_render {bytes : Bytes} (read : decodeJson? bytes = some value) :
    decodeJson? (Bytes.ofText value.render) = some value := by
  obtain ⟨text, -, parsed⟩ := Option.bind_eq_some_iff.1 read
  rw [decodeJson?, Bytes.toText?_ofText, Option.bind_some]
  exact Json.read?_render parsed

theorem decodeJsonb?_eq_some_iff {bytes : Bytes} :
    decodeJsonb? bytes = some value ↔
      ∃ document, bytes = ScalarType.jsonbVersion :: document ∧
        decodeJson? document = some value := by
  constructor
  · intro read
    unfold decodeJsonb? at read
    split at read
    case h_1 version document =>
        obtain ⟨rfl, parsed⟩ := Option.ite_none_right_eq_some.1 read
        exact ⟨document, rfl, parsed⟩
    case h_2 => contradiction
  · rintro ⟨document, rfl, parsed⟩
    exact parsed

theorem mapM_byte? (bytes : Bytes) :
    (bytes.map fun byte => Json.integer byte.toNat).mapM byte? = some bytes := by
  have each (byte : UInt8) : byte? (.integer byte.toNat) = some byte := by
    have small := byte.toNat_lt
    rw [byte?, if_pos (by omega), Int.toNat_natCast, UInt8.ofNat_toNat]
  induction bytes with
  | nil => rfl
  | cons byte rest ih =>
      rw [List.map_cons, List.mapM_cons, each, ih]
      rfl

namespace ScalarType

variable {type : ScalarType} {width : ℕ} {least most : ℤ} {bytes : Bytes}
  {decode : Bytes → Option Json}

/-- How many bytes a type of whole numbers has, with the least and the greatest number of it. -/
def wholes? : ScalarType → Option (ℕ × ℤ × ℤ)
  | .int2 => some (2, -2 ^ 15, 2 ^ 15 - 1)
  | .int4 => some (4, -2 ^ 31, 2 ^ 31 - 1)
  | .int8 => some (8, -2 ^ 63, 2 ^ 63 - 1)
  | .oid => some (4, 0, 2 ^ 32 - 1)
  | _ => none

theorem expect_eq_ok_iff {α : Type} {found : Option α} {result : α} :
    type.expect value found = .ok result ↔ found = some result := by
  cases found <;> simp [expect]

theorem encode_of_wholes? (whole : type.wholes? = some (width, least, most)) (value : Json) :
    type.encode value = type.encodeWhole width least most value := by
  cases type with
  | int2 | int4 | int8 | oid =>
      obtain ⟨⟩ := whole
      rfl
  | _ => contradiction

theorem fitsSigned_of_wholes? (whole : type.wholes? = some (width, least, most))
    (low : least ≤ number) (high : number ≤ most) : Numeral.fitsSigned 64 number = true := by
  have range : -2 ^ 63 ≤ least ∧ most < 2 ^ 63 := by
    cases type with
    | int2 | int4 | int8 | oid =>
        obtain ⟨⟩ := whole
        decide
    | _ => contradiction
  have bounds : Numeral.fitsSigned 64 number = true ↔ -2 ^ 63 ≤ number ∧ number < 2 ^ 63 := by
    rw [Numeral.fitsSigned, Bool.and_eq_true, decide_eq_true_iff, decide_eq_true_iff]
    rfl
  exact bounds.2 ⟨range.1.trans low, high.trans_lt range.2⟩

/-- A value is bound as a whole number if it denotes one that the type can hold. -/
theorem encode_eq_ok_iff (whole : type.wholes? = some (width, least, most)) :
    type.encode value = .ok bytes ↔
      ∃ number, value.Denotes number ∧ least ≤ number ∧ number ≤ most ∧
        bytes = Bytes.ofInt width number := by
  rw [encode_of_wholes? whole, encodeWhole, Outcome.bind_eq_ok]
  constructor
  · rintro ⟨number, read, written⟩
    obtain ⟨denotes, -⟩ := wholeNumber?_eq_some_iff.1 (expect_eq_ok_iff.1 read)
    split at written
    case isTrue inside =>
        exact ⟨number, denotes, inside.1, inside.2, (Except.ok.inj written).symm⟩
    case isFalse => contradiction
  · rintro ⟨number, denotes, low, high, rfl⟩
    have fits := fitsSigned_of_wholes? whole low high
    refine ⟨number, expect_eq_ok_iff.2 (wholeNumber?_eq_some_iff.2 ⟨denotes, fits⟩), ?_⟩
    rw [if_pos ⟨low, high⟩]
    rfl

/-- The numbers of a type are decoded from their bytes, and nothing else is decoded. -/
theorem decoder?_of_wholes? (whole : type.wholes? = some (width, least, most)) :
    ∃ decode, type.decoder? = some decode ∧
      (∀ number, least ≤ number → number ≤ most →
        decode (Bytes.ofInt width number) = some (.integer number)) ∧
      ∀ bytes value, decode bytes = some value →
        bytes.length = width ∧
          ∃ number, least ≤ number ∧ number ≤ most ∧ value = .integer number := by
  cases type with
  | int2 | int4 | int8 =>
      obtain ⟨⟩ := whole
      refine ⟨_, rfl, map_exactly?_integer (fun number low high => ?_) fun bytes length => ?_⟩
      · exact Bytes.toInt_ofInt (by omega) (by omega)
      · have bounds := Bytes.toInt_bounds bytes
        rw [length] at bounds
        omega
  | oid =>
      obtain ⟨⟩ := whole
      refine ⟨_, rfl, map_exactly?_integer (fun number low high => ?_) fun bytes length => ?_⟩
      · exact Bytes.toNat_ofInt low (by omega)
      · have bound := Bytes.toNat_lt bytes
        rw [length] at bound
        omega
  | _ => contradiction

/-- The types whose values JSON can hold as they are. -/
def isExact : ScalarType → Bool
  | .bool | .int2 | .int4 | .int8 | .oid | .text | .varchar | .bpchar | .name | .json | .jsonb
  | .bytea => true
  | _ => false

/-- The types whose arrays are decoded, item by item, and whose values JSON can hold as they are. -/
def isExactInArrays : ScalarType → Bool
  | .bool | .int2 | .int4 | .int8 | .text | .varchar | .json | .jsonb => true
  | _ => false

/-- The types whose values are JSON texts, which can be written in more ways than one. -/
def isDocument : ScalarType → Bool
  | .json | .jsonb => true
  | _ => false

theorem exists_encode_whole (whole : type.wholes? = some (width, least, most))
    (found : type.decoder? = some decode) (read : decode bytes = some value) :
    ∃ encoded, type.encode value = .ok encoded ∧ decode encoded = some value ∧
      (type.isDocument = false → encoded.length = bytes.length) := by
  obtain ⟨_, same, decodes, inside⟩ := decoder?_of_wholes? whole
  obtain rfl := Option.some.inj (same.symm.trans found)
  obtain ⟨length, number, low, high, rfl⟩ := inside _ _ read
  refine ⟨_, (encode_eq_ok_iff whole).2 ⟨number, .integer number, low, high, rfl⟩,
    decodes number low high, fun _ => ?_⟩
  rw [length, Bytes.length_ofInt]

/-- A value that was decoded is bound as bytes that are decoded to it again.  There are as many of
them as before, unless they are a JSON text. -/
theorem exists_encode (exact : type.isExact = true) (found : type.decoder? = some decode)
    (read : decode bytes = some value) (filled : value.isNull = false) :
    ∃ encoded, type.encode value = .ok encoded ∧ decode encoded = some value ∧
      (type.isDocument = false → encoded.length = bytes.length) := by
  cases type with
  | int2 | int4 | int8 | oid => exact exists_encode_whole rfl found read
  | bool =>
      obtain rfl := Option.some.inj found
      obtain ⟨byte, rfl, rfl⟩ := decodeBool?_eq_some_iff.1 read
      refine ⟨_, rfl, ?_, fun _ => rfl⟩
      cases byte != 0 <;> rfl
  | text | varchar | bpchar | name =>
      obtain rfl := Option.some.inj found
      obtain ⟨text, rfl, rfl⟩ := decodeText?_eq_some_iff.1 read
      exact ⟨_, rfl, read, fun _ => rfl⟩
  | json =>
      obtain rfl := Option.some.inj found
      exact ⟨_, rfl, decodeJson?_render read, nofun⟩
  | jsonb =>
      obtain rfl := Option.some.inj found
      obtain ⟨document, rfl, readDocument⟩ := decodeJsonb?_eq_some_iff.1 read
      exact ⟨_, rfl, decodeJsonb?_eq_some_iff.2 ⟨_, rfl, decodeJson?_render readDocument⟩, nofun⟩
  | bytea =>
      obtain rfl := Option.some.inj found
      obtain rfl := Option.some.inj read
      exact ⟨bytes, expect_eq_ok_iff.2 (mapM_byte? bytes), read, fun _ => rfl⟩
  | _ => contradiction

end ScalarType

/-- The lengths of the cells of an array are written with so many bits. -/
def lengthBits : ℕ := 31

/-- What a cell of an array holds: an item that is decoded from its bytes, or null. -/
def Holds (decode : Bytes → Option Json) (item : Json) : Option Bytes → Prop
  | none => item = .null
  | some bytes => decode bytes = some item ∧ bytes.length < 2 ^ lengthBits

variable {decode : Bytes → Option Json} {items : List Json} {cells : List (Option Bytes)}

theorem takeInt?_ofNat {length : ℕ} (small : length < 2 ^ lengthBits) (rest : Bytes) :
    takeInt? (Bytes.ofNat 4 length ++ rest) = some ((length : ℤ), rest) := by
  unfold lengthBits at small
  rw [takeInt?, Bytes.split?_append rest (Bytes.length_ofNat _ _), Option.map_some,
    Bytes.toInt_ofNat (by omega)]

theorem takeInt?_null (rest : Bytes) : takeInt? (Bytes.ofInt 4 (-1) ++ rest) = some (-1, rest) := by
  rw [takeInt?, Bytes.split?_append rest (Bytes.length_ofInt _ _), Option.map_some,
    Bytes.toInt_ofInt (by decide) (by decide)]

theorem toNat_lt_of_takeInt? {bytes rest : Bytes} (read : takeInt? bytes = some (number, rest)) :
    number.toNat < 2 ^ lengthBits := by
  obtain ⟨⟨front, back⟩, cut, same⟩ := Option.map_eq_some_iff.1 read
  obtain ⟨rfl, rfl⟩ := same
  have bounds := Bytes.toInt_bounds front
  rw [Bytes.length_of_split? cut] at bounds
  unfold lengthBits
  dsimp only
  omega

/-- The items of an array come from cells, and there are as many of them as the array says. -/
theorem items_of_decodeCells? {count : ℕ} {bytes : Bytes}
    (read : decodeCells? decode count bytes = some items) :
    items.length = count ∧ ∀ item ∈ items, ∃ cell, Holds decode item cell := by
  induction count generalizing bytes items with
  | zero =>
      obtain ⟨-, same⟩ := Option.ite_none_right_eq_some.1 read
      rw [← Option.some.inj same]
      exact ⟨rfl, nofun⟩
  | succ count ih =>
      obtain ⟨⟨length, rest⟩, taken, read⟩ := Option.bind_eq_some_iff.1 read
      dsimp only at read
      split at read
      case isTrue =>
          obtain ⟨others, readOthers, same⟩ := Option.bind_eq_some_iff.1 read
          obtain ⟨counted, each⟩ := ih readOthers
          rw [← Option.some.inj same]
          exact ⟨congrArg _ counted, List.forall_mem_cons.2 ⟨⟨none, rfl⟩, each⟩⟩
      case isFalse =>
          obtain ⟨⟨cell, rest⟩, cut, read⟩ := Option.bind_eq_some_iff.1 read
          obtain ⟨item, readItem, read⟩ := Option.bind_eq_some_iff.1 read
          obtain ⟨others, readOthers, same⟩ := Option.bind_eq_some_iff.1 read
          obtain ⟨counted, each⟩ := ih readOthers
          have short : cell.length < 2 ^ lengthBits := by
            rw [Bytes.length_of_split? cut]
            exact toNat_lt_of_takeInt? taken
          rw [← Option.some.inj same]
          exact ⟨congrArg _ counted, List.forall_mem_cons.2 ⟨⟨some cell, readItem, short⟩, each⟩⟩

/-- Cells one after another are decoded to the items that they hold. -/
theorem decodeCells?_flatMap (held : List.Forall₂ (Holds decode) items cells) :
    decodeCells? decode cells.length (cells.flatMap arrayCell) = some items := by
  induction held with
  | nil => rfl
  | @cons item cell others rest holds _ ih =>
      rw [List.flatMap_cons, List.length_cons, decodeCells?]
      cases cell with
      | none =>
          rw [show item = .null from holds]
          rw [arrayCell, takeInt?_null]
          simp [ih]
      | some bytes =>
          obtain ⟨read, short⟩ := holds
          rw [arrayCell, List.append_assoc, takeInt?_ofNat short]
          simp [Bytes.split?_append, read, ih]

/-- An array of one dimension is decoded from the cells after its header. -/
theorem decodeArray?_of_header {bytes afterDimensions afterMember afterLength ignored lower : Bytes}
    {length : ℤ} {body : Bytes} (dimensions : takeInt? bytes = some (1, afterDimensions))
    (member : Bytes.split? 8 afterDimensions = some (ignored, afterMember))
    (counted : takeInt? afterMember = some (length, afterLength)) (nonneg : 0 ≤ length)
    (bound : Bytes.split? 4 afterLength = some (lower, body)) :
    decodeArray? decode bytes = (decodeCells? decode length.toNat body).map .array := by
  simp [decodeArray?, dimensions, member, counted, bound, nonneg.not_gt, Option.map_eq_bind]

theorem decodeArray?_encodeArray (held : List.Forall₂ (Holds decode) items cells)
    (short : items.length < 2 ^ lengthBits) (lowerBound number : ℕ) :
    decodeArray? decode (encodeArray lowerBound number cells) = some (.array items) := by
  rw [held.length_eq] at short
  have one : 1 < 2 ^ lengthBits := Nat.one_lt_two_pow (by decide)
  have skipped (first second rest : Bytes) (firstLength : first.length = 4)
      (secondLength : second.length = 4) :
      Bytes.split? 8 (first ++ (second ++ rest)) = some (first ++ second, rest) := by
    rw [← List.append_assoc]
    exact Bytes.split?_append rest (by rw [List.length_append, firstLength, secondLength])
  simp only [encodeArray, List.append_assoc]
  rw [decodeArray?_of_header (takeInt?_ofNat one _)
    (skipped _ _ _ (Bytes.length_ofNat _ _) (Bytes.length_ofNat _ _)) (takeInt?_ofNat short _)
    (Int.natCast_nonneg _) (Bytes.split?_append _ (Bytes.length_ofNat _ _)), Int.toNat_natCast,
    decodeCells?_flatMap held, Option.map_some]

theorem items_of_decodeArray? {bytes : Bytes} (read : decodeArray? decode bytes = some value) :
    ∃ items, value = .array items ∧ items.length < 2 ^ lengthBits ∧
      ∀ item ∈ items, ∃ cell, Holds decode item cell := by
  obtain ⟨⟨dimensions, rest⟩, -, read⟩ := Option.bind_eq_some_iff.1 read
  obtain ⟨⟨_, rest⟩, -, read⟩ := Option.bind_eq_some_iff.1 read
  dsimp only at read
  split at read
  case isTrue =>
      obtain ⟨items, cut, same⟩ := Option.bind_eq_some_iff.1 read
      obtain ⟨counted, each⟩ := items_of_decodeCells? cut
      exact ⟨items, (Option.some.inj same).symm, by rw [counted]; decide, each⟩
  case isFalse =>
      obtain ⟨-, read⟩ := Option.ite_none_right_eq_some.1 read
      obtain ⟨⟨length, rest⟩, taken, read⟩ := Option.bind_eq_some_iff.1 read
      obtain ⟨⟨_, rest⟩, -, read⟩ := Option.bind_eq_some_iff.1 read
      obtain ⟨-, read⟩ := Option.ite_none_left_eq_some.1 read
      obtain ⟨items, cut, same⟩ := Option.bind_eq_some_iff.1 read
      obtain ⟨counted, each⟩ := items_of_decodeCells? cut
      exact ⟨items, (Option.some.inj same).symm, counted ▸ toNat_lt_of_takeInt? taken, each⟩

/-- Each item of an array that was decoded is bound as a cell that holds it. -/
theorem exists_cells {member : ScalarType} (exact : member.isExactInArrays = true)
    (found : member.decoder? = some decode)
    (each : ∀ item ∈ items, ∃ cell, Holds decode item cell)
    (fits : member.isDocument = true → ∀ item ∈ items, ∀ bytes,
      member.encode item = .ok bytes → bytes.length < 2 ^ lengthBits) :
    ∃ cells, items.mapM (MemberType.scalar member).encodeNullable = .ok cells ∧
      List.Forall₂ (Holds decode) items cells := by
  have exactAlone : member.isExact = true := by cases member <;> first | rfl | contradiction
  refine Outcome.exists_mapM_forall₂ fun item mem => ?_
  obtain ⟨cell, holds⟩ := each item mem
  cases filled : item.isNull with
  | true =>
      -- The JSON text of null is decoded to null too, and bound without bytes.
      refine ⟨none, ?_, Json.isNull_iff.1 filled⟩
      rw [MemberType.encodeNullable, if_pos filled]
  | false =>
      cases cell with
      | none =>
          rw [show item = .null from holds] at filled
          contradiction
      | some bytes =>
          obtain ⟨read, short⟩ := holds
          obtain ⟨encoded, bound, restored, length⟩ :=
            ScalarType.exists_encode exactAlone found read filled
          refine ⟨some encoded, ?_, restored, ?_⟩
          · rw [MemberType.encodeNullable, filled, MemberType.encode, bound]
            rfl
          · -- Only a JSON text can have grown; all others are as long as the cell was.
            cases document : member.isDocument with
            | true => exact fits document item mem encoded bound
            | false => rwa [length document]

namespace ServerType

variable {type : ServerType}

/-- The types whose values JSON can hold as they are, and the arrays of them that are decoded. -/
def isExact : ServerType → Bool
  | .plain (.scalar type) => type.isExact
  | .array (.scalar member) => member.isExactInArrays
  | _ => false

/-- The lengths of the cells of a bound array can be written.  Only JSON texts can be longer than
those that were decoded, since they are written anew. -/
def FitsCells : ServerType → Json → Prop
  | .array (.scalar member), .array items =>
      member.isDocument = true → ∀ item ∈ items, ∀ bytes,
        member.encode item = .ok bytes → bytes.length < 2 ^ lengthBits
  | _, _ => True

theorem exists_encode (exact : type.isExact = true) (found : type.decoder? = some decode)
    {bytes : Bytes} (read : decode bytes = some value) (filled : value.isNull = false)
    (fits : type.FitsCells value) :
    ∃ encoded, type.encode value = .ok encoded ∧ decode encoded = some value := by
  cases type with
  | plain type =>
      cases type with
      | scalar type =>
          obtain ⟨encoded, bound, restored, -⟩ := ScalarType.exists_encode exact found read filled
          exact ⟨encoded, bound, restored⟩
      | vector => contradiction
  | array member =>
      cases member with
      | scalar member =>
          obtain ⟨-, found⟩ := Option.ite_none_right_eq_some.1 found
          obtain ⟨decodeItem, foundItem, rfl⟩ := Option.map_eq_some_iff.1 found
          obtain ⟨items, rfl, short, each⟩ := items_of_decodeArray? read
          obtain ⟨cells, bound, held⟩ := exists_cells exact foundItem each fits
          refine ⟨encodeArray 1 member.number cells, ?_, decodeArray?_encodeArray held short _ _⟩
          rw [encode, bound]
          rfl
      | vector => contradiction

theorem ne_numeric (found : type.decoder? = some decode) : type ≠ .plain (.scalar .numeric) := by
  rintro rfl
  contradiction

/-- A column whose type can be decoded is null without bytes. -/
theorem decode_none (found : type.decoder? = some decode) (name : String) (position : ℕ) :
    ResultColumn.decode ⟨name, type⟩ position none = .ok .null := by
  simp [ResultColumn.decode, ne_numeric found, found]

theorem decode_some_eq_ok_iff (found : type.decoder? = some decode) (name : String) (position : ℕ)
    {bytes : Bytes} :
    ResultColumn.decode ⟨name, type⟩ position (some bytes) = .ok value ↔
      decode bytes = some value := by
  cases read : decode bytes <;> simp [ResultColumn.decode, ne_numeric found, found, read]

theorem exists_decoder (exact : type.isExact = true) : ∃ decode, type.decoder? = some decode := by
  cases type with
  | plain type =>
      cases type with
      | scalar type => cases type <;> first | exact ⟨_, rfl⟩ | contradiction
      | vector => contradiction
  | array member =>
      cases member with
      | scalar member => cases member <;> first | exact ⟨_, rfl⟩ | contradiction
      | vector => contradiction

theorem encodeNullable_eq_ok_none_iff :
    type.encodeNullable value = .ok none ↔ value = .null := by
  rw [← Json.isNull_iff]
  unfold encodeNullable
  cases value.isNull with
  | true => simp
  | false => cases type.encode value <;> simp

theorem encodeNullable_eq_ok_some_iff {bytes : Bytes} :
    type.encodeNullable value = .ok (some bytes) ↔
      value.isNull = false ∧ type.encode value = .ok bytes := by
  unfold encodeNullable
  cases value.isNull with
  | true => simp
  | false => cases type.encode value <;> simp

/-- A value that was decoded from a column is bound so that it is decoded again. -/
theorem exists_encodeNullable (exact : type.isExact = true) {name : String} {position : ℕ}
    {cell : Option Bytes} (read : ResultColumn.decode ⟨name, type⟩ position cell = .ok value)
    (fits : type.FitsCells value) :
    ∃ encoded, type.encodeNullable value = .ok encoded ∧
      ResultColumn.decode ⟨name, type⟩ position encoded = .ok value := by
  obtain ⟨decode, found⟩ := exists_decoder exact
  cases filled : value.isNull with
  | true =>
      refine ⟨none, ?_, ?_⟩
      · rw [encodeNullable, if_pos filled]
      · rw [decode_none found, Json.isNull_iff.1 filled]
  | false =>
      cases cell with
      | none =>
          rw [decode_none found] at read
          obtain rfl := Except.ok.inj read
          contradiction
      | some bytes =>
          rw [decode_some_eq_ok_iff found] at read
          obtain ⟨encoded, bound, restored⟩ := exists_encode exact found read filled fits
          exact ⟨some encoded, encodeNullable_eq_ok_some_iff.2 ⟨filled, bound⟩,
            (decode_some_eq_ok_iff found name position).2 restored⟩

end ServerType

section Wholes

variable {type : ScalarType} {width : ℕ} {least most : ℤ}

/-- The values that a type of whole numbers takes, apart from null. -/
theorem exists_bound_iff (whole : type.wholes? = some (width, least, most)) :
    (∃ bytes, (ServerType.plain (.scalar type)).encodeNullable value = .ok (some bytes)) ↔
      ∃ number, value.Denotes number ∧ least ≤ number ∧ number ≤ most := by
  constructor
  · rintro ⟨bytes, bound⟩
    obtain ⟨number, denotes, low, high, -⟩ := (ScalarType.encode_eq_ok_iff whole).1
      (ServerType.encodeNullable_eq_ok_some_iff.1 bound).2
    exact ⟨number, denotes, low, high⟩
  · rintro ⟨number, denotes, low, high⟩
    exact ⟨_, ServerType.encodeNullable_eq_ok_some_iff.2 ⟨denotes.isNull_eq_false,
      (ScalarType.encode_eq_ok_iff whole).2 ⟨number, denotes, low, high, rfl⟩⟩⟩

theorem decode_bound (whole : type.wholes? = some (width, least, most)) {bytes : Bytes}
    (bound : (ServerType.plain (.scalar type)).encodeNullable value = .ok (some bytes))
    (denotes : value.Denotes number) (name : String) (position : ℕ) :
    ResultColumn.decode ⟨name, .plain (.scalar type)⟩ position (some bytes) =
      .ok (.integer number) := by
  obtain ⟨other, otherwise, low, high, rfl⟩ := (ScalarType.encode_eq_ok_iff whole).1
    (ServerType.encodeNullable_eq_ok_some_iff.1 bound).2
  obtain rfl := denotes.unique otherwise
  obtain ⟨decode, foundScalar, decodes, -⟩ := ScalarType.decoder?_of_wholes? whole
  have found : (ServerType.plain (.scalar type)).decoder? = some decode := foundScalar
  exact (ServerType.decode_some_eq_ok_iff found name position).2 (decodes number low high)

theorem refused_iff (whole : type.wholes? = some (width, least, most)) :
    (∃ fault, (ServerType.plain (.scalar type)).encodeNullable value = .error fault) ↔
      value ≠ .null ∧ ∀ number, value.Denotes number → number < least ∨ most < number := by
  constructor
  · rintro ⟨fault, refused⟩
    refine ⟨?_, fun number denotes => ?_⟩
    · rintro rfl
      contradiction
    · by_contra inside
      rw [not_or, not_lt, not_lt] at inside
      obtain ⟨bytes, bound⟩ := (exists_bound_iff whole).2 ⟨number, denotes, inside⟩
      rw [bound] at refused
      contradiction
  · rintro ⟨given, beyond⟩
    cases bound : (ServerType.plain (.scalar type)).encodeNullable value with
    | error fault => exact ⟨fault, rfl⟩
    | ok encoded =>
        cases encoded with
        | none => exact absurd (ServerType.encodeNullable_eq_ok_none_iff.1 bound) given
        | some bytes =>
            obtain ⟨number, denotes, low, high⟩ := (exists_bound_iff whole).1 ⟨bytes, bound⟩
            exact absurd (beyond number denotes) (by omega)

end Wholes

/-- What was decoded from a column can be bound as a parameter of the type of the column, and is
decoded again from the parameter; null is bound as null.  A type of whole numbers only takes the
numbers that it can hold, written as numbers or as texts, and they are decoded as they are.
Everything else but null is refused: numbers beyond its bounds, numbers with a fraction, and what
denotes no number. -/
theorem decode_encodeNullable (name : String) (position : ℕ) :
    (∀ (type : ServerType) (cell : Option Bytes) (value : Json), type.isExact = true →
      ResultColumn.decode ⟨name, type⟩ position cell = .ok value → type.FitsCells value →
      ∃ encoded, type.encodeNullable value = .ok encoded ∧
        ResultColumn.decode ⟨name, type⟩ position encoded = .ok value) ∧
    ∀ (type : ScalarType) (width : ℕ) (least most : ℤ),
      type.wholes? = some (width, least, most) → ∀ value : Json,
      let column : ServerType := .plain (.scalar type)
      ((∃ bytes, column.encodeNullable value = .ok (some bytes)) ↔
        ∃ number, value.Denotes number ∧ least ≤ number ∧ number ≤ most) ∧
      (∀ bytes number, column.encodeNullable value = .ok (some bytes) → value.Denotes number →
        ResultColumn.decode ⟨name, column⟩ position (some bytes) = .ok (.integer number)) ∧
      ((∃ fault, column.encodeNullable value = .error fault) ↔
        value ≠ .null ∧ ∀ number, value.Denotes number → number < least ∨ most < number) := by
  refine ⟨fun type cell value exact read fits => ServerType.exists_encodeNullable exact read fits,
    fun type width least most whole value => ?_⟩
  exact ⟨exists_bound_iff whole,
    fun bytes number bound denotes => decode_bound whole bound denotes name position,
    refused_iff whole⟩

/-- An array of JSON texts with a null, and a whole number that is bound as a text. -/
theorem decode_encodeNullable_flags :
    let flags : Json := .array [.bool true, .null]
    let cell := encodeArray 1 114 [some (Bytes.ofText "true"), none]
    ResultColumn.decode ⟨"flags", .array (.scalar .json)⟩ 0 (some cell) = .ok flags ∧
    (∃ encoded, (ServerType.array (.scalar .json)).encodeNullable flags = .ok encoded ∧
      ResultColumn.decode ⟨"flags", .array (.scalar .json)⟩ 0 encoded = .ok flags) ∧
    ∃ bytes, (ServerType.plain (.scalar .int4)).encodeNullable (.string "+007") =
        .ok (some bytes) ∧
      ResultColumn.decode ⟨"flags", .plain (.scalar .int4)⟩ 0 (some bytes) = .ok (.integer 7) := by
  have law := decode_encodeNullable "flags" 0
  have readTrue : decodeJson? (Bytes.ofText "true") = some (.bool true) := by
    rw [decodeJson?, Bytes.toText?_ofText, Option.bind_some]
    exact Json.read?_render_of_readable (.bool true)
  have held : List.Forall₂ (Holds decodeJson?) [.bool true, .null]
      [some (Bytes.ofText "true"), none] :=
    .cons ⟨readTrue, by decide⟩ (.cons rfl .nil)
  have found : (ServerType.array (.scalar .json)).decoder? = some (decodeArray? decodeJson?) := rfl
  have read := (ServerType.decode_some_eq_ok_iff found "flags" 0).2
    (decodeArray?_encodeArray held (by decide) 1 114)
  have denotes : (Json.string "+007").Denotes 7 :=
    @Json.Denotes.unsigned _ ['+'] ['0', '0', '7'] rfl (.inr rfl) nofun (List.all_eq_true.1 rfl)
  obtain ⟨taken, restored, -⟩ := law.2 .int4 _ _ _ rfl (.string "+007")
  obtain ⟨bytes, bound⟩ := taken.2 ⟨7, denotes, by decide, by decide⟩
  refine ⟨read, law.1 _ _ _ rfl read fun _ item member bytes bound => ?_, bytes, bound,
    restored bytes 7 bound denotes⟩
  rcases List.mem_pair.1 member with rfl | rfl
  all_goals
    obtain rfl := Except.ok.inj bound
    decide

end Postgres

end EntityQuery
