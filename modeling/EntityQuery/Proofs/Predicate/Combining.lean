import EntityQuery.Clause
import EntityQuery.Proofs.Predicate.Reading
import Mathlib.Data.List.Forall2

/-!
# Predicates combined by AND and OR

Parts that each say one predicate say all of them between ANDs and any of them between ORs.  Items
are combined in parentheses where two or more of them have text, so that the whole says one
predicate again.
-/

namespace EntityQuery.Predicate

variable {text : String} {parts : List Part} {tree : Predicate}

/-- Parts between the keywords of a connective. -/
def separated (connective : Junction) : List (List Part) → List Part
  | [] => []
  | [parts] => parts
  | parts :: rest =>
      parts ++ .word (Operator.junction connective).keyword :: separated connective rest

theorem separated_cons_cons (connective : Junction) (first second : List Part)
    (rest : List (List Part)) :
    separated connective (first :: second :: rest) =
      first ++ .word (Operator.junction connective).keyword ::
        separated connective (second :: rest) :=
  rfl

namespace Level

variable {level next : Level}

theorem step_and (ended : level.endTest? = some next) :
    level.step (.word "AND") = some next := by
  have keyword : (Part.word "AND").keyword? = some .and := by decide
  have outside : level.inRange = false := by
    cases within : level.inRange with
    | false => rfl
    | true => simp [endTest?, within] at ended
  rw [step, keyword]
  simp [outside, ended]

theorem step_or (ended : level.endTest?.bind endConjunction? = some next) :
    level.step (.word "OR") = some next := by
  have keyword : (Part.word "OR").keyword? = some .or := by decide
  rw [step, keyword, ← ended]

end Level

/-- A level between two tests. -/
def Level.between (alternatives conjuncts : List Predicate) : Level :=
  ⟨alternatives, conjuncts, 0, [], false⟩

/-- Between ANDs, the parts say these predicates together. -/
def Conjoins (parts : List Part) (trees : List Predicate) : Prop :=
  ∀ alternatives conjuncts : List Predicate, ∃ later : Level,
    (Level.between alternatives conjuncts).run parts = some later ∧
      later.endTest? = some (.between alternatives (conjuncts ++ trees))

theorem Reads.conjoins (reads : Reads parts tree) : Conjoins parts [tree] := fun _ _ =>
  reads _ rfl rfl

namespace Conjoins

variable {items : List (List Part)} {groups : List (List Predicate)} {trees : List Predicate}

theorem separated (conjoins : List.Forall₂ Conjoins items groups) (nonempty : items ≠ []) :
    Conjoins (separated .and items) groups.flatten := by
  induction conjoins with
  | nil => exact absurd rfl nonempty
  | @cons parts group _ _ first more ih =>
      cases more with
      | nil =>
          rw [List.flatten_singleton]
          exact first
      | @cons _ _ others rests _ _ =>
          intro alternatives conjuncts
          obtain ⟨middle, ran, ended⟩ := first alternatives conjuncts
          obtain ⟨last, lastRan, lastEnded⟩ :=
            ih (List.cons_ne_nil _ _) alternatives (conjuncts ++ group)
          refine ⟨last, ?_, ?_⟩
          · rw [separated_cons_cons, Level.run_append, ran, Option.bind_some, Level.run_cons]
            exact (congrArg (Option.bind · _) (Level.step_and ended)).trans lastRan
          · rw [lastEnded, List.append_assoc]
            rfl

theorem ofParts?_eq (conjoins : Conjoins parts trees) (nonempty : trees ≠ []) :
    ofParts? parts = combined? .and trees := by
  obtain ⟨later, ran, ended⟩ := conjoins [] []
  have started : Level.start.run parts = some later := ran
  rw [ofParts?, started, Option.bind_some, Level.finish, ended, Option.bind_some]
  match trees, nonempty with
  | [tree], _ => rfl
  | _ :: _ :: _, _ => rfl

end Conjoins

section Junctions

variable {items : List (List Part)} {trees : List Predicate}

/-- Each of the parts between ORs becomes an alternative. -/
theorem run_separated_or (reads : List.Forall₂ Reads items trees) (nonempty : items ≠ [])
    (alternatives : List Predicate) : ∃ later : Level,
      (Level.between alternatives []).run (separated .or items) = some later ∧
        later.endTest?.bind Level.endConjunction? =
          some (.between (alternatives ++ trees) []) := by
  induction reads generalizing alternatives with
  | nil => exact absurd rfl nonempty
  | @cons parts tree _ _ first more ih =>
      obtain ⟨middle, ran, ended⟩ := first.conjoins alternatives []
      have closed : middle.endTest?.bind Level.endConjunction? =
          some (.between (alternatives ++ [tree]) []) := by
        rw [ended]
        rfl
      cases more with
      | nil => exact ⟨middle, ran, closed⟩
      | cons _ _ =>
          obtain ⟨last, lastRan, lastEnded⟩ := ih (List.cons_ne_nil _ _) (alternatives ++ [tree])
          refine ⟨last, ?_, ?_⟩
          · rw [separated_cons_cons, Level.run_append, ran, Option.bind_some, Level.run_cons]
            exact (congrArg (Option.bind · _) (Level.step_or closed)).trans lastRan
          · rw [lastEnded, List.append_assoc, List.singleton_append]

theorem ofParts?_separated (connective : Junction) (reads : List.Forall₂ Reads items trees)
    (nonempty : items ≠ []) :
    ofParts? (separated connective items) = combined? connective trees := by
  have shown : trees ≠ [] := by
    rintro rfl
    exact nonempty (List.forall₂_nil_right_iff.1 reads)
  cases connective with
  | and =>
      have conjoins : List.Forall₂ Conjoins items (trees.map fun tree => [tree]) :=
        List.forall₂_map_right_iff.2 (reads.imp fun _ _ => Reads.conjoins)
      have joined := Conjoins.separated conjoins nonempty
      rw [← List.flatMap_def, List.flatMap_singleton'] at joined
      exact joined.ofParts?_eq shown
  | or =>
      obtain ⟨later, ran, ended⟩ := run_separated_or reads nonempty []
      have started : Level.start.run (separated .or items) = some later := ran
      rw [ofParts?, started, Option.bind_some, Level.finish, ended, Option.bind_some]
      rfl

end Junctions

/-- The text is made of parts that say one predicate. -/
def Tells (text : String) (tree : Predicate) : Prop :=
  ∃ parts : List Part, Consists text parts ∧ Reads parts tree

theorem Tells.read (tells : Tells text tree) : Predicate.read text = some tree := by
  obtain ⟨parts, consists, reads⟩ := tells
  rw [consists.read, reads.conjoins.ofParts?_eq (List.cons_ne_nil _ _)]
  rfl

theorem Consists.eq_nil (consists : Consists "" parts) : parts = [] := by
  obtain ⟨tokens, spelled, known⟩ := consists
  have read := spelled.ofText?
  obtain rfl : [] = tokens := Option.some.inj read
  exact (Option.some.inj known).symm

theorem Tells.ne_empty (tells : Tells text tree) : text ≠ "" := by
  rintro rfl
  obtain ⟨parts, consists, reads⟩ := tells
  obtain rfl := consists.eq_nil
  obtain ⟨later, ran, ended⟩ := reads .start rfl rfl
  obtain rfl := Option.some.inj ran
  exact nomatch ended

section Combining

variable {kept : List Fragment} {items : List (List Part)} {trees : List Predicate}

theorem consists_intercalate (connective : Junction)
    (consists : List.Forall₂ (fun fragment parts => Consists fragment.text parts) kept items) :
    Consists (Fragment.intercalate connective.separator kept).text
      (separated connective items) := by
  induction consists with
  | nil => exact .empty
  | cons first more ih =>
      cases more with
      | nil => exact first
      | cons _ _ =>
          have spaced : connective.separator =
              " " ++ (Operator.junction connective).keyword ++ " " := by
            cases connective <;> rfl
          have both := first.around (Operator.junction connective).keyword ih
            (by cases connective <;> decide) (by cases connective <;> decide)
          rw [← spaced] at both
          exact both

theorem exists_parts
    (tells : List.Forall₂ (fun fragment tree => Tells fragment.text tree) kept trees) :
    ∃ items, List.Forall₂ (fun fragment parts => Consists fragment.text parts) kept items ∧
      List.Forall₂ Reads items trees := by
  induction tells with
  | nil => exact ⟨[], .nil, .nil⟩
  | cons first _ ih =>
      obtain ⟨parts, consists, reads⟩ := first
      obtain ⟨items, others, othersRead⟩ := ih
      exact ⟨parts :: items, .cons consists others, .cons reads othersRead⟩

/-- The items that have text, combined, tell what they tell, combined. -/
theorem tells_combine (connective : Junction) {fragments : List Fragment}
    (tells : List.Forall₂ (fun fragment tree => Tells fragment.text tree)
      (fragments.filter fun fragment => !fragment.isEmpty) trees) :
    match combined? connective trees with
    | none => (connective.combine fragments).text = ""
    | some tree => Tells (connective.combine fragments).text tree := by
  unfold Junction.combine
  generalize fragments.filter (fun fragment => !fragment.isEmpty) = kept at tells
  obtain ⟨items, consists, reads⟩ := exists_parts tells
  cases tells with
  | nil => rfl
  | cons first more =>
      cases more with
      | nil => exact first
      | @cons second next rest others _ _ =>
          have nonempty : items ≠ [] := by
            rintro rfl
            exact nomatch consists
          have inside := ofParts?_separated connective reads nonempty
          have whole := (consists_intercalate connective consists).parenthesized
          rw [inside] at whole
          exact ⟨_, whole, .enclosed _ _⟩

end Combining

end EntityQuery.Predicate
