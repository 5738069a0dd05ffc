import EntityQuery.Proofs.Predicate.Splicing

/-!
# Conjunctions of texts

Texts that can each be read as a condition can be read with ANDs between them, too.  Together they
say what each says alone exactly when there is one of them, or when an OR stands in none of them
outside parentheses.
-/

namespace EntityQuery.Predicate

variable {parts : List Part} {items : List (List Part)} {tree : Predicate} {trees : List Predicate}

mutual

/-- What must hold for the predicate to hold, whether it is grouped or not. -/
def conjuncts : Predicate → List Predicate
  | .junction .and (first :: rest) => conjuncts first ++ allConjuncts rest
  | predicate => [predicate]

def allConjuncts : List Predicate → List Predicate
  | [] => []
  | first :: rest => conjuncts first ++ allConjuncts rest

end

theorem allConjuncts_eq (trees : List Predicate) :
    allConjuncts trees = trees.flatMap conjuncts := by
  induction trees with
  | nil => rfl
  | cons first rest ih => rw [allConjuncts, ih, List.flatMap_cons]

theorem conjuncts_ne_nil : ∀ tree : Predicate, tree.conjuncts ≠ []
  | .junction .and (first :: _) => fun nothing =>
      conjuncts_ne_nil first (List.append_eq_nil_iff.1 nothing).1
  | .junction .and [] => List.cons_ne_nil _ _
  | .junction .or _ => List.cons_ne_nil _ _
  | .test _ => List.cons_ne_nil _ _
  | .not _ => List.cons_ne_nil _ _

theorem conjuncts_of_combined? (combined : combined? .and trees = some tree) :
    tree.conjuncts = trees.flatMap conjuncts := by
  match trees with
  | [] => exact nomatch combined
  | [only] =>
      obtain rfl := Option.some.inj combined
      exact (List.append_nil _).symm
  | first :: second :: rest =>
      obtain rfl := Option.some.inj combined
      rw [conjuncts, allConjuncts_eq, ← List.flatMap_cons]

theorem exists_combined? (connective : Junction) (nonempty : trees ≠ []) :
    ∃ tree, combined? connective trees = some tree := by
  match trees, nonempty with
  | [_], _ => exact ⟨_, rfl⟩
  | _ :: _ :: _, _ => exact ⟨_, rfl⟩

theorem length_le_conjuncts (trees : List Predicate) :
    trees.length ≤ (trees.flatMap conjuncts).length := by
  induction trees with
  | nil => exact Nat.zero_le 0
  | cons first rest ih =>
      have nonempty := List.length_pos_iff.2 (conjuncts_ne_nil first)
      rw [List.flatMap_cons, List.length_append, List.length_cons]
      omega

namespace Level

variable {first second next ended : Level} {part : Part}

/-- The test that is being read is the same on both levels. -/
structure Alike (first second : Level) : Prop where
  negations : first.negations = second.negations
  atoms : first.atoms = second.atoms
  inRange : first.inRange = second.inRange

theorem Alike.of_between (alternatives others conjuncts rest : List Predicate) :
    Alike (.between alternatives conjuncts) (.between others rest) :=
  ⟨rfl, rfl, rfl⟩

theorem Alike.endTest? (alike : Alike first second) (stopped : first.endTest? = some ended) :
    ∃ other, second.endTest? = some other ∧ Alike ended other := by
  obtain ⟨_, rfl⟩ := endTest?_eq_some stopped
  unfold Level.endTest? at stopped ⊢
  rw [alike.inRange, alike.atoms] at stopped
  split at stopped
  case isTrue => exact nomatch stopped
  case isFalse outside =>
      obtain ⟨tree, made, -⟩ := Option.map_eq_some_iff.1 stopped
      rw [if_neg outside, made]
      exact ⟨_, rfl, .of_between ..⟩

/-- Where a test has ended, the conjunction can end too. -/
theorem endConjunction?_of_endTest? (stopped : first.endTest? = some ended) :
    ∃ tree, ended.endConjunction? = some (.between (first.alternatives ++ [tree]) []) := by
  obtain ⟨last, rfl⟩ := endTest?_eq_some stopped
  have nonempty : first.conjuncts ++ [last] ≠ [] :=
    List.append_ne_nil_of_right_ne_nil _ (List.cons_ne_nil _ _)
  obtain ⟨tree, combined⟩ := exists_combined? .and nonempty
  exact ⟨tree, Option.map_eq_some_iff.2 ⟨tree, combined, rfl⟩⟩

/-- What can be read next depends on the test that is being read only. -/
theorem Alike.step (alike : Alike first second) (stepped : first.step part = some next) :
    ∃ other, second.step part = some other ∧ Alike next other := by
  unfold Level.step at stepped ⊢
  generalize part.keyword? = keyword at stepped ⊢
  match keyword with
  | some .or =>
      -- A conjunction can end on either level, since a test has just ended on both.
      obtain ⟨ended, stopped, closed⟩ := Option.bind_eq_some_iff.1 stepped
      obtain ⟨other, otherStopped, -⟩ := alike.endTest? stopped
      obtain ⟨_, ending⟩ := endConjunction?_of_endTest? stopped
      obtain ⟨_, otherEnding⟩ := endConjunction?_of_endTest? otherStopped
      obtain rfl := Option.some.inj (closed.symm.trans ending)
      exact ⟨_, Option.bind_eq_some_iff.2 ⟨other, otherStopped, otherEnding⟩, .of_between ..⟩
  | some .and =>
      dsimp only at stepped ⊢
      rw [alike.inRange] at stepped
      split at stepped
      case isTrue within =>
          obtain rfl := Option.some.inj stepped
          rw [if_pos within]
          exact ⟨_, rfl, alike.negations, congrArg (· ++ [part]) alike.atoms, rfl⟩
      case isFalse outside =>
          rw [if_neg outside]
          exact alike.endTest? stepped
  | some .not =>
      dsimp only at stepped ⊢
      rw [alike.atoms] at stepped
      split at stepped
      case isTrue fresh =>
          obtain rfl := Option.some.inj stepped
          rw [if_pos fresh]
          exact ⟨_, rfl, congrArg (· + 1) alike.negations, rfl, alike.inRange⟩
      case isFalse begun =>
          obtain rfl := Option.some.inj stepped
          rw [if_neg begun]
          exact ⟨_, rfl, alike.negations, congrArg (· ++ [part]) alike.atoms, alike.inRange⟩
  | some .between =>
      dsimp only at stepped ⊢
      rw [alike.atoms, alike.inRange] at stepped
      split at stepped
      case isTrue => exact nomatch stepped
      case isFalse opens =>
          obtain rfl := Option.some.inj stepped
          rw [if_neg opens]
          exact ⟨_, rfl, alike.negations, congrArg (· ++ [part]) alike.atoms, rfl⟩
  | none =>
      obtain rfl := Option.some.inj stepped
      exact ⟨_, rfl, alike.negations, congrArg (· ++ [part]) alike.atoms, alike.inRange⟩

theorem Alike.run (alike : Alike first second) (ran : first.run parts = some next) :
    ∃ other, second.run parts = some other ∧ Alike next other := by
  induction parts generalizing first second with
  | nil =>
      obtain rfl := Option.some.inj ran
      exact ⟨second, rfl, alike⟩
  | cons part rest ih =>
      rw [run_cons] at ran
      obtain ⟨middle, stepped, ran⟩ := Option.bind_eq_some_iff.1 ran
      obtain ⟨other, otherStepped, middles⟩ := alike.step stepped
      obtain ⟨last, otherRan, lasts⟩ := ih middles ran
      exact ⟨last, by rw [run_cons, otherStepped, Option.bind_some, otherRan], lasts⟩

end Level

/-- Where a test is expected, the parts can be read up to the end of a test. -/
def Completes (parts : List Part) : Prop :=
  ∀ alternatives conjuncts : List Predicate, ∃ later ended : Level,
    (Level.between alternatives conjuncts).run parts = some later ∧ later.endTest? = some ended

namespace Completes

theorem of_ofParts? (known : ofParts? parts = some tree) : Completes parts := by
  intro alternatives conjuncts
  obtain ⟨last, ran, finished⟩ := Option.bind_eq_some_iff.1 known
  obtain ⟨ended, _, stopped, -, -⟩ := Level.finish_eq_some finished
  obtain ⟨later, otherRan, lasts⟩ := (Level.Alike.of_between [] alternatives [] conjuncts).run ran
  obtain ⟨other, otherStopped, -⟩ := lasts.endTest? stopped
  exact ⟨later, other, otherRan, otherStopped⟩

/-- After an AND a test is expected again. -/
theorem separated (complete : ∀ parts ∈ items, Completes parts) (nonempty : items ≠ []) :
    Completes (separated .and items) := by
  induction items with
  | nil => exact absurd rfl nonempty
  | cons parts rest ih =>
      have first := complete parts List.mem_cons_self
      cases rest with
      | nil => exact first
      | cons second others =>
          intro alternatives conjuncts
          obtain ⟨middle, ended, ran, stopped⟩ := first alternatives conjuncts
          obtain ⟨tree, rfl⟩ := Level.endTest?_eq_some stopped
          obtain ⟨last, lastEnded, lastRan, lastStopped⟩ :=
            ih (fun other member => complete other (List.mem_cons_of_mem _ member))
              (List.cons_ne_nil _ _) middle.alternatives (middle.conjuncts ++ [tree])
          refine ⟨last, lastEnded, ?_, lastStopped⟩
          rw [separated_cons_cons, Level.run_append, ran, Option.bind_some, Level.run_cons]
          exact (congrArg (Option.bind · _) (Level.step_and stopped)).trans lastRan

theorem exists_ofParts? (complete : Completes parts) : ∃ tree, ofParts? parts = some tree := by
  obtain ⟨later, ended, ran, stopped⟩ := complete [] []
  obtain ⟨tree, closed⟩ := Level.endConjunction?_of_endTest? stopped
  have started : Level.start.run parts = some later := ran
  rw [ofParts?, started, Option.bind_some, Level.finish, stopped, Option.bind_some, closed]
  exact exists_combined? .or (List.append_ne_nil_of_right_ne_nil _ (List.cons_ne_nil _ _))

end Completes

/-- An OR stands among the parts. -/
def HasOr (parts : List Part) : Prop := ∃ part ∈ parts, part.keyword? = some .or

theorem not_hasOr_of_test {test : Test} (known : ofParts? parts = some (.test test)) :
    ¬HasOr parts := by
  rintro ⟨part, member, keyword⟩
  obtain ⟨operands, impossible⟩ := junction_of_or known member keyword
  exact nomatch impossible

theorem HasOr.separated (member : parts ∈ items) (hasOr : HasOr parts) :
    HasOr (separated .and items) := by
  have spread (part : Part) (inside : part ∈ parts) : part ∈ Predicate.separated .and items := by
    clear hasOr
    induction items with
    | nil => exact nomatch member
    | cons first rest ih =>
        cases rest with
        | nil => rwa [Predicate.separated, ← List.mem_singleton.1 member]
        | cons second others =>
            rw [separated_cons_cons]
            rcases List.mem_cons.1 member with rfl | later
            · exact List.mem_append_left _ inside
            · exact List.mem_append_right _ (List.mem_cons_of_mem _ (ih later))
  obtain ⟨part, inside, keyword⟩ := hasOr
  exact ⟨part, spread part inside, keyword⟩

/-- Between ANDs, the parts add these conjuncts, in groups or not. -/
def Adds (parts : List Part) (added : List Predicate) : Prop :=
  ∃ group : List Predicate, Conjoins parts group ∧ group.flatMap conjuncts = added

namespace Adds

theorem of_ofParts? (known : ofParts? parts = some tree) (free : ¬HasOr parts) :
    Adds parts tree.conjuncts := by
  have apart (part : Part) (member : part ∈ parts) : part.keyword? ≠ some .or := fun keyword =>
    free ⟨part, member, keyword⟩
  obtain ⟨group, conjoins, combined⟩ := Conjoins.of_ofParts? apart known
  exact ⟨group, conjoins, (conjuncts_of_combined? combined).symm⟩

theorem separated {added : List (List Predicate)} (adds : List.Forall₂ Adds items added)
    (nonempty : items ≠ []) : Adds (separated .and items) added.flatten := by
  have grouped : ∃ groups : List (List Predicate), List.Forall₂ Conjoins items groups ∧
      groups.flatten.flatMap conjuncts = added.flatten := by
    clear nonempty
    induction adds with
    | nil => exact ⟨[], .nil, rfl⟩
    | cons first _ ih =>
        obtain ⟨group, conjoins, same⟩ := first
        obtain ⟨groups, others, rest⟩ := ih
        refine ⟨group :: groups, .cons conjoins others, ?_⟩
        rw [List.flatten_cons, List.flatten_cons, List.flatMap_append, same, rest]
  obtain ⟨groups, conjoins, same⟩ := grouped
  exact ⟨groups.flatten, .separated conjoins nonempty, same⟩

theorem exists_ofParts? {added : List Predicate} (adds : Adds parts added)
    (nonempty : added ≠ []) : ∃ tree, ofParts? parts = some tree ∧ tree.conjuncts = added := by
  obtain ⟨group, conjoins, rfl⟩ := adds
  have grouped : group ≠ [] := by
    rintro rfl
    exact nonempty rfl
  obtain ⟨tree, combined⟩ := exists_combined? .and grouped
  exact ⟨tree, (conjoins.ofParts?_eq grouped).trans combined, conjuncts_of_combined? combined⟩

end Adds

/-- Parts that can be read alone can be read with ANDs between them.  They keep their conjuncts
unless there are two or more of them, one with an OR. -/
theorem conjuncts_separated
    (known : List.Forall₂ (fun parts tree => ofParts? parts = some tree) items trees)
    (nonempty : items ≠ []) :
    ∃ whole, ofParts? (separated .and items) = some whole ∧
      (whole.conjuncts = trees.flatMap conjuncts ↔
        items.length ≤ 1 ∨ ∀ parts ∈ items, ¬HasOr parts) := by
  have each : List.Forall₂ (fun parts tree => Completes parts ∧ ofParts? parts = some tree)
      items trees := known.imp fun _ _ one => ⟨.of_ofParts? one, one⟩
  have complete := ((List.forall₂_and_left _ _).1 each).1
  obtain ⟨whole, read⟩ := (Completes.separated complete nonempty).exists_ofParts?
  refine ⟨whole, read, fun same => ?_, fun harmless => ?_⟩
  · by_contra both
    -- With an OR the whole is alternatives, which are one conjunct, and there are several items.
    obtain ⟨several, split⟩ := not_or.1 both
    obtain ⟨parts, member, hasOr⟩ : ∃ parts ∈ items, HasOr parts := by simpa using split
    obtain ⟨part, inside, keyword⟩ := hasOr.separated member
    obtain ⟨operands, rfl⟩ := junction_of_or read inside keyword
    have enough := length_le_conjuncts trees
    rw [← same, ← known.length_eq] at enough
    exact several enough
  · rcases harmless with alone | free
    · match items, trees, known, nonempty with
      | [_], [_], .cons one .nil, _ =>
          obtain rfl := Option.some.inj (read.symm.trans one)
          exact (List.append_nil _).symm
      | _ :: _ :: _, _, _, _ => exact absurd alone (by simp)
    · have adds : List.Forall₂ Adds items (trees.map conjuncts) :=
        List.forall₂_map_right_iff.2 <| ((List.forall₂_and_left _ _).2 ⟨free, known⟩).imp
          fun _ _ one => .of_ofParts? one.2 one.1
      have shown : (trees.map conjuncts).flatten ≠ [] := by
        intro nothing
        have enough := length_le_conjuncts trees
        rw [List.flatMap_def, nothing, ← known.length_eq] at enough
        exact nonempty (List.length_eq_zero_iff.1 (Nat.le_zero.1 enough))
      obtain ⟨_, found, same⟩ := (Adds.separated adds nonempty).exists_ofParts? shown
      obtain rfl := Option.some.inj (read.symm.trans found)
      exact same.trans (List.flatMap_def ..).symm

end EntityQuery.Predicate
