import EntityQuery.Proofs.Fragment.Balance
import EntityQuery.Proofs.Predicate.Conjunction

/-!
# Conditions joined by AND

A condition is joined from the equations of keys and the combined items of a filter.  An OR that
stands outside parentheses in the only item stays outside parentheses, and so it takes the keys
apart; one in any of several items takes the other items apart.
-/

namespace EntityQuery.Predicate

variable {text : String} {parts : List Part} {tree : Predicate}

/-- The parts of a text. -/
def partsOf? (text : String) : Option (List Part) := (Token.ofText? text).bind Token.parts?

/-- An OR stands in the text outside parentheses. -/
def HasOpenOr (text : String) : Prop := ∃ parts, partsOf? text = some parts ∧ HasOr parts

/-- What must hold for a condition to hold: nothing for one that is left out. -/
def conjunctsOf? (text : String) : Option (List Predicate) :=
  if text = "" then some [] else (read text).map conjuncts

namespace Consists

theorem hasOpenOr_iff (consists : Consists text parts) : HasOpenOr text ↔ HasOr parts := by
  have known : partsOf? text = some parts := by
    obtain ⟨tokens, spelled, known⟩ := consists
    rw [partsOf?, spelled.ofText?, Option.bind_some, known]
  constructor
  · rintro ⟨others, same, hasOr⟩
    obtain rfl := Option.some.inj (known.symm.trans same)
    exact hasOr
  · exact fun hasOr => ⟨parts, known, hasOr⟩

theorem ne_empty (consists : Consists text parts) (known : ofParts? parts = some tree) :
    text ≠ "" := by
  rintro rfl
  obtain rfl := consists.eq_nil
  exact nomatch known

theorem conjunctsOf? (consists : Consists text parts) (known : ofParts? parts = some tree) :
    conjunctsOf? text = some tree.conjuncts := by
  rw [Predicate.conjunctsOf?, if_neg (consists.ne_empty known), consists.read, known]
  rfl

end Consists

theorem not_hasOpenOr_empty : ¬HasOpenOr "" := by
  rw [Consists.empty.hasOpenOr_iff]
  rintro ⟨part, member, -⟩
  exact nomatch member

theorem exists_parts_of_conjunctsOf? {found : List Predicate} (shown : text ≠ "")
    (known : conjunctsOf? text = some found) : ∃ parts tree,
      Consists text parts ∧ ofParts? parts = some tree ∧ tree.conjuncts = found := by
  rw [conjunctsOf?, if_neg shown] at known
  obtain ⟨tree, read, same⟩ := Option.map_eq_some_iff.1 known
  obtain ⟨parts, split, said⟩ := Option.bind_eq_some_iff.1 read
  obtain ⟨tokens, lexed, taken⟩ := Option.bind_eq_some_iff.1 split
  exact ⟨parts, tree, ⟨tokens, .of_ofText? lexed, taken⟩, said, same⟩

/-- A part of a condition has these conjuncts when it is read alone. -/
def HasConjuncts (part : Fragment) (group : List Predicate) : Prop :=
  conjunctsOf? part.text = some group

section Joining

variable {kept fragments keys items : List Fragment} {groups : List (List Predicate)}

theorem exists_parts_of_hasConjuncts (known : List.Forall₂ HasConjuncts kept groups)
    (shown : ∀ part ∈ kept, part.text ≠ "") : ∃ items trees,
      List.Forall₂ (fun fragment parts => Consists fragment.text parts) kept items ∧
      List.Forall₂ (fun parts tree => ofParts? parts = some tree) items trees ∧
      trees.flatMap conjuncts = groups.flatten ∧
      ((∀ parts ∈ items, ¬HasOr parts) ↔ ∀ part ∈ kept, ¬HasOpenOr part.text) := by
  induction known with
  | nil => exact ⟨[], [], .nil, .nil, rfl, by simp⟩
  | @cons part group _ _ one _ ih =>
      obtain ⟨parts, tree, consists, read, same⟩ :=
        exists_parts_of_conjunctsOf? (shown part List.mem_cons_self) one
      obtain ⟨items, trees, others, othersRead, rest, free⟩ :=
        ih fun other member => shown other (List.mem_cons_of_mem _ member)
      refine ⟨parts :: items, tree :: trees, .cons consists others, .cons read othersRead, ?_, ?_⟩
      · rw [List.flatMap_cons, List.flatten_cons, same, rest]
      · rw [List.forall_mem_cons, List.forall_mem_cons, consists.hasOpenOr_iff, free]

theorem hasConjuncts_intercalate (known : List.Forall₂ HasConjuncts kept groups)
    (shown : ∀ part ∈ kept, part.text ≠ "") :
    ∃ found, HasConjuncts (.intercalate " AND " kept) found ∧
      (found = groups.flatten ↔ kept.length ≤ 1 ∨ ∀ part ∈ kept, ¬HasOpenOr part.text) := by
  by_cases nonempty : kept = []
  · subst nonempty
    obtain rfl := List.forall₂_nil_left_iff.1 known
    exact ⟨[], rfl, by simp⟩
  · obtain ⟨items, trees, consists, read, same, free⟩ := exists_parts_of_hasConjuncts known shown
    have shownItems : items ≠ [] := by
      rintro rfl
      exact nonempty (List.forall₂_nil_right_iff.1 consists)
    obtain ⟨whole, wholeRead, harmless⟩ := conjuncts_separated read shownItems
    refine ⟨whole.conjuncts, (consists_intercalate .and consists).conjunctsOf? wholeRead, ?_⟩
    rw [← same, harmless, free, consists.length_eq]

/-- The fragments that have text have the same conjuncts together. -/
theorem exists_groups_of_filter (known : List.Forall₂ HasConjuncts fragments groups) :
    ∃ keptGroups,
      List.Forall₂ HasConjuncts (fragments.filter fun part => !part.isEmpty) keptGroups ∧
      keptGroups.flatten = groups.flatten := by
  induction known with
  | nil => exact ⟨[], .nil, rfl⟩
  | @cons part group _ _ one _ ih =>
      obtain ⟨keptGroups, others, same⟩ := ih
      cases vacant : part.isEmpty with
      | true =>
          have nothing : [] = group := by
            rw [HasConjuncts, Fragment.isEmpty_iff.1 vacant] at one
            exact Option.some.inj one
          refine ⟨keptGroups, ?_, ?_⟩
          · rwa [List.filter_cons_of_neg (by simp [vacant])]
          · rw [same, ← nothing, List.flatten_cons, List.nil_append]
      | false =>
          refine ⟨group :: keptGroups, ?_, ?_⟩
          · rw [List.filter_cons_of_pos (by simp [vacant])]
            exact .cons one others
          · rw [List.flatten_cons, List.flatten_cons, same]

theorem text_ne_empty_of_mem_filter {part : Fragment}
    (member : part ∈ fragments.filter fun part => !part.isEmpty) : part.text ≠ "" := by
  have kept := (List.mem_filter.1 member).2
  rw [ne_eq, ← Fragment.isEmpty_iff]
  simpa using kept

theorem free_filter_iff :
    (∀ part ∈ fragments.filter fun part => !part.isEmpty, ¬HasOpenOr part.text) ↔
      ∀ part ∈ fragments, ¬HasOpenOr part.text := by
  refine ⟨fun free part member hasOr => ?_, fun free part member =>
    free part (List.mem_filter.1 member).1⟩
  refine free part (List.mem_filter.2 ⟨member, ?_⟩) hasOr
  rw [Bool.not_eq_true', Bool.eq_false_iff, ne_eq, Fragment.isEmpty_iff]
  intro vacant
  rw [vacant] at hasOr
  exact not_hasOpenOr_empty hasOr

theorem hasConjuncts_joined (known : List.Forall₂ HasConjuncts fragments groups) :
    ∃ found, HasConjuncts (.joined " AND " fragments) found ∧
      (found = groups.flatten ↔ (fragments.filter fun part => !part.isEmpty).length ≤ 1 ∨
        ∀ part ∈ fragments, ¬HasOpenOr part.text) := by
  obtain ⟨keptGroups, keptKnown, same⟩ := exists_groups_of_filter known
  obtain ⟨found, whole, harmless⟩ :=
    hasConjuncts_intercalate keptKnown fun _ => text_ne_empty_of_mem_filter
  exact ⟨found, whole, by rw [← same, harmless, free_filter_iff]⟩

/-- Parentheses keep the conjuncts and hide every OR. -/
theorem HasConjuncts.parenthesized {fragment : Fragment} {group : List Predicate}
    (known : HasConjuncts fragment group) (shown : fragment.text ≠ "") :
    HasConjuncts fragment.parenthesized group ∧ ¬HasOpenOr fragment.parenthesized.text := by
  obtain ⟨parts, tree, consists, read, rfl⟩ := exists_parts_of_conjunctsOf? shown known
  have enclosed := consists.parenthesized
  rw [read] at enclosed
  refine ⟨enclosed.conjunctsOf? ((Reads.enclosed _ tree).conjoins.ofParts?_eq (by simp)), ?_⟩
  have hidden := enclosed.hasOpenOr_iff
  refine fun hasOr => ?_
  obtain ⟨part, member, keyword⟩ := hidden.1 hasOr
  obtain rfl := List.mem_singleton.1 member
  exact nomatch keyword

/-- Combined items keep their conjuncts unless one of several has an OR outside parentheses; what is
combined from them has one only if there is nothing to combine. -/
theorem hasConjuncts_combine (known : List.Forall₂ HasConjuncts items groups) :
    ∃ found, HasConjuncts (Junction.and.combine items) found ∧
      (found = groups.flatten ↔ (items.filter fun item => !item.isEmpty).length ≤ 1 ∨
        ∀ item ∈ items, ¬HasOpenOr item.text) ∧
      (HasOpenOr (Junction.and.combine items).text ↔
        (items.filter fun item => !item.isEmpty).length ≤ 1 ∧
          ¬∀ item ∈ items, ¬HasOpenOr item.text) := by
  obtain ⟨keptGroups, keptKnown, same⟩ := exists_groups_of_filter known
  have shown (item : Fragment) (member : item ∈ items.filter fun item => !item.isEmpty) :=
    text_ne_empty_of_mem_filter member
  rw [← same, ← free_filter_iff]
  unfold Junction.combine
  generalize items.filter (fun item => !item.isEmpty) = kept at keptKnown shown ⊢
  match kept, keptGroups, keptKnown with
  | [], [], .nil =>
      have nothing : ¬HasOpenOr Fragment.empty.text := not_hasOpenOr_empty
      exact ⟨[], rfl, by simp, by simpa using nothing⟩
  | [item], [group], .cons one .nil =>
      exact ⟨group, one, by simp, by simp⟩
  | first :: second :: rest, keptGroups, keptKnown =>
      obtain ⟨found, whole, harmless⟩ := hasConjuncts_intercalate keptKnown shown
      have nonempty : (Fragment.intercalate " AND " (first :: second :: rest)).text ≠ "" := by
        intro nothing
        have between := (String.append_eq_empty_iff.1 nothing).1
        exact nomatch (String.append_eq_empty_iff.1 between).2
      obtain ⟨enclosed, hidden⟩ := whole.parenthesized nonempty
      refine ⟨found, enclosed, harmless, fun hasOr => absurd hasOr hidden, fun alone => ?_⟩
      exact absurd alone.1 (by simp)

section Keys

variable {keyGroups : List (List Predicate)} {last : Fragment} {inner : List Predicate}

/-- What comes after keys keeps its conjuncts, and leaves theirs to them, unless it has an OR
outside parentheses. -/
theorem hasConjuncts_afterKeys (keysKnown : List.Forall₂ HasConjuncts keys keyGroups)
    (plain : ∀ key ∈ keys, key.text ≠ "" ∧ ¬HasOpenOr key.text) (known : HasConjuncts last inner) :
    ∃ found, HasConjuncts (.joined " AND " (keys ++ [last])) found ∧
      (found = keyGroups.flatten ++ inner ↔ keys = [] ∨ ¬HasOpenOr last.text) := by
  have parts : List.Forall₂ HasConjuncts (keys ++ [last]) (keyGroups ++ [inner]) :=
    List.rel_append keysKnown (.cons known .nil)
  obtain ⟨found, whole, foundIff⟩ := hasConjuncts_joined parts
  rw [List.flatten_append, List.flatten_singleton] at foundIff
  refine ⟨found, whole, foundIff.trans ⟨?_, ?_⟩⟩
  · rintro (few | free)
    · by_contra both
      -- An OR needs text around it, so that nothing is left out and there is no room for keys.
      obtain ⟨someKeys, isOpen⟩ := not_or.1 both
      have shown (part : Fragment) (member : part ∈ keys ++ [last]) : part.text ≠ "" := by
        rcases List.mem_append.1 member with key | only
        · exact (plain part key).1
        · obtain rfl := List.mem_singleton.1 only
          intro vacant
          rw [vacant] at isOpen
          exact isOpen not_hasOpenOr_empty
      have all : ((keys ++ [last]).filter fun part => !part.isEmpty) = keys ++ [last] :=
        List.filter_eq_self.2 fun part member => by
          simpa [← Fragment.isEmpty_iff] using shown part member
      rw [all, List.length_append, List.length_singleton] at few
      exact someKeys (List.length_eq_zero_iff.1 (by omega))
    · exact .inr (free last (List.mem_append_right _ List.mem_cons_self))
  · rintro (rfl | hidden)
    · exact .inl (List.length_filter_le _ _)
    · refine .inr fun part member => ?_
      rcases List.mem_append.1 member with key | only
      · exact (plain part key).2
      · rwa [List.mem_singleton.1 only]

/-- A condition over the items of a filter, after the equations of keys. -/
def condition (keys items : List Fragment) : Fragment :=
  .joined " AND " (keys ++ [Junction.and.combine items])

/-- Keys and items are all conjuncts of the condition exactly if no item has an OR outside
parentheses, or the condition is the only item. -/
theorem hasConjuncts_condition (keysKnown : List.Forall₂ HasConjuncts keys keyGroups)
    (plain : ∀ key ∈ keys, key.text ≠ "" ∧ ¬HasOpenOr key.text)
    (itemsKnown : List.Forall₂ HasConjuncts items groups) :
    ∃ found, HasConjuncts (condition keys items) found ∧
      (found = keyGroups.flatten ++ groups.flatten ↔
        keys = [] ∧ (items.filter fun item => !item.isEmpty).length ≤ 1 ∨
          ∀ item ∈ items, ¬HasOpenOr item.text) := by
  obtain ⟨inner, combined, innerIff, openIff⟩ := hasConjuncts_combine itemsKnown
  obtain ⟨found, whole, foundIff⟩ := hasConjuncts_afterKeys keysKnown plain combined
  refine ⟨found, whole, ?_⟩
  by_cases free : ∀ item ∈ items, ¬HasOpenOr item.text
  · have hidden : ¬HasOpenOr (Junction.and.combine items).text := fun isOpen =>
      (openIff.1 isOpen).2 free
    rw [foundIff.2 (.inr hidden), innerIff.2 (.inr free)]
    exact iff_of_true rfl (.inr free)
  · by_cases few : (items.filter fun item => !item.isEmpty).length ≤ 1
    -- The OR of a single item stands beside the keys; one of several items stands in parentheses.
    · have isOpen := openIff.2 ⟨few, free⟩
      rw [← innerIff.2 (.inl few), foundIff]
      simp only [few, free, isOpen, not_true, and_true, or_false]
    · have hidden : ¬HasOpenOr (Junction.and.combine items).text := fun isOpen =>
        few (openIff.1 isOpen).1
      rw [foundIff.2 (.inr hidden), List.append_cancel_left_eq, innerIff]
      simp only [few, free, and_false, or_false]

end Keys

end Joining

end EntityQuery.Predicate
