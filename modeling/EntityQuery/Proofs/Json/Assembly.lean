import EntityQuery.Proofs.Json.Tokens
import EntityQuery.Proofs.Row.Columns

/-!
# Values of JSON text

The tokens of a value are assembled into the value, inside any containers that leave room for it.
What is assembled from any tokens is a value that has its room.  So a value that was read from a
text, however that was spaced and written, is read again from its compact text.
-/

namespace EntityQuery

namespace Record

variable {record : Record} {key : String} {value : Json}

theorem nodup_keys_insert (distinct : record.keys.Nodup) :
    (record.insert key value).keys.Nodup := by
  by_cases present : key ∈ record.keys
  · rwa [keys_insert_of_mem present]
  · rw [keys_insert_of_absent present]
    exact List.nodup_append_comm.1 (List.nodup_cons.2 ⟨present, distinct⟩)

theorem forall_mem_insert {holds : Json → Prop} (held : holds value)
    (each : ∀ entry ∈ record, holds entry.2) :
    ∀ entry ∈ record.insert key value, holds entry.2 := by
  induction record with
  | nil => exact List.forall_mem_singleton.2 held
  | cons entry rest ih =>
      obtain ⟨first, others⟩ := List.forall_mem_cons.1 each
      rw [insert]
      split_ifs
      · exact List.forall_mem_cons.2 ⟨held, others⟩
      · exact List.forall_mem_cons.2 ⟨first, ih others⟩

theorem not_mem_keys_of_nodup {entry : String × Json} {front back : Record}
    (distinct : (Record.keys (front ++ entry :: back)).Nodup) : entry.1 ∉ front.keys := by
  intro present
  rw [keys, List.map_append] at distinct
  exact (List.nodup_append.1 distinct).2.2 _ present _ List.mem_cons_self rfl

end Record

namespace Json

/-- The number of containers that a value can be nested in. -/
def mostNested : ℕ := Assembler.depthLimit - 1

namespace Assembler

/-- A value in these containers is complete once its tokens have been read. -/
def Assembles (frames : List Frame) (value : Json) : Prop :=
  value.tokens.foldlM step ⟨frames, .value⟩ = some (complete frames value)

/-- The first item of an array is read as if it stood after a comma. -/
theorem foldlM_firstItem (item : Json) (rest : List Json) (frames : List Frame)
    (more : List Token) :
    ([Token.comma].intercalate ((item :: rest).map tokens) ++ more).foldlM step
      ⟨frames, .firstItem⟩ =
    ([Token.comma].intercalate ((item :: rest).map tokens) ++ more).foldlM step
      ⟨.array [] :: frames, .value⟩ := by
  cases rest <;> cases item <;> rfl

/-- The first key of an object is read as if it stood after a comma. -/
theorem foldlM_firstKey (entry : String × Json) (rest : Record) (frames : List Frame)
    (more : List Token) :
    ([Token.comma].intercalate ((entry :: rest).map entryTokensOf) ++ more).foldlM step
      ⟨frames, .firstKey⟩ =
    ([Token.comma].intercalate ((entry :: rest).map entryTokensOf) ++ more).foldlM step
      ⟨frames, .nextKey []⟩ := by
  cases rest <;> rfl

/-- The items of an array, with commas between them. -/
theorem foldlM_items {frames : List Frame} {item : Json} {rest : List Json}
    (each : ∀ value ∈ item :: rest, ∀ items, Assembles (.array items :: frames) value)
    (before : List Json) :
    ([Token.comma].intercalate ((item :: rest).map tokens)).foldlM step
      ⟨.array before :: frames, .value⟩ =
        some ⟨frames, .afterItem ((item :: rest).reverse ++ before)⟩ := by
  induction rest generalizing item before with
  | nil =>
      have first := each item List.mem_cons_self before
      simpa [Assembles, complete] using first
  | cons next rest ih =>
      obtain ⟨first, others⟩ := List.forall_mem_cons.1 each
      have comma : step ⟨frames, .afterItem (item :: before)⟩ .comma =
          some ⟨.array (item :: before) :: frames, .value⟩ := rfl
      have run : item.tokens.foldlM step ⟨.array before :: frames, .value⟩ =
          some ⟨frames, .afterItem (item :: before)⟩ := first before
      rw [List.map_cons, List.map_cons, List.intercalate_cons_cons, List.append_assoc,
        List.foldlM_append, run, Option.bind_eq_bind, Option.bind_some, List.singleton_append,
        List.foldlM_cons, comma, Option.bind_eq_bind, Option.bind_some, ← List.map_cons, ih others]
      simp

/-- An entry goes behind the others, if its key is not among theirs. -/
theorem foldlM_entry {frames : List Frame} {entry : String × Json} {before : Record}
    (assembles : Assembles (.object before entry.1 :: frames) entry.2)
    (absent : entry.1 ∉ before.keys) :
    (entryTokensOf entry).foldlM step ⟨frames, .nextKey before⟩ =
      some ⟨frames, .afterEntry (before ++ [entry])⟩ := by
  have key : step ⟨frames, .nextKey before⟩ (.scalar (.string entry.1)) =
      some ⟨frames, .afterKey before entry.1⟩ := rfl
  have colon : step ⟨frames, .afterKey before entry.1⟩ .colon =
      some ⟨.object before entry.1 :: frames, .value⟩ := rfl
  have run : entry.2.tokens.foldlM step ⟨.object before entry.1 :: frames, .value⟩ =
      some ⟨frames, .afterEntry (before ++ [entry])⟩ := by
    rw [assembles, complete, Record.insert_of_absent absent]
  rw [entryTokensOf, List.foldlM_cons, key, Option.bind_eq_bind, Option.bind_some, List.foldlM_cons,
    colon, Option.bind_eq_bind, Option.bind_some, run]

/-- The entries of an object, with commas between them, after others with different keys. -/
theorem foldlM_entries {frames : List Frame} {entry : String × Json} {rest : Record}
    (each : ∀ later ∈ entry :: rest, ∀ entries key,
      Assembles (.object entries key :: frames) later.2)
    {before : Record} (distinct : (Record.keys (before ++ entry :: rest)).Nodup) :
    ([Token.comma].intercalate ((entry :: rest).map entryTokensOf)).foldlM step
      ⟨frames, .nextKey before⟩ = some ⟨frames, .afterEntry (before ++ entry :: rest)⟩ := by
  induction rest generalizing entry before with
  | nil =>
      simpa using foldlM_entry (each entry List.mem_cons_self before entry.1)
        (Record.not_mem_keys_of_nodup distinct)
  | cons next rest ih =>
      obtain ⟨first, others⟩ := List.forall_mem_cons.1 each
      have comma : step ⟨frames, .afterEntry (before ++ [entry])⟩ .comma =
          some ⟨frames, .nextKey (before ++ [entry])⟩ := rfl
      have same : before ++ entry :: next :: rest = before ++ [entry] ++ next :: rest := by simp
      have absent := Record.not_mem_keys_of_nodup distinct
      rw [same] at distinct ⊢
      rw [List.map_cons, List.map_cons, List.intercalate_cons_cons, List.append_assoc,
        List.foldlM_append, foldlM_entry (first before entry.1) absent, Option.bind_eq_bind,
        Option.bind_some, List.singleton_append, List.foldlM_cons, comma, Option.bind_eq_bind,
        Option.bind_some, ← List.map_cons]
      exact ih others distinct

/-- In containers that leave it room, a value is assembled from its tokens. -/
theorem assembles_of_readable {room : ℕ} {value : Json} (readable : Readable room value)
    {frames : List Frame} (fits : frames.length + room ≤ mostNested) : Assembles frames value := by
  induction readable generalizing frames with
  | null | bool | integer | real | string => rfl
  | @array room items each ih =>
      have nested : frames.length + 1 < depthLimit := by
        unfold mostNested depthLimit at *
        omega
      have opens : step ⟨frames, .value⟩ .beginArray = some ⟨frames, .firstItem⟩ := if_pos nested
      rw [Assembles, tokens, itemTokens_eq_map, List.foldlM_cons, opens, Option.bind_eq_bind,
        Option.bind_some]
      cases items with
      | nil => rfl
      | cons item rest =>
          rw [foldlM_firstItem, List.foldlM_append, foldlM_items]
          · simp [step]
          · intro value member items
            refine ih value member ?_
            rw [List.length_cons]
            omega
  | @object room entries distinct each ih =>
      have nested : frames.length + 1 < depthLimit := by
        unfold mostNested depthLimit at *
        omega
      have opens : step ⟨frames, .value⟩ .beginObject = some ⟨frames, .firstKey⟩ := if_pos nested
      rw [Assembles, tokens, entryTokens_eq_map, List.foldlM_cons, opens, Option.bind_eq_bind,
        Option.bind_some]
      cases entries with
      | nil => rfl
      | cons entry rest =>
          rw [foldlM_firstKey, List.foldlM_append, foldlM_entries ?_ distinct]
          · rfl
          · intro later member entries key
            refine ih later member ?_
            rw [List.length_cons]
            omega

/-- The containers hold values with the room that is left inside them. -/
inductive AreReadable : List Frame → Prop
  | nil : AreReadable []
  | array {outer : List Frame} {items : List Json} (rest : AreReadable outer)
      (nested : outer.length < mostNested)
      (each : ∀ item ∈ items, Readable (mostNested - outer.length - 1) item) :
      AreReadable (.array items :: outer)
  | object {outer : List Frame} {entries : Record} {key : String} (rest : AreReadable outer)
      (nested : outer.length < mostNested) (distinct : entries.keys.Nodup)
      (each : ∀ entry ∈ entries, Readable (mostNested - outer.length - 1) entry.2) :
      AreReadable (.object entries key :: outer)

/-- What has been assembled so far has the room that is left for it. -/
def IsReadable (assembler : Assembler) : Prop :=
  AreReadable assembler.frames ∧
    match assembler.phase with
    | .value => True
    | .firstItem | .firstKey => assembler.frames.length < mostNested
    | .afterItem items => AreReadable (.array items :: assembler.frames)
    | .nextKey entries | .afterEntry entries => AreReadable (.object entries "" :: assembler.frames)
    | .afterKey entries key => AreReadable (.object entries key :: assembler.frames)
    | .finished value => Readable mostNested value

theorem AreReadable.keyed {outer : List Frame} {entries : Record} {key : String}
    (readable : AreReadable (.object entries key :: outer)) (other : String) :
    AreReadable (.object entries other :: outer) := by
  cases readable with
  | object rest nested distinct each => exact .object rest nested distinct each

theorem isReadable_complete {frames : List Frame} {value : Json} (readable : AreReadable frames)
    (held : Readable (mostNested - frames.length) value) : (complete frames value).IsReadable := by
  cases readable with
  | nil => exact ⟨.nil, held⟩
  | array rest nested each =>
      exact ⟨rest, .array rest nested (List.forall_mem_cons.2 ⟨held, each⟩)⟩
  | object rest nested distinct each =>
      exact ⟨rest, .object rest nested (Record.nodup_keys_insert distinct)
        (Record.forall_mem_insert held each)⟩

theorem isReadable_begin? {frames : List Frame} {token : Token} {next : Assembler}
    (readable : AreReadable frames) (tokenReadable : token.IsReadable)
    (begun : begin? frames token = some next) : next.IsReadable := by
  cases token with
  | scalar value =>
      obtain rfl := Option.some.inj begun
      exact isReadable_complete readable (tokenReadable value rfl _)
  | beginArray | beginObject =>
      unfold begin? at begun
      split_ifs at begun with nested
      obtain rfl := Option.some.inj begun
      have least : frames.length < mostNested := by
        unfold mostNested depthLimit at *
        omega
      exact ⟨readable, least⟩
  | endArray | endObject | comma | colon => exact nomatch begun

theorem isReadable_step {before next : Assembler} {token : Token} (readable : before.IsReadable)
    (tokenReadable : token.IsReadable) (stepped : before.step token = some next) :
    next.IsReadable := by
  obtain ⟨frames, phase⟩ := before
  obtain ⟨outer, inner⟩ := readable
  -- A container that ends has one more room than its values had.
  have room (nested : frames.length < mostNested) :
      mostNested - frames.length - 1 + 1 = mostNested - frames.length := by omega
  unfold step at stepped
  dsimp only at stepped
  split at stepped
  case h_1 => exact isReadable_begin? outer tokenReadable stepped
  case h_2 =>
      obtain rfl := Option.some.inj stepped
      refine isReadable_complete outer ?_
      rw [← room inner]
      exact .array nofun
  case h_3 =>
      have opened : AreReadable (.array [] :: frames) := .array outer inner nofun
      exact isReadable_begin? opened tokenReadable stepped
  case h_4 =>
      obtain rfl := Option.some.inj stepped
      exact ⟨inner, trivial⟩
  case h_5 =>
      obtain rfl := Option.some.inj stepped
      refine isReadable_complete outer ?_
      cases inner with
      | array rest nested each =>
          rw [← room nested]
          exact .array fun item member => each item (List.mem_reverse.1 member)
  case h_6 =>
      obtain rfl := Option.some.inj stepped
      refine isReadable_complete outer ?_
      rw [← room inner]
      exact .object List.nodup_nil nofun
  case h_7 =>
      obtain rfl := Option.some.inj stepped
      exact ⟨outer, .object outer inner List.nodup_nil nofun⟩
  case h_8 =>
      obtain rfl := Option.some.inj stepped
      exact ⟨outer, inner.keyed _⟩
  case h_9 =>
      obtain rfl := Option.some.inj stepped
      exact ⟨inner, trivial⟩
  case h_10 =>
      obtain rfl := Option.some.inj stepped
      exact ⟨outer, inner⟩
  case h_11 =>
      obtain rfl := Option.some.inj stepped
      refine isReadable_complete outer ?_
      cases inner with
      | object rest nested distinct each =>
          rw [← room nested]
          exact .object distinct each
  case h_12 => exact nomatch stepped

theorem isReadable_run (before : Assembler) {next : Assembler} {tokens : List Token}
    (readable : before.IsReadable) (tokensReadable : ∀ token ∈ tokens, token.IsReadable)
    (run : tokens.foldlM step before = some next) : next.IsReadable := by
  induction tokens generalizing before with
  | nil =>
      obtain rfl := Option.some.inj run
      exact readable
  | cons token rest ih =>
      obtain ⟨first, others⟩ := List.forall_mem_cons.1 tokensReadable
      rw [List.foldlM_cons] at run
      obtain ⟨between, stepped, continued⟩ := Option.bind_eq_some_iff.1 run
      exact ih between (isReadable_step readable first stepped) others continued

end Assembler

/-- A value that was read has at most as many containers around another as are allowed. -/
theorem readable_of_read? {text : String} {value : Json} (read : read? text = some value) :
    Readable mostNested value := by
  obtain ⟨tokens, cut, assembled⟩ := Option.bind_eq_some_iff.1 read
  obtain ⟨⟨frames, phase⟩, run, finished⟩ := Option.bind_eq_some_iff.1 assembled
  have readable := Assembler.isReadable_run ⟨[], .value⟩ ⟨.nil, trivial⟩
    (isReadable_of_tokens? cut) run
  cases phase with
  | finished held =>
      obtain rfl := Option.some.inj finished
      exact readable.2
  | _ => exact nomatch finished

/-- A value that can be read is read from its text. -/
theorem read?_render_of_readable {value : Json} (readable : Readable mostNested value) :
    read? value.render = some value := by
  have assembled : value.tokens.foldlM Assembler.step ⟨[], .value⟩ = some ⟨[], .finished value⟩ :=
    @Assembler.assembles_of_readable _ _ readable [] (Nat.le_of_eq (Nat.zero_add _))
  rw [read?, tokens?_render readable, Option.bind_some, ofTokens?, assembled]
  rfl

/-- A value that was read from a text is read again from its own text. -/
theorem read?_render {text : String} {value : Json} (read : read? text = some value) :
    read? value.render = some value :=
  read?_render_of_readable (readable_of_read? read)

end Json

end EntityQuery
