import EntityQuery.Postgres.Server
import EntityQuery.Proofs.Placeholder.Pieces
import EntityQuery.Statement

/-!
# What the server is sent

A statement reaches the server as a text with numbered placeholders and a parameter for each of its
values.  If the statement is aligned, the numbers are those of the parameters.
-/

namespace EntityQuery.Postgres

/-- A message that carries a statement: its text with `$1`, `$2`, … in the places of the
placeholders, as many as there are values, or as many parameters. -/
def Message.Carries (statement : Statement) : Message → Prop
  | .simple _ => False
  | .parse sql => ∃ first later,
      Placeholder.IsNumbering statement.sql sql statement.values.length first later
  | .bind parameters => parameters.length = statement.values.length

theorem encodeParameters_length {entries : List (ServerType × Json)} {position : Nat}
    {parameters : List (Option Bytes)}
    (encoded : encodeParameters position entries = .ok parameters) :
    parameters.length = entries.length := by
  induction entries generalizing position parameters with
  | nil =>
      cases encoded
      rfl
  | cons entry rest ih =>
      obtain ⟨type, value⟩ := entry
      unfold encodeParameters at encoded
      split at encoded
      case h_1 head _ =>
          cases later : encodeParameters (position + 1) rest with
          | error fault =>
              rw [later] at encoded
              nomatch encoded
          | ok tail =>
              rw [later] at encoded
              cases encoded
              rw [List.length_cons, List.length_cons, ih later]
      case h_2 => nomatch encoded

theorem bindValues_length {types : List ServerType} {values : List Json}
    {parameters : List (Option Bytes)} (bound : bindValues types values = .ok parameters) :
    parameters.length = values.length := by
  unfold bindValues at bound
  split at bound
  case isTrue same => rw [encodeParameters_length bound, List.length_zip, same, Nat.min_self]
  case isFalse => nomatch bound

/-- Every message for an aligned statement carries it. -/
theorem Server.carries_of_query (server : Server) {statement : Statement}
    (aligned : statement.placeholderCount = statement.values.length) :
    ∀ message ∈ (server.query statement.sql statement.values).1, message.Carries statement := by
  have prepared : (Message.parse (Placeholder.numbered statement.sql)).Carries statement := by
    have numbering := Placeholder.isNumbering_numbered statement.sql
    rwa [← Statement.placeholderCount, aligned] at numbering
  unfold query
  split
  · simp
  · cases bound : bindValues server.parameters statement.values with
    | ok parameters => simpa using ⟨prepared, bindValues_length bound⟩
    | error error => simpa using prepared

end EntityQuery.Postgres
