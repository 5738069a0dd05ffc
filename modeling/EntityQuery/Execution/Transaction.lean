import EntityQuery.Execution.Session

/-!
# Transactions

A block that runs between BEGIN and COMMIT, or ROLLBACK if it fails.  The error of the block is kept
if the rollback fails as well.
-/

namespace EntityQuery.Execution

/-- End a transaction whose block has ended in a value or an error. -/
def finish {α : Type} : Except Error α → Execution α
  | .ok value => do
      perform "COMMIT" []
      return value
  | .error first => do
      match ← (perform "ROLLBACK" []).attempt with
      | .ok () => throw first
      | .error second =>
          log (.rollbackFailed first second)
          throw (.rollback first second)

def transaction {α : Type} (block : Execution α) : Execution α := do
  perform "BEGIN" []
  finish (← block.attempt)

end EntityQuery.Execution
