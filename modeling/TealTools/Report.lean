/-!
# Reports

The program ends with a report if it cannot start or goes on.  The exit code
tells in which phase that happened.
-/

namespace TealTools

structure Report where
  message : String
  /-- The kind of failure. -/
  code : String
  help : Option String
  exitCode : Int
  deriving DecidableEq, Repr

/-- The status that the system sees, of which only the last eight bits
count. -/
def Report.status (report : Report) : Nat :=
  (report.exitCode % 256).toNat

end TealTools
