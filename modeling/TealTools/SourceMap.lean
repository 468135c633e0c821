/-!
# Source maps

A source map lists where each instruction begins and the source line it comes
from, in the order of the program.
-/

namespace TealTools

structure SourceMap where
  /-- Program counter and line of every instruction. -/
  entries : List (Nat × Nat)
  deriving DecidableEq, Repr

namespace SourceMap

def empty : SourceMap := { entries := [] }

/-- The line of the instruction that begins at a program counter or holds
it. -/
def lineForPc? (map : SourceMap) (pc : Nat) : Option Nat :=
  ((map.entries.takeWhile fun entry => entry.1 ≤ pc).getLast?).map (·.2)

/-- Where the instructions of a line begin. -/
def pcsForLine (map : SourceMap) (line : Nat) : List Nat :=
  (map.entries.filter fun entry => entry.2 = line).map (·.1)

end SourceMap

end TealTools
