import TealTools.Text.Utf8

/-!
# The debug console

Lines for the console wait until they are received.  Once nobody receives
them any more they are dropped, and writing goes on as if nothing had
happened.
-/

namespace TealTools.Debugger

structure Console where
  waiting : List String
  /-- Does anybody still receive lines? -/
  isOpen : Bool
  deriving DecidableEq, Repr

namespace Console

def empty : Console := { waiting := [], isOpen := true }

/-- Takes all bytes of a line, and counts them. -/
def write (console : Console) (bytes : Bytes) : Nat × Console :=
  (bytes.length,
    if console.isOpen then
      { console with
        waiting := console.waiting ++ [String.ofList (Text.ofUtf8 bytes)] }
    else console)

/-- Receives every line that waits. -/
def receive (console : Console) : List String × Console :=
  (console.waiting, { console with waiting := [] })

/-- Stops receiving. -/
def close (_ : Console) : Console :=
  { waiting := [], isOpen := false }

end Console

end TealTools.Debugger
