import TealTools.Text.Utf8

/-!
# Framing

Whatever is sent to an editor stands behind a header that gives its length in
bytes, and an empty line.
-/

namespace TealTools.Framing

/-- The header of a body of the given length. -/
def header (length : Nat) : Bytes :=
  Text.utf8 s!"Content-Length: {length}\r\n\r\n".toList

/-- A body behind its header. -/
def framed (body : Bytes) : Bytes :=
  header body.length ++ body

end TealTools.Framing
