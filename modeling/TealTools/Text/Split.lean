/-!
# Splitting at a separator

A sequence is cut at every occurrence of a separator.  There is one piece more
than there are separators, so an empty sequence has one empty piece.
-/

namespace TealTools.Text

/-- The pieces of a sequence between its separators. -/
def split {α : Type} [DecidableEq α] (separator : α) :
    List α → List (List α)
  | [] => [[]]
  | item :: rest =>
    if item = separator then [] :: split separator rest
    else
      match split separator rest with
      | [] => [[item]]
      | piece :: more => (item :: piece) :: more

end TealTools.Text
