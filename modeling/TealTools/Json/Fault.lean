import TealTools.Json.Basic
import TealTools.Text.Quoted

/-!
# Documents of the wrong shape

A document that does not have the expected shape is refused with a message
that names the first fault that was found.
-/

namespace TealTools.Json

/-- What kind of value a document is. -/
def describe : Json → String
  | null => "null"
  | bool value => s!"boolean `{value}`"
  | int value => s!"integer `{value}`"
  | decimal literal =>
    "floating point `" ++ String.ofList (literal.text?.getD []) ++ "`"
  | string text => "string " ++ Text.quoted (text.getD "")
  | array _ => "sequence"
  | object _ => "map"

/-- Why a document does not have the expected shape. -/
inductive Fault where
  /-- A value of another type. -/
  | type (found : Json) (expected : String)
  /-- An integer outside the range of its type. -/
  | range (found : Int) (expected : String)
  | missing (field : String)
  | repeated (field : String)
  /-- An array that ends before all fields of the record are given. -/
  | short (count : Nat) (record : String) (fields : Nat)
  /-- An array with more items than the record has fields. -/
  | long (count : Nat)
  /-- The same where the array is held in memory until it is needed. -/
  | longHeld (count fields : Nat)
  | unknownName (name : String) (known : List String)
  /-- A name that is written as an object with any number of members but
  one. -/
  | severalNames
  /-- None of the shapes that are allowed here. -/
  | noShape (name : String)
  /-- A text that is not well formed. -/
  | text (reason : String)

namespace Fault

/-- A number of things. -/
def counted (count : Nat) : String :=
  if count = 1 then "1 element" else s!"{count} elements"

/-- The names that are known, as a message lists them. -/
def choices : List String → String
  | [] => "there are no variants"
  | [name] => s!"expected `{name}`"
  | [first, second] => s!"expected `{first}` or `{second}`"
  | names =>
    "expected one of " ++
      ", ".intercalate (names.map fun name => "`" ++ name ++ "`")

def message : Fault → String
  | type found expected =>
    "invalid type: " ++ found.describe ++ ", expected " ++ expected
  | range found expected =>
    s!"invalid value: integer `{found}`, expected " ++ expected
  | missing field => s!"missing field `{field}`"
  | repeated field => s!"duplicate field `{field}`"
  | short count record fields =>
    s!"invalid length {count}, expected struct {record} with " ++
      counted fields
  | long count => s!"invalid length {count}, expected fewer elements in array"
  | longHeld count fields =>
    s!"invalid length {count}, expected " ++ counted fields ++ " in sequence"
  | unknownName name known =>
    s!"unknown variant `{name}`, " ++ choices known
  | severalNames => "invalid value: map, expected map with a single key"
  | noShape name =>
    "data did not match any variant of untagged enum " ++ name
  | text reason => reason

end Fault

end TealTools.Json
