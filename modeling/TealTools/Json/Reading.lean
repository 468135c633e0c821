import TealTools.Json.Decode
import TealTools.Text.Quoted

/-!
# What was read from a document

A reading holds what a document says, with all fields of each record.  It can
be described in a message, and be written as a document again.
-/

namespace TealTools.Json

/-- What a document says under some shape. -/
inductive Reading where
  /-- A document of any shape. -/
  | document (json : Json)
  | absent
  | given (inner : Reading)
  | flag (value : Bool)
  | number (value : Int)
  | string (value : String)
  /-- One of the names that a shape knows. -/
  | chosen (value : String)
  | items (readings : List Reading)
  | record (name : String) (fields : List (String × Reading))
  deriving Repr, Inhabited

namespace Reading

/-- The reading of a field. -/
def field? (reading : Reading) (name : String) : Option Reading :=
  match reading with
  | record _ fields => fields.lookup name
  | _ => none

/-- What is in a field that may be absent. -/
def inner : Reading → Option Reading
  | absent => none
  | given inner => some inner
  | reading => some reading

def number? : Reading → Option Int
  | number value => some value
  | _ => none

def text? : Reading → Option String
  | string value => some value
  | _ => none

def flag? : Reading → Option Bool
  | flag value => some value
  | _ => none

def items? : Reading → Option (List Reading)
  | items readings => some readings
  | _ => none

def document? : Reading → Option Json
  | document json => some json
  | _ => none

/-- A field that is given. -/
def givenField? (reading : Reading) (name : String) : Option Reading :=
  (reading.field? name).bind inner

/-! ## Descriptions -/

/-- Parts between brackets, with a comma between them. -/
def listed (parts : List String) : String :=
  "[" ++ ", ".intercalate parts ++ "]"

mutual

/-- A document as a message shows it. -/
def describeJson : Json → String
  | .null => "Null"
  | .bool value => s!"Bool({value})"
  | .int value => s!"Number({value})"
  | .decimal literal =>
    "Number(" ++ String.ofList (literal.text?.getD []) ++ ")"
  | .string value => "String(" ++ Text.quoted (value.getD "") ++ ")"
  | .array values => "Array " ++ listed (describeItems values)
  | .object members =>
    "Object \x7b" ++ ", ".intercalate (describeMembers members) ++ "\x7d"

def describeItems : List Json → List String
  | [] => []
  | value :: values => describeJson value :: describeItems values

def describeMembers : List (Option String × Json) → List String
  | [] => []
  | (name, value) :: members =>
    (Text.quoted (name.getD "") ++ ": " ++ describeJson value) ::
      describeMembers members

end

/-- A name with a capital letter. -/
def capitalized (name : String) : String :=
  match name.toList with
  | [] => ""
  | c :: rest => String.ofList (c.toUpper :: rest)

mutual

/-- The reading as a message shows it. -/
def describe : Reading → String
  | document json => describeJson json
  | absent => "None"
  | given reading => "Some(" ++ describe reading ++ ")"
  | flag value => toString value
  | number value => toString value
  | string value => Text.quoted value
  | chosen value => capitalized value
  | items readings => listed (describeAll readings)
  | record name fields =>
    name ++ " \x7b " ++ ", ".intercalate (describeFields fields) ++ " \x7d"

def describeAll : List Reading → List String
  | [] => []
  | reading :: readings => describe reading :: describeAll readings

def describeFields : List (String × Reading) → List String
  | [] => []
  | (name, reading) :: fields =>
    (name ++ ": " ++ describe reading) :: describeFields fields

end

/-! ## Documents -/

mutual

/-- The reading as a document, in which absent fields are left out. -/
def toJson : Reading → Json
  | document json => json
  | absent => .null
  | given reading => toJson reading
  | flag value => .bool value
  | number value => .int value
  | string value => .str value
  | chosen value => .str value
  | items readings => .array (toJsonAll readings)
  | record _ fields => .obj (toJsonFields fields)

def toJsonAll : List Reading → List Json
  | [] => []
  | reading :: readings => toJson reading :: toJsonAll readings

def toJsonFields : List (String × Reading) → List (String × Json)
  | [] => []
  | (_, absent) :: fields => toJsonFields fields
  | (name, reading) :: fields => (name, toJson reading) :: toJsonFields fields

end

end Reading

end TealTools.Json
