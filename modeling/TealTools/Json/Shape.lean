import TealTools.Json.Fault
import TealTools.Json.Reading

/-!
# Shapes of documents

A shape says what a document has to look like.  Members of an object are
looked at in the order in which they stand, and the first fault ends the
reading; only then are missing fields noticed.  A record may also be written
as an array of its fields, unless members that it does not know belong to
other records.
-/

namespace TealTools.Json

/-- A field of a record: its name in documents, and in descriptions. -/
structure Key where
  name : String
  label : String
  deriving DecidableEq, Repr

inductive Shape where
  | anything
  | flag
  | text
  /-- A text with a grammar of its own, which says why a text is refused. -/
  | word (refusal? : List Char → Option String)
  /-- A text that is called otherwise in messages. -/
  | path
  | integer (type : String) (low high : Int)
  | real (type : String)
  /-- One of a few names. -/
  | oneOf (names : List String)
  | list (item : Shape)
  /-- An array of exactly as many items. -/
  | tuple (item : Shape) (count : Nat)
  /-- An object with texts for names. -/
  | table (refusal? : List Char → Option String) (value : Shape)
  /-- A value that may be null, or be left out of an object. -/
  | optional (inner : Shape)
  /-- A value that may be left out, but not be null. -/
  | defaulted (inner : Shape)
  /-- A flag, or a value in its place. -/
  | flagOr (inner : Shape)
  /-- The first of several shapes that fits. -/
  | either (name : String) (shapes : List Shape)
  | record (name : String) (fields : List (Key × Shape))
  /-- A record with fields of its own; other members belong to its parts. -/
  | merged (name : String) (own : List (Key × Shape))
      (parts : List (List (Key × Shape)))
  /-- A record with fields of its own; other members are kept together. -/
  | withRest (name : String) (own : List (Key × Shape)) (rest : String)
  /-- A record with fields of its own; other members have one shape. -/
  | withTable (name : String) (own : List (Key × Shape)) (value : Shape)

namespace Shape

/-- How one field of a record is read. -/
structure Reader where
  key : Key
  /-- May an object leave the field out? -/
  isOptional : Bool
  /-- May an array end before the field? -/
  isDefaulted : Bool
  read : Json → Except Fault Reading

abbrev Member := Option String × Json

/-- Reads the members that belong to a field, in the order in which they
stand, and keeps the others. -/
def takeMembers (readers : List Reader) :
    List (String × Reading) → List Member →
      Except Fault (List (String × Reading) × List Member)
  | found, [] => .ok (found, [])
  | found, (name, value) :: members =>
    match readers.find? fun reader => some reader.key.name = name with
    | none => do
      let (found, rest) ← takeMembers readers found members
      return (found, (name, value) :: rest)
    | some reader =>
      if found.any fun field => field.1 = reader.key.label then
        .error (.repeated reader.key.name)
      else do
        let reading ← reader.read value
        takeMembers readers (found ++ [(reader.key.label, reading)]) members

/-- All fields of a record, in their order. -/
def complete (readers : List Reader) (found : List (String × Reading)) :
    Except Fault (List (String × Reading)) :=
  readers.mapM fun reader =>
    match found.lookup reader.key.label with
    | some reading => .ok (reader.key.label, reading)
    | none =>
      if reader.isOptional then .ok (reader.key.label, .absent)
      else .error (.missing reader.key.name)

/-- The fields of a record that is written as an array. -/
def readItems (name : String) (count : Nat) :
    Nat → List Reader → List Json →
      Except Fault (List (String × Reading) × List Json)
  | _, [], items => .ok ([], items)
  | index, reader :: readers, [] =>
    if reader.isDefaulted then do
      let (fields, rest) ← readItems name count (index + 1) readers []
      return ((reader.key.label, .absent) :: fields, rest)
    else .error (.short index name count)
  | index, reader :: readers, item :: items => do
    let reading ← reader.read item
    let (fields, rest) ← readItems name count (index + 1) readers items
    return ((reader.key.label, reading) :: fields, rest)

/-- A record.  Arrays that are held in memory are counted otherwise. -/
def readRecord (held : Bool) (name : String) (readers : List Reader) :
    Json → Except Fault Reading
  | object members => do
    let (found, _) ← takeMembers readers [] members
    return .record name (← complete readers found)
  | array items => do
    match ← readItems name readers.length 0 readers items with
    | (fields, []) => return .record name fields
    | (_, _ :: _) =>
      if held then .error (.longHeld items.length readers.length)
      else .error (.long items.length)
  | found => .error (.type found ("struct " ++ name))

/-- The fields of the parts of a record, out of the members that are left. -/
def readParts : List (List Reader) → List Member →
    Except Fault (List (String × Reading))
  | [], _ => .ok []
  | readers :: parts, members => do
    let (found, rest) ← takeMembers readers [] members
    let fields ← complete readers found
    return fields ++ (← readParts parts rest)

/-- The fields of an object, and the members that are left. -/
def readOwn (name : String) (readers : List Reader) :
    Json → Except Fault (List (String × Reading) × List Member)
  | object members => do
    let (found, rest) ← takeMembers readers [] members
    return (← complete readers found, rest)
  | found => .error (.type found ("struct " ++ name))

/-- A name, as a text or as the only name of an object with nothing behind
it. -/
def readName (held : Bool) (names : List String) :
    Json → Except Fault Reading
  | string spelled =>
    let name := spelled.getD ""
    if names.contains name then .ok (.chosen name)
    else .error (.unknownName name names)
  | object [(name, value)] =>
    let name := name.getD ""
    if !names.contains name then .error (.unknownName name names)
    else
      match value with
      | null => .ok (.chosen name)
      | object [] =>
        if held then .ok (.chosen name) else .error (.type value "unit")
      | found => .error (.type found "unit")
  | object _ => .error .severalNames
  | found => .error (.type found "string or map")

/-- An object with texts for names. -/
def readTable (refusal? : List Char → Option String)
    (read : Json → Except Fault Reading) :
    List Member → Except Fault (List (String × Reading))
  | [] => .ok []
  | (name, value) :: members =>
    let name := name.getD ""
    match refusal? name.toList with
    | some reason => .error (.text reason)
    | none => do
      let reading ← read value
      return (name, reading) :: (← readTable refusal? read members)

/-- The first reading that succeeds. -/
def readEither (name : String) (json : Json) :
    List (Json → Except Fault Reading) → Except Fault Reading
  | [] => .error (.noShape name)
  | read :: reads =>
    match read json with
    | .ok reading => .ok reading
    | .error _ => readEither name json reads

/-- May an object leave out a field of this shape? -/
def isOptional : Shape → Bool
  | optional _ | defaulted _ => true
  | _ => false

/-- May an array end before a field of this shape? -/
def isDefaulted : Shape → Bool
  | defaulted _ => true
  | _ => false

mutual

/-- Reads a document.  The flag says whether the document is held in memory
until its shape is known. -/
def read : Shape → Bool → Json → Except Fault Reading
  | anything, _, json =>
    .ok (.document ((json.normal? maxDepth).getD json))
  | flag, _, bool value => .ok (.flag value)
  | flag, _, found => .error (.type found "a boolean")
  | text, _, string spelled => .ok (.string (spelled.getD ""))
  | text, _, found => .error (.type found "a string")
  | path, _, string spelled => .ok (.string (spelled.getD ""))
  | path, _, found => .error (.type found "path string")
  | word refusal?, _, string spelled =>
    let value := spelled.getD ""
    match refusal? value.toList with
    | some reason => .error (.text reason)
    | none => .ok (.string value)
  | word _, _, found => .error (.type found "a string")
  | integer type low high, _, int value =>
    if low ≤ value ∧ value ≤ high then .ok (.number value)
    else .error (.range value type)
  | integer type _ _, _, found => .error (.type found type)
  | real _, _, int value => .ok (.number value)
  | real _, _, decimal literal => .ok (.document (.decimal literal))
  | real type, _, found => .error (.type found type)
  | oneOf names, held, json => readName held names json
  | list item, held, array values => do
    return .items (← values.mapM (read item held))
  | list _, _, found => .error (.type found "a sequence")
  | tuple item count, held, array values =>
    if values.length = count then do
      return .items (← values.mapM (read item held))
    else .error (.longHeld values.length count)
  | tuple _ _, _, found => .error (.type found "an array")
  | table refusal? value, held, object members => do
    return .record "" (← readTable refusal? (read value held) members)
  | table _ _, _, found => .error (.type found "a map")
  | optional _, _, null => .ok .absent
  | optional inner, held, json => do return .given (← read inner held json)
  | defaulted inner, held, json => read inner held json
  | flagOr _, _, bool value => .ok (.flag value)
  | flagOr inner, held, json => read inner held json
  | either name shapes, _, json => readEither name json (readAll shapes)
  | record name fields, held, json =>
    readRecord held name (readers held fields) json
  | merged name own parts, held, json => do
    let (fields, rest) ← readOwn name (readers held own) json
    return .record name (fields ++ (← readParts (partReaders parts) rest))
  | withRest name own rest, held, json => do
    let (fields, members) ← readOwn name (readers held own) json
    let others := ((object members).normal? maxDepth).getD (object members)
    return .record name (fields ++ [(rest, .given (.document others))])
  | withTable name own value, held, json => do
    let (fields, members) ← readOwn name (readers held own) json
    let others ← readTable (fun _ => none) (read value true) members
    return .record name (fields ++ others)

/-- The readers of shapes between which a document decides. -/
def readAll : List Shape → List (Json → Except Fault Reading)
  | [] => []
  | shape :: shapes => read shape true :: readAll shapes

/-- The readers of the fields of a record. -/
def readers (held : Bool) : List (Key × Shape) → List Reader
  | [] => []
  | (key, shape) :: fields =>
    { key, isOptional := shape.isOptional, isDefaulted := shape.isDefaulted
      read := read shape held } :: readers held fields

/-- The readers of the parts of a record, whose members are held. -/
def partReaders : List (List (Key × Shape)) → List (List Reader)
  | [] => []
  | fields :: parts => readers true fields :: partReaders parts

end

end Shape

end TealTools.Json
