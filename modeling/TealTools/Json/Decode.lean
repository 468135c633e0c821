import TealTools.Json.Basic

/-!
# Taking documents apart

A record is written as an object, in which unknown names are ignored and a
known name may stand only once, or as an array of its fields in order.  What
is read may be nested only so deep; what is ignored may be nested at will.
-/

namespace TealTools.Json

/-- How deep arrays and objects may be nested. -/
def maxDepth : Nat := 127

/-- How a field of a record is given. -/
inductive Given where
  | value (json : Json)
  /-- The record is an object without the field. -/
  | omitted
  /-- The record is an array that ends before the field. -/
  | cutOff

/-- The values behind a name. -/
def valuesOf (name : String) (members : List (Option String × Json)) :
    List Json :=
  members.filterMap fun member =>
    if member.1 = some name then some member.2 else none

/-- A field that an object gives at most once. -/
def member? (members : List (Option String × Json)) (name : String) :
    Option Given :=
  match valuesOf name members with
  | [] => some .omitted
  | [json] => some (.value json)
  | _ => none

/-- The fields of an array, which may not have more items than fields. -/
def positional? : List String → List Json → Option (List Given)
  | [], [] => some []
  | [], _ :: _ => none
  | _ :: names, [] => (positional? names []).map (.cutOff :: ·)
  | _ :: names, item :: items =>
    (positional? names items).map (.value item :: ·)

/-- The fields of a record, in the order of their names. -/
def fields? (names : List String) : Json → Option (List Given)
  | object members =>
    if members.all fun member => member.1.isSome then
      names.mapM (member? members)
    else none
  | array items => positional? names items
  | _ => none

namespace Given

variable {α : Type}

/-- A field that has to be given. -/
def required (decode : Json → Option α) : Given → Option α
  | value json => decode json
  | omitted | cutOff => none

/-- A field with a value of its own for when it is not given. -/
def withDefault (default : α) (decode : Json → Option α) : Given → Option α
  | value json => decode json
  | omitted | cutOff => some default

/-- A field that may be null. -/
def nullable (decode : Json → Option α) : Given → Option (Option α)
  | value null => some none
  | value json => (decode json).map some
  | omitted | cutOff => some none

/-- A field that may be null, or be left out of an object only. -/
def optional (decode : Json → Option α) : Given → Option (Option α)
  | cutOff => none
  | given => given.nullable decode

end Given

def string? : Json → Option String
  | string text => text
  | _ => none

def bool? : Json → Option Bool
  | bool value => some value
  | _ => none

/-- An integer from `low` to `high`. -/
def intIn? (low high : Int) : Json → Option Int
  | int value => if low ≤ value ∧ value ≤ high then some value else none
  | _ => none

def uint64? (json : Json) : Option UInt64 :=
  (json.intIn? 0 (UInt64.size - 1)).map fun value => UInt64.ofNat value.toNat

def uint8? (json : Json) : Option UInt8 :=
  (json.intIn? 0 255).map fun value => UInt8.ofNat value.toNat

/-- The signed integers of 64 bits. -/
def int64? (json : Json) : Option Int :=
  json.intIn? Int64.minValue.toInt Int64.maxValue.toInt

/-- An array, each item of which is read one level further down. -/
def listOf? {α : Type} (decode : Nat → Json → Option α) :
    Nat → Json → Option (List α)
  | depth + 1, array items => items.mapM (decode depth)
  | _, _ => none

/-- Puts a member in its place by name, or in the place of the one with the
same name. -/
def putMember (name : String) (value : Json) :
    List (String × Json) → List (String × Json)
  | [] => [(name, value)]
  | (other, kept) :: members =>
    if name < other then (name, value) :: (other, kept) :: members
    else if name = other then (name, value) :: members
    else (other, kept) :: putMember name value members

/-- Orders members by name, and keeps the last of those with one name. -/
def orderMembers (members : List (String × Json)) : List (String × Json) :=
  members.foldl (fun ordered (name, value) => putMember name value ordered) []

/-- A number as it is kept: an integer that is too large is no integer. -/
def normalNumber? (literal : DecimalLiteral) : Option Json :=
  if literal.toBinary64?.isSome then some (decimal literal) else none

/-- The largest and smallest integers that are kept as such. -/
def normalInt? (value : Int) : Option Json :=
  if Int64.minValue.toInt ≤ value ∧ value < UInt64.size then some (int value)
  else
    normalNumber?
      { negative := value < 0, whole := value.natAbs, fraction := [],
        exponent := 0 }

mutual

/-- A document of any shape: every string spells a text, every number is in
range, names are in order and not repeated, and the nesting is not too
deep. -/
def normal? (depth : Nat) : Json → Option Json
  | null => some null
  | bool value => some (bool value)
  | int value => normalInt? value
  | decimal literal => normalNumber? literal
  | string text => text.map str
  | array items =>
    match depth with
    | 0 => none
    | depth + 1 => do return array (← normalItems? depth items)
  | object members =>
    match depth with
    | 0 => none
    | depth + 1 => do
      return obj (orderMembers (← normalMembers? depth members))

def normalItems? (depth : Nat) : List Json → Option (List Json)
  | [] => some []
  | item :: items => do
    return (← normal? depth item) :: (← normalItems? depth items)

def normalMembers? (depth : Nat) :
    List (Option String × Json) → Option (List (String × Json))
  | [] => some []
  | (name, value) :: members => do
    return (← name, ← normal? depth value) ::
      (← normalMembers? depth members)

end

end TealTools.Json
