import TealTools.Json.Basic
import TealTools.Text.Numeral

/-!
# Reading JSON

The strict grammar: no comments, no trailing commas, no byte order mark, and
nothing but white space around the document.  Nesting is not limited here;
whoever takes a document apart decides how deep it may be.
-/

namespace TealTools.Json

def isBlank (c : Char) : Bool :=
  c = ' ' || c = '\t' || c = '\n' || c = '\r'

def skipBlanks (text : List Char) : List Char :=
  text.dropWhile isBlank

/-- One character of a string, or half of a surrogate pair. -/
inductive StringUnit where
  | char (c : Char)
  | half (code : Nat)

/-- The unit of a code that was written in hexadecimal. -/
def StringUnit.ofCode (code : Nat) : StringUnit :=
  if 0xD800 ≤ code ∧ code ≤ 0xDFFF then half code else char (Char.ofNat code)

/-- The character that a letter stands for behind a backslash. -/
def escaped? (c : Char) : Option Char :=
  if c = '"' then some '"'
  else if c = '\\' then some '\\'
  else if c = '/' then some '/'
  else if c = 'b' then some '\x08'
  else if c = 'f' then some '\x0C'
  else if c = 'n' then some '\n'
  else if c = 'r' then some '\r'
  else if c = 't' then some '\t'
  else none

/-- The code of four hexadecimal digits. -/
def code? (digits : List Char) : Option Nat :=
  Text.digitsValue? 16 0 digits

/-- Reads a string behind its opening quote, up to the text behind its closing
one. -/
def readUnits : List Char → Option (List StringUnit × List Char)
  | [] => none
  | '"' :: rest => some ([], rest)
  | '\\' :: 'u' :: a :: b :: c :: d :: rest => do
    let code ← code? [a, b, c, d]
    let (units, rest) ← readUnits rest
    return (StringUnit.ofCode code :: units, rest)
  | '\\' :: c :: rest => do
    let c ← escaped? c
    let (units, rest) ← readUnits rest
    return (.char c :: units, rest)
  | c :: rest =>
    if c = '\\' ∨ c.toNat < 0x20 then none
    else do
      let (units, rest) ← readUnits rest
      return (.char c :: units, rest)

/-- The text of the units, unless half a pair stands alone. -/
def joinUnits : List StringUnit → Option (List Char)
  | [] => some []
  | .char c :: rest => do return c :: (← joinUnits rest)
  | .half high :: .half low :: rest =>
    if high < 0xDC00 ∧ 0xDC00 ≤ low then do
      let code := 0x10000 + (high - 0xD800) * 0x400 + (low - 0xDC00)
      return Char.ofNat code :: (← joinUnits rest)
    else none
  | .half _ :: _ => none

/-- Reads a string behind its opening quote. -/
def readString (text : List Char) : Option (Option String × List Char) := do
  let (units, rest) ← readUnits text
  return ((joinUnits units).map String.ofList, rest)

def isDigit (c : Char) : Bool := '0' ≤ c && c ≤ '9'

/-- Splits off the leading digits. -/
def readDigits (text : List Char) : List Nat × List Char :=
  ((text.takeWhile isDigit).map fun c => c.toNat - '0'.toNat,
    text.dropWhile isDigit)

def ofDigits (digits : List Nat) : Nat :=
  digits.foldl (fun value digit => value * 10 + digit) 0

/-- The digits in front of the point: a lone zero, or no leading zero. -/
def readWhole (text : List Char) : Option (Nat × List Char) :=
  match readDigits text with
  | ([], _) => none
  | (0 :: _ :: _, _) => none
  | (digits, rest) => some (ofDigits digits, rest)

/-- The digits behind a point, if there is one. -/
def readFraction : List Char → Option (Option (List Nat) × List Char)
  | '.' :: text =>
    match readDigits text with
    | ([], _) => none
    | (digits, rest) => some (some digits, rest)
  | text => some (none, text)

/-- The digits of an exponent. -/
def readMagnitude (sign : Int) (text : List Char) :
    Option (Option Int × List Char) :=
  match readDigits text with
  | ([], _) => none
  | (digits, rest) => some (some (sign * (ofDigits digits : Int)), rest)

/-- The exponent, if there is one. -/
def readExponent : List Char → Option (Option Int × List Char)
  | c :: text =>
    if c = 'e' ∨ c = 'E' then
      match text with
      | '+' :: text => readMagnitude 1 text
      | '-' :: text => readMagnitude (-1) text
      | text => readMagnitude 1 text
    else some (none, c :: text)
  | [] => some (none, [])

/-- A number whose sign has been read.  Minus zero is no integer. -/
def readUnsigned (negative : Bool) (text : List Char) :
    Option (Json × List Char) := do
  let (whole, text) ← readWhole text
  let (fraction, text) ← readFraction text
  let (exponent, text) ← readExponent text
  if fraction.isNone && exponent.isNone && !(negative && whole = 0) then
    return (int (if negative then -(whole : Int) else whole), text)
  else
    return (decimal
      { negative, whole, fraction := fraction.getD [],
        exponent := exponent.getD 0 }, text)

/-- A number. -/
def readNumber : List Char → Option (Json × List Char)
  | '-' :: text => readUnsigned true text
  | text => readUnsigned false text

mutual

/-- A value at the head of the text.  The first argument bounds the number of
steps. -/
def readValue : Nat → List Char → Option (Json × List Char)
  | 0, _ => none
  | fuel + 1, text =>
    match skipBlanks text with
    | 'n' :: 'u' :: 'l' :: 'l' :: rest => some (null, rest)
    | 't' :: 'r' :: 'u' :: 'e' :: rest => some (bool true, rest)
    | 'f' :: 'a' :: 'l' :: 's' :: 'e' :: rest => some (bool false, rest)
    | '"' :: rest => do
      let (text, rest) ← readString rest
      return (string text, rest)
    | '[' :: rest =>
      match skipBlanks rest with
      | ']' :: rest => some (array [], rest)
      | _ => do
        let (items, rest) ← readItems fuel rest
        return (array items, rest)
    | '\x7b' :: rest =>
      match skipBlanks rest with
      | '\x7d' :: rest => some (object [], rest)
      | _ => do
        let (members, rest) ← readMembers fuel rest
        return (object members, rest)
    | text => readNumber text

/-- The items of an array and its closing bracket. -/
def readItems : Nat → List Char → Option (List Json × List Char)
  | 0, _ => none
  | fuel + 1, text => do
    let (item, rest) ← readValue fuel text
    match skipBlanks rest with
    | ',' :: rest =>
      let (items, rest) ← readItems fuel rest
      return (item :: items, rest)
    | ']' :: rest => return ([item], rest)
    | _ => none

/-- The members of an object and its closing brace. -/
def readMembers :
    Nat → List Char → Option (List (Option String × Json) × List Char)
  | 0, _ => none
  | fuel + 1, text =>
    match skipBlanks text with
    | '"' :: rest => do
      let (name, rest) ← readString rest
      match skipBlanks rest with
      | ':' :: rest =>
        let (value, rest) ← readValue fuel rest
        match skipBlanks rest with
        | ',' :: rest =>
          let (members, rest) ← readMembers fuel rest
          return ((name, value) :: members, rest)
        | '\x7d' :: rest => return ([(name, value)], rest)
        | _ => none
      | _ => none
    | _ => none

end

/-- The document at the front of a text, and what stands behind it. -/
def parseFront? (text : List Char) : Option (Json × List Char) :=
  readValue (2 * text.length + 1) text

/-- The document that a text holds. -/
def parse? (text : List Char) : Option Json := do
  let (json, rest) ← parseFront? text
  if (skipBlanks rest).isEmpty then some json else none

end TealTools.Json
