import TealTools.Text.Utf8

/-!
# Flags with a single dash

The flags of the program may also be written with a single dash.  They are
brought to the form with two dashes before anything else; values of flags and
whatever follows a bare double dash are left as they are.
-/

namespace TealTools.CommandLine

/-- A flag as it is written. -/
structure Flag where
  singleDash : Bool
  /-- Does a value follow behind an equals sign? -/
  hasValue : Bool
  deriving DecidableEq, Repr

namespace Flag

/-- The flags that may be written with a single dash. -/
def names : List (List Char) :=
  ["net", "addr", "debug", "config", "algod", "algod-token",
   "replay"].map String.toList

/-- A known flag without its dashes. -/
def known? (singleDash : Bool) (text : List Char) : Option Flag :=
  let name := text.takeWhile (· ≠ '=')
  if names.contains name then
    some { singleDash, hasValue := name.length < text.length }
  else none

/-- The known flag that an argument is, if it is one. -/
def ofArgument? (argument : Bytes) : Option Flag :=
  match Text.ofUtf8? argument with
  | some ('-' :: '-' :: text) => known? false text
  | some ('-' :: text) => known? true text
  | _ => none

end Flag

/-- What an argument is, judged by those before it. -/
inductive Position where
  | flag
  /-- The value of the flag right before it. -/
  | value
  /-- Behind a bare double dash. -/
  | free
  deriving DecidableEq, Repr

def dash : UInt8 := 0x2D

/-- What the next argument is, behind one in flag position. -/
def Position.behind (argument : Bytes) : Position :=
  if argument = [dash, dash] then .free
  else
    match Flag.ofArgument? argument with
    | some found => if found.hasValue then .flag else .value
    | none => .flag

/-- An argument in flag position with both dashes. -/
def spelledOut (argument : Bytes) : Bytes :=
  match Flag.ofArgument? argument with
  | some flag => if flag.singleDash then dash :: argument else argument
  | none => argument

/-- Brings flags to the form with two dashes, from a position on. -/
def normalizeFrom : Position → List Bytes → List Bytes
  | _, [] => []
  | .free, arguments => arguments
  | .value, argument :: more => argument :: normalizeFrom .flag more
  | .flag, argument :: more =>
    spelledOut argument :: normalizeFrom (.behind argument) more

/-- Brings flags to the form with two dashes. -/
def normalize (arguments : List Bytes) : List Bytes :=
  normalizeFrom .flag arguments

end TealTools.CommandLine
