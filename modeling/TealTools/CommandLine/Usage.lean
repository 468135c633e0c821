import TealTools.Text.Utf8

/-!
# Reading a command line

A command line consists of options, each with a value, and at most one
command.  Options of the program itself and a command exclude each other.  An
option is settled when the next one begins, so that a fault of its value shows
only then.
-/

namespace TealTools.CommandLine

/-- Why the program does not run. -/
inductive Refusal where
  | help
  | version
  | invalidValue
  | tooManyValues
  | invalidText
  | unknownArgument
  | unknownCommand
  | conflict
  deriving DecidableEq, Repr

namespace Refusal

/-- Asking for help or for the version is no mistake. -/
def isMistake : Refusal → Bool
  | help | version => false
  | _ => true

def status (refusal : Refusal) : Nat :=
  if refusal.isMistake then 2 else 0

end Refusal

/-- What the value of an option is. -/
inductive ValueKind where
  | text
  | path
  deriving DecidableEq, Repr

/-- What may stand on a command line. -/
structure Usage where
  options : List (String × ValueKind)
  commands : List String
  hasVersion : Bool
  deriving DecidableEq, Repr

/-- The options that have been settled, by their names. -/
abbrev Settled := List (String × Bytes)

/-- How far a command line has been read. -/
structure Progress where
  settled : Settled
  /-- The last option, and its value once that has been read. -/
  pending : Option (String × Option Bytes)
  /-- Has any option been found? -/
  hasOption : Bool
  /-- Has a bare double dash been read? -/
  isFree : Bool
  deriving DecidableEq, Repr

namespace Progress

def empty : Progress :=
  { settled := [], pending := none, hasOption := false, isFree := false }

/-- Does an option wait for its value? -/
def awaitsValue (progress : Progress) : Bool :=
  match progress.pending with
  | some (_, none) => true
  | _ => false

end Progress

namespace Usage

/-- Adds an option with its value.  Every option may be given once, a text has
to be well formed, and a path may not be empty. -/
def settleOption (usage : Usage) (settled : Settled) (name : String)
    (value : Bytes) : Except Refusal Settled :=
  if (settled.lookup name).isSome then .error .conflict
  else
    match usage.options.lookup name with
    | some .text =>
      if (Text.ofUtf8? value).isNone then .error .invalidText
      else .ok (settled ++ [(name, value)])
    | some .path =>
      if value.isEmpty then .error .invalidValue
      else .ok (settled ++ [(name, value)])
    | none => .error .unknownArgument

/-- Settles the last option. -/
def settle (usage : Usage) (progress : Progress) :
    Except Refusal Progress :=
  match progress.pending with
  | none => .ok progress
  | some (_, none) => .error .invalidValue
  | some (name, some value) => do
    let settled ← usage.settleOption progress.settled name value
    return { progress with settled, pending := none }

/-- A word that is no value of an option. -/
def wordRefusal (usage : Usage) (progress : Progress) (word : Bytes) :
    Refusal :=
  let isCommand :=
    usage.commands.any fun name => Text.utf8 name.toList = word
  if usage.commands.isEmpty then .unknownArgument
  else if progress.hasOption then .conflict
  else if progress.isFree ∧ isCommand then .unknownArgument
  else .unknownCommand

/-- What a flag without a value asks for. -/
def flagRefusal? (usage : Usage) (name : String) : Option Refusal :=
  if name = "help" ∨ name = "h" then some .help
  else if usage.hasVersion ∧ (name = "version" ∨ name = "V") then
    some .version
  else none

/-- Reads an argument with two dashes, given what stands behind them. -/
def long (usage : Usage) (progress : Progress) (text : Bytes) :
    Except Refusal Progress :=
  let name := text.takeWhile (· ≠ 0x3D)
  let value := text.drop (name.length + 1)
  let hasValue := name.length < text.length
  match (Text.ofUtf8? name).map String.ofList with
  | none => .error .unknownArgument
  | some name =>
    match if name.length > 1 then usage.flagRefusal? name else none with
    | some refusal =>
      if hasValue then .error .tooManyValues
      else do
        let _ ← usage.settle progress
        .error refusal
    | none =>
      if (usage.options.lookup name).isNone then .error .unknownArgument
      else do
        let progress ← usage.settle progress
        if hasValue then
          let settled ← usage.settleOption progress.settled name value
          return { progress with settled, hasOption := true }
        else
          return { progress with
            pending := some (name, none), hasOption := true }

/-- Reads an argument with one dash, given what stands behind it.  The first
letter decides. -/
def short (usage : Usage) (progress : Progress) (text : Bytes) :
    Except Refusal Progress :=
  let letter := (Text.readChars text).head?.bind id
  match letter.bind fun c => usage.flagRefusal? (String.ofList [c]) with
  | some refusal => do
    let _ ← usage.settle progress
    .error refusal
  | none => .error .unknownArgument

/-- Reads the next argument. -/
def step (usage : Usage) (progress : Progress) (argument : Bytes) :
    Except Refusal Progress :=
  let word : Except Refusal Progress :=
    match progress.pending with
    | some (name, none) =>
      .ok { progress with pending := some (name, some argument) }
    | _ => .error (usage.wordRefusal progress argument)
  if progress.isFree then .error (usage.wordRefusal progress argument)
  else
    match argument with
    | [0x2D, 0x2D] => .ok { progress with isFree := true }
    | 0x2D :: 0x2D :: text => usage.long progress text
    | [0x2D] => word
    | 0x2D :: text => usage.short progress text
    | _ => word

/-- The options of a command line, and its command with the arguments behind
it. -/
def read (usage : Usage) (progress : Progress) :
    List Bytes → Except Refusal (Settled × Option (String × List Bytes))
  | [] => do return ((← usage.settle progress).settled, none)
  | argument :: more =>
    let command := usage.commands.find? fun name =>
      Text.utf8 name.toList = argument
    let mayBeCommand :=
      !progress.isFree && !progress.awaitsValue && !progress.hasOption
    match if mayBeCommand then command else none with
    | some command => .ok (progress.settled, some (command, more))
    | none =>
      match usage.step progress argument with
      | .ok progress => usage.read progress more
      | .error refusal => .error refusal

end Usage

end TealTools.CommandLine
