import TealTools.Text.Quoted

/-!
# What an assembly reports

A fault is one cause for which a source line is refused.  Warnings leave the
program usable, and a failure says why there is no program at all.
-/

namespace TealTools

/-- A value found at a column, counted in characters from one. -/
structure At (α : Type) where
  column : Nat
  value : α
  deriving DecidableEq, Repr

namespace Assembly

inductive Fault where
  | unknownOpcode (name : String)
  | immediateCount (operation expected : String)
  | invalidInteger (text : String)
  | outOfRange (value : Int) (max : Nat)
  | signedOutOfRange (value min max : Int)
  | invalidByteConstant (text : String)
  | unsupportedEncoding (name : String)
  | invalidAddress (text : String)
  | invalidField (text : String)
  | unterminatedString
  | undefinedLabel (name : String)
  | duplicateLabel (name : String)
  | invalidLabel (name : String)
  | unsupportedVersion (text : String)
  | pragmaAfterInstructions
  | unknownPragma (text : String)
  | branchTooFar (name : String)
  deriving DecidableEq, Repr

/-- The wording of a fault, without its position. -/
def Fault.message : Fault → String
  | unknownOpcode name => s!"unknown opcode: {name}"
  | immediateCount operation expected =>
    s!"{operation} expects {expected} immediate arguments"
  | invalidInteger text =>
    "unable to parse " ++ Text.quoted text ++ " as integer"
  | outOfRange value max => s!"{value} is larger than max={max}"
  | signedOutOfRange value min max =>
    s!"{value} is outside of range {min}..={max}"
  | invalidByteConstant text =>
    "unable to parse byte constant " ++ Text.quoted text
  | unsupportedEncoding name => s!"{name} byte constants are not supported"
  | invalidAddress text => "invalid address " ++ Text.quoted text
  | invalidField text => "invalid field name " ++ Text.quoted text
  | unterminatedString => "unterminated string literal"
  | undefinedLabel name =>
    "reference to undefined label " ++ Text.quoted name
  | duplicateLabel name => "duplicate label " ++ Text.quoted name
  | invalidLabel name => "invalid label name " ++ Text.quoted name
  | unsupportedVersion text => s!"unsupported version: {text}"
  | pragmaAfterInstructions =>
    "#pragma version is only allowed before instructions"
  | unknownPragma text => s!"unknown pragma: {text}"
  | branchTooFar name =>
    "branch target " ++ Text.quoted name ++ " is too far away"

/-- A fault on a line, counted from one.  A line or column of zero means that
the position is unknown. -/
structure LineFault where
  line : Nat
  column : Nat
  cause : Fault
  deriving DecidableEq, Repr

def LineFault.message (fault : LineFault) : String :=
  s!"{fault.line}:{fault.column}: {fault.cause.message}"

inductive Warning where
  | missingVersion (version : Nat)
  | unusedLabel (name : String)
  deriving DecidableEq, Repr

def Warning.message : Warning → String
  | missingVersion version =>
    s!"#pragma version is not set, assembling for version {version}"
  | unusedLabel name =>
    "label " ++ Text.quoted name ++ " is never referenced"

inductive Failure where
  | lineFaults (count : Nat)
  | programTooLarge (size max : Nat)
  deriving DecidableEq, Repr

def Failure.message : Failure → String
  | lineFaults count => s!"{count} errors"
  | programTooLarge size max =>
    s!"program size {size} exceeds maximum of {max} bytes"

end Assembly

end TealTools
