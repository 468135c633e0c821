import TealTools.Text.Numeral
import TealTools.Text.Split

/-!
# Numeric addresses

An address of version 4 is a number below `2 ^ 32`, one of version 6 a list
of eight groups below `2 ^ 16`.  Both have several spellings and one form in
which they are shown.
-/

namespace TealTools

inductive IpAddress where
  | v4 (number : Nat)
  | v6 (groups : List Nat)
  deriving DecidableEq, Repr

namespace IpAddress

/-! ## Version 4 -/

/-- One part of an address: hexadecimal, octal or decimal. -/
def ipv4Number? (text : List Char) : Option Nat :=
  match text with
  | [] => none
  | '0' :: 'x' :: digits | '0' :: 'X' :: digits =>
    if digits.isEmpty then some 0 else Text.digits? 16 digits
  | '0' :: c :: digits => Text.digits? 8 (c :: digits)
  | digits => Text.digits? 10 digits

/-- The parts between dots, without an empty one at the end. -/
def dotted (domain : List Char) : List (List Char) :=
  let parts := Text.split '.' domain
  if parts.length > 1 ∧ parts.getLast? = some [] then parts.dropLast
  else parts

/-- Does the domain have to be an address, because its last part is a
number? -/
def endsInNumber (domain : List Char) : Bool :=
  match (dotted domain).getLast? with
  | none => false
  | some last =>
    (!last.isEmpty && last.all fun c => '0' ≤ c && c ≤ '9') ||
      (ipv4Number? last).isSome

/-- The four bytes of an address; the last part fills what is left. -/
def ipv4? (domain : List Char) : Option Nat := do
  let numbers ← (dotted domain).mapM ipv4Number?
  let last ← numbers.getLast?
  let first := numbers.dropLast
  if first.length > 3 ∨ first.any (· > 255) ∨
      last ≥ Nat.pow 256 (4 - first.length) then none
  else
    let high := (first ++ List.replicate (4 - first.length) 0).foldl
      (fun value part => value * 256 + part) 0
    some (high + last)

def renderIpv4 (address : Nat) : String :=
  let part (n : Nat) := toString (address / Nat.pow 256 n % 256)
  ".".intercalate [part 3, part 2, part 1, part 0]

/-! ## Version 6 -/

/-- A group of one to four hexadecimal digits. -/
def ipv6Group? (text : List Char) : Option Nat :=
  if text.length ≤ 4 then Text.digits? 16 text else none

/-- A decimal byte without leading zeros. -/
def decimalByte? (text : List Char) : Option Nat := do
  if text.length > 1 ∧ text.head? = some '0' then none
  let value ← Text.digits? 10 text
  if value ≤ 255 then some value else none

/-- A version 4 address as two groups. -/
def ipv4Groups? (text : List Char) : Option (List Nat) := do
  match ← (Text.split '.' text).mapM decimalByte? with
  | [a, b, c, d] => some [a * 256 + b, c * 256 + d]
  | _ => none

/-- Groups between colons.  The last one may be a version 4 address where
that is allowed. -/
def ipv6Groups? (tail : Bool) (text : List Char) : Option (List Nat) := do
  if text.isEmpty then return []
  let parts := Text.split ':' text
  let last ← parts.getLast?
  let first ← parts.dropLast.mapM ipv6Group?
  if tail && last.contains '.' then return first ++ (← ipv4Groups? last)
  else return first ++ [← ipv6Group? last]

/-- Splits at the first pair of colons. -/
def splitGap : List Char → Option (List Char × List Char)
  | ':' :: ':' :: rest => some ([], rest)
  | c :: rest => (splitGap rest).map fun (left, right) => (c :: left, right)
  | [] => none

/-- The eight groups of an address. -/
def ipv6? (text : List Char) : Option (List Nat) := do
  match splitGap text with
  | none =>
    if text.isEmpty then none
    let groups ← ipv6Groups? true text
    if groups.length = 8 then some groups else none
  | some (left, right) =>
    let left ← ipv6Groups? false left
    let right ← ipv6Groups? true right
    let count := left.length + right.length
    if count ≤ 7 then
      some (left ++ List.replicate (8 - count) 0 ++ right)
    else none

/-- The number of zero groups at the head. -/
def zeroRun (groups : List Nat) : Nat :=
  (groups.takeWhile (· = 0)).length

/-- Start and length of the first longest run of zero groups. -/
def longestGap : Nat → List Nat → Nat × Nat
  | _, [] => (0, 0)
  | start, group :: groups =>
    let here := zeroRun (group :: groups)
    let later := longestGap (start + 1) groups
    if here ≥ later.2 ∧ here > 0 then (start, here) else later

def hexText (value : Nat) : String :=
  String.ofList (Nat.toDigits 16 value)

/-- The address in brackets, its longest run of zeros left out. -/
def renderIpv6 (groups : List Nat) : String :=
  let (start, length) := longestGap 0 groups
  let join (groups : List Nat) := ":".intercalate (groups.map hexText)
  if length ≥ 2 then
    "[" ++ join (groups.take start) ++ "::" ++
      join (groups.drop (start + length)) ++ "]"
  else "[" ++ join groups ++ "]"

/-! ## Either version -/

def isV4 : IpAddress → Bool
  | v4 _ => true
  | v6 _ => false

/-- The address that the machine itself has. -/
def loopback : IpAddress := v4 0x7F000001

def loopback6 : IpAddress := v6 [0, 0, 0, 0, 0, 0, 0, 1]

end IpAddress

end TealTools
