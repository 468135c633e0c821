/-!
# Text as bytes

Text is written as UTF-8.  Reading bytes back either refuses ill-formed input
or puts the replacement character in place of each ill-formed part, where a
part is the longest run of bytes that begins some character, or one byte.
-/

namespace TealTools

/-- A byte string. -/
abbrev Bytes := List UInt8

namespace Text

/-- The bytes of a text. -/
def utf8 (text : List Char) : Bytes :=
  text.flatMap String.utf8EncodeChar

/-- Stands for a part that is no character. -/
def replacement : Char := '\uFFFD'

private def isTail (b : UInt8) : Bool :=
  0x80 ≤ b && b ≤ 0xBF

private def tailBits (b : UInt8) : Nat :=
  b.toNat % 64

/-- The bytes that may follow the first byte of a character of three bytes. -/
private def secondOfThree (first second : UInt8) : Bool :=
  if first = 0xE0 then 0xA0 ≤ second && second ≤ 0xBF
  else if first = 0xED then 0x80 ≤ second && second ≤ 0x9F
  else isTail second

/-- The bytes that may follow the first byte of a character of four bytes. -/
private def secondOfFour (first second : UInt8) : Bool :=
  if first = 0xF0 then 0x90 ≤ second && second ≤ 0xBF
  else if first = 0xF4 then 0x80 ≤ second && second ≤ 0x8F
  else isTail second

/-- Reads one character, given its first byte and the bytes after it.  The
result is `none` for an ill-formed part; the number counts the bytes that were
taken after the first. -/
def readChar (first : UInt8) (rest : Bytes) : Option Char × Nat :=
  if first ≤ 0x7F then (some (Char.ofNat first.toNat), 0)
  else if 0xC2 ≤ first && first ≤ 0xDF then
    match rest with
    | b :: _ =>
      if isTail b then
        (some (Char.ofNat (first.toNat % 32 * 64 + tailBits b)), 1)
      else (none, 0)
    | [] => (none, 0)
  else if 0xE0 ≤ first && first ≤ 0xEF then
    match rest with
    | b :: more =>
      if secondOfThree first b then
        match more with
        | c :: _ =>
          if isTail c then
            (some (Char.ofNat
              ((first.toNat % 16 * 64 + tailBits b) * 64 + tailBits c)), 2)
          else (none, 1)
        | [] => (none, 1)
      else (none, 0)
    | [] => (none, 0)
  else if 0xF0 ≤ first && first ≤ 0xF4 then
    match rest with
    | b :: more =>
      if secondOfFour first b then
        match more with
        | c :: last =>
          if isTail c then
            match last with
            | d :: _ =>
              if isTail d then
                (some (Char.ofNat
                  (((first.toNat % 8 * 64 + tailBits b) * 64 + tailBits c) * 64
                    + tailBits d)), 3)
              else (none, 2)
            | [] => (none, 2)
          else (none, 1)
        | [] => (none, 1)
      else (none, 0)
    | [] => (none, 0)
  else (none, 0)

/-- The characters of a byte string, with `none` for each ill-formed part. -/
def readChars (bytes : Bytes) : List (Option Char) :=
  match bytes with
  | [] => []
  | first :: rest =>
    (readChar first rest).1 :: readChars (rest.drop (readChar first rest).2)
termination_by bytes.length
decreasing_by
  simp only [List.length_drop, List.length_cons]
  omega

/-- The text that the bytes spell, if they are well formed. -/
def ofUtf8? (bytes : Bytes) : Option (List Char) :=
  (readChars bytes).mapM id

/-- The text of the bytes, each ill-formed part replaced. -/
def ofUtf8 (bytes : Bytes) : List Char :=
  (readChars bytes).map (·.getD replacement)

end Text

end TealTools
