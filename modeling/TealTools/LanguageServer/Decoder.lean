import TealTools.Json.Parser
import TealTools.LanguageServer.Rpc
import TealTools.Text.Blank
import TealTools.Text.Numeral
import TealTools.Text.Split
import TealTools.Text.Utf8

/-!
# Framed messages

A message comes behind at most two header lines and an empty line.  Bytes are
kept until a message is complete; what cannot become a message ends the
input.
-/

namespace TealTools.LanguageServer

/-- Bytes that have come in, and the length of the message in front of them
once its headers have been read. -/
structure Decoder where
  expected : Option Nat
  buffer : Bytes
  deriving DecidableEq, Repr

namespace Decoder

def empty : Decoder := { expected := none, buffer := [] }

/-! ## Headers -/

/-- How far the headers could be read. -/
inductive Headers where
  | incomplete
  | invalid
  | complete (headers : List (Bytes × Bytes)) (rest : Bytes)
  deriving DecidableEq, Repr

/-- Bytes of a header's name. -/
def isNameByte (byte : UInt8) : Bool :=
  let c := Char.ofNat byte.toNat
  c.isAlphanum || "!#$%&'*+-.^_`|~".toList.contains c

/-- Bytes of a header's value. -/
def isValueByte (byte : UInt8) : Bool :=
  byte = 0x09 || (byte ≥ 0x20 && byte ≠ 0x7F)

def isPad (byte : UInt8) : Bool := byte = 0x20 || byte = 0x09

/-- What is left of a header behind its value. -/
inductive LineEnd where
  | incomplete
  | invalid
  | found (rest : Bytes)
  deriving DecidableEq, Repr

/-- The end of a line in front. -/
def lineEnd : Bytes → LineEnd
  | [] | [0x0D] => .incomplete
  | 0x0D :: 0x0A :: rest => .found rest
  | 0x0A :: rest => .found rest
  | _ => .invalid

/-- Reads headers up to an empty line, but no more than a number of them. -/
def headers : Nat → Bytes → Headers
  | count, input =>
    match lineEnd input with
    | .incomplete => .incomplete
    | .found rest => .complete [] rest
    | .invalid =>
      let name := input.takeWhile isNameByte
      match input.dropWhile isNameByte with
      | [] => .incomplete
      | 0x3A :: behind =>
        let value := (behind.dropWhile isPad).takeWhile isValueByte
        let trimmed := (value.reverse.dropWhile isPad).reverse
        if name.isEmpty then .invalid
        else
          match lineEnd ((behind.dropWhile isPad).dropWhile isValueByte) with
          | .incomplete => .incomplete
          | .invalid => .invalid
          | .found rest =>
            match count with
            | 0 => .invalid
            | count + 1 =>
              match headers count rest with
              | .complete more rest => .complete ((name, trimmed) :: more) rest
              | other => other
      | _ => .invalid

/-- How many headers a message may have. -/
def maxHeaders : Nat := 2

/-- Does the value of a header say that a message is text in UTF-8? -/
def isTextType (value : List Char) : Bool :=
  let parameters := ((Text.split ';' value).drop 1).map Text.trim
  let mark := "charset=".toList
  match parameters.find? fun parameter => mark.isPrefixOf parameter with
  | some parameter =>
    let charset := parameter.drop mark.length
    charset = "utf-8".toList || charset = "utf8".toList
  | none => false

/-- The length that headers give, the last one if there are several. -/
def lengthOf : List (Bytes × Bytes) → Option Nat → Option Nat
  | [], length => length
  | (name, value) :: more, length =>
    if name = Text.utf8 "Content-Length".toList then do
      let value ← Text.ofUtf8? value
      lengthOf more (some (← Text.nat? 10 UInt64.size value))
    else if name = Text.utf8 "Content-Type".toList then do
      let value ← Text.ofUtf8? value
      if isTextType value then lengthOf more length else none
    else lengthOf more length

/-! ## Messages -/

/-- What stands at the front of the buffer. -/
inductive Decoded where
  | waiting (decoder : Decoder)
  | failed (error : RpcError)
  | message (incoming : Incoming) (decoder : Decoder)

/-- The message that a text holds.  What stands behind a document is only
looked at once the document is a message. -/
def read (text : List Char) : Except RpcError Incoming :=
  match Json.parseFront? text with
  | none => .error .malformed
  | some (json, rest) =>
    if (json.normal? Json.maxDepth).isNone then .error .malformed
    else
      match Incoming.decode? json with
      | none => .error .invalidRequest
      | some incoming =>
        if (Json.skipBlanks rest).isEmpty then .ok incoming
        else .error .malformed

/-- Takes a message of a known length.  An empty one says nothing. -/
def take (length : Nat) (input : Bytes) : Decoded :=
  if input.length < length then
    .waiting { expected := some length, buffer := input }
  else
    let rest : Decoder := { expected := none, buffer := input.drop length }
    match Text.ofUtf8? (input.take length) with
    | none => .failed .malformed
    | some [] => .waiting rest
    | some text =>
      match read text with
      | .error error => .failed error
      | .ok incoming => .message incoming rest

/-- Looks for a message at the front of the buffer. -/
def next (decoder : Decoder) : Decoded :=
  match decoder.expected with
  | some length => take length decoder.buffer
  | none =>
    match headers maxHeaders decoder.buffer with
    | .incomplete => .waiting decoder
    | .invalid => .failed .malformed
    | .complete found rest =>
      match lengthOf found none with
      | none => .failed .malformed
      | some length => take length rest

/-- The decoder once more bytes have come in. -/
def push (decoder : Decoder) (bytes : Bytes) : Decoder :=
  { decoder with buffer := decoder.buffer ++ bytes }

/-! ## Progress -/

private theorem length_lineEnd {input rest : Bytes}
    (found : lineEnd input = .found rest) :
    rest.length < input.length := by
  unfold lineEnd at found
  split at found <;> simp at found <;> subst found <;>
    simp only [List.length_cons] <;> omega

private theorem length_dropWhile (test : UInt8 → Bool) (input : Bytes) :
    (input.dropWhile test).length ≤ input.length :=
  (List.dropWhile_suffix test).length_le

private theorem length_headers {count : Nat} {input rest : Bytes}
    {found : List (Bytes × Bytes)}
    (complete : headers count input = .complete found rest) :
    rest.length < input.length := by
  induction count generalizing input found rest with
  | zero =>
    unfold headers at complete
    split at complete
    · simp at complete
    · rename_i behind ending
      simp only [Headers.complete.injEq] at complete
      have shorter := length_lineEnd ending
      rw [complete.2] at shorter
      exact shorter
    · split at complete
      · simp at complete
      · dsimp only at complete
        split at complete
        · simp at complete
        · split at complete <;> simp at complete
      · simp at complete
  | succ count ih =>
    unfold headers at complete
    split at complete
    · simp at complete
    · rename_i behind ending
      simp only [Headers.complete.injEq] at complete
      have shorter := length_lineEnd ending
      rw [complete.2] at shorter
      exact shorter
    · split at complete
      · simp at complete
      · rename_i behind named
        dsimp only at complete
        split at complete
        · simp at complete
        · split at complete
          · simp at complete
          · simp at complete
          · rename_i line ending
            split at complete
            · rename_i more tail inner
              have inside := ih inner
              simp only [Headers.complete.injEq] at complete
              rw [complete.2] at inside
              have first := length_lineEnd ending
              have padded := length_dropWhile isPad behind
              have valued := length_dropWhile isValueByte
                (behind.dropWhile isPad)
              have whole := length_dropWhile isNameByte input
              rw [named] at whole
              simp only [List.length_cons] at whole
              omega
            · rename_i other _
              exact absurd complete (by simp_all)
      · simp at complete

theorem length_take {length : Nat} {input : Bytes} {incoming : Incoming}
    {after : Decoder} (taken : take length input = .message incoming after) :
    after.buffer.length < input.length := by
  unfold take at taken
  split at taken
  · simp at taken
  · rename_i enough
    dsimp only at taken
    split at taken
    · simp at taken
    · simp at taken
    · rename_i text nonempty spelled
      split at taken
      · simp at taken
      · simp only [Decoded.message.injEq] at taken
        rw [← taken.2]
        have positive : 0 < length := by
          rcases Nat.eq_zero_or_pos length with zero | positive
          · subst zero
            simp [Text.ofUtf8?, Text.readChars] at spelled
            exact absurd spelled nonempty
          · exact positive
        simp only [List.length_drop]
        omega

/-- A message takes some of the buffer. -/
theorem length_next {decoder after : Decoder} {incoming : Incoming}
    (found : decoder.next = .message incoming after) :
    after.buffer.length < decoder.buffer.length := by
  unfold next at found
  split at found
  · exact length_take found
  · split at found
    · simp at found
    · simp at found
    · rename_i complete
      split at found
      · simp at found
      · exact Nat.lt_trans (length_take found) (length_headers complete)

end Decoder

end TealTools.LanguageServer
