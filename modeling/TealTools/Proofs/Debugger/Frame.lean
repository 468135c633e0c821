import Mathlib.Data.Bool.AllAny
import Mathlib.Data.List.Forall2
import TealTools.Debugger.Frame
import TealTools.Framing
import TealTools.Proofs.Text.Ascii
import TealTools.Proofs.Text.Numeral
import TealTools.Proofs.Text.Pieces

/-!
# Framed requests are delivered

A header gives the length of the body behind it in decimal digits.  Whatever
stands behind a framed body, the reader takes exactly the body, so that
requests that are framed one after the other are delivered in this order.
-/

namespace TealTools

namespace Text

private theorem utf8_concat_ne_nil (line : List Char) (c : Char) :
    utf8 (line ++ [c]) ≠ [] := by
  simp [utf8, List.flatMap_append, String.utf8EncodeChar_ne_nil]

end Text

namespace Debugger

namespace Frame

/-! ## Headers -/

def lengthName : List Char := "Content-Length".toList

/-- The first line of a header, without its line feed. -/
def lengthLine (length : Nat) : List Char :=
  lengthName ++ ':' :: ' ' :: Nat.toDigits 10 length ++ ['\r']

private theorem header_eq (length : Nat) :
    Framing.header length =
      Text.utf8 (lengthLine length ++ ['\n']) ++
        Text.utf8 (['\r'] ++ ['\n']) := by
  have named : "Content-Length: ".toList = lengthName ++ [':', ' '] := by
    decide +kernel
  have ended : "\r\n\r\n".toList = ['\r'] ++ ['\n'] ++ (['\r'] ++ ['\n']) := by
    decide +kernel
  have spelled : s!"Content-Length: {length}\r\n\r\n".toList =
      "Content-Length: ".toList ++ length.repr.toList ++
        "\r\n\r\n".toList := by
    rw [String.toList_append, String.toList_append]
    rfl
  rw [Framing.header, spelled, named, ended, Nat.toList_repr, lengthLine,
    Text.utf8, Text.utf8, Text.utf8, ← List.flatMap_append]
  simp only [List.append_assoc, List.cons_append, List.nil_append]

private theorem plain_of_mem_lengthLine {length : Nat} {c : Char}
    (member : c ∈ lengthLine length) : c.toNat < 128 ∧ c ≠ '\n' := by
  have named : ∀ c ∈ lengthName, c.toNat < 128 ∧ c ≠ '\n' :=
    List.all_iff_forall_prop.mp (by decide +kernel)
  simp only [lengthLine, List.mem_append, List.mem_cons, List.not_mem_nil,
    or_false] at member
  rcases member with (letter | rfl | rfl | digit) | rfl
  · exact named c letter
  · decide
  · decide
  · have decimal := Text.isDigit_of_mem_toDigits digit
    constructor
    · exact Nat.lt_of_le_of_lt (Char.isDigit_iff_toNat.mp decimal).2
        (by decide)
    · rintro rfl
      cases decimal
  · decide

private theorem splitLine_append {line : List Char}
    (plain : ∀ c ∈ line, c.toNat < 128 ∧ c ≠ '\n') (rest : Bytes) :
    splitLine (Text.utf8 (line ++ ['\n']) ++ rest) =
      (Text.utf8 (line ++ ['\n']), rest) := by
  induction line with
  | nil => rfl
  | cons c line induction =>
      obtain ⟨⟨ascii, other⟩, later⟩ := List.forall_mem_cons.mp plain
      have different : UInt8.ofNat c.toNat ≠ 0x0A := by
        intro same
        have equal := congrArg UInt8.toNat same
        rw [Text.toNat_ofNat_of_ascii ascii] at equal
        exact other (Char.toNat_inj.mp equal)
      rw [List.cons_append, Text.utf8_cons, Text.utf8EncodeChar_of_ascii ascii,
        List.singleton_append, List.cons_append, splitLine, if_neg different,
        induction later]

private theorem contentLength_lengthLine {length : Nat}
    (small : length < UInt64.size) :
    contentLength (lengthLine length ++ ['\n']) = .ok length := by
  have free : ∀ c ∈ Nat.toDigits 10 length, Text.isBlank c = false :=
    fun _ digit => Text.isBlank_of_isDigit (Text.isDigit_of_mem_toDigits digit)
  have last : ∀ c ∈ (lengthName ++ ':' :: ' ' ::
      Nat.toDigits 10 length).getLast?, Text.isBlank c = false := by
    intro c last
    have digits : (lengthName ++ [':', ' '] ++
        Nat.toDigits 10 length).getLast? = some c := by
      rw [List.append_assoc]
      exact last
    rw [List.getLast?_append_of_ne_nil _ Nat.toDigits_ne_nil] at digits
    exact free c (List.mem_of_mem_getLast? digits)
  have trimmed : Text.trimEnd (lengthLine length ++ ['\n']) =
      lengthName ++ ':' :: ' ' :: Nat.toDigits 10 length := by
    have ending := @Text.trimEnd_append _ ['\r', '\n'] last
      (List.all_iff_forall_prop.mp (by decide))
    simp only [List.append_assoc, List.cons_append] at ending
    simp only [lengthLine, List.append_assoc, List.cons_append,
      List.nil_append]
    exact ending
  have pieces : Text.split ':'
        (lengthName ++ ':' :: ' ' :: Nat.toDigits 10 length) =
      [lengthName, ' ' :: Nat.toDigits 10 length] := by
    rw [Text.split_append_cons (by decide +kernel), Text.split_of_not_mem]
    intro colon
    rcases List.mem_cons.mp colon with same | digit
    · cases same
    · exact Text.not_mem_toDigits rfl length digit
  have value : Text.trim (' ' :: Nat.toDigits 10 length) =
      Nat.toDigits 10 length :=
    @Text.trim_append_of_free [' '] _
      (List.all_iff_forall_prop.mp (by decide)) free
  have known : ¬lengthName ≠ "Content-Length".toList := fun other => other rfl
  rw [contentLength, trimmed, pieces]
  simp only [value, Text.nat?_toDigits small, if_neg known]

/-! ## Bodies -/

section

variable {input line rest : Bytes} {text : List Char}

theorem body_of_line {content : Bytes}
    (split : splitLine input = (line, content ++ rest)) (written : line ≠ [])
    (read : Text.ofUtf8? line = some text) :
    body content.length input = .ok (some (content, rest)) := by
  have complete : ¬((Text.ofUtf8? line).isNone = true ∨
      (content ++ rest).length < content.length) := by
    simp [read]
  cases line with
  | nil => exact absurd rfl written
  | cons byte bytes =>
      simp only [body, split, if_neg complete, List.take_left,
        List.drop_left]

theorem next_of_line {length : Nat} (split : splitLine input = (line, rest))
    (written : line ≠ []) (read : Text.ofUtf8? line = some text)
    (announced : contentLength text = .ok length) :
    next input = body length rest := by
  cases line with
  | nil => exact absurd rfl written
  | cons byte bytes => simp only [next, split, read, announced]

end

theorem next_framed {content : Bytes}
    (small : content.length < UInt64.size) (rest : Bytes) :
    next (Framing.framed content ++ rest) = .ok (some (content, rest)) := by
  have lines : Framing.framed content ++ rest =
      Text.utf8 (lengthLine content.length ++ ['\n']) ++
        (Text.utf8 (['\r'] ++ ['\n']) ++ (content ++ rest)) := by
    simp only [Framing.framed, header_eq, List.append_assoc]
  have ascii : ∀ c ∈ lengthLine content.length ++ ['\n'],
      c.toNat < 128 := by
    intro c member
    rcases List.mem_append.mp member with plain | feed
    · exact (plain_of_mem_lengthLine plain).1
    · rw [List.mem_singleton.mp feed]
      decide
  rw [lines,
    next_of_line (splitLine_append (fun _ => plain_of_mem_lengthLine) _)
      (Text.utf8_concat_ne_nil _ _) (Text.ofUtf8?_utf8_of_ascii ascii)
      (contentLength_lengthLine small)]
  exact body_of_line
    (splitLine_append (List.all_iff_forall_prop.mp (by decide)) _)
    (Text.utf8_concat_ne_nil _ _)
    (Text.ofUtf8?_utf8_of_ascii (List.all_iff_forall_prop.mp (by decide)))

end Frame

/-! ## Deliveries -/

/-- The input holds requests one after the other, and then the rest. -/
inductive Delivers : Bytes → List Request → Bytes → Prop where
  | nothing (rest : Bytes) : Delivers rest [] rest
  | request {input content later rest : Bytes} {request : Request}
      {requests : List Request}
      (taken : Frame.next input = .ok (some (content, later)))
      (decoded : Frame.request content = .ok request)
      (behind : Delivers later requests rest) :
      Delivers input (request :: requests) rest

/-- Bodies with requests are delivered once they are framed. -/
theorem delivers_framed {bodies : List Bytes} {requests : List Request}
    (decoded : List.Forall₂ (fun content request =>
      content.length < UInt64.size ∧ Frame.request content = .ok request)
      bodies requests) (rest : Bytes) :
    Delivers (bodies.flatMap Framing.framed ++ rest) requests rest := by
  induction decoded with
  | nil => exact .nothing rest
  | cons first later induction =>
      rw [List.flatMap_cons, List.append_assoc]
      exact .request (Frame.next_framed first.1 _) first.2 induction

end Debugger

end TealTools
