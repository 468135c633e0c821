import Mathlib.Data.List.DropRight
import TealTools.Proofs.Codec.Base32

/-!
# What base32 texts spell

A text of the alphabet spells as many bytes as its bits fill.  After each
character the bytes given out and the pending bits are together all the bits
that were read, and nothing of them leaves the buffer.
-/

namespace TealTools.Codec.Base32

/-! ## The alphabet -/

/-- The characters, each at the index of its value. -/
def alphabet : List Char := "ABCDEFGHIJKLMNOPQRSTUVWXYZ234567".toList

private theorem getElem?_alphabet {value : Nat} (small : value < 2 ^ 5) :
    alphabet[value]? = some (char value) := by
  revert value
  decide

theorem value?_eq_some_iff {c : Char} {value : UInt32} :
    value? c = some value ↔ alphabet[value.toNat]? = some c := by
  constructor
  · intro found
    rw [getElem?_alphabet (value?_lt found), char_of_value? found]
  · intro stands
    have small : value.toNat < 2 ^ 5 :=
      (List.getElem?_eq_some_iff.mp stands).1
    rw [getElem?_alphabet small, Option.some.injEq] at stands
    rw [← stands, value?_char small, UInt32.ofNat_toNat]

theorem mem_alphabet_iff {c : Char} :
    c ∈ alphabet ↔ ∃ value, value? c = some value := by
  constructor
  · intro member
    obtain ⟨index, stands⟩ := List.getElem?_of_mem member
    have small : index < 2 ^ 5 := (List.getElem?_eq_some_iff.mp stands).1
    rw [getElem?_alphabet small, Option.some.injEq] at stands
    exact ⟨UInt32.ofNat index, stands ▸ value?_char small⟩
  · rintro ⟨value, found⟩
    exact List.mem_of_getElem? (value?_eq_some_iff.mp found)

private theorem mapM_value?_eq_none_iff {text : List Char} :
    text.mapM value? = none ↔ ∃ c ∈ text, c ∉ alphabet := by
  induction text with
  | nil => simp
  | cons c text induction =>
      cases found : value? c with
      | none =>
          have outside : c ∉ alphabet := by
            rw [mem_alphabet_iff, found]
            nofun
          simp [found, outside]
      | some value =>
          have inside : c ∈ alphabet := mem_alphabet_iff.mpr ⟨value, found⟩
          have others : (c :: text).mapM value? = none ↔
              text.mapM value? = none := by
            cases later : text.mapM value? <;> simp [found, later]
          rw [others, induction]
          simp [inside]

/-! ## The buffer -/

/-- The bytes that are given out while values are taken in, and what is
pending behind them. -/
def Pending.pushAll (pending : Pending) : List UInt32 → Bytes × Pending
  | [] => ([], pending)
  | value :: values =>
    let (byte, next) := pending.push value
    let (bytes, last) := next.pushAll values
    (byte.toList ++ bytes, last)

theorem Pending.pushAll_stream {pending : Pending} (sound : pending.Sound)
    {values : List UInt32} (small : ∀ value ∈ values, value.toNat < 2 ^ 5) :
    (pending.pushAll values).2.Sound ∧
      byteBits (pending.pushAll values).1 ++
          (pending.pushAll values).2.stream =
        pending.stream ++ valueBits values := by
  induction values generalizing pending with
  | nil => exact ⟨sound, (List.append_nil _).symm⟩
  | cons value values induction =>
      obtain ⟨first, others⟩ := List.forall_mem_cons.mp small
      obtain ⟨next, kept⟩ := push_stream sound first
      obtain ⟨last, whole⟩ := induction next others
      refine ⟨last, ?_⟩
      have bits : byteBits ((pending.push value).1.toList ++
          ((pending.push value).2.pushAll values).1) =
            byteBits (pending.push value).1.toList ++
              byteBits ((pending.push value).2.pushAll values).1 :=
        List.flatMap_append
      rw [pushAll, bits, List.append_assoc, whole, ← List.append_assoc, kept,
        List.append_assoc]
      rfl

/-- Reading goes on from what is pending behind the characters read. -/
theorem decodeFrom?_append {front : List Char} {values : List UInt32}
    (read : front.mapM value? = some values) (pending : Pending)
    (back : List Char) :
    decodeFrom? pending (front ++ back) =
      (decodeFrom? (pending.pushAll values).2 back).map
        ((pending.pushAll values).1 ++ ·) := by
  induction front generalizing pending values with
  | nil =>
      cases read
      exact Option.map_id'.symm
  | cons c front induction =>
      rw [List.mapM_cons] at read
      obtain ⟨value, first, read⟩ := Option.bind_eq_some_iff.mp read
      obtain ⟨others, later, read⟩ := Option.bind_eq_some_iff.mp read
      cases read
      simp only [List.cons_append, decodeFrom?, first, Pending.pushAll,
        induction later, Option.bind_eq_bind, Option.bind_some]
      cases decodeFrom? _ back <;> simp

private theorem values_of_mapM {text : List Char} {values : List UInt32}
    (read : text.mapM value? = some values) :
    values.length = text.length ∧ ∀ value ∈ values, value.toNat < 2 ^ 5 := by
  induction text generalizing values with
  | nil =>
      cases read
      exact ⟨rfl, nofun⟩
  | cons c text induction =>
      rw [List.mapM_cons] at read
      obtain ⟨value, first, read⟩ := Option.bind_eq_some_iff.mp read
      obtain ⟨others, later, read⟩ := Option.bind_eq_some_iff.mp read
      cases read
      obtain ⟨length, small⟩ := induction later
      exact ⟨congrArg Nat.succ length,
        List.forall_mem_cons.mpr ⟨value?_lt first, small⟩⟩

/-- Nothing is pending before the first character. -/
def Pending.start : Pending := { buffer := 0, bits := 0 }

private theorem Pending.sound_start : start.Sound := ⟨by decide, by decide⟩

/-- Between two characters fewer than eight bits are pending, the buffer holds
no other bit, and the bytes given out and the pending bits are all the bits of
the characters so far. -/
private theorem Pending.pushAll_start {text : List Char} {values : List UInt32}
    (read : text.mapM value? = some values) :
    (start.pushAll values).2.Sound ∧
      byteBits (start.pushAll values).1 ++ (start.pushAll values).2.stream =
        valueBits values :=
  pushAll_stream sound_start (values_of_mapM read).2

/-! ## Texts -/

/-- The bytes of a text are the bits of its characters, as far as they fill
bytes. -/
theorem bits_of_decode? {text : List Char} {bytes : Bytes}
    (decoded : decode? text = some bytes) :
    ∃ values, (dropPadding text).mapM value? = some values ∧
      bytes.length = 5 * (dropPadding text).length / 8 ∧
      byteBits bytes = (valueBits values).take (8 * bytes.length) := by
  rw [decode?_eq] at decoded
  obtain ⟨values, read, rfl⟩ := Option.map_eq_some_iff.mp decoded
  obtain ⟨dropped, few, whole⟩ := exists_dropped (valueBits values)
  have length := congrArg List.length whole
  rw [List.length_append, length_byteBits, length_valueBits,
    (values_of_mapM read).1] at length
  refine ⟨values, read, by omega, ?_⟩
  have front : (byteBits (bytesOf (valueBits values)) ++ dropped).take
      (byteBits (bytesOf (valueBits values))).length =
        byteBits (bytesOf (valueBits values)) := List.take_left
  rw [whole, length_byteBits] at front
  exact front.symm

/-- A character has the value of its index in the alphabet, and a text is
refused exactly if a character outside it stands in front of the padding.  Any
other text spells the bytes that its bits fill, most significant bit first.
Between two characters fewer than eight bits are pending and nothing else is
left in the buffer, and no bit read so far is lost.  What is written for bytes
is read back, with any padding. -/
theorem base32_texts_spell_bits (text : List Char) :
    dropPadding text = text.rdropWhile (· = '=') ∧
    (∀ c value, value? c = some value ↔ alphabet[value.toNat]? = some c) ∧
    (decode? text = none ↔ ∃ c ∈ dropPadding text, c ∉ alphabet) ∧
    (∀ bytes, decode? text = some bytes → ∃ values,
      (dropPadding text).mapM value? = some values ∧
        bytes.length = 5 * (dropPadding text).length / 8 ∧
        byteBits bytes = (valueBits values).take (8 * bytes.length)) ∧
    (∀ front back values, dropPadding text = front ++ back →
      front.mapM value? = some values → ∃ given pending,
        Pending.start.pushAll values = (given, pending) ∧
        decode? text = (decodeFrom? pending back).map (given ++ ·) ∧
        (pending.buffer.toNat < 2 ^ pending.bits ∧ pending.bits < 8) ∧
        byteBits given ++ pending.stream = valueBits values) ∧
    ∀ bytes padding,
      decode? (encode bytes ++ List.replicate padding '=') = some bytes := by
  refine ⟨rfl, fun _ _ => value?_eq_some_iff, ?_, fun _ => bits_of_decode?,
    ?_, decode?_encode⟩
  · rw [decode?_eq, Option.map_eq_none_iff]
    exact mapM_value?_eq_none_iff
  · intro front back values split read
    obtain ⟨sound, whole⟩ := Pending.pushAll_start read
    refine ⟨_, _, rfl, ?_, ⟨sound.buffer, sound.bits⟩, whole⟩
    rw [decode?, split]
    exact decodeFrom?_append read Pending.start back

/-- Five characters with padding fill three bytes, and one bit is dropped. -/
theorem base32_texts_spell_bits_foo :
    decode? "MZXW6===".toList = some [0x66, 0x6F, 0x6F] ∧
      ∃ values, (dropPadding "MZXW6===".toList).mapM value? = some values ∧
        [0x66, 0x6F, 0x6F].length =
          5 * (dropPadding "MZXW6===".toList).length / 8 ∧
        byteBits [0x66, 0x6F, 0x6F] = (valueBits values).take (8 * 3) :=
  ⟨by decide, (base32_texts_spell_bits "MZXW6===".toList).2.2.2.1
    [0x66, 0x6F, 0x6F] (by decide)⟩

end TealTools.Codec.Base32
