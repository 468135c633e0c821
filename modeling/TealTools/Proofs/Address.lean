import Mathlib.Data.List.Basic
import TealTools.Address
import TealTools.Proofs.Codec.Base32
import TealTools.Proofs.Text.Ascii
import TealTools.Proofs.Text.Size

/-!
# Texts of addresses

A public key and its checksum fill 288 bits, and the 58 characters of an
address have two bits more, which are not looked at.  So every key has four
texts: they differ in their last character only, and one of them is what the
encoder writes.
-/

namespace TealTools

open Codec.Base32 (byteBits spell encode)

/-- The bits of a public key and of its checksum. -/
def addressBits (publicKey : Bytes) : List Bool :=
  byteBits (publicKey ++ addressChecksum publicKey)

/-- The text of an address with the given bits behind its checksum. -/
def addressText (publicKey : Bytes) (first second : Bool) : List Char :=
  spell (addressBits publicKey ++ [first, second])

/-- The text of an address whose unused bits are zero. -/
def canonicalAddress (publicKey : Bytes) : List Char :=
  encode (publicKey ++ addressChecksum publicKey)

private theorem length_addressChecksum (publicKey : Bytes) :
    (addressChecksum publicKey).length = 4 := by
  simp [addressChecksum]

section

variable {text : List Char} {publicKey : Bytes}

private theorem length_addressBits (sized : publicKey.length = 32) :
    (addressBits publicKey).length = 288 := by
  simp [addressBits, length_addressChecksum, sized]

private theorem dvd_length_addressBits (sized : publicKey.length = 32)
    (first second : Bool) :
    5 ∣ (addressBits publicKey ++ [first, second]).length := by
  rw [List.length_append, length_addressBits sized]
  exact ⟨58, rfl⟩

theorem length_addressText (sized : publicKey.length = 32)
    (first second : Bool) :
    (addressText publicKey first second).length = 58 := by
  have length :=
    Codec.Base32.length_spell (dvd_length_addressBits sized first second)
  rw [← addressText, List.length_append, length_addressBits sized] at length
  exact Nat.eq_of_mul_eq_mul_left (by decide) length

private theorem canonicalAddress_eq (sized : publicKey.length = 32) :
    canonicalAddress publicKey = addressText publicKey false false := by
  have whole : 5 ∣ (addressBits publicKey).length + 2 := by
    rw [length_addressBits sized]
    exact ⟨58, rfl⟩
  exact (Codec.Base32.spell_filled (by decide) whole).symm

/-- A key is read exactly from the base32 text of itself and its checksum. -/
theorem decodeAddress?_eq_some_iff :
    decodeAddress? text = some publicKey ↔
      (Text.utf8 text).length = 58 ∧ publicKey.length = 32 ∧
        Codec.Base32.decode? text =
          some (publicKey ++ addressChecksum publicKey) := by
  unfold decodeAddress?
  constructor
  · intro decoded
    split at decoded
    · cases decoded
    · next long =>
      obtain ⟨bytes, read, decoded⟩ := Option.bind_eq_some_iff.mp decoded
      split at decoded
      · cases decoded
      · next enough =>
        simp only at decoded
        split at decoded
        · next checked =>
          cases decoded
          refine ⟨not_not.mp long, ?_, ?_⟩
          · rw [List.length_take]
            exact Nat.min_eq_left (Nat.le_of_not_lt enough)
          · rw [← checked, List.take_append_drop]
            exact read
        · cases decoded
  · rintro ⟨long, sized, read⟩
    have key : (publicKey ++ addressChecksum publicKey).take publicKeyLength =
        publicKey := List.take_left' sized
    have checksum :
        (publicKey ++ addressChecksum publicKey).drop publicKeyLength =
          addressChecksum publicKey := List.drop_left' sized
    have enough : publicKeyLength ≤
        publicKey.length + (addressChecksum publicKey).length :=
      sized ▸ Nat.le_add_right 32 _
    simp [long, addressLength, read, enough, key, checksum]

/-- Characters of an address are written in one byte, and none of them is
padding. -/
private theorem plain_of_mem_addressText {first second : Bool} {c : Char}
    (member : c ∈ addressText publicKey first second) :
    c.toNat < 128 ∧ c ≠ '=' :=
  @Codec.Base32.forall_mem_spell (fun c => c.toNat < 128 ∧ c ≠ '=')
    (by decide) _ c member

theorem decodeAddress?_addressText (sized : publicKey.length = 32)
    (first second : Bool) :
    decodeAddress? (addressText publicKey first second) =
      some publicKey := by
  have plain c (member : c ∈ addressText publicKey first second) :=
    plain_of_mem_addressText member
  have unpadded := Codec.Base32.dropPadding_append
    (fun member => (plain '=' member).2 rfl) 0
  rw [List.replicate_zero, List.append_nil] at unpadded
  apply decodeAddress?_eq_some_iff.mpr
  refine ⟨?_, sized, Codec.Base32.decode?_eq_some_iff.mpr ?_⟩
  · rw [Text.length_utf8_of_ascii fun c member => (plain c member).1,
      length_addressText sized]
  · exact ⟨[first, second], by simp,
      dvd_length_addressBits sized first second, unpadded⟩

/-- Padding leaves fewer characters than an address needs. -/
private theorem exists_addressText
    (decoded : decodeAddress? text = some publicKey) :
    ∃ first second, text = addressText publicKey first second := by
  obtain ⟨long, sized, read⟩ := decodeAddress?_eq_some_iff.mp decoded
  obtain ⟨dropped, few, whole, spelled⟩ :=
    Codec.Base32.decode?_eq_some_iff.mp read
  have length := Codec.Base32.length_spell whole
  rw [← spelled, List.length_append, ← addressBits,
    length_addressBits sized] at length
  have unpadded := Codec.Base32.dropPadding_begins text
  have short := unpadded.length_le
  have fits : text.length ≤ 58 := long ▸ Text.length_le_size text
  have two : dropped.length = 2 := by omega
  obtain ⟨first, second, rfl⟩ := List.length_eq_two.mp two
  have same : Codec.Base32.dropPadding text = text :=
    unpadded.eq_of_length (by omega)
  exact ⟨first, second, same.symm.trans spelled⟩

/-- All characters but the last one belong to the key and its checksum. -/
private theorem dropLast_addressText (sized : publicKey.length = 32)
    (first second : Bool) :
    (addressText publicKey first second).dropLast =
      spell ((addressBits publicKey).take 285) := by
  have length := length_addressBits sized
  have whole : 5 ∣ ((addressBits publicKey).take 285).length := by
    rw [List.length_take, length]
    exact ⟨57, rfl⟩
  have five : ((addressBits publicKey).drop 285 ++
      [first, second]).length = 5 := by
    rw [List.length_append, List.length_drop, length]
    rfl
  have split := List.take_append_drop 285 (addressBits publicKey)
  rw [addressText, ← split, List.append_assoc,
    Codec.Base32.spell_append whole, Codec.Base32.spell_of_five five,
    List.dropLast_concat, split]

theorem addressText_injective (sized : publicKey.length = 32)
    {first second third fourth : Bool}
    (same : addressText publicKey first second =
      addressText publicKey third fourth) :
    first = third ∧ second = fourth := by
  have bits := Codec.Base32.spell_injective
    (dvd_length_addressBits sized first second)
    (dvd_length_addressBits sized third fourth) same
  simpa using bits

/-- A text is read as a key exactly if it spells the 32 bytes of the key and
the four bytes of its checksum in 58 characters; the two bits that are left in
the last one do not matter.  So every key has four texts, the canonical one
among them, and they differ in their last character only. -/
theorem addresses_spell_keys (text : List Char) (publicKey : Bytes) :
    (decodeAddress? text = some publicKey ↔ publicKey.length = 32 ∧
      ∃ first second, text = addressText publicKey first second) ∧
    (publicKey.length = 32 →
      canonicalAddress publicKey = addressText publicKey false false ∧
      (∀ first second, (addressText publicKey first second).length = 58) ∧
      ∀ first second third fourth, addressText publicKey first second =
        addressText publicKey third fourth →
          first = third ∧ second = fourth) ∧
    ∀ other, decodeAddress? text = some publicKey →
      decodeAddress? other = some publicKey →
        text.dropLast = other.dropLast := by
  refine ⟨⟨?_, ?_⟩, ?_, ?_⟩
  · intro decoded
    exact ⟨(decodeAddress?_eq_some_iff.mp decoded).2.1,
      exists_addressText decoded⟩
  · rintro ⟨sized, first, second, rfl⟩
    exact decodeAddress?_addressText sized first second
  · intro sized
    exact ⟨canonicalAddress_eq sized, length_addressText sized,
      fun _ _ _ _ => addressText_injective sized⟩
  · intro other decoded again
    have sized := (decodeAddress?_eq_some_iff.mp decoded).2.1
    obtain ⟨first, second, rfl⟩ := exists_addressText decoded
    obtain ⟨third, fourth, rfl⟩ := exists_addressText again
    rw [dropLast_addressText sized, dropLast_addressText sized]

/-- The zero address, written with a last character that the encoder does not
use. -/
def lenientAddress : List Char :=
  "AAAAAAAAAAAAAAAAAAAAAAAAAAAAAAAAAAAAAAAAAAAAAAAAAAAAY5HFKR".toList

theorem decodeAddress?_lenientAddress :
    decodeAddress? lenientAddress = some (List.replicate 32 0) := by
  decide +kernel

theorem addresses_spell_keys_zero :
    decodeAddress? lenientAddress = some (List.replicate 32 0) ∧
      ∃ first second,
        lenientAddress = addressText (List.replicate 32 0) first second := by
  have spelled := addresses_spell_keys lenientAddress (List.replicate 32 0)
  exact ⟨decodeAddress?_lenientAddress,
    (spelled.1.mp decodeAddress?_lenientAddress).2⟩

/-- A text that is no canonical address is read all the same. -/
theorem not_only_canonicalAddress :
    ¬ (decodeAddress? lenientAddress = some (List.replicate 32 0) ↔
      (List.replicate 32 0 : Bytes).length = 32 ∧
        lenientAddress = canonicalAddress (List.replicate 32 0)) := by
  have other : lenientAddress ≠ canonicalAddress (List.replicate 32 0) := by
    decide +kernel
  intro exactly
  exact other (exactly.mp decodeAddress?_lenientAddress).2

end

end TealTools
