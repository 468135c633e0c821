import TealTools.AvmValue
import TealTools.Proofs.Codec.Base64
import TealTools.Proofs.Codec.Hex

/-!
# How values are shown

A byte string is shown as `0x` and two digits for each byte, and an integer as
its decimal numeral.  Bytes are kept as base64 text, which always reads back,
so that what is shown of a value says which one it is.
-/

namespace TealTools.AvmValue

/-- Values that are built from bytes or from an integer. -/
inductive Built : AvmValue → Prop where
  | bytes (bytes : Bytes) : Built (ofBytes bytes)
  | uint (number : UInt64) : Built (ofUint number)

/-- The base64 text of the bytes reads back, and is never shown itself. -/
@[simp] theorem toList_display_ofBytes (bytes : Bytes) :
    (ofBytes bytes).display.toList =
      '0' :: 'x' :: Codec.Hex.encode bytes := by
  simp [display, ofBytes, bytesKind]

@[simp] theorem toList_display_ofUint (number : UInt64) :
    (ofUint number).display.toList = Nat.toDigits 10 number.toNat :=
  Nat.toList_repr

theorem display_ofBytes_injective {bytes other : Bytes}
    (same : (ofBytes bytes).display = (ofBytes other).display) :
    bytes = other := by
  have shown := congrArg String.toList same
  rw [toList_display_ofBytes, toList_display_ofBytes] at shown
  exact Codec.Hex.encode_injective (List.cons.inj (List.cons.inj shown).2).2

theorem display_ofUint_injective {number other : UInt64}
    (same : (ofUint number).display = (ofUint other).display) :
    number = other := by
  have shown := congrArg String.toList same
  rw [toList_display_ofUint, toList_display_ofUint] at shown
  exact UInt64.toNat_inj.mp (Text.toDigits_injective shown)

/-- There is no `x` in a decimal numeral. -/
theorem display_ofBytes_ne_ofUint (bytes : Bytes) (number : UInt64) :
    (ofBytes bytes).display ≠ (ofUint number).display := by
  intro same
  have shown := congrArg String.toList same
  rw [toList_display_ofBytes, toList_display_ofUint] at shown
  have free : 'x' ∉ Nat.toDigits 10 number.toNat :=
    Text.not_mem_toDigits (by decide) number.toNat
  rw [← shown] at free
  exact free (List.mem_cons_of_mem '0' List.mem_cons_self)

/-- Bytes are shown as their digits behind `0x`, an integer as its decimal
numeral, and different values differently. -/
theorem values_are_shown_faithfully :
    (∀ bytes, (ofBytes bytes).typeName = "bytes" ∧
      (ofBytes bytes).display.toList = '0' :: 'x' ::
        bytes.flatMap fun byte =>
          [(byte.toNat / 16).digitChar, (byte.toNat % 16).digitChar]) ∧
    (∀ number, (ofUint number).typeName = "uint64" ∧
      (ofUint number).display.toList = Nat.toDigits 10 number.toNat) ∧
    ∀ first second, Built first → Built second →
      (first.display = second.display ↔ first = second) := by
  refine ⟨fun bytes => ⟨rfl, ?_⟩,
    fun number => ⟨rfl, toList_display_ofUint number⟩, ?_⟩
  · rw [toList_display_ofBytes, Codec.Hex.encode_eq_flatMap]
  · intro first second built other
    refine ⟨fun same => ?_, fun same => same ▸ rfl⟩
    cases built with
    | bytes bytes =>
        cases other with
        | bytes others => rw [display_ofBytes_injective same]
        | uint number =>
            exact absurd same (display_ofBytes_ne_ofUint bytes number)
    | uint number =>
        cases other with
        | bytes bytes =>
            exact absurd same.symm (display_ofBytes_ne_ofUint bytes number)
        | uint others => rw [display_ofUint_injective same]

/-- The digits of a byte, and the integer with the same ones. -/
theorem values_are_shown_faithfully_digits :
    Built (ofBytes [0x12]) ∧ Built (ofUint 12) ∧
      (ofBytes [0x12]).display = "0x12" ∧ (ofUint 12).display = "12" ∧
      (ofBytes [0x12]).display ≠ (ofUint 12).display := by
  have bytes := Built.bytes [0x12]
  have number := Built.uint 12
  have apart := values_are_shown_faithfully.2.2 _ _ bytes number
  refine ⟨bytes, number, ?_, ?_, fun same => ?_⟩
  · exact String.toList_inj.mp ((toList_display_ofBytes _).trans (by decide))
  · exact String.toList_inj.mp ((toList_display_ofUint _).trans (by decide))
  · exact absurd (apart.mp same) (by decide)

end TealTools.AvmValue
