import Mathlib.Algebra.Group.Nat.Defs
import TealTools.Codec.Varuint

/-!
# Reading variable-length integers

A number is read back by adding up groups of seven bits, up to the first byte
without its top bit.  Reading stops exactly where writing stopped, whatever
follows.
-/

namespace TealTools.Codec

/-- The number at the head of bytes, and the bytes behind it. -/
def readVaruint : Bytes → Option (Nat × Bytes)
  | [] => none
  | byte :: rest =>
    if byte.toNat < 0x80 then some (byte.toNat, rest)
    else
      match readVaruint rest with
      | some (high, rest) => some (byte.toNat - 0x80 + 0x80 * high, rest)
      | none => none

theorem putVaruint_eq_append (out : Bytes) (value : Nat) :
    putVaruint out value = out ++ varuint value := by
  induction value using Nat.strongRecOn generalizing out with
  | ind value induction =>
      unfold varuint
      by_cases small : value < 0x80
      · rw [putVaruint, if_pos small, putVaruint, if_pos small,
          List.nil_append]
      · have smaller : value / 0x80 < value := by omega
        rw [putVaruint, if_neg small, putVaruint.eq_def [], if_neg small,
          induction _ smaller, induction _ smaller, List.nil_append,
          List.append_assoc]

/-- The last byte, or one group of seven bits and the rest of the number. -/
theorem varuint_eq (value : Nat) :
    varuint value =
      if value < 0x80 then [UInt8.ofNat value]
      else UInt8.ofNat (value % 0x80 + 0x80) :: varuint (value / 0x80) := by
  rw [varuint, putVaruint, putVaruint_eq_append]
  rfl

theorem varuint_of_lt {value : Nat} (small : value < 0x80) :
    varuint value = [UInt8.ofNat value] := by
  rw [varuint_eq, if_pos small]

@[simp] theorem readVaruint_varuint (value : Nat) (rest : Bytes) :
    readVaruint (varuint value ++ rest) = some (value, rest) := by
  induction value using Nat.strongRecOn with
  | ind value induction =>
      rw [varuint_eq]
      split
      · rename_i small
        have byte : (UInt8.ofNat value).toNat = value :=
          UInt8.toNat_ofNat_of_lt (by simp only [UInt8.size]; omega)
        simp [readVaruint, byte, small]
      · rename_i large
        have byte :
            (UInt8.ofNat (value % 0x80 + 0x80)).toNat = value % 0x80 + 0x80 :=
          UInt8.toNat_ofNat_of_lt (by simp only [UInt8.size]; omega)
        have tail := induction (value / 0x80) (by omega)
        have high : ¬value % 0x80 + 0x80 < 0x80 := by omega
        simp only [List.cons_append, readVaruint, byte, tail, high,
          if_false, Option.some.injEq, Prod.mk.injEq, and_true]
        omega

theorem readVaruint_suffix {bytes rest : Bytes} {value : Nat}
    (read : readVaruint bytes = some (value, rest)) : rest <:+ bytes := by
  induction bytes generalizing value with
  | nil => simp [readVaruint] at read
  | cons byte tail induction =>
      rw [readVaruint] at read
      split at read
      · cases read
        exact List.suffix_cons byte rest
      · split at read
        · rename_i high after tailRead
          cases read
          exact (induction tailRead).trans (List.suffix_cons byte tail)
        · cases read

/-! ## Length -/

/-- Every byte holds one group of seven bits. -/
theorem length_varuint_le {value groups : Nat} (small : value < 0x80 ^ groups) :
    (varuint value).length ≤ max 1 groups := by
  induction groups generalizing value with
  | zero =>
      rw [Nat.pow_zero] at small
      rw [varuint_of_lt (by omega)]
      exact Nat.le_refl 1
  | succ groups induction =>
      rw [varuint_eq]
      split
      · exact Nat.le_max_left 1 _
      · rename_i large
        have high : value / 0x80 < 0x80 ^ groups := by
          rw [Nat.pow_succ] at small
          exact Nat.div_lt_of_lt_mul (Nat.mul_comm _ _ ▸ small)
        have shorter := induction high
        cases groups with
        | zero =>
            rw [Nat.pow_zero] at high
            omega
        | succ groups =>
            rw [List.length_cons]
            omega

theorem length_varuint_le_succ (value : Nat) :
    (varuint value).length ≤ value + 1 := by
  induction value using Nat.strongRecOn with
  | ind value induction =>
      rw [varuint_eq]
      split
      · exact Nat.succ_le_succ (Nat.zero_le value)
      · have smaller : value / 0x80 < value := by omega
        have shorter := induction _ smaller
        rw [List.length_cons]
        omega

/-! ## Shortest codes -/

/-- A code in groups of seven bits, in which no group could be left out. -/
structure IsShortestCode (value : Nat) (code : Bytes) : Prop where
  grouped : ∃ front last, code = front ++ [last] ∧
    (∀ byte ∈ front, 0x80 ≤ byte.toNat) ∧ last.toNat < 0x80 ∧
      (value ≠ 0 → last ≠ 0)
  shortest : ∀ other, readVaruint other = some (value, []) →
    code.length ≤ other.length

/-- A number is smaller than what its groups have room for. -/
private theorem readVaruint_lt {bytes rest : Bytes} {value : Nat}
    (read : readVaruint bytes = some (value, rest)) :
    ∃ code, bytes = code ++ rest ∧ code ≠ [] ∧ value < 0x80 ^ code.length := by
  induction bytes generalizing value with
  | nil => cases read
  | cons byte tail induction =>
      rw [readVaruint] at read
      split at read
      · rename_i small
        cases read
        exact ⟨[byte], rfl, List.cons_ne_nil byte [], by simpa using small⟩
      · split at read
        · rename_i high behind tailRead
          cases read
          obtain ⟨code, rfl, -, bound⟩ := induction tailRead
          refine ⟨byte :: code, rfl, List.cons_ne_nil byte code, ?_⟩
          have group := byte.toNat_lt
          rw [List.length_cons, Nat.pow_succ]
          omega
        · cases read

private theorem varuint_grouped (value : Nat) :
    ∃ front last, varuint value = front ++ [last] ∧
      (∀ byte ∈ front, 0x80 ≤ byte.toNat) ∧ last.toNat < 0x80 ∧
        (value ≠ 0 → last ≠ 0) := by
  induction value using Nat.strongRecOn with
  | ind value induction =>
      rw [varuint_eq]
      split
      · rename_i small
        have byte : (UInt8.ofNat value).toNat = value :=
          UInt8.toNat_ofNat_of_lt (by simp only [UInt8.size]; omega)
        refine ⟨[], UInt8.ofNat value, rfl, nofun, byte.symm ▸ small, ?_⟩
        intro positive zero
        rw [zero] at byte
        exact positive byte.symm
      · rename_i large
        have byte :
            (UInt8.ofNat (value % 0x80 + 0x80)).toNat = value % 0x80 + 0x80 :=
          UInt8.toNat_ofNat_of_lt (by simp only [UInt8.size]; omega)
        obtain ⟨front, last, split, marked, final, filled⟩ :=
          induction (value / 0x80) (by omega)
        refine ⟨UInt8.ofNat (value % 0x80 + 0x80) :: front, last, ?_, ?_,
          final, ?_⟩
        · rw [split, List.cons_append]
        · rw [List.forall_mem_cons, byte]
          exact ⟨Nat.le_add_left 0x80 _, marked⟩
        · exact fun _ => filled (by omega)

theorem varuint_isShortestCode (value : Nat) :
    IsShortestCode value (varuint value) where
  grouped := varuint_grouped value
  shortest other read := by
    obtain ⟨code, rfl, nonempty, bound⟩ := readVaruint_lt read
    have length := length_varuint_le bound
    have positive := List.length_pos_iff.mpr nonempty
    rw [List.append_nil]
    omega

/-! ## Machine words -/

theorem length_varuint_uint64_le (value : UInt64) :
    (varuint value.toNat).length ≤ 10 := by
  have wide : value.toNat < 0x80 ^ 10 :=
    Nat.lt_trans value.toNat_lt (by decide)
  exact length_varuint_le wide

/-- One round: the low seven bits are masked and marked, and the others are
shifted down. -/
theorem putVaruint_uint64 (out : Bytes) (value : UInt64) :
    putVaruint out value.toNat =
      if value < 0x80 then out ++ [value.toUInt8]
      else putVaruint (out ++ [(value &&& 0x7F).toUInt8 ||| 0x80])
        (value >>> 7).toNat := by
  have mask : (value &&& 0x7F).toNat = value.toNat % 0x80 := by
    rw [UInt64.toNat_and]
    exact Nat.and_two_pow_sub_one_eq_mod value.toNat 7
  have high : (value >>> 7).toNat = value.toNat / 0x80 := by
    rw [UInt64.toNat_shiftRight]
    exact Nat.shiftRight_eq_div_pow value.toNat 7
  have marked : (value &&& 0x7F).toUInt8 ||| 0x80 =
      UInt8.ofNat (value.toNat % 0x80 + 0x80) := by
    have group : value.toNat % 0x80 < 2 ^ 7 := Nat.mod_lt _ (by decide)
    have sum : (value.toNat % 0x80 + 0x80) % 2 ^ 8 =
        2 ^ 7 * 1 + value.toNat % 0x80 := by omega
    rw [← UInt8.toNat_inj, UInt8.toNat_or, UInt64.toNat_toUInt8, mask,
      UInt8.toNat_ofNat', sum, Nat.two_pow_add_eq_or_of_lt group, Nat.or_comm,
      Nat.mod_eq_of_lt (b := 2 ^ 8) (by omega)]
    rfl
  rw [putVaruint, high, marked]
  rfl

/-- Appends numbers one after the other. -/
def putVaruints (out : Bytes) (values : List UInt64) : Bytes :=
  values.foldl (fun out value => putVaruint out value.toNat) out

theorem putVaruints_eq (out : Bytes) (values : List UInt64) :
    putVaruints out values =
      out ++ values.flatMap fun value => varuint value.toNat := by
  induction values generalizing out with
  | nil => exact (List.append_nil out).symm
  | cons value values induction =>
      rw [List.flatMap_cons, ← List.append_assoc, ← putVaruint_eq_append,
        ← induction]
      rfl

theorem varuint_append_inj {value other : Nat} {rest tail : Bytes}
    (same : varuint value ++ rest = varuint other ++ tail) :
    value = other ∧ rest = tail := by
  have read := readVaruint_varuint value rest
  rw [same, readVaruint_varuint] at read
  cases read
  exact ⟨rfl, rfl⟩

theorem varuint_ne_nil (value : Nat) : varuint value ≠ [] := by
  intro empty
  have read := readVaruint_varuint value []
  rw [empty] at read
  cases read

/-- Numbers are told apart by what they are written as, if it is known how
many there are or if nothing stands behind them. -/
theorem flatMap_varuint_inj {values others : List UInt64} {rest tail : Bytes}
    (same : values.flatMap (fun value => varuint value.toNat) ++ rest =
      others.flatMap (fun value => varuint value.toNat) ++ tail)
    (known : values.length = others.length ∨ rest = [] ∧ tail = []) :
    values = others ∧ rest = tail := by
  -- One list is longer only if nothing may stand behind the other one.
  have nothing (value : UInt64) (code : Bytes) :
      varuint value.toNat ++ code ≠ [] := fun empty =>
    varuint_ne_nil _ (List.append_eq_nil_iff.mp empty).1
  induction values generalizing others with
  | nil =>
      cases others with
      | nil => exact ⟨rfl, same⟩
      | cons other others =>
          obtain length | ⟨rfl, rfl⟩ := known
          · cases length
          · rw [List.append_nil, List.append_nil, List.flatMap_cons] at same
            exact absurd same.symm (nothing other _)
  | cons value values induction =>
      rw [List.flatMap_cons, List.append_assoc] at same
      cases others with
      | nil =>
          obtain length | ⟨rfl, rfl⟩ := known
          · cases length
          · exact absurd same (nothing value _)
      | cons other others =>
          rw [List.flatMap_cons, List.append_assoc] at same
          obtain ⟨equal, behind⟩ := varuint_append_inj same
          obtain ⟨rfl, rfl⟩ := induction behind (known.imp_left Nat.succ.inj)
          rw [UInt64.toNat_inj.mp equal]
          exact ⟨rfl, rfl⟩

/-- A number is only ever appended, in one byte to ten: in the shortest code
that is read back as this number, whatever stands behind it.  Each round masks
and marks seven bits and shifts the others down.  Numbers that are written one
after the other are read in one way only. -/
theorem varuints_are_shortest_and_unique (value : UInt64) (out : Bytes) :
    putVaruint out value.toNat =
      (if value < 0x80 then out ++ [value.toUInt8]
      else putVaruint (out ++ [(value &&& 0x7F).toUInt8 ||| 0x80])
        (value >>> 7).toNat) ∧
    (∃ code, putVaruint out value.toNat = out ++ code ∧
      (1 ≤ code.length ∧ code.length ≤ 10) ∧
      IsShortestCode value.toNat code ∧
      ∀ rest, readVaruint (code ++ rest) = some (value.toNat, rest)) ∧
    ∀ values others : List UInt64, ∀ rest tail,
      putVaruints out values ++ rest = putVaruints out others ++ tail →
        values.length = others.length ∨ rest = [] ∧ tail = [] →
          values = others ∧ rest = tail := by
  refine ⟨putVaruint_uint64 out value, ?_, ?_⟩
  · have shortest := varuint_isShortestCode value.toNat
    obtain ⟨front, last, split, -⟩ := shortest.grouped
    have positive : 1 ≤ (varuint value.toNat).length := by
      rw [split, List.length_append]
      exact Nat.le_add_left 1 front.length
    exact ⟨varuint value.toNat, putVaruint_eq_append out value.toNat,
      ⟨positive, length_varuint_uint64_le value⟩, shortest,
      readVaruint_varuint value.toNat⟩
  · intro values others rest tail same known
    rw [putVaruints_eq, putVaruints_eq, List.append_assoc,
      List.append_assoc] at same
    exact flatMap_varuint_inj (List.append_cancel_left same) known

/-- The largest number takes ten bytes. -/
theorem varuints_are_shortest_and_unique_largest :
    ∃ code, putVaruints [0x26] [300, 18446744073709551615] =
        0x26 :: 0xAC :: 0x02 :: code ∧ code.length = 10 ∧
      ∀ value, putVaruints [0x26] [300, 18446744073709551615] ++ [0x80] =
          putVaruints [0x26] [300, value] ++ [0x80] →
        [300, 18446744073709551615] = [300, value] ∧
          ([0x80] : Bytes) = [0x80] := by
  refine ⟨List.replicate 9 0xFF ++ [0x01], by decide +kernel, rfl, ?_⟩
  intro value same
  exact (varuints_are_shortest_and_unique value [0x26]).2.2 _ _ _ _ same
    (.inl rfl)

end TealTools.Codec
