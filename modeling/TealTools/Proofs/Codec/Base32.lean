import Mathlib.Data.List.Induction
import Mathlib.Tactic.Ring
import TealTools.Codec.Base32

/-!
# Base32 text

The characters of a text stand for five bits each, and its bytes are these
bits taken eight at a time.  Reading gives exactly these bytes, since the
pending bits are always the ones that no byte has taken yet.
-/

namespace TealTools.Codec.Base32

/-! ## Bits -/

/-- The lowest bits of a number, most significant first. -/
def bitsOf : Nat → Nat → List Bool
  | 0, _ => []
  | width + 1, value => bitsOf width (value / 2) ++ [value % 2 == 1]

/-- The number that bits stand for. -/
def valueOf (bits : List Bool) : Nat :=
  bits.foldl (fun value bit => 2 * value + bit.toNat) 0

/-- Bits taken eight at a time; what does not fill a byte is dropped. -/
def bytesOf : List Bool → Bytes
  | a :: b :: c :: d :: e :: f :: g :: h :: rest =>
    UInt8.ofNat (valueOf [a, b, c, d, e, f, g, h]) :: bytesOf rest
  | _ => []

/-- The bits of bytes, most significant first. -/
def byteBits (bytes : Bytes) : List Bool :=
  bytes.flatMap fun byte => bitsOf 8 byte.toNat

@[simp] theorem length_bitsOf (width value : Nat) :
    (bitsOf width value).length = width := by
  induction width generalizing value with
  | zero => rfl
  | succ width induction => simp [bitsOf, induction]

@[simp] theorem length_byteBits (bytes : Bytes) :
    (byteBits bytes).length = 8 * bytes.length := by
  simp [byteBits, List.map_const', Nat.mul_comm]

theorem bitsOf_append {low lowWidth : Nat} (small : low < 2 ^ lowWidth)
    (width high : Nat) :
    bitsOf (width + lowWidth) (high * 2 ^ lowWidth + low) =
      bitsOf width high ++ bitsOf lowWidth low := by
  induction lowWidth generalizing low with
  | zero =>
      have none : low = 0 := by omega
      simp [none, bitsOf]
  | succ lowWidth induction =>
      have half : (high * 2 ^ (lowWidth + 1) + low) / 2 =
          high * 2 ^ lowWidth + low / 2 := by
        rw [pow_succ, ← mul_assoc]
        omega
      have last : (high * 2 ^ (lowWidth + 1) + low) % 2 = low % 2 := by
        rw [pow_succ, ← mul_assoc]
        omega
      rw [← Nat.add_assoc, bitsOf, half, last,
        induction (by rw [pow_succ] at small; omega), List.append_assoc]
      rfl

/-- The first bits are those of the number without its last ones. -/
private theorem bitsOf_add (width left number : Nat) :
    bitsOf (width + left) number =
      bitsOf width (number / 2 ^ left) ++ bitsOf left (number % 2 ^ left) := by
  have low : number % 2 ^ left < 2 ^ left :=
    Nat.mod_lt _ (Nat.two_pow_pos left)
  have bits := bitsOf_append low width (number / 2 ^ left)
  rwa [Nat.div_add_mod'] at bits

private theorem valueOf_concat (bits : List Bool) (bit : Bool) :
    valueOf (bits ++ [bit]) = 2 * valueOf bits + bit.toNat := by
  simp [valueOf]

theorem valueOf_bitsOf {width value : Nat} (small : value < 2 ^ width) :
    valueOf (bitsOf width value) = value := by
  induction width generalizing value with
  | zero =>
      have none : value = 0 := by omega
      simp [none, bitsOf, valueOf]
  | succ width induction =>
      rw [bitsOf, valueOf_concat,
        induction (by rw [pow_succ] at small; omega)]
      rcases Nat.mod_two_eq_zero_or_one value with even | odd
      · simp [even]
        omega
      · simp [odd]
        omega

private theorem valueOf_lt (bits : List Bool) :
    valueOf bits < 2 ^ bits.length := by
  induction bits using List.reverseRecOn with
  | nil => simp [valueOf]
  | append_singleton bits bit induction =>
      rw [valueOf_concat, List.length_append, List.length_singleton,
        pow_succ]
      have := bit.toNat_le
      omega

@[simp] theorem bitsOf_valueOf (bits : List Bool) :
    bitsOf bits.length (valueOf bits) = bits := by
  induction bits using List.reverseRecOn with
  | nil => rfl
  | append_singleton bits bit induction =>
      rw [valueOf_concat, List.length_append, List.length_singleton, bitsOf]
      cases bit with
      | false =>
          rw [show (2 * valueOf bits + false.toNat) / 2 = valueOf bits by
            simp, induction]
          simp
      | true =>
          rw [show (2 * valueOf bits + true.toNat) / 2 = valueOf bits by
            simp; omega, induction]
          simp

theorem bytesOf_bitsOf_append {value : Nat} (small : value < 2 ^ 8)
    (rest : List Bool) :
    bytesOf (bitsOf 8 value ++ rest) = UInt8.ofNat value :: bytesOf rest := by
  have whole := valueOf_bitsOf small
  simp only [bitsOf, List.nil_append, List.cons_append, bytesOf] at whole ⊢
  rw [whole]

private theorem bytesOf_short {bits : List Bool} (short : bits.length < 8) :
    bytesOf bits = [] := by
  unfold bytesOf
  split
  · simp only [List.length_cons] at short
    omega
  · rfl

/-- Whole bytes are given back, whatever stands behind them. -/
private theorem bytesOf_byteBits_append (bytes : Bytes) (rest : List Bool) :
    bytesOf (byteBits bytes ++ rest) = bytes ++ bytesOf rest := by
  induction bytes with
  | nil => rfl
  | cons byte bytes induction =>
      rw [byteBits, List.flatMap_cons, List.append_assoc,
        bytesOf_bitsOf_append byte.toNat_lt, ← byteBits, induction,
        UInt8.ofNat_toNat]
      rfl

@[simp] theorem bytesOf_byteBits (bytes : Bytes) {rest : List Bool}
    (short : rest.length < 8) : bytesOf (byteBits bytes ++ rest) = bytes := by
  rw [bytesOf_byteBits_append, bytesOf_short short, List.append_nil]

private theorem bytesOf_append_of_eight
    {bits : List Bool} (eight : bits.length = 8)
    (rest : List Bool) :
    bytesOf (bits ++ rest) = UInt8.ofNat (valueOf bits) :: bytesOf rest := by
  have own := bitsOf_valueOf bits
  have bound := valueOf_lt bits
  rw [eight] at own bound
  rw [← bytesOf_bitsOf_append bound, own]

/-- Bytes taken from bits are these bits, without those that fill no byte. -/
theorem exists_dropped (bits : List Bool) :
    ∃ dropped : List Bool, dropped.length < 8 ∧
      byteBits (bytesOf bits) ++ dropped = bits := by
  induction size : bits.length using Nat.strongRecOn generalizing bits with
  | ind length induction =>
      by_cases short : bits.length < 8
      · refine ⟨bits, short, ?_⟩
        rw [bytesOf_short short]
        rfl
      · have eight : (bits.take 8).length = 8 := by
          rw [List.length_take]
          omega
        obtain ⟨dropped, few, whole⟩ := induction (length - 8) (by omega)
          (bits.drop 8) (by rw [List.length_drop, size])
        refine ⟨dropped, few, ?_⟩
        have own := bitsOf_valueOf (bits.take 8)
        have bound := valueOf_lt (bits.take 8)
        rw [eight] at own bound
        have byte : (UInt8.ofNat (valueOf (bits.take 8))).toNat =
            valueOf (bits.take 8) := UInt8.toNat_ofNat_of_lt' bound
        rw [← List.take_append_drop 8 bits, bytesOf_append_of_eight eight,
          byteBits, List.flatMap_cons, byte, own, List.append_assoc,
          ← byteBits, whole]

/-! ## Reading -/

namespace Pending

/-- No bit above the pending ones is left, and they do not fill a byte. -/
structure Sound (pending : Pending) : Prop where
  buffer : pending.buffer.toNat < 2 ^ pending.bits
  bits : pending.bits < 8

/-- The pending bits. -/
def stream (pending : Pending) : List Bool :=
  bitsOf pending.bits pending.buffer.toNat

/-- The bits of the buffer with five more behind them. -/
private theorem toNat_shifted {pending : Pending} (sound : pending.Sound)
    {value : UInt32} (small : value.toNat < 2 ^ 5) :
    (pending.buffer <<< 5 ||| value).toNat =
      pending.buffer.toNat * 2 ^ 5 + value.toNat := by
  have bound : pending.buffer.toNat < 2 ^ 8 :=
    lt_of_lt_of_le sound.buffer
      (Nat.pow_le_pow_right (by omega) sound.bits.le)
  have shift : (pending.buffer <<< 5).toNat = pending.buffer.toNat <<< 5 := by
    rw [UInt32.toNat_shiftLeft]
    change pending.buffer.toNat <<< 5 % 2 ^ 32 = _
    rw [Nat.shiftLeft_eq, Nat.mod_eq_of_lt (by omega)]
  rw [UInt32.toNat_or, shift, ← Nat.shiftLeft_add_eq_or_of_lt small,
    Nat.shiftLeft_eq]

private theorem toNat_mask {left : Nat} (short : left < 8) (buffer : UInt32) :
    (buffer &&& (1 <<< UInt32.ofNat left - 1)).toNat =
      buffer.toNat % 2 ^ left := by
  have mask : ∀ left < 8,
      ((1 : UInt32) <<< UInt32.ofNat left - 1).toNat = 2 ^ left - 1 := by
    decide
  rw [UInt32.toNat_and, mask left short, Nat.and_two_pow_sub_one_eq_mod]

theorem toNat_shiftRight {left : Nat} (short : left < 8) (buffer : UInt32) :
    (buffer >>> UInt32.ofNat left).toNat = buffer.toNat / 2 ^ left := by
  rw [UInt32.toNat_shiftRight, UInt32.toNat_ofNat',
    Nat.mod_eq_of_lt (a := left) (by omega), Nat.mod_eq_of_lt (by omega),
    Nat.shiftRight_eq_div_pow]

/-- Five more bits are taken in, and the first eight given out if there are
as many.  No bit is lost. -/
theorem push_stream {pending : Pending} (sound : pending.Sound)
    {value : UInt32} (small : value.toNat < 2 ^ 5) :
    (pending.push value).2.Sound ∧
      byteBits (pending.push value).1.toList ++
          (pending.push value).2.stream =
        pending.stream ++ bitsOf 5 value.toNat := by
  have number := toNat_shifted sound small
  have joined := bitsOf_append small pending.bits pending.buffer.toNat
  have bound : (pending.buffer <<< 5 ||| value).toNat <
      2 ^ (pending.bits + 5) := by
    have := sound.buffer
    rw [number, pow_add]
    omega
  have short := sound.bits
  rw [← number] at joined
  simp only [stream, ← joined, push]
  generalize pending.buffer <<< 5 ||| value = buffer at bound
  by_cases full : pending.bits + 5 ≥ 8
  · obtain ⟨left, width⟩ := Nat.exists_eq_add_of_le full
    have few : left < 8 := by omega
    rw [width] at bound
    have byte : (buffer >>> UInt32.ofNat left).toUInt8.toNat =
        buffer.toNat / 2 ^ left := by
      rw [UInt32.toNat_toUInt8, toNat_shiftRight few]
      apply Nat.mod_eq_of_lt
      apply Nat.div_lt_of_lt_mul
      rwa [← pow_add, Nat.add_comm]
    simp only [width, ge_iff_le, Nat.le_add_right, if_true,
      Nat.add_sub_cancel_left, toNat_mask few, Option.toList_some]
    refine ⟨⟨?_, few⟩, ?_⟩
    · rw [toNat_mask few]
      exact Nat.mod_lt _ (Nat.two_pow_pos left)
    · rw [bitsOf_add, byteBits, List.flatMap_singleton, byte]
  · simp only [if_neg full, Option.toList_none]
    exact ⟨⟨bound, not_le.mp full⟩, rfl⟩

end Pending

/-- The bits that values of five bits each stand for. -/
def valueBits (values : List UInt32) : List Bool :=
  values.flatMap fun value => bitsOf 5 value.toNat

@[simp] theorem length_valueBits (values : List UInt32) :
    (valueBits values).length = 5 * values.length := by
  simp [valueBits, List.map_const', Nat.mul_comm]

theorem value?_lt {c : Char} {value : UInt32} (found : value? c = some value) :
    value.toNat < 2 ^ 5 := by
  unfold value? at found
  split_ifs at found with letter digit
  · have low : 65 ≤ c.val.toNat := letter.1
    have high : c.val.toNat ≤ 90 := letter.2
    cases found
    rw [UInt32.toNat_sub_of_le _ _ letter.1]
    simp only [Char.reduceVal, UInt32.reduceToNat]
    omega
  · have low : 50 ≤ c.val.toNat := digit.1
    have high : c.val.toNat ≤ 55 := digit.2
    cases found
    rw [UInt32.toNat_add, UInt32.toNat_sub_of_le _ _ digit.1]
    simp only [Char.reduceVal, UInt32.reduceToNat]
    omega

theorem decodeFrom?_eq {pending : Pending} (sound : pending.Sound)
    (text : List Char) :
    decodeFrom? pending text = (text.mapM value?).map fun values =>
      bytesOf (pending.stream ++ valueBits values) := by
  induction text generalizing pending with
  | nil =>
      have short : pending.stream.length < 8 := by
        rw [Pending.stream, length_bitsOf]
        exact sound.bits
      simp [decodeFrom?, valueBits, bytesOf_short short]
  | cons c text induction =>
      cases found : value? c with
      | none => simp [decodeFrom?, found]
      | some value =>
          obtain ⟨next, kept⟩ := Pending.push_stream sound (value?_lt found)
          have given (more : List Bool) :
              bytesOf (pending.stream ++ (bitsOf 5 value.toNat ++ more)) =
                (pending.push value).1.toList ++
                  bytesOf ((pending.push value).2.stream ++ more) := by
            rw [← List.append_assoc, ← kept, List.append_assoc,
              bytesOf_byteBits_append]
          simp only [decodeFrom?, found, List.mapM_cons]
          cases others : text.mapM value? <;>
            simp [induction next, others, valueBits, given]

/-- Reading a text gives the bytes of its bits, if it is one of the
alphabet. -/
theorem decode?_eq (text : List Char) :
    decode? text = ((dropPadding text).mapM value?).map fun values =>
      bytesOf (valueBits values) :=
  decodeFrom?_eq ⟨by decide, by decide⟩ (dropPadding text)

/-! ## Texts -/

/-- The character of a value of five bits. -/
def char (value : Nat) : Char :=
  if value < 26 then Char.ofNat (value + 'A'.toNat)
  else Char.ofNat (value - 26 + '2'.toNat)

/-- Bits taken five at a time; zeros fill up the last five. -/
def spell : List Bool → List Char
  | [] => []
  | a :: b :: c :: d :: e :: rest =>
    char (valueOf [a, b, c, d, e]) :: spell rest
  | bits =>
    [char (valueOf (bits ++ List.replicate (5 - bits.length) false))]

/-- The text of bytes without padding. -/
def encode (bytes : Bytes) : List Char :=
  spell (byteBits bytes)

theorem value?_char {value : Nat} (small : value < 2 ^ 5) :
    value? (char value) = some (UInt32.ofNat value) := by
  revert value
  decide

theorem char_of_value? {c : Char} {value : UInt32}
    (found : value? c = some value) : char value.toNat = c := by
  have whole {code : Nat} (same : code = c.toNat) : Char.ofNat code = c :=
    same ▸ Char.ofNat_toNat c
  unfold value? at found
  split_ifs at found with letter digit
  · have low : 65 ≤ c.toNat := letter.1
    have high : c.toNat ≤ 90 := letter.2
    have number : (c.val - 'A'.val).toNat = c.toNat - 65 :=
      UInt32.toNat_sub_of_le _ _ letter.1
    cases found
    rw [number, char, if_pos (by omega)]
    exact whole (by simp only [Char.reduceToNat]; omega)
  · have low : 50 ≤ c.toNat := digit.1
    have high : c.toNat ≤ 55 := digit.2
    have number : (c.val - '2'.val + 26).toNat = c.toNat - 50 + 26 := by
      rw [UInt32.toNat_add, UInt32.toNat_sub_of_le _ _ digit.1]
      change (c.toNat - 50 + 26) % 2 ^ 32 = _
      exact Nat.mod_eq_of_lt (by omega)
    cases found
    rw [number, char, if_neg (by omega)]
    exact whole (by simp only [Char.reduceToNat]; omega)

private theorem length_lt_of_not_five {bits : List Bool}
    (few : ∀ a b c d e rest, bits = a :: b :: c :: d :: e :: rest → False) :
    bits.length < 5 := by
  match bits with
  | [] | [_] | [_, _] | [_, _, _] | [_, _, _, _] => simp
  | a :: b :: c :: d :: e :: rest => exact (few a b c d e rest rfl).elim

private theorem length_filled {bits : List Bool} (few : bits.length < 5) :
    (bits ++ List.replicate (5 - bits.length) false).length = 5 := by
  rw [List.length_append, List.length_replicate]
  omega

/-- A property of the alphabet is one of every text. -/
theorem forall_mem_spell {holds : Char → Prop}
    (alphabet : ∀ value < 2 ^ 5, holds (char value)) (bits : List Bool) :
    ∀ c ∈ spell bits, holds c := by
  fun_induction spell bits with
  | case1 => simp
  | case2 a b c d e rest induction =>
      exact List.forall_mem_cons.mpr ⟨alphabet _ (valueOf_lt _), induction⟩
  | case3 bits nonempty few =>
      have bound := valueOf_lt
        (bits ++ List.replicate (5 - bits.length) false)
      rw [length_filled (length_lt_of_not_five few)] at bound
      simpa using alphabet _ bound

theorem forall_mem_encode {holds : Char → Prop}
    (alphabet : ∀ value < 2 ^ 5, holds (char value)) (bytes : Bytes) :
    ∀ c ∈ encode bytes, holds c :=
  forall_mem_spell alphabet _

/-- The character of five bits stands for these bits. -/
private theorem exists_value?_char {bits : List Bool} (five : bits.length = 5) :
    ∃ value, value? (char (valueOf bits)) = some value ∧
      bitsOf 5 value.toNat = bits := by
  have bound := valueOf_lt bits
  have own := bitsOf_valueOf bits
  rw [five] at bound own
  refine ⟨_, value?_char bound, ?_⟩
  rw [UInt32.toNat_ofNat', Nat.mod_eq_of_lt (by omega), own]

/-- The characters of bits stand for these bits, and for zeros behind them. -/
theorem mapM_value?_spell (bits : List Bool) :
    ∃ values filling, (spell bits).mapM value? = some values ∧
      valueBits values = bits ++ List.replicate filling false ∧
      filling < 5 := by
  fun_induction spell bits with
  | case1 => exact ⟨[], 0, rfl, rfl, by decide⟩
  | case2 a b c d e rest induction =>
      obtain ⟨values, filling, read, bits, few⟩ := induction
      obtain ⟨value, found, own⟩ := @exists_value?_char [a, b, c, d, e] rfl
      refine ⟨value :: values, filling, ?_, ?_, few⟩
      · simp [found, read]
      · rw [valueBits, List.flatMap_cons, ← valueBits, bits, own]
        rfl
  | case3 bits nonempty few =>
      obtain ⟨value, found, own⟩ :=
        exists_value?_char (length_filled (length_lt_of_not_five few))
      refine ⟨[value], 5 - bits.length, ?_, ?_, ?_⟩
      · simp [found]
      · rw [valueBits, List.flatMap_singleton, own]
      · have := List.length_pos_iff.mpr nonempty
        omega

private theorem spell_append_of_five {bits : List Bool} (five : bits.length = 5)
    (rest : List Bool) :
    spell (bits ++ rest) = char (valueOf bits) :: spell rest := by
  rcases bits with _ | ⟨a, _ | ⟨b, _ | ⟨c, _ | ⟨d, _ | ⟨e, _ | _⟩⟩⟩⟩⟩ <;>
    cases five
  rfl

theorem spell_of_five {bits : List Bool} (five : bits.length = 5) :
    spell bits = [char (valueOf bits)] := by
  have alone := spell_append_of_five five []
  rw [List.append_nil] at alone
  exact alone

private theorem spell_valueBits {text : List Char} {values : List UInt32}
    (read : text.mapM value? = some values) :
    spell (valueBits values) = text := by
  induction text generalizing values with
  | nil =>
      cases read
      rfl
  | cons c text induction =>
      rw [List.mapM_cons] at read
      obtain ⟨value, first, read⟩ := Option.bind_eq_some_iff.mp read
      obtain ⟨more, later, read⟩ := Option.bind_eq_some_iff.mp read
      cases read
      have small := value?_lt first
      rw [valueBits, List.flatMap_cons, ← valueBits,
        spell_append_of_five (length_bitsOf 5 _), valueOf_bitsOf small,
        char_of_value? first, induction later]

/-- Bits that fill whole characters are what these characters stand for. -/
private theorem mapM_value?_spell_of_dvd
    {bits : List Bool} (whole : 5 ∣ bits.length) :
    ∃ values, (spell bits).mapM value? = some values ∧
      valueBits values = bits := by
  obtain ⟨values, filling, read, own, few⟩ := mapM_value?_spell bits
  have length := congrArg List.length own
  rw [length_valueBits, List.length_append, List.length_replicate] at length
  have none : filling = 0 := by omega
  rw [none, List.replicate_zero, List.append_nil] at own
  exact ⟨values, read, own⟩

theorem spell_injective {bits other : List Bool} (whole : 5 ∣ bits.length)
    (also : 5 ∣ other.length) (same : spell bits = spell other) :
    bits = other := by
  obtain ⟨values, read, rfl⟩ := mapM_value?_spell_of_dvd whole
  obtain ⟨again, reread, rfl⟩ := mapM_value?_spell_of_dvd also
  rw [same, reread, Option.some.injEq] at read
  rw [read]

/-- Characters are spelled one behind the other. -/
theorem spell_append {front : List Bool} (whole : 5 ∣ front.length)
    (back : List Bool) : spell (front ++ back) = spell front ++ spell back := by
  obtain ⟨values, read, rfl⟩ := mapM_value?_spell_of_dvd whole
  clear read whole
  induction values with
  | nil => rfl
  | cons value values induction =>
      rw [valueBits, List.flatMap_cons, ← valueBits, List.append_assoc,
        spell_append_of_five (length_bitsOf 5 _),
        spell_append_of_five (length_bitsOf 5 _), induction,
        List.cons_append]

theorem length_spell {bits : List Bool} (whole : 5 ∣ bits.length) :
    5 * (spell bits).length = bits.length := by
  obtain ⟨values, read, rfl⟩ := mapM_value?_spell_of_dvd whole
  clear read whole
  induction values with
  | nil => rfl
  | cons value values induction =>
      rw [valueBits, List.flatMap_cons, ← valueBits,
        spell_append_of_five (length_bitsOf 5 _), List.length_cons,
        List.length_append, length_bitsOf]
      omega

/-- Zeros that fill up the last character make no difference. -/
theorem spell_filled {bits : List Bool} {filling : Nat} (few : filling < 5)
    (whole : 5 ∣ bits.length + filling) :
    spell (bits ++ List.replicate filling false) = spell bits := by
  fun_induction spell bits with
  | case1 =>
      have none : filling = 0 := by
        rw [List.length_nil] at whole
        omega
      rw [none]
      rfl
  | case2 a b c d e rest induction =>
      rw [← induction (by simp only [List.length_cons] at whole; omega)]
      rfl
  | case3 bits nonempty short =>
      have bound := length_lt_of_not_five short
      have positive := List.length_pos_iff.mpr nonempty
      have rest : filling = 5 - bits.length := by omega
      rw [rest, spell_of_five (length_filled bound)]

/-! ## Padding -/

theorem dropPadding_begins (text : List Char) : dropPadding text <+: text := by
  have front := List.reverse_prefix.mpr
    (List.dropWhile_suffix (l := text.reverse) (· = '='))
  rwa [List.reverse_reverse] at front

theorem dropPadding_append {text : List Char} (unpadded : '=' ∉ text)
    (padding : Nat) :
    dropPadding (text ++ List.replicate padding '=') = text := by
  have kept : text.reverse.dropWhile (· = '=') = text.reverse := by
    cases backwards : text.reverse with
    | nil => rfl
    | cons c rest =>
        have member : c ∈ text.reverse := by
          rw [backwards]
          exact List.mem_cons_self
        have unequal : c ≠ '=' := by
          rintro rfl
          exact unpadded (List.mem_reverse.mp member)
        exact List.dropWhile_cons_of_neg (by simpa using unequal)
  rw [dropPadding, List.reverse_append, List.reverse_replicate,
    List.dropWhile_append_of_pos (by simp), kept, List.reverse_reverse]

/-- Reading gives back the bytes of a text, however much padding it has. -/
@[simp] theorem decode?_encode (bytes : Bytes) (padding : Nat) :
    decode? (encode bytes ++ List.replicate padding '=') = some bytes := by
  have unpadded : '=' ∉ encode bytes := fun padded =>
    @forall_mem_encode (· ≠ '=') (by decide) bytes '=' padded rfl
  obtain ⟨values, filling, read, bits, few⟩ :=
    mapM_value?_spell (byteBits bytes)
  rw [decode?_eq, dropPadding_append unpadded, encode, read, Option.map_some,
    bits, bytesOf_byteBits bytes (by rw [List.length_replicate]; omega)]

theorem decode?_eq_some_iff {text : List Char} {bytes : Bytes} :
    decode? text = some bytes ↔
      ∃ dropped : List Bool, dropped.length < 8 ∧
        5 ∣ (byteBits bytes ++ dropped).length ∧
        dropPadding text = spell (byteBits bytes ++ dropped) := by
  rw [decode?_eq, Option.map_eq_some_iff]
  constructor
  · rintro ⟨values, read, rfl⟩
    obtain ⟨dropped, few, whole⟩ := exists_dropped (valueBits values)
    refine ⟨dropped, few, ?_, ?_⟩
    · rw [whole, length_valueBits]
      exact Nat.dvd_mul_right 5 _
    · rw [whole, spell_valueBits read]
  · rintro ⟨dropped, few, whole, spelled⟩
    obtain ⟨values, read, own⟩ := mapM_value?_spell_of_dvd whole
    refine ⟨values, spelled ▸ read, ?_⟩
    rw [own]
    exact bytesOf_byteBits bytes few

example : encode [0x66, 0x6F, 0x6F, 0x62] = "MZXW6YQ".toList := by decide

/-! ## Length -/

/-- A character gives out one byte at most. -/
theorem length_le_of_decodeFrom? {text : List Char} {pending : Pending}
    {bytes : Bytes} (decoded : decodeFrom? pending text = some bytes) :
    bytes.length ≤ text.length := by
  induction text generalizing pending bytes with
  | nil =>
      cases decoded
      exact Nat.le_refl 0
  | cons c rest induction =>
      obtain ⟨value, -, decoded⟩ := Option.bind_eq_some_iff.mp decoded
      obtain ⟨more, later, decoded⟩ := Option.bind_eq_some_iff.mp decoded
      have whole : (pending.push value).1.toList ++ more = bytes :=
        Option.some.inj decoded
      have shorter := induction later
      have single : (pending.push value).1.toList.length ≤ 1 := by
        cases (pending.push value).1 with
        | none => exact Nat.zero_le 1
        | some byte => exact Nat.le_refl 1
      rw [← whole, List.length_append, List.length_cons]
      omega

theorem length_le_of_decode? {text : List Char} {bytes : Bytes}
    (decoded : decode? text = some bytes) : bytes.length ≤ text.length := by
  exact Nat.le_trans (length_le_of_decodeFrom? decoded)
    (dropPadding_begins text).length_le

end TealTools.Codec.Base32
