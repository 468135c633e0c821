import TealTools.Text.Utf8

/-!
# SHA-512/256

The 512-bit hash with its own starting state, cut to its first 32 bytes.  It
gives addresses their checksum and methods their selector.
-/

namespace TealTools.Codec.Sha512t256

/-- The eight words that a block transforms. -/
structure State where
  a : UInt64
  b : UInt64
  c : UInt64
  d : UInt64
  e : UInt64
  f : UInt64
  g : UInt64
  h : UInt64

/-- The state before the first block. -/
def start : State :=
  { a := 0x22312194FC2BF72C
    b := 0x9F555FA3C84C64C2
    c := 0x2393B86B6F53B151
    d := 0x963877195940EABD
    e := 0x96283EE2A88EFFE3
    f := 0xBE5E1E2553863992
    g := 0x2B0199FC2C85B8AA
    h := 0x0EB72DDC81C52CA2 }

/-- One constant for each round. -/
def roundConstants : List UInt64 :=
  [0x428A2F98D728AE22, 0x7137449123EF65CD, 0xB5C0FBCFEC4D3B2F,
   0xE9B5DBA58189DBBC, 0x3956C25BF348B538, 0x59F111F1B605D019,
   0x923F82A4AF194F9B, 0xAB1C5ED5DA6D8118, 0xD807AA98A3030242,
   0x12835B0145706FBE, 0x243185BE4EE4B28C, 0x550C7DC3D5FFB4E2,
   0x72BE5D74F27B896F, 0x80DEB1FE3B1696B1, 0x9BDC06A725C71235,
   0xC19BF174CF692694, 0xE49B69C19EF14AD2, 0xEFBE4786384F25E3,
   0x0FC19DC68B8CD5B5, 0x240CA1CC77AC9C65, 0x2DE92C6F592B0275,
   0x4A7484AA6EA6E483, 0x5CB0A9DCBD41FBD4, 0x76F988DA831153B5,
   0x983E5152EE66DFAB, 0xA831C66D2DB43210, 0xB00327C898FB213F,
   0xBF597FC7BEEF0EE4, 0xC6E00BF33DA88FC2, 0xD5A79147930AA725,
   0x06CA6351E003826F, 0x142929670A0E6E70, 0x27B70A8546D22FFC,
   0x2E1B21385C26C926, 0x4D2C6DFC5AC42AED, 0x53380D139D95B3DF,
   0x650A73548BAF63DE, 0x766A0ABB3C77B2A8, 0x81C2C92E47EDAEE6,
   0x92722C851482353B, 0xA2BFE8A14CF10364, 0xA81A664BBC423001,
   0xC24B8B70D0F89791, 0xC76C51A30654BE30, 0xD192E819D6EF5218,
   0xD69906245565A910, 0xF40E35855771202A, 0x106AA07032BBD1B8,
   0x19A4C116B8D2D0C8, 0x1E376C085141AB53, 0x2748774CDF8EEB99,
   0x34B0BCB5E19B48A8, 0x391C0CB3C5C95A63, 0x4ED8AA4AE3418ACB,
   0x5B9CCA4F7763E373, 0x682E6FF3D6B2B8A3, 0x748F82EE5DEFB2FC,
   0x78A5636F43172F60, 0x84C87814A1F0AB72, 0x8CC702081A6439EC,
   0x90BEFFFA23631E28, 0xA4506CEBDE82BDE9, 0xBEF9A3F7B2C67915,
   0xC67178F2E372532B, 0xCA273ECEEA26619C, 0xD186B8C721C0C207,
   0xEADA7DD6CDE0EB1E, 0xF57D4F7FEE6ED178, 0x06F067AA72176FBA,
   0x0A637DC5A2C898A6, 0x113F9804BEF90DAE, 0x1B710B35131C471B,
   0x28DB77F523047D84, 0x32CAAB7B40C72493, 0x3C9EBE0A15C9BEBC,
   0x431D67C49C100D4C, 0x4CC5D4BECB3E42B6, 0x597F299CFC657E2A,
   0x5FCB6FAB3AD6FAEC, 0x6C44198C4A475817]

private def rotateRight (x : UInt64) (count : UInt64) : UInt64 :=
  x >>> count ||| x <<< (64 - count)

/-- One round on the state, given its constant and its schedule word. -/
def State.round (s : State) (constant word : UInt64) : State :=
  let sumE := rotateRight s.e 14 ^^^ rotateRight s.e 18 ^^^ rotateRight s.e 41
  let choice := (s.e &&& s.f) ^^^ (~~~s.e &&& s.g)
  let first := s.h + sumE + choice + constant + word
  let sumA := rotateRight s.a 28 ^^^ rotateRight s.a 34 ^^^ rotateRight s.a 39
  let majority := (s.a &&& s.b) ^^^ (s.a &&& s.c) ^^^ (s.b &&& s.c)
  { a := first + sumA + majority, b := s.a, c := s.b, d := s.c,
    e := s.d + first, f := s.e, g := s.f, h := s.g }

/-- The word that follows sixteen words of the schedule. -/
def nextWord (window : List UInt64) : UInt64 :=
  let early := window.getD 1 0
  let late := window.getD 14 0
  window.getD 0 0 +
    (rotateRight early 1 ^^^ rotateRight early 8 ^^^ early >>> 7) +
    window.getD 9 0 +
    (rotateRight late 19 ^^^ rotateRight late 61 ^^^ late >>> 6)

/-- The rounds of one block; the window holds the next sixteen words of the
schedule. -/
def State.rounds : List UInt64 → List UInt64 → State → State
  | [], _, s => s
  | constant :: constants, window, s =>
    rounds constants (window.tail ++ [nextWord window])
      (s.round constant (window.headD 0))

/-- Transforms the state by the sixteen words of a block. -/
def State.block (s : State) (words : List UInt64) : State :=
  let t := s.rounds roundConstants words
  { a := s.a + t.a, b := s.b + t.b, c := s.c + t.c, d := s.d + t.d,
    e := s.e + t.e, f := s.f + t.f, g := s.g + t.g, h := s.h + t.h }

/-- Eight bytes to a word, most significant first. -/
def words : Bytes → List UInt64
  | b₀ :: b₁ :: b₂ :: b₃ :: b₄ :: b₅ :: b₆ :: b₇ :: rest =>
    [b₀, b₁, b₂, b₃, b₄, b₅, b₆, b₇].foldl
      (fun word byte => word <<< 8 ||| byte.toUInt64) 0 :: words rest
  | _ => []

/-- The bytes of a word, most significant first. -/
def wordBytes (word : UInt64) : Bytes :=
  [(word >>> 56).toUInt8, (word >>> 48).toUInt8, (word >>> 40).toUInt8,
    (word >>> 32).toUInt8, (word >>> 24).toUInt8, (word >>> 16).toUInt8,
    (word >>> 8).toUInt8, word.toUInt8]

/-- The message, a marker bit, zeros up to a whole block, and the bit length
in sixteen bytes. -/
def padded (message : Bytes) : Bytes :=
  let zeros := (239 - message.length % 128) % 128
  let bitLength := 8 * message.length
  message ++ 0x80 :: List.replicate zeros 0 ++
    wordBytes (UInt64.ofNat (bitLength / UInt64.size)) ++
    wordBytes (UInt64.ofNat bitLength)

/-- Runs the blocks of sixteen words. -/
def State.blocks (s : State) (schedule : List UInt64) : State :=
  match schedule with
  | [] => s
  | word :: rest =>
    blocks (s.block ((word :: rest).take 16)) (rest.drop 15)
termination_by schedule.length
decreasing_by
  simp only [List.length_drop, List.length_cons]
  omega

/-- The 32 bytes of the hash. -/
def digest (message : Bytes) : Bytes :=
  let s := start.blocks (words (padded message))
  wordBytes s.a ++ wordBytes s.b ++ wordBytes s.c ++ wordBytes s.d

@[simp] theorem length_digest
    (message : Bytes) : (digest message).length = 32 := by
  simp [digest, wordBytes]

end TealTools.Codec.Sha512t256
