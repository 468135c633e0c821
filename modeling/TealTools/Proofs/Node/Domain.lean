import Mathlib.Data.Bool.AllAny
import Mathlib.Data.List.TakeWhile
import TealTools.Node.Endpoint
import TealTools.Proofs.Text.Ascii

/-!
# Domain names in ASCII

The rules for characters of other scripts leave ASCII alone.  A domain name
in lower case is kept as it is, and so is the host of the public node.
-/

namespace TealTools.Node

namespace Domain

/-- An ASCII character that a domain name may hold and that is not replaced. -/
structure IsPlain (c : Char) : Prop where
  ascii : c.toNat < 128
  allowed : isForbidden c = false
  lower : Replacement.lowerAscii c = c

/-- A domain name in lower case that is no address in numbers. -/
structure IsPlainName (name : List Char) : Prop where
  plain : ∀ c ∈ name, IsPlain c
  nonempty : name ≠ []
  unmarked : ∀ label ∈ Text.split '.' name,
    asciiMark.isPrefixOf label = false
  unnumbered : IpAddress.endsInNumber name = false

theorem IsPlain.ne {c mark : Char} (plain : IsPlain c)
    (forbidden : isForbidden mark = true) : c ≠ mark := by
  intro same
  rw [← same, plain.allowed] at forbidden
  cases forbidden

theorem IsPlain.visible {c : Char} (plain : IsPlain c) : 0x20 < c.toNat := by
  have allowed := plain.allowed
  simp only [isForbidden, Bool.or_eq_false_iff, decide_eq_false_iff_not,
    Nat.not_le] at allowed
  exact allowed.1.1

private theorem mapM_eq_some_map
    {α β : Type} {read : α → Option β} {value : α → β}
    {items : List α} (same : ∀ item ∈ items, read item = some (value item)) :
    items.mapM read = some (items.map value) := by
  induction items with
  | nil => rfl
  | cons item items induction =>
      obtain ⟨first, later⟩ := List.forall_mem_cons.mp same
      rw [List.mapM_cons, first, induction later]
      rfl

variable {text : List Char}

theorem replace?_of_isPlain {c : Char} (plain : IsPlain c) :
    Replacement.replace? c = some [c] := by
  rw [Replacement.replace?, if_pos plain.ascii, plain.lower]

theorem isAscii_of_isPlain (plain : ∀ c ∈ text, IsPlain c) :
    isAscii text = true := by
  rw [isAscii, List.all_eq_true]
  intro c member
  exact decide_eq_true (plain c member).ascii

theorem label?_of_isPlain (plain : ∀ c ∈ text, IsPlain c)
    (unmarked : asciiMark.isPrefixOf text = false) :
    label? text = some text := by
  simp only [label?, unmarked, isAscii_of_isPlain plain, Bool.false_eq_true,
    if_false, true_or, if_true]

theorem asciiLabel_of_isPlain (plain : ∀ c ∈ text, IsPlain c) :
    asciiLabel text = text :=
  if_pos (isAscii_of_isPlain plain)

theorem isOrderly_of_isPlain {labels : List (List Char)}
    (plain : ∀ label ∈ labels, ∀ c ∈ label, IsPlain c) :
    isOrderly labels = true := by
  have still : (labels.map (·.map Text.direction)).any
      (·.any Text.Direction.isMixing) = false := by
    simp only [List.any_map, List.any_eq_false, Function.comp_apply,
      Bool.not_eq_true]
    intro label listed c member
    exact Text.isMixing_direction_of_ascii (plain label listed c member).ascii
  simp only [isOrderly, still, Bool.not_false, Bool.true_or]

theorem toAscii?_of_isPlain (plain : ∀ c ∈ text, IsPlain c)
    (unmarked : ∀ label ∈ Text.split '.' text,
      asciiMark.isPrefixOf label = false) :
    toAscii? text = some text := by
  have ascii : ∀ c ∈ text, c.toNat < 128 := fun c member =>
    (plain c member).ascii
  have allowed : text.any isForbidden = false := by
    rw [List.any_eq_false]
    intro c member
    rw [(plain c member).allowed]
    exact Bool.false_ne_true
  have labels : ∀ label ∈ Text.split '.' text, ∀ c ∈ label, IsPlain c :=
    fun label listed c member =>
      plain c (Text.subset_of_mem_split listed member)
  have replaced := mapM_eq_some_map fun c member =>
    replace?_of_isPlain (plain c member)
  have kept := mapM_eq_some_map fun label listed =>
    label?_of_isPlain (labels label listed) (unmarked label listed)
  have written := List.map_congr_left fun label listed =>
    asciiLabel_of_isPlain (labels label listed)
  have whole : (text.map ([·])).flatten = text := by
    rw [← List.flatMap_def, List.flatMap_singleton']
  rw [List.map_id'] at kept written
  rw [toAscii?, replaced]
  simp only [Option.bind_eq_bind, Option.bind_some, whole,
    Text.compose_of_ascii ascii, allowed, kept, written,
    isOrderly_of_isPlain labels, Bool.false_eq_true, if_false, if_true]
  rw [Text.split_eq_splitOn, List.intercalate_splitOn]

end Domain

namespace Host

theorem percentDecode_of_unescaped {bytes : Bytes}
    (unescaped : ∀ byte ∈ bytes, byte ≠ 0x25) :
    percentDecode bytes = bytes := by
  fun_induction percentDecode bytes with
  | case1 | case2 => exact absurd rfl (unescaped _ List.mem_cons_self)
  | case3 byte rest different induction =>
      rw [induction (List.forall_mem_cons.mp unescaped).2]
  | case4 => rfl

private theorem ne_percent_of_mem_utf8 {text : List Char}
    (plain : ∀ c ∈ text, Domain.IsPlain c) :
    ∀ byte ∈ Text.utf8 text, byte ≠ 0x25 := by
  intro byte member
  obtain ⟨c, listed, written⟩ := List.mem_flatMap.mp member
  rw [Text.utf8EncodeChar_of_ascii (plain c listed).ascii,
    List.mem_singleton] at written
  intro percent
  have same := congrArg UInt8.toNat (written.symm.trans percent)
  rw [Text.toNat_ofNat_of_ascii (plain c listed).ascii] at same
  have mark : c = '%' := Char.toNat_inj.mp same
  exact (plain c listed).ne (by decide) mark

theorem parse_of_isPlainName {host : List Char}
    (name : Domain.IsPlainName host) :
    parse host = .ok (String.ofList host) := by
  have read : (Text.ofUtf8? (percentDecode (Text.utf8 host))).bind
      Domain.toAscii? = some host := by
    rw [percentDecode_of_unescaped (ne_percent_of_mem_utf8 name.plain),
      Text.ofUtf8?_utf8_of_ascii fun c member => (name.plain c member).ascii]
    exact Domain.toAscii?_of_isPlain name.plain name.unmarked
  cases host with
  | nil => exact absurd rfl name.nonempty
  | cons c rest =>
      have unbracketed : c ≠ '[' :=
        (name.plain c List.mem_cons_self).ne (by decide)
      rw [parse]
      · simp only [read, name.unnumbered, Bool.false_eq_true, if_false]
      · intro inner same
        exact unbracketed (List.cons.inj same).1

end Host

namespace Url

variable {host : List Char}

theorem endsAuthority_of_isPlain {c : Char} (plain : Domain.IsPlain c) :
    endsAuthority true c = false := by
  have slash : c ≠ '/' := plain.ne (by decide)
  have question : c ≠ '?' := plain.ne (by decide)
  have hash : c ≠ '#' := plain.ne (by decide)
  have backslash : c ≠ '\\' := plain.ne (by decide)
  simp only [endsAuthority, slash, question, hash, backslash, decide_false,
    Bool.or_false, Bool.and_false]

private theorem splitHost_of_isPlain (plain : ∀ c ∈ host, Domain.IsPlain c) :
    splitHost true false host = (host, []) := by
  induction host with
  | nil => rfl
  | cons c host induction =>
      obtain ⟨first, later⟩ := List.forall_mem_cons.mp plain
      have colon : c ≠ ':' := first.ne (by decide)
      have bracket : c ≠ '[' := first.ne (by decide)
      simp only [splitHost, endsAuthority_of_isPlain first, colon, bracket,
        decide_false, Bool.false_and, Bool.or_false, Bool.false_eq_true,
        if_false, ite_self, induction later]

private theorem splitLastAt_of_isPlain (plain : ∀ c ∈ host, Domain.IsPlain c) :
    splitLastAt host = none := by
  have whole : host.reverse.takeWhile (· ≠ '@') = host.reverse := by
    rw [List.takeWhile_eq_self_iff]
    intro c member
    exact decide_eq_true
      ((plain c (List.mem_reverse.mp member)).ne (by decide))
  rw [splitLastAt, whole, List.reverse_reverse]
  exact if_pos rfl

private theorem splitCredentials_of_isPlain
    (plain : ∀ c ∈ host, Domain.IsPlain c) :
    splitCredentials true host = .ok ("", host) := by
  have whole : host.takeWhile (fun c => !endsAuthority true c) = host := by
    rw [List.takeWhile_eq_self_iff]
    intro c member
    rw [endsAuthority_of_isPlain (plain c member)]
    rfl
  simp only [splitCredentials, whole, splitLastAt_of_isPlain plain]

private theorem clean_of_visible {text : List Char}
    (visible : ∀ c ∈ text, 0x20 < c.toNat) : clean text = text := by
  have inside {c : Char} (member : c ∈ text) : ¬c.toNat ≤ 0x20 :=
    Nat.not_le_of_gt (visible c member)
  have kept {part : List Char} (within : ∀ c ∈ part, c ∈ text) :
      part.dropWhile (fun c => decide (c.toNat ≤ 0x20)) = part := by
    rw [List.dropWhile_eq_self_iff]
    intro occupied edge
    exact inside (within _ (List.getElem_mem occupied))
      (of_decide_eq_true edge)
  have front := kept fun c (member : c ∈ text) => member
  have back := kept fun c (member : c ∈ text.reverse) =>
    List.mem_reverse.mp member
  simp only [clean, front, back, List.reverse_reverse]
  rw [List.filter_eq_self]
  intro c member
  have present {mark : Char} (blank : mark.toNat ≤ 0x20) : c ≠ mark := by
    intro same
    exact inside member (same ▸ blank)
  exact decide_eq_true
    ⟨present (by decide), present (by decide), present (by decide)⟩

def ofHost (host : List Char) : Url :=
  { scheme := "https", credentials := "", host := String.ofList host
    port := none, path := "/", query := none, fragment := none }

theorem parseSpecial_of_isPlainName (name : Domain.IsPlainName host) :
    parseSpecial "https" ('/' :: '/' :: host) = .ok (ofHost host) := by
  have slashes : ('/' :: '/' :: host).dropWhile
      (fun c => c = '/' || c = '\\') = host := by
    change host.dropWhile (fun c => c = '/' || c = '\\') = host
    rw [List.dropWhile_eq_self_iff]
    intro occupied slash
    have first := name.plain _ (List.getElem_mem occupied)
    rcases Bool.or_eq_true_iff.mp slash with forward | backward
    · exact first.ne (by decide) (of_decide_eq_true forward)
    · exact first.ne (by decide) (of_decide_eq_true backward)
  have following {α β : Type} (value : α)
      (next : α → Except AddressError β) :
      (Except.ok value >>= next) = next value := rfl
  have occupied : host.isEmpty = false :=
    List.isEmpty_eq_false_iff.mpr name.nonempty
  simp only [parseSpecial, slashes, splitCredentials_of_isPlain name.plain,
    following, splitHost_of_isPlain name.plain, occupied,
    Bool.false_eq_true, if_false, Host.parse_of_isPlainName name]
  rfl

end Url

theorem parse_https_of_isPlainName {host : List Char}
    (name : Domain.IsPlainName host) :
    Address.parse (['h', 't', 't', 'p', 's', ':', '/', '/'] ++ host) =
      .ok (.web (.ofHost host)) := by
  have visible : ∀ c ∈ ['h', 't', 't', 'p', 's', ':', '/', '/'] ++ host,
      0x20 < c.toNat := by
    rw [List.forall_mem_append]
    exact ⟨List.all_iff_forall_prop.mp (by decide),
      fun c member => (name.plain c member).visible⟩
  have split : Url.splitScheme
      (['h', 't', 't', 'p', 's', ':', '/', '/'] ++ host) =
        some ("https", '/' :: '/' :: host) := rfl
  rw [Address.parse, Url.clean_of_visible visible, split]
  simp only [Url.parseSpecial_of_isPlainName name]
  rfl

namespace Endpoint

def defaultHost : List Char := "testnet-api.algonode.cloud".toList

theorem isPlainName_defaultHost : Domain.IsPlainName defaultHost where
  plain := by
    have plain : ∀ c ∈ defaultHost, c.toNat < 128 ∧
        Domain.isForbidden c = false ∧ Replacement.lowerAscii c = c :=
      List.all_iff_forall_prop.mp (by decide +kernel)
    intro c member
    obtain ⟨ascii, allowed, lower⟩ := plain c member
    exact ⟨ascii, allowed, lower⟩
  nonempty := by decide +kernel
  unmarked := by decide +kernel
  unnumbered := by decide +kernel

theorem parse_defaultAddress (token : String) :
    parse defaultAddress token =
      .ok { url := .ofHost defaultHost, token } := by
  have written : defaultAddress.toList =
      ['h', 't', 't', 'p', 's', ':', '/', '/'] ++ defaultHost := by
    decide +kernel
  rw [parse, written, parse_https_of_isPlainName isPlainName_defaultHost]

end Endpoint

end TealTools.Node
