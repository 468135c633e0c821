import TealTools.CommandLine.Flags
import TealTools.Proofs.Text.Ascii

/-!
# Flags in flag position

Which argument is a flag depends on everything in front of it: a value may
look like a flag, and behind a bare double dash there are none.  Flags are
brought to the form with two dashes exactly where they stand in flag position,
and every other argument stays.  So the result is a normal form, which does
not depend on how many dashes the flags were written with.
-/

namespace TealTools.CommandLine

/-! ## Known flags -/

namespace Flag

/-- The name of a flag, alone or in front of an equals sign and a value. -/
inductive Named : List Char → Bool → Prop where
  | alone {name : List Char} : name ∈ names → Named name false
  | valued {name : List Char} (value : List Char) :
      name ∈ names → Named (name ++ '=' :: value) true

/-- An argument is the text of a flag behind dashes. -/
def Spelled (dashes : List Char) (argument : Bytes) (hasValue : Bool) : Prop :=
  ∃ text, Text.ofUtf8? argument = some (dashes ++ text) ∧ Named text hasValue

def dashes (flag : Flag) : List Char :=
  if flag.singleDash then ['-'] else ['-', '-']

theorem name_plain {name : List Char} (known : name ∈ names) :
    '=' ∉ name ∧ name ≠ [] ∧ name.head? ≠ some '-' := by
  have plain : ∀ name ∈ names,
      '=' ∉ name ∧ name ≠ [] ∧ name.head? ≠ some '-' := by decide
  exact plain name known

private theorem Named.head_ne {text : List Char} {hasValue : Bool}
    (named : Named text hasValue) : text.head? ≠ some '-' := by
  cases named with
  | alone known => exact (name_plain known).2.2
  | valued value known =>
      obtain ⟨-, nonempty, first⟩ := name_plain known
      obtain ⟨c, rest, rfl⟩ := List.exists_cons_of_ne_nil nonempty
      exact first

private theorem takeWhile_of_free {name : List Char} (free : '=' ∉ name)
    (value : List Char) :
    name.takeWhile (· ≠ '=') = name ∧
      (name ++ '=' :: value).takeWhile (· ≠ '=') = name := by
  have kept : ∀ c ∈ name, decide (c ≠ '=') = true := fun c member =>
    decide_eq_true fun same => free (same ▸ member)
  constructor
  · have whole : (name ++ []).takeWhile (· ≠ '=') =
        name ++ [].takeWhile (· ≠ '=') := List.takeWhile_append_of_pos kept
    simpa using whole
  · rw [List.takeWhile_append_of_pos kept]
    simp

theorem named_iff {text : List Char} {hasValue : Bool} :
    Named text hasValue ↔
      text.takeWhile (· ≠ '=') ∈ names ∧
        decide ((text.takeWhile (· ≠ '=')).length < text.length) =
          hasValue := by
  constructor
  · intro named
    cases named with
    | alone known =>
        rw [(takeWhile_of_free (name_plain known).1 []).1]
        exact ⟨known, decide_eq_false (Nat.lt_irrefl _)⟩
    | @valued name value known =>
        rw [(takeWhile_of_free (name_plain known).1 value).2]
        exact ⟨known, decide_eq_true (by simp)⟩
  · rintro ⟨known, shorter⟩
    have whole := @List.takeWhile_append_dropWhile _ (· ≠ '=') text
    cases behind : text.dropWhile (· ≠ '=') with
    | nil =>
        rw [behind, List.append_nil] at whole
        rw [whole] at known shorter
        rw [← shorter, decide_eq_false (Nat.lt_irrefl _)]
        exact .alone known
    | cons c value =>
        have first : c = '=' := by
          have stop := List.head?_dropWhile_not (· ≠ '=') text
          rw [behind] at stop
          simpa using stop
        rw [behind, first] at whole
        have longer : (text.takeWhile (· ≠ '=')).length < text.length := by
          have length := congrArg List.length whole
          rw [List.length_append, List.length_cons] at length
          omega
        rw [← shorter, decide_eq_true longer, ← whole]
        exact .valued value known

theorem known?_eq_some_iff {singleDash : Bool} {text : List Char}
    {flag : Flag} :
    known? singleDash text = some flag ↔
      flag.singleDash = singleDash ∧ Named text flag.hasValue := by
  obtain ⟨ownDash, hasValue⟩ := flag
  simp only [named_iff, known?]
  constructor
  · intro found
    split at found
    · next known =>
      cases found
      exact ⟨rfl, List.contains_iff_mem.mp known, rfl⟩
    · cases found
  · rintro ⟨rfl, known, rfl⟩
    rw [if_pos (List.contains_iff_mem.mpr known)]

/-- Exactly the texts of known flags behind one or two dashes are flags. -/
theorem ofArgument?_eq_some_iff {argument : Bytes} {flag : Flag} :
    ofArgument? argument = some flag ↔
      Spelled flag.dashes argument flag.hasValue := by
  unfold ofArgument?
  constructor
  · intro found
    split at found
    · next text read =>
      obtain ⟨double, named⟩ := known?_eq_some_iff.mp found
      refine ⟨text, ?_, named⟩
      rw [read, dashes, double]
      rfl
    · next text _ read =>
      obtain ⟨single, named⟩ := known?_eq_some_iff.mp found
      refine ⟨text, ?_, named⟩
      rw [read, dashes, single]
      rfl
    · cases found
  · rintro ⟨text, read, named⟩
    obtain ⟨singleDash, hasValue⟩ := flag
    have found : known? singleDash text = some ⟨singleDash, hasValue⟩ :=
      known?_eq_some_iff.mpr ⟨rfl, named⟩
    rw [read]
    cases singleDash with
    | false => exact found
    | true =>
        simp only [dashes, if_true, List.singleton_append]
        split
        · next same =>
          -- A name does not begin with what would be the second dash.
          cases same
          exact absurd rfl named.head_ne
        · next same =>
          cases same
          exact found
        · next other => exact absurd rfl (other _)

/-- One more dash in front of a flag with a single one. -/
theorem Spelled.doubled {argument : Bytes} {hasValue : Bool}
    (spelled : Spelled ['-'] argument hasValue) :
    Spelled ['-', '-'] (dash :: argument) hasValue := by
  obtain ⟨text, read, named⟩ := spelled
  refine ⟨text, ?_, named⟩
  have more := Text.ofUtf8?_cons_of_ascii (c := '-') (by decide) argument
  rw [read] at more
  exact more

end Flag

/-! ## Positions -/

/-- A bare double dash. -/
def terminator : Bytes := [dash, dash]

/-- A flag that takes the next argument as its value. -/
def AwaitsValue (argument : Bytes) : Prop :=
  Flag.Spelled ['-'] argument false ∨ Flag.Spelled ['-', '-'] argument false

/-- An argument stands in flag position if no terminator in flag position
stands in front of it and the argument right before it is no flag in flag
position that awaits a value. -/
def InFlagPosition (arguments : List Bytes) (place : Nat) : Prop :=
  (∀ earlier, (_ : earlier < place) → InFlagPosition arguments earlier →
    arguments[earlier]? ≠ some terminator) ∧
  ∀ previous, (_ : place = previous + 1) →
    InFlagPosition arguments previous →
    ∀ argument, arguments[previous]? = some argument → ¬AwaitsValue argument
termination_by place

/-- What the next argument is, behind one in any position. -/
def Position.next : Position → Bytes → Position
  | .flag, argument => .behind argument
  | .value, _ => .flag
  | .free, _ => .free

/-- The position that the arguments in front of a place decide. -/
def positionAt (arguments : List Bytes) (place : Nat) : Position :=
  (arguments.take place).foldl Position.next .flag

theorem awaitsValue_iff {argument : Bytes} :
    AwaitsValue argument ↔
      ∃ flag, Flag.ofArgument? argument = some flag ∧
        flag.hasValue = false := by
  simp only [Flag.ofArgument?_eq_some_iff]
  constructor
  · rintro (single | double)
    · exact ⟨⟨true, false⟩, single, rfl⟩
    · exact ⟨⟨false, false⟩, double, rfl⟩
  · rintro ⟨⟨singleDash, hasValue⟩, spelled, rfl⟩
    cases singleDash with
    | true => exact .inl spelled
    | false => exact .inr spelled

/-- A flag is no terminator: its value follows inside it or behind it. -/
private theorem behind_of_found {argument : Bytes} {flag : Flag}
    (found : Flag.ofArgument? argument = some flag) :
    Position.behind argument = if flag.hasValue then .flag else .value := by
  have other : argument ≠ [dash, dash] := by
    rintro rfl
    have none : Flag.ofArgument? [dash, dash] = none := by decide +kernel
    cases none.symm.trans found
  simp only [Position.behind, if_neg other, found]

theorem behind_eq_free_iff {argument : Bytes} :
    Position.behind argument = .free ↔ argument = terminator := by
  unfold Position.behind
  constructor
  · intro free
    split at free
    · next same => exact same
    · split at free
      · split at free <;> cases free
      · cases free
  · intro same
    exact if_pos same

theorem behind_eq_value_iff {argument : Bytes} :
    Position.behind argument = .value ↔ AwaitsValue argument := by
  rw [awaitsValue_iff]
  cases found : Flag.ofArgument? argument with
  | none =>
      simp only [Position.behind, found]
      split <;> simp
  | some flag =>
      rw [behind_of_found found]
      cases valued : flag.hasValue <;> simp [valued]

theorem positionAt_succ {arguments : List Bytes} {place : Nat}
    {argument : Bytes} (found : arguments[place]? = some argument) :
    positionAt arguments (place + 1) =
      (positionAt arguments place).next argument := by
  rw [positionAt, List.take_add_one, found, Option.toList_some,
    List.foldl_append]
  rfl

/-- A terminator in flag position stands in front of the place. -/
def Ended (arguments : List Bytes) (place : Nat) : Prop :=
  ∃ earlier < place, InFlagPosition arguments earlier ∧
    arguments[earlier]? = some terminator

/-- A flag in flag position right before the place awaits its value. -/
def Awaited (arguments : List Bytes) (place : Nat) : Prop :=
  ∃ previous argument, place = previous + 1 ∧
    InFlagPosition arguments previous ∧
    arguments[previous]? = some argument ∧ AwaitsValue argument

theorem inFlagPosition_iff {arguments : List Bytes} {place : Nat} :
    InFlagPosition arguments place ↔
      ¬Ended arguments place ∧ ¬Awaited arguments place := by
  rw [InFlagPosition]
  simp only [Ended, Awaited]
  grind

variable {arguments : List Bytes} {place : Nat}

private theorem ended_succ_iff :
    Ended arguments (place + 1) ↔ Ended arguments place ∨
      InFlagPosition arguments place ∧
        arguments[place]? = some terminator := by
  constructor
  · rintro ⟨earlier, before, there⟩
    rcases Nat.lt_succ_iff_lt_or_eq.mp before with before | rfl
    · exact .inl ⟨earlier, before, there⟩
    · exact .inr there
  · rintro (⟨earlier, before, there⟩ | there)
    · exact ⟨earlier, Nat.lt_succ_of_lt before, there⟩
    · exact ⟨place, Nat.lt_succ_self place, there⟩

private theorem awaited_succ_iff :
    Awaited arguments (place + 1) ↔ InFlagPosition arguments place ∧
      ∃ argument, arguments[place]? = some argument ∧
        AwaitsValue argument := by
  constructor
  · rintro ⟨previous, argument, same, own, found⟩
    cases same
    exact ⟨own, argument, found⟩
  · rintro ⟨own, argument, found⟩
    exact ⟨place, argument, rfl, own, found⟩

/-- The arguments in front of a place decide its position. -/
private theorem positionAt_cases (inside : place ≤ arguments.length) :
    (positionAt arguments place = .free ∧ Ended arguments place) ∨
      (positionAt arguments place = .value ∧ ¬Ended arguments place ∧
        Awaited arguments place) ∨
      (positionAt arguments place = .flag ∧
        InFlagPosition arguments place) := by
  induction place with
  | zero =>
      refine .inr (.inr ⟨rfl, inFlagPosition_iff.mpr ⟨?_, ?_⟩⟩)
      · rintro ⟨earlier, before, -⟩
        exact absurd before (Nat.not_lt_zero earlier)
      · rintro ⟨previous, argument, before, -⟩
        cases before
  | succ place induction =>
      have found := List.getElem?_eq_getElem inside
      generalize arguments[place] = argument at found
      rw [positionAt_succ found]
      rcases induction (Nat.le_of_succ_le inside) with ⟨free, ended⟩ |
        ⟨value, unended, awaited⟩ | ⟨flag, own⟩
      · obtain ⟨earlier, before, there⟩ := ended
        exact .inl ⟨by rw [free]; rfl, earlier, Nat.lt_succ_of_lt before, there⟩
      · have other : ¬InFlagPosition arguments place := fun own =>
          (inFlagPosition_iff.mp own).2 awaited
        refine .inr (.inr ⟨by rw [value]; rfl, ?_⟩)
        rw [inFlagPosition_iff, ended_succ_iff, awaited_succ_iff]
        simp [unended, other]
      · have unended := (inFlagPosition_iff.mp own).1
        have next : (positionAt arguments place).next argument =
            .behind argument := by rw [flag]; rfl
        rw [next, inFlagPosition_iff, ended_succ_iff, awaited_succ_iff, found]
        cases behind : Position.behind argument with
        | free =>
            have same := behind_eq_free_iff.mp behind
            exact .inl ⟨rfl, .inr ⟨own, congrArg some same⟩⟩
        | value =>
            have other : argument ≠ terminator := by
              intro same
              cases behind.symm.trans (behind_eq_free_iff.mpr same)
            have awaits := behind_eq_value_iff.mp behind
            exact .inr (.inl ⟨rfl, by simp [unended, other],
              own, argument, rfl, awaits⟩)
        | flag =>
            have other : argument ≠ terminator := by
              intro same
              cases behind.symm.trans (behind_eq_free_iff.mpr same)
            have idle : ¬AwaitsValue argument := by
              intro awaits
              cases behind.symm.trans (behind_eq_value_iff.mpr awaits)
            exact .inr (.inr ⟨rfl, by simp [unended, other],
              by simp [idle]⟩)

theorem positionAt_eq_flag_iff (inside : place ≤ arguments.length) :
    positionAt arguments place = .flag ↔ InFlagPosition arguments place := by
  rw [inFlagPosition_iff]
  rcases positionAt_cases inside with ⟨free, ended⟩ |
    ⟨value, unended, awaited⟩ | ⟨flag, own⟩
  · simp [free, ended]
  · simp [value, awaited]
  · simp [flag, inFlagPosition_iff.mp own]

/-! ## The normal form -/

private theorem foldl_next_free (arguments : List Bytes) :
    arguments.foldl Position.next .free = .free := by
  induction arguments with
  | nil => rfl
  | cons argument arguments induction => exact induction

/-- Every argument in flag position is spelled out, and no other. -/
theorem getElem?_normalizeFrom (position : Position)
    (arguments : List Bytes) (place : Nat) :
    (normalizeFrom position arguments)[place]? =
      arguments[place]?.map fun argument =>
        if (arguments.take place).foldl Position.next position = .flag then
          spelledOut argument
        else argument := by
  induction arguments generalizing position place with
  | nil => simp [normalizeFrom]
  | cons argument arguments induction =>
      cases position with
      | free => simp [normalizeFrom, foldl_next_free]
      | value =>
          cases place with
          | zero => simp [normalizeFrom]
          | succ place =>
              rw [normalizeFrom, List.getElem?_cons_succ, induction]
              rfl
      | flag =>
          cases place with
          | zero => simp [normalizeFrom]
          | succ place =>
              rw [normalizeFrom, List.getElem?_cons_succ, induction]
              rfl

@[simp] theorem length_normalizeFrom
    (position : Position) (arguments : List Bytes) :
    (normalizeFrom position arguments).length = arguments.length := by
  fun_induction normalizeFrom position arguments with
  | case1 => rfl
  | case2 => rfl
  | case3 argument more induction => simp [induction]
  | case4 argument more induction => simp [induction]

/-- A flag with a single dash. -/
def IsSingle (argument : Bytes) : Prop :=
  ∃ hasValue, Flag.Spelled ['-'] argument hasValue

variable {argument : Bytes}

private theorem spelledOut_of_isSingle (single : IsSingle argument) :
    spelledOut argument = dash :: argument := by
  obtain ⟨hasValue, spelled⟩ := single
  have found := (@Flag.ofArgument?_eq_some_iff _ ⟨true, hasValue⟩).mpr
    spelled
  simp [spelledOut, found]

private theorem spelledOut_of_not_isSingle (other : ¬IsSingle argument) :
    spelledOut argument = argument := by
  cases found : Flag.ofArgument? argument with
  | none => simp [spelledOut, found]
  | some flag =>
      obtain ⟨singleDash, hasValue⟩ := flag
      have spelled := Flag.ofArgument?_eq_some_iff.mp found
      cases singleDash with
      | true => exact absurd ⟨hasValue, spelled⟩ other
      | false => simp [spelledOut, found]

private theorem spelledOut_doubled (single : IsSingle argument) :
    spelledOut (dash :: argument) = dash :: argument := by
  obtain ⟨hasValue, spelled⟩ := single
  have found := (@Flag.ofArgument?_eq_some_iff _ ⟨false, hasValue⟩).mpr
    spelled.doubled
  simp [spelledOut, found]

/-- The second dash changes nothing for the next argument. -/
private theorem behind_doubled (single : IsSingle argument) :
    Position.behind (dash :: argument) = Position.behind argument := by
  obtain ⟨hasValue, spelled⟩ := single
  have found := (@Flag.ofArgument?_eq_some_iff _ ⟨true, hasValue⟩).mpr
    spelled
  have again := (@Flag.ofArgument?_eq_some_iff _ ⟨false, hasValue⟩).mpr
    spelled.doubled
  rw [behind_of_found found, behind_of_found again]

/-- Two lists that differ only in the dashes of flags in flag position. -/
structure Respelled (arguments other : List Bytes) : Prop where
  length : arguments.length = other.length
  places : ∀ place argument changed, arguments[place]? = some argument →
    other[place]? = some changed → argument = changed ∨
      InFlagPosition arguments place ∧
        (IsSingle argument ∧ changed = dash :: argument ∨
          IsSingle changed ∧ argument = dash :: changed)

theorem getElem?_normalize (arguments : List Bytes) (place : Nat) :
    (normalize arguments)[place]? = arguments[place]?.map fun argument =>
      if positionAt arguments place = .flag then spelledOut argument
      else argument :=
  getElem?_normalizeFrom .flag arguments place

/-- A flag with a single dash in flag position gets another one, and any other
argument stays. -/
theorem normalize_cases (found : arguments[place]? = some argument) :
    (normalize arguments)[place]? = some (dash :: argument) ∧
        InFlagPosition arguments place ∧ IsSingle argument ∨
      (normalize arguments)[place]? = some argument ∧
        ¬(InFlagPosition arguments place ∧ IsSingle argument) := by
  have inside : place ≤ arguments.length :=
    Nat.le_of_lt (List.getElem?_eq_some_iff.mp found).1
  rw [getElem?_normalize, found, Option.map_some,
    ← positionAt_eq_flag_iff inside]
  by_cases flag : positionAt arguments place = .flag
  · by_cases single : IsSingle argument
    · exact .inl ⟨by rw [if_pos flag, spelledOut_of_isSingle single], flag,
        single⟩
    · exact .inr ⟨by rw [if_pos flag, spelledOut_of_not_isSingle single],
        fun both => single both.2⟩
  · exact .inr ⟨by rw [if_neg flag], fun both => flag both.1⟩

theorem respelled_normalize (arguments : List Bytes) :
    Respelled arguments (normalize arguments) := by
  constructor
  · exact (length_normalizeFrom .flag arguments).symm
  · intro place argument changed found normalized
    rcases normalize_cases found with ⟨doubled, own, single⟩ | ⟨kept, -⟩
    · rw [doubled, Option.some.injEq] at normalized
      exact .inr ⟨own, .inl ⟨single, normalized.symm⟩⟩
    · rw [kept, Option.some.injEq] at normalized
      exact .inl normalized

section

variable {other : List Bytes}

/-- The dashes of flags decide no position. -/
theorem Respelled.positionAt_eq (respelled : Respelled arguments other)
    (inside : place ≤ arguments.length) :
    positionAt arguments place = positionAt other place := by
  induction place with
  | zero => rfl
  | succ place induction =>
      have same := induction (Nat.le_of_succ_le inside)
      have found := List.getElem?_eq_getElem inside
      have there := List.getElem?_eq_getElem (respelled.length ▸ inside)
      rw [positionAt_succ found, positionAt_succ there, ← same]
      rcases respelled.places place _ _ found there with
        equal | ⟨own, respelling⟩
      · rw [equal]
      · rw [(positionAt_eq_flag_iff (Nat.le_of_succ_le inside)).mpr own]
        rcases respelling with ⟨single, doubled⟩ | ⟨single, doubled⟩
        · rw [doubled]
          exact (behind_doubled single).symm
        · rw [doubled]
          exact behind_doubled single

theorem Respelled.normalize_eq (respelled : Respelled arguments other) :
    normalize arguments = normalize other := by
  apply List.ext_getElem?
  intro place
  rw [getElem?_normalize, getElem?_normalize]
  by_cases inside : place < arguments.length
  · have found := List.getElem?_eq_getElem inside
    have there := List.getElem?_eq_getElem (respelled.length ▸ inside)
    rw [← respelled.positionAt_eq (Nat.le_of_lt inside), found, there,
      Option.map_some, Option.map_some]
    rcases respelled.places place _ _ found there with
      equal | ⟨own, respelling⟩
    · rw [equal]
    · rw [if_pos ((positionAt_eq_flag_iff (Nat.le_of_lt inside)).mpr own),
        if_pos ((positionAt_eq_flag_iff (Nat.le_of_lt inside)).mpr own)]
      rcases respelling with ⟨single, doubled⟩ | ⟨single, doubled⟩
      · rw [doubled, spelledOut_of_isSingle single, spelledOut_doubled single]
      · rw [doubled, spelledOut_of_isSingle single, spelledOut_doubled single]
  · have beyond := Nat.le_of_not_lt inside
    rw [List.getElem?_eq_none beyond,
      List.getElem?_eq_none (respelled.length ▸ beyond)]
    rfl

end

/-- Another dash is written in front of an argument exactly if it stands in
flag position and is a known flag with a single dash; nothing else changes.
So the result is a normal form, and lists have the same one if they differ
only in the dashes of flags in flag position. -/
theorem flags_have_normal_form (arguments : List Bytes) :
    (normalize arguments).length = arguments.length ∧
      (∀ place argument, arguments[place]? = some argument →
        ((normalize arguments)[place]? = some argument ∨
            (normalize arguments)[place]? = some (dash :: argument)) ∧
          ((normalize arguments)[place]? = some (dash :: argument) ↔
            InFlagPosition arguments place ∧ IsSingle argument)) ∧
      normalize (normalize arguments) = normalize arguments ∧
      ∀ other, Respelled arguments other →
        normalize other = normalize arguments := by
  refine ⟨length_normalizeFrom .flag arguments, ?_,
    (respelled_normalize arguments).normalize_eq.symm,
    fun other respelled => respelled.normalize_eq.symm⟩
  intro place argument found
  rcases normalize_cases found with ⟨doubled, both⟩ | ⟨kept, neither⟩
  · exact ⟨.inr doubled, iff_of_true doubled both⟩
  · refine ⟨.inl kept, iff_of_false ?_ neither⟩
    rw [kept, Option.some.injEq]
    exact fun same => List.cons_ne_self dash argument same.symm

/-- A value that looks like a flag, one behind an equals sign, and an argument
behind a terminator. -/
def dashedArguments : List Bytes :=
  ["-debug", "-net", "-addr=x", "--", "-net"].map fun text =>
    Text.utf8 text.toList

theorem flags_have_normal_form_dashed :
    let spelled := ["--debug", "-net", "--addr=x", "--", "-net"].map
      fun text => Text.utf8 text.toList
    Respelled dashedArguments spelled ∧
      normalize spelled = normalize dashedArguments := by
  have same : normalize dashedArguments =
      ["--debug", "-net", "--addr=x", "--", "-net"].map fun text =>
        Text.utf8 text.toList := by decide +kernel
  have respelled := same ▸ respelled_normalize dashedArguments
  exact ⟨respelled, (flags_have_normal_form dashedArguments).2.2.2 _ respelled⟩

end TealTools.CommandLine
