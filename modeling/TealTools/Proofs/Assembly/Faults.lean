import TealTools.Proofs.Assembly.Blame
import TealTools.Proofs.Token.Spans

/-!
# Faults in order

The faults of a program come in the order of the source, and no place has two
of them.  Each one stands at the first character of a token, or at the opening
quote of a literal that does not close.  Whether there is a program is decided
by the number of faults and by its size.
-/

namespace TealTools

/-! ## Lines -/

namespace Text

private theorem not_mem_of_mem_split {separator : Char} {text piece : List Char}
    (member : piece ∈ split separator text) : separator ∉ piece := by
  induction text generalizing piece with
  | nil =>
      rw [split, List.mem_singleton] at member
      rw [member]
      exact List.not_mem_nil
  | cons c text induction =>
      rw [split] at member
      split at member
      · rcases List.mem_cons.mp member with rfl | later
        · exact List.not_mem_nil
        · exact induction later
      · rename_i different
        split at member
        · rw [List.mem_singleton] at member
          rw [member, List.mem_singleton]
          exact fun same => different same.symm
        · rename_i first more pieces
          rcases List.mem_cons.mp member with rfl | later
          · rw [List.mem_cons, not_or]
            refine ⟨fun same => different same.symm, ?_⟩
            exact induction (pieces ▸ List.mem_cons_self)
          · exact induction (pieces ▸ List.mem_cons_of_mem first later)

private theorem dropReturn_subset
    (line : List Char) : dropReturn line ⊆ line := by
  fun_induction dropReturn line with
  | case1 => exact List.Subset.refl []
  | case2 => exact List.nil_subset _
  | case3 => exact List.Subset.refl _
  | case4 c rest _ induction => exact List.cons_subset_cons c induction

private theorem mem_of_mem_finishLines
    {pieces : List (List Char)} {line : List Char}
    (member : line ∈ finishLines pieces) :
    ∃ piece ∈ pieces, line ⊆ piece := by
  fun_induction finishLines pieces with
  | case1 => cases member
  | case2 => cases member
  | case3 last _ => exact ⟨line, member, List.Subset.refl line⟩
  | case4 first more _ induction =>
      rcases List.mem_cons.mp member with rfl | later
      · exact ⟨first, List.mem_cons_self, dropReturn_subset first⟩
      · obtain ⟨piece, listed, subset⟩ := induction later
        exact ⟨piece, List.mem_cons_of_mem first listed, subset⟩

/-- A line holds no line feed. -/
theorem not_mem_of_mem_lines {text line : List Char}
    (member : line ∈ lines text) : '\n' ∉ line := by
  obtain ⟨piece, listed, subset⟩ := mem_of_mem_finishLines member
  exact fun feed => not_mem_of_mem_split listed (subset feed)

end Text

namespace Assembly

/-- What a fault of a line is about, and the characters that it stands at: a
token, or the opening quote of a literal that does not close. -/
inductive Offends (text : List Char) (fault : At Fault) :
    List Char → Prop where
  | token {tokens : List Token} {token : Token} {span : List Char} :
      Token.scan text = .ok tokens → token ∈ tokens → Blames fault token →
      Token.Written token.kind span → Offends text fault span
  | literal :
      Token.scan text = .error fault →
      Token.Unclosed (text.drop (fault.column - 1)) →
      Offends text fault ['"']

/-- The characters at which a fault stands begin at its column. -/
structure StandsAt (text : List Char) (fault : At Fault) (span : List Char) :
    Prop where
  offends : Offends text fault span
  counted : 1 ≤ fault.column
  nonempty : span ≠ []
  here : span <+: text.drop (fault.column - 1)

/-- The order of the source. -/
def LineFault.Before (first second : LineFault) : Prop :=
  first.line < second.line ∨
    (first.line = second.line ∧ first.column < second.column)

/-- The faults of a placed line, once all labels are known. -/
def Placed.faultsWith (labels : List (String × Nat)) (placed : Placed) :
    List (At Fault) :=
  placed.faults ++ placed.branchFaults labels

/-! ## Tokens in order -/

private theorem sublistForall₂_append {α β : Type} {related : α → β → Prop}
    {first second : List α} {front back : List β}
    (early : List.SublistForall₂ related first front)
    (late : List.SublistForall₂ related second back) :
    List.SublistForall₂ related (first ++ second) (front ++ back) := by
  rw [List.sublistForall₂_iff] at early late ⊢
  obtain ⟨chosen, own, sublist⟩ := early
  obtain ⟨others, further, rest⟩ := late
  exact ⟨chosen ++ others, List.rel_append own further, sublist.append rest⟩

theorem blamesOneOf_of_mem {faults : List (At Fault)} {tokens : List Token}
    (blamed : List.SublistForall₂ Blames faults tokens) {fault : At Fault}
    (member : fault ∈ faults) : BlamesOneOf tokens fault := by
  induction blamed with
  | nil => cases member
  | @cons first token faults tokens blames _ induction =>
      rcases List.mem_cons.mp member with rfl | later
      · exact ⟨token, List.mem_cons_self, blames⟩
      · exact (induction later).mono (List.subset_cons_self token tokens)
  | @cons_right token faults tokens _ induction =>
      exact (induction member).mono (List.subset_cons_self token tokens)

private theorem columns_of_blamed
    {faults : List (At Fault)} {tokens : List Token}
    (blamed : List.SublistForall₂ Blames faults tokens)
    (increase : tokens.Pairwise fun first second =>
      first.column < second.column) :
    faults.Pairwise fun first second => first.column < second.column := by
  induction blamed with
  | nil => exact .nil
  | @cons fault token faults tokens blames rest induction =>
      rw [List.pairwise_cons] at increase
      refine .cons ?_ (induction increase.2)
      intro other member
      obtain ⟨second, listed, own⟩ := blamesOneOf_of_mem rest member
      rw [blames.1, own.1]
      exact increase.1 second listed
  | cons_right _ induction => exact induction (List.pairwise_cons.mp increase).2

theorem BlamesOneOf.inOrder {tokens : List Token} {fault : At Fault}
    (blames : BlamesOneOf tokens fault) :
    List.SublistForall₂ Blames [fault] tokens := by
  obtain ⟨token, member, own⟩ := blames
  rw [List.sublistForall₂_iff]
  exact ⟨[token], .cons own .nil, List.singleton_sublist.mpr member⟩

/-! ## Targets -/

/-- The token that names a target. -/
def NamedBy (target : At String) (token : Token) : Prop :=
  SpellsTarget token target

private theorem targets_of_spells {kind : ImmediateKind} {tokens : List Token}
    {operand : Operand (At String)} (spelled : Spells kind tokens operand) :
    List.SublistForall₂ NamedBy operand.targets tokens := by
  cases spelled with
  | label target => exact .cons target .nil
  | labels _ targets =>
      rw [List.sublistForall₂_iff]
      exact ⟨tokens, targets.flip, List.Sublist.refl tokens⟩
  | u8 | i8 | field | varuint | bytes | intBlock | byteBlock => exact .nil

private theorem targets_of_spellsAll {kinds : List ImmediateKind}
    {tokens : List Token} {operands : List (Operand (At String))}
    (spelled : SpellsAll kinds tokens operands) :
    List.SublistForall₂ NamedBy (operands.flatMap Operand.targets)
      tokens := by
  induction spelled with
  | nil => exact .nil
  | cons first _ induction =>
      rw [List.flatMap_cons]
      exact sublistForall₂_append (targets_of_spells first) induction

private theorem targets_of_spellsInstruction
    {name : String} {tokens : List Token}
    {instruction : Instruction (At String)}
    (spelled : SpellsInstruction name tokens instruction) :
    List.SublistForall₂ NamedBy instruction.targets tokens := by
  cases spelled with
  | opcode _ immediates => exact targets_of_spellsAll immediates
  | int | byte | address | method => exact .nil

theorem branchOffset_eq_error {labels : List (String × Nat)} {base : Nat}
    {name : String} {cause : Fault} {token : Token}
    (failed : branchOffset labels base name = .error cause)
    (named : token.word? = some name) : cause.Concerns token := by
  unfold branchOffset at failed
  split at failed
  · cases failed
    exact named
  · simp only at failed
    split at failed
    · cases failed
    · cases failed
      exact named

/-- Targets out of reach blame the tokens that name them. -/
private theorem blamed_targets (labels : List (String × Nat)) (base : Nat)
    {targets : List (At String)} {tokens : List Token}
    (named : List.SublistForall₂ NamedBy targets tokens) :
    List.SublistForall₂ Blames
      (targets.filterMap fun target =>
        match branchOffset labels base target.value with
        | .ok _ => none
        | .error fault => some ⟨target.column, fault⟩) tokens := by
  induction named with
  | nil => exact .nil
  | cons_right _ induction => exact .cons_right induction
  | @cons target token targets tokens named _ induction =>
      rw [List.filterMap_cons]
      cases resolved : branchOffset labels base target.value with
      | ok delta => exact .cons_right induction
      | error cause =>
          refine .cons ?_ induction
          exact ⟨named.2.symm, branchOffset_eq_error resolved named.1⟩

/-! ## One line -/

private theorem directive_of_readDirective {directive : At String}
    {tokens : List Token} {version : Nat}
    (read : readDirective directive tokens = .ok version) :
    directive.value = "#pragma" := by
  unfold readDirective at read
  simp only at read
  split at read
  · cases read
  · rename_i same
    exact not_not.mp same

private theorem blamed_placeBody (labels : List (String × Nat)) (site : Site)
    (line : Nat) (tokens : List Token) :
    List.SublistForall₂ Blames
      ((site.placeBody line (readBody tokens)).2.faultsWith labels)
      tokens := by
  cases tokens with
  | nil => exact .nil
  | cons token tokens =>
      simp only [readBody]
      split
      · exact .cons ⟨rfl, rfl⟩ .nil
      · rename_i word kind
        split
        · cases read : readDirective ⟨token.column, word⟩ tokens with
          | error fault => exact (readDirective_eq_error kind read).inOrder
          | ok version =>
              have given := word?_eq_of_kind kind
              have same : word = "#pragma" := directive_of_readDirective read
              rw [same] at given
              simp only [Site.placeBody]
              split
              · exact .cons ⟨rfl, given⟩ .nil
              · exact .nil
        · cases read : readInstruction ⟨token.column, word⟩ tokens with
          | error fault => exact (readInstruction_eq_error kind read).inOrder
          | ok instruction =>
              exact .cons_right (blamed_targets labels _
                (targets_of_spellsInstruction (readInstruction_eq_ok read)))

theorem readStatement_cases (tokens : List Token) :
    (∃ token rest name, tokens = token :: rest ∧
        token.word? = some (name ++ ":") ∧
        readStatement tokens = ⟨some ⟨token.column, name⟩, readBody rest⟩) ∨
      readStatement tokens = ⟨none, readBody tokens⟩ := by
  cases tokens with
  | nil => exact .inr rfl
  | cons token rest =>
      simp only [readStatement]
      cases found : token.word?.bind labelName? with
      | none => exact .inr rfl
      | some name =>
          obtain ⟨word, given, named⟩ := Option.bind_eq_some_iff.mp found
          rw [labelName?_eq_some_iff] at named
          exact .inl ⟨token, rest, name, rfl, named ▸ given, rfl⟩

private theorem define_eq_error {site : Site} {name : String} {cause : Fault}
    {token : Token} (failed : site.define name = .error cause)
    (named : token.word? = some (name ++ ":")) : cause.Concerns token := by
  unfold Site.define at failed
  split at failed
  · cases failed
    exact .inl named
  · split at failed
    · cases failed
      exact named
    · cases failed

/-- The faults of a line blame different tokens, in the order of the line. -/
theorem blamed_place {text : List Char} {tokens : List Token}
    (scanned : Token.scan text = .ok tokens) (labels : List (String × Nat))
    (site : Site) (line : Nat) :
    List.SublistForall₂ Blames
      ((site.place line (readLine text)).2.faultsWith labels) tokens := by
  have reading : readLine text = .ok (readStatement tokens) := by
    rw [readLine, scanned]
    rfl
  rw [reading]
  rcases readStatement_cases tokens with
    ⟨token, rest, name, rfl, named, statement⟩ | statement
  · rw [statement]
    cases defined : site.define name with
    | ok next =>
        simp only [Site.place, Site.placeLabel, defined]
        exact .cons_right (blamed_placeBody labels next line rest)
    | error cause =>
        -- The label stands in front, and the body is placed all the same.
        simp only [Site.place, Site.placeLabel, defined]
        exact .cons ⟨rfl, define_eq_error defined named⟩
          (blamed_placeBody labels site line rest)
  · rw [statement]
    exact blamed_placeBody labels site line tokens

private theorem standsAt_of_blames {text : List Char} {tokens : List Token}
    {fault : At Fault} (oneLine : '\n' ∉ text)
    (scanned : Token.scan text = .ok tokens)
    (blames : BlamesOneOf tokens fault) : ∃ span, StandsAt text fault span := by
  obtain ⟨token, member, own⟩ := blames
  obtain ⟨lexemes, stop, reads, rfl, _⟩ :=
    Token.reads_of_scan_ok oneLine scanned
  obtain ⟨lexeme, listed, rfl⟩ := List.mem_map.mp member
  have lies := reads.liesIn listed
  have column : fault.column = lexeme.start + 1 := own.1.trans lies.column
  refine ⟨lexeme.text, .token scanned member own lies.written, ?_,
    lies.nonempty, ?_⟩
  · omega
  · rw [column, Nat.add_sub_cancel]
    exact lies.text

private theorem standsAt_of_unclosed {text : List Char} {fault : At Fault}
    (oneLine : '\n' ∉ text) (scanned : Token.scan text = .error fault) :
    ∃ span, StandsAt text fault span := by
  obtain ⟨lexemes, stop, reads, column, unclosed⟩ :=
    Token.reads_of_scan_error oneLine scanned
  have place : fault.column - 1 = stop := by omega
  refine ⟨['"'], .literal scanned (place ▸ unclosed), by omega,
    List.cons_ne_nil _ _, ?_⟩
  obtain ⟨behind, here, _⟩ := unclosed
  rw [place, here]
  exact ⟨behind, rfl⟩

/-- The faults of one line come in the order of their columns. -/
theorem faults_of_line {text : List Char} (oneLine : '\n' ∉ text)
    (labels : List (String × Nat)) (site : Site) (line : Nat) :
    ((site.place line (readLine text)).2.faultsWith labels).Pairwise
        (fun first second => first.column < second.column) ∧
      ∀ fault ∈ (site.place line (readLine text)).2.faultsWith labels,
        ∃ span, StandsAt text fault span := by
  cases scanned : Token.scan text with
  | error fault =>
      have faults : (site.place line (readLine text)).2.faultsWith labels =
          [fault] := by
        rw [readLine, scanned]
        rfl
      rw [faults]
      refine ⟨List.pairwise_singleton _ _, ?_⟩
      intro other member
      rw [List.mem_singleton.mp member]
      exact standsAt_of_unclosed oneLine scanned
  | ok tokens =>
      have blamed := blamed_place scanned labels site line
      have increase := Token.columns_increase oneLine scanned
      refine ⟨columns_of_blamed blamed increase, ?_⟩
      intro fault member
      exact standsAt_of_blames oneLine scanned
        (blamesOneOf_of_mem blamed member)

/-! ## All lines -/

@[simp] theorem line_place
    (site : Site) (line : Nat) (reading : Reading Statement) :
    (site.place line reading).2.line = line := by
  cases reading with
  | error fault => rfl
  | ok statement =>
      simp only [Site.place]
      unfold Site.placeBody
      split
      · rfl
      · rfl
      · rfl
      · split <;> rfl
      · rfl
      · rfl

theorem allFaults_place (labels : List (String × Nat)) (site : Site)
    (line : Nat) (reading : Reading Statement) :
    (site.place line reading).2.allFaults labels =
      ((site.place line reading).2.faultsWith labels).map fun fault =>
        ⟨line, fault.column, fault.value⟩ := by
  rw [Placed.allFaults, line_place]
  rfl

/-- A fault on a line of a text whose lines are numbered from the given one. -/
def LineFault.OnLine (first : Nat) (lines : List (List Char))
    (fault : LineFault) : Prop :=
  ∃ index text span, fault.line = first + index ∧ lines[index]? = some text ∧
    StandsAt text ⟨fault.column, fault.cause⟩ span

theorem faults_placeAll {lines : List (List Char)}
    (oneLine : ∀ text ∈ lines, '\n' ∉ text) (labels : List (String × Nat))
    (site : Site) (first : Nat) :
    (((site.placeAll first (lines.map readLine)).2.flatMap
        (Placed.allFaults labels)).Pairwise LineFault.Before) ∧
      ∀ fault ∈ (site.placeAll first (lines.map readLine)).2.flatMap
          (Placed.allFaults labels), fault.OnLine first lines := by
  induction lines generalizing site first with
  | nil => exact ⟨.nil, nofun⟩
  | cons text lines induction =>
      have own := faults_of_line (oneLine text List.mem_cons_self) labels site
        first
      obtain ⟨ordered, located⟩ := induction
        (fun text member => oneLine text (List.mem_cons_of_mem _ member))
        (site.place first (readLine text)).1 (first + 1)
      rw [List.map_cons, placeAll_cons, List.flatMap_cons, allFaults_place]
      constructor
      · rw [List.pairwise_append, List.pairwise_map]
        refine ⟨own.1.imp fun order => .inr ⟨rfl, order⟩, ordered, ?_⟩
        intro fault member other later
        obtain ⟨here, _, rfl⟩ := List.mem_map.mp member
        obtain ⟨index, _, _, line, _⟩ := located other later
        left
        rw [line]
        simp only
        omega
      · intro fault member
        rcases List.mem_append.mp member with early | later
        · obtain ⟨here, listed, rfl⟩ := List.mem_map.mp early
          obtain ⟨span, stands⟩ := own.2 here listed
          exact ⟨0, text, span, rfl, rfl, stands⟩
        · obtain ⟨index, other, span, line, found, stands⟩ :=
            located fault later
          refine ⟨index + 1, other, span, ?_, found, stands⟩
          omega

/-! ## Programs -/

theorem faults_before (source : String) :
    (assemble source).faults.Pairwise LineFault.Before :=
  (faults_placeAll (fun _ => Text.not_mem_of_mem_lines) _ _ _).1

/-- Every fault stands on a line of the source. -/
theorem standsAt_of_mem_faults {source : String} {fault : LineFault}
    (member : fault ∈ (assemble source).faults) :
    ∃ text span, sourceLine? source fault.line = some text ∧
      StandsAt text ⟨fault.column, fault.cause⟩ span := by
  obtain ⟨index, text, span, line, found, stands⟩ :=
    (faults_placeAll (fun _ => Text.not_mem_of_mem_lines) _ _ _).2 fault member
  refine ⟨text, span, ?_, stands⟩
  rw [line, Nat.add_comm]
  exact found

theorem bounds_of_sourceLine? {source : String} {number : Nat}
    {text : List Char} (found : sourceLine? source number = some text) :
    1 ≤ number ∧ number ≤ (Text.lines source.toList).length := by
  cases number with
  | zero => cases found
  | succ index =>
      have := (List.getElem?_eq_some_iff.mp found).1
      omega

private theorem size_header (source : String) :
    (Codec.varuint (assemble source).version ++ code source).length =
      1 + (code source).length := by
  rw [header_assemble, List.length_append, List.length_singleton]

/-- A program fails if it has faults, and else if it is too large. -/
theorem failure_assemble (source : String) :
    (assemble source).failure =
      if (assemble source).faults ≠ [] then
        some (.lineFaults (assemble source).faults.length)
      else if maxProgramSize < 1 + (code source).length then
        some (.programTooLarge (1 + (code source).length) maxProgramSize)
      else none := by
  have failure : (assemble source).failure =
      if !(assemble source).faults.isEmpty then
        some (.lineFaults (assemble source).faults.length)
      else if (Codec.varuint (assemble source).version ++
          code source).length > maxProgramSize then
        some (.programTooLarge (Codec.varuint (assemble source).version ++
          code source).length maxProgramSize)
      else none := rfl
  rw [failure, size_header]
  cases (assemble source).faults <;> rfl

theorem failure_eq_lineFaults_iff (source : String) (count : Nat) :
    (assemble source).failure = some (.lineFaults count) ↔
      0 < count ∧ count = (assemble source).faults.length := by
  rw [failure_assemble]
  split
  · rename_i faulty
    have positive := List.length_pos_iff.mpr faulty
    rw [Option.some.injEq, Failure.lineFaults.injEq]
    omega
  · rename_i clean
    have none : (assemble source).faults.length = 0 :=
      List.length_eq_zero_iff.mpr (not_not.mp clean)
    constructor
    · intro failure
      split at failure <;> cases failure
    · omega

theorem failure_eq_programTooLarge_iff (source : String) (size max : Nat) :
    (assemble source).failure = some (.programTooLarge size max) ↔
      (assemble source).faults = [] ∧
        size = 1 + (code source).length ∧ max = maxProgramSize ∧
        maxProgramSize < size := by
  rw [failure_assemble]
  split
  · rename_i faulty
    constructor
    · nofun
    · exact fun fits => (faulty fits.1).elim
  · rename_i clean
    split
    · rename_i large
      rw [Option.some.injEq, Failure.programTooLarge.injEq]
      constructor
      · rintro ⟨rfl, rfl⟩
        exact ⟨not_not.mp clean, rfl, rfl, large⟩
      · rintro ⟨_, rfl, rfl, _⟩
        exact ⟨rfl, rfl⟩
    · rename_i small
      constructor
      · nofun
      · rintro ⟨_, rfl, _, large⟩
        exact (small large).elim

theorem failure_eq_none_iff (source : String) :
    (assemble source).failure = none ↔
      (assemble source).faults = [] ∧
        1 + (code source).length ≤ maxProgramSize := by
  rw [failure_assemble]
  split
  · rename_i faulty
    constructor
    · nofun
    · exact fun fits => (faulty fits.1).elim
  · rename_i clean
    split
    · rename_i large
      constructor
      · nofun
      · exact fun fits => (Nat.not_le_of_lt large fits.2).elim
    · rename_i small
      exact iff_of_true rfl ⟨not_not.mp clean, Nat.le_of_not_lt small⟩

theorem bytecode_eq_nil_iff (source : String) :
    (assemble source).bytecode = [] ↔ (assemble source).failure ≠ none := by
  constructor
  · intro empty succeeds
    rw [bytecode_of_failure_none succeeds] at empty
    cases empty
  · intro fails
    have bytecode : (assemble source).bytecode =
        if (assemble source).failure.isSome then []
        else Codec.varuint (assemble source).version ++ code source := rfl
    rw [bytecode, if_pos (Option.isSome_iff_ne_none.mpr fails)]

/-- Faults come in the order of the source, each at a token of its line or at
a literal that does not close.  They decide together with the size of the
program whether it fails, and a program that fails has no bytecode. -/
theorem faults_ordered_and_failure_decided (source : String) :
    (assemble source).faults.Pairwise LineFault.Before ∧
      (∀ fault ∈ (assemble source).faults,
        1 ≤ fault.line ∧
          fault.line ≤ (Text.lines source.toList).length ∧
          ∃ text span, sourceLine? source fault.line = some text ∧
            StandsAt text ⟨fault.column, fault.cause⟩ span) ∧
      (∀ count, (assemble source).failure = some (.lineFaults count) ↔
        0 < count ∧ count = (assemble source).faults.length) ∧
      (∀ size max,
        (assemble source).failure = some (.programTooLarge size max) ↔
          (assemble source).faults = [] ∧
            size = 1 + (code source).length ∧ max = 8192 ∧ 8192 < size) ∧
      ((assemble source).failure = none ↔
        (assemble source).faults = [] ∧ 1 + (code source).length ≤ 8192) ∧
      ((assemble source).bytecode = [] ↔
        (assemble source).failure ≠ none) := by
  refine ⟨faults_before source, ?_, failure_eq_lineFaults_iff source,
    failure_eq_programTooLarge_iff source, failure_eq_none_iff source,
    bytecode_eq_nil_iff source⟩
  intro fault member
  obtain ⟨text, span, line, stands⟩ := standsAt_of_mem_faults member
  have bounds := bounds_of_sourceLine? line
  exact ⟨bounds.1, bounds.2, text, span, line, stands⟩

/-- A label that is defined twice stands in front of targets without a
definition, and a literal does not close. -/
def faultySource : String :=
  "a:\na: switch x y\nbyte \"z"

theorem faults_ordered_and_failure_decided_faultySource :
    (assemble faultySource).faults.map (fun fault =>
        (fault.line, fault.column)) = [(2, 1), (2, 11), (2, 13), (3, 6)] ∧
      (assemble faultySource).failure = some (.lineFaults 4) ∧
      (assemble faultySource).bytecode = [] ∧
      ∀ fault ∈ (assemble faultySource).faults,
        ∃ text span, sourceLine? faultySource fault.line = some text ∧
          StandsAt text ⟨fault.column, fault.cause⟩ span := by
  have places : (assemble faultySource).faults.map (fun fault =>
      (fault.line, fault.column)) = [(2, 1), (2, 11), (2, 13), (3, 6)] := by
    decide +kernel
  have count : (assemble faultySource).faults.length = 4 := by
    have := congrArg List.length places
    rwa [List.length_map] at this
  obtain ⟨_, stand, faulty, _, _, empty⟩ :=
    faults_ordered_and_failure_decided faultySource
  have failure := (faulty 4).mpr ⟨by decide, count.symm⟩
  refine ⟨places, failure, empty.mpr (failure ▸ Option.some_ne_none _), ?_⟩
  intro fault member
  exact (stand fault member).2.2

end Assembly

end TealTools
