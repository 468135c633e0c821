import Mathlib.Data.List.Nodup
import TealTools.Debugger.Replay
import TealTools.Proofs.Text.Numeral
import TealTools.Proofs.Text.Pieces

/-!
# The program runs of a simulation

A program run has a place: a group, a transaction of it, the inner
transactions that lead to it, and the kind of the program.  The segments of a
simulation are the runs at all places where something was executed, in the
order of their places, and a label tells the place.
-/

namespace TealTools

/-! ## Places -/

/-- The programs of a transaction. -/
inductive ProgramKind where
  | logicSig
  | approval
  | clearState
  deriving DecidableEq, Repr

namespace ProgramKind

/-- In the order in which they run. -/
def all : List ProgramKind :=
  [logicSig, approval, clearState]

def rank : ProgramKind → Nat
  | logicSig => 0
  | approval => 1
  | clearState => 2

def name : ProgramKind → String
  | logicSig => "logic sig"
  | approval => "approval"
  | clearState => "clear state"

end ProgramKind

/-- A program run of a transaction or of its inner transactions. -/
@[ext]
structure ProgramRun where
  /-- The numbers of the inner transactions, the outermost one first. -/
  path : List Nat
  kind : ProgramKind
  deriving DecidableEq, Repr

namespace ProgramRun

/-- The run of an inner transaction, seen from outside. -/
def within (index : Nat) (run : ProgramRun) : ProgramRun :=
  { run with path := index :: run.path }

/-- The programs of a transaction come first, in the order of their kinds.
Then come those of its inner transactions, one after the other. -/
inductive Before : ProgramRun → ProgramRun → Prop where
  | kind {first second : ProgramKind} :
      first.rank < second.rank → Before ⟨[], first⟩ ⟨[], second⟩
  | own {first second : ProgramKind} {index : Nat} {path : List Nat} :
      Before ⟨[], first⟩ ⟨index :: path, second⟩
  | across {first second : ProgramRun} {index other : Nat} :
      index < other → Before (first.within index) (second.within other)
  | within {first second : ProgramRun} {index : Nat} :
      Before first second → Before (first.within index) (second.within index)

theorem Before.ne {first second : ProgramRun} (earlier : Before first second) :
    first ≠ second := by
  induction earlier with
  | kind less =>
      rintro ⟨⟩
      exact Nat.lt_irrefl _ less
  | own => nofun
  | across less =>
      intro same
      exact Nat.ne_of_lt less (List.cons.inj (ProgramRun.mk.inj same).1).1
  | within _ induction =>
      intro same
      obtain ⟨path, kind⟩ := ProgramRun.mk.inj same
      exact induction (ProgramRun.ext (List.cons.inj path).2 kind)

/-- What a label says behind its transaction. -/
def label (run : ProgramRun) : String :=
  run.path.foldr (fun index behind => s!" inner {index}" ++ behind)
    s!" {run.kind.name}"

end ProgramRun

structure Place where
  group : Nat
  transaction : Nat
  run : ProgramRun
  deriving DecidableEq, Repr

namespace Place

inductive Before : Place → Place → Prop where
  | group {first second : Place} :
      first.group < second.group → Before first second
  | transaction {first second : Place} :
      first.group = second.group → first.transaction < second.transaction →
      Before first second
  | run {first second : Place} :
      first.group = second.group → first.transaction = second.transaction →
      first.run.Before second.run → Before first second

theorem Before.ne {first second : Place} (earlier : Before first second) :
    first ≠ second := by
  rintro rfl
  cases earlier with
  | group less => exact Nat.lt_irrefl _ less
  | transaction _ less => exact Nat.lt_irrefl _ less
  | run _ _ before => exact before.ne rfl

def label (place : Place) : String :=
  s!"group {place.group} txn {place.transaction}" ++ place.run.label

end Place

/-! ## Labels -/

namespace ProgramRun

/-- The words of a label behind its transaction. -/
def words (run : ProgramRun) : List (List Char) :=
  run.path.flatMap (fun index => ["inner".toList, Nat.toDigits 10 index]) ++
    Text.split ' ' run.kind.name.toList

private theorem words_cons
    (index : Nat) (path : List Nat) (kind : ProgramKind) :
    (ProgramRun.mk (index :: path) kind).words =
      "inner".toList :: Nat.toDigits 10 index ::
        (ProgramRun.mk path kind).words :=
  rfl

private theorem head_words_nil (kind : ProgramKind) :
    (ProgramRun.mk [] kind).words.head? ≠ some "inner".toList := by
  cases kind <;> decide

theorem toList_label (run : ProgramRun) :
    ∃ behind, run.label.toList = ' ' :: behind ∧
      Text.split ' ' behind = run.words := by
  obtain ⟨path, kind⟩ := run
  induction path with
  | nil =>
      refine ⟨kind.name.toList, ?_, rfl⟩
      cases kind <;> decide
  | cons index path induction =>
      obtain ⟨behind, spelled, words⟩ := induction
      have parts : (ProgramRun.mk (index :: path) kind).label =
          " inner " ++ index.repr ++ (ProgramRun.mk path kind).label :=
        rfl
      have inner : " inner ".toList = ' ' :: ("inner".toList ++ [' ']) := by
        decide
      have label : (ProgramRun.mk (index :: path) kind).label.toList =
          ' ' :: ("inner".toList ++ ' ' ::
            (Nat.toDigits 10 index ++ ' ' :: behind)) := by
        rw [parts, String.toList_append, String.toList_append,
          Nat.toList_repr, spelled, inner]
        simp only [List.append_assoc, List.cons_append, List.nil_append]
      refine ⟨_, label, ?_⟩
      rw [Text.split_append_cons (by decide),
        Text.split_append_cons (Text.not_mem_toDigits rfl index), words,
        words_cons]

private theorem words_injective {first second : ProgramRun}
    (same : first.words = second.words) : first = second := by
  obtain ⟨path, kind⟩ := first
  induction path generalizing second with
  | nil =>
      obtain ⟨other, last⟩ := second
      cases other with
      | nil => revert same; cases kind <;> cases last <;> decide
      | cons index other =>
          rw [words_cons] at same
          exact absurd (congrArg List.head? same) (head_words_nil kind)
  | cons index path induction =>
      obtain ⟨other, last⟩ := second
      cases other with
      | nil =>
          rw [words_cons] at same
          exact absurd (congrArg List.head? same).symm (head_words_nil last)
      | cons number other =>
          rw [words_cons, words_cons, List.cons.injEq, List.cons.injEq] at same
          obtain ⟨-, digits, rest⟩ := same
          have behind := ProgramRun.mk.inj (induction rest)
          rw [Text.toDigits_injective digits, behind.1, behind.2]

end ProgramRun

namespace Place

private theorem split_label (place : Place) :
    Text.split ' ' place.label.toList =
      "group".toList :: Nat.toDigits 10 place.group ::
        "txn".toList :: Nat.toDigits 10 place.transaction ::
          place.run.words := by
  obtain ⟨behind, spelled, words⟩ := place.run.toList_label
  have parts : place.label =
      "group " ++ place.group.repr ++ " txn " ++ place.transaction.repr ++
        place.run.label :=
    rfl
  have group : "group ".toList = "group".toList ++ [' '] := by decide
  have transaction : " txn ".toList = ' ' :: ("txn".toList ++ [' ']) := by
    decide
  have label : place.label.toList =
      "group".toList ++ ' ' :: (Nat.toDigits 10 place.group ++
        ' ' :: ("txn".toList ++ ' ' ::
          (Nat.toDigits 10 place.transaction ++ ' ' :: behind))) := by
    rw [parts]
    simp only [String.toList_append, Nat.toList_repr, spelled, group,
      transaction, List.append_assoc, List.cons_append, List.nil_append]
  rw [label, Text.split_append_cons (by decide),
    Text.split_append_cons (Text.not_mem_toDigits rfl _),
    Text.split_append_cons (by decide),
    Text.split_append_cons (Text.not_mem_toDigits rfl _), words]

/-- A label tells the place. -/
theorem label_injective {first second : Place}
    (same : first.label = second.label) : first = second := by
  have words := congrArg (fun label => Text.split ' ' label.toList) same
  simp only [split_label, List.cons.injEq, true_and] at words
  obtain ⟨group, transaction, run⟩ := words
  obtain ⟨_, _, _⟩ := first
  obtain ⟨_, _, _⟩ := second
  rw [Place.mk.injEq]
  exact ⟨Text.toDigits_injective group, Text.toDigits_injective transaction,
    ProgramRun.words_injective run⟩

end Place

/-! ## What was executed at a place -/

namespace ExecutionTrace

def program : ExecutionTrace → ProgramKind → List OpcodeEffect
  | .node logicSig _ _ _, .logicSig => logicSig
  | .node _ approval _ _, .approval => approval
  | .node _ _ clearState _, .clearState => clearState

def inner : ExecutionTrace → List ExecutionTrace
  | .node _ _ _ inner => inner

/-- The trace of an inner transaction. -/
def descend? : ExecutionTrace → List Nat → Option ExecutionTrace
  | trace, [] => some trace
  | trace, index :: path =>
    trace.inner[index]?.bind fun inner => inner.descend? path

/-- The opcodes of a run, none if there is no such run. -/
def stepsAt (trace : ExecutionTrace) (run : ProgramRun) : List OpcodeEffect :=
  ((trace.descend? run.path).map fun reached => reached.program run.kind).getD
    []

end ExecutionTrace

/-- The trace of a transaction, if it has one. -/
def Simulation.trace? (simulation : Simulation) (group transaction : Nat) :
    Option ExecutionTrace := do
  let group ← simulation.groups[group]?
  let result ← group.transactions[transaction]?
  result.trace

/-- The opcodes that were executed at a place, none if there is no such
place. -/
def Simulation.stepsAt (simulation : Simulation) (place : Place) :
    List OpcodeEffect :=
  ((simulation.trace? place.group place.transaction).map fun trace =>
    trace.stepsAt place.run).getD []

namespace Debugger

/-! ## Listings -/

/-- Segments that list everything that was executed somewhere, in the order
of the places. -/
structure Lists {site : Type} (before : site → site → Prop)
    (steps : site → List OpcodeEffect) (label : site → String)
    (sites : List site) (segments : List Segment) : Prop where
  segments : segments = sites.map fun site => ⟨label site, steps site⟩
  ordered : sites.Pairwise before
  complete : ∀ site, site ∈ sites ↔ steps site ≠ []

/-- Segments of items that are numbered from the given number on. -/
def numbered {item : Type} (block : Nat → item → List Segment) :
    Nat → List item → List Segment
  | _, [] => []
  | index, item :: items => block index item ++ numbered block (index + 1) items

section

variable {item site : Type} {before : site → site → Prop}
  {steps : Nat × site → List OpcodeEffect} {label : Nat × site → String}
  {block : Nat → item → List Segment}

/-- Listings of items are put together in the order of the items. -/
private theorem exists_listing_from (items : List item) (start : Nat)
    (each : ∀ index item, items[index]? = some item →
      ∃ sites, Lists before (fun site => steps (start + index, site))
        (fun site => label (start + index, site)) sites
        (block (start + index) item))
    (within : ∀ index site, steps (index, site) ≠ [] →
      index < start + items.length) :
    ∃ sites : List (Nat × site),
      numbered block start items =
          sites.map (fun site => ⟨label site, steps site⟩) ∧
        sites.Pairwise (Prod.Lex (· < ·) before) ∧
        ∀ index site, (index, site) ∈ sites ↔
          start ≤ index ∧ steps (index, site) ≠ [] := by
  induction items generalizing start with
  | nil =>
      refine ⟨[], rfl, .nil, ?_⟩
      intro index site
      constructor
      · nofun
      · rintro ⟨behind, executed⟩
        exact absurd (within index site executed) (Nat.not_lt_of_le behind)
  | cons first items induction =>
      obtain ⟨sites, own⟩ := each 0 first rfl
      rw [Nat.add_zero] at own
      obtain ⟨others, rest, ordered, complete⟩ := induction (start + 1)
        (by
          intro index item found
          have later := each (index + 1) item found
          rw [← Nat.add_assoc, Nat.add_right_comm] at later
          exact later)
        (by
          intro index site executed
          have inside := within index site executed
          rw [List.length_cons] at inside
          omega)
      refine ⟨sites.map (start, ·) ++ others, ?_, ?_, ?_⟩
      · rw [numbered, own.segments, rest, List.map_append, List.map_map]
        rfl
      · rw [List.pairwise_append]
        refine ⟨?_, ordered, ?_⟩
        · rw [List.pairwise_map]
          exact own.ordered.imp fun earlier => .right start earlier
        · rintro earlier member ⟨index, site⟩ later
          obtain ⟨here, -, rfl⟩ := List.mem_map.mp member
          exact .left _ _ ((complete index site).mp later).1
      · intro index site
        rw [List.mem_append, complete]
        constructor
        · rintro (here | ⟨behind, executed⟩)
          · obtain ⟨there, member, same⟩ := List.mem_map.mp here
            cases same
            exact ⟨Nat.le_refl start, (own.complete _).mp member⟩
          · exact ⟨Nat.le_of_succ_le behind, executed⟩
        · rintro ⟨behind, executed⟩
          rcases Nat.eq_or_lt_of_le behind with rfl | later
          · exact .inl (List.mem_map_of_mem
              ((own.complete site).mpr executed))
          · exact .inr ⟨later, executed⟩

theorem exists_listing {items : List item}
    (each : ∀ index item, items[index]? = some item →
      ∃ sites, Lists before (fun site => steps (index, site))
        (fun site => label (index, site)) sites (block index item))
    (within : ∀ index site, items[index]? = none →
      steps (index, site) = []) :
    ∃ sites, Lists (Prod.Lex (· < ·) before) steps label sites
      (numbered block 0 items) := by
  obtain ⟨sites, segments, ordered, complete⟩ :=
    @exists_listing_from item site before steps label block items 0
      (by simpa only [Nat.zero_add] using each)
      (by
        intro index site executed
        rw [Nat.zero_add]
        by_contra beyond
        exact executed (within index site
          (List.getElem?_eq_none (Nat.le_of_not_lt beyond))))
  refine ⟨sites, segments, ordered, ?_⟩
  intro site
  rw [complete]
  exact and_iff_right (Nat.zero_le _)

end

/-! ## One transaction -/

private theorem ofInner_eq_numbered (label : String) (index : Nat)
    (traces : List ExecutionTrace) :
    Segment.ofInner label index traces =
      numbered (fun index trace =>
        Segment.ofTrace s!"{label} inner {index}" trace) index traces := by
  induction traces generalizing index with
  | nil => rfl
  | cons trace traces induction =>
      rw [Segment.ofInner, numbered, induction]

theorem stepsAt_within (trace : ExecutionTrace) (index : Nat)
    (run : ProgramRun) :
    trace.stepsAt (run.within index) =
      (trace.inner[index]?.map fun inner => inner.stepsAt run).getD [] := by
  simp only [ExecutionTrace.stepsAt, ProgramRun.within, ExecutionTrace.descend?]
  cases trace.inner[index]? <;> rfl

private theorem label_within (label : String) (index : Nat) (run : ProgramRun) :
    label ++ (run.within index).label =
      s!"{label} inner {index}" ++ run.label := by
  have split : (run.within index).label = s!" inner {index}" ++ run.label :=
    rfl
  rw [split, ← String.append_assoc, ← String.append_assoc]
  rfl

/-- The programs of the transaction itself that were executed. -/
def ownRuns (trace : ExecutionTrace) : List ProgramRun :=
  (ProgramKind.all.filter fun kind => trace.program kind ≠ []).map
    (ProgramRun.mk [])

def innerRuns (sites : List (Nat × ProgramRun)) : List ProgramRun :=
  sites.map fun site => site.2.within site.1

theorem ofTrace_eq (label : String) (trace : ExecutionTrace) :
    Segment.ofTrace label trace =
      (ownRuns trace).map (fun run =>
          ⟨label ++ run.label, trace.stepsAt run⟩) ++
        Segment.ofInner label 0 trace.inner := by
  have labels : ∀ kind : ProgramKind,
      label ++ (ProgramRun.mk [] kind).label = s!"{label} {kind.name}" :=
    fun _ => String.append_assoc.symm
  obtain ⟨logicSig, approval, clearState, inner⟩ := trace
  simp only [ownRuns, List.map_map, Function.comp_def, labels]
  cases logicSig <;> cases approval <;> cases clearState <;> rfl

theorem mem_ownRuns_iff {trace : ExecutionTrace} {run : ProgramRun} :
    run ∈ ownRuns trace ↔ run.path = [] ∧ trace.stepsAt run ≠ [] := by
  rw [ownRuns, List.mem_map]
  constructor
  · rintro ⟨kind, member, rfl⟩
    exact ⟨rfl, of_decide_eq_true (List.mem_filter.mp member).2⟩
  · obtain ⟨path, kind⟩ := run
    rintro ⟨rfl, executed⟩
    have listed : kind ∈ ProgramKind.all := by cases kind <;> decide
    refine ⟨kind, List.mem_filter.mpr ⟨listed, ?_⟩, rfl⟩
    exact decide_eq_true executed

theorem ordered_ownRuns (trace : ExecutionTrace) :
    (ownRuns trace).Pairwise ProgramRun.Before := by
  have kinds : ProgramKind.all.Pairwise fun first second =>
      first.rank < second.rank := by decide
  rw [ownRuns, List.pairwise_map]
  exact (kinds.filter _).imp .kind

theorem mem_innerRuns_iff {sites : List (Nat × ProgramRun)} {run : ProgramRun} :
    run ∈ innerRuns sites ↔
      ∃ index inner, (index, inner) ∈ sites ∧ inner.within index = run := by
  rw [innerRuns, List.mem_map, Prod.exists]

private theorem before_within {first second : Nat × ProgramRun}
    (earlier : Prod.Lex (· < ·) ProgramRun.Before first second) :
    (first.2.within first.1).Before (second.2.within second.1) := by
  cases earlier with
  | left _ _ less => exact .across less
  | right _ inside => exact .within inside

/-- The runs of a transaction are its own programs and then the runs of its
inner transactions. -/
private theorem exists_listing_node {label : String} {trace : ExecutionTrace}
    (each : ∀ inner ∈ trace.inner, ∀ label, ∃ runs,
      Lists ProgramRun.Before inner.stepsAt (fun run => label ++ run.label) runs
        (Segment.ofTrace label inner)) :
    ∃ runs, Lists ProgramRun.Before trace.stepsAt
      (fun run => label ++ run.label) runs (Segment.ofTrace label trace) := by
  have inside : ∃ sites, Lists (Prod.Lex (· < ·) ProgramRun.Before)
      (fun site => trace.stepsAt (site.2.within site.1))
      (fun site => label ++ (site.2.within site.1).label) sites
      (Segment.ofInner label 0 trace.inner) := by
    rw [ofInner_eq_numbered]
    apply exists_listing
    · intro index inner found
      simp only [stepsAt_within, label_within, found, Option.map_some,
        Option.getD_some]
      exact each inner (List.mem_of_getElem? found) _
    · intro index run beyond
      simp only [stepsAt_within, beyond, Option.map_none, Option.getD_none]
  obtain ⟨sites, inside⟩ := inside
  refine ⟨ownRuns trace ++ innerRuns sites, ?_, ?_, ?_⟩
  · rw [ofTrace_eq, inside.segments, innerRuns,
      List.map_append, List.map_map]
    rfl
  · rw [List.pairwise_append]
    refine ⟨ordered_ownRuns trace, ?_, ?_⟩
    · rw [innerRuns, List.pairwise_map]
      exact inside.ordered.imp before_within
    · rintro ⟨path, kind⟩ own deeper member
      obtain ⟨rfl, -⟩ := mem_ownRuns_iff.mp own
      obtain ⟨index, inner, -, rfl⟩ := mem_innerRuns_iff.mp member
      exact .own
  · rintro ⟨path, kind⟩
    rw [List.mem_append, mem_ownRuns_iff, mem_innerRuns_iff]
    constructor
    · rintro (⟨-, executed⟩ | ⟨index, inner, member, same⟩)
      · exact executed
      · exact same ▸ (inside.complete (index, inner)).mp member
    · intro executed
      cases path with
      | nil => exact .inl ⟨rfl, executed⟩
      | cons index path =>
          exact .inr ⟨index, ⟨path, kind⟩,
            (inside.complete (index, ⟨path, kind⟩)).mpr executed, rfl⟩

mutual

theorem exists_listing_ofTrace (label : String) : (trace : ExecutionTrace) →
    ∃ runs, Lists ProgramRun.Before trace.stepsAt
      (fun run => label ++ run.label) runs (Segment.ofTrace label trace)
  | .node _ _ _ inner => exists_listing_node (exists_listing_inner inner)

private theorem exists_listing_inner : (traces : List ExecutionTrace) →
    ∀ trace ∈ traces, ∀ label, ∃ runs,
      Lists ProgramRun.Before trace.stepsAt (fun run => label ++ run.label) runs
        (Segment.ofTrace label trace)
  | [] => nofun
  | first :: traces => by
      intro trace member label
      rcases List.mem_cons.mp member with same | later
      · exact same ▸ exists_listing_ofTrace label first
      · exact exists_listing_inner traces trace later label

end

/-! ## Transactions and groups -/

private theorem ofTransactions_eq_numbered (group index : Nat)
    (results : List TransactionResult) :
    Segment.ofTransactions group index results =
      numbered (fun index result =>
        (result.trace.map
          (Segment.ofTrace s!"group {group} txn {index}")).getD [])
        index results := by
  induction results generalizing index with
  | nil => rfl
  | cons result results induction =>
      rw [Segment.ofTransactions, numbered, induction]
      cases result.trace <;> rfl

private theorem ofGroups_eq_numbered (index : Nat) (groups : List GroupResult) :
    Segment.ofGroups index groups =
      numbered (fun index group =>
        Segment.ofTransactions index 0 group.transactions) index groups := by
  induction groups generalizing index with
  | nil => rfl
  | cons group groups induction =>
      rw [Segment.ofGroups, numbered, induction]

private theorem exists_listing_ofTransactions (simulation : Simulation)
    {group : GroupResult} {index : Nat}
    (here : simulation.groups[index]? = some group) :
    ∃ sites, Lists (Prod.Lex (· < ·) ProgramRun.Before)
      (fun site => simulation.stepsAt ⟨index, site.1, site.2⟩)
      (fun site => (Place.mk index site.1 site.2).label) sites
      (Segment.ofTransactions index 0 group.transactions) := by
  have steps : ∀ transaction run,
      simulation.stepsAt ⟨index, transaction, run⟩ =
        ((group.transactions[transaction]?.bind TransactionResult.trace).map
          fun trace => trace.stepsAt run).getD [] := by
    intro transaction run
    simp [Simulation.stepsAt, Simulation.trace?, here]
  rw [ofTransactions_eq_numbered]
  apply exists_listing
  · intro transaction result found
    simp only [steps, found, Option.bind_some]
    cases result.trace with
    | none => exact ⟨[], rfl, .nil, by simp⟩
    | some trace =>
        exact exists_listing_ofTrace s!"group {index} txn {transaction}" trace
  · intro transaction run beyond
    rw [steps, beyond]
    rfl

theorem exists_listing_ofSimulation (simulation : Simulation) :
    ∃ sites, Lists (Prod.Lex (· < ·) (Prod.Lex (· < ·) ProgramRun.Before))
      (fun site => simulation.stepsAt ⟨site.1, site.2.1, site.2.2⟩)
      (fun site => (Place.mk site.1 site.2.1 site.2.2).label) sites
      (Segment.ofSimulation simulation) := by
  rw [Segment.ofSimulation, ofGroups_eq_numbered]
  apply exists_listing
  · intro index group found
    exact exists_listing_ofTransactions simulation found
  · intro index site beyond
    simp [Simulation.stepsAt, Simulation.trace?, beyond]

/-! ## All program runs -/

/-- The place that groups and transactions lead to one after the other. -/
def placeOf (site : Nat × Nat × ProgramRun) : Place :=
  ⟨site.1, site.2.1, site.2.2⟩

theorem before_placeOf {first second : Nat × Nat × ProgramRun}
    (earlier : Prod.Lex (· < ·) (Prod.Lex (· < ·) ProgramRun.Before)
      first second) :
    (placeOf first).Before (placeOf second) := by
  cases earlier with
  | left _ _ less => exact .group less
  | right _ inside =>
      cases inside with
      | left _ _ less => exact .transaction rfl less
      | right _ deeper => exact .run rfl rfl deeper

/-- The segments of a simulation are the program runs at all places where
something was executed, once each and in the order of the places, and no two
places have the same label. -/
theorem segments_list_runs (simulation : Simulation) :
    ∃ places : List Place,
      Segment.ofSimulation simulation =
          places.map (fun place =>
            { label := place.label, steps := simulation.stepsAt place }) ∧
        places.Pairwise Place.Before ∧ places.Nodup ∧
        (∀ place, place ∈ places ↔ simulation.stepsAt place ≠ []) ∧
        ((Segment.ofSimulation simulation).map Segment.label).Nodup ∧
        ∀ first second : Place, first.label = second.label →
          first = second := by
  obtain ⟨sites, segments, ordered, complete⟩ :=
    exists_listing_ofSimulation simulation
  have places : (sites.map placeOf).Pairwise Place.Before := by
    rw [List.pairwise_map]
    exact ordered.imp before_placeOf
  have distinct : (sites.map placeOf).Nodup := places.imp Place.Before.ne
  have listed : Segment.ofSimulation simulation =
      (sites.map placeOf).map fun place =>
        { label := place.label, steps := simulation.stepsAt place } := by
    rw [segments, List.map_map]
    rfl
  refine ⟨sites.map placeOf, listed, places, distinct, ?_, ?_,
    fun _ _ => Place.label_injective⟩
  · intro place
    rw [List.mem_map]
    constructor
    · rintro ⟨site, member, rfl⟩
      exact (complete site).mp member
    · intro executed
      exact ⟨(place.group, place.transaction, place.run),
        (complete (place.group, place.transaction, place.run)).mpr executed,
        rfl⟩
  · rw [listed, List.map_map]
    exact distinct.map fun _ _ => Place.label_injective

end Debugger

end TealTools
