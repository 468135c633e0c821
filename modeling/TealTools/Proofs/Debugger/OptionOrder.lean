import Mathlib.Data.List.Induction
import TealTools.Proofs.Debugger.Session

/-!
# Options in any order

A list of options makes a session exactly if no two of them are of one kind
and no configuration stands behind an endpoint or a recorded execution.  The
session consists of the options, whatever their order; a list that makes none
is refused for the first option that does not go with those in front of it.
-/

namespace TealTools.Debugger.Session

/-- One option of each kind at most, and no configuration behind an endpoint
or a recorded execution. -/
structure Acceptable (options : List SessionOption) : Prop where
  once : (options.map SessionOption.kind).Nodup
  configFirst : options.Pairwise fun earlier later =>
    earlier.kind = .live ∨ earlier.kind = .recorded → later.kind ≠ .config

/-- The conflict of an option with the kinds in front of it.  A configuration
that comes too late is refused for that, even if it is the second one. -/
inductive Conflicts (front : List OptionKind) :
    OptionKind → OptionConflict → Prop where
  | secondLog : .log ∈ front → Conflicts front .log .secondLog
  | lateConfig :
      .live ∈ front ∨ .recorded ∈ front → Conflicts front .config .lateConfig
  | secondConfig :
      .config ∈ front → .live ∉ front → .recorded ∉ front →
      Conflicts front .config .secondConfig
  | secondEndpoint : .live ∈ front → Conflicts front .live .secondEndpoint
  | secondRecording :
      .recorded ∈ front → Conflicts front .recorded .secondRecording

/-- The session holds the given options and is otherwise as it starts without
any. -/
structure ConsistsOf (session : Session) (options : List SessionOption) :
    Prop where
  log : ∀ log, session.log = some log ↔ .log log ∈ options
  config : ∀ config, .config config ∈ options →
    session.adapter.config = config
  unconfigured : (∀ config, .config config ∉ options) →
    session.adapter.config = Adapter.empty.config
  live : ∀ endpoint,
    session.adapter.live = some endpoint ↔ .live endpoint ∈ options
  recorded : ∀ simulation,
    session.adapter.recorded = some simulation ↔ .recorded simulation ∈ options
  rest : { session.adapter with
      config := Adapter.empty.config, live := none, recorded := none } =
    Adapter.empty

/-! ## Conflicts -/

variable {front back options : List SessionOption} {option : SessionOption}

theorem Acceptable.of_append (accepted : Acceptable (front ++ back)) :
    Acceptable front := by
  constructor
  · have once := accepted.once
    rw [List.map_append, List.nodup_append] at once
    exact once.1
  · exact (List.pairwise_append.mp accepted.configFirst).1

/-- An option has a conflict exactly with its own kind, and a configuration
also with an endpoint or a recorded execution. -/
theorem exists_conflicts_iff {front : List OptionKind} {kind : OptionKind} :
    (∃ conflict, Conflicts front kind conflict) ↔
      kind ∈ front ∨
        kind = .config ∧ (.live ∈ front ∨ .recorded ∈ front) := by
  constructor
  · rintro ⟨conflict, conflicts⟩
    cases conflicts with
    | secondLog same => exact .inl same
    | lateConfig source => exact .inr ⟨rfl, source⟩
    | secondConfig same _ _ => exact .inl same
    | secondEndpoint same => exact .inl same
    | secondRecording same => exact .inl same
  · intro barred
    by_cases late : kind = .config ∧ (.live ∈ front ∨ .recorded ∈ front)
    · obtain ⟨rfl, source⟩ := late
      exact ⟨_, .lateConfig source⟩
    · have same := barred.resolve_right late
      cases kind with
      | log => exact ⟨_, .secondLog same⟩
      | config =>
          simp only [true_and, not_or] at late
          exact ⟨_, .secondConfig same late.1 late.2⟩
      | live => exact ⟨_, .secondEndpoint same⟩
      | recorded => exact ⟨_, .secondRecording same⟩

theorem acceptable_concat_iff :
    Acceptable (options ++ [option]) ↔
      Acceptable options ∧ ¬ ∃ conflict,
        Conflicts (options.map SessionOption.kind) option.kind conflict := by
  rw [exists_conflicts_iff, not_or]
  constructor
  · intro accepted
    refine ⟨accepted.of_append, ?_, ?_⟩
    · have once := accepted.once
      rw [List.map_append, List.map_singleton, List.nodup_append] at once
      intro same
      exact once.2.2 _ same _ List.mem_cons_self rfl
    · rintro ⟨config, source⟩
      have first := (List.pairwise_append.mp accepted.configFirst).2.2
      rcases source with endpoint | recording
      · obtain ⟨earlier, member, live⟩ := List.mem_map.mp endpoint
        exact first earlier member option List.mem_cons_self (.inl live) config
      · obtain ⟨earlier, member, recorded⟩ := List.mem_map.mp recording
        exact first earlier member option List.mem_cons_self (.inr recorded)
          config
  · rintro ⟨accepted, other, early⟩
    constructor
    · rw [List.map_append, List.map_singleton, List.nodup_append]
      refine ⟨accepted.once, List.nodup_cons.mpr ⟨nofun, List.nodup_nil⟩, ?_⟩
      rintro kind member _ last rfl
      rw [List.mem_singleton.mp last] at member
      exact other member
    · apply List.pairwise_append.mpr
      refine ⟨accepted.configFirst, List.pairwise_singleton _ _, ?_⟩
      intro earlier member later last source config
      rw [List.mem_singleton.mp last] at config
      apply early
      refine ⟨config, ?_⟩
      rcases source with live | recorded
      · exact .inl (live ▸ List.mem_map_of_mem member)
      · exact .inr (recorded ▸ List.mem_map_of_mem member)

theorem not_acceptable_of_conflicts {conflict : OptionConflict}
    (conflicts : Conflicts (front.map SessionOption.kind) option.kind conflict)
    (back : List SessionOption) : ¬Acceptable (front ++ option :: back) := by
  intro accepted
  rw [List.append_cons] at accepted
  exact (acceptable_concat_iff.mp accepted.of_append).2 ⟨conflict, conflicts⟩

/-! ## One more option -/

variable {session next : Session}

/-- The session holds an option of a kind exactly if the part for that kind is
there. -/
private theorem kind_mem_iff {α : Type} {kind : OptionKind}
    {option : α → SessionOption} {part : Option α}
    (member : ∀ value, option value ∈ session.options ↔ part = some value)
    (own : ∀ other : SessionOption,
      other.kind = kind ↔ ∃ value, option value = other) :
    kind ∈ session.options.map SessionOption.kind ↔ part.isSome := by
  rw [List.mem_map, Option.isSome_iff_exists]
  constructor
  · rintro ⟨other, held, same⟩
    obtain ⟨value, rfl⟩ := (own other).mp same
    exact ⟨value, (member value).mp held⟩
  · rintro ⟨value, given⟩
    exact ⟨option value, (member value).mpr given, (own _).mpr ⟨value, rfl⟩⟩

private theorem log_mem_kinds_iff :
    .log ∈ session.options.map SessionOption.kind ↔ session.log.isSome :=
  kind_mem_iff (fun _ => log_mem_options_iff) fun other => by
    cases other <;> simp [SessionOption.kind]

private theorem config_mem_kinds_iff :
    .config ∈ session.options.map SessionOption.kind ↔
      session.config.isSome :=
  kind_mem_iff (fun _ => config_mem_options_iff) fun other => by
    cases other <;> simp [SessionOption.kind]

private theorem live_mem_kinds_iff :
    .live ∈ session.options.map SessionOption.kind ↔ session.live.isSome :=
  kind_mem_iff (fun _ => live_mem_options_iff) fun other => by
    cases other <;> simp [SessionOption.kind]

private theorem recorded_mem_kinds_iff :
    .recorded ∈ session.options.map SessionOption.kind ↔
      session.recorded.isSome :=
  kind_mem_iff (fun _ => recorded_mem_options_iff) fun other => by
    cases other <;> simp [SessionOption.kind]

private theorem apply_of_conflicts {conflict : OptionConflict}
    (conflicts : Conflicts (session.options.map SessionOption.kind)
      option.kind conflict) : session.apply option = .error conflict := by
  cases option with
  | log added =>
      cases conflicts with
      | secondLog same => simp [apply, log_mem_kinds_iff.mp same]
  | config added =>
      cases conflicts with
      | lateConfig source =>
          rw [live_mem_kinds_iff, recorded_mem_kinds_iff] at source
          simp [apply, source]
      | secondConfig same noLive noRecorded =>
          rw [live_mem_kinds_iff] at noLive
          rw [recorded_mem_kinds_iff] at noRecorded
          simp [apply, noLive, noRecorded, config_mem_kinds_iff.mp same]
  | live added =>
      cases conflicts with
      | secondEndpoint same => simp [apply, live_mem_kinds_iff.mp same]
  | recorded added =>
      cases conflicts with
      | secondRecording same => simp [apply, recorded_mem_kinds_iff.mp same]

private theorem perm_insert {α : Type} (value : α) (front back : List α) :
    (front ++ value :: back).Perm (front ++ back ++ [value]) :=
  List.perm_middle.trans (List.perm_append_singleton value _).symm

/-- An option without a conflict is applied: the session holds it besides its
other options. -/
private theorem apply_of_free (free : ¬ ∃ conflict,
      Conflicts (session.options.map SessionOption.kind) option.kind
        conflict) :
    ∃ next, session.apply option = .ok next ∧
      next.options.Perm (session.options ++ [option]) := by
  rw [exists_conflicts_iff, not_or] at free
  obtain ⟨other, early⟩ := free
  let logs := session.log.toList.map SessionOption.log
  let configs := session.config.toList.map SessionOption.config
  let lives := session.live.toList.map SessionOption.live
  let recordings := session.recorded.toList.map SessionOption.recorded
  cases option with
  | log added =>
      have absent : session.log = none := by
        simpa [SessionOption.kind, log_mem_kinds_iff] using other
      refine ⟨{ session with log := some added }, by simp [apply, absent], ?_⟩
      simpa [options, absent] using perm_insert (SessionOption.log added) []
        (configs ++ lives ++ recordings)
  | config added =>
      have absent : session.config = none := by
        simpa [SessionOption.kind, config_mem_kinds_iff] using other
      have noSource : session.live = none ∧ session.recorded = none := by
        simpa [SessionOption.kind, live_mem_kinds_iff,
          recorded_mem_kinds_iff] using early
      refine ⟨{ session with config := some added },
        by simp [apply, absent, noSource], ?_⟩
      simp [options, absent, noSource]
  | live added =>
      have absent : session.live = none := by
        simpa [SessionOption.kind, live_mem_kinds_iff] using other
      refine ⟨{ session with live := some added }, by simp [apply, absent], ?_⟩
      simpa [options, absent] using
        perm_insert (SessionOption.live added) (logs ++ configs) recordings
  | recorded added =>
      have absent : session.recorded = none := by
        simpa [SessionOption.kind, recorded_mem_kinds_iff] using other
      refine ⟨{ session with recorded := some added },
        by simp [apply, absent], ?_⟩
      simp [options, absent]

/-! ## All options -/

theorem applyAll_append (session : Session)
    (front back : List SessionOption) :
    session.applyAll (front ++ back) =
      (session.applyAll front).bind (·.applyAll back) := by
  induction front generalizing session with
  | nil => rfl
  | cons option front induction =>
      rw [List.cons_append, applyAll, applyAll]
      cases session.apply option with
      | ok next => exact induction next
      | error conflict => rfl

theorem build_concat (options : List SessionOption)
    (option : SessionOption) :
    build (options ++ [option]) = (build options).bind (·.apply option) := by
  rw [build, applyAll_append]
  congr
  funext session
  rw [applyAll]
  cases session.apply option <;> rfl

theorem Conflicts.perm {front other : List OptionKind} {kind : OptionKind}
    {conflict : OptionConflict} (conflicts : Conflicts front kind conflict)
    (same : front.Perm other) : Conflicts other kind conflict := by
  cases conflicts with
  | secondLog taken => exact .secondLog (same.mem_iff.mp taken)
  | lateConfig source =>
      exact .lateConfig (source.imp same.mem_iff.mp same.mem_iff.mp)
  | secondConfig taken noLive noRecorded =>
      exact .secondConfig (same.mem_iff.mp taken)
        (mt same.mem_iff.mpr noLive) (mt same.mem_iff.mpr noRecorded)
  | secondEndpoint taken => exact .secondEndpoint (same.mem_iff.mp taken)
  | secondRecording taken => exact .secondRecording (same.mem_iff.mp taken)

/-- Options make a session that consists of them, or the first one with a
conflict decides how they are refused. -/
theorem build_cases (options : List SessionOption) :
    (Acceptable options ∧ ∃ session, build options = .ok session ∧
        session.options.Perm options) ∨
      ∃ front option back conflict, options = front ++ option :: back ∧
        Acceptable front ∧
        Conflicts (front.map SessionOption.kind) option.kind conflict ∧
        ∀ later, build (front ++ option :: later) = .error conflict := by
  -- What is made of the options so far says what the last one meets.
  induction options using List.reverseRecOn with
  | nil => exact .inl ⟨⟨List.nodup_nil, .nil⟩, empty, rfl, .refl _⟩
  | append_singleton options option induction =>
      rcases induction with ⟨accepted, session, built, consists⟩ |
        ⟨front, first, back, conflict, rfl, accepted, conflicts, refused⟩
      · have kinds := consists.map SessionOption.kind
        by_cases barred : ∃ conflict,
            Conflicts (options.map SessionOption.kind) option.kind conflict
        · obtain ⟨conflict, conflicts⟩ := barred
          refine .inr ⟨options, option, [], conflict, rfl, accepted,
            conflicts, fun later => ?_⟩
          have refused := apply_of_conflicts (conflicts.perm kinds.symm)
          rw [build, applyAll_append, ← build, built]
          simp only [Except.bind, applyAll, refused]
        · have free : ¬ ∃ conflict, Conflicts
              (session.options.map SessionOption.kind) option.kind
                conflict := by
            rintro ⟨conflict, conflicts⟩
            exact barred ⟨conflict, conflicts.perm kinds⟩
          obtain ⟨next, applied, gained⟩ := apply_of_free free
          refine .inl ⟨acceptable_concat_iff.mpr ⟨accepted, barred⟩, next, ?_,
            gained.trans (consists.append_right [option])⟩
          rw [build_concat, built]
          exact applied
      · refine .inr ⟨front, first, back ++ [option], conflict, ?_, accepted,
          conflicts, refused⟩
        rw [List.append_assoc, List.cons_append]

theorem options_perm_of_build (built : build options = .ok session) :
    session.options.Perm options := by
  rcases build_cases options with ⟨-, other, same, consists⟩ |
    ⟨front, option, back, conflict, rfl, -, -, refused⟩
  · cases built.symm.trans same
    exact consists
  · cases built.symm.trans (refused back)

theorem build_eq_ok_iff :
    (∃ session, build options = .ok session) ↔ Acceptable options := by
  constructor
  · rintro ⟨session, built⟩
    rcases build_cases options with ⟨accepted, -⟩ |
      ⟨front, option, back, conflict, rfl, -, -, refused⟩
    · exact accepted
    · cases built.symm.trans (refused back)
  · intro accepted
    rcases build_cases options with ⟨-, session, built, -⟩ |
      ⟨front, option, back, conflict, rfl, -, conflicts, -⟩
    · exact ⟨session, built⟩
    · exact absurd accepted (not_acceptable_of_conflicts conflicts back)

/-! ## Sessions -/

/-- A session is determined by the options that it holds. -/
theorem eq_of_options_perm {other : Session}
    (same : session.options.Perm other.options) : session = other := by
  have log : session.log = other.log := Option.ext fun _ =>
    log_mem_options_iff.symm.trans (same.mem_iff.trans log_mem_options_iff)
  have config : session.config = other.config := Option.ext fun _ =>
    config_mem_options_iff.symm.trans
      (same.mem_iff.trans config_mem_options_iff)
  have live : session.live = other.live := Option.ext fun _ =>
    live_mem_options_iff.symm.trans (same.mem_iff.trans live_mem_options_iff)
  have recorded : session.recorded = other.recorded := Option.ext fun _ =>
    recorded_mem_options_iff.symm.trans
      (same.mem_iff.trans recorded_mem_options_iff)
  obtain ⟨_, _, _, _⟩ := session
  obtain ⟨_, _, _, _⟩ := other
  cases log
  cases config
  cases live
  cases recorded
  rfl

theorem consistsOf_of_build (built : build options = .ok session) :
    session.ConsistsOf options := by
  have consists := options_perm_of_build built
  constructor
  case log =>
    exact fun _ => log_mem_options_iff.symm.trans consists.mem_iff
  case config =>
    intro config member
    have given := config_mem_options_iff.mp (consists.mem_iff.mpr member)
    simp only [adapter, given, Option.getD_some]
  case unconfigured =>
    intro unconfigured
    have absent : session.config = none := by
      rw [Option.eq_none_iff_forall_ne_some]
      intro config given
      exact unconfigured config
        (consists.mem_iff.mp (config_mem_options_iff.mpr given))
    rw [adapter, absent]
    rfl
  case live =>
    exact fun _ => live_mem_options_iff.symm.trans consists.mem_iff
  case recorded =>
    exact fun _ => recorded_mem_options_iff.symm.trans consists.mem_iff
  case rest => rfl

/-- Options make a session exactly if no two are of one kind and no
configuration comes late.  The session consists of them, so that their order
has no part in it.  Other options are refused for the first one that does not
go with those in front of it, whatever stands behind it. -/
theorem options_make_sessions_in_any_order (options : List SessionOption) :
    ((∃ session, build options = .ok session) ↔ Acceptable options) ∧
      (∀ session, build options = .ok session →
        session.ConsistsOf options) ∧
      (∀ other, options.Perm other → Acceptable options → Acceptable other →
        ∃ session, build options = .ok session ∧
          build other = .ok session) ∧
      (¬Acceptable options → ∃ front option back conflict,
        options = front ++ option :: back ∧ Acceptable front ∧
        ¬Acceptable (front ++ [option]) ∧
        Conflicts (front.map SessionOption.kind) option.kind conflict ∧
        ∀ later, build (front ++ option :: later) = .error conflict) := by
  refine ⟨build_eq_ok_iff, fun session => consistsOf_of_build, ?_, ?_⟩
  · intro other same first second
    obtain ⟨session, built⟩ := build_eq_ok_iff.mpr first
    obtain ⟨again, rebuilt⟩ := build_eq_ok_iff.mpr second
    have equal : session = again := by
      apply eq_of_options_perm
      exact (options_perm_of_build built).trans
        (same.trans (options_perm_of_build rebuilt).symm)
    exact ⟨session, built, equal ▸ rebuilt⟩
  · intro refused
    rcases build_cases options with ⟨accepted, -⟩ |
      ⟨front, option, back, conflict, rfl, accepted, conflicts, refusal⟩
    · exact absurd accepted refused
    · exact ⟨front, option, back, conflict, rfl, accepted,
        not_acceptable_of_conflicts conflicts [], conflicts, refusal⟩

/-- Two configurations behind a recorded execution and a log. -/
def lateOptions : List SessionOption :=
  [.recorded ⟨1, 0, []⟩, .log ⟨[], none, true⟩, .config .empty,
    .config .empty]

theorem options_make_sessions_in_any_order_late :
    (∃ session, build (lateOptions.take 2) = .ok session ∧
        build (lateOptions.take 2).reverse = .ok session) ∧
      ¬Acceptable lateOptions ∧ ∃ front option back conflict,
        lateOptions = front ++ option :: back ∧ Acceptable front ∧
        ¬Acceptable (front ++ [option]) ∧
        Conflicts (front.map SessionOption.kind) option.kind conflict ∧
        ∀ later, build (front ++ option :: later) = .error conflict := by
  have early : Acceptable (lateOptions.take 2) := ⟨by decide, by decide⟩
  have turned : Acceptable (lateOptions.take 2).reverse :=
    ⟨by decide, by decide⟩
  have late : ¬Acceptable lateOptions := fun accepted =>
    absurd accepted.once (by decide)
  have reordered :=
    (options_make_sessions_in_any_order (lateOptions.take 2)).2.2.1
  have refused := (options_make_sessions_in_any_order lateOptions).2.2.2
  exact ⟨reordered _ (List.reverse_perm _).symm early turned, late,
    refused late⟩

end TealTools.Debugger.Session
