import TealTools.Proofs.Debugger.SetUp

/-!
# Launching again

A launch that is refused writes at most the program, the stop flag and the
source map; the execution stays where it is.  A launch that succeeds decides
everything about the execution, except that without a program it leaves the
source map of an earlier launch in force.
-/

namespace TealTools.Debugger

/-- Commands whose answer depends on the execution alone. -/
def Command.ignoresProgram : Command → Bool
  | launch _ => false
  | setBreakpoints _ _ => false
  | configurationDone => false
  | stackTrace => false
  | resume => false
  | _ => true

namespace Adapter

/-! ## The source map behind a history -/

/-- The map that a launch reads, even if the launch is refused later on. -/
def mapRead? (config : Config) (turn : Turn) : Option SourceMap :=
  match turn.command with
  | .launch arguments =>
    match LaunchArguments.ofRequest arguments with
    | .error _ => none
    | .ok parsed =>
      match parsed.program <|> config.program with
      | none => none
      | some path =>
        match turn.environment.files.readText (Text.utf8 path.toList) with
        | .error _ => none
        | .ok text => some (assemble text).sourceMap
  | _ => none

/-- The map of the latest launch that could read its program. -/
def latestMap (config : Config) (history : List Turn) : SourceMap :=
  (history.reverse.findSome? (mapRead? config)).getD .empty

section

variable {environment : Environment} {adapter loaded : Adapter}
  {arguments : Json} {result : Except AdapterError Unit}
  {sent : List Node.Request}

private theorem sourceMap_of_maps
    {parsed : LaunchArguments} {program : Option String}
    {map : SourceMap}
    (decoded : LaunchArguments.ofRequest arguments = .ok parsed)
    (chosen : adapter.selected parsed = program)
    (maps : Maps environment.files adapter.sourceMap program map) :
    map = (mapRead? adapter.config
      ⟨environment, .launch arguments⟩).getD adapter.sourceMap := by
  unfold selected at chosen
  cases maps with
  | kept => simp only [mapRead?, decoded, chosen, Option.getD_none]
  | read read => simp only [mapRead?, decoded, chosen, read, Option.getD_some]

theorem Loads.sourceMap_eq
    (loads : adapter.Loads environment arguments (loaded, result, sent)) :
    loaded.sourceMap = (mapRead? adapter.config
      ⟨environment, .launch arguments⟩).getD adapter.sourceMap := by
  cases loads with
  | malformed malformed => simp only [mapRead?, malformed, Option.getD_none]
  | unreadable decoded chosen unread =>
      unfold selected at chosen
      simp only [mapRead?, decoded, chosen, unread, Option.getD_none,
        reprogram]
  | untraced decoded maps untraced =>
      exact sourceMap_of_maps decoded rfl maps
  | loaded decoded maps traced => exact sourceMap_of_maps decoded rfl maps

private theorem mapRead?_of_other {config : Config} {command : Command}
    (other : command.isLaunch = false) :
    mapRead? config ⟨environment, command⟩ = none := by
  cases command with
  | launch arguments => cases other
  | _ => rfl

theorem sourceMap_answer (turn : Turn) :
    (adapter.answer turn).adapter.sourceMap =
      (mapRead? adapter.config turn).getD adapter.sourceMap := by
  obtain ⟨environment, command⟩ := turn
  have becomes := becomes_execute environment adapter command
  rw [answer]
  generalize (adapter.execute environment command).adapter = next at becomes
  cases becomes with
  | loaded loads moves => exact loads.sourceMap_eq
  | advanced other moves =>
      rw [mapRead?_of_other other]
      rfl
  | _ => rfl

theorem sourceMap_after (history : List Turn) :
    (adapter.after history).sourceMap =
      (history.reverse.findSome? (mapRead? adapter.config)).getD
        adapter.sourceMap := by
  induction history generalizing adapter with
  | nil => rfl
  | cons turn turns induction =>
      have config : (adapter.answer turn).adapter.config = adapter.config :=
        sources_execute.1
      rw [after, induction, config, sourceMap_answer, List.reverse_cons,
        List.findSome?_append, Option.getD_or, List.findSome?_singleton]

private theorem sourceMap_session (session : Session) (history : List Turn) :
    (session.adapter.after history).sourceMap =
      latestMap session.adapter.config history :=
  sourceMap_after history

/-! ## A refused launch -/

theorem execute_reprogram_of_ignores {command : Command}
    (ignores : command.ignoresProgram = true) (program : Option String)
    (stopOnEntry : Bool) (map : SourceMap) :
    (adapter.reprogram program stopOnEntry map).execute environment command =
      ⟨(adapter.execute environment command).adapter.reprogram program
          stopOnEntry map,
        (adapter.execute environment command).result,
        (adapter.execute environment command).sent⟩ := by
  obtain ⟨config, live, recorded, _, _, _, breakpoints, replay, configured⟩ :=
    adapter
  cases command with
  | launch arguments => cases ignores
  | setBreakpoints source breakpoints => cases ignores
  | configurationDone => cases ignores
  | stackTrace => cases ignores
  | resume => cases ignores
  | next => cases replay <;> rfl
  | stepIn => cases replay <;> rfl
  | stepOut => cases replay <;> rfl
  | evaluate expression =>
      rw [execute_evaluate, execute_evaluate]
      rfl
  | _ => rfl

theorem execute_resume_reprogram (program : Option String)
    (stopOnEntry : Bool) :
    (adapter.reprogram program stopOnEntry adapter.sourceMap).execute
        environment .resume =
      ⟨(adapter.execute environment .resume).adapter.reprogram program
          stopOnEntry adapter.sourceMap,
        (adapter.execute environment .resume).result,
        (adapter.execute environment .resume).sent⟩ := by
  obtain ⟨config, live, recorded, _, sourceMap, _, breakpoints, replay,
    configured⟩ := adapter
  cases replay <;> rfl

private theorem isLaunch_of_ignoresProgram {command : Command}
    (ignores : command.ignoresProgram = true) : command.isLaunch = false := by
  cases command with
  | launch arguments => cases ignores
  | _ => rfl

theorem outcomes_reprogram {program : Option String} {stopOnEntry : Bool}
    {map : SourceMap} {history : List Turn}
    (ignores : ∀ turn ∈ history, turn.command.ignoresProgram = true ∨
      turn.command = .resume ∧ map = adapter.sourceMap) :
    ((adapter.reprogram program stopOnEntry map).outcomes history).map
        Outcome.result =
      (adapter.outcomes history).map Outcome.result := by
  induction history generalizing adapter with
  | nil => rfl
  | cons turn turns induction =>
      obtain ⟨environment, command⟩ := turn
      obtain ⟨first, later⟩ := List.forall_mem_cons.mp ignores
      have same : (adapter.reprogram program stopOnEntry map).execute
          environment command =
          ⟨(adapter.execute environment command).adapter.reprogram program
            stopOnEntry map,
          (adapter.execute environment command).result,
          (adapter.execute environment command).sent⟩ := by
        rcases first with ignored | ⟨rfl, rfl⟩
        · exact execute_reprogram_of_ignores ignored program stopOnEntry map
        · exact execute_resume_reprogram program stopOnEntry
      have other : command.isLaunch = false := by
        rcases first with ignored | ⟨rfl, -⟩
        · exact isLaunch_of_ignoresProgram ignored
        · rfl
      have kept : (adapter.execute environment command).adapter.sourceMap =
          adapter.sourceMap := by
        have read := @sourceMap_answer adapter ⟨environment, command⟩
        rw [mapRead?_of_other other] at read
        exact read
      simp only [outcomes, answer, same, List.map_cons, List.cons.injEq,
        true_and]
      apply induction
      rw [kept]
      exact later

theorem Loads.eq_reprogram {cause : AdapterError}
    (loads : adapter.Loads environment arguments
      (loaded, .error cause, sent)) :
    ∃ program stopOnEntry map,
      loaded = adapter.reprogram program stopOnEntry map := by
  cases loads with
  | malformed malformed =>
      exact ⟨adapter.program, adapter.stopOnEntry, adapter.sourceMap, rfl⟩
  | unreadable decoded chosen unread => exact ⟨_, _, _, rfl⟩
  | untraced decoded maps untraced => exact ⟨_, _, _, rfl⟩

/-! ## A successful launch -/

/-- Adapters that differ at most in what earlier launches left behind. -/
structure SameSetUp (first second : Adapter) : Prop where
  config : first.config = second.config
  live : first.live = second.live
  recorded : first.recorded = second.recorded
  breakpoints : first.breakpoints = second.breakpoints
  configured : first.configured = second.configured

theorem Maps.transfer {files : Files} {before other map : SourceMap}
    {program : Option String} (maps : Maps files before program map)
    (same : program = none → other = before) :
    Maps files other program map := by
  cases maps with
  | kept =>
      rw [same rfl]
      exact .kept
  | read read => exact .read read

theorem Loads.transfer {other : Adapter} (same : adapter.SameSetUp other)
    (loads : adapter.Loads environment arguments (loaded, .ok (), sent))
    (determined : ∀ parsed, LaunchArguments.ofRequest arguments = .ok parsed →
      adapter.selected parsed = none → other.sourceMap = adapter.sourceMap) :
    other.Loads environment arguments (loaded, .ok (), sent) := by
  cases loads with
  | @loaded parsed map simulation sent decoded maps traced =>
      have moved := maps.transfer (determined parsed decoded)
      obtain ⟨config, live, recorded, _, _, _, breakpoints, _, configured⟩ :=
        adapter
      obtain ⟨_, _, _, _, _, _, _, _, _⟩ := other
      obtain ⟨rfl, rfl, rfl, rfl, rfl⟩ := same
      exact .loaded decoded moved traced

theorem Loads.frame_execute
    (loads : adapter.Loads environment arguments (loaded, .ok (), sent)) :
    (adapter.execute environment (.launch arguments)).adapter.program =
        loaded.program ∧
      (adapter.execute environment (.launch arguments)).adapter.sourceMap =
        loaded.sourceMap := by
  obtain ⟨moves, started⟩ := exists_startIfReady loaded
  rw [loads.execute, conclude, started]
  exact ⟨rfl, rfl⟩

private theorem outcomes_cons_of_loads {other : Adapter}
    {loading : Adapter × Except AdapterError Unit × List Node.Request}
    (loads : adapter.Loads environment arguments loading)
    (loadsToo : other.Loads environment arguments loading)
    (later : List Turn) :
    other.outcomes (⟨environment, .launch arguments⟩ :: later) =
      adapter.outcomes (⟨environment, .launch arguments⟩ :: later) := by
  simp only [outcomes, answer, loads.execute, loadsToo.execute]

end

end Adapter

/-! ## What launches decide -/

/-- A refused launch leaves the execution alone: it writes at most the
program, the stop flag and the source map, and commands that do not look at
them are answered as if it had not been sent. -/
theorem refused_launch_keeps_execution (adapter : Adapter)
    (environment : Environment) (arguments : Json) (cause : AdapterError)
    (refused : (adapter.execute environment (.launch arguments)).result =
      .error cause) :
    adapter.Loads environment arguments
        ((adapter.execute environment (.launch arguments)).adapter,
          .error cause,
          (adapter.execute environment (.launch arguments)).sent) ∧
      (∀ fault, LaunchArguments.ofRequest arguments = .error fault →
        (adapter.execute environment (.launch arguments)).adapter =
          adapter) ∧
      (∃ program stopOnEntry map,
        (adapter.execute environment (.launch arguments)).adapter =
          adapter.reprogram program stopOnEntry map) ∧
      ∀ later : List Turn,
        (∀ turn ∈ later, turn.command.ignoresProgram = true ∨
          turn.command = .resume ∧
            (adapter.execute environment (.launch arguments)).adapter.sourceMap
              = adapter.sourceMap) →
        ((adapter.execute environment
            (.launch arguments)).adapter.outcomes later).map Outcome.result =
          (adapter.outcomes later).map Outcome.result := by
  have loads := Adapter.loads_of_refused refused
  obtain ⟨program, stopOnEntry, map, written⟩ := loads.eq_reprogram
  refine ⟨loads, ?_, ⟨program, stopOnEntry, map, written⟩, ?_⟩
  · intro fault malformed
    have kept : adapter.Loads environment arguments
        (adapter, .error (.launchArguments fault), []) :=
      .malformed malformed
    rw [kept.execute]
    rfl
  · intro later ignores
    rw [written] at ignores ⊢
    exact Adapter.outcomes_reprogram ignores

def launchOf (program : String) : Command :=
  .launch (.obj [("program", .str program)])

/-- A program that is launched and stands in front of its first opcode. -/
def launchedAdapter : Adapter :=
  recordedSession.adapter.after [⟨recordedEnvironment, launchOf "p"⟩]

def missingLaunch : Turn :=
  ⟨recordedEnvironment, launchOf "missing"⟩

def stepAndEvaluate : List Turn :=
  [⟨recordedEnvironment, .next⟩, ⟨recordedEnvironment, .evaluate "pc"⟩]

theorem refused_launch_keeps_execution_missing :
    (launchedAdapter.answer missingLaunch).result =
        .error (.program "missing" .notFound) ∧
      ((launchedAdapter.answer missingLaunch).adapter.outcomes
          stepAndEvaluate).map Outcome.result =
        (launchedAdapter.outcomes stepAndEvaluate).map Outcome.result := by
  have unreadable : launchedAdapter.Loads recordedEnvironment
      (.obj [("program", .str "missing")])
      (launchedAdapter.reprogram (some "missing")
        (launchedAdapter.selectedEntry ⟨some "missing", none⟩)
        launchedAdapter.sourceMap,
        .error (.program "missing" .notFound), []) :=
    .unreadable rfl rfl (by decide +kernel)
  have refused : (launchedAdapter.answer missingLaunch).result =
      .error (.program "missing" .notFound) :=
    congrArg Outcome.result unreadable.execute
  obtain ⟨-, -, -, same⟩ := refused_launch_keeps_execution launchedAdapter
    recordedEnvironment (.obj [("program", .str "missing")])
    (.program "missing" .notFound) refused
  refine ⟨refused, same stepAndEvaluate ?_⟩
  simp [stepAndEvaluate, Command.ignoresProgram]

/-- The frame of a running program names a program that could not be read,
and a breakpoint is turned down although no program was loaded. -/
theorem not_unchanged_by_refused_launch :
    (launchedAdapter.answer missingLaunch).refusal?.isSome = true ∧
      launchedAdapter.frames.map Frame.source = [some ⟨"p", some "p"⟩] ∧
      (launchedAdapter.answer missingLaunch).adapter.frames.map
          Frame.source =
        [some ⟨"missing", some "missing"⟩] ∧
      (recordedSession.adapter.answer missingLaunch).refusal?.isSome = true ∧
      recordedSession.adapter.isVerified 1 = true ∧
      (recordedSession.adapter.answer missingLaunch).adapter.isVerified 1 =
        false := by
  decide +kernel

/-- A launch that succeeds uses the map of the program that it selects.  If it
selects none, the map is that of the latest launch that could read its
program.  Earlier launches have no other influence on what follows. -/
theorem accepted_launch_decides_map (session : Session)
    (history : List Turn) (adapter : Adapter) (environment : Environment)
    (arguments : Json) (reply : Reply)
    (behind : adapter = session.adapter.after history)
    (accepted : (adapter.execute environment (.launch arguments)).result =
      .ok reply) :
    ∃ parsed, LaunchArguments.ofRequest arguments = .ok parsed ∧
      (adapter.execute environment (.launch arguments)).adapter.program =
        adapter.selected parsed ∧
      (∀ path, adapter.selected parsed = some path →
        ∃ text, environment.files.readText (Text.utf8 path.toList) =
            .ok text ∧
          (adapter.execute environment (.launch arguments)).adapter.sourceMap
            = (assemble text).sourceMap) ∧
      (adapter.selected parsed = none →
        (adapter.execute environment (.launch arguments)).adapter.sourceMap
          = Adapter.latestMap session.adapter.config history) ∧
      ∀ other : Adapter, adapter.SameSetUp other →
        (adapter.selected parsed = none →
          other.sourceMap = adapter.sourceMap) →
        ∀ later,
          other.outcomes (⟨environment, .launch arguments⟩ :: later) =
            adapter.outcomes (⟨environment, .launch arguments⟩ :: later) := by
  obtain ⟨loaded, sent, loads⟩ := Adapter.loads_of_accepted accepted
  obtain ⟨program, map⟩ := loads.frame_execute
  have loading := loads
  rw [program, map]
  cases loading with
  | @loaded parsed map simulation sent decoded maps traced =>
      refine ⟨parsed, decoded, rfl, ?_, ?_, ?_⟩
      · intro path chosen
        rw [chosen] at maps
        cases maps with
        | read read => exact ⟨_, read, rfl⟩
      · intro chosen
        rw [chosen] at maps
        cases maps with
        | kept =>
            rw [← Adapter.sourceMap_session, ← behind]
            rfl
      · intro other same determined later
        apply Adapter.outcomes_cons_of_loads loads
        apply loads.transfer same
        intro again decodedAgain
        rw [decoded, Except.ok.injEq] at decodedAgain
        rw [← decodedAgain]
        exact determined

def bareLaunch : Turn :=
  ⟨recordedEnvironment, .launch (.obj [])⟩

theorem accepted_launch_decides_map_bare :
    (launchedAdapter.answer bareLaunch).adapter.sourceMap =
        Adapter.latestMap recordedSession.adapter.config
          [⟨recordedEnvironment, launchOf "p"⟩] ∧
      (launchedAdapter.answer bareLaunch).adapter.sourceMap.entries =
        [(1, 1), (3, 2), (5, 3)] := by
  have carriedOut : (launchedAdapter.answer bareLaunch).refusal?.isNone =
      true := by
    decide +kernel
  cases result : (launchedAdapter.answer bareLaunch).result with
  | error cause =>
      rw [Outcome.refusal?, result] at carriedOut
      cases carriedOut
  | ok reply =>
      obtain ⟨parsed, decoded, -, -, kept, -⟩ := accepted_launch_decides_map
        recordedSession [⟨recordedEnvironment, launchOf "p"⟩] launchedAdapter
        recordedEnvironment (.obj []) reply rfl result
      have bare : parsed = ⟨none, none⟩ := by
        cases decoded
        rfl
      rw [bare] at kept
      exact ⟨kept (by decide +kernel), by decide +kernel⟩

def markSecondLine : Turn :=
  ⟨recordedEnvironment, .setBreakpoints .null [⟨2, none⟩]⟩

/-- Behind an earlier launch, a launch without a program stops on a line of
the earlier program. -/
theorem not_empty_behind_bare_launch :
    (launchedAdapter.after [markSecondLine]).SameSetUp
        (recordedSession.adapter.after [markSecondLine]) ∧
      ((launchedAdapter.after [markSecondLine]).outcomes
          [bareLaunch, ⟨recordedEnvironment, .configurationDone⟩]).map
          Outcome.events =
        [[], [.stopped .breakpoint 3]] ∧
      ((recordedSession.adapter.after [markSecondLine]).outcomes
          [bareLaunch, ⟨recordedEnvironment, .configurationDone⟩]).map
          Outcome.events =
        [[], [.terminated]] := by
  obtain ⟨config, live, recorded⟩ := @Adapter.sources_after
    recordedSession.adapter
    [⟨recordedEnvironment, launchOf "p"⟩, markSecondLine]
  refine ⟨⟨config, live, recorded, ?_, ?_⟩, ?_, ?_⟩
  all_goals decide +kernel

end TealTools.Debugger
