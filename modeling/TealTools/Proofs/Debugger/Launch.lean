import TealTools.Proofs.Debugger.Breakpoints

/-!
# What a launch does

A launch selects a program and reads its source map, then asks for a trace.
It fails on arguments of the wrong shape, on a program that cannot be read
and without a trace.  Whatever was written up to then stays written.
-/

namespace TealTools.Debugger

namespace Adapter

/-- The program that a launch is about. -/
def selected (adapter : Adapter) (arguments : LaunchArguments) :
    Option String :=
  arguments.program <|> adapter.config.program

def selectedEntry (adapter : Adapter) (arguments : LaunchArguments) : Bool :=
  (arguments.stopOnEntry <|> adapter.config.stopOnEntry).getD false

def reprogram (adapter : Adapter) (program : Option String)
    (stopOnEntry : Bool) (sourceMap : SourceMap) : Adapter :=
  { adapter with program, stopOnEntry, sourceMap }

/-- The map in force once a program is selected.  Without a program it is
the one from before. -/
inductive Maps (files : Files) (before : SourceMap) :
    Option String → SourceMap → Prop where
  | kept : Maps files before none before
  | read {path text : String}
      (read : files.readText (Text.utf8 path.toList) = .ok text) :
      Maps files before (some path) (assemble text).sourceMap

/-- What a launch request leaves behind, how it ends and what it sends to a
node, up to the point where the execution may start. -/
inductive Loads (environment : Environment) (adapter : Adapter)
    (arguments : Json) :
    Adapter × Except AdapterError Unit × List Node.Request → Prop where
  | malformed {fault : Json.Fault}
      (malformed : LaunchArguments.ofRequest arguments = .error fault) :
      Loads environment adapter arguments
        (adapter, .error (.launchArguments fault), [])
  | unreadable {parsed : LaunchArguments} {path : String} {cause : FileError}
      (decoded : LaunchArguments.ofRequest arguments = .ok parsed)
      (selected : adapter.selected parsed = some path)
      (unread : environment.files.readText (Text.utf8 path.toList) =
        .error cause) :
      Loads environment adapter arguments
        (adapter.reprogram (some path) (adapter.selectedEntry parsed)
          adapter.sourceMap, .error (.program path cause), [])
  | untraced {parsed : LaunchArguments} {map : SourceMap}
      {cause : AdapterError} {sent : List Node.Request}
      (decoded : LaunchArguments.ofRequest arguments = .ok parsed)
      (maps : Maps environment.files adapter.sourceMap
        (adapter.selected parsed) map)
      (untraced : adapter.trace environment.network = (.error cause, sent)) :
      Loads environment adapter arguments
        (adapter.reprogram (adapter.selected parsed)
          (adapter.selectedEntry parsed) map, .error cause, sent)
  | loaded {parsed : LaunchArguments} {map : SourceMap}
      {simulation : Simulation} {sent : List Node.Request}
      (decoded : LaunchArguments.ofRequest arguments = .ok parsed)
      (maps : Maps environment.files adapter.sourceMap
        (adapter.selected parsed) map)
      (traced : adapter.trace environment.network = (.ok simulation, sent)) :
      Loads environment adapter arguments
        ({ adapter.reprogram (adapter.selected parsed)
            (adapter.selectedEntry parsed) map with
            replay := some (.ofSimulation simulation) }, .ok (), sent)

/-- Begins the execution once the adapter is launched and configured. -/
def startIfReady (adapter : Adapter) : Adapter × List Event :=
  if adapter.isLaunched ∧ adapter.configured then adapter.start
  else (adapter, [])

/-- The end of a launch request. -/
def conclude :
    Adapter × Except AdapterError Unit × List Node.Request → Outcome
  | (loaded, .error cause, sent) =>
    { adapter := loaded, result := .error cause, sent }
  | (loaded, .ok (), sent) =>
    { adapter := loaded.startIfReady.1
      result := .ok { body := .done, events := loaded.startIfReady.2 }
      sent }

section

variable {environment : Environment} {adapter loaded : Adapter}
  {arguments : Json} {result : Except AdapterError Unit}
  {sent : List Node.Request}

theorem startIfReady_of_unlaunched (unlaunched : adapter.isLaunched = false) :
    adapter.startIfReady = (adapter, []) := by
  simp [startIfReady, unlaunched]

theorem startIfReady_of_waiting (waiting : adapter.configured = false) :
    adapter.startIfReady = (adapter, []) := by
  simp [startIfReady, waiting]

/-! ## The request as a relation -/

private theorem load_of_maps
    {parsed : LaunchArguments} {program : Option String}
    {map : SourceMap} (chosen : adapter.selected parsed = program)
    (maps : Maps environment.files adapter.sourceMap program map) :
    adapter.load environment parsed =
      match adapter.trace environment.network with
      | (.error cause, sent) =>
        (adapter.reprogram program (adapter.selectedEntry parsed) map,
          .error cause, sent)
      | (.ok simulation, sent) =>
        ({ adapter.reprogram program (adapter.selectedEntry parsed) map with
            replay := some (.ofSimulation simulation) }, .ok (), sent) := by
  -- The selected program and its map have no influence on the trace.
  have untouched : ∀ program stopOnEntry sourceMap,
      trace { adapter with program, stopOnEntry, sourceMap }
        environment.network = adapter.trace environment.network :=
    fun _ _ _ => rfl
  unfold selected at chosen
  cases maps with
  | kept =>
      simp only [load, loadProgram, chosen, untouched]
      rfl
  | read read =>
      simp only [load, loadProgram, chosen, read, untouched]
      rfl

theorem exists_loads (environment : Environment) (adapter : Adapter)
    (arguments : Json) :
    ∃ loading, adapter.Loads environment arguments loading := by
  cases decoded : LaunchArguments.ofRequest arguments with
  | error fault => exact ⟨_, .malformed decoded⟩
  | ok parsed =>
      have mapped : ∀ map,
          Maps environment.files adapter.sourceMap (adapter.selected parsed)
            map →
          ∃ loading, adapter.Loads environment arguments loading := by
        intro map maps
        rcases traced : adapter.trace environment.network with
          ⟨cause | simulation, sent⟩
        · exact ⟨_, .untraced decoded maps traced⟩
        · exact ⟨_, .loaded decoded maps traced⟩
      cases chosen : adapter.selected parsed with
      | none =>
          apply mapped adapter.sourceMap
          rw [chosen]
          exact .kept
      | some path =>
          cases read : environment.files.readText (Text.utf8 path.toList) with
          | error cause => exact ⟨_, .unreadable decoded chosen read⟩
          | ok text =>
              apply mapped (assemble text).sourceMap
              rw [chosen]
              exact .read read

theorem Loads.execute
    {loading : Adapter × Except AdapterError Unit × List Node.Request}
    (loads : adapter.Loads environment arguments loading) :
    adapter.execute environment (.launch arguments) = conclude loading := by
  rw [Adapter.execute, launch]
  cases loads with
  | malformed malformed =>
      simp only [malformed]
      rfl
  | unreadable decoded chosen unread =>
      unfold selected at chosen
      simp only [decoded, load, loadProgram, chosen, unread]
      rfl
  | untraced decoded maps untraced =>
      simp only [decoded, load_of_maps rfl maps, untraced]
      rfl
  | loaded decoded maps traced =>
      simp only [decoded, load_of_maps rfl maps, traced, conclude,
        startIfReady, isLaunched, Option.isSome_some, true_and]

theorem loads_of_refused {cause : AdapterError}
    (refused : (adapter.execute environment (.launch arguments)).result =
      .error cause) :
    adapter.Loads environment arguments
      ((adapter.execute environment (.launch arguments)).adapter,
        .error cause,
        (adapter.execute environment (.launch arguments)).sent) := by
  obtain ⟨⟨loaded, result, sent⟩, loads⟩ :=
    exists_loads environment adapter arguments
  rw [loads.execute] at refused ⊢
  cases result with
  | error other =>
      cases refused
      exact loads
  | ok => cases refused

theorem loads_of_accepted {reply : Reply}
    (accepted : (adapter.execute environment (.launch arguments)).result =
      .ok reply) :
    ∃ loaded sent,
      adapter.Loads environment arguments (loaded, .ok (), sent) := by
  obtain ⟨⟨loaded, result, sent⟩, loads⟩ :=
    exists_loads environment adapter arguments
  rw [loads.execute] at accepted
  cases result with
  | error cause => cases accepted
  | ok => exact ⟨loaded, sent, loads⟩

theorem Loads.configured_eq
    (loads : adapter.Loads environment arguments (loaded, result, sent)) :
    loaded.configured = adapter.configured := by
  cases loads <;> rfl

theorem Loads.replay_of_refused {cause : AdapterError}
    (loads : adapter.Loads environment arguments
      (loaded, .error cause, sent)) :
    loaded.replay = adapter.replay := by
  cases loads <;> rfl

theorem Loads.unlaunched_of_refused {cause : AdapterError}
    (loads : adapter.Loads environment arguments
      (loaded, .error cause, sent))
    (unlaunched : adapter.isLaunched = false) :
    loaded.isLaunched = false := by
  rw [isLaunched, loads.replay_of_refused]
  exact unlaunched

theorem Loads.isLaunched_of_loaded
    (loads : adapter.Loads environment arguments (loaded, .ok (), sent)) :
    loaded.isLaunched = true := by
  cases loads
  rfl

theorem execute_configurationDone_eq :
    adapter.execute environment .configurationDone =
      Outcome.done adapter.configure.startIfReady.1 .done
        adapter.configure.startIfReady.2 := by
  simp only [Adapter.execute, startIfReady, configure, and_true]

end

end Adapter

end TealTools.Debugger
