import Mathlib.Data.List.TakeDrop
import TealTools.Debugger.Session
import TealTools.Proofs.Debugger.Position

/-!
# Stopping at breakpoints

An editor that launches a program, sets its breakpoints and continues again
and again is told about every opcode on a breakpoint line, in the order of the
trace and once each, and then that the program has ended.
-/

namespace TealTools.Debugger

/-! ## Transcripts -/

/-- The events behind a response. -/
def Outcome.events (outcome : Outcome) : List Event :=
  match outcome.result with
  | .ok reply => reply.events
  | .error _ => []

/-- An event, and how many opcodes were executed before it. -/
abbrev Report := Event × Option Nat

def Outcome.reports (outcome : Outcome) : List Report :=
  outcome.events.map fun event =>
    (event, outcome.adapter.replay.map Replay.position)

/-- What is reported while commands are carried out one after the other. -/
def Adapter.transcript (environment : Environment) (adapter : Adapter) :
    List Command → List Report
  | [] => []
  | command :: commands =>
    (adapter.execute environment command).reports ++
      (adapter.execute environment command).adapter.transcript environment
        commands

def reported (reason : StopReason) (stop : OpcodeEffect × Nat) : Report :=
  (.stopped reason stop.1.pc, some stop.2)

def ended (effects : List OpcodeEffect) : Report :=
  (.terminated, some effects.length)

/-- Is the program counter on one of the lines? -/
def onLines (map : SourceMap) (lines : List Nat) (pc : UInt64) : Bool :=
  (map.lineForPc? pc.toNat).any fun line => line ∈ lines

/-- The stops of a trace.  A stop on entry takes the place of a breakpoint on
the first opcode. -/
def expectedStops (stopAt : UInt64 → Bool) (stopOnEntry : Bool) :
    List OpcodeEffect → List Report
  | [] => []
  | first :: rest =>
    if stopOnEntry then
      reported .entry (first, 0) ::
        (stopsFrom stopAt (first :: rest) 1).map (reported .breakpoint)
    else (stopsFrom stopAt (first :: rest) 0).map (reported .breakpoint)

/-! ## Lines -/

@[simp] theorem mem_insertLine {line other : Nat} {lines : List Nat} :
    other ∈ Adapter.insertLine line lines ↔ other = line ∨ other ∈ lines := by
  induction lines with
  | nil =>
      rw [Adapter.insertLine, List.mem_singleton]
      exact (or_iff_left (List.not_mem_nil)).symm
  | cons head lines induction =>
      rw [Adapter.insertLine]
      split
      · rw [List.mem_cons]
      · split
        · rename_i same
          rw [same, List.mem_cons, or_self_left]
        · rw [List.mem_cons, List.mem_cons, induction]
          exact or_left_comm

@[simp] theorem mem_breakpoints_setBreakpoints {adapter : Adapter}
    {breakpoints : List BreakpointRequest} {line : Nat} :
    line ∈ (adapter.setBreakpoints breakpoints).breakpoints ↔
      line ∈ breakpoints.map Adapter.lineOf := by
  have folded : ∀ lines : List Nat,
      line ∈ breakpoints.foldl (fun lines breakpoint =>
          Adapter.insertLine (Adapter.lineOf breakpoint) lines) lines ↔
        line ∈ breakpoints.map Adapter.lineOf ∨ line ∈ lines := by
    induction breakpoints with
    | nil => simp
    | cons breakpoint breakpoints induction =>
        intro lines
        rw [List.foldl_cons, induction, mem_insertLine, List.map_cons,
          List.mem_cons, or_left_comm, or_assoc]
  simpa [Adapter.setBreakpoints] using folded []

theorem Adapter.stopsAt_iff {map : SourceMap} {lines : List Nat} {pc : UInt64} :
    Adapter.stopsAt map lines pc = true ↔
      ∃ line ∈ lines, map.lineForPc? pc.toNat = some line := by
  unfold Adapter.stopsAt
  cases map.lineForPc? pc.toNat with
  | none => simp
  | some line => simp

private theorem stopsAt_eq_onLines
    {map : SourceMap} {lines requested : List Nat}
    (same : ∀ line, line ∈ lines ↔ line ∈ requested) :
    Adapter.stopsAt map lines = onLines map requested := by
  funext pc
  unfold Adapter.stopsAt onLines
  cases map.lineForPc? pc.toNat with
  | none => rfl
  | some line =>
      simp only [Option.any_some]
      rw [Bool.eq_iff_iff, List.contains_iff_mem, decide_eq_true_eq]
      exact same line

/-! ## Continuing -/

section

variable {environment : Environment} {adapter : Adapter} {replay : Replay}
  {segments : List Segment}

/-- The replay says that it was stopped exactly if it stands on an opcode. -/
theorem runToBreakpoint_eq (adapter : Adapter) (replay : Replay) :
    adapter.runToBreakpoint replay =
      ({ adapter with
          replay := some (replay.resume adapter.isBreakpoint).2 },
        [Adapter.standing .breakpoint
          (replay.resume adapter.isBreakpoint).2]) := by
  have hit := Replay.resume_fst adapter.isBreakpoint replay
  rw [Adapter.runToBreakpoint, Adapter.standing]
  cases here : (replay.resume adapter.isBreakpoint).2.pc? with
  | none => simp only [here]
  | some pc =>
      rw [here, Option.isSome_some] at hit
      simp only [here, hit, if_true]

theorem execute_resume (launched : adapter.replay = some replay) :
    (adapter.execute environment .resume).adapter =
        { adapter with
          replay := some (replay.resume adapter.isBreakpoint).2 } ∧
      (adapter.execute environment .resume).reports =
        [(Adapter.standing .breakpoint
            (replay.resume adapter.isBreakpoint).2,
          some (replay.resume adapter.isBreakpoint).2.position)] := by
  simp only [Adapter.execute, launched, runToBreakpoint_eq]
  exact ⟨rfl, rfl⟩

/-- A replay that stands on a stop or at the end reports this, and the other
stops are left. -/
private theorem report_standing {stopAt : UInt64 → Bool}
    (sound : replay.Sound segments)
    (stops : replay.pc? = none ∨
      ∃ pc, replay.pc? = some pc ∧ stopAt pc = true) :
    (Adapter.standing .breakpoint replay, some replay.position) =
        ((stopsFrom stopAt (traceOf segments) replay.position).map
          (reported .breakpoint)).head?.getD (ended (traceOf segments)) ∧
      (stopsFrom stopAt (traceOf segments) replay.position).tail =
        stopsFrom stopAt (traceOf segments) (replay.position + 1) := by
  rcases stops with finished | ⟨pc, standing, stops⟩
  · have current : replay.isFinished = true := by
      rw [Replay.isFinished, Option.isNone_iff_eq_none]
      exact Option.map_eq_none_iff.mp finished
    have last := sound.position_of_isFinished current
    rw [stopsFrom_of_length_le (Nat.le_of_eq last.symm),
      stopsFrom_of_length_le (Nat.le_succ_of_le (Nat.le_of_eq last.symm)),
      last, Adapter.standing, finished]
    exact ⟨rfl, rfl⟩
  · rw [Adapter.standing, standing]
    rw [sound.pc?_eq] at standing
    obtain ⟨effect, here, rfl⟩ := Option.map_eq_some_iff.mp standing
    rw [stopsFrom_eq here, if_pos stops]
    exact ⟨rfl, rfl⟩

/-- Continuing again and again reports the stops behind the current opcode,
and then the end. -/
theorem transcript_resume (sound : replay.Sound segments)
    (launched : adapter.replay = some replay) (count : Nat) :
    adapter.transcript environment (List.replicate count .resume) =
      List.takeD count
        ((stopsFrom adapter.isBreakpoint (traceOf segments)
          (replay.position + 1)).map (reported .breakpoint))
        (ended (traceOf segments)) := by
  induction count generalizing adapter replay with
  | zero => rfl
  | succ count induction =>
      obtain ⟨moved, reports⟩ :=
        @execute_resume environment adapter replay launched
      have next := sound.resume adapter.isBreakpoint
      obtain ⟨report, rest⟩ :=
        report_standing next (Replay.resume_stops adapter.isBreakpoint replay)
      rw [List.replicate_succ, Adapter.transcript, reports, moved,
        induction next rfl, List.takeD_succ,
        sound.stopsFrom_resume adapter.isBreakpoint, report,
        ← List.map_tail, rest]
      rfl

/-! ## Starting -/

def Adapter.configure (adapter : Adapter) : Adapter :=
  { adapter with configured := true }

theorem execute_configurationDone (launched : adapter.replay = some replay) :
    adapter.execute environment .configurationDone =
      Outcome.done adapter.configure.start.1 .done
        adapter.configure.start.2 := by
  simp only [Adapter.execute, Adapter.isLaunched, launched, Option.isSome_some,
    if_true, Adapter.configure]

private theorem transcript_of_standing {event : Event}
    (sound : replay.Sound segments) (launched : adapter.replay = some replay)
    (begun : adapter.configure.start = (adapter.configure, [event]))
    (count : Nat) :
    adapter.transcript environment
        (.configurationDone :: List.replicate count .resume) =
      (event, some replay.position) ::
        List.takeD count
          ((stopsFrom adapter.isBreakpoint (traceOf segments)
            (replay.position + 1)).map (reported .breakpoint))
          (ended (traceOf segments)) := by
  have continued := @transcript_resume environment adapter.configure replay
    segments sound launched count
  have place : adapter.configure.replay.map Replay.position =
      some replay.position := congrArg (Option.map Replay.position) launched
  rw [Adapter.transcript, execute_configurationDone launched, begun,
    Outcome.done, continued, Outcome.reports, place]
  rfl

private theorem transcript_of_running (sound : replay.Sound segments)
    (launched : adapter.replay = some replay)
    (begun : adapter.configure.start =
      adapter.configure.runToBreakpoint replay) (count : Nat) :
    adapter.transcript environment
        (.configurationDone :: List.replicate count .resume) =
      List.takeD (count + 1)
        ((stopsFrom adapter.isBreakpoint (traceOf segments)
          (replay.position + 1)).map (reported .breakpoint))
        (ended (traceOf segments)) := by
  have continued := @transcript_resume environment adapter.configure replay
    segments sound launched (count + 1)
  obtain ⟨moved, reports⟩ :=
    @execute_resume environment adapter.configure replay launched
  rw [List.replicate_succ, Adapter.transcript, moved, reports] at continued
  rw [Adapter.transcript, execute_configurationDone launched, begun,
    runToBreakpoint_eq]
  exact continued

theorem transcript_configurationDone (sound : replay.Sound segments)
    (launched : adapter.replay = some replay) (first : replay.position = 0)
    (count : Nat) :
    adapter.transcript environment
        (.configurationDone :: List.replicate count .resume) =
      List.takeD (count + 1)
        (expectedStops adapter.isBreakpoint adapter.stopOnEntry
          (traceOf segments))
        (ended (traceOf segments)) := by
  have pc := sound.pc?_eq
  have ready : adapter.configure.replay = some replay := launched
  rw [first] at pc
  cases effects : traceOf segments with
  | nil =>
      rw [effects, List.getElem?_nil, Option.map_none] at pc
      have begun : adapter.configure.start =
          (adapter.configure, [.terminated]) := by
        simp only [Adapter.start, ready, pc]
      rw [transcript_of_standing sound launched begun, effects, first]
      rfl
  | cons effect rest =>
      rw [effects, List.getElem?_cons_zero, Option.map_some] at pc
      rw [expectedStops]
      by_cases entry : adapter.stopOnEntry = true
      · have begun : adapter.configure.start =
            (adapter.configure, [.stopped .entry effect.pc]) := by
          simp only [Adapter.start, ready, pc]
          exact if_pos entry
        rw [if_pos entry, transcript_of_standing sound launched begun,
          effects, first]
        rfl
      · have stop := @stopsFrom_eq adapter.isBreakpoint (effect :: rest) 0
          effect rfl
        rw [if_neg entry, stop]
        by_cases hit : adapter.isBreakpoint effect.pc = true
        · have begun : adapter.configure.start =
              (adapter.configure, [.stopped .breakpoint effect.pc]) := by
            simp only [Adapter.start, ready, pc]
            exact (if_neg entry).trans (if_pos hit)
          rw [if_pos hit, transcript_of_standing sound launched begun,
            effects, first]
          rfl
        · have begun : adapter.configure.start =
              adapter.configure.runToBreakpoint replay := by
            simp only [Adapter.start, ready, pc]
            exact (if_neg entry).trans (if_neg hit)
          rw [if_neg hit, transcript_of_running sound launched begun,
            effects, first]

end

/-! ## Setting up -/

section

variable {environment : Environment} {adapter : Adapter}
  {breakpoints : List BreakpointRequest} {arguments : Json}
  {parsed : LaunchArguments} {path text : String} {simulation : Simulation}

/-- The adapter behind a launch that succeeds. -/
def Adapter.launched (adapter : Adapter) (parsed : LaunchArguments)
    (path text : String) (simulation : Simulation) : Adapter :=
  { adapter with
    program := some path
    stopOnEntry :=
      (parsed.stopOnEntry <|> adapter.config.stopOnEntry).getD false
    sourceMap := (assemble text).sourceMap
    replay := some (.ofSimulation simulation) }

private theorem load_eq {sent : List Node.Request}
    (selected : (parsed.program <|> adapter.config.program) = some path)
    (read : environment.files.readText (Text.utf8 path.toList) = .ok text)
    (traced : adapter.trace environment.network = (.ok simulation, sent)) :
    adapter.load environment parsed =
      (adapter.launched parsed path text simulation, .ok (), sent) := by
  -- The selected program and its map have no influence on the trace.
  have loaded : ∀ program stopOnEntry sourceMap,
      Adapter.trace { adapter with program, stopOnEntry, sourceMap }
        environment.network = (.ok simulation, sent) :=
    fun _ _ _ => traced
  simp only [Adapter.load, Adapter.loadProgram, selected, read, loaded]
  rfl

theorem execute_launch {sent : List Node.Request}
    (waiting : adapter.configured = false)
    (decoded : LaunchArguments.ofRequest arguments = .ok parsed)
    (selected : (parsed.program <|> adapter.config.program) = some path)
    (read : environment.files.readText (Text.utf8 path.toList) = .ok text)
    (traced : adapter.trace environment.network = (.ok simulation, sent)) :
    adapter.execute environment (.launch arguments) =
      { adapter := adapter.launched parsed path text simulation
        result := .ok { body := .done, events := [] }
        sent } := by
  have pending :
      ¬(adapter.launched parsed path text simulation).configured = true := by
    rw [Adapter.launched, waiting]
    exact Bool.false_ne_true
  simp only [Adapter.execute, Adapter.launch, decoded,
    load_eq selected read traced, if_neg pending]

end

private theorem transcript_of_silent {environment : Environment}
    {adapter : Adapter} {command : Command} {outcome : Outcome}
    (executed : adapter.execute environment command = outcome)
    (silent : outcome.events = []) (commands : List Command) :
    adapter.transcript environment (command :: commands) =
      outcome.adapter.transcript environment commands := by
  rw [Adapter.transcript, executed, Outcome.reports, silent, List.map_nil,
    List.nil_append]

/-- An editor that continues again and again is told about every opcode on a
breakpoint line in the order of the trace, once each, and then about the end.
It may set its breakpoints before or after it launches the program. -/
theorem transcript_of_breakpoints (session : Session)
    (environment : Environment) (arguments source : Json)
    (parsed : LaunchArguments) (path text : String) (simulation : Simulation)
    (breakpoints : List BreakpointRequest) (setup : List Command)
    (count : Nat)
    (decoded : LaunchArguments.ofRequest arguments = .ok parsed)
    (selected : (parsed.program <|> session.adapter.config.program) =
      some path)
    (read : environment.files.readText (Text.utf8 path.toList) = .ok text)
    (traced : (session.adapter.trace environment.network).1 = .ok simulation)
    (order :
      setup = [.launch arguments, .setBreakpoints source breakpoints] ∨
        setup = [.setBreakpoints source breakpoints, .launch arguments]) :
    session.adapter.transcript environment
        (setup ++ .configurationDone :: List.replicate count .resume) =
      List.takeD (count + 1)
        (expectedStops
          (onLines (assemble text).sourceMap
            (breakpoints.map Adapter.lineOf))
          ((parsed.stopOnEntry <|>
            session.adapter.config.stopOnEntry).getD false)
          (traceOf (Segment.ofSimulation simulation)))
        (ended (traceOf (Segment.ofSimulation simulation))) := by
  let ready := (session.adapter.launched parsed path text
    simulation).setBreakpoints breakpoints
  have stops : ready.isBreakpoint =
      onLines (assemble text).sourceMap (breakpoints.map Adapter.lineOf) :=
    stopsAt_eq_onLines fun _ => mem_breakpoints_setBreakpoints
  have setUp : session.adapter.transcript environment
        (setup ++ .configurationDone :: List.replicate count .resume) =
      ready.transcript environment
        (.configurationDone :: List.replicate count .resume) := by
    have traced : session.adapter.trace environment.network =
        (.ok simulation, _) := Prod.ext traced rfl
    rcases order with rfl | rfl
    · have launched := @execute_launch environment session.adapter arguments
        parsed path text simulation _ rfl decoded selected read traced
      exact (transcript_of_silent launched rfl _).trans
        (transcript_of_silent rfl rfl _)
    · have launched := @execute_launch environment
        (session.adapter.setBreakpoints breakpoints) arguments parsed path
        text simulation _ rfl decoded selected read traced
      exact (transcript_of_silent rfl rfl _).trans
        (transcript_of_silent launched rfl _)
  rw [setUp, transcript_configurationDone
    (Replay.sound_ofSegments (Segment.ofSimulation simulation)) rfl rfl,
    stops]
  rfl

/-- Two runs of a program, of which the second one ends early. -/
def recordedRuns : Simulation :=
  let effect (pc : UInt64) : OpcodeEffect := ⟨pc, 0, [], []⟩
  let run (pcs : List UInt64) : TransactionResult :=
    ⟨some (.node [] (pcs.map effect) [] [])⟩
  { version := 0
    lastRound := 0
    groups := [⟨[run [1, 3, 5], run [1]], none, none⟩] }

def recordedSession : Session :=
  { Session.empty with recorded := some recordedRuns }

def recordedEnvironment : Environment :=
  { files := Files.empty.put (Files.name "p")
      (.file (Files.name "int 1\nint 2\n+"))
    network := .none }

/-- Launches the program with breakpoints on its first two lines. -/
def recordedSetup : List Command :=
  [.launch (.obj [("program", .str "p")]),
    .setBreakpoints .null [⟨1, none⟩, ⟨2, none⟩]]

theorem transcript_of_breakpoints_recordedRuns :
    recordedSession.adapter.transcript recordedEnvironment
        (recordedSetup ++ .configurationDone :: List.replicate 4 .resume) =
      [(.stopped .breakpoint 1, some 0), (.stopped .breakpoint 3, some 1),
        (.stopped .breakpoint 1, some 3), (.terminated, some 4),
        (.terminated, some 4)] := by
  have stops := transcript_of_breakpoints recordedSession recordedEnvironment
    (.obj [("program", .str "p")]) .null ⟨some "p", none⟩ "p"
    "int 1\nint 2\n+" recordedRuns [⟨1, none⟩, ⟨2, none⟩] recordedSetup 4
    rfl rfl (by decide +kernel) rfl (.inl rfl)
  rw [stops]
  decide +kernel

end TealTools.Debugger
