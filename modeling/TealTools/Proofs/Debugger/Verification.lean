import TealTools.Proofs.Assembly.Growth
import TealTools.Proofs.Assembly.Lookup
import TealTools.Proofs.Debugger.Relaunch

/-!
# Verified breakpoints

A breakpoint is verified by looking from its line for instructions, and it
stops an execution by looking from a program counter for a line.  On the map of
a source text both agree: a breakpoint is verified exactly if there is a
program counter at which it stops.
-/

namespace TealTools.Debugger

namespace Adapter

/-! ## The program behind a launch -/

/-- A launch request that selects a program and can read its text, whether
there is a trace for it or not. -/
inductive ReadsText (environment : Environment) (adapter : Adapter)
    (arguments : Json) (text : String) : Prop where
  | intro {parsed : LaunchArguments} {path : String} :
      LaunchArguments.ofRequest arguments = .ok parsed →
      adapter.selected parsed = some path →
      environment.files.readText (Text.utf8 path.toList) = .ok text →
      ReadsText environment adapter arguments text

/-- The adapter has a program, and the map of its text. -/
structure HasProgram (adapter : Adapter) (text : String) : Prop where
  program : adapter.program.isSome = true
  sourceMap : adapter.sourceMap = (assemble text).sourceMap

section

variable {environment : Environment} {adapter : Adapter} {arguments : Json}
  {text : String}

theorem ReadsText.exists_loads
    (reads : adapter.ReadsText environment arguments text) :
    ∃ loaded result sent,
      adapter.Loads environment arguments (loaded, result, sent) ∧
        loaded.HasProgram text := by
  obtain ⟨decoded, selected, read⟩ := reads
  rename_i parsed path
  have maps : Maps environment.files adapter.sourceMap
      (adapter.selected parsed) (assemble text).sourceMap := by
    rw [selected]
    exact .read read
  have chosen : (adapter.selected parsed).isSome = true := by
    rw [selected, Option.isSome_some]
  rcases traced : adapter.trace environment.network with
    ⟨cause | simulation, sent⟩
  · exact ⟨_, _, _, .untraced decoded maps traced, chosen, rfl⟩
  · exact ⟨_, _, _, .loaded decoded maps traced, chosen, rfl⟩

theorem HasProgram.advanced (has : adapter.HasProgram text)
    (moves : List Replay.Move) : (adapter.advanced moves).HasProgram text :=
  ⟨has.program, has.sourceMap⟩

theorem ReadsText.hasProgram
    (reads : adapter.ReadsText environment arguments text) :
    (adapter.execute environment (.launch arguments)).adapter.HasProgram
      text := by
  obtain ⟨loaded, result, sent, loads, has⟩ := reads.exists_loads
  rw [loads.execute]
  cases result with
  | error cause => exact has
  | ok =>
      obtain ⟨moves, started⟩ := exists_startIfReady loaded
      simp only [conclude, started]
      exact has.advanced moves

/-- Only a launch selects another program. -/
theorem HasProgram.execute {command : Command}
    (has : adapter.HasProgram text) (other : command.isLaunch = false) :
    (adapter.execute environment command).adapter.HasProgram text := by
  have becomes := becomes_execute environment adapter command
  generalize (adapter.execute environment command).adapter = next at becomes
  cases becomes with
  | advanced _ moves => exact has.advanced moves
  | marked source breakpoints => exact ⟨has.program, has.sourceMap⟩
  | configured moves => exact ⟨has.program, has.sourceMap⟩
  | loaded loads moves => cases other
  | disconnected => exact ⟨has.program, has.sourceMap⟩

theorem HasProgram.after (has : adapter.HasProgram text)
    {history : List Turn}
    (others : ∀ turn ∈ history, turn.command.isLaunch = false) :
    (adapter.after history).HasProgram text := by
  induction history generalizing adapter with
  | nil => exact has
  | cons turn turns induction =>
      obtain ⟨first, later⟩ := List.forall_mem_cons.mp others
      exact induction (has.execute first) later

end

/-! ## Breakpoint lines -/

private theorem increasing_insertLine {lines : List Nat}
    (increasing : lines.Pairwise (· < ·)) (line : Nat) :
    (insertLine line lines).Pairwise (· < ·) := by
  induction lines with
  | nil => exact List.pairwise_singleton _ _
  | cons head lines induction =>
      obtain ⟨first, later⟩ := List.pairwise_cons.mp increasing
      rw [insertLine]
      split
      · rename_i below
        refine List.pairwise_cons.mpr ⟨?_, increasing⟩
        intro other member
        rcases List.mem_cons.mp member with rfl | behind
        · exact below
        · exact Nat.lt_trans below (first other behind)
      · split
        · exact increasing
        · refine List.pairwise_cons.mpr ⟨?_, induction later⟩
          intro other member
          rcases mem_insertLine.mp member with rfl | behind
          · omega
          · exact first other behind

theorem increasing_setBreakpoints (adapter : Adapter)
    (breakpoints : List BreakpointRequest) :
    (adapter.setBreakpoints breakpoints).breakpoints.Pairwise (· < ·) := by
  have folded : ∀ lines : List Nat, lines.Pairwise (· < ·) →
      (breakpoints.foldl (fun lines breakpoint =>
        insertLine (lineOf breakpoint) lines) lines).Pairwise (· < ·) := by
    induction breakpoints with
    | nil => exact fun _ increasing => increasing
    | cons breakpoint breakpoints induction =>
        exact fun _ increasing =>
          induction _ (increasing_insertLine increasing _)
  exact folded [] .nil

private theorem stopsAt_singleton_iff
    {map : SourceMap} {line : Nat} {pc : UInt64} :
    stopsAt map [line] pc = true ↔ map.lineForPc? pc.toNat = some line := by
  rw [stopsAt_iff]
  simp

/-! ## Replies -/

theorem breakpointReplies_eq (adapter : Adapter) (source : Json) (id : Nat)
    (breakpoints : List BreakpointRequest) :
    adapter.breakpointReplies source id breakpoints =
      (breakpoints.zipIdx id).map fun entry =>
        { id := entry.2
          verified := adapter.isVerified (lineOf entry.1)
          requested := entry.1
          source } := by
  induction breakpoints generalizing id with
  | nil => rfl
  | cons breakpoint breakpoints induction =>
      rw [breakpointReplies, induction, List.zipIdx_cons, List.map_cons]

section

variable {adapter : Adapter} {text : String} {line : Nat}

/-- With a program, a line is verified if an instruction stands on it. -/
theorem HasProgram.isVerified_iff (has : adapter.HasProgram text) :
    adapter.isVerified line = true ↔
      ∃ written instruction, Assembly.sourceLine? text line = some written ∧
        Assembly.HoldsInstruction written instruction := by
  have chosen : adapter.program.isNone = false := by
    rw [Option.isNone_eq_false_iff]
    exact has.program
  rw [← Assembly.exists_entry_iff, ← SourceMap.pcsForLine_ne_nil_iff,
    isVerified, chosen, has.sourceMap, Bool.false_or, Bool.not_eq_true',
    List.isEmpty_eq_false_iff]

/-- A program counter that a source map lists is a machine integer. -/
private theorem pc_lt_of_mem_entries {pc : Nat}
    (fits : 2 * Text.size text.toList < UInt64.size)
    (listed : (pc, line) ∈ (assemble text).sourceMap.entries) :
    pc < UInt64.size :=
  Nat.lt_of_le_of_lt (Assembly.pc_le_of_mem_entries listed) fits

/-- An instruction stands on a line if there is a program counter at which a
breakpoint on that line alone stops. -/
private theorem exists_stopsAt_iff
    (fits : 2 * Text.size text.toList < UInt64.size) :
    (∃ pc, stopsAt (assemble text).sourceMap [line] pc = true) ↔
      ∃ written instruction, Assembly.sourceLine? text line = some written ∧
        Assembly.HoldsInstruction written instruction := by
  have increasing := Assembly.increasing_sourceMap text
  rw [← Assembly.exists_entry_iff]
  constructor
  · rintro ⟨pc, stops⟩
    exact SourceMap.pcsForLine_ne_nil_iff.mp
      (increasing.pcsForLine_ne_nil_iff_line.mpr
        ⟨pc.toNat, stopsAt_singleton_iff.mp stops⟩)
  · rintro ⟨pc, listed⟩
    refine ⟨UInt64.ofNat pc, stopsAt_singleton_iff.mpr ?_⟩
    rw [UInt64.toNat_ofNat_of_lt' (pc_lt_of_mem_entries fits listed)]
    exact increasing.lineForPc?_start listed

end

/-- What the answer to requested breakpoints says of the adapter behind it. -/
structure Marks (adapter : Adapter) (text : String) (source : Json)
    (breakpoints : List BreakpointRequest) (replies : List BreakpointReply) :
    Prop where
  ids : replies.map BreakpointReply.id = List.range' 1 breakpoints.length
  requested : replies.map BreakpointReply.requested = breakpoints
  sources : ∀ reply ∈ replies, reply.source = source
  lines : ∀ line, line ∈ adapter.breakpoints ↔
    ∃ breakpoint ∈ breakpoints, breakpoint.line.toNat = line
  distinct : adapter.breakpoints.Pairwise (· < ·)
  verified : ∀ reply ∈ replies, reply.verified = true ↔
    ∃ written instruction,
      Assembly.sourceLine? text reply.requested.line.toNat = some written ∧
        Assembly.HoldsInstruction written instruction
  stops : ∀ reply ∈ replies, reply.verified = true ↔
    ∃ pc, stopsAt adapter.sourceMap [reply.requested.line.toNat] pc = true
  /-- A stop has a verified breakpoint as its cause. -/
  caused : ∀ pc, adapter.isBreakpoint pc = true ↔
    ∃ reply ∈ replies, reply.verified = true ∧
      stopsAt adapter.sourceMap [reply.requested.line.toNat] pc = true

theorem HasProgram.marks {adapter : Adapter} {text : String}
    (has : adapter.HasProgram text)
    (fits : 2 * Text.size text.toList < UInt64.size) (source : Json)
    (breakpoints : List BreakpointRequest) :
    (adapter.setBreakpoints breakpoints).Marks text source breakpoints
      (adapter.breakpointReplies source 1 breakpoints) := by
  have requested : (adapter.breakpointReplies source 1 breakpoints).map
      BreakpointReply.requested = breakpoints := by
    rw [breakpointReplies_eq, List.map_map]
    exact List.zipIdx_map_fst 1 breakpoints
  have answered : ∀ reply ∈ adapter.breakpointReplies source 1 breakpoints,
      reply.source = source ∧
        reply.verified = adapter.isVerified reply.requested.line.toNat := by
    intro reply member
    rw [breakpointReplies_eq] at member
    obtain ⟨entry, -, rfl⟩ := List.mem_map.mp member
    exact ⟨rfl, rfl⟩
  have verified : ∀ reply ∈ adapter.breakpointReplies source 1 breakpoints,
      reply.verified = true ↔ ∃ written instruction,
        Assembly.sourceLine? text reply.requested.line.toNat = some written ∧
          Assembly.HoldsInstruction written instruction := by
    intro reply member
    rw [(answered reply member).2, has.isVerified_iff]
  have stops : ∀ reply ∈ adapter.breakpointReplies source 1 breakpoints,
      reply.verified = true ↔ ∃ pc, stopsAt adapter.sourceMap
        [reply.requested.line.toNat] pc = true := by
    intro reply member
    rw [verified reply member, has.sourceMap, exists_stopsAt_iff fits]
  have lines : ∀ line,
      line ∈ (adapter.setBreakpoints breakpoints).breakpoints ↔
        ∃ breakpoint ∈ breakpoints, breakpoint.line.toNat = line := by
    intro line
    rw [mem_breakpoints_setBreakpoints, List.mem_map]
    rfl
  refine ⟨?_, requested, fun reply member => (answered reply member).1, lines,
    increasing_setBreakpoints adapter breakpoints, verified, stops, ?_⟩
  · rw [breakpointReplies_eq, List.map_map]
    exact List.zipIdx_map_snd 1 breakpoints
  · intro pc
    rw [isBreakpoint, stopsAt_iff]
    constructor
    · rintro ⟨line, marked, found⟩
      obtain ⟨breakpoint, member, rfl⟩ := (lines line).mp marked
      rw [← requested] at member
      obtain ⟨reply, listed, rfl⟩ := List.mem_map.mp member
      have stop := stopsAt_singleton_iff.mpr found
      exact ⟨reply, listed, (stops reply listed).mpr ⟨pc, stop⟩, stop⟩
    · rintro ⟨reply, listed, -, stop⟩
      refine ⟨_, (lines _).mpr ⟨reply.requested, ?_, rfl⟩,
        stopsAt_singleton_iff.mp stop⟩
      have member := List.mem_map_of_mem (f := BreakpointReply.requested) listed
      rw [requested] at member
      exact member

end Adapter

/-- Behind a launch that reads a text, and any requests but another launch, the
requested lines become the breakpoints.  Each is verified exactly if an
instruction stands on it, and exactly if it can stop the execution.  Every text
that is held in memory is short enough. -/
theorem verified_breakpoints_can_stop (before : Adapter)
    (environment : Environment) (arguments : Json) (text : String)
    (later : List Turn) (adapter : Adapter) (current : Environment)
    (source : Json) (breakpoints : List BreakpointRequest)
    (reads : before.ReadsText environment arguments text)
    (others : ∀ turn ∈ later, turn.command.isLaunch = false)
    (behind : adapter =
      (before.execute environment (.launch arguments)).adapter.after later)
    (fits : 2 * Text.size text.toList < UInt64.size) :
    ∃ replies,
      (adapter.execute current (.setBreakpoints source breakpoints)).result =
          .ok { body := .breakpoints replies, events := [] } ∧
        (adapter.execute current
          (.setBreakpoints source breakpoints)).adapter.Marks text source
            breakpoints replies := by
  have has : adapter.HasProgram text := by
    rw [behind]
    exact reads.hasProgram.after others
  exact ⟨_, rfl, has.marks fits source breakpoints⟩

/-- A line with an instruction, one in front of the text, the first one again,
and one behind the text. -/
def mixedBreakpoints : List BreakpointRequest :=
  [⟨2, none⟩, ⟨-1, none⟩, ⟨2, none⟩, ⟨42, none⟩]

theorem verified_breakpoints_can_stop_mixed :
    recordedSession.adapter.ReadsText recordedEnvironment
        (.obj [("program", .str "p")]) "int 1\nint 2\n+" ∧
      2 * Text.size "int 1\nint 2\n+".toList < UInt64.size ∧
      ∃ replies,
        (((launchedAdapter.after [markSecondLine]).execute recordedEnvironment
            (.setBreakpoints .null mixedBreakpoints)).adapter.Marks
              "int 1\nint 2\n+" .null mixedBreakpoints replies) ∧
          replies.map BreakpointReply.verified =
            [true, false, true, false] := by
  have reads : recordedSession.adapter.ReadsText recordedEnvironment
      (.obj [("program", .str "p")]) "int 1\nint 2\n+" :=
    .intro rfl rfl (by decide +kernel)
  have fits : 2 * Text.size "int 1\nint 2\n+".toList < UInt64.size := by
    decide +kernel
  obtain ⟨replies, answered, marks⟩ := verified_breakpoints_can_stop
    recordedSession.adapter recordedEnvironment _ _ [markSecondLine]
    (launchedAdapter.after [markSecondLine]) recordedEnvironment .null
    mixedBreakpoints reads (List.forall_mem_singleton.mpr rfl) rfl fits
  have listed : (launchedAdapter.after [markSecondLine]).breakpointReplies
      .null 1 mixedBreakpoints = replies :=
    Body.breakpoints.inj (congrArg Reply.body (Except.ok.inj answered))
  refine ⟨reads, fits, replies, marks, ?_⟩
  rw [← listed]
  decide +kernel

end TealTools.Debugger
