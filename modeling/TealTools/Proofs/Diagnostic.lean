import TealTools.Diagnostic
import TealTools.Proofs.Assembly.Faults

/-!
# What the diagnostics of a source text show

Every fault is shown at the UTF-16 column of the token that it is about, in
the order of the source, and every warning behind the faults.  There is
nothing to show if and only if there is nothing to report.
-/

namespace TealTools

namespace Text

@[simp] theorem utf16Length_append (front back : List Char) :
    utf16Length (front ++ back) = utf16Length front + utf16Length back := by
  induction front with
  | nil => simp [utf16Length]
  | cons c front induction =>
      rw [List.cons_append, utf16Length, utf16Length, induction]
      omega

private theorem unitCount_pos (c : Char) : 0 < unitCount c := by
  unfold unitCount
  split <;> omega

theorem length_le_utf16Length (text : List Char) :
    text.length ≤ utf16Length text := by
  induction text with
  | nil => exact Nat.le_refl 0
  | cons c text induction =>
      have := unitCount_pos c
      rw [utf16Length, List.length_cons]
      omega

theorem utf16Length_pos {text : List Char} (nonempty : text ≠ []) :
    0 < utf16Length text := by
  have := List.length_pos_iff.mpr nonempty
  have := length_le_utf16Length text
  omega

/-- Columns keep their order when they are counted in UTF-16 units. -/
private theorem utf16Length_take_lt {text : List Char} {first second : Nat}
    (order : first < second) (inside : second ≤ text.length) :
    utf16Length (text.take first) < utf16Length (text.take second) := by
  have between : (text.take second).drop first ≠ [] := by
    rw [ne_eq, List.drop_eq_nil_iff, List.length_take]
    omega
  have split : text.take first ++ (text.take second).drop first =
      text.take second := by
    have parts := List.take_append_drop first (text.take second)
    rwa [List.take_take, Nat.min_eq_left (Nat.le_of_lt order)] at parts
  have positive := utf16Length_pos between
  rw [← split, utf16Length_append]
  omega

end Text

open Assembly

/-- The order in which an editor shows positions. -/
def Position.Before (first second : Position) : Prop :=
  first.line < second.line ∨
    (first.line = second.line ∧ first.character < second.character)

namespace Diagnostic

/-- A diagnostic shows a fault where the line has the token that the fault is
about, or the literal that does not close. -/
structure Shows (source : String) (fault : LineFault)
    (diagnostic : Diagnostic) : Prop where
  severity : diagnostic.severity = .error
  message : diagnostic.message = fault.cause.message
  line : diagnostic.position.line + 1 = fault.line
  token : ∃ text before span after,
    sourceLine? source fault.line = some text ∧
    text = before ++ span ++ after ∧
    Offends text ⟨fault.column, fault.cause⟩ span ∧
    before.length + 1 = fault.column ∧
    diagnostic.position.character = Text.utf16Length before ∧
    diagnostic.position.character < Text.utf16Length text

/-- The only diagnostic of a program that fails without faults and
warnings. -/
inductive Fallback (assembly : Assembly) : List Diagnostic → Prop where
  | needed {failure : Failure} :
      assembly.failure = some failure → assembly.faults = [] →
      assembly.warnings = [] →
      Fallback assembly [⟨.origin, .error, failure.message⟩]
  | idle :
      ¬ (assembly.failure ≠ none ∧ assembly.faults = [] ∧
        assembly.warnings = []) →
      Fallback assembly []

/-- How the diagnostics of a source text are made up. -/
structure Translates (source : String) (fallback errors : List Diagnostic) :
    Prop where
  whole : ofSource source = fallback ++ errors ++
    (assemble source).warnings.map fun warning =>
      ⟨.origin, .warning, warning.message⟩
  alone : Fallback (assemble source) fallback
  shown : List.Forall₂ (Shows source) (assemble source).faults errors
  ordered : errors.Pairwise fun first second =>
    first.position.Before second.position

/-! ## Positions -/

private theorem measured_of_origin (lines : List (List Char))
    {diagnostic : Diagnostic} (origin : diagnostic.position = .origin) :
    measured lines diagnostic = diagnostic := by
  obtain ⟨position, severity, message⟩ := diagnostic
  cases origin
  unfold measured
  split
  · rfl
  · rename_i line _
    have width : widthOf line 0 = 0 := by
      rw [widthOf, List.take_zero]
      exact Nat.zero_min _
    simp only [width]

private theorem zeroBased_of_le
    {coordinate : Nat} (small : coordinate ≤ UInt32.size) :
    zeroBased coordinate = coordinate - 1 := by
  rw [zeroBased, maxCoordinate]
  omega

section

variable {source : String} {fault : LineFault} {text span : List Char}
  (few : (Text.lines source.toList).length < UInt32.size)
  (short : ∀ line ∈ Text.lines source.toList,
    Text.utf16Length line < UInt32.size)

theorem column_le_length (stands : StandsAt text ⟨fault.column, fault.cause⟩
      span) : fault.column ≤ text.length := by
  have room := stands.here.length_le
  have positive := List.length_pos_iff.mpr stands.nonempty
  rw [List.length_drop] at room
  simp only at room
  omega

include few short

/-- A fault on a known line is shown in UTF-16 units of that line. -/
theorem measured_ofFault
    (line : sourceLine? source fault.line = some text)
    (stands : StandsAt text ⟨fault.column, fault.cause⟩ span) :
    measured (Text.lines source.toList) (ofFault fault) =
      { position :=
          ⟨fault.line - 1, Text.utf16Length (text.take (fault.column - 1))⟩
        severity := .error
        message := fault.cause.message } := by
  have bounds := bounds_of_sourceLine? line
  have found : (Text.lines source.toList)[fault.line - 1]? = some text := by
    cases number : fault.line with
    | zero => omega
    | succ index =>
        rw [number] at line
        exact line
  have narrow := short text (List.mem_of_getElem? found)
  have inside := column_le_length stands
  have wide := Text.length_le_utf16Length text
  -- The line and the column are in range, so that nothing is cut off.
  have lineNumber : zeroBased fault.line = fault.line - 1 :=
    zeroBased_of_le (by omega)
  have column : zeroBased fault.column = fault.column - 1 :=
    zeroBased_of_le (by omega)
  have width : widthOf text (fault.column - 1) =
      Text.utf16Length (text.take (fault.column - 1)) := by
    have parts := Text.utf16Length_append (text.take (fault.column - 1))
      (text.drop (fault.column - 1))
    rw [List.take_append_drop] at parts
    rw [widthOf, maxCoordinate]
    omega
  simp only [measured, ofFault, lineNumber, column, found, width]

theorem shows_of_mem_faults (member : fault ∈ (assemble source).faults) :
    Shows source fault
      (measured (Text.lines source.toList) (ofFault fault)) := by
  obtain ⟨text, span, line, stands⟩ := standsAt_of_mem_faults member
  obtain ⟨after, behind⟩ := stands.here
  have bounds := bounds_of_sourceLine? line
  have inside := column_le_length stands
  have counted := stands.counted
  have split : text = text.take (fault.column - 1) ++ span ++ after := by
    rw [List.append_assoc, behind, List.take_append_drop]
  have total := congrArg Text.utf16Length split
  rw [Text.utf16Length_append, Text.utf16Length_append] at total
  have positive := Text.utf16Length_pos stands.nonempty
  rw [measured_ofFault few short line stands]
  refine ⟨rfl, rfl, Nat.sub_add_cancel bounds.1, text, _, span, after, line,
    split, stands.offends, ?_, rfl, ?_⟩
  · rw [List.length_take]
    simp only at counted
    omega
  · simp only
    omega

theorem errors_ordered :
    ((assemble source).faults.map fun fault =>
      measured (Text.lines source.toList) (ofFault fault)).Pairwise
        fun first second => first.position.Before second.position := by
  rw [List.pairwise_map]
  apply (faults_before source).imp_of_mem
  intro first second early late before
  obtain ⟨text, span, line, stands⟩ := standsAt_of_mem_faults early
  obtain ⟨other, _, otherLine, otherStands⟩ := standsAt_of_mem_faults late
  rw [measured_ofFault few short line stands,
    measured_ofFault few short otherLine otherStands]
  have bounds := bounds_of_sourceLine? line
  rcases before with above | ⟨same, order⟩
  · left
    simp only
    omega
  · right
    rw [same, otherLine, Option.some.injEq] at line
    subst line
    have counted := stands.counted
    have inside := column_le_length otherStands
    refine ⟨congrArg (· - 1) same, Text.utf16Length_take_lt ?_ ?_⟩
    · simp only at counted
      omega
    · omega

end

/-! ## All diagnostics -/

theorem fallback_ofAssembly (assembly : Assembly) :
    Fallback assembly
      (if assembly.faults.isEmpty && assembly.warnings.isEmpty then
        assembly.failure.toList.map ofFailure
      else []) := by
  split
  · rename_i quiet
    rw [Bool.and_eq_true, List.isEmpty_iff, List.isEmpty_iff] at quiet
    cases failed : assembly.failure with
    | none => exact .idle fun needed => needed.1 failed
    | some failure => exact .needed failed quiet.1 quiet.2
  · rename_i noisy
    apply Fallback.idle
    rintro ⟨_, faults, warnings⟩
    rw [faults, warnings] at noisy
    exact noisy rfl

theorem ofSource_eq (source : String) :
    ofSource source =
      (if (assemble source).faults.isEmpty &&
          (assemble source).warnings.isEmpty then
        (assemble source).failure.toList.map ofFailure
      else []) ++
      ((assemble source).faults.map fun fault =>
        measured (Text.lines source.toList) (ofFault fault)) ++
      (assemble source).warnings.map ofWarning := by
  rw [ofSource, ofAssembly]
  simp only [List.map_append, List.map_map]
  congr 1
  · congr 1
    split
    · rw [List.map_map]
      apply List.map_congr_left
      intro failure _
      exact measured_of_origin _ rfl
    · rfl
  · apply List.map_congr_left
    intro warning _
    exact measured_of_origin _ rfl

theorem ofSource_eq_nil_iff (source : String) :
    ofSource source = [] ↔ (assemble source).isClean = true := by
  rw [ofSource_eq, isClean]
  cases (assemble source).faults <;> cases (assemble source).warnings <;>
    cases (assemble source).failure <;> simp

/-- A source text of moderate size is translated into one diagnostic for each
fault, in order and at the token that the fault is about, and one for each
warning.  Only a failure without faults and warnings is shown on its own. -/
theorem ofSource_translates (source : String)
    (few : (Text.lines source.toList).length < UInt32.size)
    (short : ∀ line ∈ Text.lines source.toList,
      Text.utf16Length line < UInt32.size) :
    (ofSource source = [] ↔ (assemble source).isClean = true) ∧
      ∃ fallback errors, Translates source fallback errors := by
  refine ⟨ofSource_eq_nil_iff source, _, _, ofSource_eq source,
    fallback_ofAssembly (assemble source), ?_, errors_ordered few short⟩
  rw [List.forall₂_map_right_iff, List.forall₂_same]
  exact fun fault member => shows_of_mem_faults few short member

/-- A character outside the basic plane stands in front of a constant that is
refused, on a line whose label is refused as well. -/
def astralSource : String :=
  "#pragma version 8\n#: bytecblock \"😀\" 0xZZ"

theorem ofSource_translates_astralSource :
    (Text.lines astralSource.toList).length < UInt32.size ∧
      (∀ line ∈ Text.lines astralSource.toList,
        Text.utf16Length line < UInt32.size) ∧
      (ofSource astralSource).map (·.position) = [⟨1, 0⟩, ⟨1, 19⟩] ∧
      ∃ fallback errors, Translates astralSource fallback errors := by
  have few : (Text.lines astralSource.toList).length < UInt32.size := by
    decide +kernel
  have short : ∀ line ∈ Text.lines astralSource.toList,
      Text.utf16Length line < UInt32.size := by
    decide +kernel
  exact ⟨few, short, by decide +kernel,
    (ofSource_translates astralSource few short).2⟩

end Diagnostic

end TealTools
