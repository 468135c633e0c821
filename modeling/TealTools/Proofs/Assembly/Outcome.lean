import TealTools.Proofs.Assembly.Layout
import TealTools.Proofs.Codec.Varuint

/-!
# From a layout to its outcome

The outcome of a source text, said in terms of the instructions that its lines
add.  The version of a program always fits into one byte, so that its code
begins at program counter one.
-/

namespace TealTools.Assembly

/-- What the lines of a source text say. -/
def readings (source : String) : List (Reading Statement) :=
  (Text.lines source.toList).map readLine

/-- The lines of a source text, each in its place. -/
def placedLines (source : String) : List Placed :=
  (Site.start.placeAll 1 (readings source)).2

/-- What is known behind the last line of a source text. -/
def lastSite (source : String) : Site :=
  (Site.start.placeAll 1 (readings source)).1

/-- The instructions of a source text, each in its place. -/
def program (source : String) : List Emitted :=
  emittedFrom 0 1 (readings source)

/-- The code of a source text, its branches resolved. -/
def code (source : String) : Bytes :=
  (placedLines source).flatMap (Placed.encode (lastSite source).labels)

def Emitted.encode (labels : List (String × Nat)) (item : Emitted) : Bytes :=
  (item.instruction.map fun target =>
    (branchOffset labels item.base target.value).toOption.getD 0).encode

theorem assemble_eq (source : String) :
    assemble source = ofLayout (lastSite source) (placedLines source) :=
  rfl

@[simp] theorem emitted_placedLines (source : String) :
    emitted (placedLines source) = program source :=
  emitted_placeAll Site.start 1 (readings source)

/-! ## Versions -/

private theorem bounds_of_readDirective {directive : At String}
    {tokens : List Token} {version : Nat}
    (read : readDirective directive tokens = .ok version) :
    1 ≤ version ∧ version ≤ maxVersion := by
  unfold readDirective at read
  split at read
  · cases read
  · split at read
    · split at read
      · cases read
      · split at read
        · split at read
          · rename_i bounds
            cases read
            exact bounds
          · cases read
        · cases read
    · cases read

private theorem bounds_of_readBody {tokens : List Token} {column version : Nat}
    (read : readBody tokens = .directive column (.ok version)) :
    1 ≤ version ∧ version ≤ maxVersion := by
  unfold readBody at read
  split at read
  · cases read
  · split at read
    · cases read
    · split at read
      · simp only [Body.directive.injEq] at read
        exact bounds_of_readDirective read.2
      · cases read

theorem bounds_of_readLine {line : List Char} {label : Option (At String)}
    {column version : Nat}
    (read : readLine line = .ok ⟨label, .directive column (.ok version)⟩) :
    1 ≤ version ∧ version ≤ maxVersion := by
  unfold readLine at read
  cases scanned : Token.scan line with
  | error fault =>
      rw [scanned] at read
      cases read
  | ok tokens =>
      rw [scanned] at read
      simp only [Except.map, Except.ok.injEq] at read
      unfold readStatement at read
      split at read
      · cases read
      · split at read
        · simp only [Statement.mk.injEq] at read
          exact bounds_of_readBody read.2
        · simp only [Statement.mk.injEq] at read
          exact bounds_of_readBody read.2

private theorem version_place (site : Site) (line : Nat)
    (reading : Reading Statement) :
    (site.place line reading).1.version = site.version ∨
      ∃ label column version,
        reading = .ok ⟨label, .directive column (.ok version)⟩ ∧
        (site.place line reading).1.version = some version := by
  cases reading with
  | error fault => exact .inl rfl
  | ok statement =>
      obtain ⟨label, body⟩ := statement
      obtain ⟨labels, placed⟩ := placeLabel_frame site label
      simp only [Site.place, placed]
      unfold Site.placeBody
      split
      · exact .inl rfl
      · exact .inl rfl
      · exact .inl rfl
      · rename_i column version
        split
        · exact .inl rfl
        · exact .inr ⟨label, column, version, rfl, rfl⟩
      · exact .inl rfl
      · exact .inl rfl

theorem version_placeAll {site : Site} {line : Nat}
    {lines : List (List Char)} {version : Nat}
    (old : ∀ version, site.version = some version →
      1 ≤ version ∧ version ≤ maxVersion)
    (selected : (site.placeAll line (lines.map readLine)).1.version =
      some version) :
    1 ≤ version ∧ version ≤ maxVersion := by
  induction lines generalizing site line with
  | nil => exact old version selected
  | cons text lines induction =>
      rw [List.map_cons, placeAll_cons] at selected
      apply induction (fun next chosen => ?_) selected
      rcases version_place site line (readLine text) with
        same | ⟨label, column, version, read, changed⟩
      · exact old next (same ▸ chosen)
      · rw [changed, Option.some.injEq] at chosen
        exact chosen ▸ bounds_of_readLine read

theorem version_assemble (source : String) :
    1 ≤ (assemble source).version ∧
      (assemble source).version ≤ maxVersion := by
  have version : (assemble source).version =
      (lastSite source).version.getD defaultVersion := rfl
  rw [version]
  cases selected : (lastSite source).version with
  | none => decide
  | some version =>
      have fresh : ∀ version, Site.start.version = some version →
          1 ≤ version ∧ version ≤ maxVersion := nofun
      exact version_placeAll fresh selected

/-- The header of a program is its version, in one byte. -/
theorem header_assemble (source : String) :
    Codec.varuint (assemble source).version =
      [UInt8.ofNat (assemble source).version] := by
  have bounds := version_assemble source
  have small : (assemble source).version < 0x80 := by
    unfold maxVersion at bounds
    omega
  exact Codec.varuint_of_lt small

/-! ## Source map and bytecode -/

private theorem placedMap_entries (header : Nat) (placed : List Placed) :
    (placedMap header placed).entries =
      (emitted placed).map fun item => (header + item.offset, item.line) := by
  simp only [placedMap, emitted, List.map_filterMap]
  congr 1
  funext line
  simp [Placed.emitted?, Function.comp_def]

/-- Every instruction has its entry, and nothing else has one. -/
theorem sourceMap_assemble (source : String) :
    (assemble source).sourceMap.entries =
      (program source).map fun item => (1 + item.offset, item.line) := by
  have header : (Codec.varuint (assemble source).version).length = 1 := by
    rw [header_assemble]
    rfl
  have entries : (assemble source).sourceMap =
      placedMap (Codec.varuint (assemble source).version).length
        (placedLines source) := rfl
  rw [entries, placedMap_entries, emitted_placedLines, header]

private theorem flatMap_encode (labels : List (String × Nat))
    (placed : List Placed) :
    placed.flatMap (Placed.encode labels) =
      (emitted placed).flatMap (Emitted.encode labels) := by
  induction placed with
  | nil => rfl
  | cons line placed induction =>
      rw [List.flatMap_cons, induction]
      cases found : line.instruction with
      | none =>
          simp [emitted, Placed.emitted?, Placed.encode, found]
      | some pair =>
          simp [emitted, Placed.emitted?, Placed.encode, Emitted.encode,
            Emitted.base, found]

theorem code_eq (source : String) :
    code source =
      (program source).flatMap (Emitted.encode (lastSite source).labels) := by
  rw [code, flatMap_encode, emitted_placedLines]

theorem ofLayout_of_failure_none {site : Site} {placed : List Placed}
    (succeeds : (ofLayout site placed).failure = none) :
    placed.flatMap (Placed.allFaults site.labels) = [] ∧
      (ofLayout site placed).bytecode =
        Codec.varuint (ofLayout site placed).version ++
          placed.flatMap (Placed.encode site.labels) := by
  have clean : placed.flatMap (Placed.allFaults site.labels) = [] := by
    simp only [ofLayout] at succeeds
    split at succeeds
    · cases succeeds
    · rename_i noFault
      rwa [Bool.not_eq_true, Bool.not_eq_false', List.isEmpty_iff] at noFault
  refine ⟨clean, ?_⟩
  have bytecode : (ofLayout site placed).bytecode =
      if (ofLayout site placed).failure.isSome then []
      else Codec.varuint (ofLayout site placed).version ++
        placed.flatMap (Placed.encode site.labels) := rfl
  rw [bytecode, succeeds]
  rfl

theorem bytecode_of_failure_none {source : String}
    (succeeds : (assemble source).failure = none) :
    (assemble source).bytecode =
      UInt8.ofNat (assemble source).version :: code source := by
  rw [← List.singleton_append, ← header_assemble]
  rw [assemble_eq] at succeeds ⊢
  exact (ofLayout_of_failure_none succeeds).2

theorem faults_of_failure_none {source : String}
    (succeeds : (assemble source).failure = none) {placed : Placed}
    (member : placed ∈ placedLines source) :
    placed.faults = [] ∧
      placed.branchFaults (lastSite source).labels = [] := by
  rw [assemble_eq] at succeeds
  have clean := (ofLayout_of_failure_none succeeds).1
  rw [List.flatMap_eq_nil_iff] at clean
  have own := clean placed member
  rw [Placed.allFaults, List.map_eq_nil_iff, List.append_eq_nil_iff] at own
  exact own

end TealTools.Assembly
