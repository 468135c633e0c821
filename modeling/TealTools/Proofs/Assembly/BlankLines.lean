import TealTools.Proofs.Assembly.Faults
import TealTools.Proofs.Text.Ascii

/-!
# Lines without tokens

A line that is blank or holds only a comment adds nothing to a program.  If
such a line is inserted into a source text, the lines behind it get the next
number, in faults and in the source map, and nothing else changes.
-/

namespace TealTools

namespace Assembly

/-- The number of a line once a line with the given number is inserted. -/
def movedLine (number line : Nat) : Nat :=
  if number ≤ line then line + 1 else line

/-- The outcome with every line renumbered. -/
def renumber (change : Nat → Nat) (assembly : Assembly) : Assembly :=
  { assembly with
    faults := assembly.faults.map fun fault =>
      { fault with line := change fault.line }
    sourceMap :=
      { entries := assembly.sourceMap.entries.map fun (pc, line) =>
          (pc, change line) } }

/-- A placed line under another number. -/
def Placed.renumber (change : Nat → Nat) (placed : Placed) : Placed :=
  { placed with line := change placed.line }

/-- What a line without tokens says. -/
def blankReading : Reading Statement :=
  .ok { label := none, body := .empty }

/-! ## Layouts -/

private theorem readLine_of_scan_nil {text : List Char}
    (blank : Token.scan text = .ok []) : readLine text = blankReading := by
  rw [readLine, blank]
  rfl

theorem place_renumber (change : Nat → Nat) (site : Site) (line : Nat)
    (reading : Reading Statement) :
    site.place (change line) reading =
      ((site.place line reading).1,
        (site.place line reading).2.renumber change) := by
  cases reading with
  | error fault => rfl
  | ok statement =>
      simp only [Site.place]
      generalize site.placeLabel statement.label = labelled
      cases statement.body with
      | empty => rfl
      | misplaced fault => rfl
      | directive column version =>
          cases version with
          | error fault => rfl
          | ok version =>
              simp only [Site.placeBody]
              split <;> rfl
      | instruction parsed => cases parsed <;> rfl

private theorem placeAll_succ (site : Site) (line : Nat)
    (readings : List (Reading Statement)) :
    site.placeAll (line + 1) readings =
      ((site.placeAll line readings).1,
        (site.placeAll line readings).2.map (Placed.renumber (· + 1))) := by
  induction readings generalizing site line with
  | nil => rfl
  | cons reading readings induction =>
      rw [placeAll_cons, placeAll_cons, place_renumber (· + 1) site line,
        induction]
      rfl

private theorem map_line_placeAll (site : Site) (line : Nat)
    (readings : List (Reading Statement)) :
    (site.placeAll line readings).2.map Placed.line =
      List.range' line readings.length := by
  induction readings generalizing site line with
  | nil => rfl
  | cons reading readings induction =>
      rw [placeAll_cons, List.map_cons, line_place, induction,
        List.length_cons, List.range'_succ]

theorem bounds_of_mem_placeAll {site : Site} {line : Nat}
    {readings : List (Reading Statement)} {placed : Placed}
    (member : placed ∈ (site.placeAll line readings).2) :
    line ≤ placed.line ∧ placed.line < line + readings.length := by
  have own : placed.line ∈ List.range' line readings.length := by
    rw [← map_line_placeAll site]
    exact List.mem_map_of_mem member
  rw [List.mem_range'_1] at own
  exact own

/-- The lines in front of an inserted line keep their numbers, and those
behind it get the next one. -/
private theorem map_renumber_placeAll (site : Site)
    (front back : List (Reading Statement)) :
    (site.placeAll 1 (front ++ back)).2.map
        (Placed.renumber (movedLine (front.length + 1))) =
      (site.placeAll 1 front).2 ++
        ((site.placeAll 1 front).1.placeAll (1 + front.length) back).2.map
          (Placed.renumber (· + 1)) := by
  rw [placeAll_append, List.map_append]
  congr 1
  · conv_rhs => rw [← List.map_id (site.placeAll 1 front).2]
    apply List.map_congr_left
    intro placed member
    have bounds := bounds_of_mem_placeAll member
    have same : movedLine (front.length + 1) placed.line = placed.line :=
      if_neg (by omega)
    rw [Placed.renumber, same]
    rfl
  · apply List.map_congr_left
    intro placed member
    have bounds := bounds_of_mem_placeAll member
    have next : movedLine (front.length + 1) placed.line = placed.line + 1 :=
      if_pos (by omega)
    rw [Placed.renumber, next, Placed.renumber]

/-- A blank line is placed without a trace. -/
theorem placeAll_insert_blank (site : Site)
    (front back : List (Reading Statement)) :
    site.placeAll 1 (front ++ blankReading :: back) =
      ((site.placeAll 1 (front ++ back)).1,
        (site.placeAll 1 front).2 ++ ⟨1 + front.length, [], none⟩ ::
          ((site.placeAll 1 front).1.placeAll (1 + front.length) back).2.map
            (Placed.renumber (· + 1))) := by
  rw [placeAll_append, placeAll_cons, placeAll_append]
  have here : (site.placeAll 1 front).1.place (1 + front.length)
      blankReading = ((site.placeAll 1 front).1,
        ⟨1 + front.length, [], none⟩) := rfl
  rw [here, placeAll_succ]

/-! ## Outcomes -/

theorem ofLayout_renumber (change : Nat → Nat) (site : Site)
    (placed : List Placed) :
    ofLayout site (placed.map (Placed.renumber change)) =
      (ofLayout site placed).renumber change := by
  have faults : (placed.map (Placed.renumber change)).flatMap
      (Placed.allFaults site.labels) =
        (placed.flatMap (Placed.allFaults site.labels)).map fun fault =>
          { fault with line := change fault.line } := by
    rw [List.flatMap_map, List.map_flatMap]
    congr 1
    funext line
    simp only [Placed.allFaults, List.map_map]
    rfl
  have code : (placed.map (Placed.renumber change)).flatMap
      (Placed.encode site.labels) =
        placed.flatMap (Placed.encode site.labels) := by
    rw [List.flatMap_map]
    rfl
  have unused : unusedLabels site.labels
      (placed.map (Placed.renumber change)) =
        unusedLabels site.labels placed := by
    rw [unusedLabels, List.flatMap_map]
    rfl
  have map (header : Nat) :
      placedMap header (placed.map (Placed.renumber change)) =
        { entries := (placedMap header placed).entries.map fun (pc, line) =>
            (pc, change line) } := by
    simp only [placedMap, List.filterMap_map, List.map_filterMap]
    congr 2
    funext line
    cases found : line.instruction with
    | none => simp [Placed.renumber, found]
    | some pair => simp [Placed.renumber, found]
  simp only [ofLayout, renumber, faults, code, unused, map,
    List.length_map, List.isEmpty_map]

/-- A placed line that holds nothing makes no difference. -/
theorem ofLayout_insert_blank (site : Site) (line : Nat)
    (front back : List Placed) :
    ofLayout site (front ++ ⟨line, [], none⟩ :: back) =
      ofLayout site (front ++ back) := by
  have faults : (front ++ ⟨line, [], none⟩ :: back).flatMap
      (Placed.allFaults site.labels) =
        (front ++ back).flatMap (Placed.allFaults site.labels) := by
    simp [Placed.allFaults, Placed.branchFaults]
  have code : (front ++ ⟨line, [], none⟩ :: back).flatMap
      (Placed.encode site.labels) =
        (front ++ back).flatMap (Placed.encode site.labels) := by
    simp [Placed.encode]
  have unused : unusedLabels site.labels (front ++ ⟨line, [], none⟩ :: back) =
      unusedLabels site.labels (front ++ back) := by
    simp [unusedLabels, Placed.references]
  have map (header : Nat) :
      placedMap header (front ++ ⟨line, [], none⟩ :: back) =
        placedMap header (front ++ back) := by
    simp [placedMap]
  simp only [ofLayout, faults, code, unused, map]

/-- The outcome of what lines say. -/
def ofReadings (readings : List (Reading Statement)) : Assembly :=
  ofLayout (Site.start.placeAll 1 readings).1
    (Site.start.placeAll 1 readings).2

theorem ofReadings_insert_blank (front back : List (Reading Statement)) :
    ofReadings (front ++ blankReading :: back) =
      (ofReadings (front ++ back)).renumber
        (movedLine (front.length + 1)) := by
  rw [ofReadings, placeAll_insert_blank, ofLayout_insert_blank,
    ← map_renumber_placeAll, ofLayout_renumber, ofReadings]

theorem ofReadings_append_blank (readings : List (Reading Statement)) :
    ofReadings (readings ++ [blankReading]) = ofReadings readings := by
  rw [ofReadings, placeAll_insert_blank, ofLayout_insert_blank,
    List.append_nil]
  simp only [Site.placeAll, List.map_nil, List.append_nil]
  rfl

end Assembly

/-! ## Texts -/

namespace Text

private theorem dropReturn_of_getLast? {line : List Char}
    (plain : line.getLast? ≠ some '\r') : dropReturn line = line := by
  fun_induction dropReturn line with
  | case1 => rfl
  | case2 => exact absurd rfl plain
  | case3 => rfl
  | case4 c rest nonempty induction =>
      rw [induction]
      intro last
      cases rest with
      | nil => exact nonempty rfl
      | cons d rest =>
          apply plain
          rw [List.getLast?_cons_cons, last]

@[simp] theorem dropReturn_concat (line : List Char) :
    dropReturn (line ++ ['\r']) = line := by
  induction line with
  | nil => rfl
  | cons c line induction =>
      cases line with
      | nil => rfl
      | cons d line =>
          rw [List.cons_append, List.cons_append, dropReturn,
            ← List.cons_append, induction]
          simp

theorem lines_intercalate {pieces : List (List Char)}
    (feedless : ∀ piece ∈ pieces, '\n' ∉ piece) :
    lines (['\n'].intercalate pieces) = finishLines pieces := by
  cases pieces with
  | nil => rfl
  | cons piece pieces =>
      rw [lines, split_eq_splitOn,
        List.splitOn_intercalate '\n' feedless (List.cons_ne_nil _ _)]

/-- Line ends do not matter to a reader that ignores them, but for an empty
piece at the end, which is no line. -/
private theorem map_finishLines {α : Type} {read : List Char → α}
    {pieces : List (List Char)}
    (same : ∀ piece ∈ pieces, read (dropReturn piece) = read piece) :
    (finishLines pieces).map read = pieces.map read ∨
      pieces.map read = (finishLines pieces).map read ++ [read []] := by
  fun_induction finishLines pieces with
  | case1 => exact .inl rfl
  | case2 last empty =>
      rw [List.isEmpty_iff] at empty
      rw [empty]
      exact .inr rfl
  | case3 last _ => exact .inl rfl
  | case4 line more _ induction =>
      rw [List.map_cons, same line List.mem_cons_self, List.map_cons,
        List.cons_append]
      exact (induction fun piece member =>
        same piece (List.mem_cons_of_mem line member)).imp
          (congrArg _) (congrArg _)

end Text

namespace Token

/-- What can stand at the head of a text that holds no token. -/
theorem scan_eq_nil_iff {text : List Char} :
    scan text = .ok [] ↔
      ∀ c rest, text.dropWhile Text.isSeparator = c :: rest →
        beginsComment (c :: rest) ∨ Text.isBlank c := by
  have done : scan text = .ok [] ↔ step 1 text = .done := by
    rw [scan, scanFrom]
    split
    · rename_i finished
      simp [finished]
    · rename_i stuck
      simp [stuck]
    · rename_i token next behind found
      rw [found]
      cases scanFrom next behind with
      | error fault => simp [bind, Except.bind]
      | ok tokens => simp [bind, Except.bind, pure, Except.pure]
  rw [done, step]
  cases text.dropWhile Text.isSeparator with
  | nil => simp [stepAt]
  | cons c rest =>
      rw [stepAt_eq_done_iff]
      simp

theorem scan_dropReturn {text : List Char} (blank : scan text = .ok []) :
    scan (Text.dropReturn text) = .ok [] := by
  by_cases plain : text.getLast? ≠ some '\r'
  · rw [Text.dropReturn_of_getLast? plain]
    exact blank
  · obtain ⟨front, rfl⟩ :=
      List.getLast?_eq_some_iff.mp (not_not.mp plain)
    rw [Text.dropReturn_concat, scan_eq_nil_iff]
    intro c rest here
    have behind := scan_eq_nil_iff.mp blank c (rest ++ ['\r'])
    rw [List.dropWhile_append, here] at behind
    refine (behind rfl).imp_left fun comment => ?_
    -- The carriage return is no part of the comment marker.
    cases rest with
    | nil => simp [beginsComment] at comment
    | cons d rest =>
        unfold beginsComment at comment
        split at comment
        · rename_i slashes
          simp only [List.cons_append, List.cons.injEq] at slashes
          obtain ⟨rfl, rfl, _⟩ := slashes
          rfl
        · cases comment

end Token

namespace Assembly

theorem assemble_intercalate {lines : List String}
    (feedless : ∀ line ∈ lines, '\n' ∉ line.toList)
    (same : ∀ line ∈ lines,
      readLine (Text.dropReturn line.toList) = readLine line.toList) :
    assemble ("\n".intercalate lines) =
      ofReadings (lines.map fun line => readLine line.toList) := by
  have texts : Text.lines ("\n".intercalate lines).toList =
      Text.finishLines (lines.map String.toList) := by
    rw [String.toList_intercalate]
    exact Text.lines_intercalate (by simpa using feedless)
  have outcome : assemble ("\n".intercalate lines) =
      ofReadings ((Text.finishLines (lines.map String.toList)).map
        readLine) := by
    rw [← texts]
    rfl
  have all : lines.map (fun line => readLine line.toList) =
      (lines.map String.toList).map readLine := by
    rw [List.map_map]
    rfl
  rw [outcome, all]
  have pieces : ∀ piece ∈ lines.map String.toList,
      readLine (Text.dropReturn piece) = readLine piece := by
    simpa using same
  rcases Text.map_finishLines pieces with whole | shorter
  · rw [whole]
  · have empty : readLine [] = blankReading :=
      readLine_of_scan_nil (Token.scan_eq_nil_iff.mpr nofun)
    rw [shorter, empty, ofReadings_append_blank]

/-- A line without tokens moves the lines behind it, and changes nothing
else. -/
theorem blank_line_moves_lines (front back : List String) (line : String)
    (lines : ∀ text ∈ front ++ back,
      '\n' ∉ text.toList ∧ text.toList.getLast? ≠ some '\r')
    (oneLine : '\n' ∉ line.toList)
    (blank : Token.scan line.toList = .ok []) :
    assemble ("\n".intercalate (front ++ line :: back)) =
      (assemble ("\n".intercalate (front ++ back))).renumber
        (movedLine (front.length + 1)) := by
  have same : ∀ text ∈ front ++ back,
      readLine (Text.dropReturn text.toList) = readLine text.toList := by
    intro text member
    rw [Text.dropReturn_of_getLast? (lines text member).2]
  have silent : readLine (Text.dropReturn line.toList) =
      readLine line.toList := by
    rw [readLine_of_scan_nil blank,
      readLine_of_scan_nil (Token.scan_dropReturn blank)]
  have among : ∀ text ∈ front ++ line :: back,
      text = line ∨ text ∈ front ++ back := by
    intro text member
    simp only [List.mem_append, List.mem_cons] at member ⊢
    tauto
  rw [assemble_intercalate (fun text member => (lines text member).1) same,
    assemble_intercalate]
  · rw [List.map_append, List.map_cons, readLine_of_scan_nil blank,
      ofReadings_insert_blank, List.map_append, List.length_map]
  · intro text member
    rcases among text member with rfl | other
    · exact oneLine
    · exact (lines text other).1
  · intro text member
    rcases among text member with rfl | other
    · exact silent
    · exact same text other

/-- A comment in front of a branch without a target. -/
theorem blank_line_moves_lines_comment :
    Token.scan "\t// away".toList = .ok [] ∧
      (assemble ("\n".intercalate ["int 1", "b away", "foo"])).faults.map
        LineFault.line = [2, 3] ∧
      assemble ("\n".intercalate ["int 1", "\t// away", "b away", "foo"]) =
        (assemble ("\n".intercalate ["int 1", "b away", "foo"])).renumber
          (movedLine 2) := by
  have blank : Token.scan "\t// away".toList = .ok [] := by
    decide +kernel
  refine ⟨blank, by decide +kernel, ?_⟩
  exact blank_line_moves_lines ["int 1"] ["b away", "foo"] "\t// away"
    (by decide) (by decide) blank

end Assembly

end TealTools
