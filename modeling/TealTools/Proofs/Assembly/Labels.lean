import TealTools.Proofs.Assembly.Outcome

/-!
# Where labels lead

A label stands for the first instruction on its own line or on a later one,
and for the end of the program if there is none.  In a program without faults
every name is defined on one line only.
-/

namespace TealTools

/-- Where the first instruction on the given line or on a later one begins, or
the size of the program if there is none. -/
def SourceMap.pcFrom (map : SourceMap) (line size : Nat) : Nat :=
  match map.entries.find? fun entry => line ≤ entry.2 with
  | some entry => entry.1
  | none => size

theorem SourceMap.pcFrom_cases (map : SourceMap) (line size : Nat) :
    map.pcFrom line size ∈ map.entries.map (·.1) ∨
      map.pcFrom line size = size := by
  unfold pcFrom
  split
  · rename_i entry found
    exact .inl (List.mem_map_of_mem (List.mem_of_find?_eq_some found))
  · exact .inr rfl

namespace Assembly

/-- The text of a source line, counted from one. -/
def sourceLine? (source : String) : Nat → Option (List Char)
  | 0 => none
  | index + 1 => (Text.lines source.toList)[index]?

/-- A line defines a label if its first token is the name and a colon. -/
def DefinedOn (source name : String) (number : Nat) : Prop :=
  ∃ text token tokens,
    sourceLine? source number = some text ∧
    Token.scan text = .ok (token :: tokens) ∧
    token.word? = some (name ++ ":")

@[simp] theorem labelName?_eq_some_iff {word name : String} :
    labelName? word = some name ↔ word = name ++ ":" := by
  constructor
  · intro found
    unfold labelName? at found
    split at found
    · rename_i letters backwards
      cases found
      apply String.toList_injective
      have forwards := congrArg List.reverse backwards
      simpa using forwards
    · cases found
  · rintro rfl
    simp [labelName?]

theorem label?_readLine {text : List Char} {name : String} :
    (∃ label, label? (readLine text) = some label ∧ label.value = name) ↔
      ∃ token tokens, Token.scan text = .ok (token :: tokens) ∧
        token.word? = some (name ++ ":") := by
  unfold readLine
  cases scanned : Token.scan text with
  | error fault => simp [label?, Except.map]
  | ok tokens =>
      cases tokens with
      | nil => simp [label?, Except.map, readStatement]
      | cons token tokens =>
          simp only [Except.map, label?, readStatement, Except.ok.injEq,
            List.cons.injEq]
          cases found : token.word?.bind labelName? with
          | none =>
              simp only [reduceCtorEq, false_and, exists_false, false_iff]
              rintro ⟨_, _, ⟨rfl, rfl⟩, word⟩
              rw [word, Option.bind_some] at found
              rw [labelName?_eq_some_iff.mpr rfl] at found
              cases found
          | some other =>
              obtain ⟨word, given, named⟩ := Option.bind_eq_some_iff.mp found
              rw [labelName?_eq_some_iff] at named
              constructor
              · rintro ⟨label, own, rfl⟩
                cases own
                exact ⟨token, tokens, ⟨rfl, rfl⟩, named ▸ given⟩
              · rintro ⟨_, _, ⟨rfl, rfl⟩, same⟩
                refine ⟨_, rfl, ?_⟩
                rw [given, Option.some.injEq, named] at same
                exact (String.append_left_inj ":").mp same

theorem sourceLine?_of_readings {source : String}
    {front back : List (Reading Statement)} {reading : Reading Statement}
    (split : readings source = front ++ reading :: back) :
    ∃ text, sourceLine? source (front.length + 1) = some text ∧
      readLine text = reading := by
  have line : (readings source)[front.length]? = some reading := by
    rw [split, List.getElem?_append_right (Nat.le_refl _), Nat.sub_self]
    rfl
  rw [readings, List.getElem?_map, Option.map_eq_some_iff] at line
  exact line

/-- The lines that define a label are those whose reading has it. -/
theorem definedOn_iff {source name : String} {number : Nat} :
    DefinedOn source name number ↔
      ∃ front reading back label,
        readings source = front ++ reading :: back ∧
        number = front.length + 1 ∧
        label? reading = some label ∧ label.value = name := by
  constructor
  · rintro ⟨text, token, tokens, line, scanned, word⟩
    obtain ⟨label, found, named⟩ :=
      label?_readLine.mpr ⟨token, tokens, scanned, word⟩
    cases number with
    | zero => cases line
    | succ index =>
        obtain ⟨inside, here⟩ := List.getElem?_eq_some_iff.mp line
        have split := List.take_append_drop index (readings source)
        rw [List.drop_eq_getElem_cons (by simpa [readings] using inside)]
          at split
        refine ⟨_, _, _, label, split.symm, ?_, ?_, named⟩
        · simp only [List.length_take, readings, List.length_map]
          omega
        · simp only [readings, List.getElem_map]
          rw [here]
          exact found
  · rintro ⟨front, reading, back, label, split, rfl, found, named⟩
    obtain ⟨text, here, rfl⟩ := sourceLine?_of_readings split
    obtain ⟨token, tokens, scanned, word⟩ :=
      label?_readLine.mp ⟨label, found, named⟩
    exact ⟨text, token, tokens, here, scanned, word⟩

theorem pcFrom_append {source : String}
    {front back : List (Reading Statement)}
    (split : readings source = front ++ back) :
    (assemble source).sourceMap.pcFrom (front.length + 1)
        (1 + (draftCode (program source)).length) =
      1 + (draftCode (emittedFrom 0 1 front)).length := by
  have parts : program source = emittedFrom 0 1 front ++
      emittedFrom (0 + (draftCode (emittedFrom 0 1 front)).length)
        (1 + front.length) back := by
    rw [program, split, emittedFrom_append]
  rw [SourceMap.pcFrom, sourceMap_assemble, parts, List.map_append,
    List.find?_append]
  have before : List.find? (fun entry => decide (front.length + 1 ≤ entry.2))
      ((emittedFrom 0 1 front).map fun item =>
        (1 + item.offset, item.line)) = none := by
    rw [List.find?_eq_none]
    intro entry member
    obtain ⟨item, own, rfl⟩ := List.mem_map.mp member
    obtain ⟨early, reading, late, whole, _, numbered, _⟩ :=
      mem_emittedFrom own
    have bound := congrArg List.length whole
    rw [List.length_append, List.length_cons] at bound
    simp only [decide_eq_true_eq]
    omega
  rw [before, Option.none_or]
  cases starts : emittedFrom
      (0 + (draftCode (emittedFrom 0 1 front)).length)
      (1 + front.length) back with
  | nil =>
      simp only [List.map_nil, List.find?_nil, List.append_nil]
  | cons item more =>
      have place := offset_head_emittedFrom starts
      have own : item ∈ emittedFrom
          (0 + (draftCode (emittedFrom 0 1 front)).length)
          (1 + front.length) back := by
        rw [starts]
        exact List.mem_cons_self
      obtain ⟨early, reading, late, _, _, numbered, _⟩ := mem_emittedFrom own
      have here : front.length + 1 ≤ item.line := by omega
      simp only [List.map_cons, List.find?_cons, here, decide_true]
      omega

/-- A known label leads to the first instruction on its line or below. -/
theorem pcFrom_of_lookup {source name : String} {target : Nat}
    (known : (lastSite source).labels.lookup name = some target) :
    ∃ number, DefinedOn source name number ∧
      (assemble source).sourceMap.pcFrom number
        (1 + (draftCode (program source)).length) = 1 + target := by
  obtain ⟨early, late, whole, _⟩ := List.lookup_eq_some_iff.mp known
  have member : (name, target) ∈ (lastSite source).labels := by
    rw [whole]
    exact List.mem_append_right _ List.mem_cons_self
  rcases mem_labels_placeAll member with
    start | ⟨front, reading, back, label, split, found, named, place⟩
  · cases start
  · refine ⟨front.length + 1, ?_, ?_⟩
    · exact definedOn_iff.mpr
        ⟨front, reading, back, label, split, rfl, found, named⟩
    · rw [pcFrom_append split, place, offset_placeAll]
      simp [Site.start]

/-! ## One definition for each name -/

private theorem labels_of_faultless {site : Site} {line : Nat}
    {reading : Reading Statement} {label : At String}
    (found : label? reading = some label)
    (clean : (site.place line reading).2.faults = []) :
    site.labels.lookup label.value = none ∧
      (site.place line reading).1.labels =
        site.labels ++ [(label.value, site.offset)] := by
  have accepted := faults_placeLabel_of_place clean
  rw [found] at accepted
  rw [labels_place, found]
  rcases placeLabel_cases site label with
    ⟨_, refused⟩ | ⟨fresh, added, _⟩
  · exact (refused accepted).elim
  · exact ⟨fresh, added⟩

private theorem label_ne_of_faultless {site : Site} {line : Nat}
    {front middle back : List (Reading Statement)}
    {first second : Reading Statement} {label other : At String}
    (clean : ∀ placed ∈ (site.placeAll line
      (front ++ first :: (middle ++ second :: back))).2, placed.faults = [])
    (firstLabel : label? first = some label)
    (secondLabel : label? second = some other) :
    label.value ≠ other.value := by
  intro same
  have early := labels_of_faultless firstLabel (faults_of_mem_placeAll clean)
  have late : ((site.placeAll line (front ++ first :: middle)).1.place
      (line + (front ++ first :: middle).length) second).2.faults = [] := by
    rw [← List.cons_append, ← List.append_assoc] at clean
    exact faults_of_mem_placeAll clean
  have fresh := (labels_of_faultless secondLabel late).1
  have grown : ((site.placeAll line front).1.place (line + front.length)
      first).1.labels <+:
        (site.placeAll line (front ++ first :: middle)).1.labels := by
    rw [placeAll_append, placeAll_cons]
    exact labels_placeAll_grow _ _ _
  rw [early.2] at grown
  have stale := List.IsPrefix.lookup_eq_none grown fresh
  rw [List.lookup_append, Option.or_eq_none_iff] at stale
  have own : [(label.value, (site.placeAll line front).1.offset)].lookup
      other.value = some (site.placeAll line front).1.offset := by
    rw [← same, List.lookup_cons_self]
  rw [own] at stale
  cases stale.2

/-- A program without faults defines a name on one line only. -/
theorem definedOn_unique {source name : String} {number other : Nat}
    (clean : ∀ placed ∈ placedLines source, placed.faults = [])
    (here : DefinedOn source name number)
    (there : DefinedOn source name other) : number = other := by
  -- Of two such lines the later one would have a fault.
  have later : ∀ {first second : Nat}, DefinedOn source name first →
      DefinedOn source name second → first < second → False := by
    intro first second early late order
    obtain ⟨front, reading, back, label, split, rfl, found, named⟩ :=
      definedOn_iff.mp early
    obtain ⟨front', reading', back', label', split', rfl, found', named'⟩ :=
      definedOn_iff.mp late
    obtain ⟨middle, rfl⟩ :
        ∃ middle, front' = front ++ reading :: middle := by
      have both := split.symm.trans split'
      rw [List.append_eq_append_iff] at both
      rcases both with ⟨extra, rfl, rest⟩ | ⟨extra, rfl, _⟩
      · cases extra with
        | nil =>
            simp at order
        | cons head extra =>
            rw [List.cons_append, List.cons.injEq] at rest
            exact ⟨extra, by rw [rest.1]⟩
      · rw [List.length_append] at order
        omega
    rw [List.append_assoc, List.cons_append] at split'
    unfold placedLines at clean
    rw [split'] at clean
    exact label_ne_of_faultless clean found found' (named.trans named'.symm)
  rcases Nat.lt_trichotomy number other with before | same | behind
  · exact (later here there before).elim
  · exact same
  · exact (later there here behind).elim

end Assembly

end TealTools
