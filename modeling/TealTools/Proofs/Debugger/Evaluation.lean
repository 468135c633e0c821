import TealTools.Proofs.Debugger.History
import TealTools.Proofs.Text.Numeral
import TealTools.Proofs.Text.Pieces

/-!
# Evaluation agrees with the variables

A value of a scope is listed as a variable and is found by an expression.
Both ways lead to the same values: what is listed can be asked for by its
expression, and what can be asked for is listed under its number.
-/

namespace TealTools.Debugger

/-! ## Scopes -/

inductive Scope where
  | stack
  | scratch
  deriving DecidableEq, Repr

namespace Scope

def name : Scope → String
  | stack => "stack"
  | scratch => "scratch"

def reference : Scope → Int
  | stack => stackReference
  | scratch => scratchReference

/-- The values of a scope with their numbers. -/
def contents (replay : Replay) : Scope → List (AvmValue × Nat)
  | stack => replay.stack.zipIdx
  | scratch => replay.scratch.map fun entry => (entry.2, entry.1.toNat)

/-- The value that is found under a number. -/
def value? (replay : Replay) (number : Nat) : Scope → Option AvmValue
  | stack => replay.stack[number]?
  | scratch => replay.scratch.get? (UInt64.ofNat number)

/-- Asks for the value with a number.  White space does not matter around the
expression and around the numeral. -/
inductive Selects (scope : Scope) (number : Nat) : List Char → Prop where
  | intro {before inner after : List Char} :
      (∀ c ∈ before, Text.isBlank c = true) →
      Text.Numeral (Text.trim inner) number → number < UInt64.size →
      (∀ c ∈ after, Text.isBlank c = true) →
      Selects scope number
        (before ++ (scope.name.toList ++ '[' :: (inner ++ [']'])) ++ after)

section

variable {scope : Scope} {replay : Replay} {number : Nat} {value : AvmValue}

theorem Selects.representable {text : List Char}
    (selects : scope.Selects number text) : number < UInt64.size := by
  cases selects with
  | intro _ _ representable _ => exact representable

theorem mem_contents_iff (increasing : replay.scratch.Increasing)
    (representable : number < UInt64.size) :
    (value, number) ∈ scope.contents replay ↔
      scope.value? replay number = some value := by
  cases scope with
  | stack => exact List.mem_zipIdx_iff_getElem?
  | scratch =>
      rw [contents, value?, increasing.get?_eq_some_iff, List.mem_map]
      constructor
      · rintro ⟨⟨slot, stored⟩, member, same⟩
        cases same
        rw [UInt64.ofNat_toNat]
        exact member
      · intro member
        refine ⟨_, member, ?_⟩
        rw [UInt64.toNat_ofNat_of_lt' representable]

private theorem numbers_stack :
    (stack.contents replay).map Prod.snd = List.range replay.stack.length := by
  rw [contents, List.zipIdx_map_snd, List.range_eq_range']

private theorem increasing_numbers (increasing : replay.scratch.Increasing) :
    ((scope.contents replay).map Prod.snd).Pairwise (· < ·) := by
  cases scope with
  | stack =>
      rw [numbers_stack]
      exact List.pairwise_lt_range
  | scratch =>
      rw [contents, List.map_map, List.pairwise_map]
      exact increasing.imp UInt64.lt_iff_toNat_lt.mp

private theorem representable_of_mem (fits : replay.stack.length ≤ UInt64.size)
    (member : (value, number) ∈ scope.contents replay) :
    number < UInt64.size := by
  cases scope with
  | stack =>
      have numbered := List.mem_map_of_mem (f := Prod.snd) member
      rw [numbers_stack, List.mem_range] at numbered
      exact Nat.lt_of_lt_of_le numbered fits
  | scratch =>
      obtain ⟨entry, -, same⟩ := List.mem_map.mp member
      cases same
      exact entry.1.toNat_lt

end

end Scope

/-! ## Expressions -/

namespace Adapter

@[simp] theorem dropStart?_eq_some_iff {start text rest : List Char} :
    dropStart? start text = some rest ↔ text = start ++ rest := by
  induction start generalizing text with
  | nil => simp [dropStart?]
  | cons c start induction =>
      cases text with
      | nil => simp [dropStart?]
      | cons d text =>
          rw [dropStart?, List.cons_append, List.cons.injEq]
          split
          · rename_i same
            rw [induction, and_iff_right same.symm]
          · rename_i different
            exact ⟨nofun, fun whole => absurd whole.1.symm different⟩

theorem index?_eq_some_iff {scope : String} {text : List Char}
    {number : Nat} :
    index? scope text = some number ↔
      ∃ inner, text = scope.toList ++ '[' :: (inner ++ [']']) ∧
        Text.nat? 10 UInt64.size (Text.trim inner) = some number := by
  rw [index?, Option.bind_eq_bind, Option.bind_eq_some_iff]
  constructor
  · rintro ⟨behind, dropped, read⟩
    rw [dropStart?_eq_some_iff] at dropped
    split at read
    · rename_i digits turned
      refine ⟨digits.reverse, ?_, read⟩
      rw [dropped, ← @List.reverse_reverse _ behind, turned,
        List.reverse_cons, List.append_assoc, List.singleton_append]
    · cases read
  · rintro ⟨inner, rfl, read⟩
    refine ⟨inner ++ [']'], dropStart?_eq_some_iff.mpr (by simp), ?_⟩
    rw [List.reverse_append]
    simp only [List.reverse_singleton, List.singleton_append,
      List.reverse_reverse]
    exact read

end Adapter

namespace Scope

section

variable {scope : Scope} {number : Nat} {text : List Char}

private theorem head?_name (inner : List Char) :
    (scope.name.toList ++ inner).head? = some 's' := by
  cases scope <;> rfl

/-- What is read as an expression with a number. -/
theorem selects_iff :
    scope.Selects number text ↔
      Adapter.index? scope.name (Text.trim text) = some number := by
  rw [Adapter.index?_eq_some_iff]
  constructor
  · rintro ⟨leading, numeral, representable, trailing⟩
    rename_i before inner after
    refine ⟨inner, ?_,
      Text.nat?_eq_some_iff.mpr ⟨numeral, representable⟩⟩
    apply Text.trim_append leading _ _ trailing
    · intro c first
      rw [head?_name] at first
      cases first
      decide
    · intro c last
      have bracket : (scope.name.toList ++ '[' :: (inner ++ [']'])).getLast? =
          some ']' := by
        rw [← List.cons_append, ← List.append_assoc, List.getLast?_concat]
      rw [bracket] at last
      cases last
      decide
  · rintro ⟨inner, trimmed, read⟩
    obtain ⟨numeral, representable⟩ := Text.nat?_eq_some_iff.mp read
    obtain ⟨before, after, whole, leading, trailing⟩ :=
      Text.exists_blanks_around_trim text
    rw [whole, trimmed]
    exact .intro leading numeral representable trailing

/-- A variable is asked for by its expression. -/
private theorem selects_expression (representable : number < UInt64.size)
    (value : AvmValue) :
    scope.Selects number
      (Adapter.scopeVariable scope.name (toString number)
        value).expression.toList := by
  have free : ∀ c ∈ Nat.toDigits 10 number, Text.isBlank c = false :=
    fun _ digit => Text.isBlank_of_isDigit (Text.isDigit_of_mem_toDigits digit)
  have trimmed : Text.trim (Nat.toDigits 10 number) =
      Nat.toDigits 10 number :=
    @Text.trim_append_of_free [] _ nofun free
  have written : (Adapter.scopeVariable scope.name (toString number)
        value).expression.toList =
      [] ++ (scope.name.toList ++
        '[' :: (Nat.toDigits 10 number ++ [']'])) ++ [] := by
    simp [Adapter.scopeVariable]
  rw [written]
  refine .intro nofun ?_ representable nofun
  rw [trimmed]
  exact Text.numeral_toDigits number

end

end Scope

/-! ## Variables -/

namespace Adapter

section

variable {adapter : Adapter} {replay : Replay} {scope : Scope}

private theorem stackVariables_eq (index : Nat) (values : List AvmValue) :
    stackVariables index values =
      (values.zipIdx index).map fun entry =>
        scopeVariable "stack" (toString entry.2) entry.1 := by
  induction values generalizing index with
  | nil => rfl
  | cons value values induction =>
      rw [stackVariables, induction, List.zipIdx_cons, List.map_cons]

private theorem scopeVariables_eq (launched : adapter.replay = some replay) :
    adapter.scopeVariables scope.reference =
      (scope.contents replay).map fun entry =>
        scopeVariable scope.name (toString entry.2) entry.1 := by
  rw [scopeVariables, launched]
  cases scope with
  | stack => exact stackVariables_eq 0 replay.stack
  | scratch =>
      rw [Scope.contents, List.map_map]
      rfl

theorem evaluate_of_selects (launched : adapter.replay = some replay)
    {expression : String} {number : Nat}
    (selects : scope.Selects number expression.toList) :
    adapter.evaluate expression =
      (scope.value? replay number).elim
        (.error (.evaluation (.notSet
          (String.ofList (Text.trim expression.toList)))))
        fun value => .ok (value.display, value.typeName) := by
  have read := Scope.selects_iff.mp selects
  obtain ⟨inner, trimmed, -⟩ := index?_eq_some_iff.mp read
  have other : String.ofList (Text.trim expression.toList) ≠ "pc" := by
    intro same
    have first := congrArg (fun text => text.toList.head?) same
    simp only [String.toList_ofList, trimmed, Scope.head?_name] at first
    cases first
  rw [evaluate, launched]
  simp only [if_neg other]
  cases scope with
  | stack =>
      have stack : index? "stack" (Text.trim expression.toList) =
        some number := read
      simp only [stack, Scope.value?]
      cases replay.stack[number]? <;> rfl
  | scratch =>
      have stack : index? "stack" (Text.trim expression.toList) = none := by
        rw [trimmed]
        rfl
      have scratch : index? "scratch" (Text.trim expression.toList) =
        some number := read
      simp only [stack, scratch, Scope.value?]
      cases replay.scratch.get? (UInt64.ofNat number) <;> rfl

theorem selects_of_evaluate {expression : String} {shown : String × String}
    (accepted : adapter.evaluate expression = .ok shown) :
    String.ofList (Text.trim expression.toList) = "pc" ∨
      ∃ scope number, Scope.Selects scope number expression.toList := by
  cases launched : adapter.replay with
  | none =>
      rw [evaluate, launched] at accepted
      cases accepted
  | some replay =>
      by_cases counter :
          String.ofList (Text.trim expression.toList) = "pc"
      · exact .inl counter
      · refine .inr ?_
        cases stack : index? "stack" (Text.trim expression.toList) with
        | some number => exact ⟨.stack, number, Scope.selects_iff.mpr stack⟩
        | none =>
            cases scratch : index? "scratch"
                (Text.trim expression.toList) with
            | some number =>
                exact ⟨.scratch, number, Scope.selects_iff.mpr scratch⟩
            | none =>
                rw [evaluate, launched] at accepted
                simp only [if_neg counter, stack, scratch] at accepted
                cases accepted

end

/-- Carries out an evaluation, with this value and this type. -/
def Evaluates (adapter : Adapter) (environment : Environment)
    (expression value type : String) : Prop :=
  (adapter.execute environment (.evaluate expression)).result =
    .ok { body := .evaluated value type, events := [] }

theorem evaluates_iff {adapter : Adapter} {environment : Environment}
    {expression value type : String} :
    adapter.Evaluates environment expression value type ↔
      adapter.evaluate expression = .ok (value, type) := by
  rw [Evaluates, execute_evaluate]
  cases adapter.evaluate expression with
  | error cause => exact ⟨nofun, nofun⟩
  | ok shown =>
      constructor
      · intro same
        cases same
        rfl
      · intro same
        cases same
        rfl

end Adapter

/-! ## Agreement -/

/-- The variables of a scope and its expressions show the same values. -/
structure Scope.Agrees (scope : Scope) (adapter : Adapter)
    (environment : Environment) (content : List Variable) : Prop where
  listed : (adapter.execute environment (.inspect scope.reference)).result =
    .ok { body := .scope content, events := [] }
  evaluated : ∀ shown ∈ content, adapter.Evaluates environment
    shown.expression shown.value shown.type
  selected : ∀ expression number, scope.Selects number expression.toList →
    ∀ shown ∈ content, shown.name = toString number →
    adapter.Evaluates environment expression shown.value shown.type
  unset : ∀ expression number, scope.Selects number expression.toList →
    (∀ shown ∈ content, shown.name ≠ toString number) →
    (adapter.execute environment (.evaluate expression)).result =
      .error (.evaluation (.notSet
        (String.ofList (Text.trim expression.toList))))
  numbered : ∃ numbers : List Nat,
    content.map Variable.name = numbers.map toString ∧
      numbers.Pairwise (· < ·) ∧
      (scope = .stack → numbers = List.range numbers.length)

section

variable {adapter : Adapter} {environment : Environment} {replay : Replay}
  {scope : Scope}

private theorem toString_injective {number other : Nat}
    (same : toString number = toString other) : number = other := by
  apply Text.toDigits_injective
  rw [← Nat.toList_repr, ← Nat.toList_repr]
  exact congrArg String.toList same

theorem Scope.evaluates_of_mem {expression : String} {number : Nat}
    {value : AvmValue} (launched : adapter.replay = some replay)
    (increasing : replay.scratch.Increasing)
    (member : (value, number) ∈ scope.contents replay)
    (selects : scope.Selects number expression.toList) :
    adapter.Evaluates environment expression value.display
      value.typeName := by
  have representable := selects.representable
  have found := (mem_contents_iff increasing representable).mp member
  rw [Adapter.evaluates_iff, Adapter.evaluate_of_selects launched selects,
    found]
  rfl

theorem Scope.agrees (launched : adapter.replay = some replay)
    (increasing : replay.scratch.Increasing)
    (fits : replay.stack.length ≤ UInt64.size) :
    scope.Agrees adapter environment
      (adapter.scopeVariables scope.reference) := by
  have listed := @Adapter.scopeVariables_eq adapter replay scope launched
  constructor
  · rfl
  · intro shown member
    rw [listed] at member
    obtain ⟨⟨value, number⟩, held, rfl⟩ := List.mem_map.mp member
    exact evaluates_of_mem launched increasing held
      (selects_expression (representable_of_mem fits held) value)
  · intro expression number selects shown member named
    rw [listed] at member
    obtain ⟨⟨value, other⟩, held, rfl⟩ := List.mem_map.mp member
    cases toString_injective named
    exact evaluates_of_mem launched increasing held selects
  · intro expression number selects unnamed
    have representable := selects.representable
    have nothing : scope.value? replay number = none := by
      rw [Option.eq_none_iff_forall_ne_some]
      intro value found
      have held := (mem_contents_iff increasing representable).mpr found
      apply unnamed (Adapter.scopeVariable scope.name (toString number) value)
      · rw [listed]
        exact List.mem_map.mpr ⟨_, held, rfl⟩
      · rfl
    rw [Adapter.execute_evaluate,
      Adapter.evaluate_of_selects launched selects, nothing]
    rfl
  · refine ⟨(scope.contents replay).map Prod.snd, ?_,
      increasing_numbers increasing, ?_⟩
    · rw [listed, List.map_map, List.map_map]
      rfl
    · rintro rfl
      rw [numbers_stack, List.length_range]

end

/-- Behind every history, the variables of a scope and its expressions agree,
as long as the positions of the stack are machine integers.  Nothing else is
evaluated, apart from the program counter. -/
theorem evaluation_agrees_with_variables (session : Session)
    (history : List Turn) (adapter : Adapter) (replay : Replay)
    (environment : Environment)
    (behind : adapter = session.adapter.after history)
    (launched : adapter.replay = some replay)
    (fits : replay.stack.length ≤ UInt64.size) :
    (∀ scope : Scope, scope.Agrees adapter environment
        (adapter.scopeVariables scope.reference)) ∧
      ∀ expression value type,
        adapter.Evaluates environment expression value type →
        String.ofList (Text.trim expression.toList) = "pc" ∨
          ∃ scope number, Scope.Selects scope number expression.toList := by
  have sound : adapter.Sound := by
    rw [behind]
    exact (Adapter.sound_session session).after history
  obtain ⟨segments, reflects⟩ := sound replay launched
  constructor
  · intro scope
    exact Scope.agrees launched reflects.increasing fits
  · intro expression value type evaluates
    exact Adapter.selects_of_evaluate (Adapter.evaluates_iff.mp evaluates)

/-- An opcode that pushes a number and fills the last slot, and another one
behind it. -/
def storingRun : Simulation :=
  { version := 0
    lastRound := 0
    groups :=
      [⟨[⟨some (.node []
          [⟨1, 0, [.ofUint 7], [⟨18446744073709551615, .ofUint 8⟩]⟩,
            ⟨3, 0, [], []⟩] [] [])⟩], none, none⟩] }

def storingSession : Session :=
  { Session.empty with recorded := some storingRun }

/-- Behind its first opcode. -/
def storingAdapter : Adapter :=
  storingSession.adapter.after
    ([Command.launch (.obj []), .next].map (Turn.mk recordedEnvironment))

theorem evaluation_agrees_with_variables_storing :
    ∃ replay, storingAdapter.replay = some replay ∧
      replay.stack.length ≤ UInt64.size ∧
      storingAdapter.Evaluates recordedEnvironment " stack[ +0 ] " "7"
        "uint64" ∧
      storingAdapter.Evaluates recordedEnvironment
        "scratch[18446744073709551615]" "8" "uint64" := by
  have stack : storingAdapter.replay.map Replay.stack = some [.ofUint 7] := by
    decide +kernel
  obtain ⟨replay, launched, held⟩ := Option.map_eq_some_iff.mp stack
  have fits : replay.stack.length ≤ UInt64.size := by
    rw [held]
    decide
  obtain ⟨agrees, -⟩ := evaluation_agrees_with_variables storingSession _
    storingAdapter replay recordedEnvironment rfl launched fits
  refine ⟨replay, launched, fits, ?_, ?_⟩
  · exact (agrees .stack).selected " stack[ +0 ] " 0
      (Scope.selects_iff.mpr (by decide +kernel))
      ⟨"0", "7", "uint64", "stack[0]"⟩ (by decide +kernel) rfl
  · exact (agrees .scratch).evaluated
      ⟨"18446744073709551615", "8", "uint64",
        "scratch[18446744073709551615]"⟩ (by decide +kernel)

end TealTools.Debugger
