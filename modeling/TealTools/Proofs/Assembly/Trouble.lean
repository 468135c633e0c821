import TealTools.Proofs.Assembly.Faults

/-!
# Faults that labels have no part in

Reading a line compares no label with another one.  So whatever is wrong with
the text of a line is never reported as a disagreement between the definitions
and the uses of labels: only placing its label can find one, and resolving its
targets.
-/

namespace TealTools.Assembly

/-- The ways in which the definitions and the uses of labels disagree. -/
inductive Trouble where
  | undefined
  | tooFar
  | duplicate
  deriving DecidableEq, Repr

/-- The trouble that a cause reports. -/
def Fault.trouble? : Fault → Option Trouble
  | undefinedLabel _ => some .undefined
  | branchTooFar _ => some .tooFar
  | duplicateLabel _ => some .duplicate
  | _ => none

/-- A reading that does not compare labels with one another. -/
def Untroubled {α : Type} (reading : Reading α) : Prop :=
  ∀ fault, reading = .error fault → fault.value.trouble? = none

section

variable {α β : Type}

theorem untroubled_ok (value : α) : Untroubled (.ok value) := nofun

theorem untroubled_error {fault : At Fault}
    (none : fault.value.trouble? = none) :
    Untroubled (.error fault : Reading α) := by
  intro other same
  cases same
  exact none

theorem Untroubled.bind {reading : Reading α} {next : α → Reading β}
    (first : Untroubled reading) (then_ : ∀ value, Untroubled (next value)) :
    Untroubled (reading >>= next) := by
  intro fault failed
  rcases bind_eq_error failed with early | ⟨value, _, late⟩
  · exact first fault early
  · exact then_ value fault late

private theorem untroubled_mapM {read : Token → Reading α}
    (each : ∀ token, Untroubled (read token)) (tokens : List Token) :
    Untroubled (tokens.mapM read) := by
  induction tokens with
  | nil => exact untroubled_ok []
  | cons token tokens induction =>
      rw [List.mapM_cons]
      exact (each token).bind fun value =>
        induction.bind fun more => untroubled_ok (value :: more)

private theorem untroubled_located {column : Nat} {result : Except Fault α}
    (none : ∀ cause, result = .error cause → cause.trouble? = none) :
    Untroubled (located column result) := by
  intro fault failed
  exact none _ (located_eq_error failed).2

end

section

variable {missing : At Fault}

theorem untroubled_readUint (token : Token) : Untroubled (readUint token) := by
  unfold readUint
  split
  · exact untroubled_ok _
  · exact untroubled_error rfl

theorem untroubled_readU8 (token : Token) : Untroubled (readU8 token) := by
  refine (untroubled_readUint token).bind fun value => ?_
  split
  · exact untroubled_ok _
  · exact untroubled_error rfl

theorem untroubled_readI8 (token : Token) : Untroubled (readI8 token) := by
  unfold readI8
  split
  · exact untroubled_error rfl
  · split
    · exact untroubled_ok _
    · exact untroubled_error rfl

theorem untroubled_readField (group : FieldGroup) (token : Token) :
    Untroubled (readField group token) := by
  unfold readField
  split
  · exact untroubled_ok _
  · exact untroubled_error rfl

theorem untroubled_readLabel (token : Token) :
    Untroubled (readLabel token) := by
  unfold readLabel
  split
  · exact untroubled_ok _
  · exact untroubled_error rfl

theorem untroubled_readAddress (token : Token) :
    Untroubled (readAddress token) := by
  unfold readAddress
  split
  · exact untroubled_ok _
  · exact untroubled_error rfl

theorem untroubled_readMethod (token : Token) :
    Untroubled (readMethod token) := by
  unfold readMethod
  split
  · exact untroubled_ok _
  · exact untroubled_error rfl

theorem untroubled_readToken (none : missing.value.trouble? = none)
    (tokens : List Token) : Untroubled (readToken missing tokens) := by
  cases tokens with
  | nil => exact untroubled_error none
  | cons token rest => exact untroubled_ok _

theorem untroubled_finished {α : Type} (none : missing.value.trouble? = none)
    (result : α × List Token) : Untroubled (finished missing result) := by
  intro fault failed
  rw [finished_eq_error failed]
  exact none

theorem trouble?_decodeNamed {encoding payload : String} {cause : Fault}
    (failed : decodeNamed encoding payload = .error cause) :
    cause.trouble? = none := by
  rcases decodeNamed_eq_error failed with ⟨rfl, _⟩ | rfl <;> rfl

theorem trouble?_constantForm {token : Token} {cause : Fault}
    (failed : constantForm token = .error cause) : cause.trouble? = none := by
  unfold constantForm at failed
  split at failed
  · cases failed
  · split at failed
    · split at failed
      · cases failed
      · cases failed
        rfl
    · split at failed
      · rename_i encoding payload _
        cases decoded : decodeNamed encoding payload with
        | ok bytes =>
            rw [decoded] at failed
            cases failed
        | error first =>
            rw [decoded] at failed
            cases failed
            exact trouble?_decodeNamed decoded
      · split at failed
        · cases failed
        · cases failed
          rfl

theorem untroubled_readConstant (none : missing.value.trouble? = none)
    (tokens : List Token) : Untroubled (readConstant missing tokens) := by
  cases tokens with
  | nil => exact untroubled_error none
  | cons token rest =>
      refine Untroubled.bind
        (untroubled_located fun _ => trouble?_constantForm) fun form => ?_
      cases form with
      | complete bytes => exact untroubled_ok _
      | encoded encoding =>
          cases rest with
          | nil => exact untroubled_error none
          | cons payload rest =>
              exact (untroubled_located fun _ => trouble?_decodeNamed).bind
                fun bytes => untroubled_ok _

theorem untroubled_readConstants (none : missing.value.trouble? = none)
    (tokens : List Token) : Untroubled (readConstants missing tokens) := by
  fun_induction readConstants missing tokens with
  | case1 => exact untroubled_ok []
  | case2 token rest fault read =>
      exact untroubled_error (untroubled_readConstant none _ fault read)
  | case3 token rest bytes behind read induction =>
      exact induction.bind fun more => untroubled_ok _

/-- Reads an immediate that takes one token. -/
theorem untroubled_readToken_then {α : Type} {read : Token → Reading α}
    (operand : α → Operand (At String))
    (none : missing.value.trouble? = none)
    (each : ∀ token, Untroubled (read token)) (tokens : List Token) :
    Untroubled (do
      let (token, rest) ← readToken missing tokens
      return (operand (← read token), rest)) :=
  (untroubled_readToken none tokens).bind fun found =>
    (each found.1).bind fun value => untroubled_ok (operand value, found.2)

theorem untroubled_readOperand (operation : At String)
    (none : missing.value.trouble? = none) (kind : ImmediateKind)
    (tokens : List Token) :
    Untroubled (readOperand operation missing kind tokens) := by
  cases kind with
  | u8 => exact untroubled_readToken_then .byte none untroubled_readU8 tokens
  | i8 => exact untroubled_readToken_then .byte none untroubled_readI8 tokens
  | field group =>
      exact untroubled_readToken_then .byte none (untroubled_readField group)
        tokens
  | varuint =>
      exact untroubled_readToken_then .int none untroubled_readUint tokens
  | label =>
      exact untroubled_readToken_then .branch none untroubled_readLabel tokens
  | bytes =>
      exact (untroubled_readConstant none tokens).bind fun read =>
        untroubled_ok _
  | labels =>
      simp only [readOperand]
      split
      · exact (untroubled_mapM untroubled_readLabel tokens).bind fun targets =>
          untroubled_ok _
      · exact untroubled_error rfl
  | intBlock =>
      exact (untroubled_mapM untroubled_readUint tokens).bind fun values =>
        untroubled_ok _
  | byteBlock =>
      exact (untroubled_readConstants none tokens).bind fun values =>
        untroubled_ok _

theorem untroubled_readOperands (operation : At String)
    (none : missing.value.trouble? = none) (kinds : List ImmediateKind)
    (tokens : List Token) :
    Untroubled (readOperands operation missing kinds tokens) := by
  induction kinds generalizing tokens with
  | nil => exact untroubled_ok _
  | cons kind kinds induction =>
      exact (untroubled_readOperand operation none kind tokens).bind
        fun first => (induction first.2).bind fun more =>
          untroubled_ok (first.1 :: more.1, more.2)

end

theorem untroubled_readSingle (operation : At String) (tokens : List Token) :
    Untroubled (readSingle operation tokens) :=
  (untroubled_readToken rfl tokens).bind (untroubled_finished rfl)

theorem untroubled_readOpcode (opcode : Opcode) (operation : At String)
    (tokens : List Token) :
    Untroubled (readOpcode opcode operation tokens) :=
  (untroubled_readOperands operation rfl opcode.immediates tokens).bind
    fun read => (untroubled_finished rfl read).bind fun _ => untroubled_ok _

theorem untroubled_readInstruction (operation : At String)
    (tokens : List Token) :
    Untroubled (readInstruction operation tokens) := by
  unfold readInstruction
  split
  · exact (untroubled_readSingle operation tokens).bind fun token =>
      (untroubled_readUint token).bind fun value => untroubled_ok _
  · exact (untroubled_readConstant rfl tokens).bind fun read =>
      (untroubled_finished rfl read).bind fun bytes => untroubled_ok _
  · exact (untroubled_readSingle operation tokens).bind fun token =>
      (untroubled_readAddress token).bind fun key => untroubled_ok _
  · exact (untroubled_readSingle operation tokens).bind fun token =>
      (untroubled_readMethod token).bind fun selector => untroubled_ok _
  · split
    · exact untroubled_readOpcode _ operation tokens
    · exact untroubled_error rfl

theorem untroubled_readDirective (directive : At String)
    (tokens : List Token) : Untroubled (readDirective directive tokens) := by
  unfold readDirective
  simp only
  split
  · exact untroubled_error rfl
  · split
    · split
      · exact untroubled_error rfl
      · split
        · split
          · exact untroubled_ok _
          · exact untroubled_error rfl
        · exact untroubled_error rfl
    · exact untroubled_error rfl

@[simp] private theorem trouble?_literalFault (rest : List Char) :
    (Token.literalFault rest).trouble? = none := by
  unfold Token.literalFault
  split <;> rfl

private theorem trouble?_of_step {column : Nat} {input : List Char}
    {fault : At Fault} (stuck : Token.step column input = .stuck fault) :
    fault.value.trouble? = none := by
  unfold Token.step at stuck
  generalize input.dropWhile Text.isSeparator = text at stuck
  cases text with
  | nil => cases stuck
  | cons c rest =>
      simp only [Token.stepAt] at stuck
      split at stuck
      · cases stuck
      · split at stuck
        · split at stuck
          · cases stuck
          · cases stuck
            exact trouble?_literalFault _
        · split at stuck <;> cases stuck

theorem untroubled_scan (line : List Char) :
    Untroubled (Token.scan line) := by
  suffices ∀ column input, Untroubled (Token.scanFrom column input) from
    this 1 line
  intro column input
  fun_induction Token.scanFrom column input with
  | case1 => exact untroubled_ok []
  | case2 column input fault stuck =>
      exact untroubled_error (trouble?_of_step stuck)
  | case3 column input token next rest found induction =>
      exact induction.bind fun tokens => untroubled_ok _

/-! ## Placing a line -/

private theorem trouble?_placeBody
    (site : Site) (line : Nat) (tokens : List Token)
    {fault : At Fault}
    (member : fault ∈ (site.placeBody line (readBody tokens)).2.faults) :
    fault.value.trouble? = none := by
  cases tokens with
  | nil => cases member
  | cons token tokens =>
      simp only [readBody] at member
      split at member
      · rw [List.mem_singleton.mp member]
        rfl
      · rename_i word _
        split at member
        · cases read : readDirective ⟨token.column, word⟩ tokens with
          | error cause =>
              rw [read] at member
              rw [List.mem_singleton.mp member]
              exact untroubled_readDirective _ tokens cause read
          | ok version =>
              rw [read] at member
              simp only [Site.placeBody] at member
              split at member
              · rw [List.mem_singleton.mp member]
                rfl
              · cases member
        · cases read : readInstruction ⟨token.column, word⟩ tokens with
          | error cause =>
              rw [read] at member
              rw [List.mem_singleton.mp member]
              exact untroubled_readInstruction _ tokens cause read
          | ok instruction =>
              rw [read] at member
              cases member

/-- Of the faults that placing a line finds, only its label is in trouble. -/
theorem filter_faults_place (trouble : Trouble) (site : Site) (line : Nat)
    (text : List Char) :
    (site.place line (readLine text)).2.faults.filter
        (fun fault => fault.value.trouble? = some trouble) =
      (site.placeLabel (label? (readLine text))).2.filter
        fun fault => fault.value.trouble? = some trouble := by
  unfold readLine
  cases scanned : Token.scan text with
  | error fault =>
      have none := untroubled_scan text fault scanned
      simp [Except.map, Site.place, label?, Site.placeLabel, none]
  | ok tokens =>
      obtain ⟨behind, body⟩ :
          ∃ behind, (readStatement tokens).body = readBody behind := by
        rcases readStatement_cases tokens with
          ⟨_, rest, _, _, _, statement⟩ | statement
        · exact ⟨rest, statement ▸ rfl⟩
        · exact ⟨tokens, statement ▸ rfl⟩
      simp only [Except.map, Site.place, label?, List.filter_append, body]
      rw [List.append_right_eq_self, List.filter_eq_nil_iff]
      intro fault member
      rw [trouble?_placeBody _ line behind member]
      simp

end TealTools.Assembly
