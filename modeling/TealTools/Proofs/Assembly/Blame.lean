import TealTools.Proofs.Assembly.Labels
import TealTools.Proofs.Assembly.Spelling

/-!
# The token that a fault is about

Every fault of a line stands at the column of one of its tokens, and its cause
says something about that very token.  The faults of one line blame different
tokens, in the order in which these stand.
-/

namespace TealTools.Assembly

/-- The cause is about this token. -/
def Fault.Concerns (token : Token) : Fault → Prop
  | unknownOpcode name => token.text = name
  | immediateCount operation _ => token.word? = some operation
  | invalidInteger text => token.text = text
  -- Either the number itself, or an operation with too many targets.
  | outOfRange value _ => ∃ number : Nat, value = number ∧
      (uint? token.text = some number ∨
        ∃ opcode, Opcode.ofName? token.text = some opcode ∧
          .labels ∈ opcode.immediates)
  | signedOutOfRange value _ _ =>
      Text.int? 10 Int64.minValue.toInt Int64.maxValue.toInt
        token.text.toList = some value
  | invalidByteConstant text => token.text = text ∨
      ∃ encoding, token.word? = some (encoding ++ "(" ++ text ++ ")")
  | unsupportedEncoding name =>
      ∃ payload, token.word? = some (name ++ "(" ++ payload ++ ")")
  | invalidAddress text => token.text = text
  | invalidField text => token.text = text
  | unterminatedString => False
  | undefinedLabel name => token.word? = some name
  | duplicateLabel name => token.word? = some (name ++ ":")
  | invalidLabel name =>
      token.word? = some (name ++ ":") ∨ token.text = name
  | unsupportedVersion text => token.text = text
  | pragmaAfterInstructions => token.word? = some "#pragma"
  | unknownPragma text =>
      ∃ more, text = " ".intercalate (token.text :: more)
  | branchTooFar name => token.word? = some name

/-- The fault stands at the token that it is about. -/
def Blames (fault : At Fault) (token : Token) : Prop :=
  fault.column = token.column ∧ fault.value.Concerns token

/-- The fault is about one of the tokens. -/
def BlamesOneOf (tokens : List Token) (fault : At Fault) : Prop :=
  ∃ token ∈ tokens, Blames fault token

theorem BlamesOneOf.mono {tokens more : List Token} {fault : At Fault}
    (subset : tokens ⊆ more) (blames : BlamesOneOf tokens fault) :
    BlamesOneOf more fault := by
  obtain ⟨token, member, own⟩ := blames
  exact ⟨token, subset member, own⟩

/-! ## Readings -/

theorem bind_eq_error {α β : Type} {reading : Reading α}
    {next : α → Reading β} {fault : At Fault}
    (failed : (reading >>= next) = .error fault) :
    reading = .error fault ∨
      ∃ value, reading = .ok value ∧ next value = .error fault := by
  cases reading with
  | ok value => exact .inr ⟨value, rfl, failed⟩
  | error first =>
      cases failed
      exact .inl rfl

theorem located_eq_error {α : Type} {column : Nat} {result : Except Fault α}
    {fault : At Fault} (failed : located column result = .error fault) :
    fault.column = column ∧ result = .error fault.value := by
  cases result with
  | ok value => cases failed
  | error cause =>
      cases failed
      exact ⟨rfl, rfl⟩

private theorem mapM_eq_error {α : Type} {read : Token → Reading α}
    {tokens : List Token} {fault : At Fault}
    (blames : ∀ token, read token = .error fault → Blames fault token)
    (failed : tokens.mapM read = .error fault) :
    BlamesOneOf tokens fault := by
  induction tokens with
  | nil => cases failed
  | cons token tokens induction =>
      rw [List.mapM_cons] at failed
      rcases bind_eq_error failed with first | ⟨value, _, failed⟩
      · exact ⟨token, List.mem_cons_self, blames token first⟩
      · rcases bind_eq_error failed with later | ⟨more, _, failed⟩
        · exact (induction later).mono (List.subset_cons_self token tokens)
        · cases failed

theorem readUint_eq_error {token : Token} {fault : At Fault}
    (failed : readUint token = .error fault) : Blames fault token := by
  unfold readUint at failed
  split at failed
  · cases failed
  · cases failed
    exact ⟨rfl, rfl⟩

theorem readU8_eq_error {token : Token} {fault : At Fault}
    (failed : readU8 token = .error fault) : Blames fault token := by
  rcases bind_eq_error failed with number | ⟨value, number, failed⟩
  · exact readUint_eq_error number
  · split at failed
    · cases failed
    · cases failed
      exact ⟨rfl, value, rfl, .inl (readUint_eq_ok number)⟩

theorem readI8_eq_error {token : Token} {fault : At Fault}
    (failed : readI8 token = .error fault) : Blames fault token := by
  unfold readI8 at failed
  split at failed
  · cases failed
    exact ⟨rfl, rfl⟩
  · rename_i value number
    split at failed
    · cases failed
    · cases failed
      exact ⟨rfl, number⟩

theorem readField_eq_error {group : FieldGroup} {token : Token}
    {fault : At Fault} (failed : readField group token = .error fault) :
    Blames fault token := by
  unfold readField at failed
  split at failed
  · cases failed
  · cases failed
    exact ⟨rfl, rfl⟩

theorem readLabel_eq_error {token : Token} {fault : At Fault}
    (failed : readLabel token = .error fault) : Blames fault token := by
  unfold readLabel at failed
  split at failed
  · cases failed
  · cases failed
    exact ⟨rfl, .inr rfl⟩

theorem readAddress_eq_error {token : Token} {fault : At Fault}
    (failed : readAddress token = .error fault) : Blames fault token := by
  unfold readAddress at failed
  split at failed
  · cases failed
  · cases failed
    exact ⟨rfl, rfl⟩

private theorem text_eq_of_kind {token : Token} {word : String}
    (kind : token.kind = .word word) : token.text = word := by
  rw [Token.text, kind]

theorem word?_eq_of_kind {token : Token} {word : String}
    (kind : token.kind = .word word) : token.word? = some word := by
  rw [Token.word?, kind]

theorem readMethod_eq_error {token : Token} {fault : At Fault}
    (failed : readMethod token = .error fault) : Blames fault token := by
  unfold readMethod at failed
  split at failed
  · cases failed
  · rename_i word kind
    cases failed
    exact ⟨rfl, .inl (text_eq_of_kind kind)⟩

theorem readToken_eq_error {missing fault : At Fault} {tokens : List Token}
    (failed : readToken missing tokens = .error fault) : fault = missing := by
  cases tokens with
  | nil =>
      cases failed
      rfl
  | cons token tokens => cases failed

theorem finished_eq_error {α : Type} {surplus fault : At Fault}
    {result : α × List Token}
    (failed : finished surplus result = .error fault) : fault = surplus := by
  obtain ⟨value, rest⟩ := result
  cases rest with
  | nil => cases failed
  | cons token rest =>
      cases failed
      rfl

/-! ## Byte constants -/

theorem decodeNamed_eq_error {encoding payload : String} {cause : Fault}
    (failed : decodeNamed encoding payload = .error cause) :
    (cause = .unsupportedEncoding encoding ∧ decoder? encoding = none) ∨
      cause = .invalidByteConstant payload := by
  unfold decodeNamed at failed
  split at failed
  · rename_i unknown
    cases failed
    exact .inl ⟨rfl, unknown⟩
  · split at failed
    · cases failed
    · cases failed
      exact .inr rfl

theorem constantForm_eq_error {token : Token} {cause : Fault}
    (failed : constantForm token = .error cause) : cause.Concerns token := by
  unfold constantForm at failed
  split at failed
  · cases failed
  · rename_i word kind
    split at failed
    · split at failed
      · cases failed
      · cases failed
        exact .inl (text_eq_of_kind kind)
    · split at failed
      · rename_i encoding payload split
        have spelled := bracketed?_eq_some split
        have given := word?_eq_of_kind kind
        rw [spelled] at given
        cases decoded : decodeNamed encoding payload with
        | ok bytes =>
            rw [decoded] at failed
            cases failed
        | error first =>
            rw [decoded] at failed
            cases failed
            rcases decodeNamed_eq_error decoded with ⟨rfl, _⟩ | rfl
            · exact ⟨payload, given⟩
            · exact .inr ⟨encoding, given⟩
      · split at failed
        · cases failed
        · cases failed
          exact .inl (text_eq_of_kind kind)

/-- The encodings that stand in a token of their own are known. -/
private theorem decoder?_of_encoded {token : Token} {encoding : String}
    (read : constantForm token = .ok (.encoded encoding)) :
    decoder? encoding ≠ none := by
  unfold constantForm at read
  split at read
  · cases read
  · split at read
    · split at read
      · cases read
      · cases read
    · split at read
      · rename_i encoding payload _
        cases decoded : decodeNamed encoding payload with
        | ok bytes =>
            rw [decoded] at read
            cases read
        | error cause =>
            rw [decoded] at read
            cases read
      · split at read
        · rename_i known
          cases read
          exact Option.isSome_iff_ne_none.mp known
        · cases read

theorem readConstant_eq_error {missing fault : At Fault} {tokens : List Token}
    (failed : readConstant missing tokens = .error fault) :
    fault = missing ∨ BlamesOneOf tokens fault := by
  cases tokens with
  | nil =>
      cases failed
      exact .inl rfl
  | cons token tokens =>
      rcases bind_eq_error failed with first | ⟨form, announced, failed⟩
      · obtain ⟨column, cause⟩ := located_eq_error first
        exact .inr ⟨token, List.mem_cons_self, column,
          constantForm_eq_error cause⟩
      · cases form with
        | complete bytes => cases failed
        | encoded encoding =>
            cases tokens with
            | nil =>
                cases failed
                exact .inl rfl
            | cons payload tokens =>
                rcases bind_eq_error failed with bad | ⟨bytes, _, failed⟩
                · obtain ⟨column, cause⟩ := located_eq_error bad
                  have known := decoder?_of_encoded
                    (located_eq_ok.mp announced)
                  refine .inr ⟨payload, by simp, column, ?_⟩
                  rcases decodeNamed_eq_error cause with
                    ⟨_, unknown⟩ | invalid
                  · exact (known unknown).elim
                  · rw [invalid]
                    exact .inl rfl
                · cases failed

theorem readConstants_eq_error {missing fault : At Fault}
    {tokens : List Token}
    (failed : readConstants missing tokens = .error fault) :
    fault = missing ∨ BlamesOneOf tokens fault := by
  fun_induction readConstants missing tokens with
  | case1 => cases failed
  | case2 token tokens first read =>
      cases failed
      exact readConstant_eq_error read
  | case3 token tokens bytes rest read induction =>
      rcases bind_eq_error failed with later | ⟨more, _, failed⟩
      · obtain ⟨front, split, _⟩ := readConstant_eq_ok read
        refine (induction later).imp_right fun blames => blames.mono ?_
        rw [split]
        exact List.subset_append_right front rest
      · cases failed

/-! ## Immediates -/

/-- The operation itself has too many or too few immediates, or too many
targets. -/
def BlamesOperation (operation : At String) (missing : At Fault)
    (kinds : List ImmediateKind) (fault : At Fault) : Prop :=
  fault = missing ∨
    (.labels ∈ kinds ∧
      ∃ count : Nat, fault = ⟨operation.column, .outOfRange count 255⟩)

/-- Reads an immediate that takes one token. -/
theorem readToken_then_eq_error {α : Type} {read : Token → Reading α}
    {missing fault : At Fault} {tokens : List Token}
    (operand : α → Operand (At String))
    (blames : ∀ token, read token = .error fault → Blames fault token)
    (failed : (do
      let (token, rest) ← readToken missing tokens
      return (operand (← read token), rest)) = .error fault) :
    fault = missing ∨ BlamesOneOf tokens fault := by
  rcases bind_eq_error failed with none | ⟨⟨token, rest⟩, first, failed⟩
  · exact .inl (readToken_eq_error none)
  · rcases bind_eq_error failed with bad | ⟨value, _, failed⟩
    · refine .inr ⟨token, ?_, blames token bad⟩
      rw [readToken_eq_ok first]
      exact List.mem_cons_self
    · cases failed

theorem readOperand_eq_error {operation : At String} {missing fault : At Fault}
    {kind : ImmediateKind} {tokens : List Token}
    (failed : readOperand operation missing kind tokens = .error fault) :
    BlamesOperation operation missing [kind] fault ∨
      BlamesOneOf tokens fault := by
  cases kind with
  | u8 =>
      exact (readToken_then_eq_error .byte (fun _ => readU8_eq_error)
        failed).imp_left .inl
  | i8 =>
      exact (readToken_then_eq_error .byte (fun _ => readI8_eq_error)
        failed).imp_left .inl
  | field group =>
      exact (readToken_then_eq_error .byte (fun _ => readField_eq_error)
        failed).imp_left .inl
  | varuint =>
      exact (readToken_then_eq_error .int (fun _ => readUint_eq_error)
        failed).imp_left .inl
  | label =>
      exact (readToken_then_eq_error .branch (fun _ => readLabel_eq_error)
        failed).imp_left .inl
  | bytes =>
      rcases bind_eq_error failed with bad | ⟨value, _, failed⟩
      · exact (readConstant_eq_error bad).imp_left .inl
      · cases failed
  | labels =>
      simp only [readOperand] at failed
      split at failed
      · rcases bind_eq_error failed with bad | ⟨value, _, failed⟩
        · exact .inr (mapM_eq_error (fun _ => readLabel_eq_error) bad)
        · cases failed
      · cases failed
        exact .inl (.inr ⟨List.mem_singleton.mpr rfl, tokens.length, rfl⟩)
  | intBlock =>
      rcases bind_eq_error failed with bad | ⟨value, _, failed⟩
      · exact .inr (mapM_eq_error (fun _ => readUint_eq_error) bad)
      · cases failed
  | byteBlock =>
      rcases bind_eq_error failed with bad | ⟨value, _, failed⟩
      · exact (readConstants_eq_error bad).imp_left .inl
      · cases failed

theorem BlamesOperation.mono {operation : At String} {missing fault : At Fault}
    {kinds more : List ImmediateKind} (subset : kinds ⊆ more)
    (blames : BlamesOperation operation missing kinds fault) :
    BlamesOperation operation missing more fault :=
  blames.imp_right fun many => ⟨subset many.1, many.2⟩

theorem readOperands_eq_error {operation : At String}
    {missing fault : At Fault} {kinds : List ImmediateKind}
    {tokens : List Token}
    (failed : readOperands operation missing kinds tokens = .error fault) :
    BlamesOperation operation missing kinds fault ∨
      BlamesOneOf tokens fault := by
  induction kinds generalizing tokens with
  | nil => cases failed
  | cons kind kinds induction =>
      rcases bind_eq_error failed with first | ⟨⟨operand, rest⟩, read, failed⟩
      · exact (readOperand_eq_error first).imp_left
          (.mono (List.cons_subset_cons kind (List.nil_subset kinds)))
      · rcases bind_eq_error failed with later | ⟨_, _, failed⟩
        · obtain ⟨front, rfl, _⟩ := readOperand_eq_ok read
          exact (induction later).imp
            (.mono (List.subset_cons_self kind kinds))
            (.mono (List.subset_append_right front rest))
        · cases failed

/-! ## Instructions -/

theorem readSingle_eq_error {operation : At String} {fault : At Fault}
    {tokens : List Token}
    (failed : readSingle operation tokens = .error fault) :
    fault = countFault operation 1 := by
  rcases bind_eq_error failed with none | ⟨result, _, failed⟩
  · exact readToken_eq_error none
  · exact finished_eq_error failed

section

variable {token : Token} {word : String} {fault : At Fault}
  {tokens : List Token}

private theorem blames_countFault
    (kind : token.kind = .word word) (expected : Nat) :
    Blames (countFault ⟨token.column, word⟩ expected) token :=
  ⟨rfl, word?_eq_of_kind kind⟩

theorem readOpcode_eq_error {opcode : Opcode} (kind : token.kind = .word word)
    (known : Opcode.ofName? word = some opcode)
    (failed : readOpcode opcode ⟨token.column, word⟩ tokens =
      .error fault) :
    BlamesOneOf (token :: tokens) fault := by
  have blamesCount : BlamesOneOf (token :: tokens)
      (countFault ⟨token.column, word⟩ opcode.immediates.length) :=
    ⟨token, List.mem_cons_self, blames_countFault kind _⟩
  rcases bind_eq_error failed with bad | ⟨result, _, failed⟩
  · rcases readOperands_eq_error bad with
      (rfl | ⟨labels, count, rfl⟩) | blames
    · exact blamesCount
    · refine ⟨token, List.mem_cons_self, rfl, count, rfl, .inr ?_⟩
      exact ⟨opcode, (text_eq_of_kind kind).symm ▸ known, labels⟩
    · exact blames.mono (List.subset_cons_self token tokens)
  · rcases bind_eq_error failed with surplus | ⟨operands, _, failed⟩
    · rw [finished_eq_error surplus]
      exact blamesCount
    · cases failed

/-- Reads the only immediate of an operation. -/
theorem readSingle_then_eq_error {α : Type} {read : Token → Reading α}
    (push : α → Instruction (At String)) (kind : token.kind = .word word)
    (blames : ∀ token, read token = .error fault → Blames fault token)
    (failed : (do
      return push (← read (← readSingle ⟨token.column, word⟩ tokens))) =
        .error fault) :
    BlamesOneOf (token :: tokens) fault := by
  rcases bind_eq_error failed with count | ⟨argument, single, failed⟩
  · rw [readSingle_eq_error count]
    exact ⟨token, List.mem_cons_self, blames_countFault kind 1⟩
  · rcases bind_eq_error failed with bad | ⟨value, _, failed⟩
    · refine ⟨argument, ?_, blames argument bad⟩
      rw [readSingle_eq_ok single]
      exact List.mem_cons_of_mem token List.mem_cons_self
    · cases failed

/-- An operation that is refused blames itself or one of its immediates. -/
theorem readInstruction_eq_error (kind : token.kind = .word word)
    (failed : readInstruction ⟨token.column, word⟩ tokens = .error fault) :
    BlamesOneOf (token :: tokens) fault := by
  unfold readInstruction at failed
  split at failed
  · exact readSingle_then_eq_error pushInt kind (fun _ => readUint_eq_error)
      failed
  · have blamesCount : BlamesOneOf (token :: tokens)
        (countFault ⟨token.column, word⟩ 1) :=
      ⟨token, List.mem_cons_self, blames_countFault kind 1⟩
    rcases bind_eq_error failed with bad | ⟨result, _, failed⟩
    · rcases readConstant_eq_error bad with rfl | blames
      · exact blamesCount
      · exact blames.mono (List.subset_cons_self token tokens)
    · rcases bind_eq_error failed with surplus | ⟨bytes, _, failed⟩
      · rw [finished_eq_error surplus]
        exact blamesCount
      · cases failed
  · exact readSingle_then_eq_error pushBytes kind
      (fun _ => readAddress_eq_error) failed
  · exact readSingle_then_eq_error pushBytes kind
      (fun _ => readMethod_eq_error) failed
  · split at failed
    · rename_i opcode known
      exact readOpcode_eq_error kind known failed
    · cases failed
      exact ⟨token, List.mem_cons_self, rfl, text_eq_of_kind kind⟩

/-- A directive that is refused blames itself or one of its words. -/
theorem readDirective_eq_error (kind : token.kind = .word word)
    (failed : readDirective ⟨token.column, word⟩ tokens = .error fault) :
    BlamesOneOf (token :: tokens) fault := by
  have blamesAll : BlamesOneOf (token :: tokens)
      ⟨token.column, .unknownPragma
        (" ".intercalate (word :: tokens.map Token.text))⟩ := by
    refine ⟨token, List.mem_cons_self, rfl, tokens.map Token.text, ?_⟩
    rw [text_eq_of_kind kind]
  unfold readDirective at failed
  simp only at failed
  split at failed
  · cases failed
    exact blamesAll
  · split at failed
    · rename_i kind value
      split at failed
      · cases failed
        exact ⟨kind, by simp, rfl, [], by simp⟩
      · have blamesValue : BlamesOneOf [token, kind, value]
            ⟨value.column, .unsupportedVersion value.text⟩ :=
          ⟨value, by simp, rfl, rfl⟩
        split at failed
        · split at failed
          · cases failed
          · cases failed
            exact blamesValue
        · cases failed
          exact blamesValue
    · cases failed
      exact blamesAll

end

end TealTools.Assembly
