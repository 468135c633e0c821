import Mathlib.Data.List.Forall2
import TealTools.Assembly.Operands

/-!
# What tokens spell

Declarative rules for the immediates of an operation.  Each kind of immediate
says which tokens spell which value, without the order in which they are read.
Every instruction that is read is spelled by its tokens.
-/

namespace TealTools.Assembly

/-! ## Rules -/

/-- The forms of a byte constant. -/
inductive SpellsBytes : List Token → Bytes → Prop where
  | literal {token : Token} {bytes : Bytes} :
      token.kind = .literal bytes → SpellsBytes [token] bytes
  | hexadecimal {token : Token} {digits : String} {bytes : Bytes} :
      token.word? = some ("0x" ++ digits) →
      Codec.Hex.decode? digits.toList = some bytes →
      SpellsBytes [token] bytes
  | bracketed {token : Token} {encoding payload : String}
      {decode : List Char → Option Bytes} {bytes : Bytes} :
      token.word? = some (encoding ++ "(" ++ payload ++ ")") →
      decoder? encoding = some decode →
      decode payload.toList = some bytes →
      SpellsBytes [token] bytes
  | separate {token payload : Token} {encoding : String}
      {decode : List Char → Option Bytes} {bytes : Bytes} :
      token.word? = some encoding →
      decoder? encoding = some decode →
      decode payload.text.toList = some bytes →
      SpellsBytes [token, payload] bytes

/-- Byte constants that follow one another. -/
inductive SpellsStrings : List Token → List Bytes → Prop where
  | nil : SpellsStrings [] []
  | cons {front back : List Token} {value : Bytes} {values : List Bytes} :
      SpellsBytes front value → SpellsStrings back values →
      SpellsStrings (front ++ back) (value :: values)

/-- A field is given by its place in its group or by its name. -/
def SpellsField (group : FieldGroup) (text : String) (place : Nat) : Prop :=
  (Text.nat? 10 UInt64.size text.toList = some place ∧
      place < group.names.length) ∨
    group.names[place]? = some text

def SpellsTarget (token : Token) (target : At String) : Prop :=
  token.word? = some target.value ∧ token.column = target.column

/-- The tokens of one immediate and the value that they spell. -/
inductive Spells : ImmediateKind → List Token → Operand (At String) → Prop where
  | u8 {token : Token} {value : UInt8} :
      uint? token.text = some value.toNat → Spells .u8 [token] (.byte value)
  /-- The byte holds the number in two's complement. -/
  | i8 {token : Token} {value : UInt8} :
      Text.int? 10 Int64.minValue.toInt Int64.maxValue.toInt
        token.text.toList = some value.toInt8.toInt →
      Spells .i8 [token] (.byte value)
  | field {group : FieldGroup} {token : Token} {value : UInt8} :
      SpellsField group token.text value.toNat →
      Spells (.field group) [token] (.byte value)
  | varuint {token : Token} {value : Nat} :
      uint? token.text = some value → Spells .varuint [token] (.int value)
  | bytes {tokens : List Token} {value : Bytes} :
      SpellsBytes tokens value → Spells .bytes tokens (.bytes value)
  | label {token : Token} {target : At String} :
      SpellsTarget token target → Spells .label [token] (.branch target)
  | labels {tokens : List Token} {targets : List (At String)} :
      tokens.length ≤ 255 → List.Forall₂ SpellsTarget tokens targets →
      Spells .labels tokens (.branches targets)
  | intBlock {tokens : List Token} {values : List Nat} :
      List.Forall₂ (fun token value => uint? token.text = some value)
        tokens values →
      Spells .intBlock tokens (.ints values)
  | byteBlock {tokens : List Token} {values : List Bytes} :
      SpellsStrings tokens values → Spells .byteBlock tokens (.strings values)

/-- The tokens of all immediates of an operation. -/
inductive SpellsAll :
    List ImmediateKind → List Token → List (Operand (At String)) → Prop where
  | nil : SpellsAll [] [] []
  | cons {kind : ImmediateKind} {kinds : List ImmediateKind}
      {front back : List Token} {operand : Operand (At String)}
      {operands : List (Operand (At String))} :
      Spells kind front operand → SpellsAll kinds back operands →
      SpellsAll (kind :: kinds) (front ++ back) (operand :: operands)

/-- The instruction that an operation and its tokens spell. -/
inductive SpellsInstruction :
    String → List Token → Instruction (At String) → Prop where
  | opcode {opcode : Opcode} {tokens : List Token}
      {operands : List (Operand (At String))} :
      opcode ∈ Opcode.all → SpellsAll opcode.immediates tokens operands →
      SpellsInstruction opcode.name tokens ⟨opcode.code, operands⟩
  | int {token : Token} {value : Nat} :
      uint? token.text = some value →
      SpellsInstruction "int" [token] (pushInt value)
  | byte {tokens : List Token} {value : Bytes} :
      SpellsBytes tokens value →
      SpellsInstruction "byte" tokens (pushBytes value)
  | address {token : Token} {publicKey : Bytes} :
      decodeAddress? token.text.toList = some publicKey →
      SpellsInstruction "addr" [token] (pushBytes publicKey)
  | method {token : Token} {signature : Bytes} :
      token.kind = .literal signature →
      SpellsInstruction "method" [token]
        (pushBytes (methodSelector signature))

/-- The tokens of a line that stand behind its label, if it has one. -/
inductive BehindLabel : List Token → List Token → Prop where
  | labelled {token : Token} {tokens : List Token} {name : String} :
      token.word? = some (name ++ ":") → BehindLabel (token :: tokens) tokens
  | plain {token : Token} {tokens : List Token} :
      (∀ name, token.word? ≠ some (name ++ ":")) →
      BehindLabel (token :: tokens) (token :: tokens)

/-- The name of the operation on a line, and the instruction that it spells. -/
inductive LineSpells (text : List Char) (name : String)
    (instruction : Instruction (At String)) : Prop where
  | mk {operation : Token} {tokens arguments : List Token} :
      Token.scan text = .ok tokens →
      BehindLabel tokens (operation :: arguments) →
      operation.word? = some name →
      SpellsInstruction name arguments instruction →
      LineSpells text name instruction

/-! ## Readings -/

theorem bind_eq_ok {α β : Type} {reading : Reading α}
    {next : α → Reading β} {result : β} :
    (reading >>= next) = .ok result ↔
      ∃ value, reading = .ok value ∧ next value = .ok result := by
  cases reading with
  | ok value => simp [bind, Except.bind]
  | error fault => simp [bind, Except.bind]

@[simp] theorem located_eq_ok
    {α : Type} {column : Nat} {result : Except Fault α}
    {value : α} : located column result = .ok value ↔ result = .ok value := by
  cases result <;> simp [located, Except.mapError]

private theorem mapM_eq_ok {α : Type} {read : Token → Reading α}
    {tokens : List Token} {values : List α}
    (done : tokens.mapM read = .ok values) :
    List.Forall₂ (fun token value => read token = .ok value)
      tokens values := by
  induction tokens generalizing values with
  | nil =>
      cases done
      exact .nil
  | cons token tokens induction =>
      rw [List.mapM_cons] at done
      obtain ⟨value, first, done⟩ := bind_eq_ok.mp done
      obtain ⟨more, rest, done⟩ := bind_eq_ok.mp done
      cases done
      exact .cons first (induction rest)

theorem readUint_eq_ok {token : Token} {value : Nat}
    (read : readUint token = .ok value) : uint? token.text = some value := by
  unfold readUint at read
  split at read
  · rename_i number
    cases read
    exact number
  · cases read

theorem readU8_eq_ok {token : Token} {value : UInt8}
    (read : readU8 token = .ok value) :
    uint? token.text = some value.toNat := by
  obtain ⟨number, whole, read⟩ := bind_eq_ok.mp read
  split at read
  · rename_i small
    cases read
    rw [readUint_eq_ok whole, UInt8.toNat_ofNat']
    congr 1
    omega
  · cases read

private theorem toInt_toInt8_ofInt {value : Int} (low : -128 ≤ value)
    (high : value ≤ 127) : (UInt8.ofInt value).toInt8.toInt = value := by
  have number : (UInt8.ofInt value).toNat = (value % 256).toNat := by
    have bound : (value % 256).toNat < 256 := by omega
    exact Nat.mod_eq_of_lt bound
  have signed : (UInt8.ofInt value).toInt8.toInt =
      if 2 * (UInt8.ofInt value).toNat < 256 then
        ((UInt8.ofInt value).toNat : Int)
      else (UInt8.ofInt value).toNat - 256 :=
    BitVec.toInt_eq_toNat_cond (UInt8.ofInt value).toBitVec
  rw [signed, number]
  split <;> omega

theorem readI8_eq_ok {token : Token} {value : UInt8}
    (read : readI8 token = .ok value) :
    Text.int? 10 Int64.minValue.toInt Int64.maxValue.toInt
      token.text.toList = some value.toInt8.toInt := by
  unfold readI8 at read
  split at read
  · cases read
  · rename_i number whole
    split at read
    · rename_i bounds
      cases read
      rw [whole, toInt_toInt8_ofInt bounds.1 bounds.2]
    · cases read

/-- A place in a group fits into one byte. -/
private theorem length_names_le
    (group : FieldGroup) : group.names.length ≤ 256 := by
  cases group <;> decide

theorem readField_eq_ok {group : FieldGroup} {token : Token} {value : UInt8}
    (read : readField group token = .ok value) :
    SpellsField group token.text value.toNat := by
  have bound := length_names_le group
  unfold readField at read
  split at read
  · rename_i resolved
    cases read
    unfold FieldGroup.resolve? at resolved
    split at resolved
    · rename_i place number
      split at resolved
      · rename_i inside
        cases resolved
        left
        rw [UInt8.toNat_ofNat', Nat.mod_eq_of_lt (by omega)]
        exact ⟨number, inside⟩
      · cases resolved
    · obtain ⟨place, found, rfl⟩ := Option.map_eq_some_iff.mp resolved
      obtain ⟨inside, named, _⟩ := List.idxOf?_eq_some_iff.mp found
      right
      rw [UInt8.toNat_ofNat', Nat.mod_eq_of_lt (by omega),
        List.getElem?_eq_getElem inside, named]
  · cases read

theorem readLabel_eq_ok {token : Token} {target : At String}
    (read : readLabel token = .ok target) : SpellsTarget token target := by
  unfold readLabel at read
  split at read
  · rename_i name word
    cases read
    exact ⟨(Option.filter_eq_some_iff.mp word).1, rfl⟩
  · cases read

theorem readToken_eq_ok {missing : At Fault} {tokens rest : List Token}
    {token : Token} (read : readToken missing tokens = .ok (token, rest)) :
    tokens = token :: rest := by
  cases tokens with
  | nil => cases read
  | cons first tokens =>
      cases read
      rfl

/-! ## Byte constants -/

theorem decodeNamed_eq_ok {encoding payload : String} {bytes : Bytes}
    (decoded : decodeNamed encoding payload = .ok bytes) :
    ∃ decode, decoder? encoding = some decode ∧
      decode payload.toList = some bytes := by
  unfold decodeNamed at decoded
  split at decoded
  · cases decoded
  · rename_i decode known
    split at decoded
    · rename_i found
      cases decoded
      exact ⟨decode, known, found⟩
    · cases decoded

theorem bracketed?_eq_some {word encoding payload : String}
    (split : bracketed? word.toList = some (encoding, payload)) :
    word = encoding ++ "(" ++ payload ++ ")" := by
  unfold bracketed? at split
  split at split
  · rename_i inner backwards
    have forwards := congrArg List.reverse backwards
    rw [List.reverse_reverse, List.reverse_cons] at forwards
    generalize inner.reverse = front at forwards split
    simp only at split
    split at split
    · cases split
    · rename_i bracket behind found
      simp only [Option.some.injEq, Prod.mk.injEq] at split
      obtain ⟨rfl, rfl⟩ := split
      -- The rest of the word begins with the first bracket.
      have opening : bracket = '(' := by
        have stops := List.head?_dropWhile_not (· ≠ '(') front
        rw [found] at stops
        simpa using stops
      have whole : front.takeWhile (· ≠ '(') ++ '(' :: behind = front := by
        rw [opening] at found
        rw [← found, List.takeWhile_append_dropWhile]
      apply String.toList_injective
      calc
        word.toList = front ++ [')'] := forwards
        _ = front.takeWhile (· ≠ '(') ++ '(' :: behind ++ [')'] := by
            rw [whole]
        _ = _ := by simp
  · cases split

theorem constantForm_eq_ok {token : Token} {form : ConstantForm}
    (read : constantForm token = .ok form) :
    match form with
    | .complete bytes => SpellsBytes [token] bytes
    | .encoded encoding => token.word? = some encoding := by
  unfold constantForm at read
  split at read
  · rename_i bytes literal
    cases read
    exact .literal literal
  · rename_i word kind
    have given : token.word? = some word := by
      rw [Token.word?, kind]
    split at read
    · rename_i digits letters
      split at read
      · rename_i bytes decoded
        cases read
        have whole : word = "0x" ++ String.ofList digits := by
          apply String.toList_injective
          simp [letters]
        refine .hexadecimal (whole ▸ given) ?_
        rw [String.toList_ofList]
        exact decoded
      · cases read
    · split at read
      · rename_i encoding payload split
        cases decoded : decodeNamed encoding payload with
        | error fault =>
            rw [decoded] at read
            cases read
        | ok bytes =>
            rw [decoded] at read
            cases read
            obtain ⟨decode, known, found⟩ := decodeNamed_eq_ok decoded
            exact .bracketed (bracketed?_eq_some split ▸ given) known found
      · split at read
        · cases read
          exact given
        · cases read

theorem readConstant_eq_ok {missing : At Fault} {tokens rest : List Token}
    {bytes : Bytes}
    (read : readConstant missing tokens = .ok (bytes, rest)) :
    ∃ front, tokens = front ++ rest ∧ SpellsBytes front bytes := by
  cases tokens with
  | nil => cases read
  | cons token tokens =>
      obtain ⟨form, announced, read⟩ := bind_eq_ok.mp read
      have announced := constantForm_eq_ok (located_eq_ok.mp announced)
      cases form with
      | complete value =>
          cases read
          exact ⟨[token], rfl, announced⟩
      | encoded encoding =>
          cases tokens with
          | nil => cases read
          | cons payload tokens =>
              obtain ⟨value, decoded, read⟩ := bind_eq_ok.mp read
              cases read
              obtain ⟨decode, known, found⟩ :=
                decodeNamed_eq_ok (located_eq_ok.mp decoded)
              exact ⟨[token, payload], rfl, .separate announced known found⟩

theorem readConstants_eq_ok {missing : At Fault} {tokens : List Token}
    {values : List Bytes}
    (read : readConstants missing tokens = .ok values) :
    SpellsStrings tokens values := by
  fun_induction readConstants missing tokens generalizing values with
  | case1 =>
      cases read
      exact .nil
  | case2 token tokens fault failed => cases read
  | case3 token tokens bytes rest first induction =>
      obtain ⟨more, others, read⟩ := bind_eq_ok.mp read
      cases read
      obtain ⟨front, split, spelled⟩ := readConstant_eq_ok first
      rw [split]
      exact .cons spelled (induction others)

/-! ## Immediates -/

theorem readOperand_eq_ok {operation : At String} {missing : At Fault}
    {kind : ImmediateKind} {tokens rest : List Token}
    {operand : Operand (At String)}
    (read : readOperand operation missing kind tokens = .ok (operand, rest)) :
    ∃ front, tokens = front ++ rest ∧ Spells kind front operand := by
  cases kind with
  | u8 =>
      obtain ⟨⟨token, back⟩, first, read⟩ := bind_eq_ok.mp read
      obtain ⟨value, number, read⟩ := bind_eq_ok.mp read
      cases read
      exact ⟨[token], readToken_eq_ok first, .u8 (readU8_eq_ok number)⟩
  | i8 =>
      obtain ⟨⟨token, back⟩, first, read⟩ := bind_eq_ok.mp read
      obtain ⟨value, number, read⟩ := bind_eq_ok.mp read
      cases read
      exact ⟨[token], readToken_eq_ok first, .i8 (readI8_eq_ok number)⟩
  | field group =>
      obtain ⟨⟨token, back⟩, first, read⟩ := bind_eq_ok.mp read
      obtain ⟨value, place, read⟩ := bind_eq_ok.mp read
      cases read
      exact ⟨[token], readToken_eq_ok first, .field (readField_eq_ok place)⟩
  | varuint =>
      obtain ⟨⟨token, back⟩, first, read⟩ := bind_eq_ok.mp read
      obtain ⟨value, number, read⟩ := bind_eq_ok.mp read
      cases read
      exact ⟨[token], readToken_eq_ok first, .varuint (readUint_eq_ok number)⟩
  | bytes =>
      obtain ⟨⟨value, back⟩, constant, read⟩ := bind_eq_ok.mp read
      cases read
      obtain ⟨front, split, spelled⟩ := readConstant_eq_ok constant
      exact ⟨front, split, .bytes spelled⟩
  | label =>
      obtain ⟨⟨token, back⟩, first, read⟩ := bind_eq_ok.mp read
      obtain ⟨target, word, read⟩ := bind_eq_ok.mp read
      cases read
      exact ⟨[token], readToken_eq_ok first, .label (readLabel_eq_ok word)⟩
  | labels =>
      simp only [readOperand] at read
      split at read
      · rename_i few
        obtain ⟨targets, words, read⟩ := bind_eq_ok.mp read
        cases read
        have spelled := (mapM_eq_ok words).imp fun _ _ => readLabel_eq_ok
        exact ⟨tokens, (List.append_nil tokens).symm, .labels few spelled⟩
      · cases read
  | intBlock =>
      obtain ⟨values, numbers, read⟩ := bind_eq_ok.mp read
      cases read
      have spelled := (mapM_eq_ok numbers).imp fun _ _ => readUint_eq_ok
      exact ⟨tokens, (List.append_nil tokens).symm, .intBlock spelled⟩
  | byteBlock =>
      obtain ⟨values, constants, read⟩ := bind_eq_ok.mp read
      cases read
      exact ⟨tokens, (List.append_nil tokens).symm,
        .byteBlock (readConstants_eq_ok constants)⟩

theorem readOperands_eq_ok {operation : At String} {missing : At Fault}
    {kinds : List ImmediateKind} {tokens rest : List Token}
    {operands : List (Operand (At String))}
    (read : readOperands operation missing kinds tokens =
      .ok (operands, rest)) :
    ∃ front, tokens = front ++ rest ∧ SpellsAll kinds front operands := by
  induction kinds generalizing tokens operands with
  | nil =>
      cases read
      exact ⟨[], rfl, .nil⟩
  | cons kind kinds induction =>
      obtain ⟨⟨operand, behind⟩, first, read⟩ := bind_eq_ok.mp read
      obtain ⟨⟨others, back⟩, more, read⟩ := bind_eq_ok.mp read
      cases read
      obtain ⟨front, rfl, spelled⟩ := readOperand_eq_ok first
      obtain ⟨between, rfl, spelledAll⟩ := induction more
      exact ⟨front ++ between, (List.append_assoc _ _ _).symm,
        .cons spelled spelledAll⟩

theorem finished_eq_ok {α : Type} {surplus : At Fault} {value : α}
    {result : α × List Token} (read : finished surplus result = .ok value) :
    result = (value, []) := by
  obtain ⟨first, rest⟩ := result
  cases rest with
  | nil =>
      cases read
      rfl
  | cons token rest => cases read

theorem readSingle_eq_ok {operation : At String} {tokens : List Token}
    {token : Token} (read : readSingle operation tokens = .ok token) :
    tokens = [token] := by
  obtain ⟨result, first, read⟩ := bind_eq_ok.mp read
  rw [finished_eq_ok read] at first
  exact readToken_eq_ok first

theorem readOpcode_eq_ok {opcode : Opcode} {operation : At String}
    {tokens : List Token} {instruction : Instruction (At String)}
    (read : readOpcode opcode operation tokens = .ok instruction) :
    ∃ operands, instruction = ⟨opcode.code, operands⟩ ∧
      SpellsAll opcode.immediates tokens operands := by
  obtain ⟨result, immediates, read⟩ := bind_eq_ok.mp read
  obtain ⟨operands, complete, read⟩ := bind_eq_ok.mp read
  cases read
  rw [finished_eq_ok complete] at immediates
  obtain ⟨front, split, spelled⟩ := readOperands_eq_ok immediates
  rw [List.append_nil] at split
  exact ⟨operands, rfl, split ▸ spelled⟩

theorem readAddress_eq_ok {token : Token} {publicKey : Bytes}
    (read : readAddress token = .ok publicKey) :
    decodeAddress? token.text.toList = some publicKey := by
  unfold readAddress at read
  split at read
  · rename_i found
    cases read
    exact found
  · cases read

theorem readMethod_eq_ok {token : Token} {selector : Bytes}
    (read : readMethod token = .ok selector) :
    ∃ signature, token.kind = .literal signature ∧
      selector = methodSelector signature := by
  unfold readMethod at read
  split at read
  · rename_i signature literal
    cases read
    exact ⟨signature, literal, rfl⟩
  · cases read

/-- Every instruction that is read is the one that its tokens spell. -/
theorem readInstruction_eq_ok {operation : At String} {tokens : List Token}
    {instruction : Instruction (At String)}
    (read : readInstruction operation tokens = .ok instruction) :
    SpellsInstruction operation.value tokens instruction := by
  unfold readInstruction at read
  split at read
  · rename_i name
    obtain ⟨token, single, read⟩ := bind_eq_ok.mp read
    obtain ⟨value, number, read⟩ := bind_eq_ok.mp read
    cases read
    rw [name, readSingle_eq_ok single]
    exact .int (readUint_eq_ok number)
  · rename_i name
    obtain ⟨result, constant, read⟩ := bind_eq_ok.mp read
    obtain ⟨value, complete, read⟩ := bind_eq_ok.mp read
    cases read
    rw [finished_eq_ok complete] at constant
    obtain ⟨front, split, spelled⟩ := readConstant_eq_ok constant
    rw [name, split, List.append_nil]
    exact .byte spelled
  · rename_i name
    obtain ⟨token, single, read⟩ := bind_eq_ok.mp read
    obtain ⟨value, address, read⟩ := bind_eq_ok.mp read
    cases read
    rw [name, readSingle_eq_ok single]
    exact .address (readAddress_eq_ok address)
  · rename_i name
    obtain ⟨token, single, read⟩ := bind_eq_ok.mp read
    obtain ⟨value, selector, read⟩ := bind_eq_ok.mp read
    cases read
    obtain ⟨signature, literal, rfl⟩ := readMethod_eq_ok selector
    rw [name, readSingle_eq_ok single]
    exact .method literal
  · split at read
    · rename_i opcode known
      obtain ⟨operands, rfl, spelled⟩ := readOpcode_eq_ok read
      have named := List.find?_some known
      rw [decide_eq_true_eq] at named
      rw [← named]
      exact .opcode (List.mem_of_find?_eq_some known) spelled
    · cases read

end TealTools.Assembly
