import TealTools.Debugger.LaunchArguments
import TealTools.Proofs.Json.Records
import TealTools.Proofs.Json.Shape

/-!
# Launch arguments are read back

The arguments of a launch request can be taken apart by their names, or read
by their shape, which also says what is wrong with them.  Both ways agree on
documents that describe arguments.
-/

namespace TealTools.Debugger.LaunchArguments

open Json Json.Shape

@[simp] theorem decode?_toJson (arguments : LaunchArguments) :
    decode? arguments.toJson = some arguments := by
  have program : (Given.value (ofOption str arguments.program)).optional
      string? = some arguments.program :=
    optional_ofOption (fun _ => rfl) (fun _ => nofun)
  have stopOnEntry : (Given.value (ofOption Json.bool
      arguments.stopOnEntry)).optional bool? = some arguments.stopOnEntry :=
    optional_ofOption (fun _ => rfl) (fun _ => nofun)
  simp [decode?, toJson, fields?_obj, member?, valuesOf, program, stopOnEntry]

theorem plain_toJson (arguments : LaunchArguments) :
    Plain arguments.toJson := by
  apply plain_obj
  simp only [List.forall_mem_cons]
  refine ⟨?_, ?_, nofun⟩
  · cases arguments.program with
    | none => exact .null
    | some text => exact .str text
  · cases arguments.stopOnEntry with
    | none => exact .null
    | some value => exact .bool value

/-! ## Launch requests -/

private theorem read_program (json : Json) (program : Option String)
    (decoded : (Given.value json).optional string? = some program) :
    read (.optional .path) false json =
      .ok (optionalReading .string program) := by
  cases json with
  | null =>
      cases decoded
      rfl
  | string text =>
      cases text <;> cases decoded
      rfl
  | _ => cases decoded

private theorem read_stopOnEntry (json : Json) (stopOnEntry : Option Bool)
    (decoded : (Given.value json).optional bool? = some stopOnEntry) :
    read (.optional .flag) false json =
      .ok (optionalReading .flag stopOnEntry) := by
  cases json with
  | null =>
      cases decoded
      rfl
  | bool value =>
      cases decoded
      rfl
  | _ => cases decoded

/-- How the fields of the arguments are read. -/
def fieldReaders : List Reader :=
  readers false
    [(⟨"program", "program"⟩, .optional .path),
     (⟨"stopOnEntry", "stop_on_entry"⟩, .optional .flag)]

private theorem fieldReaders_eq : fieldReaders =
    [{ key := ⟨"program", "program"⟩, isOptional := true
       isDefaulted := false, read := read (.optional .path) false },
     { key := ⟨"stopOnEntry", "stop_on_entry"⟩, isOptional := true
       isDefaulted := false, read := read (.optional .flag) false }] :=
  rfl

private theorem read_shape (json : Json) :
    shape.read false json = readRecord false "LaunchArgs" fieldReaders json :=
  rfl

/-- What a record of the arguments is turned into. -/
private theorem ofRequest_of_read {json : Json} {arguments : LaunchArguments}
    (reads : readRecord false "LaunchArgs" fieldReaders json =
      .ok (.record "LaunchArgs"
        [("program", optionalReading .string arguments.program),
         ("stop_on_entry", optionalReading .flag arguments.stopOnEntry)])) :
    ofRequest json = .ok arguments := by
  obtain ⟨program, stopOnEntry⟩ := arguments
  rw [ofRequest, read_shape, reads]
  cases program <;> cases stopOnEntry <;> rfl

private theorem fields_of_decode? {json : Json} {arguments : LaunchArguments}
    (decoded : decode? json = some arguments) :
    ∃ program stopOnEntry : Given,
      json.fields? ["program", "stopOnEntry"] = some [program, stopOnEntry] ∧
      program.optional string? = some arguments.program ∧
      stopOnEntry.optional bool? = some arguments.stopOnEntry := by
  rw [decode?] at decoded
  obtain ⟨given, fields, read⟩ := Option.bind_eq_some_iff.mp decoded
  split at read
  · rename_i program stopOnEntry
    obtain ⟨own, first, read⟩ := Option.bind_eq_some_iff.mp read
    obtain ⟨own', second, read⟩ := Option.bind_eq_some_iff.mp read
    cases read
    exact ⟨program, stopOnEntry, fields, first, second⟩
  · cases read

theorem ofRequest_object {members : List Member} {program stopOnEntry : Given}
    {arguments : LaunchArguments}
    (fields : (object members).fields? ["program", "stopOnEntry"] =
      some [program, stopOnEntry])
    (first : program.optional string? = some arguments.program)
    (second : stopOnEntry.optional bool? = some arguments.stopOnEntry) :
    ofRequest (object members) = .ok arguments := by
  have given : member? members "program" = some program ∧
      member? members "stopOnEntry" = some stopOnEntry := by
    rw [fields?] at fields
    split at fields
    · simpa [Option.bind_eq_some_iff] using fields
    · cases fields
  let outcome (reader : Reader) : Reading :=
    if reader.key.label = "program" then
      optionalReading .string arguments.program
    else optionalReading .flag arguments.stopOnEntry
  have finds : ∀ reader ∈ fieldReaders,
      ∃ reading, Finds reader members reading ∧
        reading.getD .absent = outcome reader := by
    simp only [fieldReaders_eq, List.forall_mem_cons]
    exact ⟨finds_optional read_program given.1 first,
      finds_optional read_stopOnEntry given.2 second,
      List.forall_mem_nil _⟩
  apply ofRequest_of_read
  exact readRecord_finds ⟨by simp [fieldReaders_eq], by simp [fieldReaders_eq]⟩
    (by simp [fieldReaders_eq]) finds

theorem ofRequest_array {items : List Json} {program stopOnEntry : Given}
    {arguments : LaunchArguments}
    (fields : (array items).fields? ["program", "stopOnEntry"] =
      some [program, stopOnEntry])
    (first : program.optional string? = some arguments.program)
    (second : stopOnEntry.optional bool? = some arguments.stopOnEntry) :
    ofRequest (array items) = .ok arguments := by
  -- Neither argument may be cut off.
  match items with
  | [] =>
      cases fields
      cases first
  | [_] =>
      cases fields
      cases second
  | [one, two] =>
      cases fields
      apply ofRequest_of_read
      rw [readRecord]
      simp [fieldReaders_eq, Shape.readItems, read_program one _ first,
        read_stopOnEntry two _ second, bind, Except.bind, pure, Except.pure]
  | _ :: _ :: _ :: _ => cases fields

/-- A launch request takes the arguments that its document describes. -/
theorem ofRequest_of_decode? {json : Json} {arguments : LaunchArguments}
    (decoded : decode? json = some arguments) :
    ofRequest json = .ok arguments := by
  obtain ⟨program, stopOnEntry, fields, first, second⟩ :=
    fields_of_decode? decoded
  cases json with
  | object members => exact ofRequest_object fields first second
  | array items => exact ofRequest_array fields first second
  | _ => cases fields

end TealTools.Debugger.LaunchArguments
