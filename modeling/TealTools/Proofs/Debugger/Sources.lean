import TealTools.Debugger.Sources
import TealTools.Json.Printer
import TealTools.Proofs.Debugger.Session
import TealTools.Proofs.Node.Domain

/-!
# From sources to a session

Each source is looked up in phases, and the phases of all sources come one
behind the other.  Either one of them fails, and the first that does decides
the error; or every source that was asked for becomes an option, and the
options make a session.
-/

namespace TealTools

/-- A file is the text of a value. -/
def Files.Holds {α : Type} (files : Files) (path : Bytes)
    (decode? : Json → Option α) (value : α) : Prop :=
  ∃ text, files.readText path = .ok text ∧
    (Json.parse? text.toList).bind decode? = some value

private theorem Files.exists_holds {α : Type} {files : Files} {path : Bytes}
    {decode? : Json → Option α} {check : α → Bool}
    (decodes : (((files.readText path).toOption.bind
      fun text => Json.parse? text.toList).bind decode?).any check = true) :
    ∃ value, files.Holds path decode? value ∧ check value = true := by
  cases read : files.readText path with
  | error cause =>
      rw [read] at decodes
      cases decodes
  | ok text =>
      rw [read] at decodes
      obtain ⟨value, decoded, checked⟩ := (Option.any_eq_true _ _).mp decodes
      exact ⟨value, ⟨text, read, decoded⟩, checked⟩

namespace Debugger

/-! ## Phases -/

inductive Phase where
  | log
  | configText
  | configFormat
  | endpoint
  | replayText
  | replayFormat
  deriving DecidableEq, Repr

def Phase.order : List Phase :=
  [.log, .configText, .configFormat, .endpoint, .replayText, .replayFormat]

def Determined (Fails : Phase → SetupError → Prop) : Prop :=
  ∀ phase error other, Fails phase error → Fails phase other → error = other

inductive Refused {α β ε : Type} (Asked : α → Prop)
    (attempt : α → Except ε β) (report : α → ε → SetupError) :
    SetupError → Prop where
  | intro {source cause} (asked : Asked source)
      (refused : attempt source = .error cause) :
      Refused Asked attempt report (report source cause)

inductive Malformed {α : Type} (files : Files) (Asked : Bytes → Prop)
    (decode? : Json → Option α) (report : Bytes → SetupError) :
    SetupError → Prop where
  | intro {path text} (asked : Asked path)
      (read : files.readText path = .ok text)
      (malformed : (Json.parse? text.toList).bind decode? = none) :
      Malformed files Asked decode? report (report path)

/-- The error of the first phase that fails. -/
inductive FirstFailure (Fails : Phase → SetupError → Prop) :
    List Phase → SetupError → Prop where
  | here {phase later error} (fails : Fails phase error) :
      FirstFailure Fails (phase :: later) error
  | later {phase later error} (passes : ∀ other, ¬Fails phase other)
      (failure : FirstFailure Fails later error) :
      FirstFailure Fails (phase :: later) error

section

variable {α β ε : Type} {error other : SetupError}

private theorem given_unique {given : Option α} (source found : α)
    (asked : given = some source) (also : given = some found) :
    source = found :=
  Option.some.inj (asked.symm.trans also)

theorem Refused.unique {Asked : α → Prop} {attempt : α → Except ε β}
    {report : α → ε → SetupError}
    (unique : ∀ source found, Asked source → Asked found → source = found)
    (first : Refused Asked attempt report error)
    (second : Refused Asked attempt report other) : error = other := by
  cases first with
  | intro asked refused =>
      cases second with
      | intro also again =>
          cases unique _ _ asked also
          cases refused.symm.trans again
          rfl

private theorem not_refused_of_unasked {Asked : α → Prop}
    {attempt : α → Except ε β} {report : α → ε → SetupError}
    (unasked : ∀ source, ¬Asked source) (error : SetupError) :
    ¬Refused Asked attempt report error := by
  intro failed
  cases failed with
  | intro asked => exact unasked _ asked

private theorem not_refused_of_ok {Asked : α → Prop} {attempt : α → Except ε β}
    {report : α → ε → SetupError} {source : α} {value : β}
    (unique : ∀ found, Asked found → source = found)
    (made : attempt source = .ok value) (error : SetupError) :
    ¬Refused Asked attempt report error := by
  intro failed
  cases failed with
  | intro asked refused =>
      cases unique _ asked
      cases made.symm.trans refused

theorem Malformed.unique {files : Files} {path? : Option Bytes}
    {decode? : Json → Option α} {report : Bytes → SetupError}
    (first : Malformed files (path? = some ·) decode? report error)
    (second : Malformed files (path? = some ·) decode? report other) :
    error = other := by
  cases first with
  | intro asked =>
      cases second with
      | intro also =>
          cases asked.symm.trans also
          rfl

private theorem not_malformed_of_holds {files : Files} {path : Bytes}
    {decode? : Json → Option α} {report : Bytes → SetupError} {value : α}
    (holds : files.Holds path decode? value) (error : SetupError) :
    ¬Malformed files (some path = some ·) decode? report error := by
  obtain ⟨text, read, decoded⟩ := holds
  intro failed
  cases failed with
  | intro asked again malformed =>
      cases asked
      cases read.symm.trans again
      cases decoded.symm.trans malformed

end

/-! ## Stages -/

/-- A stage goes through some phases.  It gives a value that fits, or the
error of the first phase that fails. -/
inductive Stage (Fails : Phase → SetupError → Prop) (phases : List Phase)
    {α : Type} (Fits : α → Prop) : Except SetupError α → Prop where
  | passed {value} (fits : Fits value)
      (passes : ∀ phase ∈ phases, ∀ error, ¬Fails phase error) :
      Stage Fails phases Fits (.ok value)
  | failed {error} (failure : FirstFailure Fails phases error) :
      Stage Fails phases Fits (.error error)

section

variable {Fails : Phase → SetupError → Prop} {front back : List Phase}
  {error : SetupError}

theorem FirstFailure.exists_mem (failure : FirstFailure Fails front error) :
    ∃ phase ∈ front, Fails phase error := by
  induction failure with
  | here fails => exact ⟨_, List.mem_cons_self, fails⟩
  | later passes failure found =>
      obtain ⟨phase, member, fails⟩ := found
      exact ⟨phase, List.mem_cons_of_mem _ member, fails⟩

theorem FirstFailure.unique {other : SetupError}
    (determined : Determined Fails)
    (failure : FirstFailure Fails front error)
    (second : FirstFailure Fails front other) : error = other := by
  induction failure with
  | here fails =>
      cases second with
      | here also => exact determined _ _ _ fails also
      | later passes => exact absurd fails (passes _)
  | later passes failure same =>
      cases second with
      | here also => exact absurd also (passes _)
      | later _ second => exact same second

theorem FirstFailure.append (failure : FirstFailure Fails front error)
    (back : List Phase) : FirstFailure Fails (front ++ back) error := by
  induction failure with
  | here fails => exact .here fails
  | later passes failure longer => exact .later passes longer

theorem FirstFailure.behind
    (passes : ∀ phase ∈ front, ∀ error, ¬Fails phase error)
    (failure : FirstFailure Fails back error) :
    FirstFailure Fails (front ++ back) error := by
  induction front with
  | nil => exact failure
  | cons phase front behind =>
      refine .later (passes phase List.mem_cons_self) (behind ?_)
      intro other member
      exact passes other (List.mem_cons_of_mem _ member)

variable {α β : Type} {Fits : α → Prop} {Suits : β → Prop}
  {result : Except SetupError α}

theorem Stage.bind {next : α → Except SetupError β}
    (stage : Stage Fails front Fits result)
    (goesOn : ∀ value, Fits value → Stage Fails back Suits (next value)) :
    Stage Fails (front ++ back) Suits (result >>= next) := by
  cases stage with
  | failed failure => exact .failed (failure.append back)
  | @passed value fits passes =>
      have following := goesOn value fits
      change Stage Fails (front ++ back) Suits (next value)
      cases ended : next value with
      | error cause =>
          rw [ended] at following
          cases following with
          | failed failure => exact .failed (failure.behind passes)
      | ok last =>
          rw [ended] at following
          cases following with
          | passed suits passesBack =>
              refine .passed suits ?_
              intro phase member
              rcases List.mem_append.mp member with early | late
              · exact passes phase early
              · exact passesBack phase late

theorem Stage.pure {value : β} (suits : Suits value) :
    Stage Fails [] Suits (.ok value) :=
  .passed suits (by simp only [List.not_mem_nil, false_implies, implies_true])

theorem Stage.error_iff (determined : Determined Fails)
    (stage : Stage Fails front Fits result) :
    result = .error error ↔ FirstFailure Fails front error := by
  cases stage with
  | failed failure =>
      constructor
      · intro same
        cases same
        exact failure
      · intro second
        rw [failure.unique determined second]
  | passed fits passes =>
      constructor
      · intro same
        cases same
      · intro failure
        obtain ⟨phase, member, fails⟩ := failure.exists_mem
        exact absurd fails (passes phase member error)

theorem Stage.fits {value : α} (stage : Stage Fails front Fits (.ok value)) :
    Fits value := by
  cases stage with
  | passed fits => exact fits

end

/-! ## What sources supply -/

/-- Values are taken exactly when a source asks for one, and they are what
the source gives. -/
structure Supplies {α β : Type} (Taken : β → Prop) (Asked : α → Prop)
    (Gives : α → β → Prop) : Prop where
  present : (∃ value, Taken value) ↔ ∃ source, Asked source
  value : ∀ value, Taken value ↔ ∃ source, Asked source ∧ Gives source value

namespace Supplies

variable {α β : Type} {Taken Held : β → Prop} {Asked : α → Prop}
  {Gives : α → β → Prop}

theorem congr (same : ∀ value, Held value ↔ Taken value)
    (supplies : Supplies Taken Asked Gives) : Supplies Held Asked Gives where
  present := (exists_congr same).trans supplies.present
  value value := (same value).trans (supplies.value value)

theorem none (unasked : ∀ source, ¬Asked source) :
    Supplies ((Option.none : Option β) = some ·) Asked Gives where
  present := by
    constructor
    · intro taken
      obtain ⟨value, taken⟩ := taken
      cases taken
    · intro asked
      obtain ⟨source, asked⟩ := asked
      exact absurd asked (unasked source)
  value value := by
    constructor
    · intro taken
      cases taken
    · intro asked
      obtain ⟨source, asked, -⟩ := asked
      exact absurd asked (unasked source)

theorem some {source : α} {value : β} (asked : Asked source)
    (gives : Gives source value)
    (unique : ∀ other found, Asked other → Gives other found →
      found = value) :
    Supplies (Option.some value = some ·) Asked Gives where
  present := ⟨fun _ => ⟨source, asked⟩, fun _ => ⟨value, rfl⟩⟩
  value found := by
    constructor
    · intro taken
      cases taken
      exact ⟨source, asked, gives⟩
    · intro asked
      obtain ⟨other, asked, gives⟩ := asked
      rw [unique other found asked gives]

end Supplies

namespace Sources

/-- The files once the log is open.  A log takes the place of what was in its
file. -/
def opened (sources : Sources) (files : Files) : Files :=
  match sources.log.map (TrafficLog.create files) with
  | some (.ok (_, opened)) => opened
  | _ => files

def Configures (sources : Sources) (files : Files) (config : Config) : Prop :=
  ∃ path, sources.config = some path ∧
    (sources.opened files).Holds path Config.decode? config

/-- A node is named.  An empty name says that none is wanted. -/
def Names (sources : Sources) (address : String) : Prop :=
  sources.node = some address ∧ address ≠ ""

/-- Which node is asked for: the one that is named, or the public one if
nothing was said about nodes and there is no recorded execution. -/
inductive Wants (sources : Sources) (files : Files) : String → Prop where
  | named {address} (named : sources.Names address) :
      Wants sources files address
  | default (unnamed : sources.node = none)
      (unrecorded : sources.replay = none)
      (unconfigured : ∀ config, sources.Configures files config →
        config.node = none) :
      Wants sources files Node.Endpoint.defaultAddress

/-- How each phase fails, whatever the others do. -/
def Fails (sources : Sources) (files : Files) : Phase → SetupError → Prop
  | .log => Refused (sources.log = some ·) (TrafficLog.create files) .debugLog
  | .configText =>
      Refused (sources.config = some ·) (sources.opened files).readText
        .configFile
  | .configFormat =>
      Malformed (sources.opened files) (sources.config = some ·)
        Config.decode? .configFormat
  | .endpoint =>
      Refused sources.Names (Node.Endpoint.parse · sources.token)
        fun address cause => .endpoint address cause.message
  | .replayText =>
      Refused (sources.replay = some ·) (sources.opened files).readText
        .replayFile
  | .replayFormat =>
      Malformed (sources.opened files) (sources.replay = some ·)
        Simulation.decode? .replayFormat

structure Provides (sources : Sources) (files : Files)
    (HasLog : TrafficLog → Prop) (HasConfig : Config → Prop)
    (HasLive : Node.Endpoint → Prop) (HasRecorded : Simulation → Prop) :
    Prop where
  log : Supplies HasLog (sources.log = some ·) fun path log =>
    ∃ opened, TrafficLog.create files path = .ok (log, opened)
  config : Supplies HasConfig (sources.config = some ·) fun path config =>
    (sources.opened files).Holds path Config.decode? config
  live : Supplies HasLive (sources.Wants files) fun address endpoint =>
    Node.Endpoint.parse address sources.token = .ok endpoint
  recorded : Supplies HasRecorded (sources.replay = some ·)
    fun path simulation =>
      (sources.opened files).Holds path Simulation.decode? simulation

/-! ## Stages of the sources -/

section

variable {sources : Sources} {files : Files}

theorem Names.unique {address other : String}
    (first : sources.Names address) (second : sources.Names other) :
    address = other :=
  given_unique address other first.1 second.1

theorem Wants.unique {address other : String}
    (first : sources.Wants files address)
    (second : sources.Wants files other) : address = other := by
  cases first with
  | named named =>
      cases second with
      | named also => exact named.unique also
      | default unnamed => cases named.1.symm.trans unnamed
  | default unnamed =>
      cases second with
      | named named => cases unnamed.symm.trans named.1
      | default => rfl

theorem fails_determined : Determined (sources.Fails files) := by
  intro phase error other first second
  cases phase with
  | log => exact Refused.unique given_unique first second
  | configText => exact Refused.unique given_unique first second
  | configFormat => exact Malformed.unique first second
  | endpoint =>
      exact Refused.unique (fun _ _ => Names.unique) first second
  | replayText => exact Refused.unique given_unique first second
  | replayFormat => exact Malformed.unique first second

private theorem openLog_stage :
    Stage (sources.Fails files) [.log]
      (fun opening => opening.2 = sources.opened files ∧
        Supplies (opening.1 = some ·) (sources.log = some ·) fun path log =>
          ∃ opened, TrafficLog.create files path = .ok (log, opened))
      (sources.openLog files) := by
  cases given : sources.log with
  | none =>
      have ended : sources.openLog files = .ok (none, files) := by
        simp only [openLog, given]
      have unasked : ∀ path, sources.log ≠ some path := by
        simp only [given, ne_eq, reduceCtorEq, not_false_eq_true, implies_true]
      rw [ended]
      refine .passed ⟨?_, .none (given ▸ unasked)⟩ ?_
      · simp only [opened, given, Option.map_none]
      · rw [List.forall_mem_singleton]
        exact not_refused_of_unasked unasked
  | some path =>
      cases created : TrafficLog.create files path with
      | error cause =>
          have ended : sources.openLog files =
              .error (.debugLog path cause) := by
            simp only [openLog, given, created]
          rw [ended]
          exact .failed (.here (Refused.intro given created))
      | ok opening =>
          obtain ⟨log, opened⟩ := opening
          have ended : sources.openLog files = .ok (some log, opened) := by
            simp only [openLog, given, created]
          rw [ended]
          refine .passed ⟨?_, .some rfl ⟨opened, created⟩ ?_⟩ ?_
          · simp only [Sources.opened, given, Option.map_some, created]
          · intro other found asked gives
            cases asked
            obtain ⟨reopened, again⟩ := gives
            cases created.symm.trans again
            rfl
          · rw [List.forall_mem_singleton]
            exact not_refused_of_ok (given_unique path · given) created

private theorem readValue_stage {α : Type} {Fails : Phase → SetupError → Prop}
    {path? : Option Bytes} {decode? : Json → Option α}
    {unread : Bytes → FileError → SetupError}
    {malformed : Bytes → SetupError} {text format : Phase}
    (failsText : Fails text = Refused (path? = some ·) files.readText unread)
    (failsFormat : Fails format =
      Malformed files (path? = some ·) decode? malformed) :
    Stage Fails [text, format]
      (fun value? => Supplies (value? = some ·) (path? = some ·)
        fun path value => files.Holds path decode? value)
      (readValue files path? decode? unread malformed) := by
  cases path? with
  | none =>
      have unasked : ∀ path : Bytes, none ≠ some path := by
        simp only [ne_eq, reduceCtorEq, not_false_eq_true, implies_true]
      refine .passed (.none unasked) ?_
      rw [List.forall_mem_cons, List.forall_mem_singleton, failsText,
        failsFormat]
      refine ⟨not_refused_of_unasked unasked, ?_⟩
      intro error failed
      cases failed with
      | intro asked => exact unasked _ asked
  | some path =>
      cases content : files.readText path with
      | error cause =>
          have ended : readValue files (some path) decode? unread malformed =
              .error (unread path cause) := by
            simp only [readValue, content]
          rw [ended]
          refine .failed (.here ?_)
          rw [failsText]
          exact .intro rfl content
      | ok characters =>
          have readable : ∀ error, ¬Fails text error := by
            rw [failsText]
            exact not_refused_of_ok (given_unique path · rfl) content
          cases decoded :
              (Json.parse? characters.toList).bind decode? with
          | none =>
              have ended : readValue files (some path) decode? unread
                  malformed = .error (malformed path) := by
                simp only [readValue, content, decoded]
              rw [ended]
              refine .failed (.later readable (.here ?_))
              rw [failsFormat]
              exact .intro rfl content decoded
          | some value =>
              have ended : readValue files (some path) decode? unread
                  malformed = .ok (some value) := by
                simp only [readValue, content, decoded]
              rw [ended]
              refine .passed (.some rfl ⟨characters, content, decoded⟩ ?_) ?_
              · intro other found asked holds
                cases asked
                obtain ⟨again, reread, redecoded⟩ := holds
                cases content.symm.trans reread
                exact Option.some.inj (redecoded.symm.trans decoded)
              · rw [List.forall_mem_cons, List.forall_mem_singleton,
                  failsFormat]
                refine ⟨readable, ?_⟩
                intro error failed
                cases failed with
                | intro asked read malformed =>
                    cases asked
                    cases content.symm.trans read
                    cases decoded.symm.trans malformed

private theorem unconfigured_iff {config? : Option Config}
    (configured : ∀ config, config? = some config ↔
      sources.Configures files config) :
    (config?.bind Config.node).isNone ↔
      ∀ config, sources.Configures files config → config.node = none := by
  rw [Option.isNone_iff_eq_none, Option.bind_eq_none_iff]
  exact forall_congr' fun config =>
    imp_congr_left (configured config)

private theorem address?_eq_some_iff {config? : Option Config}
    (configured : ∀ config, config? = some config ↔
      sources.Configures files config) (address : String) :
    sources.address? config? = some address ↔
      sources.Wants files address := by
  cases given : sources.node with
  | some name =>
      simp only [address?, given, String.isEmpty_iff]
      constructor
      · intro chosen
        split at chosen
        · cases chosen
        · next proper =>
            cases chosen
            exact .named ⟨given, proper⟩
      · intro wanted
        cases wanted with
        | named named =>
            cases given.symm.trans named.1
            exact if_neg named.2
        | default unnamed => cases given.symm.trans unnamed
  | none =>
      simp only [address?, given]
      constructor
      · intro chosen
        split at chosen
        · next free =>
            cases chosen
            exact .default given (Option.isNone_iff_eq_none.mp free.1)
              ((unconfigured_iff configured).mp free.2)
        · cases chosen
      · intro wanted
        cases wanted with
        | named named => cases given.symm.trans named.1
        | default _ unrecorded unconfigured =>
            exact if_pos ⟨Option.isNone_iff_eq_none.mpr unrecorded,
              (unconfigured_iff configured).mpr unconfigured⟩

private theorem endpoint_stage {config? : Option Config}
    (configured : ∀ config, config? = some config ↔
      sources.Configures files config) :
    Stage (sources.Fails files) [.endpoint]
      (fun live => Supplies (live = some ·) (sources.Wants files)
        fun address endpoint =>
          Node.Endpoint.parse address sources.token = .ok endpoint)
      (sources.endpoint config?) := by
  cases chosen : sources.address? config? with
  | none =>
      have ended : sources.endpoint config? = .ok none := by
        simp only [endpoint, chosen]
      have unwanted : ∀ address, ¬sources.Wants files address := by
        intro address wanted
        rw [← address?_eq_some_iff configured] at wanted
        cases chosen.symm.trans wanted
      rw [ended]
      refine .passed (.none unwanted) ?_
      rw [List.forall_mem_singleton]
      exact not_refused_of_unasked fun address named =>
        unwanted address (.named named)
  | some address =>
      have wanted := (address?_eq_some_iff configured address).mp chosen
      cases parsed : Node.Endpoint.parse address sources.token with
      | error cause =>
          have ended : sources.endpoint config? =
              .error (.endpoint address cause.message) := by
            simp only [endpoint, chosen, parsed]
          rw [ended]
          cases wanted with
          | named named => exact .failed (.here (Refused.intro named parsed))
          | default =>
              -- The address of the public node is never refused.
              rw [Node.Endpoint.parse_defaultAddress] at parsed
              cases parsed
      | ok live =>
          have ended : sources.endpoint config? = .ok (some live) := by
            simp only [endpoint, chosen, parsed]
          rw [ended]
          refine .passed (.some wanted parsed ?_) ?_
          · intro other found asked gives
            cases wanted.unique asked
            cases parsed.symm.trans gives
            rfl
          · rw [List.forall_mem_singleton]
            exact not_refused_of_ok
              (fun _ named => wanted.unique (.named named)) parsed

private theorem sourceOptions_stage {HasLog : TrafficLog → Prop}
    (logs : Supplies HasLog (sources.log = some ·) fun path log =>
      ∃ opened, TrafficLog.create files path = .ok (log, opened)) :
    Stage (sources.Fails files)
      [.configText, .configFormat, .endpoint, .replayText, .replayFormat]
      (fun options => ∃ config live recorded,
        Session.options ⟨none, config, live, recorded⟩ = options ∧
        sources.Provides files HasLog (config = some ·) (live = some ·)
          (recorded = some ·))
      (sources.sourceOptions (sources.opened files)) := by
  have phases : [Phase.configText, .configFormat, .endpoint, .replayText,
      .replayFormat] = [Phase.configText, .configFormat] ++
        ([Phase.endpoint] ++ ([Phase.replayText, .replayFormat] ++ [])) := rfl
  rw [phases, sourceOptions]
  apply Stage.bind (readValue_stage rfl rfl)
  intro config configures
  apply Stage.bind (endpoint_stage configures.value)
  intro live connects
  apply Stage.bind (readValue_stage rfl rfl)
  intro recorded replays
  exact .pure
    ⟨config, live, recorded, rfl, logs, configures, connects, replays⟩

private theorem resolve_snd_eq :
    (sources.resolve files).2 = sources.openLog files >>= fun opening =>
      sources.sourceOptions opening.2 >>= fun options =>
        .ok (opening.1.toList.map .log ++ options) := by
  rw [resolve]
  cases sources.openLog files with
  | error cause => rfl
  | ok opening => rfl

theorem resolve_stage :
    Stage (sources.Fails files) Phase.order
      (fun options => ∃ session : Session, session.options = options ∧
        sources.Provides files (session.log = some ·)
          (session.config = some ·) (session.live = some ·)
          (session.recorded = some ·))
      (sources.resolve files).2 := by
  have phases : Phase.order = [Phase.log] ++ ([Phase.configText,
      .configFormat, .endpoint, .replayText, .replayFormat] ++ []) := rfl
  rw [phases, resolve_snd_eq]
  apply Stage.bind openLog_stage
  intro opening opens
  obtain ⟨same, logs⟩ := opens
  rw [same]
  apply Stage.bind (sourceOptions_stage logs)
  intro options described
  obtain ⟨config, live, recorded, rfl, provides⟩ := described
  exact .pure ⟨⟨opening.1, config, live, recorded⟩, rfl, provides⟩

private theorem session_snd_eq :
    (sources.session files).2 = (sources.resolve files).2 >>= fun options =>
      (Session.build options).mapError fun conflict =>
        .options conflict.message := by
  rw [session]
  cases sources.resolve files with
  | mk opened result =>
      cases result with
      | error cause => rfl
      | ok options => rfl

end

/-- The first phase that fails decides the error.  If none does, every source
that was asked for, and no other, becomes an option; the options come in the
order of their kinds, and they make a session. -/
theorem resolve_decides_session (sources : Sources) (files : Files) :
    (∀ error, (sources.resolve files).2 = .error error ↔
      FirstFailure (sources.Fails files) Phase.order error) ∧
    ∀ options, (sources.resolve files).2 = .ok options →
      (options.map SessionOption.kind).Sublist OptionKind.order ∧
      sources.Provides files (.log · ∈ options) (.config · ∈ options)
        (.live · ∈ options) (.recorded · ∈ options) ∧
      ∃ session, Session.build options = .ok session ∧
        session.options = options ∧
        (sources.session files).2 = .ok session := by
  have stage := @resolve_stage sources files
  constructor
  · intro error
    exact stage.error_iff fails_determined
  · intro options resolved
    have fits := stage
    rw [resolved] at fits
    obtain ⟨parts, rfl, provides⟩ := fits.fits
    obtain ⟨session, built, consists⟩ :=
      Session.build_of_ordered parts.options_ordered
    refine ⟨parts.options_ordered, ?_, session, built, consists, ?_⟩
    · exact ⟨provides.log.congr fun _ => Session.log_mem_options_iff,
        provides.config.congr fun _ => Session.config_mem_options_iff,
        provides.live.congr fun _ => Session.live_mem_options_iff,
        provides.recorded.congr fun _ => Session.recorded_mem_options_iff⟩
    · rw [session_snd_eq, resolved]
      change (Session.build parts.options).mapError _ = _
      rw [built]
      rfl

/-- Everything that can be asked for. -/
def fullSources : Sources :=
  { log := some (Files.name "log")
    config := some (Files.name "config")
    node := some Node.Endpoint.defaultAddress
    token := "secret"
    replay := some (Files.name "replay") }

/-- The log is put in the place of an older one. -/
def fullFiles : Files :=
  let document (json : Json) : FileEntry := .file (Text.utf8 json.write)
  let opcode (pc : Nat) : Json := .obj [("pc", .nat pc)]
  let run : Json :=
    .obj [("approval-program-trace", .array [opcode 1, opcode 3])]
  let group : Json :=
    .obj [("txn-results", .array [.obj [("exec-trace", run)]])]
  Files.empty
    |>.put (Files.name "log") (.file [0x41])
    |>.put (Files.name "config")
      (document (.obj [("program", .str "p"), ("stopOnEntry", .bool true)]))
    |>.put (Files.name "replay")
      (document (.obj [("version", .nat 2), ("last-round", .nat 7),
        ("txn-groups", .array [group])]))

theorem resolve_decides_session_full :
    ∃ session config simulation,
      (fullSources.session fullFiles).2 = .ok session ∧
        session.log = some (.fresh none) ∧
        session.config = some config ∧ config.program = some "p" ∧
        session.live =
          some ⟨.ofHost Node.Endpoint.defaultHost, "secret"⟩ ∧
        session.recorded = some simulation ∧ simulation.lastRound = 7 := by
  obtain ⟨failing, succeeding⟩ :=
    resolve_decides_session fullSources fullFiles
  have created : TrafficLog.create fullFiles (Files.name "log") =
      .ok (.fresh none, fullSources.opened fullFiles) := rfl
  obtain ⟨config, configured, program⟩ := @Files.exists_holds Config
    (fullSources.opened fullFiles) (Files.name "config") Config.decode?
    (fun config => config.program = some "p") (by decide +kernel)
  obtain ⟨simulation, recorded, round⟩ := @Files.exists_holds Simulation
    (fullSources.opened fullFiles) (Files.name "replay") Simulation.decode?
    (fun simulation => simulation.lastRound = 7) (by decide +kernel)
  have wanted : fullSources.Names Node.Endpoint.defaultAddress :=
    ⟨rfl, by decide⟩
  have parsed := Node.Endpoint.parse_defaultAddress "secret"
  cases resolved : (fullSources.resolve fullFiles).2 with
  | error error =>
      obtain ⟨phase, -, fails⟩ := ((failing error).mp resolved).exists_mem
      cases phase with
      | log =>
          exact absurd fails
            (not_refused_of_ok (fun _ => Option.some.inj) created error)
      | configText =>
          obtain ⟨text, read, -⟩ := configured
          exact absurd fails
            (not_refused_of_ok (fun _ => Option.some.inj) read error)
      | configFormat =>
          exact absurd fails (not_malformed_of_holds configured error)
      | endpoint =>
          exact absurd fails
            (not_refused_of_ok (fun _ => wanted.unique) parsed error)
      | replayText =>
          obtain ⟨text, read, -⟩ := recorded
          exact absurd fails
            (not_refused_of_ok (fun _ => Option.some.inj) read error)
      | replayFormat =>
          exact absurd fails (not_malformed_of_holds recorded error)
  | ok options =>
      obtain ⟨-, provides, session, -, consists, made⟩ :=
        succeeding options resolved
      have log := (provides.log.value _).mpr ⟨_, rfl, _, created⟩
      have kept := (provides.config.value _).mpr ⟨_, rfl, configured⟩
      have live := (provides.live.value _).mpr ⟨_, .named wanted, parsed⟩
      have replayed := (provides.recorded.value _).mpr ⟨_, rfl, recorded⟩
      rw [← consists] at log kept live replayed
      exact ⟨session, config, simulation, made,
        Session.log_mem_options_iff.mp log,
        Session.config_mem_options_iff.mp kept, of_decide_eq_true program,
        Session.live_mem_options_iff.mp live,
        Session.recorded_mem_options_iff.mp replayed,
        of_decide_eq_true round⟩

end Sources

end Debugger

end TealTools
