import TealTools.LanguageServer.Client
import TealTools.LanguageServer.Documents
import TealTools.LanguageServer.Query
import TealTools.LanguageServer.Rpc

/-!
# The language server

The server is started once, answers calls until it is shut down, and stops
when the editor asks it to exit.  In between it publishes diagnostics for the
documents of the editor.  Calls that come in together are all accepted before
the first of them is carried out, so that none of them sees what another one
leads to.
-/

namespace TealTools.LanguageServer

inductive Phase where
  | fresh
  | running
  | shutDown
  | exited
  deriving DecidableEq, Repr

structure Server where
  diagnose : String → List Diagnostic
  phase : Phase
  documents : Documents

namespace Server

def fresh (diagnose : String → List Diagnostic) : Server :=
  { diagnose, phase := .fresh, documents := .empty }

/-! ## Descriptions -/

/-- What the server can do: documents are sent whole, also when saved. -/
def capabilities : Json :=
  .obj
    [("textDocumentSync", .obj
      [("openClose", .bool true), ("change", .nat 1),
       ("save", .obj [("includeText", .bool true)])])]

def name : String := "tealsp"

def version : String := "0.1.0"

/-- The answer to the call that starts the server. -/
def description : Json :=
  .obj
    [("capabilities", capabilities),
     ("serverInfo", .obj [("name", .str name), ("version", .str version)])]

/-- Tells the editor that the server has started. -/
def greeting : Outgoing :=
  .notification "window/logMessage"
    (.obj [("type", .nat 3), ("message", .str "Server initialized")])

def publicationMessage (publication : Publication) : Outgoing :=
  let version := publication.version.toList.map fun version =>
    ("version", Json.int version)
  .notification "textDocument/publishDiagnostics"
    (.obj
      ([("uri", Json.str publication.uri),
        ("diagnostics",
          .array (publication.diagnostics.map Diagnostic.toJson))] ++ version))

/-! ## Parameters -/

def int32? (json : Json) : Option Int :=
  json.intIn? Int32.minValue.toInt Int32.maxValue.toInt

def uint32? (json : Json) : Option Int :=
  json.intIn? 0 (UInt32.size - 1)

def uri? (json : Json) : Option String :=
  json.string?.filter fun text => Uri.isValid text.toList

/-- The only field of a record. -/
def only? {α : Type} (name : String) (decode : Json → Option α)
    (json : Json) : Option α := do
  match ← json.fields? [name] with
  | [value] => value.required decode
  | _ => none

def opened? (json : Json) : Option DocumentEvent := do
  match ← json.fields? ["uri", "languageId", "version", "text"] with
  | [uri, language, version, text] =>
    let _ ← language.required Json.string?
    return .opened (← uri.required uri?) (← version.required int32?)
      (← text.required Json.string?)
  | _ => none

/-- A document and its version. -/
def versioned? (json : Json) : Option (String × Int) := do
  match ← json.fields? ["uri", "version"] with
  | [uri, version] =>
    return (← uri.required uri?, ← version.required int32?)
  | _ => none

def position? (json : Json) : Option Unit := do
  match ← json.fields? ["line", "character"] with
  | [line, character] =>
    let _ ← line.required uint32?
    let _ ← character.required uint32?
  | _ => none

def range? (json : Json) : Option Unit := do
  match ← json.fields? ["start", "end"] with
  | [first, last] =>
    first.required position?
    last.required position?
  | _ => none

/-- The text of a change, whatever its range. -/
def change? (json : Json) : Option String := do
  match ← json.fields? ["range", "rangeLength", "text"] with
  | [range, length, text] =>
    let _ ← range.optional range?
    let _ ← length.optional uint32?
    text.required Json.string?
  | _ => none

def changed? (json : Json) : Option DocumentEvent := do
  match ← json.fields? ["textDocument", "contentChanges"] with
  | [document, changes] =>
    let (uri, version) ← document.required versioned?
    let texts ← changes.required fun
      | .array items => items.mapM change?
      | _ => none
    return .changed uri version texts
  | _ => none

def saved? (json : Json) : Option DocumentEvent := do
  match ← json.fields? ["textDocument", "text"] with
  | [document, text] =>
    return .saved (← document.required (only? "uri" uri?))
      (← text.optional Json.string?)
  | _ => none

/-- The event that a notification reports, if it is well formed. -/
def documentEvent? (method : String) (params : Json) :
    Option DocumentEvent :=
  match method with
  | "textDocument/didOpen" => only? "textDocument" opened? params
  | "textDocument/didChange" => changed? params
  | "textDocument/didSave" => saved? params
  | "textDocument/didClose" =>
    (only? "textDocument" (only? "uri" uri?) params).map .closed
  | _ => none

/-- Checks the shape of parameters. -/
def checkParams (shape : Json.Shape) : Option Json → Option RpcError
  | none => some (.invalidParams "Missing params field")
  | some params =>
    match shape.read false params with
    | .ok _ => none
    | .error fault => some (.invalidParams fault.message)

/-- The call that an editor no longer wants an answer to. -/
def cancelled? (params : Json) : Option CallId :=
  only? "id" (fun json =>
    if json matches .null then none else CallId.decode? json) params

/-! ## Tasks -/

/-- What an editor may tell servers. -/
def notices : List String :=
  ["initialized", "textDocument/didOpen", "textDocument/didChange",
   "textDocument/willSave", "textDocument/didSave", "textDocument/didClose",
   "notebookDocument/didOpen", "notebookDocument/didChange",
   "notebookDocument/didSave", "notebookDocument/didClose",
   "workspace/didChangeConfiguration", "workspace/didChangeWorkspaceFolders",
   "workspace/didCreateFiles", "workspace/didRenameFiles",
   "workspace/didDeleteFiles", "workspace/didChangeWatchedFiles"]

/-- What is to be done for a call. -/
inductive Work where
  | nothing
  | answer (message : Outgoing)
  /-- Starts the server, unless there is a reason not to. -/
  | start (id : Option CallId) (refusal : Option RpcError)
  | document (event : DocumentEvent)
  | cancel (id : CallId)

/-- A call that was accepted. -/
structure Task where
  work : Work
  /-- The identifier under which the call can be cancelled. -/
  pending : Option CallId

namespace Task

/-- A task that cannot be cancelled. -/
def plain (work : Work) : Task := { work, pending := none }

/-- An error for whoever wants an answer. -/
def refusal (id : Option CallId) (error : RpcError) : Task :=
  plain (match id with
    | none => .nothing
    | some id => .answer (.failure id error))

/-- A task that can be cancelled.  No two of them have one identifier. -/
def register (pending : List CallId) (id : CallId) (work : Work) : Task :=
  if pending.contains id then refusal (some id) .invalidRequest
  else { work, pending := some id }

end Task

/-- The error of a call that comes too early or too late. -/
def phaseError : Phase → RpcError
  | .fresh => .notStarted
  | _ => .invalidRequest

/-- Accepts the call that starts the server. -/
def acceptStart (phase : Phase) (pending : List CallId) (call : Call) :
    Task :=
  match phase, call.id with
  | .fresh, none => .plain (.start none (some .invalidRequest))
  | .fresh, some id =>
    if pending.contains id then
      .plain (.start (some id) (some .invalidRequest))
    else
      { work := .start (some id) (checkParams Client.shape call.params)
        pending := some id }
  | _, id => .refusal id .invalidRequest

/-- The answer to the call that shuts the server down. -/
def shutDownAnswer (id : CallId) : Option Json → Outgoing
  | none => .result id .null
  | some params =>
    .failure id (.invalidParams ("Unexpected params: " ++ params.render))

/-- Accepts a call that is understood, but not supported. -/
def acceptQuery (pending : List CallId) (shape : Json.Shape) (call : Call) :
    Task :=
  match call.id with
  | none => .plain .nothing
  | some id =>
    let error := (checkParams shape call.params).getD .unsupportedMethod
    .register pending id (.answer (.failure id error))

/-- Accepts what an editor tells.  Whoever wants an answer to it is
refused. -/
def acceptNotice (pending : List CallId) (call : Call) : Task :=
  match call.id with
  | some id =>
    .register pending id (.answer (.failure id .invalidRequest))
  | none =>
    match call.params.bind (documentEvent? call.method) with
    | some event => .plain (.document event)
    | none => .plain .nothing

/-- Accepts a cancellation. -/
def acceptCancel (call : Call) : Task :=
  match call.id, call.params.bind cancelled? with
  | some id, _ => .refusal (some id) .invalidRequest
  | none, some id => .plain (.cancel id)
  | none, none => .plain .nothing

/-- A method that nobody knows; one of a single implementation may be
ignored. -/
def acceptUnknown (call : Call) : Task :=
  if "$/".toList.isPrefixOf call.method.toList then .plain .nothing
  else .refusal call.id (.unknownMethod call.method)

/-- Accepts a call.  Some calls only make sense while the server runs. -/
def accept (phase : Phase) (pending : List CallId) (call : Call) :
    Phase × Task :=
  let whileRunning (task : Task) : Task :=
    if phase = .running then task else .refusal call.id (phaseError phase)
  match call.method with
  | "initialize" => (phase, acceptStart phase pending call)
  | "shutdown" =>
    (if phase = .running then .shutDown else phase,
      whileRunning (match call.id with
        | none => .plain .nothing
        | some id =>
          .register pending id (.answer (shutDownAnswer id call.params))))
  | "exit" => (.exited, .plain .nothing)
  | "$/cancelRequest" => (phase, acceptCancel call)
  | method =>
    match Query.shapes.lookup method with
    | some shape => (phase, whileRunning (acceptQuery pending shape call))
    | none =>
      if notices.contains method then
        (phase, whileRunning (acceptNotice pending call))
      else (phase, acceptUnknown call)

/-! ## Carrying out tasks -/

/-- Takes in an event of a document. -/
def notice (server : Server) (event : DocumentEvent) :
    Server × List Outgoing :=
  let (documents, publication) :=
    server.documents.handle server.diagnose event
  ({ server with documents },
    publication.toList.map publicationMessage)

/-- Starts the server, unless there is a reason not to. -/
def start (server : Server) (id : Option CallId) :
    Option RpcError → Server × List Outgoing
  | some error =>
    ({ server with phase := .fresh },
      id.toList.map fun id => .failure id error)
  | none =>
    ({ server with phase := .running },
      greeting :: id.toList.map fun id => .result id description)

/-- Carries out what is to be done.  A cancellation leaves nothing to do
here. -/
def perform (server : Server) : Work → Server × List Outgoing
  | .nothing | .cancel _ => (server, [])
  | .answer message => (server, [message])
  | .start id refusal => server.start id refusal
  | .document event => server.notice event

/-- A task that was cancelled. -/
def abandon (server : Server) (id : CallId) (work : Work) :
    Server × List Outgoing :=
  match work with
  | .start _ _ => server.start (some id) (some .cancelled)
  | _ => (server, [.failure id .cancelled])

/-- Carries out tasks in order, but for those with cancelled identifiers. -/
def performAll (server : Server) (cancelled : List CallId) :
    List Task → Server × List Outgoing
  | [] => (server, [])
  | task :: tasks =>
    let (server, first) := match task.pending with
      | some id =>
        if cancelled.contains id then server.abandon id task.work
        else server.perform task.work
      | none => server.perform task.work
    let cancelled := match task.work with
      | .cancel id => id :: cancelled
      | _ => cancelled
    let (server, more) := performAll server cancelled tasks
    (server, first ++ more)

/-- The identifiers under which tasks can be cancelled. -/
def pendingIds (tasks : List Task) : List CallId :=
  tasks.filterMap (·.pending)

/-- Carries out tasks when the server is asked to exit: all that can be
cancelled is cancelled, and nothing but answers is sent. -/
def leave (server : Server) (tasks : List Task) : Server × List Outgoing :=
  let (server, messages) := server.performAll (pendingIds tasks) tasks
  ({ server with phase := .exited }, messages.filter Outgoing.isAnswer)

end Server

end TealTools.LanguageServer
