import TealTools.Json.Decode
import TealTools.Json.Printer

/-!
# Remote calls

A call names a method and may have parameters.  One with an identifier wants
an answer, which repeats the identifier and holds a result or an error.
-/

namespace TealTools.LanguageServer

/-- What an answer repeats of its call. -/
inductive CallId where
  | number (value : Int)
  | text (value : String)
  | null
  deriving DecidableEq, Repr

structure Call where
  method : String
  params : Option Json
  id : Option CallId
  deriving Repr

/-- What an editor sends. -/
inductive Incoming where
  | call (call : Call)
  /-- The answer to a call of the server. -/
  | answer
  deriving Repr

/-- Why a call has no result. -/
inductive RpcError where
  | malformed
  | invalidRequest
  | unknownMethod (name : String)
  | unsupportedMethod
  | invalidParams (reason : String)
  | notStarted
  | cancelled
  deriving DecidableEq, Repr

namespace RpcError

def code : RpcError → Int
  | malformed => -32700
  | invalidRequest => -32600
  | unknownMethod _ | unsupportedMethod => -32601
  | invalidParams _ => -32602
  | notStarted => -32002
  | cancelled => -32800

def message : RpcError → String
  | malformed => "Parse error"
  | invalidRequest => "Invalid request"
  | unknownMethod _ | unsupportedMethod => "Method not found"
  | invalidParams reason => reason
  | notStarted => "Server not initialized"
  | cancelled => "Canceled"

def toJson (error : RpcError) : Json :=
  let data := match error with
    | unknownMethod name => [("data", Json.str name)]
    | _ => []
  .obj ([("code", Json.int error.code), ("message", .str error.message)] ++ data)

end RpcError

/-- What the server sends. -/
inductive Outgoing where
  | result (id : CallId) (value : Json)
  | failure (id : CallId) (error : RpcError)
  | notification (method : String) (params : Json)
  deriving Repr

namespace CallId

def toJson : CallId → Json
  | number value => .int value
  | text value => .str value
  | null => .null

def decode? : Json → Option CallId
  | .null => some null
  | .string value => value.map text
  | json => json.int64?.map number

end CallId

namespace Outgoing

/-- Does the message answer a call? -/
def isAnswer : Outgoing → Bool
  | result _ _ | failure _ _ => true
  | notification _ _ => false

def toJson : Outgoing → Json
  | result id value =>
    .obj [("jsonrpc", .str "2.0"), ("result", value), ("id", id.toJson)]
  | failure id error =>
    .obj [("jsonrpc", .str "2.0"), ("error", error.toJson), ("id", id.toJson)]
  | notification method params =>
    .obj [("jsonrpc", .str "2.0"), ("method", .str method),
      ("params", params)]

end Outgoing

namespace Incoming

/-- The only version of the protocol. -/
def version? : Json → Option Unit
  | .string (some "2.0") => some ()
  | _ => none

/-- The error of an answer. -/
def error? (json : Json) : Option Unit := do
  match ← json.fields? ["code", "message", "data"] with
  | [code, message, _] =>
    let _ ← code.required Json.int64?
    let _ ← message.required Json.string?
  | _ => none

/-- An answer has an identifier, and a result or an error. -/
def answer? : Json → Option Unit
  | .object members => do
    match ← ["jsonrpc", "id", "result", "error"].mapM
        (Json.member? members) with
    | [version, id, result, error] =>
      version.required version?
      let _ ← id.required CallId.decode?
      result.required (fun _ => some ()) <|> error.required error?
    | _ => none
  | _ => none

def call? (json : Json) : Option Call := do
  match ← json.fields? ["jsonrpc", "method", "params", "id"] with
  | [version, method, params, id] =>
    version.required version?
    let method ← method.withDefault "" Json.string?
    let params ← params.nullable fun json => json.normal? Json.maxDepth
    let id ← id.withDefault none fun json => (CallId.decode? json).map some
    return { method, params, id }
  | _ => none

/-- What a document says, if it says anything. -/
def decode? (json : Json) : Option Incoming :=
  match answer? json with
  | some () => some answer
  | none => (call? json).map call

end Incoming

end TealTools.LanguageServer
