import TealTools.Json.Decode

/-!
# Debugger configuration

Settings that hold for every launch of a session: the program, whether to
stop before its first opcode, and how to simulate an execution on a node.
-/

namespace TealTools.Debugger

/-- A node by its address, and the token that it asks for. -/
structure NodeConfig where
  address : String
  token : String
  deriving DecidableEq, Repr

structure Config where
  /-- The source file that program counters are mapped to. -/
  program : Option String
  stopOnEntry : Option Bool
  node : Option NodeConfig
  /-- The request that is simulated when nothing was recorded. -/
  simulate : Option Json
  deriving Repr

def Config.empty : Config :=
  { program := none, stopOnEntry := none, node := none, simulate := none }

def NodeConfig.toJson (node : NodeConfig) : Json :=
  .obj [("address", .str node.address), ("token", .str node.token)]

def NodeConfig.decode? : Nat → Json → Option NodeConfig
  | 0, _ => none
  | _ + 1, json => do
    match ← json.fields? ["address", "token"] with
    | [address, token] =>
      return { address := ← address.required Json.string?
               token := ← token.withDefault "" Json.string? }
    | _ => none

namespace Config

def toJson (config : Config) : Json :=
  .obj
    [("program", Json.ofOption .str config.program),
     ("stopOnEntry", Json.ofOption .bool config.stopOnEntry),
     ("algod", Json.ofOption NodeConfig.toJson config.node),
     ("simulate", config.simulate.getD .null)]

def decodeAt? : Nat → Json → Option Config
  | 0, _ => none
  | depth + 1, json => do
    match ← json.fields? ["program", "stopOnEntry", "algod", "simulate"] with
    | [program, stopOnEntry, node, simulate] =>
      return { program := ← program.optional Json.string?
               stopOnEntry := ← stopOnEntry.optional Json.bool?
               node := ← node.optional (NodeConfig.decode? depth)
               simulate := ← simulate.optional (Json.normal? depth) }
    | _ => none

/-- The configuration that a document describes. -/
def decode? (json : Json) : Option Config :=
  decodeAt? Json.maxDepth json

end Config

end TealTools.Debugger
