import TealTools.Debugger.Adapter
import TealTools.Debugger.Frame
import TealTools.Debugger.Outbox

/-!
# Serving a debug session

Requests are taken from the input one by one.  Each is carried out and
answered before the next is looked at, until the editor disconnects or the
input ends.  Lines for the debug console are forwarded in between.
-/

namespace TealTools.Debugger

structure Service where
  adapter : Adapter
  outbox : Outbox
  /-- The requests that nodes have seen. -/
  sent : List Node.Request

namespace Service

/-- A service that has not sent anything yet. -/
def fresh (adapter : Adapter) (limit : Option Nat) : Service :=
  { adapter, outbox := .empty limit, sent := [] }

/-- Forwards lines for the debug console. -/
def forward (service : Service) (lines : List String) : Service :=
  { service with outbox := service.outbox.sendLines lines }

/-- Carries out a request and answers it.  The result tells whether the
answer arrived. -/
def handle (service : Service) (environment : Environment)
    (request : Request) : Bool × Service :=
  let outcome := service.adapter.execute environment request.command
  let (arrived, outbox) := service.outbox.sendAll (outcome.messages request)
  (arrived,
    { adapter := outcome.adapter, outbox, sent := service.sent ++ outcome.sent })

/-- Serves the requests of the input.  The console is looked at before a
request is taken and again once it is answered; `console` lists the lines that
wait there each time. -/
def run (environment : Environment) (service : Service)
    (console : List (List String)) (input : Bytes) :
    Service × Except ServeError Unit :=
  let waiting := service.forward (console.headD [])
  match _ : Frame.next input with
  | .error cause => (waiting, .error cause)
  | .ok none => (waiting, .ok ())
  | .ok (some (content, rest)) =>
    match Frame.request content with
    | .error cause => (waiting, .error cause)
    | .ok request =>
      match waiting.handle environment request with
      | (false, after) => (after, .error .inputOutput)
      | (true, after) =>
        let answered := after.forward (console.tail.headD [])
        if Adapter.endsSession request.command then (answered, .ok ())
        else run environment answered (console.drop 2) rest
termination_by input.length
decreasing_by exact Frame.length_next_rest ‹_›

/-- Serves an adapter, with lines for the debug console that wait at the
start. -/
def serve (environment : Environment) (adapter : Adapter)
    (limit : Option Nat) (lines : List String) (input : Bytes) :
    Service × Except ServeError Unit :=
  run environment (.fresh adapter limit) [lines] input

end Service

end TealTools.Debugger
