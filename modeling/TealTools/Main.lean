import TealTools.Program

/-!
# The program

Reads the command line, and serves an editor over standard input and output.
Nodes and editors that listen elsewhere are out of its reach.
-/

namespace TealTools.Main

/-- What the program says about itself. -/
def usageText : String :=
  "\n".intercalate
    ["Language server and debug adapter for TEAL",
     "",
     "Usage: tealsp [OPTIONS]",
     "       tealsp <COMMAND>",
     "",
     "Commands:",
     "  dbg   Start a debug adapter that replays TEAL execution traces",
     "  help  Print this message",
     "",
     "Options:",
     "      --net <NET>      Network used to reach the editor [default: tcp]",
     "      --addr <ADDR>    Address to dial; serve over stdio when empty",
     "      --debug <DEBUG>  Write a copy of all protocol traffic to this file",
     "  -h, --help           Print help",
     "  -V, --version        Print version",
     "",
     "Options of dbg:",
     "      --debug <DEBUG>      Write a copy of all protocol traffic",
     "      --config <CONFIG>    Static debugger configuration (JSON)",
     "      --algod <URL>        algod endpoint used for live simulation",
     "      --algod-token <ALGOD_TOKEN>",
     "                           API token sent to the algod endpoint",
     "      --replay <REPLAY>    Recorded simulate response to replay",
     "  -h, --help               Print help"]

/-- Prints why the program does not run. -/
def refuse (refusal : CommandLine.Refusal) : IO UInt32 := do
  match refusal with
  | .help => IO.println usageText
  | .version =>
    IO.println (LanguageServer.Server.name ++ " " ++
      LanguageServer.Server.version)
  | .invalidValue => IO.eprintln "error: invalid value for an option"
  | .tooManyValues => IO.eprintln "error: unexpected value for a flag"
  | .invalidText => IO.eprintln "error: invalid UTF-8 was given"
  | .unknownArgument => IO.eprintln "error: unexpected argument"
  | .unknownCommand => IO.eprintln "error: unrecognized subcommand"
  | .conflict => IO.eprintln "error: arguments cannot be used together"
  return UInt32.ofNat refusal.status

/-- Prints a report and ends. -/
def fail (report : Report) : IO UInt32 := do
  IO.eprintln s!"{report.code}: {report.message}"
  for help in report.help do
    IO.eprintln ("help: " ++ help)
  return UInt32.ofNat report.status

def fileError : IO.Error → FileError
  | .noFileOrDirectory _ _ _ => .notFound
  | .inappropriateType _ _ _ => .isDirectory
  | error => .other (toString error)

def bytesOf (array : ByteArray) : Bytes := array.data.toList

def arrayOf (bytes : Bytes) : ByteArray := ⟨bytes.toArray⟩

/-- Puts a file of the system among the files of a session. -/
def load (files : Files) (path : Bytes) : IO Files := do
  match Text.ofUtf8? path with
  | none => return files
  | some text =>
    try
      let content ← IO.FS.readBinFile (String.ofList text)
      return files.put path (.file (bytesOf content))
    catch error =>
      match fileError error with
      | .isDirectory => return files.put path .directory
      | _ => return files

/-- A log, without what its file has already taken, and the file. -/
structure LogFile where
  log : TrafficLog
  handle : IO.FS.Handle

abbrev Log : Type := IO.Ref (Option LogFile)

/-- Creates the file of a log, if there is one. -/
def createLog (path : Option Bytes) :
    IO (Except (Bytes × FileError) Log) := do
  match path with
  | none => return .ok (← IO.mkRef none)
  | some path =>
    try
      let name := String.ofList (Text.ofUtf8 path)
      let handle ← IO.FS.Handle.mk name .write
      return .ok (← IO.mkRef (some { log := .fresh none, handle }))
    catch error => return .error (path, fileError error)

/-- Records a transfer.  A file that does not take what the log adds closes
the log. -/
def record (log : Log) (direction : Direction) (bytes : Bytes) : IO Unit := do
  for file in (← log.get) do
    let added := file.log.record direction bytes
    try
      file.handle.write (arrayOf added.content)
      file.handle.flush
      log.set (some { file with log := { added with content := [] } })
    catch _ =>
      let closed : TrafficLog := { added with content := [], isOpen := false }
      log.set (some { file with log := closed })

/-- Reads the next bytes of the editor, none at the end. -/
def receive (log : Log) : IO Bytes := do
  let bytes := bytesOf (← (← IO.getStdin).read 65536)
  record log .incoming bytes
  return bytes

/-- Writes pieces to the editor. -/
def send (log : Log) (pieces : List Bytes) : IO Unit := do
  let stdout ← IO.getStdout
  for piece in pieces do
    stdout.write (arrayOf piece)
    record log .outgoing piece
  stdout.flush

/-! ## Debugging -/

/-- The program that a launch request reads. -/
def launched? (adapter : Debugger.Adapter) :
    Debugger.Command → Option String
  | .launch arguments =>
    match Debugger.LaunchArguments.ofRequest arguments with
    | .ok arguments => arguments.program <|> adapter.config.program
    | .error _ => none
  | _ => none

/-- Carries out one request and sends the answer. -/
def answer (log : Log) (service : Debugger.Service)
    (request : Debugger.Request) : IO Debugger.Service := do
  let files ← match launched? service.adapter request.command with
    | some path => load .empty (Text.utf8 path.toList)
    | none => pure .empty
  let environment : Debugger.Environment := { files, network := .none }
  let (_, after) := service.handle environment request
  let fresh := after.outbox.arrived.drop service.outbox.arrived.length
  for (seq, message) in fresh do
    send log (Debugger.Outbox.pieces seq message)
  return { after with outbox := { after.outbox with arrived := [] } }

/-- Serves requests until the editor disconnects or the input ends. -/
partial def debugLoop (log : Log)
    (service : Debugger.Service) (input : Bytes) (isOver : Bool) :
    IO (Except Debugger.ServeError Unit) := do
  if !isOver && !Debugger.Frame.isSettled input then
    let bytes ← receive log
    debugLoop log service (input ++ bytes) bytes.isEmpty
  else
    match Debugger.Frame.next input with
    | .ok none => return .ok ()
    | .error cause => return .error cause
    | .ok (some (content, rest)) =>
      match Debugger.Frame.request content with
      | .error cause => return .error cause
      | .ok request =>
        let service ← answer log service request
        if Debugger.Adapter.endsSession request.command then return .ok ()
        else debugLoop log service rest isOver

/-- Debugs with the sources of the command line. -/
def debug (sources : Debugger.Sources) : IO UInt32 := do
  match ← createLog sources.log with
  | .error (path, cause) =>
    fail (Debugger.SetupError.debugLog path cause).report
  | .ok log =>
    let paths := sources.config.toList ++ sources.replay.toList
    let files ← paths.foldlM load .empty
    match ({ sources with log := none }).session files with
    | (_, .error error) => fail error.report
    | (_, .ok session) =>
      let service : Debugger.Service :=
        { adapter := session.adapter, outbox := .empty none, sent := [] }
      match ← debugLoop log service [] false with
      | .ok () => return 0
      | .error cause =>
        fail (Debugger.SetupError.serving cause.message).report

/-! ## Serving an editor -/

/-- Sends what the server has to say. -/
def sendAll (log : Log)
    (messages : List LanguageServer.Outgoing) : IO Unit :=
  for message in messages do
    send log [Framing.framed (Text.utf8 message.toJson.write)]

/-- Hands bytes to the server until the connection is over. -/
partial def serveLoop (log : Log)
    (connection : LanguageServer.Connection) : IO Unit := do
  unless connection.isOver do
    let bytes ← receive log
    if bytes.isEmpty then
      sendAll log connection.close.2
    else
      let (connection, messages) := connection.receive bytes
      sendAll log messages
      serveLoop log connection

/-- Serves an editor. -/
def serve (options : CommandLine.ServeOptions) : IO UInt32 := do
  let around : LanguageServer.Surroundings :=
    { listening := [], files := .empty }
  match LanguageServer.Transport.select around options.network
      options.address with
  | .error error => fail error.report
  | .ok _ =>
    let connection := LanguageServer.Connection.fresh Diagnostic.ofSource
    match ← createLog (CommandLine.logPath? options.log) with
    | .error (path, cause) =>
      fail (LanguageServer.SetupError.debugLog path cause).report
    | .ok log =>
      serveLoop log connection
      return 0

end TealTools.Main

open TealTools in
/-- Runs the program with its arguments. -/
def main (arguments : List String) : IO UInt32 := do
  let arguments := arguments.map fun argument => Text.utf8 argument.toList
  match CommandLine.Invocation.ofArguments arguments with
  | .error refusal => Main.refuse refusal
  | .ok invocation =>
    match invocation.debug with
    | some options => Main.debug options.sources
    | none => Main.serve invocation.serve
