import TealTools.Main
import TealTools.Debugger.Console
import TealTools.Json.Fault
import TealTools.Json.Reading
import TealTools.Json.Shape
import TealTools.Proofs.Assembly.Accounting
import TealTools.Proofs.Assembly.BlankLines
import TealTools.Proofs.Assembly.RoundTrip
import TealTools.Proofs.Assembly.Blame
import TealTools.Proofs.Assembly.Faults
import TealTools.Proofs.Assembly.Mapping
import TealTools.Proofs.Debugger.Breakpoints
import TealTools.Proofs.Debugger.Dialogue
import TealTools.Proofs.Debugger.Frame
import TealTools.Proofs.Debugger.Inspection
import TealTools.Proofs.Debugger.Agreement
import TealTools.Proofs.Debugger.Relaunch
import TealTools.Proofs.Debugger.SetUp
import TealTools.Proofs.Debugger.Service
import TealTools.Proofs.Debugger.Sources
import TealTools.Proofs.Diagnostic
import TealTools.Proofs.Files
import TealTools.Proofs.LanguageServer.Connection
import TealTools.Proofs.LanguageServer.Documents
import TealTools.Proofs.Node.Domain
import TealTools.Proofs.Pipe
import TealTools.Proofs.Program
import TealTools.Proofs.Protocol
import TealTools.Proofs.Assembly.Base64Constants
import TealTools.Proofs.Assembly.ByteConstants
import TealTools.Proofs.Debugger.Stepping
import TealTools.Proofs.Token.Order
import TealTools.Proofs.Assembly.Lookup
import TealTools.Proofs.Debugger.Evaluation
import TealTools.Proofs.Debugger.Segments
import TealTools.Proofs.Debugger.Verification
import TealTools.Proofs.CommandLine.Flags
import TealTools.Proofs.Debugger.OptionOrder
import TealTools.Proofs.Address
import TealTools.Proofs.Assembly.IntConstants
import TealTools.Proofs.Codec.Base32Texts
import TealTools.Proofs.TrafficLog
import TealTools.Proofs.AvmValue
