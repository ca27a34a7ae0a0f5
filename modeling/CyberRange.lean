import CyberRange.Catalogue.Errors
import CyberRange.Catalogue.Raising
import CyberRange.Catalogue.Records
import CyberRange.Client.Call
import CyberRange.Client.Transport
import CyberRange.FileTree.Consistency
import CyberRange.Json.Printer
import CyberRange.Terminal.Overlap
import CyberRange.Proofs.Registry.Isolation
import CyberRange.Proofs.Registry.Lifetimes
import CyberRange.Proofs.FileTree.Ways
import CyberRange.Proofs.FileTree.Lookup
import CyberRange.Proofs.FileTree.Placing
import CyberRange.Proofs.FileTree.FlatMap
import CyberRange.Proofs.Terminal.InTurn
import CyberRange.Proofs.Terminal.Serial
import CyberRange.Proofs.Http.Utf8
import CyberRange.Proofs.Http.Escapes
import CyberRange.Proofs.Http.Literal
import CyberRange.Proofs.Client.Answers
import CyberRange.Proofs.Client.Direct
import CyberRange.Proofs.Client.Requests
import CyberRange.Proofs.Client.Sending
import CyberRange.Proofs.Messages.RoundTrip
import CyberRange.Proofs.FileTree.Audit
import CyberRange.Proofs.FileTree.Inspection
import CyberRange.Proofs.FileTree.Names
import CyberRange.Proofs.FileTree.Tidiness
import CyberRange.Proofs.Shell.Effects
import CyberRange.Proofs.Shell.Touch
import CyberRange.Proofs.Shell.Atomicity
import CyberRange.Proofs.Shell.Serial
import CyberRange.Proofs.Shell.Recording
import CyberRange.Proofs.Terminal.Tidiness
import CyberRange.Proofs.Terminal.Screen
import CyberRange.Proofs.Service.Effects
import CyberRange.Proofs.Service.Atomicity
import CyberRange.Proofs.Service.Growth
import CyberRange.Proofs.Client.Equivalence
import CyberRange.Proofs.Client.Unknown
import CyberRange.Proofs.Client.Unreliable
import CyberRange.Proofs.Client.Attempts
import CyberRange.Proofs.Client.Failures
import CyberRange.Proofs.Decimal.Doubles
import CyberRange.Proofs.Client.Waits
import CyberRange.Proofs.FileTree.Rendering
import CyberRange.Proofs.FileTree.Composition
import CyberRange.Proofs.Terminal.Directories
import CyberRange.Proofs.Terminal.Prompt
import CyberRange.Proofs.Service.Settings
import CyberRange.Proofs.Service.Startup
import CyberRange.Proofs.Network.LongestKey
import CyberRange.Proofs.Network.Identification
import CyberRange.Proofs.Shell.Independence
import CyberRange.Proofs.Terminal.Listing
import CyberRange.Proofs.Messages.Submission
import CyberRange.Proofs.Shell.Downloads
import CyberRange.Proofs.Shell.ScanReport
import CyberRange.Proofs.Validation.Reports
import CyberRange.Proofs.History.Recalling
import CyberRange.Proofs.Shell.Stamping
