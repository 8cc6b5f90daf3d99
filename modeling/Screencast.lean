import Screencast.Main
import Screencast.Proofs.Pattern.Find
import Screencast.Proofs.Text.Words
import Screencast.Proofs.Text.Lines
import Screencast.Proofs.Text.Numeral
import Screencast.Proofs.Text.Utf8
import Screencast.Proofs.Listing.Line
import Screencast.Proofs.Listing.Entries
import Screencast.Proofs.Listing.LineAlone
import Screencast.Proofs.Listing.Serial
import Screencast.Proofs.Listing.Printed
import Screencast.Proofs.Listing.Reread
import Screencast.Proofs.Session.Effects
import Screencast.Proofs.Tool.Invoke
import Screencast.Proofs.Tool.Start
import Screencast.Proofs.Tool.Agreement
import Screencast.Proofs.Json.Reader
import Screencast.Proofs.Json.RoundTrip
import Screencast.Proofs.Device.Devices
import Screencast.Proofs.Device.Bytes
import Screencast.Proofs.Device.Level
import Screencast.Proofs.Request.Run
import Screencast.Proofs.Request.Target
import Screencast.Proofs.Request.Trace
import Screencast.Proofs.Request.Advisory
import Screencast.Proofs.Request.Document
import Screencast.Proofs.Request.Outcome
import Screencast.Proofs.Request.TextListing
import Screencast.Proofs.CommandLine.Item
import Screencast.Proofs.CommandLine.Word
import Screencast.Proofs.CommandLine.Scan
import Screencast.Proofs.CommandLine.Written
import Screencast.Proofs.CommandLine.Front
import Screencast.Proofs.CommandLine.Extra
import Screencast.Proofs.Request.ListAlone
import Screencast.Proofs.Request.Severity
import Screencast.Proofs.Request.Advice
import Screencast.Proofs.Request.Verbose
import Screencast.Proofs.Cast.Arguments
import Screencast.Proofs.CommandLine.Serial
import Screencast.Proofs.Program.ExitCode
import Screencast.Proofs.Program.Quiet
import Screencast.Proofs.Program.Limit
import Screencast.Proofs.Tool.Search
