import HostLink.Bytes
import HostLink.Text.Utf8
import HostLink.Text.Printable
import HostLink.Text.Quoted
import HostLink.Cell.Field
import HostLink.Callback.Kind
import HostLink.Fault
import HostLink.Cell.Reader
import HostLink.Cell.Writer
import HostLink.Json.Basic
import HostLink.Json.Reader
import HostLink.Json.Printer
import HostLink.Frame.Basic
import HostLink.Frame.Buffer
import HostLink.Command
import HostLink.Answer
import HostLink.Settings.Pause
import HostLink.Settings.Session
import HostLink.Settings.Pipe
import HostLink.Announcement
import HostLink.Callback.Param
import HostLink.Callback.Table
import HostLink.Callback.Call
import HostLink.WeaponShot
import HostLink.Native.Script
import HostLink.Native.Table
import HostLink.Native.Result
import HostLink.Status
import HostLink.Lifecycle
import HostLink.Notice
import HostLink.Pause
import HostLink.Channel
import HostLink.Session.Journal
import HostLink.Session.Basic
import HostLink.Session.Link
import HostLink.Session.Serve
import HostLink.Session.Drive
import HostLink.Session.Patience
import HostLink.Handle
import HostLink.Pipe.Sockets
import HostLink.Pipe.Basic
import HostLink.Pipe.Local
import HostLink.Scripted.Wire
import HostLink.Scripted.Catalog
import HostLink.Proofs.Channel
import HostLink.Proofs.Session.Quiet
import HostLink.Proofs.Session.Passage
import HostLink.Proofs.Session.Gate
import HostLink.Proofs.Session.Served
import HostLink.Proofs.Session.Conduct
import HostLink.Proofs.Session.Move
import HostLink.Proofs.Session.Kind
import HostLink.Proofs.Session.Run
import HostLink.Proofs.Session.Trace
import HostLink.Proofs.Session.Memory
import HostLink.Proofs.Session.Succession
import HostLink.Proofs.Session.RoundTrip
import HostLink.Proofs.Session.Scan
import HostLink.Proofs.Session.Firm
import HostLink.Proofs.Session.Course
import HostLink.Proofs.Payload
import HostLink.Proofs.Native.Table
import HostLink.Proofs.Session.Traffic
import HostLink.Proofs.Session.Brings
import HostLink.Proofs.Session.Permission
import HostLink.Proofs.Session.Size
import HostLink.Proofs.Session.Ledger
import HostLink.Proofs.Session.Answered
import HostLink.Proofs.Session.Conversation
import HostLink.Proofs.Session.Refinement
import HostLink.Proofs.Cell.RoundTrip
import HostLink.Proofs.Callback.Fields
import HostLink.Proofs.Callback.RoundTrip
import HostLink.Proofs.Frame.Feed
import HostLink.Proofs.Frame.Stream
import HostLink.Proofs.Pipe.Run
import HostLink.Proofs.Pipe.Isolation
import HostLink.Proofs.Pipe.Delivery
import HostLink.Proofs.Session.Departure
import HostLink.Proofs.Session.Hushed
import HostLink.Proofs.Session.Announced
import HostLink.Proofs.Session.Handshake
import HostLink.Proofs.Session.Face
import HostLink.Proofs.Session.Mirror
import HostLink.Proofs.Session.Loss
import HostLink.Proofs.Channel.Supply
import HostLink.Proofs.Channel.Tape
import HostLink.Proofs.Session.Logged
import HostLink.Proofs.Session.Ending
import HostLink.Proofs.Channel.Insertion
import HostLink.Proofs.Session.Alike
import HostLink.Proofs.Session.Bisimulation
import HostLink.Proofs.Session.Undisturbed
import HostLink.Proofs.Callback.Record
import HostLink.Proofs.Callback.Encoding
import HostLink.Proofs.Callback.Decoding
import HostLink.Proofs.Session.Forward
import HostLink.Proofs.Pause.Run
import HostLink.Proofs.Pause.Awake
import HostLink.Proofs.Pause.Count
import HostLink.Proofs.Pause.Ration
import HostLink.Proofs.Session.Watch
import HostLink.Proofs.Native.Handles
import HostLink.Proofs.Session.Lent
import HostLink.Proofs.Cell.Sequence
import HostLink.Proofs.Frame.Account
import HostLink.Proofs.Text.Boundary
import HostLink.Proofs.Announcement
import HostLink.Proofs.Reentry
import HostLink.Proofs.Json
import HostLink.Proofs.Settings
import HostLink.Proofs.Answer
