import Benchtop.Action
import Benchtop.CommandLine.Arguments
import Benchtop.CommandLine.Command
import Benchtop.CommandLine.Help
import Benchtop.CommandLine.Program
import Benchtop.CommandLine.Report
import Benchtop.Duration
import Benchtop.Failure
import Benchtop.Host.Basic
import Benchtop.Host.Bus
import Benchtop.Host.Device
import Benchtop.Link.Basic
import Benchtop.Link.Control
import Benchtop.Link.Message
import Benchtop.Link.Opening
import Benchtop.Link.Recovery
import Benchtop.Main
import Benchtop.Profile
import Benchtop.Proofs.Action
import Benchtop.Proofs.Host.Supply
import Benchtop.Proofs.Link.Ending
import Benchtop.Proofs.Link.Moves
import Benchtop.Proofs.Link.Opening
import Benchtop.Proofs.Link.Reading
import Benchtop.Proofs.Link.Transfer
import Benchtop.Proofs.Link.Writing
import Benchtop.Proofs.Scripted.Calls
import Benchtop.Proofs.Scripted.Custody
import Benchtop.Proofs.Scripted.Supply
import Benchtop.Proofs.Session.Custody
import Benchtop.Proofs.Session.Dialogue
import Benchtop.Proofs.Session.Run
import Benchtop.Proofs.Session.Writing
import Benchtop.Proofs.Text.Reading
import Benchtop.Proofs.Trace
import Benchtop.Proofs.Wire.Block
import Benchtop.Proofs.Wire.Envelope
import Benchtop.Queue
import Benchtop.Resource.Address
import Benchtop.Resource.Basic
import Benchtop.Resource.Discovery
import Benchtop.Scripted.Bus
import Benchtop.Scripted.Device
import Benchtop.Session
import Benchtop.Settings.Basic
import Benchtop.Settings.File
import Benchtop.Settings.Toml
import Benchtop.Text.Blank
import Benchtop.Text.Digits
import Benchtop.Text.GraphemeExtend
import Benchtop.Text.Quoted
import Benchtop.Text.Response
import Benchtop.Text.Unprintable
import Benchtop.Text.Utf8
import Benchtop.Toml.Basic
import Benchtop.Toml.Reader
import Benchtop.Toml.Scalar
import Benchtop.Toml.Text
import Benchtop.Usb.BusError
import Benchtop.Usb.Descriptor
import Benchtop.Usb.Device
import Benchtop.Usb.Recorder
import Benchtop.Wire.Block
import Benchtop.Wire.Capabilities
import Benchtop.Wire.Envelope
import Benchtop.Wire.Request
import Benchtop.Wire.Status
import Benchtop.Wire.Tag
import Benchtop.Proofs.Resource.Address
import Benchtop.Proofs.Resource.Listing
import Benchtop.Proofs.Session.TagOrder
import Benchtop.Proofs.Link.Recovery
import Benchtop.Proofs.Link.Course
import Benchtop.Proofs.Session.Recovery
import Benchtop.Proofs.Link.HandingBack
import Benchtop.Proofs.CommandLine.FrontPanel
import Benchtop.Proofs.Link.Blocks
import Benchtop.Proofs.Session.Brackets
import Benchtop.Proofs.Link.Support
import Benchtop.Proofs.Session.Advertised
import Benchtop.Proofs.Link.Acceptance
import Benchtop.Proofs.Session.Acceptance
import Benchtop.Proofs.Link.Status
import Benchtop.Proofs.Session.StatusOrder
import Benchtop.Proofs.Link.Switches
import Benchtop.Proofs.Session.Flags
import Benchtop.Proofs.Link.Transparency
import Benchtop.Proofs.Session.Transparency
import Benchtop.Proofs.Resource.Shorthand
import Benchtop.Proofs.Resource.Naming
import Benchtop.Proofs.Text.Utf8
import Benchtop.Proofs.Toml.Entries
import Benchtop.Proofs.Toml.Dialect
import Benchtop.Proofs.Toml.Lines
import Benchtop.Proofs.Toml.Documents
import Benchtop.Proofs.Settings.Library
import Benchtop.Proofs.Settings.File
import Benchtop.Proofs.Host.Ledger
import Benchtop.Proofs.Host.Return
import Benchtop.Proofs.Wire.Checked
import Benchtop.Proofs.Link.Checked
import Benchtop.Proofs.Session.Checked
import Benchtop.Proofs.CommandLine.Return
import Benchtop.Proofs.Link.Counts
import Benchtop.Proofs.Link.Markers
import Benchtop.Proofs.Link.Choices
import Benchtop.Proofs.Link.Outcome
import Benchtop.Proofs.Link.Closing
import Benchtop.Proofs.Session.Closing
import Benchtop.Proofs.Link.Clearing
import Benchtop.Proofs.Session.Clearing
import Benchtop.Proofs.Link.Profiles
import Benchtop.Proofs.Text.Response
import Benchtop.Proofs.Text.Grammar
import Benchtop.Proofs.Resource.Grammar
import Benchtop.Proofs.Link.Fetching
import Benchtop.Proofs.Link.Timeouts
import Benchtop.Proofs.Session.Timeouts
import Benchtop.Proofs.Link.Unsplit
import Benchtop.Proofs.Host.Endpoints
import Benchtop.Proofs.Host.Reads
import Benchtop.Proofs.Session.StatusQuery
import Benchtop.Proofs.Link.Polling
import Benchtop.Proofs.Scripted.Attaching
import Benchtop.Proofs.Session.Listed
