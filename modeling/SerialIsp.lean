import SerialIsp.Bytes
import SerialIsp.CommandLine.Arguments
import SerialIsp.CommandLine.Config
import SerialIsp.CommandLine.Desk
import SerialIsp.CommandLine.Grammar
import SerialIsp.CommandLine.Isp
import SerialIsp.CommandLine.Program
import SerialIsp.CommandLine.Reach
import SerialIsp.CommandLine.Wording
import SerialIsp.Failure
import SerialIsp.Files
import SerialIsp.Image
import SerialIsp.Notice
import SerialIsp.Part.Basic
import SerialIsp.Part.Catalog
import SerialIsp.Part.Fault
import SerialIsp.Part.Record
import SerialIsp.Part.Source
import SerialIsp.Programmer.Basic
import SerialIsp.Programmer.Flash
import SerialIsp.Programmer.Identify
import SerialIsp.Programmer.Plan
import SerialIsp.Session.Basic
import SerialIsp.Session.Commands
import SerialIsp.Session.Conversation
import SerialIsp.Session.Handshake
import SerialIsp.Session.Memory
import SerialIsp.Session.Phase
import SerialIsp.Session.Reading
import SerialIsp.Session.Scripted
import SerialIsp.Session.Serial
import SerialIsp.Session.Transport
import SerialIsp.Text.Blank
import SerialIsp.Text.CodePoints
import SerialIsp.Text.Glyph
import SerialIsp.Text.Hexdump
import SerialIsp.Text.Literal
import SerialIsp.Text.Quoted
import SerialIsp.Text.Radix
import SerialIsp.Text.Table
import SerialIsp.Text.Utf8
import SerialIsp.Text.Width
import SerialIsp.Text.Width.Character
import SerialIsp.Text.Width.Emoji
import SerialIsp.Text.Width.Ligature
import SerialIsp.Toml.Document
import SerialIsp.Toml.Node
import SerialIsp.Toml.Numbers
import SerialIsp.Toml.Reader
import SerialIsp.Toml.Strings
import SerialIsp.Wire.Block
import SerialIsp.Wire.Command
import SerialIsp.Wire.Line
import SerialIsp.Wire.Status
import SerialIsp.Main
import SerialIsp.Proofs.Bytes
import SerialIsp.Proofs.Device.Content
import SerialIsp.Proofs.Device.Effects
import SerialIsp.Proofs.Device.Memory
import SerialIsp.Proofs.Device.Replay
import SerialIsp.Proofs.Dialogue.Basic
import SerialIsp.Proofs.Dialogue.Commands
import SerialIsp.Proofs.Dialogue.Flash
import SerialIsp.Proofs.Dialogue.Follows
import SerialIsp.Proofs.Dialogue.Memory
import SerialIsp.Proofs.Dialogue.Replies
import SerialIsp.Proofs.Plans
import SerialIsp.Proofs.Schedule
import SerialIsp.Proofs.Transfer.Bounds
import SerialIsp.Proofs.Transfer.Log
import SerialIsp.Proofs.Transfer.Recovery
import SerialIsp.Proofs.Wire.Lines
import SerialIsp.Proofs.Wire.Grammar
import SerialIsp.Proofs.Wire.Numbers
import SerialIsp.Proofs.Wire.Orders
import SerialIsp.Proofs.Transfer.Sending
import SerialIsp.Proofs.Validation
import SerialIsp.Proofs.Objections
import SerialIsp.Proofs.Device.Hearing
import SerialIsp.Proofs.Device.Conduct
import SerialIsp.Proofs.Placement
import SerialIsp.Proofs.Failures
import SerialIsp.Proofs.Dialogue.Lines
import SerialIsp.Proofs.Frames
import SerialIsp.Proofs.Reading
import SerialIsp.Proofs.Dialogue.Handshake
import SerialIsp.Proofs.Frames.Operations
import SerialIsp.Proofs.Handshake
import SerialIsp.Proofs.Twins.Basic
import SerialIsp.Proofs.Twins.Session
import SerialIsp.Proofs.Twins.Programmer
import SerialIsp.Proofs.Observation
import SerialIsp.Proofs.Identification
import SerialIsp.Proofs.Runs
import SerialIsp.Proofs.Babbling
import SerialIsp.Proofs.Timeouts
import SerialIsp.Proofs.Stages
import SerialIsp.Proofs.Dialogue.Turns
import SerialIsp.Proofs.Starting
import SerialIsp.Proofs.Patience
import SerialIsp.Proofs.Guards
import SerialIsp.Proofs.Wire.Damage
import SerialIsp.Proofs.StatusLines
import SerialIsp.Proofs.ReadBack
import SerialIsp.Proofs.Preparation
import SerialIsp.Proofs.Text.Blanks
import SerialIsp.Proofs.Text.Literals
import SerialIsp.Proofs.Part.Lines
import SerialIsp.Proofs.Part.LookUp
import SerialIsp.Proofs.Part.Fields
import SerialIsp.Proofs.Part.Spelling
import SerialIsp.Proofs.Part.Geometry
import SerialIsp.Proofs.Wire.Streams
import SerialIsp.Proofs.Queries
import SerialIsp.Proofs.Transfer.Garbled
import SerialIsp.Proofs.Transfer.Layout
import SerialIsp.Proofs.Transfer.Tally
import SerialIsp.Proofs.Text.Hexdump
import SerialIsp.Proofs.Reports
import SerialIsp.Proofs.Offers
