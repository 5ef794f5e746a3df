import DebugServer.Main
import DebugServer.Framing.InputStream
import DebugServer.Proofs.Inspection.HandleTable
import DebugServer.Proofs.Inspection.Tables
import DebugServer.Proofs.Session.Delivery
import DebugServer.Proofs.Session.Effects
import DebugServer.Proofs.Session.Course
import DebugServer.Proofs.Session.History
import DebugServer.Proofs.Session.Access
import DebugServer.Proofs.Session.TableHistory
import DebugServer.Proofs.Session.Retention
import DebugServer.Proofs.Session.Handles
import DebugServer.Proofs.Session.Traced
import DebugServer.Proofs.Session.Lifecycle
import DebugServer.Proofs.Framing.Pieces
import DebugServer.Proofs.Session.Responses
import DebugServer.Proofs.Server.Conversation
import DebugServer.Proofs.Text.Utf8
import DebugServer.Proofs.Text.Blank
import DebugServer.Proofs.Decimal.Natural
import DebugServer.Proofs.Framing.InputStream
import DebugServer.Proofs.Framing.RoundTrip
import DebugServer.Proofs.Framing.Grammar
import DebugServer.Proofs.Inspection.Expansion
import DebugServer.Proofs.Session.Inquiry
import DebugServer.Proofs.Json.Alike
import DebugServer.Proofs.Json.RoundTrip
import DebugServer.Proofs.Session.Arguments
import DebugServer.Proofs.Session.Interleaving
import DebugServer.Proofs.Protocol.Output
import DebugServer.Proofs.Text.RedactedConfig
import DebugServer.Proofs.Decimal.Layout
import DebugServer.Proofs.Config.Faults
import DebugServer.Proofs.Session.Oblivious
import DebugServer.Proofs.Session.ClientFaults
import DebugServer.Proofs.Config.Messages
import DebugServer.Proofs.Inspection.HandleHistory
import DebugServer.Proofs.Session.EventRuns
import DebugServer.Proofs.Protocol.Numbering
import DebugServer.Proofs.Session.Standing
import DebugServer.Proofs.Server.Traced
import DebugServer.Proofs.Server.Ending
import DebugServer.Proofs.Value.Truncation
import DebugServer.Proofs.Protocol.Arguments
import DebugServer.Proofs.Protocol.Body
import DebugServer.Proofs.Session.Reading
import DebugServer.Proofs.Session.Overtaken
import DebugServer.Proofs.Location.Numbering
import DebugServer.Proofs.Location.Translator
import DebugServer.Proofs.Session.Breakpoints
import DebugServer.Proofs.Value.Children
import DebugServer.Proofs.Value.Literal
import DebugServer.Proofs.Session.Paging
