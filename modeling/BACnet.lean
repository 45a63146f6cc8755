import BACnet.Config.Document
import BACnet.Device.Running
import BACnet.Link.Mstp
import BACnet.Octets.Cursor
import BACnet.Proofs.Apdu.RoundTrip
import BACnet.Proofs.Apdu.Truncation
import BACnet.Proofs.Apdu.WrappedError
import BACnet.Proofs.Bounds.Decoders
import BACnet.Proofs.Data.Delimiting
import BACnet.Proofs.Data.Faults
import BACnet.Proofs.Data.Nesting
import BACnet.Proofs.Data.PackedBits
import BACnet.Proofs.Data.Shortest
import BACnet.Proofs.Data.ShortestInteger
import BACnet.Proofs.Data.Typed
import BACnet.Proofs.Data.Value
import BACnet.Proofs.Device.Answers
import BACnet.Proofs.Device.Control
import BACnet.Proofs.Device.Polling
import BACnet.Proofs.Device.Reception
import BACnet.Proofs.Device.Refusals
import BACnet.Proofs.Device.Run
import BACnet.Proofs.Device.Serving
import BACnet.Proofs.Device.Silence
import BACnet.Proofs.Device.SilentMessages
import BACnet.Proofs.Device.SilentRequests
import BACnet.Proofs.Device.SilentTurns
import BACnet.Proofs.Device.Timers
import BACnet.Proofs.Device.Unreadable
import BACnet.Proofs.Faults.Decoders
import BACnet.Proofs.Internetwork.Basic
import BACnet.Proofs.Internetwork.Broadcast
import BACnet.Proofs.Internetwork.Lineage
import BACnet.Proofs.Link.Bvlc
import BACnet.Proofs.Network.RoundTrip
import BACnet.Proofs.Network.Truncation
import BACnet.Proofs.Routing.Accounts
import BACnet.Proofs.Routing.Announcements
import BACnet.Proofs.Routing.Answers
import BACnet.Proofs.Routing.Chores
import BACnet.Proofs.Routing.Conservation
import BACnet.Proofs.Routing.Copies
import BACnet.Proofs.Routing.Deadlines
import BACnet.Proofs.Routing.Decisions
import BACnet.Proofs.Routing.Echoes
import BACnet.Proofs.Routing.Exits
import BACnet.Proofs.Routing.Links
import BACnet.Proofs.Routing.Numbers
import BACnet.Proofs.Routing.Refill
import BACnet.Proofs.Routing.Relay
import BACnet.Proofs.Routing.Replies
import BACnet.Proofs.Routing.ReversePath
import BACnet.Proofs.Routing.Routes
import BACnet.Proofs.Routing.Stations
import BACnet.Proofs.Routing.Unreached
import BACnet.Proofs.Routing.Written
import BACnet.Proofs.Segment.Flow
import BACnet.Proofs.Segment.LossyTransfer
import BACnet.Proofs.Segment.Window
import BACnet.Proofs.Service.RoundTrip
import BACnet.Proofs.Timer.Calls
import BACnet.Proofs.Timer.Queue
import BACnet.Proofs.Timer.Word
import BACnet.Proofs.Transaction.AnswerLimits
import BACnet.Proofs.Transaction.Attempt
import BACnet.Proofs.Transaction.Endpoint
import BACnet.Proofs.Transaction.Exchange
import BACnet.Proofs.Transaction.Indications
import BACnet.Proofs.Transaction.InvokeIds
import BACnet.Proofs.Transaction.Isolation
import BACnet.Proofs.Transaction.Lifetime
import BACnet.Proofs.Transaction.Lone
import BACnet.Proofs.Transaction.Lossless
import BACnet.Proofs.Transaction.LossyExchange
import BACnet.Proofs.Transaction.Orderly
import BACnet.Proofs.Transaction.Outcomes
import BACnet.Proofs.Transaction.PlannedSegments
import BACnet.Proofs.Transaction.Quiescence
import BACnet.Proofs.Transaction.Reaction
import BACnet.Proofs.Transaction.RecordEndpoint
import BACnet.Proofs.Transaction.RequestLimits
import BACnet.Proofs.Transaction.RequestMessages
import BACnet.Proofs.Transaction.Unanswered
import BACnet.Proofs.Transaction.Voice
