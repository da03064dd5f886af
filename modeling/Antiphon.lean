import Antiphon.Connect
import Antiphon.Envelope.Request
import Antiphon.Envelope.Response
import Antiphon.Json.Message
import Antiphon.Rehearsal.Script
import Antiphon.Proofs.Frame.Cutting
import Antiphon.Proofs.Frame.Pushing
import Antiphon.Proofs.Pending.Line
import Antiphon.Proofs.Session.Chronicle
import Antiphon.Proofs.Session.Ending
import Antiphon.Proofs.Session.Run
import Antiphon.Proofs.Session.Ledger
import Antiphon.Proofs.Session.Accounts
import Antiphon.Proofs.Session.Reservation
import Antiphon.Proofs.Session.Pairing
import Antiphon.Proofs.Session.Dispatch
import Antiphon.Proofs.Session.Correlation
import Antiphon.Proofs.Session.Chunking
import Antiphon.Proofs.Outbound.Stride
import Antiphon.Proofs.Session.Outflow
import Antiphon.Proofs.Session.Departure
import Antiphon.Proofs.Outbound.Slices
import Antiphon.Proofs.Session.Backlog
import Antiphon.Proofs.Session.Parallel
import Antiphon.Proofs.Session.Cancellation
import Antiphon.Proofs.Session.Published
import Antiphon.Proofs.Session.ClosePoint
import Antiphon.Proofs.Session.Closing
import Antiphon.Proofs.Session.SlowPeer
import Antiphon.Proofs.Session.Serving
import Antiphon.Proofs.Outbound.Transcript
import Antiphon.Proofs.Session.Silence
import Antiphon.Proofs.Session.Deadline
import Antiphon.Proofs.Json.Decimals
import Antiphon.Proofs.Json.Reading
import Antiphon.Proofs.Codec.Pipeline
import Antiphon.Proofs.Frame.Breach
import Antiphon.Proofs.Pending.Registry
import Antiphon.Proofs.Outbound.Outbox
import Antiphon.Proofs.Session.Refusal
import Antiphon.Proofs.Frame.Extraction
import Antiphon.Proofs.Envelope.TwoWays
import Antiphon.Proofs.Envelope.RoundTrip
