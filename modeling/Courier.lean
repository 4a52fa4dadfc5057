import Courier.Authorizer
import Courier.Batch
import Courier.Batch.Outlet
import Courier.Batch.Run
import Courier.Call
import Courier.Call.Event
import Courier.Call.Exec
import Courier.Call.Run
import Courier.Client
import Courier.Clock
import Courier.Crash
import Courier.Datum
import Courier.Decimal.Binary64
import Courier.Decimal.Layout
import Courier.Decimal.Scan
import Courier.Decimal.Shortest
import Courier.Digest.Sha256
import Courier.Entity
import Courier.Entity.Codec
import Courier.Entity.Hexdump
import Courier.Entity.MediaType
import Courier.Failure
import Courier.Form
import Courier.Form.Codec
import Courier.Header.Field
import Courier.Header.Map
import Courier.HttpDate
import Courier.Json.Basic
import Courier.Json.Document
import Courier.Json.Numeral
import Courier.Json.Printer
import Courier.Limiter.Quota
import Courier.Limiter.Window
import Courier.Options
import Courier.Pattern
import Courier.Pattern.CharSet
import Courier.Pattern.Parser
import Courier.Pattern.Property
import Courier.Producer
import Courier.Proofs.Batch.Backpressure
import Courier.Proofs.Batch.Collection
import Courier.Proofs.Batch.Crashes
import Courier.Proofs.Batch.Failures
import Courier.Proofs.Batch.Jobs
import Courier.Proofs.Batch.Ledger
import Courier.Proofs.Batch.Liveness
import Courier.Proofs.Batch.Loop
import Courier.Proofs.Batch.Order
import Courier.Proofs.Batch.Precedence
import Courier.Proofs.Batch.Progress
import Courier.Proofs.Batch.Protocol
import Courier.Proofs.Batch.Results
import Courier.Proofs.Batch.Sequential
import Courier.Proofs.Batch.Session
import Courier.Proofs.Batch.Solo
import Courier.Proofs.Batch.Steps
import Courier.Proofs.Batch.Stop
import Courier.Proofs.Batch.Stories
import Courier.Proofs.Call.Account
import Courier.Proofs.Call.Agreement
import Courier.Proofs.Call.Bookkeeping
import Courier.Proofs.Call.Cancel
import Courier.Proofs.Call.Chronicle
import Courier.Proofs.Call.Decoding
import Courier.Proofs.Call.Exposure
import Courier.Proofs.Call.Failing
import Courier.Proofs.Call.Lockstep
import Courier.Proofs.Call.Pairing
import Courier.Proofs.Call.Piece
import Courier.Proofs.Call.Provenance
import Courier.Proofs.Call.Resending
import Courier.Proofs.Call.Secrecy
import Courier.Proofs.Call.SendTimes
import Courier.Proofs.Call.Sends
import Courier.Proofs.Call.Stages
import Courier.Proofs.Call.Transparency
import Courier.Proofs.Call.Twins
import Courier.Proofs.Call.Veiling
import Courier.Proofs.Call.Waits
import Courier.Proofs.Clock
import Courier.Proofs.Entity.Display
import Courier.Proofs.Entity.Hexdump
import Courier.Proofs.Entity.PlainText
import Courier.Proofs.Form.RoundTrip
import Courier.Proofs.Header.Dump
import Courier.Proofs.Header.Merging
import Courier.Proofs.Header.Replacement
import Courier.Proofs.Header.Veil
import Courier.Proofs.Json.RoundTrip
import Courier.Proofs.Path
import Courier.Proofs.Quota.Burst
import Courier.Proofs.Quota.Crowding
import Courier.Proofs.Quota.FixedWindow
import Courier.Proofs.Quota.History
import Courier.Proofs.Quota.Inquiries
import Courier.Proofs.Quota.Oversize
import Courier.Proofs.Quota.Refusals
import Courier.Proofs.Quota.Rolling
import Courier.Proofs.Quota.Window
import Courier.Proofs.Url.Params
import Courier.Redaction
import Courier.Rehearsal.Server
import Courier.Rehearsal.World
import Courier.Request
import Courier.Response
import Courier.Shape
import Courier.Status
import Courier.Text.Ascii
import Courier.Text.Blank
import Courier.Text.Composition
import Courier.Text.Direction
import Courier.Text.Hidden
import Courier.Text.Joining
import Courier.Text.Letter
import Courier.Text.Mark
import Courier.Text.Natural
import Courier.Text.Quoted
import Courier.Text.Split
import Courier.Text.Utf8
import Courier.Tracing
import Courier.Url
import Courier.Url.Allowed
import Courier.Url.Host
import Courier.Url.Label
import Courier.Url.Parser
import Courier.Url.Percent
import Courier.Url.Punycode
