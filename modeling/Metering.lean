import Metering.Address.Authority
import Metering.Address.Ip
import Metering.Address.Reading
import Metering.Address.Server
import Metering.Address.Subnet
import Metering.Agent.Collector
import Metering.Agent.Exchange
import Metering.Agent.Ledger
import Metering.Agent.Reading
import Metering.Agent.Schedule
import Metering.Agent.Sender
import Metering.Agent.Timeline
import Metering.Bytes
import Metering.Chunks
import Metering.Cipher.Base64
import Metering.Cipher.Der
import Metering.Cipher.Envelope
import Metering.Cipher.Oaep
import Metering.Cipher.Pem
import Metering.Cipher.Rsa
import Metering.Digest.Hmac
import Metering.Digest.Sha256
import Metering.Digest.Tag
import Metering.Files
import Metering.Gateway.Basic
import Metering.Gateway.Endpoint
import Metering.Gateway.Message
import Metering.Gateway.Page
import Metering.Gateway.Route
import Metering.Gateway.Stage
import Metering.Gzip.Bits
import Metering.Gzip.Crc32
import Metering.Gzip.Decoder
import Metering.Gzip.Deflate
import Metering.Gzip.Huffman
import Metering.Gzip.Inflate
import Metering.Gzip.Member
import Metering.Json.Basic
import Metering.Json.Reading
import Metering.KeyMap
import Metering.Main
import Metering.Metric.Basic
import Metering.Metric.Json
import Metering.Metric.Kind
import Metering.Metric.Wire
import Metering.Numeral.Binary64
import Metering.Numeral.Layout
import Metering.Numeral.Rounding
import Metering.Numeral.Scaling
import Metering.Numeral.Shortest
import Metering.Numeral.Tally
import Metering.Numeral.Whole
import Metering.Proofs.Address.Admission
import Metering.Proofs.Address.Text
import Metering.Proofs.Agent.Acceptance
import Metering.Proofs.Agent.Commit
import Metering.Proofs.Agent.Course
import Metering.Proofs.Agent.Exchange
import Metering.Proofs.Agent.Kinds
import Metering.Proofs.Agent.Ledger
import Metering.Proofs.Agent.Readings
import Metering.Proofs.Agent.Report
import Metering.Proofs.Agent.Totals
import Metering.Proofs.Bytes
import Metering.Proofs.Cipher.Blocks
import Metering.Proofs.Cipher.Envelope
import Metering.Proofs.Cipher.Oaep
import Metering.Proofs.Cipher.Rsa
import Metering.Proofs.Digest.Tag
import Metering.Proofs.Digest.Verification
import Metering.Proofs.Files
import Metering.Proofs.Gateway.BodyLimit
import Metering.Proofs.Gateway.Codings
import Metering.Proofs.Gateway.Delivery
import Metering.Proofs.Gateway.Egress
import Metering.Proofs.Gateway.Endpoints
import Metering.Proofs.Gateway.Gate
import Metering.Proofs.Gateway.Intake
import Metering.Proofs.Gateway.Listing
import Metering.Proofs.Gateway.Notations
import Metering.Proofs.Gateway.Query
import Metering.Proofs.Gateway.Spelling
import Metering.Proofs.Gateway.Validity
import Metering.Proofs.Gzip.Expansion
import Metering.Proofs.Gzip.Framing
import Metering.Proofs.Gzip.Member
import Metering.Proofs.Gzip.Readers
import Metering.Proofs.Gzip.Torn
import Metering.Proofs.Json.Documents
import Metering.Proofs.Json.Numbers
import Metering.Proofs.Json.Texts
import Metering.Proofs.KeyMap
import Metering.Proofs.Metric.Json
import Metering.Proofs.Metric.Updates
import Metering.Proofs.Metric.Wire
import Metering.Proofs.Numeral.Binary64
import Metering.Proofs.Numeral.Notation
import Metering.Proofs.Numeral.Rounding
import Metering.Proofs.Numeral.Scaling
import Metering.Proofs.Numeral.Shortest
import Metering.Proofs.Numeral.Tally
import Metering.Proofs.Numeral.Whole
import Metering.Proofs.Service.Admission
import Metering.Proofs.Service.Agreement
import Metering.Proofs.Service.Applied
import Metering.Proofs.Service.Atomicity
import Metering.Proofs.Service.Batching
import Metering.Proofs.Service.Call
import Metering.Proofs.Service.Checks
import Metering.Proofs.Service.Merging
import Metering.Proofs.Service.Outcome
import Metering.Proofs.Service.Overflow
import Metering.Proofs.Service.Sequence
import Metering.Proofs.Service.Transaction
import Metering.Proofs.Settings.Field
import Metering.Proofs.Settings.Precedence
import Metering.Proofs.Settings.Redaction
import Metering.Proofs.Storage.Alike
import Metering.Proofs.Storage.Answers
import Metering.Proofs.Storage.Bulk
import Metering.Proofs.Storage.Durability
import Metering.Proofs.Storage.Exclusivity
import Metering.Proofs.Storage.Holdings
import Metering.Proofs.Storage.Leftovers
import Metering.Proofs.Storage.Overlap
import Metering.Proofs.Storage.Replacement
import Metering.Proofs.Storage.Restoring
import Metering.Proofs.Storage.Sharing
import Metering.Proofs.Storage.Snapshot
import Metering.Proofs.Storage.SnapshotFile
import Metering.Proofs.Storage.Table
import Metering.Proofs.Storage.Writes
import Metering.Proofs.Text.Cut
import Metering.Proofs.Transport.Interchange
import Metering.Proofs.Wire.Message
import Metering.Service.Basic
import Metering.Service.Batch
import Metering.Service.Error
import Metering.Settings.Agent
import Metering.Settings.Flags
import Metering.Settings.Server
import Metering.Settings.Source
import Metering.Storage.Address
import Metering.Storage.Basic
import Metering.Storage.Contents
import Metering.Storage.Database
import Metering.Storage.Error
import Metering.Storage.Memory
import Metering.Storage.Overlap
import Metering.Storage.Repository
import Metering.Storage.Snapshot
import Metering.Storage.SnapshotFile
import Metering.Storage.Table
import Metering.Text.Blank
import Metering.Text.Cut
import Metering.Text.Hex
import Metering.Text.Percent
import Metering.Toml.Basic
import Metering.Toml.Reading
import Metering.Toml.Scalar
import Metering.Transport.Error
import Metering.Transport.Remote
import Metering.Transport.Status
import Metering.Transport.Web
import Metering.Wire.Message
import Metering.Wire.Varint
