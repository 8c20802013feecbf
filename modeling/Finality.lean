import Finality.Bytes
import Finality.Bytes.Endian
import Finality.Bytes.Hex
import Finality.Chain.Approval
import Finality.Chain.Build
import Finality.Chain.EpochChain
import Finality.Chain.Header
import Finality.Chain.Height
import Finality.Chain.Invalid
import Finality.Chain.Key
import Finality.Chain.KeyText
import Finality.Chain.Proof
import Finality.Chain.Roster
import Finality.Chain.Shown
import Finality.Chain.State
import Finality.Chain.Value
import Finality.Cli.Arguments
import Finality.Cli.Command
import Finality.Cli.Display
import Finality.Cli.RosterFile
import Finality.Client.Basic
import Finality.Client.Calls
import Finality.Client.Edits
import Finality.Client.Events
import Finality.Client.Host
import Finality.Client.Operations
import Finality.Config.Basic
import Finality.Config.Check
import Finality.Config.Draft
import Finality.Config.Duration
import Finality.Config.Load
import Finality.Curve.Edwards25519
import Finality.Curve.Modular
import Finality.Curve.Secp256k1
import Finality.Datum
import Finality.Digest.Sha2
import Finality.Digest.Tree
import Finality.Entries
import Finality.Host
import Finality.Host.Standard
import Finality.Json.Exchange
import Finality.Json.Reader
import Finality.Json.Writer
import Finality.Log.Context
import Finality.Log.Level
import Finality.Log.Message
import Finality.Log.Output
import Finality.Log.Record
import Finality.Log.Timestamp
import Finality.Mail
import Finality.Main
import Finality.Network.Address
import Finality.Number.Binary64
import Finality.Number.Exact
import Finality.Number.Integer
import Finality.Number.Literal
import Finality.Number.Places
import Finality.Number.Scaled
import Finality.Proofs.Bytes.Hex
import Finality.Proofs.Chain.Content
import Finality.Proofs.Chain.Height
import Finality.Proofs.Chain.KeyText
import Finality.Proofs.Cli.Commitment
import Finality.Proofs.Cli.RosterFile
import Finality.Proofs.Client.Accepted
import Finality.Proofs.Client.Bystander
import Finality.Proofs.Client.Changes
import Finality.Proofs.Client.Claims
import Finality.Proofs.Client.Custody
import Finality.Proofs.Client.Enumeration
import Finality.Proofs.Client.Forks
import Finality.Proofs.Client.Fresh
import Finality.Proofs.Client.Frozen
import Finality.Proofs.Client.History
import Finality.Proofs.Client.Listing
import Finality.Proofs.Client.Pruning
import Finality.Proofs.Client.Refusals
import Finality.Proofs.Client.Registry
import Finality.Proofs.Client.Rereading
import Finality.Proofs.Client.Separation
import Finality.Proofs.Client.Standing
import Finality.Proofs.Client.Succession
import Finality.Proofs.Client.Trusted
import Finality.Proofs.Client.WellKept
import Finality.Proofs.Config.Duration
import Finality.Proofs.Config.Loading
import Finality.Proofs.Digest.Tree
import Finality.Proofs.Entries
import Finality.Proofs.Json.Steps
import Finality.Proofs.Json.Texts
import Finality.Proofs.Json.Values
import Finality.Proofs.Number.Exact
import Finality.Proofs.Number.Integer
import Finality.Proofs.Outcome
import Finality.Proofs.Report.Fields
import Finality.Proofs.Report.Publishing
import Finality.Proofs.StateTree.Binding
import Finality.Proofs.StateTree.Completeness
import Finality.Proofs.StateTree.Levels
import Finality.Proofs.StateTree.Tampering
import Finality.Proofs.Store.Content
import Finality.Proofs.Store.Families
import Finality.Proofs.Store.FiniteMap
import Finality.Proofs.Store.Keys
import Finality.Proofs.Store.Scans
import Finality.Proofs.Store.Sessions
import Finality.Proofs.Text.Case
import Finality.Proofs.Text.Class
import Finality.Proofs.Verification.Acceptance
import Finality.Proofs.Verification.Conditions
import Finality.Proofs.Verification.Counting
import Finality.Proofs.Verification.Evidence
import Finality.Proofs.Verification.Framing
import Finality.Proofs.Verification.Quorum
import Finality.Proofs.Verification.Refusals
import Finality.Proofs.Verification.Relaying
import Finality.Proofs.Verification.Signatures
import Finality.Proofs.Verification.Stake
import Finality.Proofs.Verification.Workers
import Finality.Proofs.Wire.Bijection
import Finality.Proofs.Wire.Cbor.Items
import Finality.Proofs.Wire.Cbor.RoundTrip
import Finality.Proofs.Wire.Cbor.Settled
import Finality.Proofs.Wire.Compact
import Finality.Proofs.Wire.Exact
import Finality.Proofs.Wire.Fields
import Finality.Proofs.Wire.Lengths
import Finality.Proofs.Wire.Lockstep
import Finality.Proofs.Wire.Naming
import Finality.Proofs.Wire.Reading
import Finality.Proofs.Wire.Refusals
import Finality.Proofs.Wire.Shapes
import Finality.Proofs.Wire.Stepwise
import Finality.Proofs.Wire.Tagged
import Finality.Proofs.Wire.Viewing
import Finality.Rejection
import Finality.Report
import Finality.Report.Raised
import Finality.Signing
import Finality.Signing.Standard
import Finality.Store.Backend
import Finality.Store.Basic
import Finality.Store.Keyspace
import Finality.Store.Records
import Finality.Store.Script
import Finality.Text.Case
import Finality.Text.Class
import Finality.Text.Constant
import Finality.Text.Emoji
import Finality.Text.Emoji.Names
import Finality.Text.Markup
import Finality.Text.Pattern
import Finality.Text.Printable
import Finality.Text.Quoted
import Finality.Text.Style
import Finality.Text.Surrogate
import Finality.Text.Utf8
import Finality.Time.Calendar
import Finality.Verification.Header
import Finality.Verification.Misbehaviour
import Finality.Verification.StateProof
import Finality.Verification.StateTree
import Finality.Verification.Tally
import Finality.Wire.Assembly
import Finality.Wire.Cbor.Head
import Finality.Wire.Cbor.Reader
import Finality.Wire.Cbor.Tag
import Finality.Wire.Cbor.Writer
import Finality.Wire.Compact
import Finality.Wire.Fault
import Finality.Wire.Fields
import Finality.Wire.Form
import Finality.Wire.Layout
import Finality.Wire.Reader
import Finality.Wire.Shape
import Finality.Wire.Tagged
import Finality.Wire.Tape
