import AccountStore.Validate.Account
import AccountStore.Validate.Password
import AccountStore.Store.Retry
import AccountStore.Engine.User
import AccountStore.Engine.Session
import AccountStore.Engine.Scripted
import AccountStore.Memory.User
import AccountStore.Memory.Session
import AccountStore.Storage
import AccountStore.Interchange.Account
import AccountStore.Config.Load
import AccountStore.Config.Report
import AccountStore.Conformance.User
import AccountStore.Conformance.Session
import AccountStore.Conformance.Fault
import AccountStore.Proofs.Instant.Calendar
import AccountStore.Proofs.Instant.Digits
import AccountStore.Proofs.Instant.Stored
import AccountStore.Proofs.Instant.StoredOrder
import AccountStore.Proofs.Store.Run
import AccountStore.Proofs.Memory.Users
import AccountStore.Proofs.Database.Grammar
import AccountStore.Proofs.Database.Scan
import AccountStore.Proofs.Text.Substitution
import AccountStore.Proofs.Database.Reads
import AccountStore.Proofs.Statements.Users
import AccountStore.Proofs.Statements.Placeholders
import AccountStore.Proofs.Statements.Creation
import AccountStore.Proofs.Statements.Sessions
import AccountStore.Proofs.Database.Holding
import AccountStore.Proofs.Database.Preparing
import AccountStore.Proofs.Database.Rows
import AccountStore.Proofs.Engine.UserRows
import AccountStore.Proofs.Engine.Users
import AccountStore.Proofs.Refinement.Users
import AccountStore.Proofs.Engine.SessionRows
import AccountStore.Proofs.Instant.Reading
import AccountStore.Proofs.Engine.Sessions
import AccountStore.Proofs.Memory.Sessions
import AccountStore.Proofs.Refinement.Sessions
import AccountStore.Proofs.Engine.Expiry
import AccountStore.Proofs.Text.Cut
import AccountStore.Proofs.Template.Entries
import AccountStore.Proofs.Template.Calls
import AccountStore.Proofs.Statements.Words
import AccountStore.Proofs.Database.Locality
import AccountStore.Proofs.Database.Opening
import AccountStore.Proofs.Engine.Locality
import AccountStore.Proofs.Engine.Sharing
import AccountStore.Proofs.Storage.Calls
import AccountStore.Proofs.Storage.Visits
import AccountStore.Proofs.Storage.Reopening
import AccountStore.Proofs.Engine.Errors
import AccountStore.Proofs.Storage.Lifecycle
import AccountStore.Proofs.Storage.Names
import AccountStore.Proofs.Text.Passage
import AccountStore.Proofs.Statements.Columns
import AccountStore.Proofs.Instant.Interchange
import AccountStore.Proofs.Interchange.Text
import AccountStore.Proofs.Interchange.Value
import AccountStore.Proofs.Interchange.Record
import AccountStore.Proofs.Interchange.Account
import AccountStore.Proofs.Instant.StoredBytes
import AccountStore.Proofs.Store.Retry
import AccountStore.Proofs.Memory.Writes
import AccountStore.Proofs.Engine.UserCodec
import AccountStore.Proofs.Engine.RowDecoding
import AccountStore.Proofs.Engine.Exchanges
import AccountStore.Proofs.Engine.Surfacing
import AccountStore.Proofs.Statements.Bindings
import AccountStore.Proofs.Engine.Alignment
import AccountStore.Proofs.Storage.Batches
import AccountStore.Proofs.Memory.Sweeps
import AccountStore.Proofs.Refinement.Inserts
import AccountStore.Proofs.Text.Case
import AccountStore.Proofs.Engine.FieldNames
import AccountStore.Proofs.Template.Delimited
import AccountStore.Proofs.Validate.Grammar
import AccountStore.Proofs.Instant.Offsets
import AccountStore.Proofs.Config.Keys
import AccountStore.Proofs.Config.Overlay
import AccountStore.Proofs.Config.Decoding
import AccountStore.Proofs.Config.Layers
import AccountStore.Proofs.Validate.Password
import AccountStore.Proofs.Config.Rules
import AccountStore.Proofs.Config.Lines
import AccountStore.Proofs.Config.KeyPlace
import AccountStore.Proofs.Config.KeySection
import AccountStore.Proofs.Store.KeyBits
import AccountStore.Proofs.Text.Span
import AccountStore.Proofs.Config.SettingNames
