import Campus.Archive.Basic
import Campus.Archive.Checksum
import Campus.Archive.CodePage437
import Campus.Archive.Deflate
import Campus.Archive.Zip
import Campus.CommandLine.Arguments
import Campus.CommandLine.Run
import Campus.Configuration.Basic
import Campus.Data.Base64
import Campus.Data.Bytes
import Campus.Data.Keyed
import Campus.Data.SmallSort
import Campus.Data.StableSort
import Campus.Dataset.Basic
import Campus.Dataset.Field
import Campus.Dataset.Scalar
import Campus.Dataset.Written
import Campus.Files.Fault
import Campus.Files.Folder
import Campus.Files.Tree
import Campus.Http.Message
import Campus.Http.Origin
import Campus.Http.Resource
import Campus.Http.Server
import Campus.Ingest.Courses
import Campus.Ingest.Error
import Campus.Ingest.Location
import Campus.Ingest.Rooms
import Campus.Ingest.Sections
import Campus.Ingest.Tables
import Campus.Ingest.TaskGroup
import Campus.Ingest.Upload
import Campus.Json.Basic
import Campus.Json.Fields
import Campus.Json.Printer
import Campus.Json.Source
import Campus.Json.Token
import Campus.Main
import Campus.Markup.Builder
import Campus.Markup.Construction
import Campus.Markup.Document
import Campus.Markup.Element
import Campus.Markup.NamedCharacter
import Campus.Markup.Reference
import Campus.Markup.Token
import Campus.Number.Binary64
import Campus.Number.Decimal
import Campus.Number.Numeral
import Campus.Number.Reading
import Campus.Number.Rounding
import Campus.Number.Scaling
import Campus.Proofs.Data.Base64
import Campus.Proofs.Data.Bytes
import Campus.Proofs.Data.Keyed
import Campus.Proofs.Data.Sorting.Orders
import Campus.Proofs.Data.Sorting.Merging
import Campus.Proofs.Data.Sorting.Running
import Campus.Proofs.Data.Sorting.Partitioning
import Campus.Proofs.Data.Sorting.Naturality
import Campus.Proofs.Data.Sorting.Stability
import Campus.Proofs.Dataset.Normal
import Campus.Proofs.Dataset.Rereading
import Campus.Proofs.Dataset.Shape
import Campus.Proofs.Ingest.Shape
import Campus.Proofs.Json.Digits
import Campus.Proofs.Json.Numbers
import Campus.Proofs.Json.PrintedNumbers
import Campus.Proofs.Json.Proper
import Campus.Proofs.Json.Quoting
import Campus.Proofs.Json.Rendering
import Campus.Proofs.Json.Rereading
import Campus.Proofs.Number.Exactness
import Campus.Proofs.Number.Monotonicity
import Campus.Proofs.Number.Numerals
import Campus.Proofs.Number.Scaling
import Campus.Proofs.Query.Aggregates
import Campus.Proofs.Query.Answers
import Campus.Proofs.Query.Clauses
import Campus.Proofs.Query.Documents
import Campus.Proofs.Query.Filters
import Campus.Proofs.Query.Keys
import Campus.Proofs.Query.Patterns
import Campus.Proofs.Query.RoundTrip
import Campus.Proofs.Service.Calls
import Campus.Proofs.Service.Reopening
import Campus.Proofs.Service.Shape
import Campus.Proofs.Store.Blobs
import Campus.Proofs.Store.Filing
import Campus.Proofs.Store.Mirroring
import Campus.Proofs.Store.Shelving
import Campus.Query.Aggregate
import Campus.Query.Basic
import Campus.Query.Error
import Campus.Query.Execution
import Campus.Query.Grammar
import Campus.Query.Grouping
import Campus.Query.Ordering
import Campus.Query.Pattern
import Campus.Query.Selection
import Campus.Service.Basic
import Campus.Service.Concurrency
import Campus.Service.Error
import Campus.Service.Uninterrupted
import Campus.Service.WriterLocks
import Campus.Store.Basic
import Campus.Store.Blob
import Campus.Store.Error
import Campus.Store.Shelf
import Campus.Text.Blank
import Campus.Url.Address
import Campus.Url.Basic
import Campus.Url.Host
import Campus.Url.Percent
import Campus.Url.Punycode
import Campus.Url.Reader
import Campus.Proofs.Service.Turns
import Campus.Proofs.Store.Backing
import Campus.Proofs.Store.Stages
import Campus.Proofs.Store.History
import Campus.Proofs.Dataset.Legibility
import Campus.Proofs.Service.Durability
import Campus.Proofs.Service.Traffic
import Campus.Proofs.Service.Standing
import Campus.Proofs.Service.Consistency
import Campus.Proofs.Service.Serial
import Campus.Proofs.Query.Globs
import Campus.Proofs.Query.Meaning
import Campus.Proofs.Query.Groups
import Campus.Proofs.Query.Results
import Campus.Proofs.Store.Clearing
import Campus.Proofs.Store.Progress
import Campus.Proofs.Store.Interruption
import Campus.Proofs.Store.Keys
import Campus.Proofs.Store.Deletion
import Campus.Proofs.Service.InMemory
import Campus.Proofs.Service.Queries
import Campus.Proofs.Archive.Entries
import Campus.Proofs.Ingest.Collecting
import Campus.Proofs.Ingest.Orders
import Campus.Proofs.Http.Changes
import Campus.Proofs.Service.Columns
import Campus.Proofs.Number.Decimals
import Campus.Proofs.Number.Texts
import Campus.Proofs.Query.Sums
import Campus.Proofs.Store.JsonFiles
import Campus.Proofs.Service.Closing
import Campus.Proofs.Data.ByteOrder
import Campus.Proofs.Dataset.Comparison
import Campus.Proofs.Query.Sorting
import Campus.Proofs.Query.Partition
import Campus.Proofs.Query.Slicing
import Campus.Ingest.Lookups
import Campus.Proofs.Ingest.Pages
import Campus.Proofs.Ingest.Lookups
import Campus.Proofs.Markup.Trees
import Campus.Proofs.Ingest.Asking
import Campus.Proofs.Ingest.Joining
import Campus.Proofs.Store.Contents
import Campus.Proofs.Json.Reading
import Campus.Proofs.Json.Lexing
import Campus.Proofs.Json.Forms
import Campus.Proofs.Ingest.Courses
import Campus.Proofs.Service.Isolation
import Campus.Proofs.Query.Drilling
import Campus.Proofs.Query.Extremes
import Campus.Proofs.Number.Overflow
import Campus.Proofs.Query.Omissions
import Campus.Proofs.Archive.Contents
import Campus.Proofs.Http.Origins
import Campus.Proofs.Service.Leftovers
import Campus.Proofs.Service.Uploads
import Campus.Proofs.Url.Percent
import Campus.Proofs.Url.Appending
import Campus.Proofs.Number.Integers
import Campus.Proofs.Ingest.Identities
import Campus.Proofs.Json.Lines
import Campus.Proofs.Files.Trees
import Campus.Proofs.Service.JsonFiles
import Campus.Proofs.CommandLine.Effects
import Campus.Proofs.Service.Admission
import Campus.Proofs.Markup.Positions
import Campus.Proofs.Markup.Words
import Campus.Proofs.Ingest.Rows
import Campus.Ingest.TaskRun
import Campus.Proofs.Ingest.TaskRuns
import Campus.Proofs.Query.RecordKeys
