import TripleIndex.Binding
import TripleIndex.Calendar
import TripleIndex.CharName
import TripleIndex.CharName.Alias
import TripleIndex.CharName.Alphabet
import TripleIndex.CharName.EastAsian
import TripleIndex.CharName.Hangul
import TripleIndex.CharName.Historic
import TripleIndex.CharName.Mathematical
import TripleIndex.CharName.Numbered
import TripleIndex.CharName.Picture
import TripleIndex.CharName.Run
import TripleIndex.CharName.Symbol
import TripleIndex.CharName.Word
import TripleIndex.Codec
import TripleIndex.Codec.Registry
import TripleIndex.Compile
import TripleIndex.Digest.Md5
import TripleIndex.Digest.NameUuid
import TripleIndex.DocId
import TripleIndex.Document
import TripleIndex.Entries
import TripleIndex.Fault
import TripleIndex.Field
import TripleIndex.Filter.Builder
import TripleIndex.Filter.Clause
import TripleIndex.Filter.Grammar
import TripleIndex.Find
import TripleIndex.Finder
import TripleIndex.IdSet
import TripleIndex.Index
import TripleIndex.Instant
import TripleIndex.Json.Print
import TripleIndex.Json.Read
import TripleIndex.Json.Value
import TripleIndex.Limit
import TripleIndex.Log
import TripleIndex.Memory
import TripleIndex.Names
import TripleIndex.Number.Brief
import TripleIndex.Number.Double
import TripleIndex.Number.Read
import TripleIndex.Number.Shortest
import TripleIndex.Number.Total
import TripleIndex.Number.Written
import TripleIndex.Postings
import TripleIndex.Postings.Checked
import TripleIndex.Postings.Shelf
import TripleIndex.Postings.Shelf.Checked
import TripleIndex.Proofs.Cursors.Cancellation
import TripleIndex.Proofs.Cursors.Circumstances
import TripleIndex.Proofs.Cursors.Faults
import TripleIndex.Proofs.Cursors.Outcomes
import TripleIndex.Proofs.Cursors.Positions
import TripleIndex.Proofs.Cursors.Protocol
import TripleIndex.Proofs.Cursors.Trouble
import TripleIndex.Proofs.Dates.Exact
import TripleIndex.Proofs.Dates.Figures
import TripleIndex.Proofs.Dates.Gregorian
import TripleIndex.Proofs.Dates.Written
import TripleIndex.Proofs.Deletions.Clauses
import TripleIndex.Proofs.Deletions.Correctness
import TripleIndex.Proofs.Deletions.Stores
import TripleIndex.Proofs.Filters.Printing
import TripleIndex.Proofs.Filters.Reading
import TripleIndex.Proofs.Filters.Reprinting
import TripleIndex.Proofs.Filters.Tabs
import TripleIndex.Proofs.Graphs.Counts
import TripleIndex.Proofs.Graphs.Documents
import TripleIndex.Proofs.Graphs.Partition
import TripleIndex.Proofs.Graphs.Searches
import TripleIndex.Proofs.Graphs.Steps
import TripleIndex.Proofs.Instants
import TripleIndex.Proofs.Join.Answers
import TripleIndex.Proofs.Join.Candidates
import TripleIndex.Proofs.Join.Correctness
import TripleIndex.Proofs.Join.Course
import TripleIndex.Proofs.Join.Drain
import TripleIndex.Proofs.Join.Loops
import TripleIndex.Proofs.Join.Order
import TripleIndex.Proofs.Join.Pulls
import TripleIndex.Proofs.Join.Recursion
import TripleIndex.Proofs.Join.Rows
import TripleIndex.Proofs.Join.Texts
import TripleIndex.Proofs.Join.Visits
import TripleIndex.Proofs.NaiveScan
import TripleIndex.Proofs.Numbers.Digits
import TripleIndex.Proofs.Numbers.ReadBack
import TripleIndex.Proofs.Numbers.Rounding
import TripleIndex.Proofs.Numbers.Shapes
import TripleIndex.Proofs.Numbers.Shortest
import TripleIndex.Proofs.Numbers.Whole
import TripleIndex.Proofs.Operations
import TripleIndex.Proofs.Outcome
import TripleIndex.Proofs.PlainMap
import TripleIndex.Proofs.Plans.Evaluations
import TripleIndex.Proofs.Plans.Failures
import TripleIndex.Proofs.Plans.Merging
import TripleIndex.Proofs.Plans.Sorting
import TripleIndex.Proofs.Postings
import TripleIndex.Proofs.Ranges
import TripleIndex.Proofs.Reachable
import TripleIndex.Proofs.Readers.Kinds
import TripleIndex.Proofs.Readers.Paging
import TripleIndex.Proofs.Readers.Refusals
import TripleIndex.Proofs.Replace
import TripleIndex.Proofs.Shelves.Changes
import TripleIndex.Proofs.Shelves.Checked
import TripleIndex.Proofs.Shelves.Relations
import TripleIndex.Proofs.Shelves.Runs
import TripleIndex.Proofs.Snapshots.Changes
import TripleIndex.Proofs.Snapshots.Copies
import TripleIndex.Proofs.Snapshots.Isolation
import TripleIndex.Proofs.Snapshots.Ownership
import TripleIndex.Proofs.Snapshots.Readers
import TripleIndex.Proofs.Snapshots.Searches
import TripleIndex.Proofs.Snapshots.Stored
import TripleIndex.Proofs.Stores.Discoveries
import TripleIndex.Proofs.Stores.Documents
import TripleIndex.Proofs.Stores.FindAgain
import TripleIndex.Proofs.Stores.Forms
import TripleIndex.Proofs.Stores.Invariant
import TripleIndex.Proofs.Stores.Languages
import TripleIndex.Proofs.Stores.Malformed
import TripleIndex.Proofs.Stores.Matches
import TripleIndex.Proofs.Stores.Names
import TripleIndex.Proofs.Stores.Pages
import TripleIndex.Proofs.Stores.Refusals
import TripleIndex.Proofs.Stores.Rewriting
import TripleIndex.Proofs.Stores.SearchFields
import TripleIndex.Proofs.Stores.Sets
import TripleIndex.Proofs.Stores.SinglePatterns
import TripleIndex.Proofs.Stores.Tables
import TripleIndex.Proofs.Table
import TripleIndex.Proofs.Terms.Abbreviations
import TripleIndex.Proofs.Terms.Contract
import TripleIndex.Proofs.Terms.Decoding
import TripleIndex.Proofs.Terms.Distinct
import TripleIndex.Proofs.Terms.Escapes
import TripleIndex.Proofs.Terms.Forms
import TripleIndex.Proofs.Terms.Grammar
import TripleIndex.Proofs.Terms.Kept
import TripleIndex.Proofs.Terms.Numerals
import TripleIndex.Proofs.Terms.Quoteless
import TripleIndex.Proofs.Terms.Quotes
import TripleIndex.Proofs.Terms.Reading
import TripleIndex.Proofs.Terms.RoundTrip
import TripleIndex.Proofs.Terms.Unique
import TripleIndex.Proofs.Tracking
import TripleIndex.Proofs.Trimming
import TripleIndex.Proofs.ValueOrder
import TripleIndex.Query.Cell
import TripleIndex.Query.Circumstances
import TripleIndex.Query.Context
import TripleIndex.Query.Cursor
import TripleIndex.Query.Duration
import TripleIndex.Query.Explain
import TripleIndex.Query.Frame
import TripleIndex.Query.Plan
import TripleIndex.Query.Planner
import TripleIndex.Query.Select
import TripleIndex.Query.Trouble
import TripleIndex.Query.Walk
import TripleIndex.Query.Work
import TripleIndex.Reader
import TripleIndex.Scalar
import TripleIndex.Session.Basic
import TripleIndex.Session.Changes
import TripleIndex.Session.Cursors
import TripleIndex.Session.Plans
import TripleIndex.Settings
import TripleIndex.Settings.Environment
import TripleIndex.Settings.Saved
import TripleIndex.SharedIndex
import TripleIndex.Store
import TripleIndex.Store.Records
import TripleIndex.Term
import TripleIndex.Term.Escape
import TripleIndex.Term.Form
import TripleIndex.Term.Read
import TripleIndex.Term.Vocabulary
import TripleIndex.Text.Blank
import TripleIndex.Text.Digit
import TripleIndex.Text.Printable
import TripleIndex.Text.Quoted
import TripleIndex.Text.Replace
import TripleIndex.Text.Surrogate
