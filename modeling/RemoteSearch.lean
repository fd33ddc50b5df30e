import RemoteSearch.AccessMode
import RemoteSearch.Cache
import RemoteSearch.Calendar.Date
import RemoteSearch.Calendar.Instant
import RemoteSearch.Calendar.Layout
import RemoteSearch.Compiled
import RemoteSearch.Condition
import RemoteSearch.Delivery
import RemoteSearch.Dialogue
import RemoteSearch.Error
import RemoteSearch.Fields
import RemoteSearch.Flavor
import RemoteSearch.Gzip.Basic
import RemoteSearch.Gzip.Code
import RemoteSearch.Gzip.Crc
import RemoteSearch.Gzip.Inflate
import RemoteSearch.Local.Drain
import RemoteSearch.Local.Launcher
import RemoteSearch.Machine.Builtins
import RemoteSearch.Machine.CharTools
import RemoteSearch.Machine.Check
import RemoteSearch.Machine.Expansion
import RemoteSearch.Machine.Expression.Awk
import RemoteSearch.Machine.Expression.Extended
import RemoteSearch.Machine.FileTools
import RemoteSearch.Machine.Filters
import RemoteSearch.Machine.Find
import RemoteSearch.Machine.Host
import RemoteSearch.Machine.Launch
import RemoteSearch.Machine.Lines
import RemoteSearch.Machine.Listing
import RemoteSearch.Machine.Options
import RemoteSearch.Machine.Printing
import RemoteSearch.Machine.Process
import RemoteSearch.Machine.Redirect
import RemoteSearch.Machine.Run
import RemoteSearch.Machine.Script
import RemoteSearch.Machine.Script.Reader
import RemoteSearch.Machine.SequenceTools
import RemoteSearch.Machine.Signals
import RemoteSearch.Machine.SortTools
import RemoteSearch.Machine.TextTools
import RemoteSearch.Machine.Tools
import RemoteSearch.Machine.Tree
import RemoteSearch.Metadata
import RemoteSearch.Mount
import RemoteSearch.Path
import RemoteSearch.Pattern.Basic
import RemoteSearch.Pattern.CharClass
import RemoteSearch.Pattern.Layout
import RemoteSearch.Pattern.Layout.CharSet
import RemoteSearch.Pattern.Layout.Texts
import RemoteSearch.Pattern.Match
import RemoteSearch.Pattern.Parser
import RemoteSearch.Pattern.Property
import RemoteSearch.Pattern.Room
import RemoteSearch.Pattern.Shape
import RemoteSearch.Pattern.Syntax
import RemoteSearch.Permissions
import RemoteSearch.Platform
import RemoteSearch.Proofs.Action
import RemoteSearch.Proofs.Calendar.Civil
import RemoteSearch.Proofs.Calendar.Layout
import RemoteSearch.Proofs.Execution
import RemoteSearch.Proofs.Fields
import RemoteSearch.Proofs.Local.Drain
import RemoteSearch.Proofs.Metadata
import RemoteSearch.Proofs.Path
import RemoteSearch.Proofs.Path.Links
import RemoteSearch.Proofs.Path.Segments
import RemoteSearch.Proofs.Pattern.Front
import RemoteSearch.Proofs.Pattern.Matching
import RemoteSearch.Proofs.Pattern.Reading
import RemoteSearch.Proofs.Permissions
import RemoteSearch.Proofs.Query.Extraction
import RemoteSearch.Proofs.Query.Parent
import RemoteSearch.Proofs.Result
import RemoteSearch.Proofs.Searcher.Completeness
import RemoteSearch.Proofs.Searcher.Course
import RemoteSearch.Proofs.Searcher.Empty
import RemoteSearch.Proofs.Searcher.Failure
import RemoteSearch.Proofs.Searcher.Leftovers
import RemoteSearch.Proofs.Searcher.Names
import RemoteSearch.Proofs.Searcher.Order
import RemoteSearch.Proofs.Searcher.Preparation
import RemoteSearch.Proofs.Searcher.Records
import RemoteSearch.Proofs.Searcher.Refusal
import RemoteSearch.Proofs.Searcher.Replay
import RemoteSearch.Proofs.Searcher.Run
import RemoteSearch.Proofs.Searcher.Truncation
import RemoteSearch.Proofs.Settings.Placement
import RemoteSearch.Proofs.Settings.Resolution
import RemoteSearch.Proofs.Shell.Reading
import RemoteSearch.Proofs.Text.Base64
import RemoteSearch.Proofs.Text.Blank
import RemoteSearch.Proofs.Text.Decoding
import RemoteSearch.Proofs.Text.Digits
import RemoteSearch.Proofs.Text.Encoding
import RemoteSearch.Proofs.Text.Excerpt
import RemoteSearch.Proofs.Text.Upper
import RemoteSearch.Proofs.Transfer.Course
import RemoteSearch.Proofs.Transfer.Leftovers
import RemoteSearch.Proofs.Transfer.Lines
import RemoteSearch.Proofs.Transfer.Names
import RemoteSearch.Proofs.Transfer.Stream
import RemoteSearch.Proofs.Unix.Admission
import RemoteSearch.Proofs.Unix.Awk
import RemoteSearch.Proofs.Unix.Depth
import RemoteSearch.Proofs.Unix.Faithful
import RemoteSearch.Proofs.Unix.Image
import RemoteSearch.Proofs.Unix.Layout
import RemoteSearch.Proofs.Unix.Listing
import RemoteSearch.Proofs.Unix.LiteralNames
import RemoteSearch.Proofs.Unix.Mounts
import RemoteSearch.Proofs.Unix.Notices
import RemoteSearch.Proofs.Unix.Objects
import RemoteSearch.Proofs.Unix.Operands
import RemoteSearch.Proofs.Unix.Reading
import RemoteSearch.Proofs.Unix.Recent
import RemoteSearch.Proofs.Unix.Safety
import RemoteSearch.Proofs.Unix.Tokens
import RemoteSearch.Proofs.Watch
import RemoteSearch.Proofs.Windows.Blocks
import RemoteSearch.Proofs.Windows.CacheKey
import RemoteSearch.Proofs.Windows.Damage
import RemoteSearch.Proofs.Windows.Items
import RemoteSearch.Proofs.Windows.Limits
import RemoteSearch.Proofs.Windows.Literal
import RemoteSearch.Proofs.Windows.NameConstraints
import RemoteSearch.Proofs.Windows.NameSearch
import RemoteSearch.Proofs.Windows.Reading
import RemoteSearch.Proofs.Windows.Spelling
import RemoteSearch.Proofs.Windows.Volumes
import RemoteSearch.Query
import RemoteSearch.Query.Parent
import RemoteSearch.Searcher.Basic
import RemoteSearch.Searcher.Findings
import RemoteSearch.Searcher.Handle
import RemoteSearch.Searcher.Memory
import RemoteSearch.Searcher.Setup
import RemoteSearch.Session.Action
import RemoteSearch.Session.Basic
import RemoteSearch.Session.Execution
import RemoteSearch.Session.Request
import RemoteSearch.Session.Scripted
import RemoteSearch.Settings.Basic
import RemoteSearch.Settings.Ini
import RemoteSearch.Settings.KeyPath
import RemoteSearch.Settings.Load
import RemoteSearch.Settings.Tree
import RemoteSearch.Shell
import RemoteSearch.Shell.Arithmetic
import RemoteSearch.Shell.Nest
import RemoteSearch.Shell.Token
import RemoteSearch.Text.Base64
import RemoteSearch.Text.Blank
import RemoteSearch.Text.Case.Fold
import RemoteSearch.Text.Case.Lower
import RemoteSearch.Text.Case.Shift
import RemoteSearch.Text.Case.Upper
import RemoteSearch.Text.Encoding
import RemoteSearch.Text.Excerpt
import RemoteSearch.Text.Numeral
import RemoteSearch.Text.Split
import RemoteSearch.Text.Unicode.Added
import RemoteSearch.Text.Unicode.Age
import RemoteSearch.Text.Unicode.Category
import RemoteSearch.Text.Unicode.Derived
import RemoteSearch.Text.Unicode.Property
import RemoteSearch.Text.Unicode.Ranges
import RemoteSearch.Text.Unicode.Script
import RemoteSearch.Text.Unicode.Segment
import RemoteSearch.Text.Unicode.Trait
import RemoteSearch.Text.Utf16
import RemoteSearch.Text.Utf8
import RemoteSearch.Text.Utf8Ranges
import RemoteSearch.Text.Word
import RemoteSearch.Timeouts
import RemoteSearch.Transfer.Basic
import RemoteSearch.Transfer.Config
import RemoteSearch.Transfer.Lines
import RemoteSearch.Transfer.Stamp
import RemoteSearch.Transfer.Stream
import RemoteSearch.Unix.Awk
import RemoteSearch.Unix.Depth
import RemoteSearch.Unix.Dialect
import RemoteSearch.Unix.Glob
import RemoteSearch.Unix.Listing
import RemoteSearch.Unix.Mounts
import RemoteSearch.Unix.Pipeline
import RemoteSearch.Watch.Basic
import RemoteSearch.Watch.Timeline
import RemoteSearch.Windows.Helper
import RemoteSearch.Windows.Mounts
import RemoteSearch.Windows.Pipeline
import RemoteSearch.Windows.Record
