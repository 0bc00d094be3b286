import Listfile.Catalog
import Listfile.CommandLine.Files
import Listfile.CommandLine.Help
import Listfile.CommandLine.Invocation
import Listfile.CommandLine.Run
import Listfile.Config.Path
import Listfile.Config.Settings
import Listfile.Config.Toml.Document
import Listfile.Config.Toml.Moment
import Listfile.Config.Toml.Reader
import Listfile.Config.Toml.Scalar
import Listfile.Config.Toml.Table
import Listfile.Config.Value
import Listfile.Decimal
import Listfile.Entries
import Listfile.Grammar.Anchor
import Listfile.Grammar.Backrefs
import Listfile.Grammar.Basic
import Listfile.Grammar.Bundled
import Listfile.Grammar.Compile
import Listfile.Grammar.Definition
import Listfile.Grammar.Document
import Listfile.Grammar.Fault
import Listfile.Grammar.Variables
import Listfile.Highlight.Basic
import Listfile.Highlight.Check
import Listfile.Highlight.Format
import Listfile.Highlight.Journal
import Listfile.Highlight.Line
import Listfile.Highlight.Session
import Listfile.Highlight.Step
import Listfile.Json
import Listfile.Layout.Format
import Listfile.Layout.Style
import Listfile.Main
import Listfile.Proofs.CommandLine.Formatting
import Listfile.Proofs.CommandLine.Storing
import Listfile.Proofs.Grammar.Anchoring
import Listfile.Proofs.Grammar.Building
import Listfile.Proofs.Grammar.Compiling
import Listfile.Proofs.Grammar.Cutting
import Listfile.Proofs.Grammar.Delimiting
import Listfile.Proofs.Grammar.Expanding
import Listfile.Proofs.Grammar.Finding
import Listfile.Proofs.Grammar.Firing
import Listfile.Proofs.Grammar.Fronting
import Listfile.Proofs.Grammar.Including
import Listfile.Proofs.Grammar.Inlining
import Listfile.Proofs.Grammar.Joining
import Listfile.Proofs.Grammar.Listing
import Listfile.Proofs.Grammar.Mentioning
import Listfile.Proofs.Grammar.Naming
import Listfile.Proofs.Grammar.Nesting
import Listfile.Proofs.Grammar.Ordering
import Listfile.Proofs.Grammar.Outlining
import Listfile.Proofs.Grammar.Preserving
import Listfile.Proofs.Grammar.Quoting
import Listfile.Proofs.Grammar.Registering
import Listfile.Proofs.Grammar.Resolving
import Listfile.Proofs.Grammar.Sketching
import Listfile.Proofs.Grammar.Substituting
import Listfile.Proofs.Highlight.Agreeing
import Listfile.Proofs.Highlight.Arguing
import Listfile.Proofs.Highlight.Arriving
import Listfile.Proofs.Highlight.Bracketing
import Listfile.Proofs.Highlight.Breaking
import Listfile.Proofs.Highlight.Closing
import Listfile.Proofs.Highlight.Commanding
import Listfile.Proofs.Highlight.Commenting
import Listfile.Proofs.Highlight.Emitting
import Listfile.Proofs.Highlight.Enclosing
import Listfile.Proofs.Highlight.Filling
import Listfile.Proofs.Highlight.Going
import Listfile.Proofs.Highlight.Halting
import Listfile.Proofs.Highlight.Instantiating
import Listfile.Proofs.Highlight.Journaling
import Listfile.Proofs.Highlight.Painting
import Listfile.Proofs.Highlight.Pairing
import Listfile.Proofs.Highlight.Reaching
import Listfile.Proofs.Highlight.Referring
import Listfile.Proofs.Highlight.Rendering
import Listfile.Proofs.Highlight.Resuming
import Listfile.Proofs.Highlight.Scoping
import Listfile.Proofs.Highlight.Splitting
import Listfile.Proofs.Highlight.Stalling
import Listfile.Proofs.Highlight.Standing
import Listfile.Proofs.Highlight.Trailing
import Listfile.Proofs.Highlight.Trying
import Listfile.Proofs.Highlight.Walking
import Listfile.Proofs.Layout.Capping
import Listfile.Proofs.Layout.Ending
import Listfile.Proofs.Layout.Finishing
import Listfile.Proofs.Layout.Idempotence
import Listfile.Proofs.Layout.Indenting
import Listfile.Proofs.Layout.Laying
import Listfile.Proofs.Layout.Meaning
import Listfile.Proofs.Layout.Separation
import Listfile.Proofs.Layout.Tidying
import Listfile.Proofs.Outcome
import Listfile.Proofs.Regex.Attempting
import Listfile.Proofs.Regex.Consuming
import Listfile.Proofs.Regex.Crossing
import Listfile.Proofs.Regex.Ending
import Listfile.Proofs.Regex.Escaping
import Listfile.Proofs.Regex.Grouping
import Listfile.Proofs.Regex.Growing
import Listfile.Proofs.Regex.Guarding
import Listfile.Proofs.Regex.Inserting
import Listfile.Proofs.Regex.Leading
import Listfile.Proofs.Regex.Looping
import Listfile.Proofs.Regex.Marking
import Listfile.Proofs.Regex.Padding
import Listfile.Proofs.Regex.Parting
import Listfile.Proofs.Regex.Planning
import Listfile.Proofs.Regex.Refusing
import Listfile.Proofs.Regex.Returning
import Listfile.Proofs.Regex.Runs
import Listfile.Proofs.Regex.Skipping
import Listfile.Proofs.Regex.Staying
import Listfile.Proofs.Regex.Stepping
import Listfile.Proofs.Regex.Texts
import Listfile.Proofs.Regex.Tracking
import Listfile.Proofs.Scope.Listing
import Listfile.Proofs.Scope.Selecting
import Listfile.Proofs.Text.Ahead
import Listfile.Proofs.Text.Decoding
import Listfile.Proofs.Text.Lines
import Listfile.Proofs.Text.Passing
import Listfile.Proofs.Text.Positions
import Listfile.Proofs.Text.Quoting
import Listfile.Proofs.Text.Returns
import Listfile.Proofs.Text.Spans
import Listfile.Proofs.Text.Trimming
import Listfile.Proofs.Tree.Accepting
import Listfile.Proofs.Tree.Building
import Listfile.Proofs.Tree.Covering
import Listfile.Proofs.Tree.Cutting
import Listfile.Proofs.Tree.Failing
import Listfile.Proofs.Tree.Flattening
import Listfile.Proofs.Tree.Forming
import Listfile.Proofs.Tree.Lexing
import Listfile.Proofs.Tree.Matching
import Listfile.Proofs.Tree.Rebuilding
import Listfile.Proofs.Tree.Unwrapping
import Listfile.Proofs.Tree.Words
import Listfile.Regex.CharRanges
import Listfile.Regex.CharSet
import Listfile.Regex.Expr
import Listfile.Regex.Fault
import Listfile.Regex.Machine
import Listfile.Regex.Parse.Class
import Listfile.Regex.Parse.Escape
import Listfile.Regex.Parse.Pattern
import Listfile.Regex.Parse.Quantifier
import Listfile.Regex.Plain
import Listfile.Regex.Plan
import Listfile.Regex.Quote
import Listfile.Regex.Search
import Listfile.Regex.Weight
import Listfile.Scope
import Listfile.Text.Blank
import Listfile.Text.Bytes
import Listfile.Text.Cursor
import Listfile.Text.Digits
import Listfile.Text.FilePath
import Listfile.Text.Find
import Listfile.Text.Lines
import Listfile.Text.Position
import Listfile.Text.Quoted
import Listfile.Text.Utf8
import Listfile.Tree.Argument
import Listfile.Tree.Basic
import Listfile.Tree.Fault
import Listfile.Tree.Lexeme
import Listfile.Tree.Parse
import Listfile.Tree.Scan
import Listfile.Tree.Value
import Listfile.Unicode.Age
import Listfile.Unicode.Break
import Listfile.Unicode.Category
import Listfile.Unicode.Folding
import Listfile.Unicode.Later
import Listfile.Unicode.Property
import Listfile.Unicode.Ranges
import Listfile.Unicode.Script
import Listfile.Yaml.Node
import Listfile.Yaml.Scalar
import Listfile.Yaml.Scan
import Listfile.Yaml.Token
import Listfile.Yaml.Value
