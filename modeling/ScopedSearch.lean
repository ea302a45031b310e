import ScopedSearch.Audit
import ScopedSearch.Chain
import ScopedSearch.Compiler
import ScopedSearch.Entries
import ScopedSearch.Error
import ScopedSearch.Estimate
import ScopedSearch.Event
import ScopedSearch.Field
import ScopedSearch.Json.Reader
import ScopedSearch.Json.Writer
import ScopedSearch.Label
import ScopedSearch.Label.Published
import ScopedSearch.Link
import ScopedSearch.Link.Address
import ScopedSearch.Link.Published
import ScopedSearch.Log
import ScopedSearch.Number.Binary64
import ScopedSearch.Number.Numeral
import ScopedSearch.Number.Shortest
import ScopedSearch.Predicate
import ScopedSearch.Query
import ScopedSearch.Query.Build
import ScopedSearch.Query.Display
import ScopedSearch.Query.Nesting
import ScopedSearch.Query.Wire
import ScopedSearch.Registry
import ScopedSearch.Registry.Config
import ScopedSearch.Registry.Declared
import ScopedSearch.Registry.Generated
import ScopedSearch.Registry.Issue
import ScopedSearch.Scope
import ScopedSearch.Services
import ScopedSearch.Settings
import ScopedSearch.Settings.FileTree
import ScopedSearch.Settings.Loader
import ScopedSearch.Settings.Path
import ScopedSearch.Site
import ScopedSearch.Template
import ScopedSearch.Template.Catalogue
import ScopedSearch.Template.Form
import ScopedSearch.Term
import ScopedSearch.Term.Entry
import ScopedSearch.Text.Blank
import ScopedSearch.Text.Digit
import ScopedSearch.Text.Percent
import ScopedSearch.Text.Printable
import ScopedSearch.Text.Quoted
import ScopedSearch.Text.Range
import ScopedSearch.Text.Split
import ScopedSearch.Text.Upper
import ScopedSearch.Text.Words
import ScopedSearch.Proofs.Walk
import ScopedSearch.Proofs.Reading
import ScopedSearch.Proofs.Meaning
import ScopedSearch.Proofs.Typing
import ScopedSearch.Proofs.NormalForm
import ScopedSearch.Proofs.Rereading
import ScopedSearch.Proofs.Conformance
import ScopedSearch.Proofs.RelatedList
import ScopedSearch.Proofs.ChainOrder
import ScopedSearch.Proofs.Extension
import ScopedSearch.Proofs.Failure
import ScopedSearch.Proofs.Nesting
import ScopedSearch.Proofs.Splicing
import ScopedSearch.Proofs.Closure
import ScopedSearch.Proofs.Binding
import ScopedSearch.Proofs.Merging
import ScopedSearch.Proofs.RoundTrip
import ScopedSearch.Proofs.Reachability
import ScopedSearch.Proofs.Staging
import ScopedSearch.Proofs.WayBack
import ScopedSearch.Proofs.Precedence
import ScopedSearch.Proofs.Combining
import ScopedSearch.Proofs.JsonText
import ScopedSearch.Proofs.AddressText
import ScopedSearch.Proofs.LevelBound
import ScopedSearch.Proofs.PredicateText
import ScopedSearch.Proofs.Rounding
import ScopedSearch.Proofs.ShortestDecimal
import ScopedSearch.Proofs.StrictOrder
import ScopedSearch.Proofs.FloatText
import ScopedSearch.Proofs.AddressParameters
import ScopedSearch.Proofs.LibraryViews
import ScopedSearch.Proofs.EntryPoints
import ScopedSearch.Proofs.WrittenScope
import ScopedSearch.Proofs.KeyOrder
import ScopedSearch.Proofs.BranchNames
import ScopedSearch.Proofs.Rooting
import ScopedSearch.Proofs.CaseBoundaries
import ScopedSearch.Proofs.UpperCase
import ScopedSearch.Proofs.Labelling
import ScopedSearch.Proofs.SettingFaults
import ScopedSearch.Proofs.EntryFaults
import ScopedSearch.Proofs.AnchoredPaths
import ScopedSearch.Proofs.FilledForms
import ScopedSearch.Proofs.LoneSurrogates
import ScopedSearch.Proofs.LinkIdentifiers
import ScopedSearch.Proofs.LogLevels
import ScopedSearch.Proofs.ServedRecords
import ScopedSearch.Proofs.LongNumbers
