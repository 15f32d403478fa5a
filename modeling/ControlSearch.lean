import ControlSearch.CharSet
import ControlSearch.CharSet.Bytes
import ControlSearch.CharSet.Folding
import ControlSearch.CharSet.Property
import ControlSearch.Error
import ControlSearch.Json
import ControlSearch.Locator
import ControlSearch.Page
import ControlSearch.Page.Builder
import ControlSearch.Page.Description
import ControlSearch.Page.Json
import ControlSearch.Page.RunningText
import ControlSearch.Page.Static
import ControlSearch.Pattern
import ControlSearch.Pattern.Cache
import ControlSearch.Pattern.Content
import ControlSearch.Pattern.Metrics
import ControlSearch.Pattern.Query
import ControlSearch.Pattern.Wildcard
import ControlSearch.Proofs.CharSet.Membership
import ControlSearch.Proofs.Regex.FirstStep
import ControlSearch.Proofs.Regex.Language
import ControlSearch.Proofs.Regex.Opening
import ControlSearch.Proofs.Regex.Walk
import ControlSearch.Proofs.Text.Boundary
import ControlSearch.Ranking
import ControlSearch.Regex
import ControlSearch.Regex.Branch
import ControlSearch.Regex.Expression
import ControlSearch.Regex.Expression.ClassReader
import ControlSearch.Regex.Expression.Escape
import ControlSearch.Regex.Expression.Meaning
import ControlSearch.Regex.Expression.Reader
import ControlSearch.Regex.Look
import ControlSearch.Regex.Occurrence
import ControlSearch.Regex.Scan
import ControlSearch.Regex.Simplify
import ControlSearch.Regex.Size
import ControlSearch.Regex.Weight
import ControlSearch.Search
import ControlSearch.Search.Clue
import ControlSearch.Settings
import ControlSearch.Settings.Document
import ControlSearch.Settings.Loading
import ControlSearch.Settings.Logging
import ControlSearch.Settings.Validation
import ControlSearch.Span
import ControlSearch.Text
import ControlSearch.Text.Canonical
import ControlSearch.Text.Composition
import ControlSearch.Text.Numeral
import ControlSearch.Toml
import ControlSearch.Toml.Quoted
import ControlSearch.Toml.Reader
import ControlSearch.Proofs.Regex.Run
import ControlSearch.Proofs.Regex.MinSize
import ControlSearch.Proofs.Regex.NormalForm
import ControlSearch.Proofs.CharSet.Folding
import ControlSearch.Proofs.Regex.Meaning
import ControlSearch.Proofs.Pattern.Threads
import ControlSearch.Proofs.Pattern.Acceptance
import ControlSearch.Proofs.Regex.Occurrence
import ControlSearch.Proofs.Pattern.Occurrence
import ControlSearch.Proofs.Pattern.Segments
import ControlSearch.Proofs.Pattern.FirstOccurrence
import ControlSearch.Proofs.Locator
import ControlSearch.Proofs.Search.PathGate
import ControlSearch.Proofs.Ranking
import ControlSearch.Proofs.Search.Scan
import ControlSearch.Proofs.Search.BestHit
import ControlSearch.Proofs.Pattern.LastOccurrence
import ControlSearch.Proofs.Search.Score
import ControlSearch.Proofs.Search.Coverage
import ControlSearch.Proofs.Pattern.Content
import ControlSearch.Proofs.Page.Built
import ControlSearch.Proofs.Page.RunningText
import ControlSearch.Proofs.Page.TextBefore
import ControlSearch.Proofs.Search.Distance
import ControlSearch.Proofs.Pattern.LeadingRun
import ControlSearch.Proofs.Search.Agreement
import ControlSearch.Proofs.Search.LeadingSegment
import ControlSearch.Proofs.Page.Trimming
import ControlSearch.Proofs.Pattern.Cache
import ControlSearch.Proofs.Page.DocumentOrder
import ControlSearch.Proofs.Search.AllCandidates
import ControlSearch.Proofs.Page.Footprint
import ControlSearch.Proofs.Page.LabelText
import ControlSearch.Proofs.Pattern.Written
import ControlSearch.Proofs.Pattern.WordAutomaton
import ControlSearch.Proofs.Pattern.Offsets
import ControlSearch.Proofs.Pattern.WholeText
import ControlSearch.Proofs.Search.ExactHit
import ControlSearch.Proofs.Pattern.LengthGuards
import ControlSearch.Proofs.Pattern.Refusal
import ControlSearch.Proofs.Ranking.Insertions
import ControlSearch.Proofs.Text.Numeral
import ControlSearch.Proofs.Json
import ControlSearch.Proofs.Page.Json
import ControlSearch.Proofs.Toml.Quoted
import ControlSearch.Proofs.Toml.Value
import ControlSearch.Proofs.Toml.Document
import ControlSearch.Proofs.Settings.Document
import ControlSearch.Proofs.Pattern.SearchFrom
import ControlSearch.Proofs.Text.Blank
import ControlSearch.Proofs.Locator.Quoted
import ControlSearch.Proofs.Locator.Escapes
import ControlSearch.Proofs.Page.NearestControl
import ControlSearch.Proofs.Ranking.Merging
import ControlSearch.Proofs.Pattern.ContentReport
import ControlSearch.Proofs.Pattern.SharedStart
import ControlSearch.Proofs.Search.LabelCut
import ControlSearch.Proofs.Pattern.TrailingRun
import ControlSearch.Proofs.Search.OpenLastSegment
import ControlSearch.Proofs.Page.ShownText
import ControlSearch.Proofs.Text.Composition
import ControlSearch.Proofs.Text.Cuts
import ControlSearch.Proofs.Page.Pieces
import ControlSearch.Proofs.Automaton
import ControlSearch.Proofs.CharSet.Bytes
import ControlSearch.Proofs.Pattern.ByteLoop
