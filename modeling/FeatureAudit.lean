import FeatureAudit.Advice
import FeatureAudit.Aliases
import FeatureAudit.Audit
import FeatureAudit.Catalogue
import FeatureAudit.Checked
import FeatureAudit.CommandLine.Command
import FeatureAudit.CommandLine.Grammar
import FeatureAudit.CommandLine.Help
import FeatureAudit.CommandLine.Reach
import FeatureAudit.CommandLine.Run
import FeatureAudit.Dataset
import FeatureAudit.Datasets
import FeatureAudit.Decimal.Binary64
import FeatureAudit.Decimal.Shortest
import FeatureAudit.Discovery
import FeatureAudit.Distinct
import FeatureAudit.Enhancement
import FeatureAudit.Feature
import FeatureAudit.Files
import FeatureAudit.Findings
import FeatureAudit.Glob
import FeatureAudit.Hints
import FeatureAudit.History
import FeatureAudit.Homes
import FeatureAudit.Instant
import FeatureAudit.Json.Display
import FeatureAudit.Json.Reader
import FeatureAudit.Json.Value
import FeatureAudit.Json.Writer
import FeatureAudit.Main
import FeatureAudit.Opportunity
import FeatureAudit.Path
import FeatureAudit.Proofs.Advice
import FeatureAudit.Proofs.Agreement
import FeatureAudit.Proofs.AuditRequests
import FeatureAudit.Proofs.CommandLine.Ignoring
import FeatureAudit.Proofs.CommandLine.Passing
import FeatureAudit.Proofs.CommandLine.Verdict
import FeatureAudit.Proofs.Dataset.Conversion
import FeatureAudit.Proofs.Dataset.Failures
import FeatureAudit.Proofs.Dataset.History
import FeatureAudit.Proofs.Dataset.HomePaths
import FeatureAudit.Proofs.Dataset.Origin
import FeatureAudit.Proofs.Detection
import FeatureAudit.Proofs.Discovery
import FeatureAudit.Proofs.FileSets
import FeatureAudit.Proofs.Files
import FeatureAudit.Proofs.Findings.Concatenation
import FeatureAudit.Proofs.Findings.Enhancements
import FeatureAudit.Proofs.Findings.Exemption
import FeatureAudit.Proofs.Findings.Partition
import FeatureAudit.Proofs.Findings.Relaxation
import FeatureAudit.Proofs.FirstWins
import FeatureAudit.Proofs.GivenRegistry
import FeatureAudit.Proofs.Glob
import FeatureAudit.Proofs.Independence
import FeatureAudit.Proofs.Json.Grammar
import FeatureAudit.Proofs.Json.Reading
import FeatureAudit.Proofs.Json.Unambiguous
import FeatureAudit.Proofs.Json.Writing
import FeatureAudit.Proofs.PathOrder
import FeatureAudit.Proofs.PointQuery
import FeatureAudit.Proofs.Registry.ContestedKeys
import FeatureAudit.Proofs.Registry.LookupOrder
import FeatureAudit.Proofs.Registry.Precedence
import FeatureAudit.Proofs.Registry.Spellings
import FeatureAudit.Proofs.Report.FileOrder
import FeatureAudit.Proofs.Report.FileTypes
import FeatureAudit.Proofs.Report.Lossless
import FeatureAudit.Proofs.Report.SourceOrder
import FeatureAudit.Proofs.Report.Statistics
import FeatureAudit.Proofs.ResolvedPaths
import FeatureAudit.Proofs.Retargeting
import FeatureAudit.Proofs.Score
import FeatureAudit.Proofs.Score.Compatibility
import FeatureAudit.Proofs.Score.Risk
import FeatureAudit.Proofs.Script.Comments
import FeatureAudit.Proofs.Script.Concatenation
import FeatureAudit.Proofs.Script.Indentation
import FeatureAudit.Proofs.Script.LineEnds
import FeatureAudit.Proofs.Script.LineUses
import FeatureAudit.Proofs.Script.MethodCalls
import FeatureAudit.Proofs.Settings.Failures
import FeatureAudit.Proofs.Settings.Fields
import FeatureAudit.Proofs.Settings.ListedItems
import FeatureAudit.Proofs.Settings.Precedence
import FeatureAudit.Proofs.Settings.Reading
import FeatureAudit.Proofs.Settings.RoundTrip
import FeatureAudit.Proofs.Settings.TargetOption
import FeatureAudit.Proofs.SourceText
import FeatureAudit.Proofs.Spelling.CamelCase
import FeatureAudit.Proofs.Spelling.VendorMarks
import FeatureAudit.Proofs.StableSort
import FeatureAudit.Proofs.Stylesheet.Addresses
import FeatureAudit.Proofs.Stylesheet.CandidateTokens
import FeatureAudit.Proofs.Stylesheet.DeepSheets
import FeatureAudit.Proofs.Stylesheet.Faults
import FeatureAudit.Proofs.Stylesheet.Flattening
import FeatureAudit.Proofs.Stylesheet.LexemePlaces
import FeatureAudit.Proofs.Stylesheet.Places
import FeatureAudit.Proofs.Stylesheet.Preorder
import FeatureAudit.Proofs.Stylesheet.Reference
import FeatureAudit.Proofs.Stylesheet.SelectorLists
import FeatureAudit.Proofs.Stylesheet.SelectorNames
import FeatureAudit.Proofs.Tally
import FeatureAudit.Proofs.Text.Abridged
import FeatureAudit.Proofs.Text.Blank
import FeatureAudit.Proofs.Text.LowerCase
import FeatureAudit.Proofs.Text.Pieces
import FeatureAudit.Proofs.Text.Utf8
import FeatureAudit.Registry
import FeatureAudit.Report.Console
import FeatureAudit.Report.Data
import FeatureAudit.Report.Statistics
import FeatureAudit.Room
import FeatureAudit.Score
import FeatureAudit.Script.Lines
import FeatureAudit.Script.Pattern
import FeatureAudit.Script.Rules
import FeatureAudit.Server
import FeatureAudit.Service.Body
import FeatureAudit.Service.Host
import FeatureAudit.Service.Label
import FeatureAudit.Service.Reference
import FeatureAudit.Service.Respond
import FeatureAudit.Service.Target
import FeatureAudit.Service.WelcomePage
import FeatureAudit.Session
import FeatureAudit.Settings.Basic
import FeatureAudit.Settings.Sources
import FeatureAudit.Spelling
import FeatureAudit.Stylesheet.Candidates
import FeatureAudit.Stylesheet.Component
import FeatureAudit.Stylesheet.Lexeme
import FeatureAudit.Stylesheet.Node
import FeatureAudit.Stylesheet.Serialized
import FeatureAudit.Text.Blank
import FeatureAudit.Text.Canonical
import FeatureAudit.Text.CaseMap
import FeatureAudit.Text.CharRange
import FeatureAudit.Text.CodeUnit
import FeatureAudit.Text.CombiningClass
import FeatureAudit.Text.Digit
import FeatureAudit.Text.Direction
import FeatureAudit.Text.Encoding
import FeatureAudit.Text.Hex
import FeatureAudit.Text.Integer
import FeatureAudit.Text.Joining
import FeatureAudit.Text.LowerCase
import FeatureAudit.Text.Mark
import FeatureAudit.Text.Printable
import FeatureAudit.Text.Punycode
import FeatureAudit.Text.Quoted
import FeatureAudit.Text.Run
import FeatureAudit.Text.Utf8
import FeatureAudit.Text.Word
import FeatureAudit.Tier
import FeatureAudit.Usage
import FeatureAudit.Workers
