import DecoratorLint.Command.Notice
import DecoratorLint.Command.Options
import DecoratorLint.Command.Run
import DecoratorLint.Config.Load
import DecoratorLint.Config.Section
import DecoratorLint.Config.Settings
import DecoratorLint.Decorator.Head
import DecoratorLint.Decorator.Use
import DecoratorLint.Files.Collection
import DecoratorLint.Files.FileSystem
import DecoratorLint.Files.Path
import DecoratorLint.Files.Tree
import DecoratorLint.Finding
import DecoratorLint.Json.Fields
import DecoratorLint.Json.Reader
import DecoratorLint.Json.Value
import DecoratorLint.Json.Writer
import DecoratorLint.Lint
import DecoratorLint.Main
import DecoratorLint.Proofs.Directive
import DecoratorLint.Proofs.Disabling
import DecoratorLint.Proofs.Occurrence
import DecoratorLint.Proofs.TextLines
import DecoratorLint.Proofs.Verdict
import DecoratorLint.Proofs.WrittenDirective
import DecoratorLint.Report.Document
import DecoratorLint.Report.Groups
import DecoratorLint.Report.Listing
import DecoratorLint.Report.Style
import DecoratorLint.Rule.Basic
import DecoratorLint.Rule.Severity
import DecoratorLint.Rule.Spec
import DecoratorLint.RunLog.Line
import DecoratorLint.RunLog.LogFile
import DecoratorLint.RunLog.Moment
import DecoratorLint.RunLog.Record
import DecoratorLint.Source.Expr
import DecoratorLint.Source.Grammar.Basic
import DecoratorLint.Source.Grammar.Expression
import DecoratorLint.Source.Grammar.Pattern
import DecoratorLint.Source.Grammar.Statement
import DecoratorLint.Source.Interpolation
import DecoratorLint.Source.Layout
import DecoratorLint.Source.Module
import DecoratorLint.Source.Number
import DecoratorLint.Source.Placed
import DecoratorLint.Source.SoftKeyword
import DecoratorLint.Source.Stmt
import DecoratorLint.Source.StringLiteral
import DecoratorLint.Source.Token
import DecoratorLint.SourceLines
import DecoratorLint.Suppression
import DecoratorLint.Text.Blank
import DecoratorLint.Text.Decimal
import DecoratorLint.Text.Emoji
import DecoratorLint.Text.Hidden
import DecoratorLint.Text.Identifier
import DecoratorLint.Text.Lines
import DecoratorLint.Text.Pieces
import DecoratorLint.Text.Quoted
import DecoratorLint.Text.Sorted
import DecoratorLint.Text.Truncate
import DecoratorLint.Toml.Datetime
import DecoratorLint.Toml.Document
import DecoratorLint.Toml.Number
import DecoratorLint.Toml.Reader
import DecoratorLint.Toml.Text
import DecoratorLint.Toml.Value
import DecoratorLint.Proofs.Sighting
import DecoratorLint.Proofs.Reporting
import DecoratorLint.Proofs.SourceOrder
import DecoratorLint.Proofs.JsonReading
import DecoratorLint.Proofs.RunRecordLine
import DecoratorLint.Proofs.FilePlaces
import DecoratorLint.Proofs.LogHistory
import DecoratorLint.Proofs.PathText
import DecoratorLint.Proofs.CollectedFiles
import DecoratorLint.Proofs.ReportAgreement
import DecoratorLint.Proofs.ExitStatus
import DecoratorLint.Proofs.ConfigReading
import DecoratorLint.Proofs.DirectiveMeaning
import DecoratorLint.Proofs.Shortfall
import DecoratorLint.Proofs.RulesOfRun
import DecoratorLint.Proofs.DottedUse
import DecoratorLint.Proofs.LaterDirective
import DecoratorLint.Proofs.LineSpan
import DecoratorLint.Proofs.MessageTemplate
import DecoratorLint.Proofs.TokenStart
import DecoratorLint.Proofs.TokenReading
import DecoratorLint.Proofs.ExprStart
import DecoratorLint.Proofs.DecoratorStart
import DecoratorLint.Proofs.LineAgreement
import DecoratorLint.Proofs.SpecText
import DecoratorLint.Proofs.ConfigSearch
import DecoratorLint.Proofs.CollectionOrder
import DecoratorLint.Proofs.ParameterSets
import DecoratorLint.Proofs.Truncation
import DecoratorLint.Proofs.HeadPath
import DecoratorLint.Proofs.DefaultMessage
import DecoratorLint.Proofs.LineSnapshot
import DecoratorLint.Proofs.EnabledRules
