import SurveyFlow.CommandLine.Arguments
import SurveyFlow.CommandLine.Environment
import SurveyFlow.CommandLine.Run
import SurveyFlow.Condition.AnswerSet
import SurveyFlow.Condition.Cache
import SurveyFlow.Condition.Comparison
import SurveyFlow.Condition.Error
import SurveyFlow.Condition.Evaluation
import SurveyFlow.Condition.Form
import SurveyFlow.Condition.Grammar
import SurveyFlow.Condition.Lexer
import SurveyFlow.Condition.Parser
import SurveyFlow.Condition.Printer
import SurveyFlow.Condition.Sentence
import SurveyFlow.Condition.Suspension
import SurveyFlow.Condition.Token
import SurveyFlow.Condition.Value
import SurveyFlow.Data
import SurveyFlow.Failure
import SurveyFlow.Files
import SurveyFlow.Json.Basic
import SurveyFlow.Json.Printer
import SurveyFlow.Json.Reader
import SurveyFlow.Json.Written
import SurveyFlow.Main
import SurveyFlow.Number.Decimal
import SurveyFlow.Number.Double
import SurveyFlow.Number.Power
import SurveyFlow.Number.Radix
import SurveyFlow.Number.Rounding
import SurveyFlow.Number.Shortest
import SurveyFlow.Proofs.CommandLine.Selector
import SurveyFlow.Proofs.Condition.Arrival
import SurveyFlow.Proofs.Condition.Chain
import SurveyFlow.Proofs.Condition.Combination
import SurveyFlow.Proofs.Condition.Comparisons
import SurveyFlow.Proofs.Condition.Cutting
import SurveyFlow.Proofs.Condition.Descent
import SurveyFlow.Proofs.Condition.FirstImpossible
import SurveyFlow.Proofs.Condition.Hiding
import SurveyFlow.Proofs.Condition.Layout
import SurveyFlow.Proofs.Condition.Limits
import SurveyFlow.Proofs.Condition.Lookups
import SurveyFlow.Proofs.Condition.Parsing
import SurveyFlow.Proofs.Condition.Prefixes
import SurveyFlow.Proofs.Condition.Quoting
import SurveyFlow.Proofs.Condition.Reading
import SurveyFlow.Proofs.Condition.Recursion
import SurveyFlow.Proofs.Condition.RoundTrip
import SurveyFlow.Proofs.Condition.ShortCircuit
import SurveyFlow.Proofs.Condition.Spacing
import SurveyFlow.Proofs.Condition.Written
import SurveyFlow.Proofs.Json.Numerals
import SurveyFlow.Proofs.Json.Reading
import SurveyFlow.Proofs.Json.Values
import SurveyFlow.Proofs.Settings.Overrides
import SurveyFlow.Proofs.Survey.Agreement
import SurveyFlow.Proofs.Survey.Consistency
import SurveyFlow.Proofs.Survey.Contents
import SurveyFlow.Proofs.Survey.Coverage
import SurveyFlow.Proofs.Survey.Dependence
import SurveyFlow.Proofs.Survey.Entering
import SurveyFlow.Proofs.Survey.Explanation
import SurveyFlow.Proofs.Survey.Journal
import SurveyFlow.Proofs.Survey.Literals
import SurveyFlow.Proofs.Survey.Places
import SurveyFlow.Proofs.Survey.Policies
import SurveyFlow.Proofs.Survey.Recorded
import SurveyFlow.Proofs.Survey.References
import SurveyFlow.Proofs.Survey.Removal
import SurveyFlow.Proofs.Survey.Replay
import SurveyFlow.Proofs.Survey.Scoping
import SurveyFlow.Proofs.Survey.Serialization
import SurveyFlow.Proofs.Survey.SerializedText
import SurveyFlow.Proofs.Survey.Sharing
import SurveyFlow.Proofs.Survey.Sites
import SurveyFlow.Proofs.Survey.Stages
import SurveyFlow.Proofs.Survey.WellFormed
import SurveyFlow.Proofs.Survey.Withdrawal
import SurveyFlow.Settings
import SurveyFlow.Survey.Definition
import SurveyFlow.Survey.Error
import SurveyFlow.Survey.Form
import SurveyFlow.Survey.Journal
import SurveyFlow.Survey.Report
import SurveyFlow.Survey.ReportForm
import SurveyFlow.Survey.Response
import SurveyFlow.Survey.Scope
import SurveyFlow.Survey.Validation
import SurveyFlow.Survey.Walk
import SurveyFlow.Text.Alphanumeric
import SurveyFlow.Text.CharClass
import SurveyFlow.Text.Cut
import SurveyFlow.Yaml.Mark
import SurveyFlow.Yaml.Meaning
import SurveyFlow.Yaml.Node
import SurveyFlow.Yaml.Scalar
