/-
This file gathers the library of boolean expressions, their caches and their rules.
-/

import Predicates.Expression
import Predicates.Expression.Compiled
import Predicates.Expression.Cursor
import Predicates.Expression.Evaluation
import Predicates.Expression.Execution
import Predicates.Expression.Identifiers
import Predicates.Expression.Lexeme
import Predicates.Expression.LexemeSplit
import Predicates.Expression.Literal
import Predicates.Expression.Operator
import Predicates.Expression.Parser
import Predicates.Expression.Token
import Predicates.Expression.Typing
import Predicates.Failure
import Predicates.IdentifierCache
import Predicates.Keyed
import Predicates.Number
import Predicates.Number.Binary64
import Predicates.Number.BinaryArithmetic
import Predicates.Number.BinaryDecimal
import Predicates.Number.BinaryNumeral
import Predicates.Number.Decimal
import Predicates.Number.DecimalNegation
import Predicates.Number.DecimalOrder
import Predicates.Number.Rounding
import Predicates.Parameters
import Predicates.Rules.Rule
import Predicates.Rules.RuleFile
import Predicates.Rules.Workspace
import Predicates.Session
import Predicates.Settings
import Predicates.Text.Blank
import Predicates.Text.CaseClass
import Predicates.Text.CodeRange
import Predicates.Text.DecimalDigit
import Predicates.Text.Integer
import Predicates.Text.LowerCase
import Predicates.Text.Numeral
import Predicates.Text.Octets
import Predicates.Text.Printable
import Predicates.Text.Quoted
import Predicates.Value
import Predicates.Value.Comparison
import Predicates.Yaml.Data
import Predicates.Yaml.Document
import Predicates.Yaml.Fault
import Predicates.Yaml.Graph
import Predicates.Yaml.Instant
import Predicates.Yaml.Layout
import Predicates.Yaml.Loading
import Predicates.Yaml.Merge
import Predicates.Yaml.Node
import Predicates.Yaml.Resolution
import Predicates.Yaml.Scalar
import Predicates.Yaml.ScalarData
import Predicates.Yaml.Source
import Predicates.Yaml.Token
import Predicates.Proofs.Grammar.Derivation
import Predicates.Proofs.Grammar.Soundness
import Predicates.Proofs.Grammar.Completeness
import Predicates.Proofs.Grammar.Acceptance
import Predicates.Proofs.Expression.KindSoundness
import Predicates.Proofs.Expression.Blame
import Predicates.Proofs.Cache.Lookup
import Predicates.Proofs.Cache.Contents
import Predicates.Proofs.Session.Transparency
import Predicates.Proofs.Session.OneShot
import Predicates.Proofs.Expression.Execution
import Predicates.Proofs.Number.DecimalNotation
import Predicates.Proofs.Expression.Signals
import Predicates.Proofs.Number.DecimalValue
import Predicates.Proofs.Number.Consistency
import Predicates.Proofs.Printing.Printer
import Predicates.Proofs.Number.Positional
import Predicates.Proofs.Printing.Brackets
import Predicates.Proofs.Lexing.Spelled
import Predicates.Proofs.Lexing.Tokens
import Predicates.Proofs.Printing.RoundTrip
import Predicates.Proofs.Lexing.Overlong
import Predicates.Proofs.Lexing.Composition
import Predicates.Proofs.Lexing.Boundaries
import Predicates.Proofs.Lexing.Layout
import Predicates.Proofs.Grammar.Parallel
import Predicates.Proofs.Grammar.Leaves
import Predicates.Proofs.Rules.Validation
import Predicates.Proofs.Expression.Origin
import Predicates.Proofs.Binding.SlotChoice
import Predicates.Proofs.Session.Referenced
import Predicates.Proofs.Session.BoundNames
import Predicates.Proofs.Session.Withheld
import Predicates.Proofs.Session.Rewritten
import Predicates.Proofs.Session.Lookups
import Predicates.Proofs.Expression.Regrouping
import Predicates.Proofs.Lexing.Placement
import Predicates.Proofs.Grammar.Fragments
import Predicates.Proofs.Grammar.Refusal
import Predicates.Proofs.Grammar.FirstMisfit
import Predicates.Proofs.Expression.Duality
import Predicates.Proofs.Expression.MissingNames
import Predicates.Proofs.Value.Symmetry
import Predicates.Proofs.Value.Coherence
import Predicates.Proofs.Number.WorkingPrecision
import Predicates.Proofs.Number.Reversal
import Predicates.Proofs.Expression.Minus
import Predicates.Proofs.Binding.ByName
import Predicates.Proofs.Rules.Override
import Predicates.Proofs.Session.Configuration
import Predicates.Proofs.Rules.Loading
import Predicates.Proofs.Rules.Directory
import Predicates.Proofs.Rules.Reports
import Predicates.Proofs.Lexing.Stepping
import Predicates.Proofs.Lexing.Pattern
import Predicates.Proofs.Lexing.LongestMatch
import Predicates.Proofs.Grammar.Progress
import Predicates.Proofs.Value.Signaling
import Predicates.Proofs.Expression.Traversal
