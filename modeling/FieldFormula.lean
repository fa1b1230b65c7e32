import FieldFormula.Evaluation
import FieldFormula.Evaluation.Basic
import FieldFormula.EvaluationError
import FieldFormula.Formula.Admissible
import FieldFormula.Formula.Basic
import FieldFormula.Formula.Canonical
import FieldFormula.Formula.OfTokens
import FieldFormula.Formula.Parse
import FieldFormula.Formula.ParseLogged
import FieldFormula.Formula.Reader
import FieldFormula.Formula.Traversal
import FieldFormula.Json
import FieldFormula.Json.Record
import FieldFormula.Limits
import FieldFormula.Log
import FieldFormula.Number.Arithmetic
import FieldFormula.Number.Binary64
import FieldFormula.Number.Decimal
import FieldFormula.Number.Shortest
import FieldFormula.Operator
import FieldFormula.PreparedFormula
import FieldFormula.Scope
import FieldFormula.SyntaxError
import FieldFormula.Text.Alphabet
import FieldFormula.Text.Blank
import FieldFormula.Text.CharRange
import FieldFormula.Text.Printable
import FieldFormula.Text.Quoted
import FieldFormula.Token.Basic
import FieldFormula.Token.Cursor
import FieldFormula.Token.Parentheses
import FieldFormula.Token.Scan
import FieldFormula.Validation
import FieldFormula.Value
import FieldFormula.Value.Operation
import FieldFormula.Proofs.Operators
import FieldFormula.Proofs.Outcome
import FieldFormula.Proofs.Grammar.Reading
import FieldFormula.Proofs.Stages
import FieldFormula.Proofs.Alphabet
import FieldFormula.Proofs.ValidEvaluation
import FieldFormula.Proofs.Grammar.Derivation
import FieldFormula.Proofs.Grammar.Soundness
import FieldFormula.Proofs.Grammar.Completeness
import FieldFormula.Proofs.Grammar.DepthLimit
import FieldFormula.Proofs.Grammar.Acceptance
import FieldFormula.Proofs.SafeFormulas
import FieldFormula.Proofs.Number.Numeral
import FieldFormula.Proofs.SpelledTokens
import FieldFormula.Proofs.Canonical.RoundTrip
import FieldFormula.Proofs.Canonical.Meaning
import FieldFormula.Proofs.Context
import FieldFormula.Proofs.FieldDependence
import FieldFormula.Proofs.Relaxation
import FieldFormula.Proofs.FirstAppearances
import FieldFormula.Proofs.Provenance
import FieldFormula.Proofs.FiniteNumbers
import FieldFormula.Proofs.Grammar.Blame
import FieldFormula.Proofs.Messages
import FieldFormula.Proofs.Places
import FieldFormula.Proofs.Text.OneLine
import FieldFormula.Proofs.DepthGuard
import FieldFormula.Proofs.Lexemes
import FieldFormula.Proofs.Tiling
import FieldFormula.Proofs.Grammar.Lookahead
import FieldFormula.Proofs.Grammar.ViablePrefix
import FieldFormula.Proofs.Layout
import FieldFormula.Proofs.Grammar.Leaves
import FieldFormula.Proofs.Findings
import FieldFormula.Proofs.LogLines
import FieldFormula.Proofs.Text.CodePointOrder
import FieldFormula.Proofs.Number.Order
import FieldFormula.Proofs.Comparison
import FieldFormula.Proofs.Equality
import FieldFormula.Proofs.Number.Nearest
import FieldFormula.Proofs.Number.Spelling
import FieldFormula.Proofs.Text.Trimming
import FieldFormula.Proofs.NumericTexts
import FieldFormula.Proofs.Preorder
import FieldFormula.Proofs.Grammar.Events
import FieldFormula.Proofs.Grammar.BuiltNodes
import FieldFormula.Proofs.Grammar.ShallowTrees
import FieldFormula.Proofs.Grammar.SettledParentheses
