import DecimalFormula.Text.Blank
import DecimalFormula.Text.Integer
import DecimalFormula.Text.Quoted
import DecimalFormula.Decimal.Arithmetic
import DecimalFormula.Decimal.Notation
import DecimalFormula.Decimal.Numeral
import DecimalFormula.Binary64.Shortest
import DecimalFormula.Expr.Printer
import DecimalFormula.Expr.Parser
import DecimalFormula.Expr.Scanner
import DecimalFormula.Evaluation.Basic
import DecimalFormula.Converter
import DecimalFormula.CommandLine.Dispatch
import DecimalFormula.Main
import DecimalFormula.Proofs.Text.Blank
import DecimalFormula.Proofs.Decimal.Numeral
import DecimalFormula.Proofs.Decimal.Scientific
import DecimalFormula.Proofs.Decimal.Value
import DecimalFormula.Proofs.Decimal.Rounding
import DecimalFormula.Proofs.Decimal.Fitting
import DecimalFormula.Proofs.Decimal.Arithmetic
import DecimalFormula.Proofs.Binary64.Text
import DecimalFormula.Proofs.Expr.Braced
import DecimalFormula.Proofs.Expr.Grammar
import DecimalFormula.Proofs.Expr.Reading
import DecimalFormula.Proofs.Expr.Soundness
import DecimalFormula.Proofs.Expr.Completeness
import DecimalFormula.Proofs.Expr.Enclosed
import DecimalFormula.Proofs.Expr.Printing
import DecimalFormula.Proofs.Expr.RoundTrip
import DecimalFormula.Proofs.Expr.Unambiguous
import DecimalFormula.Proofs.Expr.Place
import DecimalFormula.Proofs.Expr.Resumption
import DecimalFormula.Proofs.Expr.Refusal
import DecimalFormula.Proofs.Expr.Completion
import DecimalFormula.Proofs.Expr.Lookahead
import DecimalFormula.Proofs.Expr.Spacing
import DecimalFormula.Proofs.Expr.Replacement
import DecimalFormula.Proofs.Expr.Synonym
import DecimalFormula.Proofs.Expr.CallDepth
import DecimalFormula.Proofs.CommandLine.Check
import DecimalFormula.Proofs.Store
import DecimalFormula.Proofs.Engine
import DecimalFormula.Proofs.Evaluation.Recursion
import DecimalFormula.Proofs.Evaluation.Finite
import DecimalFormula.Proofs.Evaluation.Conversion
import DecimalFormula.Proofs.Evaluation.Rounded
import DecimalFormula.Proofs.Evaluation.Literal
import DecimalFormula.Proofs.Evaluation.Mentioned
import DecimalFormula.Proofs.Evaluation.Fitting
import DecimalFormula.Proofs.Coercion
import DecimalFormula.Proofs.Truncation
import DecimalFormula.Proofs.Engine.Account
import DecimalFormula.Proofs.Converter
import DecimalFormula.Proofs.CommandLine.Batch
import DecimalFormula.Proofs.Text.ControlSequence
import DecimalFormula.Proofs.Text.Integer
import DecimalFormula.Proofs.Text.IntegerNumeral
import DecimalFormula.Proofs.Text.Pattern
import DecimalFormula.Proofs.Expr.LongestNumeral
import DecimalFormula.Proofs.CommandLine.Agreement
import DecimalFormula.Proofs.CommandLine.Precision
import DecimalFormula.Proofs.Expr.BracedReference
