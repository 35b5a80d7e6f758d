import Worksheet.Main
import Worksheet.Proofs.Address
import Worksheet.Proofs.Address.Name
import Worksheet.Proofs.Address.Spelling
import Worksheet.Proofs.Range
import Worksheet.Proofs.Snapshot
import Worksheet.Proofs.Number.Literal
import Worksheet.Proofs.Number.Nearest
import Worksheet.Proofs.Number.Layout
import Worksheet.Proofs.Number.Leading
import Worksheet.Proofs.Formula.RangeSearch
import Worksheet.Proofs.Formula.Grammar
import Worksheet.Proofs.Formula.Reader
import Worksheet.Proofs.Formula.Lexeme
import Worksheet.Proofs.Formula.Operand
import Worksheet.Proofs.Formula.Arithmetic
import Worksheet.Proofs.Formula.Dependence
import Worksheet.Proofs.Formula.NumberText
import Worksheet.Proofs.Formula.PlainArithmetic
import Worksheet.Proofs.Sheet.Run
import Worksheet.Proofs.Sheet.History
import Worksheet.Proofs.Sheet.Commute
import Worksheet.Proofs.Json.Text
import Worksheet.Proofs.Json.Value
import Worksheet.Proofs.Json.Record
import Worksheet.Proofs.Formula.OneLine
import Worksheet.Proofs.Script
import Worksheet.Proofs.Sheet.Listing
import Worksheet.Proofs.Command
import Worksheet.Proofs.Sheet.Refusal
import Worksheet.Proofs.Sheet.Formats
import Worksheet.Proofs.Sheet.ReadBack
import Worksheet.Proofs.Formula.Failure
import Worksheet.Proofs.Snapshot.StoredOrder
import Worksheet.Proofs.Range.Walk
import Worksheet.Proofs.Address.Codec
import Worksheet.Proofs.Formula.ByteScan
import Worksheet.Proofs.Number.Rounding
import Worksheet.Proofs.Number.Rational
import Worksheet.Proofs.Number.Signed
import Worksheet.Proofs.Number.Longest
import Worksheet.Proofs.Formula.RangeAgreement
import Worksheet.Proofs.Formula.Readers
import Worksheet.Proofs.Color
import Worksheet.Proofs.Json.Color
import Worksheet.Proofs.Number.Order
import Worksheet.Proofs.Number.Difference
import Worksheet.Proofs.Formula.Evaluator
import Worksheet.Proofs.Formula.Aggregate
import Worksheet.Proofs.Json.FormatChange
import Worksheet.Proofs.Formula.Comparison
import Worksheet.Proofs.Formula.Tiling
import Worksheet.Proofs.Formula.Recursion
