import ArithExpr.Source
import ArithExpr.Decimal.Datum
import ArithExpr.Fault.Build
import ArithExpr.Grammar
import ArithExpr.Lexer.CharReader
import ArithExpr.Lexer.Session
import ArithExpr.Parser.Checked
import ArithExpr.Parser.Descent
import ArithExpr.Parser.Session
import ArithExpr.Tree.Build
import ArithExpr.Tree.Printer
import ArithExpr.Tree.Visitor
import ArithExpr.Proofs.Correctness
import ArithExpr.Proofs.DescentAgreement
import ArithExpr.Proofs.PartialTree
import ArithExpr.Proofs.RoundTrip
import ArithExpr.Proofs.Beginnings
import ArithExpr.Proofs.DescentOutcome
import ArithExpr.Proofs.Refusals
import ArithExpr.Proofs.Layout
import ArithExpr.Proofs.CorrectPrefix
import ArithExpr.Proofs.Consumption
import ArithExpr.Proofs.Spans
import ArithExpr.Proofs.Segmentation
import ArithExpr.Proofs.TokenCursor
import ArithExpr.Proofs.Pushback
import ArithExpr.Proofs.SlotSpelling
import ArithExpr.Proofs.Frames
import ArithExpr.Proofs.Checks
import ArithExpr.Proofs.Spacing
import ArithExpr.Proofs.FirstFault
import ArithExpr.Proofs.OuterOperators
import ArithExpr.Proofs.FullReading
import ArithExpr.Proofs.Composition
import ArithExpr.Proofs.Lifting
import ArithExpr.Proofs.PlaceValue
import ArithExpr.Proofs.NormalDigits
import ArithExpr.Proofs.Folding
import ArithExpr.Proofs.Printing
import ArithExpr.Proofs.Visiting
import ArithExpr.Proofs.Concatenation
import ArithExpr.Proofs.StrictTokens
import ArithExpr.Proofs.OpenFrames
import ArithExpr.Proofs.Stages
