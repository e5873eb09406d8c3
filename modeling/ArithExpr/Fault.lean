import ArithExpr.Decimal.Basic
import ArithExpr.Diagnostic
import ArithExpr.Token.Basic

/-!
# What can be wrong with an expression

* `Expectation` — what the grammar asks for where it is disappointed.
* `Fault` — what is wrong; `Fault.unexpected` chooses among the faults of a token that the grammar
  does not admit.
* `Fault.diagnostic` — how a fault is reported.
* `ParseError` — a fault together with the part of the tree that was built before it.
-/

namespace ArithExpr

/-- What the grammar asks for at some place. -/
inductive Expectation where
  /-- The first operand of a chain. -/
  | expression
  /-- The operand after the operator with this lexeme. -/
  | operandAfter (lexeme : String)
  | numberOrGroup
  /-- A number, where there is still input. -/
  | number
  /-- A number, where the input is at its end. -/
  | digits
  | fractionalDigits
  | operator (precedence : Precedence)
  /-- What may follow a complete expression. -/
  | operatorOrEnd
  | described (text : String)
deriving DecidableEq

/-- How messages name what is asked for. -/
def Expectation.text : Expectation → String
  | expression => "an expression"
  | operandAfter lexeme => "an operand after " ++ quoted lexeme
  | numberOrGroup => "a number or '('"
  | number => "decimal or floating digits"
  | digits => "digits"
  | fractionalDigits => "fractional digits"
  | operator .additive => "additive operator"
  | operator .multiplicative => "multiplicative operator"
  | operator .exponentiation => "exponentiation operator"
  | operatorOrEnd => "an operator or end of input"
  | described text => text

/-- The kinds of faults that a caller may tell apart. -/
inductive FaultKind where
  | unexpectedEnd
  | grammar
  | numericConversion
  | illegalCharacter
deriving DecidableEq

/-- How a kind is called where faults are written out. -/
def FaultKind.name : FaultKind → String
  | unexpectedEnd => "unexpected_eof"
  | grammar => "syntax"
  | numericConversion => "numeric_conversion"
  | illegalCharacter => "illegal_character"

/-- What is wrong with an expression, where, and what was asked for instead. -/
inductive Fault where
  /-- A token stands where another one was asked for. -/
  | unexpectedToken (expected : Expectation) (found : Token)
  /-- A group that begins at `opening` is not closed where it should be. -/
  | missingRightParen (opening : Option Location) (found : Token)
  /-- The input ends where something was asked for. -/
  | unexpectedEnd (expected : Expectation) (location : Option Location)
  /-- A character that no expression may hold. -/
  | illegalCharacter (expected : Option Expectation) (found : Token)
  /-- Something is not accepted as a decimal literal. -/
  | numberConversion (written : String) (reason : ConversionFault) (location : Option Location)
deriving DecidableEq

namespace Fault

/-- The fault of a token that the grammar does not admit where it stands. -/
def unexpected (expected : Expectation) (found : Token) : Fault :=
  match found.kind with
  | .illegal => illegalCharacter (some expected) found
  | .eof => unexpectedEnd expected (some found.location)
  | _ => unexpectedToken expected found

/-- The kind of a fault. A group that is not closed is a fault of grammar, even at the end. -/
def kind : Fault → FaultKind
  | unexpectedToken .. | missingRightParen .. => .grammar
  | unexpectedEnd .. => .unexpectedEnd
  | illegalCharacter .. => .illegalCharacter
  | numberConversion .. => .numericConversion

/-- Says whether the fault is one of a token that the grammar does not admit, the end included. -/
def isUnexpectedToken : Fault → Bool
  | unexpectedToken .. | missingRightParen .. | unexpectedEnd .. | illegalCharacter .. => true
  | numberConversion .. => false

/-- The token that is blamed. The end of the input is not blamed as a token. -/
def token? : Fault → Option Token
  | unexpectedToken _ found | missingRightParen _ found | illegalCharacter _ found => some found
  | unexpectedEnd .. | numberConversion .. => none

/-- The place of a fault, which is that of the token to blame if there is one. -/
def location? : Fault → Option Location
  | unexpectedToken _ found | missingRightParen _ found | illegalCharacter _ found =>
    some found.location
  | unexpectedEnd _ place | numberConversion _ _ place => place

/-- The code under which a fault is known. -/
def code : Fault → String
  | unexpectedToken .. => "P001"
  | missingRightParen .. => "P004"
  | unexpectedEnd .. => "P010"
  | numberConversion .. => "P013"
  | illegalCharacter .. => "P014"

/-- The words that name what was asked for, behind a comma, if there are any. -/
def expectedClause (expected : Option Expectation) : String :=
  match Diagnostic.present? (expected.map Expectation.text) with
  | some words => ", expected " ++ words
  | none => ""

/-- What is wrong, in a phrase. -/
def message : Fault → String
  | unexpectedToken expected found =>
    "Expected " ++ expected.text ++ ", found " ++ found.kind.description ++ " " ++
      quoted found.lexeme
  | missingRightParen _ found => "Expected ')', found " ++ found.kind.description
  | unexpectedEnd expected _ => "Unexpected end of input, expected " ++ expected.text
  | illegalCharacter expected found =>
    "Illegal character " ++ quoted found.lexeme ++ expectedClause expected
  | numberConversion written _ _ => "Invalid numeric literal: " ++ quoted written

/-- What is wrong, in a sentence. -/
def help : Fault → String
  | unexpectedToken expected found =>
    "The parser expected to see " ++ expected.text ++ " at this position, but found " ++
      found.kind.description ++ " instead."
  | missingRightParen opening _ =>
    "The opening '(' at " ++ Location.textOf opening ++ " was never closed."
  | unexpectedEnd expected _ =>
    "The parser reached the end of the input while expecting " ++ expected.text ++ "."
  | illegalCharacter _ found => lexemeHelp found.lexeme
  | numberConversion _ reason _ => reason.reason

/-- What the writer of the expression might do. -/
def remedies : Fault → Option (List String)
  | unexpectedToken .. => none
  | missingRightParen .. => some ["Add a closing ')'", "Check for missing delimiters"]
  | unexpectedEnd expected _ =>
    some ["Add the missing " ++ expected.text, "Check for a trailing operator"]
  | illegalCharacter _ found => some (lexemeSuggestions found.lexeme)
  | numberConversion .. => some ["Use digits with an optional single '.' and fractional digits"]

/-- The report of a fault, always as an error. -/
def diagnostic (fault : Fault) : Diagnostic where
  message := fault.message
  location := fault.location?
  severity := "error"
  code := some fault.code
  help := some fault.help
  suggestions := fault.remedies

end Fault

/-- A fault and the part of the tree that was built before it, if there is any. -/
structure ParseError (α : Type) where
  fault : Fault
  built : Option α

namespace ParseError

/-- The error of a fault before which nothing was built. -/
def ofFault {α : Type} (fault : Fault) : ParseError α :=
  ⟨fault, none⟩

/-- The same error with the built part taken as something else. -/
def map {α β : Type} (f : α → β) (error : ParseError α) : ParseError β :=
  ⟨error.fault, error.built.map f⟩

end ParseError

end ArithExpr
