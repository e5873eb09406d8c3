import ArithExpr.Lexer.Session
import ArithExpr.Parser.Basic
import ArithExpr.Tree.Node

/-!
# Sessions with a parser

The operations of a parser as data, so that a sequence of them can be spoken about. A session goes
on after an error, with the parser as the error leaves it, and it may move the lexer on its own.

* `Routine` — what can be read: a whole input, a tree of a level, a number, an operator of a class.
* `Parser.read` — carries out a routine.
* `Parser.Step`, `Parser.Answer` — one operation and what it gives back.
* `Parser.perform`, `Parser.session` — carry out one operation, or several in turn.
-/

namespace ArithExpr

/-- What a parser can be asked to read. -/
inductive Routine where
  /-- An expression that takes up the whole input. -/
  | whole
  | tree (level : Level)
  | number
  | operator (precedence : Precedence)
deriving DecidableEq

namespace Parser

/-- Takes the outcome of reading something particular as that of reading some node. -/
def asNode {α : Type} (f : α → Node) :
    Except (ParseError α) α × Parser → Except (ParseError Node) Node × Parser
  | (.ok a, parser) => (.ok (f a), parser)
  | (.error error, parser) => (.error (error.map f), parser)

/-- Takes the outcome of reading a leaf, before which no part of a tree is built. -/
def leafAsNode {α : Type} (f : α → Node) :
    Except Fault α × Parser → Except (ParseError Node) Node × Parser
  | (.ok a, parser) => (.ok (f a), parser)
  | (.error fault, parser) => (.error (.ofFault fault), parser)

/-- Carries out a routine, with what was read as a node. -/
def read (routine : Routine) (parser : Parser) : Except (ParseError Node) Node × Parser :=
  match routine with
  | .whole => asNode .tree parser.parse
  | .tree level => asNode .tree (parser.parseTree level)
  | .number => leafAsNode .number parser.parseNumber
  | .operator p => leafAsNode .operator (parser.parseOperator p)

/-- An operation of the parser, or one of its lexer behind its back. -/
inductive Step where
  | scan
  | unscan
  /-- Look at the next token that is not white space. -/
  | peek
  | scanIgnoringSpace
  | read (routine : Routine)
  /-- Let the lexer carry out an operation of its own. -/
  | lexer (step : Lexer.Step)
deriving DecidableEq

/-- What an operation of the parser gives back. -/
inductive Answer where
  | nothing
  | token (token : Token)
  | outcome (outcome : Except (ParseError Node) Node)
  | lexer (answer : Lexer.Answer)

/-- Carries out one operation. What the lexer does on its own leaves the slot as it is. -/
def perform (step : Step) (parser : Parser) : Answer × Parser :=
  match step with
  | .scan => let (token, after) := parser.scan; (.token token, after)
  | .unscan => (.nothing, parser.unscan)
  | .peek => let (token, after) := parser.peek; (.token token, after)
  | .scanIgnoringSpace => let (token, after) := parser.scanIgnoringSpace; (.token token, after)
  | .read routine => let (outcome, after) := parser.read routine; (.outcome outcome, after)
  | .lexer step =>
    let (answer, lexer) := parser.lexer.perform step
    (.lexer answer, ⟨lexer, parser.slot⟩)

/-- Carries out operations in turn, and gives each answer with the parser after it. -/
def session : List Step → Parser → List (Answer × Parser)
  | [], _ => []
  | step :: steps, parser =>
    let done := parser.perform step
    done :: session steps done.2

end Parser

end ArithExpr
