import ArithExpr.Fault.Build
import ArithExpr.Parser.Session
import ArithExpr.Tree.Build

/-!
# A parser that checks its trees

The types of `Tree` and `Stack` leave no room for a chain without an operand, or for a term where a
factor has to stand. Here the same parser works on nodes of any class. Classes are looked up in
tables, operands and operators are collected in lists of nodes, and whenever a node is made it is
checked that the parts are there and are of the right classes. A check that fails is a `Mishap`,
which is no fault of the input.

* `Frame` — an open production: a chain of some class with what it has read, or a group.
* `Checked.chainNode`, `Checked.termNode`, `Checked.operatorNode`, `Checked.numberNode` — nodes,
  made of parts that are checked.
* `Checked.fold` — the chain of a list of operands and a list of operators.
* `Checked.lift`, `Checked.unwind` — the tree that can be had when the reading stops.
* `Checked.reduce`, `Checked.readTerm`, `Checked.pass`, `Checked.run` — rounds, as in `Stack.run`.
* `Checked.read`, `Checked.perform`, `Checked.session` — routines and sessions.
-/

namespace ArithExpr

/-- What a check can find wrong. None of this is about the input. -/
inductive Mishap where
  /-- The parts of a node do not make one. -/
  | parts (error : BuildError)
  /-- A part of a node is not of the class that is asked for in its place. -/
  | misplaced (asked found : NodeClass)
  /-- A chain was to be made of no operands. -/
  | noOperand
  /-- A table has no entry for the class. -/
  | noEntry (cls : NodeClass)
  /-- A token that was read makes no fault. -/
  | fault (error : FaultBuildError)
  /-- A round asked for another one, but took nothing. -/
  | stalled
deriving DecidableEq

/-- An open production. -/
inductive Frame where
  /-- A chain of the class `cls` and what it has read. `rule` is the class of its operators. -/
  | chain (cls : NodeClass) (rule : Precedence) (operands operators : List Node)
  | group (opening : Token)

namespace Checked

section

variable {α β : Type}

/-- What follows a check that succeeds is carried out. -/
@[simp] theorem ok_bind (a : α) (next : α → Except Mishap β) : (Except.ok a >>= next) = next a :=
  rfl

@[simp] theorem pure_eq_ok (a : α) : (pure a : Except Mishap α) = .ok a :=
  rfl

end

/-! ### Tables -/

/-- The entry of a table for a class, which has to be there. -/
def entry {α : Type} (table : NodeClass → Option α) (cls : NodeClass) : Except Mishap α :=
  match table cls with
  | some a => .ok a
  | none => .error (.noEntry cls)

/-- The class of the operands of a chain. -/
def operandClass? : NodeClass → Option NodeClass
  | .tree (.chain .additive) => some (.tree (.chain .multiplicative))
  | .tree (.chain .multiplicative) => some (.tree (.chain .exponentiation))
  | .tree (.chain .exponentiation) => some (.tree .term)
  | .tree .term | .number | .operator _ => none

/-- The class of the chains that have nodes of a class as operands. -/
def wrapper? : NodeClass → Option NodeClass
  | .tree .term => some (.tree (.chain .exponentiation))
  | .tree (.chain .exponentiation) => some (.tree (.chain .multiplicative))
  | .tree (.chain .multiplicative) => some (.tree (.chain .additive))
  | .tree (.chain .additive) | .number | .operator _ => none

/-- How many levels are above a class. -/
def rank? : NodeClass → Option Nat
  | .tree (.chain .additive) => some 0
  | .tree (.chain .multiplicative) => some 1
  | .tree (.chain .exponentiation) => some 2
  | .tree .term => some 3
  | .number | .operator _ => none

/-- The class of operators between the operands of a chain. -/
def rule? : NodeClass → Option Precedence
  | .tree (.chain p) => some p
  | .tree .term | .number | .operator _ => none

/-! ### Nodes -/

/-- What a part of a node is, if it is of the class that is asked for. A part may be absent. -/
def part {α : Type} (asked : NodeClass) (as? : Node → Option α) :
    Option Node → Except Mishap (Option α)
  | none => .ok none
  | some node =>
    match as? node with
    | some a => .ok (some a)
    | none => .error (.misplaced asked node.cls)

/-- A chain of the class `cls`: an operand and what follows it. -/
def chainNode (cls : NodeClass) (operand op rest : Option Node) (span : Option Span) :
    Except Mishap Node := do
  let p ← entry rule? cls
  let operand ← part (.tree p.operand) (Node.asTree? p.operand) operand
  let op ← part (.operator p) (Node.asOperator? p) op
  let rest ← part cls (Node.asTree? (.chain p)) rest
  let tree ← (Tree.chainOf p operand op rest span).mapError .parts
  return .tree tree

/-- A term: an expression in parentheses, or a number. -/
def termNode (inner number : Option Node) (span : Option Span) : Except Mishap Node := do
  let inner ← part (.tree (.chain .additive)) (Node.asTree? (.chain .additive)) inner
  let number ← part .number Node.asNumber? number
  let term ← (Tree.termOf inner number span).mapError .parts
  return .tree term

/-- An operator of a class, made of its token. -/
def operatorNode (p : Precedence) (token : Token) : Except Mishap Node := do
  let op ← (Operator.ofToken p token).mapError .parts
  return .operator op

/-- A number that is written as `text` and has this value. -/
def numberNode (text : String) (value : Rat) (span : Option Span) : Except Mishap Node := do
  let number ← (Number.ofStated text (.fraction value) span).mapError .parts
  return .number number

/-! ### Chains of many parts -/

/-- Puts an operand and an operator in front of a chain. -/
def foldStep (cls : NodeClass) (rest : Node) (link : Node × Node) : Except Mishap Node :=
  chainNode cls (some link.1) (some link.2) (some rest) (Span.join? link.1.span rest.span)

/-- The chain of operands and the operators between them, from the innermost out. Operands and
operators are paired off from their ends, and what has no partner is left out. -/
def fold (cls : NodeClass) (operands operators : List Node) : Except Mishap Node :=
  match operands.reverse with
  | [] => .error .noOperand
  | last :: before => do
    -- the last operand has nothing behind it
    let innermost ← chainNode cls (some last) none none last.span
    (before.zip operators.reverse).foldlM (foldStep cls) innermost

/-! ### Unwinding -/

theorem rank?_wrapper? {cls above : NodeClass} (h : wrapper? cls = some above) :
    (rank? above).getD 0 < (rank? cls).getD 0 := by
  unfold wrapper? at h
  split at h <;> first | (obtain rfl := Option.some.inj h; decide) | simp at h

/-- Makes a node of the class `cls` the only operand of a chain, and so on up to the class
`target`. -/
def wrapUpTo (target cls : NodeClass) (node : Node) : Except Mishap Node :=
  if cls = target then .ok node
  else
    match _ : wrapper? cls with
    | none => .error (.noEntry cls)
    | some above => do
      let wrapped ← chainNode above (some node) none none node.span
      wrapUpTo target above wrapped
termination_by (rank? cls).getD 0
decreasing_by exact rank?_wrapper? ‹_›

/-- A node as one of the class `target`. What stands above the target cannot be had there, nor can
what is of no level. -/
def lift (node : Option Node) (target : NodeClass) : Except Mishap (Option Node) :=
  match node with
  | none => .ok none
  | some node =>
    match rank? node.cls with
    | none => .ok none
    | some rank => do
      let limit ← entry rank? target
      if rank < limit then return none
      else
        let lifted ← wrapUpTo target node.cls node
        return some lifted

/-- Closes a chain. If every operand has an operator behind it and there is an operand for the gap,
the chain takes it; otherwise a dangling operator is dropped. A chain that has nothing leaves what
is built as it is. -/
def unwindChain (cls : NodeClass) (operands operators : List Node) (built : Option Node) :
    Except Mishap (Option Node) := do
  let below ← entry operandClass? cls
  match ← lift built below, decide (operators.length = operands.length) with
  | some operand, true =>
    let node ← fold cls (operands ++ [operand]) operators
    return some node
  | _, _ =>
    if operands.isEmpty then return built
    else
      -- an operator without an operand behind it is dropped
      let node ← fold cls operands (operators.take (operands.length - 1))
      return some node

/-- Closes a group. -/
def unwindGroup (built : Option Node) : Except Mishap (Option Node) := do
  match ← lift built (.tree (.chain .additive)) with
  | some inner =>
    let term ← termNode (some inner) none none
    return some term
  | none => return none

/-- Closes the open productions, the innermost first, around what was built. -/
def unwind : List Frame → Option Node → Except Mishap (Option Node)
  | [], built => .ok built
  | .group _ :: frames, built => do
    let built ← unwindGroup built
    unwind frames built
  | .chain cls _ operands operators :: frames, built => do
    let built ← unwindChain cls operands operators built
    unwind frames built

/-! ### Faults -/

/-- A token that was read, as one that may come from anywhere. -/
def loose (token : Token) : LooseToken :=
  ⟨token.kind, token.lexeme, some token.location⟩

/-- The error of a token that the grammar does not admit. -/
def refusal (expected : Expectation) (found : Token) (built : Option Node) :
    Except Mishap (ParseError Node) := do
  let fault ← (Fault.ofUnexpected expected (loose found)).mapError .fault
  return ⟨fault, built⟩

/-- The error of a group that is not closed by the token that stands in its place. -/
def missingRightParen (opening found : Token) (built : Option Node) :
    Except Mishap (ParseError Node) := do
  let fault ← (Fault.ofMissingRightParen (loose opening) (loose found)).mapError .fault
  return ⟨fault, built⟩

/-- Looks at the next token, which must not be the end. -/
def expectInput (expected : Expectation) (parser : Parser) :
    Except (ParseError Node) Token × Parser :=
  let (token, parser) := parser.peek
  if token.kind = .eof then
    (.error ⟨.unexpectedEnd expected (some token.location), none⟩, parser)
  else (.ok token, parser)

/-! ### Numbers and operators -/

/-- What reading a node comes to. -/
abbrev Outcome :=
  Except (ParseError Node) Node × Parser

/-- The number that is written as `text`, from a first to a last token. -/
def numberOf (text : String) (first last : Token) (parser : Parser) : Except Mishap Outcome :=
  match decimalValue text with
  | .error reason =>
    .ok (.error ⟨.numberConversion text reason (some first.location), none⟩, parser)
  | .ok value => do
    let number ← numberNode text value (some ⟨first.location, last.location⟩)
    return (.ok number, parser)

/-- Reads the digits behind a point and makes the number of them and the digits in front of it. -/
def parseFraction (integral : Token) (parser : Parser) : Except Mishap Outcome := do
  let (token, parser) := parser.peek
  if token.kind = .digits then
    let (fractional, parser) := parser.scanIgnoringSpace
    numberOf (integral.lexeme ++ "." ++ fractional.lexeme) integral fractional parser
  else
    let error ← refusal .fractionalDigits token none
    return (.error error, parser)

/-- Reads a number. A point behind the digits has to be followed by further digits. -/
def parseNumber (parser : Parser) : Except Mishap Outcome := do
  match expectInput .digits parser with
  | (.error error, parser) => return (.error error, parser)
  | (.ok token, parser) =>
    if token.kind = .digits then
      let (integral, parser) := parser.scanIgnoringSpace
      let (point, parser) := parser.peek
      if point.kind = .dot then parseFraction integral parser.scanIgnoringSpace.2
      else numberOf integral.lexeme integral integral parser
    else
      let error ← refusal .number token none
      return (.error error, parser)

/-- Reads an operator of a class. -/
def parseOperator (p : Precedence) (parser : Parser) : Except Mishap Outcome := do
  match expectInput (.operator p) parser with
  | (.error error, parser) => return (.error error, parser)
  | (.ok token, parser) =>
    if token.kind.precedence? = some p then
      let (token, parser) := parser.scanIgnoringSpace
      let op ← operatorNode p token
      return (.ok op, parser)
    else
      let error ← refusal (.operator p) token none
      return (.error error, parser)

/-! ### Rounds -/

/-- What a round comes to. -/
inductive Round where
  | finished (node : Node)
  | stuck (frames : List Frame) (error : ParseError Node)
  /-- A further operand is asked for. -/
  | next (frames : List Frame)

/-- A chain that has read nothing. -/
def chainFrame (cls : NodeClass) : Except Mishap Frame := do
  let rule ← entry rule? cls
  return .chain cls rule [] []

/-- What a chain asks for next: its first operand, or the one after its latest operator. -/
def awaited (operators : List Node) : Except Mishap Expectation :=
  match operators.getLast? with
  | none => .ok .expression
  | some (.operator op) => .ok (.operandAfter op.lexeme)
  | some other => .error (.misplaced (.operator .additive) other.cls)

theorem rank?_operandClass? {cls below : NodeClass} (h : operandClass? cls = some below) :
    3 - (rank? below).getD 0 < 3 - (rank? cls).getD 0 := by
  unfold operandClass? at h
  split at h <;> first | (obtain rfl := Option.some.inj h; decide) | simp at h

/-- Opens the chains that begin in a chain of the class `cls`, down to the ones whose operands are
terms. -/
def openChains (cls : NodeClass) (frames : List Frame) : Except Mishap (List Frame) :=
  if cls = .tree (.chain .exponentiation) then .ok frames
  else
    match _ : operandClass? cls with
    | none => .error (.noEntry cls)
    | some below => do
      let frame ← chainFrame below
      openChains below (frame :: frames)
termination_by 3 - (rank? cls).getD 0
decreasing_by exact rank?_operandClass? ‹_›

/-- Fills the place of the innermost production with a node and closes every production that this
completes. -/
def reduce : List Frame → Node → Parser → Except Mishap (Round × Parser)
  | [], node, parser => .ok (.finished node, parser)
  | .group opening :: frames, node, parser => do
    let (token, parser) := parser.peek
    if token.kind = .rightParen then
      let (closing, parser) := parser.scanIgnoringSpace
      let term ← termNode (some node) none (some ⟨opening.location, closing.location⟩)
      reduce frames term parser
    else
      let term ← termNode (some node) none none
      let error ← missingRightParen opening token (some term)
      return (.stuck frames error, parser)
  | .chain cls rule operands operators :: frames, node, parser => do
    -- the operand is kept, whatever becomes of the operator behind it
    let operands := operands ++ [node]
    let (token, parser) := parser.peek
    if token.kind.precedence? = some rule then
      match ← parseOperator rule parser with
      | (.ok op, parser) =>
        return (.next (.chain cls rule operands (operators ++ [op]) :: frames), parser)
      | (.error error, parser) =>
        return (.stuck (.chain cls rule operands operators :: frames) error, parser)
    else
      let chain ← fold cls operands operators
      reduce frames chain parser

/-- Reads the beginning of a term: a parenthesis, which opens a group, or a number. -/
def readTerm (frames : List Frame) (parser : Parser) : Except Mishap (Round × Parser) := do
  match expectInput .numberOrGroup parser with
  | (.error error, parser) => return (.stuck frames error, parser)
  | (.ok token, parser) =>
    if token.kind = .leftParen then
      let (opening, parser) := parser.scanIgnoringSpace
      let frame ← chainFrame (.tree (.chain .additive))
      return (.next (frame :: .group opening :: frames), parser)
    else if token.kind = .digits then
      match ← parseNumber parser with
      | (.error error, parser) => return (.stuck frames error, parser)
      | (.ok number, parser) =>
        let term ← termNode none (some number) number.span
        reduce frames term parser
    else
      let error ← refusal .numberOrGroup token none
      return (.stuck frames error, parser)

/-- One round. -/
def pass (frames : List Frame) (parser : Parser) : Except Mishap (Round × Parser) := do
  match frames with
  | .chain cls _ _ operators :: _ =>
    let expected ← awaited operators
    match expectInput expected parser with
    | (.error error, parser) => return (.stuck frames error, parser)
    | (.ok _, parser) =>
      -- a fault that comes now finds these chains open
      let opened ← openChains cls frames
      readTerm opened parser
  | .group _ :: _ | [] => readTerm frames parser

/-- Rounds until the tree is complete or the input is refused. It is checked that each of them but
the last takes something. -/
def run (frames : List Frame) (parser : Parser) : Except Mishap Outcome :=
  match pass frames parser with
  | .error mishap => .error mishap
  | .ok (.finished node, after) => .ok (.ok node, after)
  | .ok (.stuck frames error, after) => do
    -- what the production that failed had built fills its place in the one around it
    let built ← unwind frames error.built
    return (.error ⟨error.fault, built⟩, after)
  | .ok (.next frames, after) =>
    if after.remaining < parser.remaining then run frames after else .error .stalled
termination_by parser.remaining

/-! ### Routines -/

/-- Reads a tree of a level: rounds from the frame, or the term, that the level begins with. -/
def parseTree (level : Level) (parser : Parser) : Except Mishap Outcome := do
  match level with
  | .term => run [] parser
  | .chain p =>
    let frame ← chainFrame (.tree (.chain p))
    run [frame] parser

/-- Reads an expression that takes up the whole input. -/
def parse (parser : Parser) : Except Mishap Outcome := do
  match ← parseTree (.chain .additive) parser with
  | (.error error, parser) => return (.error error, parser)
  | (.ok expression, parser) =>
    let (token, parser) := parser.peek
    if token.kind = .eof then return (.ok expression, parser)
    else
      let error ← refusal .operatorOrEnd token (some expression)
      return (.error error, parser)

/-- Carries out a routine with the checks. -/
def read (routine : Routine) (parser : Parser) : Except Mishap Outcome :=
  match routine with
  | .whole => parse parser
  | .tree level => parseTree level parser
  | .number => parseNumber parser
  | .operator p => parseOperator p parser

/-! ### Sessions -/

/-- One operation of a parser. Only a routine makes nodes, so only a routine can go wrong. -/
def perform (step : Parser.Step) (parser : Parser) : Except Mishap (Parser.Answer × Parser) :=
  match step with
  | .read routine => do
    let (outcome, after) ← read routine parser
    return (.outcome outcome, after)
  | .scan | .unscan | .peek | .scanIgnoringSpace | .lexer _ => .ok (parser.perform step)

/-- Carries out operations in turn, and gives each answer with the parser after it. -/
def session : List Parser.Step → Parser → Except Mishap (List (Parser.Answer × Parser))
  | [], _ => .ok []
  | step :: steps, parser => do
    let done ← perform step parser
    let later ← session steps done.2
    return done :: later

end Checked

end ArithExpr
