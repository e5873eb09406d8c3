import ArithExpr.Fault
import ArithExpr.Parser.Cursor
import ArithExpr.Tree.Chain

/-!
# The parser

The parser reads a tree of any level of the grammar

    Expression = Factor | Factor AddOp Expression
    Factor     = Power  | Power MultiplyOp Factor
    Power      = Term   | Term ExponentOp Power
    Term       = '(' Expression ')' | Number
    Number     = Digits | Digits '.' Digits

White space may stand between any two tokens. While a term is being read, the chains and groups
around it are still open. Together they are a tree with a hole in it: the place of the tree that is
read next. They are held in a `Stack`, so that neither long chains nor deep groups need more than
that.

* `Stack` — the open productions around a hole, the innermost first. Its type says of which level
  the tree in the hole has to be, and of which level the whole tree will be.
* `Stack.descend` — a hole is narrowed down to a term by opening the chains that begin in it.
* `Stack.awaited` — what the innermost production asks for next.
* `Stack.unwind` — the tree that can be had when the reading stops: what is complete is kept, an
  operator without a right operand and a group without content are dropped, and what is kept is
  closed.
* `Parser.parseNumber`, `Parser.parseOperator` — read a number, or an operator of a class.
* `Stack.pass` — one round: go down to a term, read the beginning of one, and close what it
  completes.
* `Stack.run` — rounds until the tree is complete or the input is refused. Each round but the last
  takes a token, so the rounds end (`remaining_pass_lt`).
* `Stack.run_eq_carryOn` — a run is a round and what comes of it.
* `Parser.parseTree`, `Parser.parse` — read a tree of a level; read a whole input.
-/

namespace ArithExpr

/-! ### Open productions -/

/-- The open productions around a hole, the innermost first. The second level is that of the tree
that fills the hole, the first that of the whole tree. -/
inductive Stack (goal : Level) : Level → Type where
  /-- Nothing is open: the hole is the whole tree. -/
  | done : Stack goal goal
  /-- A group is open: the hole is the expression behind `opening`. -/
  | group (opening : Token) (below : Stack goal .term) : Stack goal (.chain .additive)
  /-- A chain is open: the hole is its next operand. Each operand it has already is followed by an
  operator; the latest comes first. -/
  | operand (p : Precedence) (links : List (Tree p.operand × Operator p))
      (below : Stack goal (.chain p)) : Stack goal p.operand

namespace Stack

variable {goal : Level}

/-- Opens the chain that begins in the hole, and all chains that begin with it, down to a term. -/
def descend : {hole : Level} → Stack goal hole → Stack goal .term
  | .term, stack => stack
  | .chain .exponentiation, stack => .operand .exponentiation [] stack
  | .chain .multiplicative, stack =>
    .operand .exponentiation [] (.operand .multiplicative [] stack)
  | .chain .additive, stack =>
    .operand .exponentiation [] (.operand .multiplicative [] (.operand .additive [] stack))

/-- What the innermost production asks for, if it is a chain: its first operand, or the one after
its latest operator. -/
def awaited : {hole : Level} → Stack goal hole → Option Expectation
  | _, operand _ [] _ => some .expression
  | _, operand _ ((_, op) :: _) _ => some (.operandAfter op.lexeme)
  | _, group .. | _, done => none

/-- Closes the open productions around what may fill the hole. -/
def unwind : {hole : Level} → Stack goal hole → Option (Tree hole) → Option (Tree goal)
  | _, done, filling => filling
  | _, group _ below, filling => below.unwind (filling.map fun inner => .group inner none)
  | _, operand _ links below, some last => below.unwind (some (.ofReversed links last))
  | _, operand _ ((last, _) :: links) below, none =>
    -- the latest operator has no right operand
    below.unwind (some (.ofReversed links last))
  | _, operand _ [] below, none => below.unwind none

end Stack

namespace Parser

/-! ### Numbers and operators -/

/-- The number that is written as `text`, from a first to a last token. -/
def numberOf (text : String) (first last : Token) : Except Fault Number :=
  match Number.ofText text (some ⟨first.location, last.location⟩) with
  | .ok number => .ok number
  | .error reason => .error (.numberConversion text reason (some first.location))

/-- Reads the digits behind the point of a number whose digits before it are `integral`. -/
def parseFraction (integral : Token) (parser : Parser) : Except Fault Number × Parser :=
  let (token, parser) := parser.peek
  if token.kind = .digits then
    let (fractional, parser) := parser.scanIgnoringSpace
    (numberOf (integral.lexeme ++ "." ++ fractional.lexeme) integral fractional, parser)
  else
    (.error (.unexpected .fractionalDigits token), parser)

/-- Reads a number: digits, and if a point follows, digits behind it. -/
def parseNumber (parser : Parser) : Except Fault Number × Parser :=
  let (token, parser) := parser.peek
  if token.kind = .eof then
    (.error (.unexpected .digits token), parser)
  else if token.kind = .digits then
    let (integral, parser) := parser.scanIgnoringSpace
    let (point, parser) := parser.peek
    if point.kind = .dot then
      parseFraction integral parser.scanIgnoringSpace.2
    else
      (numberOf integral.lexeme integral integral, parser)
  else
    (.error (.unexpected .number token), parser)

/-- Reads an operator of a class. An operator of another class is a fault and stays ahead. -/
def parseOperator (p : Precedence) (parser : Parser) : Except Fault (Operator p) × Parser :=
  let (token, parser) := parser.peek
  match Operator.ofToken? p token with
  | some op => (.ok op, parser.scanIgnoringSpace.2)
  | none => (.error (.unexpected (.operator p) token), parser)

/-! ### The measure -/

/-- Reading the digits behind a point does not raise the measure. -/
theorem remaining_parseFraction_le (integral : Token) (parser : Parser) :
    (parser.parseFraction integral).2.remaining ≤ parser.remaining := by
  unfold parseFraction
  dsimp only
  split
  · exact Nat.le_trans (remaining_scanIgnoringSpace_le _) (remaining_peek_le _)
  · exact remaining_peek_le _

theorem remaining_parseNumber_lt {parser : Parser} {number : Number}
    (h : parser.parseNumber.1 = .ok number) :
    parser.parseNumber.2.remaining < parser.remaining := by
  unfold parseNumber at h ⊢
  dsimp only at h ⊢
  split
  · simp_all
  · split
    · rename_i hd
      -- the digits are taken, and whatever is read behind them takes more
      have htake := parser.remaining_take_lt (by simp [hd]) (by simp [hd])
      split
      · exact Nat.lt_of_le_of_lt (remaining_parseFraction_le _ _)
          (Nat.lt_of_le_of_lt (remaining_scanIgnoringSpace_le _)
            (Nat.lt_of_le_of_lt (remaining_peek_le _) htake))
      · exact Nat.lt_of_le_of_lt (remaining_peek_le _) htake
    · simp_all

end Parser

/-! ### Rounds -/

/-- What a round comes to. -/
inductive Pass (goal : Level) where
  | finished (tree : Tree goal)
  /-- The input is refused for a fault, while the productions of `stack` are open and `filling` is
  what there is of the tree in their hole. -/
  | stuck {hole : Level} (stack : Stack goal hole) (fault : Fault) (filling : Option (Tree hole))
  /-- A further operand is asked for. -/
  | next {hole : Level} (stack : Stack goal hole)

namespace Stack

variable {goal : Level}

/-- Fills the hole and closes every production that this completes. A chain is complete if no
operator of its class follows, a group if its closing parenthesis follows. -/
def reduce : {hole : Level} → Stack goal hole → Tree hole → Parser → Pass goal × Parser
  | _, done, tree, parser => (.finished tree, parser)
  | _, group opening below, inner, parser =>
    let (token, parser) := parser.peek
    if token.kind = .rightParen then
      let (closing, parser) := parser.scanIgnoringSpace
      below.reduce (.group inner (some ⟨opening.location, closing.location⟩)) parser
    else
      -- the group is not open any more: it fills the hole of what is below, without a span
      (.stuck below (.missingRightParen (some opening.location) token) (some (.group inner none)),
        parser)
  | _, operand p links below, tree, parser =>
    let (token, parser) := parser.peek
    match Operator.ofToken? p token with
    | some op => (.next (.operand p ((tree, op) :: links) below), parser.scanIgnoringSpace.2)
    | none =>
      -- whatever follows is left to the productions below
      below.reduce (.ofReversed links tree) parser

/-- Reads the beginning of a term into the hole: a parenthesis, which opens a group with a chain in
it, or a number, which is a whole term. -/
def readTerm (stack : Stack goal .term) (parser : Parser) : Pass goal × Parser :=
  let (token, parser) := parser.peek
  if token.kind = .leftParen then
    let (opening, parser) := parser.scanIgnoringSpace
    (.next (.operand .additive [] (.group opening stack)), parser)
  else if token.kind = .digits then
    match parser.parseNumber with
    | (.ok number, parser) => stack.reduce (.number number number.span) parser
    | (.error fault, parser) => (.stuck stack fault none, parser)
  else
    (.stuck stack (.unexpected .numberOrGroup token) none, parser)

/-- One round. A chain refuses the end of the input in its own words, before it is known that what
should begin here is a term. -/
def pass {hole : Level} (stack : Stack goal hole) (parser : Parser) : Pass goal × Parser :=
  match stack.awaited with
  | none => stack.descend.readTerm parser
  | some expected =>
    let (token, parser) := parser.peek
    if token.kind = .eof then (.stuck stack (.unexpected expected token) none, parser)
    -- the term looks at the next token for itself
    else stack.descend.readTerm parser

/-! ### Rounds end -/

theorem remaining_reduce_le {hole : Level} (stack : Stack goal hole) (tree : Tree hole)
    (parser : Parser) : (stack.reduce tree parser).2.remaining ≤ parser.remaining := by
  -- each production looks at a token and may take it, and leaves the rest to those below
  induction stack generalizing parser with
  | done => exact Nat.le_refl _
  | group opening below ih =>
    unfold reduce
    dsimp only
    split
    · exact Nat.le_trans (ih _ _)
        (Nat.le_trans (Parser.remaining_scanIgnoringSpace_le _) (Parser.remaining_peek_le _))
    · exact Parser.remaining_peek_le _
  | operand p links below ih =>
    unfold reduce
    dsimp only
    split
    · exact Nat.le_trans (Parser.remaining_scanIgnoringSpace_le _) (Parser.remaining_peek_le _)
    · exact Nat.le_trans (ih _ _) (Parser.remaining_peek_le _)

theorem remaining_readTerm_lt {hole : Level} {stack : Stack goal .term} {parser after : Parser}
    {next : Stack goal hole} (h : stack.readTerm parser = (.next next, after)) :
    after.remaining < parser.remaining := by
  have hpeek := parser.remaining_peek_le
  unfold readTerm at h
  dsimp only at h
  split at h
  · rename_i hk
    -- the parenthesis has been taken
    obtain rfl := (Prod.mk.inj h).2
    exact parser.remaining_take_lt (by simp [hk]) (by simp [hk])
  · split at h
    · split at h
      · rename_i number parser' hn
        have hlt := Parser.remaining_parseNumber_lt (congrArg Prod.fst hn)
        -- closing productions may take more, but nothing is given back
        have hle := stack.remaining_reduce_le (.number number number.span) parser'
        rw [congrArg Prod.snd hn] at hlt
        rw [congrArg Prod.snd h] at hle
        simp only at hlt hle
        omega
      · simp at h
    · simp at h

theorem remaining_pass_lt {hole hole' : Level} {stack : Stack goal hole} {parser after : Parser}
    {next : Stack goal hole'} (h : stack.pass parser = (.next next, after)) :
    after.remaining < parser.remaining := by
  unfold pass at h
  split at h
  · exact remaining_readTerm_lt h
  · dsimp only at h
    split at h
    · simp at h
    · -- to look at the next token takes nothing
      exact Nat.lt_of_lt_of_le (remaining_readTerm_lt h) parser.remaining_peek_le

/-- Goes on with rounds until the tree is complete or the input is refused. A refusal comes with
what can be had of the tree. -/
def run {hole : Level} (stack : Stack goal hole) (parser : Parser) :
    Except (ParseError (Tree goal)) (Tree goal) × Parser :=
  match _ : stack.pass parser with
  | (.finished tree, after) => (.ok tree, after)
  | (.stuck stack fault filling, after) => (.error ⟨fault, stack.unwind filling⟩, after)
  | (.next stack, after) => stack.run after
termination_by parser.remaining
decreasing_by exact remaining_pass_lt ‹_›

/-- What a run makes of the outcome of its first round. -/
def carryOn : Pass goal × Parser → Except (ParseError (Tree goal)) (Tree goal) × Parser
  | (.finished tree, after) => (.ok tree, after)
  | (.stuck stack fault filling, after) => (.error ⟨fault, stack.unwind filling⟩, after)
  | (.next stack, after) => stack.run after

theorem run_eq_carryOn {hole : Level} (stack : Stack goal hole) (parser : Parser) :
    stack.run parser = carryOn (stack.pass parser) := by
  rw [run]
  split <;> next heq => rw [heq]; rfl

end Stack

/-! ### Trees -/

namespace Parser

/-- Reads a tree of a level and stops at the first token that cannot belong to it. -/
def parseTree (level : Level) (parser : Parser) :
    Except (ParseError (Tree level)) (Tree level) × Parser :=
  match level with
  | .term => Stack.done.run parser
  -- a chain is open from the beginning, so that it can say what it misses
  | .chain p => (Stack.operand p [] .done).run parser

/-- Reads an expression that takes up the whole input. -/
def parse (parser : Parser) : Except (ParseError Expression) Expression × Parser :=
  match parser.parseTree (.chain .additive) with
  | (.error error, parser) => (.error error, parser)
  | (.ok expression, parser) =>
    let (token, parser) := parser.peek
    if token.kind = .eof then (.ok expression, parser)
    else (.error ⟨.unexpected .operatorOrEnd token, some expression⟩, parser)

end Parser

end ArithExpr
