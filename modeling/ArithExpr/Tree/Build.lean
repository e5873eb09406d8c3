import ArithExpr.Fault
import ArithExpr.Tree.Node

/-!
# Building trees from parts that may be absent

The parts of a node may be put together by hand. Each function here checks what the types of
`Tree` leave no room for: that the parts make a node at all.

* `BuildError` — why parts do not make a node; `FoldError` — why they do not make a chain.
* `Tree.chainOf`, `Tree.termOf`, `Operator.ofKind`, `Operator.ofToken`, `Number.ofLiteral`,
  `Number.ofStated` — the checked constructions.
* `Tree.foldOf` — the chain of operands and operators any of which may be absent.
-/

namespace ArithExpr

/-- The value that somebody says a literal has. -/
inductive StatedValue where
  | fraction (q : Rat)
  | whole (n : Int)
deriving DecidableEq

namespace StatedValue

/-- The quotient of two integers as a stated value; there is none if the second is zero. -/
def ofQuotient? (n d : Int) : Option StatedValue :=
  if d = 0 then none else some (fraction (Rat.divInt n d))

/-- The stated value as a rational number. -/
def toRat : StatedValue → Rat
  | fraction q => q
  | whole n => n

/-- The construction of a stated value. A whole number is not written as a fraction. -/
def construction : StatedValue → String
  | fraction q => rationalConstruction q
  | whole n => toString n

end StatedValue

/-- Why parts do not make a node. -/
inductive BuildError where
  /-- A chain has no first operand. -/
  | missingOperand (precedence : Precedence)
  /-- A chain has an operator and no rest, or a rest and no operator. -/
  | unpaired (precedence : Precedence)
  /-- A term is to be a number and a group, or neither. -/
  | notOneTerm
  /-- An operator is of another kind than its class admits; no class at all admits none. -/
  | wrongKind (holder : Option Precedence) (kind : TokenKind)
  /-- A literal does not denote the value that was stated. -/
  | valueMismatch (text : String) (stated : StatedValue)
  | literal (fault : Fault)
deriving DecidableEq

namespace BuildError

/-- The class that was to hold an operator, by its name. -/
def holderName : Option Precedence → String
  | some p => NodeClass.operatorName p
  | none => "Operator"

/-- What is wrong with the parts, in a phrase. -/
def message : BuildError → String
  | missingOperand p => (Level.chain p).name ++ " requires a " ++ p.operand.partName
  | unpaired p =>
    (Level.chain p).name ++ " needs both op and " ++ (Level.chain p).partName ++ ", or neither"
  | notOneTerm => "Term holds exactly one of expression or number"
  | wrongKind holder kind => holderName holder ++ " cannot hold " ++ kind.name
  | valueMismatch text stated =>
    "Number text " ++ quoted text ++ " does not denote " ++ stated.construction
  | literal fault => fault.message

end BuildError

/-! ### Chains of two parts -/

/-- The chain of an operand and what follows it: an operator and the rest, or nothing. -/
def Tree.chainOf (p : Precedence) (operand : Option (Tree p.operand)) (op : Option (Operator p))
    (rest : Option (Tree (.chain p))) (span : Option Span) :
    Except BuildError (Tree (.chain p)) :=
  match operand, op, rest with
  | none, _, _ => .error (.missingOperand p)
  | some operand, none, none => .ok (.single operand span)
  | some operand, some op, some rest => .ok (.link operand op rest span)
  | some _, some _, none | some _, none, some _ => .error (.unpaired p)

/-! ### Chains of many parts -/

/-- Why operands and operators do not make a chain. -/
inductive FoldError where
  | noOperand
  | absentOperand
  /-- An operand and what follows it do not make a chain. -/
  | link (error : BuildError)
deriving DecidableEq

/-- Puts an operand and an operator in front of a chain. It is noticed first if the operand is
absent. -/
def Tree.consOf {p : Precedence} (rest : Tree (.chain p)) :
    Option (Tree p.operand) × Option (Operator p) → Except FoldError (Tree (.chain p))
  | (none, _) => .error .absentOperand
  | (some operand, op) =>
    (chainOf p operand op rest (Span.join? operand.span rest.span)).mapError .link

/-- The chain of operands and the operators between them, of which any may be absent. They are
paired off from their ends, and what has no partner is left out, as in `Tree.foldRight`. -/
def Tree.foldOf {p : Precedence} (operands : List (Option (Tree p.operand)))
    (operators : List (Option (Operator p))) : Except FoldError (Tree (.chain p)) :=
  match operands.reverse with
  | [] => .error .noOperand
  -- the last operand is the first one that is looked at
  | none :: _ => .error .absentOperand
  | some last :: before => (before.zip operators.reverse).foldlM consOf (ofOperand last)

/-- Links all of whose parts are present are put in front of a chain one after the other. -/
theorem Tree.foldlM_consOf_some {p : Precedence} (links : List (Tree p.operand × Operator p))
    (rest : Tree (.chain p)) :
    (links.map fun (operand, op) => (some operand, some op)).foldlM consOf rest =
      .ok (links.foldl (fun rest (operand, op) => cons operand op rest) rest) := by
  -- each link is put in front of what the links before it have made
  induction links generalizing rest with
  | nil => rfl
  | cons link links ih =>
    obtain ⟨operand, op⟩ := link
    exact ih (cons operand op rest)

/-- Operands and operators all of which are present make the chain that `Tree.foldRight` makes of
them. -/
theorem Tree.foldOf_some {p : Precedence} (operands : List (Tree p.operand))
    (last : Tree p.operand) (operators : List (Operator p)) :
    foldOf ((operands ++ [last]).map some) (operators.map some) =
      .ok (foldRight operands last operators) := by
  simp only [foldOf, ← List.map_reverse, List.reverse_append, List.reverse_singleton,
    List.singleton_append, List.map_cons, List.zip_map]
  exact foldlM_consOf_some _ _

/-! ### Terms, operators and numbers -/

/-- The term that is either an expression in parentheses or a number. -/
def Tree.termOf (inner : Option Expression) (number : Option Number) (span : Option Span) :
    Except BuildError Term :=
  match inner, number with
  | some inner, none => .ok (.group inner span)
  | none, some number => .ok (.number number span)
  | none, none | some _, some _ => .error .notOneTerm

/-- The operator of a class and a kind of token. The class of all operators is no class. -/
def Operator.ofKind (p : Precedence) (kind : TokenKind) (lexeme : String) (span : Option Span) :
    Except BuildError (Operator p) :=
  match kind.symbol?.bind fun symbol => ofSymbol? p symbol lexeme span with
  | some op => .ok op
  | none => .error (.wrongKind (some p) kind)

/-- The operator of a class that a token is, at the place of the token. -/
def Operator.ofToken (p : Precedence) (token : Token) : Except BuildError (Operator p) :=
  ofKind p token.kind token.lexeme (some (.point token.location))

/-- The number of a literal, with the value that it denotes. -/
def Number.ofLiteral (text : String) (span : Option Span) : Except BuildError Number :=
  match ofText text span with
  | .ok number => .ok number
  | .error reason => .error (.literal (.numberConversion text reason none))

/-- The number of a literal whose value is stated; the two have to agree. -/
def Number.ofStated (text : String) (stated : StatedValue) (span : Option Span) :
    Except BuildError Number :=
  match ofLiteral text span with
  | .error error => .error error
  | .ok number =>
    -- the value may be stated in several ways, so only its worth is compared
    if number.value = stated.toRat then .ok number else .error (.valueMismatch text stated)

end ArithExpr
