import ArithExpr.Decimal.Basic
import ArithExpr.Token.Basic

/-!
# Expression trees

An expression is a chain of factors with additive operators between them, a factor a chain of powers
with multiplicative operators, a power a chain of terms with `^`. A term is a number or an
expression in parentheses. One family of types, indexed by the level, holds them all, so that no
tree of a wrong level can stand anywhere.

* `Level` — the four levels; `Precedence.operand` — the level of the operands of a chain.
* `Number` — a literal with its exact value; that the text denotes the value is part of the type.
* `Operator` — an operator of a class; that the symbol belongs to the class is part of the type.
* `Tree` — a tree of a level. A chain nests to the right: an operand, and then either nothing or an
  operator and the rest of the chain.
* `Tree.same` — equality of trees, whatever their levels, that looks through the spans.
-/

namespace ArithExpr

/-! ### Levels -/

/-- A level of the grammar. -/
inductive Level where
  /-- A number or a group. -/
  | term
  /-- Operands with operators of one class between them. -/
  | chain (precedence : Precedence)
deriving DecidableEq

/-- The level of the operands between operators of a class. -/
@[reducible] def Precedence.operand : Precedence → Level
  | .additive => .chain .multiplicative
  | .multiplicative => .chain .exponentiation
  | .exponentiation => .term

namespace Level

/-- The number of levels beneath a level. -/
def height : Level → Nat
  | term => 0
  | chain .exponentiation => 1
  | chain .multiplicative => 2
  | chain .additive => 3

/-- The operands of a chain are one level beneath it. -/
theorem height_operand (p : Precedence) : (chain p).height = p.operand.height + 1 := by
  cases p <;> rfl

theorem height_injective : Function.Injective height := by
  rintro (_ | _ | _ | _) (_ | _ | _ | _) h <;> first | rfl | cases h

/-- From the operands of a chain to the chain, every level is reached. -/
theorem operand_induction {motive : Level → Prop} (term : motive .term)
    (chain : ∀ p : Precedence, motive p.operand → motive (.chain p)) : (l : Level) → motive l
  | .term => term
  | .chain p => chain p (operand_induction term chain p.operand)
termination_by l => l.height
decreasing_by
  rw [height_operand]
  exact Nat.lt_succ_self _

/-- The name of the class of nodes that holds the trees of a level. -/
def name : Level → String
  | term => "Term"
  | chain .exponentiation => "Power"
  | chain .multiplicative => "Factor"
  | chain .additive => "Expression"

/-- The name of a part that is of a level. -/
def partName : Level → String
  | term => "term"
  | chain .exponentiation => "power"
  | chain .multiplicative => "factor"
  | chain .additive => "expression"

end Level

/-! ### Numbers and operators -/

/-- A literal as it stands in a tree. -/
structure Number where
  /-- The literal as it is written. -/
  text : String
  value : Rat
  span : Option Span
  /-- The text is a literal and denotes the value. -/
  denotes : decimalValue text = .ok value

namespace Number

/-- Says whether two numbers are written alike; their values are then equal, too. -/
def same (a b : Number) : Bool :=
  a.text = b.text

/-- Reads a number from the text of a literal. -/
def ofText (text : String) (span : Option Span) : Except ConversionFault Number :=
  match h : decimalValue text with
  | .ok value => .ok ⟨text, value, span, h⟩
  | .error reason => .error reason

end Number

/-- An operator of a class, as it stands in a tree. -/
structure Operator (p : Precedence) where
  symbol : OperatorSymbol
  /-- The characters of the operator, which a tree built by hand may choose freely. -/
  lexeme : String
  span : Option Span
  belongs : symbol.precedence = p

namespace Operator

/-- Says whether two operators have the same symbol and are written alike. -/
def same {p q : Precedence} (a : Operator p) (b : Operator q) : Bool :=
  a.symbol = b.symbol && a.lexeme = b.lexeme

/-- The operator of a symbol of the class; if it is given no characters it is written as usual. -/
def ofSymbol? (p : Precedence) (symbol : OperatorSymbol) (lexeme : String)
    (span : Option Span) : Option (Operator p) :=
  if h : symbol.precedence = p then
    some ⟨symbol, if lexeme = "" then String.singleton symbol.char else lexeme, span, h⟩
  else none

/-- The operator that a token is, if it is one of the class. -/
def ofToken? (p : Precedence) (token : Token) : Option (Operator p) :=
  match token.kind.symbol? with
  | some symbol => ofSymbol? p symbol token.lexeme (some (.point token.location))
  | none => none

end Operator

/-! ### Trees -/

/-- A tree of a level. Each of its nodes may have a span. -/
inductive Tree : Level → Type where
  | number (number : Number) (span : Option Span) : Tree .term
  | group (inner : Tree (.chain .additive)) (span : Option Span) : Tree .term
  | single {p : Precedence} (operand : Tree p.operand) (span : Option Span) : Tree (.chain p)
  /-- An operand, an operator and the rest of the chain. -/
  | link {p : Precedence} (operand : Tree p.operand) (op : Operator p) (rest : Tree (.chain p))
      (span : Option Span) : Tree (.chain p)

/-- A sum of factors, the level of a whole input. -/
abbrev Expression := Tree (.chain .additive)

/-- A product of powers, the operand of a sum. -/
abbrev Factor := Tree (.chain .multiplicative)

/-- Terms with powers between them, the operand of a product. -/
abbrev Power := Tree (.chain .exponentiation)

/-- A number or a group. -/
abbrev Term := Tree .term

namespace Tree

/-- The span of a tree, if it was read. -/
def span : {l : Level} → Tree l → Option Span
  | _, number _ span => span
  | _, group _ span => span
  | _, single _ span => span
  | _, link _ _ _ span => span

/-- Says whether two trees agree in everything but their spans. Trees of different levels do not. -/
def same : {l m : Level} → Tree l → Tree m → Bool
  | _, _, number a _, number b _ => a.same b
  | _, _, group a _, group b _ => a.same b
  | _, _, single (p := p) a _, single (p := q) b _ => p = q && a.same b
  | _, _, link (p := p) a op r _, link (p := q) b op' r' _ =>
    p = q && a.same b && op.same op' && r.same r'
  | _, _, _, _ => false

/-- Says whether a term is an expression in parentheses. -/
def isGroup : {l : Level} → Tree l → Bool
  | _, group .. => true
  | _, number .. | _, single .. | _, link .. => false

theorem same_refl {l : Level} (t : Tree l) : t.same t = true := by
  induction t with
  | number a => simp [same, Number.same]
  | group _ _ ih => simp [same, ih]
  | single _ _ ih => simp [same, ih]
  | link _ _ _ _ ih ih' => simp [same, Operator.same, ih, ih']

end Tree

end ArithExpr
