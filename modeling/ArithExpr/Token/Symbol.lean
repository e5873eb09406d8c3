/-!
# Operator symbols and their precedence

* `Precedence` — the three classes of operators, the loosest first.
* `OperatorSymbol` — the seven operators.
* `OperatorSymbol.precedence` — the class of each. The grammar looks at nothing else of a symbol.
* `OperatorSymbol.char` — the one character that writes a symbol; `ofChar?` reads it back.
-/

namespace ArithExpr

/-- A class of operators that bind equally. -/
inductive Precedence where
  /-- Sums and differences, which bind loosest. -/
  | additive
  | multiplicative
  /-- Powers, which bind tightest. -/
  | exponentiation
deriving DecidableEq

/-- The name of a class of operators. -/
def Precedence.name : Precedence → String
  | .additive => "ADDITIVE"
  | .multiplicative => "MULTIPLICATIVE"
  | .exponentiation => "EXPONENTIATION"

/-- An operator of the expression language. -/
inductive OperatorSymbol where
  | plus
  | minus
  | multiply
  | divide
  | intDivide
  | modulo
  | pow
deriving DecidableEq

namespace OperatorSymbol

/-- The class of an operator. -/
def precedence : OperatorSymbol → Precedence
  | plus | minus => .additive
  | multiply | divide | intDivide | modulo => .multiplicative
  | pow => .exponentiation

/-- The character that writes an operator. -/
def char : OperatorSymbol → Char
  | plus => '+'
  | minus => '-'
  | multiply => '*'
  | divide => '/'
  | intDivide => '\\'
  | modulo => '%'
  | pow => '^'

/-- The name of an operator, which is that of its kind of token. -/
def name : OperatorSymbol → String
  | plus => "PLUS"
  | minus => "MINUS"
  | multiply => "MULTIPLY"
  | divide => "DIVIDE"
  | intDivide => "INT_DIVIDE"
  | modulo => "MODULO"
  | pow => "POW"

/-- The number of a symbol in the list of all kinds of tokens. -/
def number : OperatorSymbol → Nat
  | plus => 4
  | minus => 5
  | multiply => 6
  | divide => 7
  | intDivide => 8
  | modulo => 9
  | pow => 10

/-- All symbols, in the order of their numbers. -/
def all : List OperatorSymbol :=
  [plus, minus, multiply, divide, intDivide, modulo, pow]

/-- The operator that a character writes, if it writes one. -/
def ofChar? (c : Char) : Option OperatorSymbol :=
  all.find? fun s => s.char = c

theorem mem_all (s : OperatorSymbol) : s ∈ all := by
  cases s <;> decide

@[simp] theorem ofChar?_char (s : OperatorSymbol) : ofChar? s.char = some s := by
  cases s <;> decide

/-- Only its own character writes a symbol. -/
theorem char_of_ofChar? {c : Char} {s : OperatorSymbol} (h : ofChar? c = some s) : s.char = c := by
  simpa using List.find?_some h

end OperatorSymbol

end ArithExpr
