import ArithExpr.Tree.Basic

/-!
# Chains

A chain nests to the right but is read from left to right. This module goes from one to the other.

* `Tree.first`, `Tree.links` — the first operand, and the further ones with their operators.
* `Tree.chain` — all operands in order, each with the operator in front of it.
* `Tree.foldRight` — the chain of given operands and operators. If their numbers do not match, the
  last operand is the innermost and the lists are paired off from their ends.
* `Tree.lift?` — a tree as a chain of a single operand, or of one within another, at a level above.
-/

namespace ArithExpr

namespace Tree

/-! ### Reading a chain -/

/-- The first operand of a chain. -/
def first {p : Precedence} : Tree (.chain p) → Tree p.operand
  | single operand _ => operand
  | link operand _ _ _ => operand

/-- The operands of a chain behind the first, in order, with the operators in front of them. -/
def links {p : Precedence} : Tree (.chain p) → List (Operator p × Tree p.operand)
  | single _ _ => []
  | link _ op rest _ => (op, rest.first) :: rest.links

/-- All operands of a chain in order. The first one has no operator in front of it. -/
def chain {p : Precedence} (t : Tree (.chain p)) : List (Option (Operator p) × Tree p.operand) :=
  (none, t.first) :: t.links.map fun (op, operand) => (some op, operand)

/-- The operands of a chain, from left to right. -/
def operands {p : Precedence} (t : Tree (.chain p)) : List (Tree p.operand) :=
  t.first :: t.links.map Prod.snd

/-- The operators between them, one fewer than the operands. -/
def operators {p : Precedence} (t : Tree (.chain p)) : List (Operator p) :=
  t.links.map Prod.fst

/-! ### Building a chain -/

/-- A chain of one operand, with its span. -/
def ofOperand {p : Precedence} (operand : Tree p.operand) : Tree (.chain p) :=
  single operand operand.span

/-- The chain of an operand, an operator and the rest, which spans from the operand to the end of
the rest if both have spans. -/
def cons {p : Precedence} (operand : Tree p.operand) (op : Operator p) (rest : Tree (.chain p)) :
    Tree (.chain p) :=
  link operand op rest (Span.join? operand.span rest.span)

/-- The chain that ends in `last`, with the operands in front of it given from the last to the
first, each with the operator behind it. -/
def ofReversed {p : Precedence} (links : List (Tree p.operand × Operator p))
    (last : Tree p.operand) : Tree (.chain p) :=
  links.foldl (fun rest (operand, op) => cons operand op rest) (ofOperand last)

/-- The chain of operands and the operators between them. Operands and operators are paired off
from their ends, and what has no partner is left out. -/
def foldRight {p : Precedence} (operands : List (Tree p.operand)) (last : Tree p.operand)
    (operators : List (Operator p)) : Tree (.chain p) :=
  ofReversed (operands.reverse.zip operators.reverse) last

/-! ### Going up -/

/-- The tree as a tree of the level `target`: at its own level it stays as it is, at a level above
it becomes the single operand of a chain, and it cannot be had at a level beneath. -/
def lift? {l : Level} (t : Tree l) (target : Level) : Option (Tree target) :=
  if h : l = target then some (h ▸ t)
  else
    -- below the target, the tree is first taken up to the operands of the target
    match target with
    | .term => none
    | .chain p => (t.lift? p.operand).map ofOperand
termination_by target.height
decreasing_by
  rw [Level.height_operand]
  omega

theorem lift?_self (t : Tree l) : t.lift? l = some t := by
  rw [lift?, dif_pos rfl]

theorem lift?_term (t : Tree l) (hne : l ≠ .term) : t.lift? .term = none := by
  rw [lift?, dif_neg hne]

/-- A tree of another level is lifted to a chain by way of the operands of the chain. -/
theorem lift?_chain {p : Precedence} (t : Tree l) (hne : l ≠ .chain p) :
    t.lift? (.chain p) = (t.lift? p.operand).map ofOperand := by
  rw [lift?, dif_neg hne]

end Tree

end ArithExpr
