import ArithExpr.Tree.Node

/-!
# Writing a tree as source

A tree is written without white space; numbers and operators are written as they were read.

* `Tree.source` — the text of a tree by recursion on the tree.
* `Node.toSource` — the text of a node by a list of pieces still to be written, which takes no more
  stack for a deep tree than for a flat one. `Node.pieces` is what one step puts in place of a node.
* `Node.weight` — what such a step lowers.
-/

namespace ArithExpr

/-- The text of a tree: the texts of its parts in order, with parentheses around a group. -/
def Tree.source : {l : Level} → Tree l → String
  | _, .number a _ => a.text
  | _, .group inner _ => "(" ++ inner.source ++ ")"
  | _, .single operand _ => operand.source
  | _, .link operand op rest _ => operand.source ++ op.lexeme ++ rest.source

/-- The text of a node. -/
def Node.source : Node → String
  | .tree t => t.source
  | .number a => a.text
  | .operator op => op.lexeme

/-- A piece of what is still to be written. -/
inductive Piece where
  | text (text : String)
  | node (node : Node)

/-! ### Pieces and their weights -/

/-- The pieces of a tree. A chain gives those of all its operands and operators at once. -/
def Tree.pieces : {l : Level} → Tree l → List Piece
  | _, .number a _ => [.node (.number a)]
  | _, .group inner _ => [.text "(", .node (.tree inner), .text ")"]
  | _, .single operand _ => [.node (.tree operand)]
  | _, .link operand op rest _ =>
    -- the rest of the chain is not a piece of its own
    .node (.tree operand) :: .node (.operator op) :: rest.pieces

/-- The pieces that take the place of a node. -/
def Node.pieces : Node → List Piece
  | .tree t => t.pieces
  | .number a => [.text a.text]
  | .operator op => [.text op.lexeme]

/-- A bound on the steps that writing a tree takes. -/
def Tree.weight : {l : Level} → Tree l → Nat
  | _, .number _ _ => 3
  | _, .group inner _ => inner.weight + 3
  | _, .single operand _ => operand.weight + 1
  | _, .link operand _ rest _ => operand.weight + rest.weight + 2

/-- A bound on the steps that writing a node takes. -/
def Node.weight : Node → Nat
  | .tree t => t.weight
  | .number _ | .operator _ => 2

/-- A bound on the steps that writing a piece takes. -/
def Piece.weight : Piece → Nat
  | text _ => 1
  | node n => n.weight

/-- A bound on the steps that writing several pieces takes. -/
def Piece.totalWeight : List Piece → Nat
  | [] => 0
  | piece :: pieces => piece.weight + totalWeight pieces

/-- The bound for two lists of pieces is the sum of their bounds. -/
theorem Piece.totalWeight_append (ps qs : List Piece) :
    Piece.totalWeight (ps ++ qs) = Piece.totalWeight ps + Piece.totalWeight qs := by
  induction ps with
  | nil => simp [totalWeight]
  | cons p ps ih => simp [totalWeight, ih, Nat.add_assoc]

/-- The pieces of a tree weigh less than the tree. -/
theorem Tree.totalWeight_pieces_lt {l : Level} (t : Tree l) :
    Piece.totalWeight t.pieces < t.weight := by
  induction t with
  | number => simp [pieces, weight, Piece.totalWeight, Piece.weight, Node.weight]
  | group => simp [pieces, weight, Piece.totalWeight, Piece.weight, Node.weight]; omega
  | single => simp [pieces, weight, Piece.totalWeight, Piece.weight, Node.weight]
  | link _ _ _ _ _ ih =>
    simp only [pieces, weight, Piece.totalWeight, Piece.weight, Node.weight]
    omega

theorem Node.totalWeight_pieces_lt (n : Node) : Piece.totalWeight n.pieces < n.weight := by
  cases n with
  | tree t => exact t.totalWeight_pieces_lt
  | number => simp [pieces, weight, Piece.totalWeight, Piece.weight]
  | operator => simp [pieces, weight, Piece.totalWeight, Piece.weight]

/-! ### Writing -/

/-- Writes pieces behind what is written already: text as it is, a node by its own pieces. -/
def Piece.render (written : String) (pieces : List Piece) : String :=
  match pieces with
  | [] => written
  | .text s :: pieces => render (written ++ s) pieces
  | .node n :: pieces => render written (n.pieces ++ pieces)
termination_by totalWeight pieces
decreasing_by
  · simp [totalWeight, weight]
  · have := n.totalWeight_pieces_lt
    simp only [totalWeight, weight, totalWeight_append]
    omega

/-- The text of a node, without white space. -/
def Node.toSource (n : Node) : String :=
  Piece.render "" [.node n]

/-- The text of a tree, without white space. -/
def Tree.toSource {l : Level} (t : Tree l) : String :=
  (Node.tree t).toSource

end ArithExpr
