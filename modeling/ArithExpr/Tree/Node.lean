import ArithExpr.Tree.Chain

/-!
# Nodes

A node is anything that has a place in a tree: a tree of some level, a number or an operator.

A tree may be of any depth. What is computed on it by recursion is computed for every tree, however
deep: there is no limit on how many calls may be open at once.

* `NodeClass` — the eight classes of nodes.
* `Node.children` — the nodes directly beneath a node, from left to right.
* `Node.outline` — a node and all nodes beneath it in pre-order, each with its depth.
* `Node.outline_eq` — an outline is made of those of the children.
* `Node.children_induction`, `Node.count_lt_count` — a node is known by its children, and there are
  fewer nodes beneath each of these than beneath the node.
* `Node.construction` — a node as the construction that makes it: the name of its class and its
  parts by name. What is absent is `None`, and spans are left out.
-/

namespace ArithExpr

/-- The class of a node. -/
inductive NodeClass where
  | tree (level : Level)
  | number
  | operator (precedence : Precedence)
deriving DecidableEq

namespace NodeClass

/-- The name of the class of operators of a precedence. -/
def operatorName : Precedence → String
  | .additive => "AddOp"
  | .multiplicative => "MultiplyOp"
  | .exponentiation => "ExponentOp"

/-- The name of a class. -/
def name : NodeClass → String
  | tree level => level.name
  | number => "Number"
  | operator precedence => operatorName precedence

/-- All classes. -/
def all : List NodeClass :=
  [tree (.chain .additive), tree (.chain .multiplicative), tree (.chain .exponentiation),
    tree .term, number, operator .additive, operator .multiplicative, operator .exponentiation]

/-- The class that has a name, if one does. -/
def named? (text : String) : Option NodeClass :=
  all.find? fun cls => cls.name = text

end NodeClass

/-- Anything that has a place in a tree. -/
inductive Node where
  | tree {level : Level} (tree : Tree level)
  | number (number : Number)
  | operator {precedence : Precedence} (op : Operator precedence)

namespace Node

/-- The class of a node. -/
def cls : Node → NodeClass
  | @tree level _ => .tree level
  | number _ => .number
  | @operator precedence _ => .operator precedence

/-- The span of a node, if it was read. -/
def span : Node → Option Span
  | tree t => t.span
  | number a => a.span
  | operator op => op.span

/-- Says whether two nodes are of one class and agree in everything but their spans. -/
def same : Node → Node → Bool
  | tree t, tree u => t.same u
  | number a, number b => a.same b
  | @operator p a, @operator q b => p = q && a.same b
  | _, _ => false

/-- The nodes directly beneath a tree, from left to right. -/
def childrenOfTree {l : Level} : Tree l → List Node
  | .number a _ => [number a]
  | .group inner _ => [tree inner]
  | .single operand _ => [tree operand]
  | .link operand op rest _ => [tree operand, operator op, tree rest]

/-- The nodes directly beneath a node, from left to right. -/
def children : Node → List Node
  | tree t => childrenOfTree t
  | number _ | operator _ => []

/-- The node as a tree of a level above its own, or of its own. Numbers and operators are of no
level. -/
def lift? (node : Node) (target : Level) : Option (Tree target) :=
  match node with
  | tree t => t.lift? target
  | number _ | operator _ => none

/-- The node as a tree of exactly a level. -/
def asTree? (level : Level) : Node → Option (Tree level)
  | @tree l t => if h : l = level then some (h ▸ t) else none
  | number _ | operator _ => none

/-- The number that a node is, if it is one. -/
def asNumber? : Node → Option Number
  | number a => some a
  | tree _ | operator _ => none

/-- The operator of a class that a node is, if it is one. -/
def asOperator? (precedence : Precedence) : Node → Option (Operator precedence)
  | @operator p op => if h : p = precedence then some (h ▸ op) else none
  | tree _ | number _ => none

/-! ### Pre-order -/

/-- A tree at a depth and all nodes beneath it in pre-order, in front of `behind`. -/
def outlineOnto (behind : List (Nat × Node)) : {l : Level} → (depth : Nat) → Tree l →
    List (Nat × Node)
  | _, depth, t@(.number a _) => (depth, tree t) :: (depth + 1, number a) :: behind
  | _, depth, t@(.group inner _) => (depth, tree t) :: outlineOnto behind (depth + 1) inner
  | _, depth, t@(.single operand _) => (depth, tree t) :: outlineOnto behind (depth + 1) operand
  | _, depth, t@(.link operand op rest _) =>
    (depth, tree t) :: outlineOnto
      ((depth + 1, operator op) :: outlineOnto behind (depth + 1) rest) (depth + 1) operand

/-- A node and all nodes beneath it in pre-order, each with its depth; its own is zero. -/
def outline : Node → List (Nat × Node)
  | tree t => outlineOnto [] 0 t
  | node => [(0, node)]

/-- The number of a node and all nodes beneath it. -/
def count (node : Node) : Nat :=
  node.outline.length

/-- The greatest depth at which there is a node. -/
def depth (node : Node) : Nat :=
  node.outline.foldl (fun deepest entry => max deepest entry.1) 0

/-! ### The outline by children -/

/-- What an outline begins with and what is behind it do not depend on each other, and all depths
grow with the first. -/
theorem outlineOnto_eq {l : Level} (t : Tree l) (behind : List (Nat × Node)) (depth : Nat) :
    outlineOnto behind depth t =
      (outlineOnto [] 0 t).map (fun entry => (entry.1 + depth, entry.2)) ++ behind := by
  -- the depth is that of the parent and one more, so the induction is for any of them
  induction t generalizing behind depth with
  | number => simp [outlineOnto, Nat.add_comm]
  | group inner _ ih =>
    rw [outlineOnto, outlineOnto, ih, ih [] (0 + 1)]
    simp [Nat.add_comm, Nat.add_left_comm]
  | single operand _ ih =>
    rw [outlineOnto, outlineOnto, ih, ih [] (0 + 1)]
    simp [Nat.add_comm, Nat.add_left_comm]
  -- the operator and the rest are behind the operand, and `behind` is behind the rest
  | link operand op rest _ ih ih' =>
    rw [outlineOnto, outlineOnto, ih (_ :: outlineOnto behind (depth + 1) rest),
      ih' behind (depth + 1), ih (_ :: outlineOnto [] (0 + 1) rest) (0 + 1), ih' [] (0 + 1)]
    simp [Function.comp_def, Nat.add_comm, Nat.add_left_comm]

/-- **The outline of a node** is the node and the outlines of its children, one step deeper. -/
theorem outline_eq (n : Node) :
    n.outline = (0, n) :: n.children.flatMap fun child =>
      child.outline.map fun entry => (entry.1 + 1, entry.2) := by
  cases n with
  | number | operator => rfl
  | tree t =>
    cases t with
    | number => rfl
    | group inner | single inner =>
      rw [outline, outlineOnto, outlineOnto_eq]
      simp [children, childrenOfTree, outline]
    | link operand op rest =>
      rw [outline, outlineOnto, outlineOnto_eq, outlineOnto_eq rest]
      simp [children, childrenOfTree, outline]

/-- There are fewer nodes beneath a child than beneath the node. -/
theorem count_lt_count {n child : Node} (h : child ∈ n.children) : child.count < n.count := by
  -- the outline of the child is a part of that of the node, which is longer by the node itself
  have hsub : (child.outline.map fun entry => (entry.1 + 1, entry.2)).Sublist
      (n.children.flatMap fun child =>
        child.outline.map fun entry => (entry.1 + 1, entry.2)) := by
    apply List.sublist_flatten_of_mem
    exact List.mem_map.2 ⟨child, h, rfl⟩
  have hle := hsub.length_le
  rw [List.length_map] at hle
  rw [count, count, outline_eq n, List.length_cons]
  omega

/-- **A node is known by its children.** -/
theorem children_induction {motive : Node → Prop}
    (node : ∀ n : Node, (∀ child ∈ n.children, motive child) → motive n) (n : Node) : motive n :=
  node n fun child _ => children_induction node child
termination_by n.count
decreasing_by exact count_lt_count ‹_›

end Node

/-! ### The construction of a node as text -/

/-- The construction of a rational number in lowest terms. -/
def rationalConstruction (q : Rat) : String :=
  "Fraction(" ++ toString q.num ++ ", " ++ toString q.den ++ ")"

/-- The construction of a number: its text and its value, without its span. -/
def Number.construction (a : Number) : String :=
  "Number(text=" ++ quoted a.text ++ ", value=" ++ rationalConstruction a.value ++ ")"

/-- The construction of an operator: the class, the kind of token with its number, the characters.
-/
def Operator.construction {p : Precedence} (op : Operator p) : String :=
  NodeClass.operatorName p ++ "(type=<TokenType." ++ op.symbol.name ++ ": " ++
    toString op.symbol.number ++ ">, lexeme=" ++ quoted op.lexeme ++ ")"

/-- The construction of a chain from those of its operand and of what follows it. -/
def chainConstruction (p : Precedence) (operand op rest : String) : String :=
  (Level.chain p).name ++ "(" ++ p.operand.partName ++ "=" ++ operand ++ ", op=" ++ op ++ ", " ++
    (Level.chain p).partName ++ "=" ++ rest ++ ")"

/-- The construction of a tree, whose absent parts are written, too. -/
def Tree.construction : {l : Level} → Tree l → String
  | _, .number a _ => "Term(expression=None, number=" ++ a.construction ++ ")"
  | _, .group inner _ => "Term(expression=" ++ inner.construction ++ ", number=None)"
  | _, .single (p := p) operand _ => chainConstruction p operand.construction "None" "None"
  | _, .link (p := p) operand op rest _ =>
    chainConstruction p operand.construction op.construction rest.construction

/-- The construction of a node. -/
def Node.construction : Node → String
  | tree t => t.construction
  | number a => a.construction
  | operator op => op.construction

end ArithExpr
