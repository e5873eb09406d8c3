import ArithExpr.Tree.Node

/-!
# Visitors

A visitor has handlers for some classes of nodes. It goes down a tree; where it has no handler for a
node it goes on to the children, and where it has one the handler decides. The log is passed from
node to node. There is no limit on how deep a visitor goes.

* `Visitor` — which classes have a handler, and whether the handlers go on to the children.
* `Visitor.visit`, `Visitor.visitChildren` — visiting, one node after the other.
* `Visitor.log` — the nodes that are handled, in the order in which that happens.
* `Visitor.answer` — the class whose handler answers for a node, if there is one.
* `Visitor.visit_eq` — a visit adds to the log what `Visitor.log` gives for the node.
-/

namespace ArithExpr

/-- A visitor, by what it does where. -/
structure Visitor where
  /-- The classes that have a handler. -/
  handles : NodeClass → Bool
  /-- Whether a handler goes on to the children of its node. -/
  descends : Bool

namespace Visitor

/-! ### Visiting node by node -/

variable {α : Type}

mutual

/-- Visits a node, when some nodes have been logged. A handler logs the node, goes on to its
children or does not, and has a result. If there is none, the children are visited. -/
def visit (visitor : Visitor) (result : Node → α) (n : Node) (logged : List Node) :
    Option α × List Node :=
  if visitor.handles n.cls then
    (some (result n),
      if visitor.descends then visitor.visitChildren result n (logged ++ [n]) else logged ++ [n])
  else (none, visitor.visitChildren result n logged)
termination_by (n.count, 1)

/-- Visits the children of a node from left to right. Their results are of no use. -/
def visitChildren (visitor : Visitor) (result : Node → α) (n : Node) (logged : List Node) :
    List Node :=
  -- each child comes with the proof that it is one, and has fewer nodes
  n.children.attach.foldl (fun logged child => (visitor.visit result child.1 logged).2) logged
termination_by (n.count, 0)
decreasing_by exact Prod.Lex.left _ _ (Node.count_lt_count child.2)

end

/-! ### What is logged -/

/-- The nodes handled at a node, where `below` are those that going on to its children handles. -/
def enter (visitor : Visitor) (node : Node) (below : List Node) : List Node :=
  if visitor.handles node.cls then node :: (if visitor.descends then below else []) else below

/-- The nodes handled in a tree, in order. -/
def logTree (visitor : Visitor) : {l : Level} → Tree l → List Node
  | _, t@(.number a _) => visitor.enter (.tree t) (visitor.enter (.number a) [])
  | _, t@(.group inner _) => visitor.enter (.tree t) (visitor.logTree inner)
  | _, t@(.single operand _) => visitor.enter (.tree t) (visitor.logTree operand)
  | _, t@(.link operand op rest _) =>
    visitor.enter (.tree t)
      (visitor.logTree operand ++ visitor.enter (.operator op) [] ++ visitor.logTree rest)

/-- The nodes handled at a node and beneath it, in order. -/
def log (visitor : Visitor) : Node → List Node
  | .tree t => visitor.logTree t
  | node => visitor.enter node []

/-- The class whose handler answers for a node. Going on to the children answers nothing. -/
def answer (visitor : Visitor) (node : Node) : Option NodeClass :=
  if visitor.handles node.cls then some node.cls else none

variable (visitor : Visitor) (result : Node → α)

/-- **What is logged at a node** is what is logged at its children, with the node in front of it or
in place of it if there is a handler. -/
theorem log_eq (n : Node) : visitor.log n = visitor.enter n (n.children.flatMap visitor.log) := by
  cases n with
  | number | operator => rfl
  | tree t =>
    cases t <;> simp [log, logTree, Node.children, Node.childrenOfTree]

/-- Visiting several nodes one after the other adds what is logged at each of them. -/
theorem foldl_visit {nodes : List Node}
    (h : ∀ n ∈ nodes, ∀ logged, (visitor.visit result n logged).2 = logged ++ visitor.log n)
    (logged : List Node) :
    nodes.foldl (fun logged n => (visitor.visit result n logged).2) logged =
      logged ++ nodes.flatMap visitor.log := by
  induction nodes generalizing logged with
  | nil => simp
  | cons n nodes ih =>
    -- the first node adds its log, and the others add theirs behind it
    rw [List.foldl_cons, h n List.mem_cons_self, ih fun m hm => h m (List.mem_cons_of_mem _ hm),
      List.flatMap_cons, List.append_assoc]

/-- **Visiting a node** adds to the log what is logged at the node. -/
theorem visit_eq (n : Node) (logged : List Node) :
    visitor.visit result n logged =
      (if visitor.handles n.cls then some (result n) else none, logged ++ visitor.log n) := by
  induction n using Node.children_induction generalizing logged with
  | node n ih =>
    -- the log of a child is behind those of the children before it
    have hchildren : ∀ logged, visitor.visitChildren result n logged =
        logged ++ n.children.flatMap visitor.log := by
      intro logged
      rw [visitChildren,
        List.foldl_attach (f := fun logged child => (visitor.visit result child logged).2)]
      apply foldl_visit
      intro child hchild logged
      rw [ih child hchild]
    rw [visit, hchildren, hchildren, log_eq, enter]
    cases visitor.handles n.cls <;> cases visitor.descends <;> simp

/-- The class that answers for a node is the result if handlers give back the class. -/
theorem answer_eq_visit (n : Node) (logged : List Node) :
    visitor.answer n = (visitor.visit Node.cls n logged).1 := by
  rw [visit_eq, answer]

end Visitor

end ArithExpr
