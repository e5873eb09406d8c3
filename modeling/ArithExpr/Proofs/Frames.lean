import ArithExpr.Parser.Checked

/-!
# Stacks as frames

A `Stack` is a list of open productions whose type says that they fit together: every operand that
has been read is followed by an operator, and what fills a hole is of just the class that belongs
there. Here a stack is turned into the list of frames that a checking parser has open, and it is
proved that on such frames nothing that makes or unmakes a tree fails.

* `Stack.frames` — the open productions of a stack as frames.
* `Checked.chainNode_single`, `Checked.chainNode_link`, `Checked.termNode_group` — parts of the right
  classes make a node.
* `Checked.fold_links` — the operands and operators of a frame are folded to the chain of its links.
* `Checked.lift_eq` — lifting finds an entry for every class that it looks up.
* `Checked.unwind_frames` — frames unwind to what their stack unwinds to.
-/

namespace ArithExpr

/-! ### Stacks as frames -/

/-- The operands of links, of which the latest comes first, in order. -/
def operandNodes {p : Precedence} (links : List (Tree p.operand × Operator p)) : List Node :=
  (links.map fun link => Node.tree link.1).reverse

/-- The operators of links, in order. -/
def operatorNodes {p : Precedence} (links : List (Tree p.operand × Operator p)) : List Node :=
  (links.map fun link => Node.operator link.2).reverse

section Links

variable {p : Precedence} (operand : Tree p.operand) (op : Operator p)
  (links : List (Tree p.operand × Operator p))

theorem operandNodes_cons :
    operandNodes ((operand, op) :: links) = operandNodes links ++ [.tree operand] := by
  simp [operandNodes]

theorem operatorNodes_cons :
    operatorNodes ((operand, op) :: links) = operatorNodes links ++ [.operator op] := by
  simp [operatorNodes]

@[simp] theorem length_operandNodes : (operandNodes links).length = links.length := by
  simp [operandNodes]

@[simp] theorem length_operatorNodes : (operatorNodes links).length = links.length := by
  simp [operatorNodes]

end Links

/-- The open productions of a stack as frames. -/
def Stack.frames {goal : Level} : {hole : Level} → Stack goal hole → List Frame
  | _, done => []
  | _, group opening below => .group opening :: below.frames
  | _, operand p links below =>
    .chain (.tree (.chain p)) p (operandNodes links) (operatorNodes links) :: below.frames

namespace Checked

variable {goal : Level} {p : Precedence}

/-! ### Nodes -/

@[simp] theorem part_tree {l : Level} (t : Tree l) :
    part (.tree l) (Node.asTree? l) (some (.tree t)) = .ok (some t) := by
  simp [part, Node.asTree?]

theorem chainNode_single (operand : Tree p.operand) (span : Option Span) :
    chainNode (.tree (.chain p)) (some (.tree operand)) none none span =
      .ok (.tree (.single operand span)) := by
  unfold chainNode
  simp only [entry, rule?, ok_bind, part_tree]
  rfl

theorem chainNode_link (operand : Tree p.operand) (op : Operator p) (rest : Tree (.chain p))
    (span : Option Span) :
    chainNode (.tree (.chain p)) (some (.tree operand)) (some (.operator op)) (some (.tree rest))
        span = .ok (.tree (.link operand op rest span)) := by
  -- the operator is of the class that the chain asks for, so its part is found
  have hop : part (.operator p) (Node.asOperator? p) (some (.operator op)) = .ok (some op) := by
    simp [part, Node.asOperator?]
  unfold chainNode
  simp only [entry, rule?, ok_bind, part_tree, hop]
  rfl

theorem termNode_group (inner : Expression) (span : Option Span) :
    termNode (some (.tree inner)) none span = .ok (.tree (.group inner span)) :=
  rfl

/-! ### Chains of many parts -/

theorem foldlM_foldStep (links : List (Tree p.operand × Operator p)) (rest : Tree (.chain p)) :
    (links.map fun link => (Node.tree link.1, Node.operator link.2)).foldlM
        (foldStep (.tree (.chain p))) (.tree rest) =
      .ok (.tree (links.foldl (fun rest (operand, op) => .cons operand op rest) rest)) := by
  -- by induction on the links, the latest of which is put in front first
  induction links generalizing rest with
  | nil => rfl
  | cons link links ih =>
    obtain ⟨operand, op⟩ := link
    have hstep : foldStep (.tree (.chain p)) (.tree rest) (.tree operand, .operator op) =
        .ok (.tree (.cons operand op rest)) := chainNode_link _ _ _ _
    rw [List.map_cons, List.foldlM_cons]
    dsimp only
    rw [hstep]
    exact ih (.cons operand op rest)

/-- The operands and the operators of links make the chain that the links are folded to. -/
theorem fold_links (links : List (Tree p.operand × Operator p)) (last : Tree p.operand) :
    fold (.tree (.chain p)) (operandNodes links ++ [.tree last]) (operatorNodes links) =
      .ok (.tree (.ofReversed links last)) := by
  -- collected in reverse, the links are in the order in which they are folded
  have hreverse : (operandNodes links ++ [Node.tree last]).reverse =
      .tree last :: links.map fun link => .tree link.1 := by
    simp [operandNodes]
  unfold fold operatorNodes
  rw [hreverse, List.reverse_reverse]
  dsimp only
  rw [chainNode_single, List.zip_map']
  exact foldlM_foldStep links _

/-! ### Unwinding -/

/-- **Lifting looks up nothing that is missing**, whatever the node and the level. -/
theorem lift_eq (node : Node) (target : Level) :
    lift (some node) (.tree target) = .ok ((node.lift? target).map .tree) := by
  cases node with
  | number | operator => rfl
  | @tree l t =>
    -- the way up is different for each level and each target
    rcases l with _ | (_ | _ | _) <;> rcases target with _ | (_ | _ | _) <;>
      simp only [lift, Node.cls, rank?, entry, ok_bind, wrapUpTo, wrapper?, chainNode_single,
        Node.lift?, Tree.lift?] <;>
      rfl

/-- A tree that is of the target already is left as it is. -/
theorem lift_tree {l : Level} (t : Tree l) :
    lift (some (.tree t)) (.tree l) = .ok (some (.tree t)) := by
  rw [lift_eq, Node.lift?, Tree.lift?_self]
  rfl

theorem entry_operandClass? (p : Precedence) :
    entry operandClass? (.tree (.chain p)) = .ok (.tree p.operand) := by
  cases p <;> rfl

/-- A chain with something for its gap takes it. -/
theorem unwindChain_some (links : List (Tree p.operand × Operator p)) (last : Tree p.operand) :
    unwindChain (.tree (.chain p)) (operandNodes links) (operatorNodes links) (some (.tree last)) =
      .ok (some (.tree (.ofReversed links last))) := by
  unfold unwindChain
  simp only [entry_operandClass?, ok_bind, lift_tree, length_operandNodes, length_operatorNodes,
    decide_true, fold_links, pure_eq_ok]

/-- A chain with nothing for its gap drops the operator in front of it. -/
theorem unwindChain_none (operand : Tree p.operand) (op : Operator p)
    (links : List (Tree p.operand × Operator p)) :
    unwindChain (.tree (.chain p)) (operandNodes ((operand, op) :: links))
        (operatorNodes ((operand, op) :: links)) none =
      .ok (some (.tree (.ofReversed links operand))) := by
  -- without its last operator the chain has one operator fewer than operands, as it should
  have hdrop : (operatorNodes ((operand, op) :: links)).take
      ((operandNodes ((operand, op) :: links)).length - 1) = operatorNodes links := by
    rw [operatorNodes_cons, length_operandNodes]
    simp
  have hempty : (operandNodes ((operand, op) :: links)).isEmpty = false := by
    simp [operandNodes_cons]
  unfold unwindChain
  -- nothing is built, so lifting gives nothing, whatever the operators are
  rw [entry_operandClass?, hdrop, hempty, operandNodes_cons, fold_links]
  rfl

/-- A chain that has read nothing is left out. -/
theorem unwindChain_nil (p : Precedence) :
    unwindChain (.tree (.chain p)) (operandNodes (p := p) []) (operatorNodes (p := p) []) none =
      .ok none := by
  cases p <;> rfl

/-- **Unwinding frames** gives what unwinding the stack gives. -/
theorem unwind_frames {hole : Level} (stack : Stack goal hole) (filling : Option (Tree hole)) :
    unwind stack.frames (filling.map .tree) = .ok ((stack.unwind filling).map .tree) := by
  induction stack with
  | done => rfl
  | group opening below ih =>
    -- an empty group is left out, and one with content is closed without a span
    cases filling with
    | none => exact ih none
    | some inner =>
      have hgroup : unwindGroup (some (.tree inner)) =
          .ok (some (.tree (.group inner none))) := by
        unfold unwindGroup
        rw [lift_tree]
        rfl
      simp only [Stack.frames, Option.map_some, unwind, hgroup]
      exact ih (some (.group inner none))
  | operand p links below ih =>
    rw [Stack.frames, unwind]
    -- the last operand is what fills the hole, or else the latest that has been read
    match filling, links with
    | some last, links =>
      rw [Option.map_some, unwindChain_some]
      exact ih (some (.ofReversed links last))
    | none, (operand, op) :: links =>
      rw [Option.map_none, unwindChain_none]
      exact ih (some (.ofReversed links operand))
    | none, [] =>
      rw [Option.map_none, unwindChain_nil]
      exact ih none

/-- Frames that no stack has do not unwind: there are no chains of numbers. -/
example : unwind [.chain .number .additive [] []] none = .error (.noEntry .number) :=
  rfl

end Checked

end ArithExpr
