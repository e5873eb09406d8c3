import Mathlib.Data.List.Basic
import ArithExpr.Grammar
import ArithExpr.Tree.Printer

/-!
# What is written

`Node.toSource` writes a node with a list of pieces still to be written, `Node.source` by recursion.
Each step of the first replaces a node by pieces that spell the same text
(`Piece.sourceOf_pieces`), so the two agree (`Node.toSource_eq_source`).

What is written is determined by the phrase of a tree: spans and values do not show.

Writing can also be carried out in rounds on a stack of pieces, with a list of the texts that have
been written. A round takes the piece at the end of the stack. A text is written. In place of a node
its pieces are put, in reverse, so that the first of them is taken next. A chain is unfolded for
this as `Tree.chain` does it, and the chains that it ends in are never on the stack. A round leaves
the text that is written in the end as it is, and there is one round less to go
(`PieceStack.round_spec`). So the rounds come to an end (`PieceStack.exists_after_weight`), and then
the text is that of the recursion (`writing_ends`).

* `Piece.sourceOf` — the text that pieces stand for.
* `Node.unfolded` — the pieces of a node; `Node.unfolded_eq` — they are those of `Node.pieces`.
* `PieceStack.round`, `PieceStack.after` — one round, and several.
* `Node.weight_eq` — the weight of a node is not only a bound on the rounds but their number.
-/

namespace ArithExpr

/-- The text that pieces stand for. -/
def Piece.sourceOf : List Piece → String
  | [] => ""
  | .text s :: pieces => s ++ sourceOf pieces
  | .node n :: pieces => n.source ++ sourceOf pieces

theorem Piece.sourceOf_append (ps qs : List Piece) :
    Piece.sourceOf (ps ++ qs) = Piece.sourceOf ps ++ Piece.sourceOf qs := by
  induction ps with
  | nil => simp [sourceOf]
  | cons p ps ih => cases p <;> simp [sourceOf, ih, String.append_assoc]

/-- The pieces of a tree spell its text. A chain gives all its pieces at once. -/
theorem Tree.sourceOf_pieces {l : Level} (t : Tree l) : Piece.sourceOf t.pieces = t.source := by
  induction t with
  | number => simp [pieces, Piece.sourceOf, source, Node.source]
  | group => simp [pieces, Piece.sourceOf, source, Node.source, String.append_assoc]
  | single => simp [pieces, Piece.sourceOf, source, Node.source]
  | link operand op rest _ _ ih =>
    simp [pieces, Piece.sourceOf, source, Node.source, ih, String.append_assoc]

theorem Piece.sourceOf_pieces (n : Node) : Piece.sourceOf n.pieces = n.source := by
  cases n with
  | tree t => exact t.sourceOf_pieces
  | number a => simp [Node.pieces, sourceOf, Node.source]
  | operator op => simp [Node.pieces, sourceOf, Node.source]

/-- **Writing pieces** puts the text that they stand for behind what is written already. -/
theorem Piece.render_eq (written : String) (pieces : List Piece) :
    Piece.render written pieces = written ++ Piece.sourceOf pieces := by
  fun_induction Piece.render written pieces with
  | case1 written => simp [sourceOf]
  | case2 written s pieces ih => rw [ih, sourceOf, String.append_assoc]
  -- a node is replaced by its pieces, which spell its text
  | case3 written n pieces ih => rw [ih, sourceOf_append, sourceOf_pieces, sourceOf]

theorem Node.toSource_eq_source (n : Node) : n.toSource = n.source := by
  rw [toSource, Piece.render_eq]
  simp [Piece.sourceOf]

theorem Tree.toSource_eq_source {l : Level} (t : Tree l) : t.toSource = t.source :=
  Node.toSource_eq_source (.tree t)

/-! ### Texts and phrases -/

/-- The text of a phrase: its lexemes in order, without white space. -/
def Phrase.source : {l : Level} → Phrase l → String
  | _, number text => text
  | _, group inner => "(" ++ inner.source ++ ")"
  | _, single operand => operand.source
  | _, link operand _ lexeme rest => operand.source ++ lexeme ++ rest.source

theorem Tree.source_phrase {l : Level} (t : Tree l) : t.phrase.source = t.source := by
  induction t with
  | number => rfl
  | group _ _ ih => rw [phrase, Phrase.source, ih, source]
  | single _ _ ih => rw [phrase, Phrase.source, ih, source]
  | link _ _ _ _ ih ih' => rw [phrase, Phrase.source, ih, ih', source]

/-! ### The pieces of a node -/

/-- The pieces of an operand and the operator in front of it, if there is one. -/
def Piece.ofEntry {p : Precedence} (entry : Option (Operator p) × Tree p.operand) : List Piece :=
  (entry.1.map fun op => node (.operator op)).toList ++ [.node (.tree entry.2)]

/-- The pieces of a tree, gathered from the list of its operands if it is a chain. -/
def Tree.unfolded : {l : Level} → Tree l → List Piece
  | .term, .number a _ => [.node (.number a)]
  | .term, .group inner _ => [.text "(", .node (.tree inner), .text ")"]
  | .chain _, t => t.chain.flatMap Piece.ofEntry

/-- The pieces of a node, for which a chain is unfolded. -/
def Node.unfolded : Node → List Piece
  | .tree t => t.unfolded
  | .number a => [.text a.text]
  | .operator op => [.text op.lexeme]

/-- An unfolded chain gives the pieces of its operands and operators. -/
theorem Tree.flatMap_chain {p : Precedence} :
    (t : Tree (.chain p)) → t.chain.flatMap Piece.ofEntry = t.pieces
  | .single operand _ => by simp [chain, first, links, pieces, Piece.ofEntry]
  | .link operand op rest _ => by
    -- the first operand has no operator in front of it, and the rest of the chain is a chain again
    rw [pieces, ← rest.flatMap_chain]
    simp [chain, first, links, Piece.ofEntry]

theorem Tree.unfolded_eq {l : Level} (t : Tree l) : t.unfolded = t.pieces := by
  cases t with
  | number => rfl
  | group => rfl
  | single => exact flatMap_chain _
  | link => exact flatMap_chain _

theorem Node.unfolded_eq (n : Node) : n.unfolded = n.pieces := by
  cases n with
  | tree t => exact t.unfolded_eq
  | number => rfl
  | operator => rfl

/-! ### Weights -/

theorem Piece.totalWeight_reverse (pieces : List Piece) :
    totalWeight pieces.reverse = totalWeight pieces := by
  induction pieces with
  | nil => rfl
  | cons piece pieces ih =>
    rw [List.reverse_cons, totalWeight_append, ih, totalWeight, totalWeight, totalWeight,
      Nat.add_zero, Nat.add_comm]

theorem Tree.weight_eq {l : Level} (t : Tree l) : t.weight = Piece.totalWeight t.pieces + 1 := by
  induction t with
  | number => rfl
  | group => simp only [weight, pieces, Piece.totalWeight, Piece.weight, Node.weight]; omega
  | single => rfl
  | link _ _ _ _ _ ih =>
    -- the rest of the chain is one round less, since it is not taken from the stack itself
    simp only [weight, pieces, Piece.totalWeight, Piece.weight, Node.weight]
    omega

/-- **The weight of a node** is that of its pieces, and one more. -/
theorem Node.weight_eq (n : Node) : n.weight = Piece.totalWeight n.unfolded + 1 := by
  cases n with
  | tree t => rw [unfolded, t.unfolded_eq]; exact t.weight_eq
  | number => rfl
  | operator => rfl

/-! ### Rounds -/

/-- What is still to be written, and what has been written. -/
structure PieceStack where
  /-- The pieces that are still to be written. The next one is the last of them. -/
  pieces : List Piece
  /-- The texts that have been written, in order. -/
  written : List String

namespace PieceStack

/-- The stack at the beginning of writing a node. -/
def ofNode (n : Node) : PieceStack :=
  ⟨[.node n], []⟩

/-- One round. There is none when nothing is left on the stack. -/
def round (stack : PieceStack) : Option PieceStack :=
  match stack.pieces.getLast? with
  | none => none
  | some (.text s) => some ⟨stack.pieces.dropLast, stack.written ++ [s]⟩
  | some (.node n) => some ⟨stack.pieces.dropLast ++ n.unfolded.reverse, stack.written⟩

/-- The stack after some rounds, if there are so many. -/
def after : Nat → PieceStack → Option PieceStack
  | 0, stack => some stack
  | n + 1, stack => stack.round.bind (after n)

/-- The text that is written in the end: what has been written, and what the pieces stand for. -/
def text (stack : PieceStack) : String :=
  String.join stack.written ++ Piece.sourceOf stack.pieces.reverse

/-- The number of rounds still to come. -/
def weight (stack : PieceStack) : Nat :=
  Piece.totalWeight stack.pieces

variable {stack next : PieceStack}

theorem round_eq_none (h : stack.round = none) : stack.pieces = [] := by
  obtain ⟨pieces, written⟩ := stack
  rcases List.eq_nil_or_concat' pieces with rfl | ⟨front, piece, rfl⟩
  · rfl
  · -- at the end of the stack is a piece, and a round takes it
    cases piece <;> simp [round] at h

/-- **A round is one round less**, and the text stays what it is. -/
theorem round_spec (h : stack.round = some next) :
    next.text = stack.text ∧ stack.weight = next.weight + 1 := by
  obtain ⟨pieces, written⟩ := stack
  rcases List.eq_nil_or_concat' pieces with rfl | ⟨front, piece, rfl⟩
  · -- an empty stack has no round
    cases h
  · cases piece with
    | text s =>
      obtain rfl : ⟨front, written ++ [s]⟩ = next := by simpa [round] using h
      constructor
      · -- the text goes from the front of the one part to the end of the other
        simp [text, Piece.sourceOf, String.join_append, String.append_assoc]
      · simp [weight, Piece.totalWeight_append, Piece.totalWeight, Piece.weight]
    | node n =>
      obtain rfl : ⟨front ++ n.unfolded.reverse, written⟩ = next := by simpa [round] using h
      constructor
      · -- the pieces of the node spell its text
        simp only [text, List.reverse_append, List.reverse_reverse, List.reverse_singleton,
          List.singleton_append, Piece.sourceOf, Piece.sourceOf_append, n.unfolded_eq,
          Piece.sourceOf_pieces]
      · -- one round is spent on the node itself, and its pieces weigh the rest
        simp only [weight, Piece.totalWeight_append, Piece.totalWeight_reverse,
          Piece.totalWeight, Piece.weight, n.weight_eq, Nat.add_zero, Nat.add_assoc]

/-- **The rounds come to an end**, and there are as many of them as the pieces weigh. -/
theorem exists_after_weight (stack : PieceStack) :
    ∃ texts, stack.after stack.weight = some ⟨[], texts⟩ ∧ String.join texts = stack.text := by
  induction h : stack.weight generalizing stack with
  | zero =>
    -- the stack of weight zero is empty, since a round would make it lighter still
    cases hround : stack.round with
    | none =>
      obtain ⟨pieces, written⟩ := stack
      obtain rfl : pieces = [] := round_eq_none hround
      exact ⟨written, rfl, (String.append_empty).symm⟩
    | some next =>
      have hweight := (round_spec hround).2
      omega
  | succ n ih =>
    cases hround : stack.round with
    | none =>
      rw [weight, round_eq_none hround] at h
      cases h
    -- a round leaves the text as it is, so the texts in the end are those of the stack after it
    | some next =>
      obtain ⟨htext, hweight⟩ := round_spec hround
      obtain ⟨texts, hafter, hjoin⟩ := ih next (by omega)
      refine ⟨texts, ?_, hjoin.trans htext⟩
      rw [after, hround]
      exact hafter

end PieceStack

/-- **Writing from a stack comes to an end with the text that recursion gives.** The number of
rounds is the weight of the node, whatever its class, its depth and the lexemes in it. -/
theorem writing_ends (n : Node) :
    n.toSource = n.source ∧
    ∃ texts, (PieceStack.ofNode n).after n.weight = some ⟨[], texts⟩ ∧
      String.join texts = n.source := by
  constructor
  · exact n.toSource_eq_source
  · obtain ⟨texts, hafter, hjoin⟩ := (PieceStack.ofNode n).exists_after_weight
    have htext : (PieceStack.ofNode n).text = n.source := by
      simp [PieceStack.ofNode, PieceStack.text, Piece.sourceOf]
    exact ⟨texts, hafter, hjoin.trans htext⟩

end ArithExpr
