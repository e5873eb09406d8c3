import Mathlib.Logic.Relation
import ArithExpr.Proofs.StandingLiterals
import ArithExpr.Tree.Node

/-!
# Trees and the tokens they were read from

A tree that was read has spans, and each span is that of the tokens which the node was read from: it
begins at the first of them and ends at the last. `Tree.Located` says so for a tree and its tokens,
along the rules of the grammar.

* `Tree.Located.derives` — a located tree is derived from its tokens.
* `Tree.Located.span_eq` — its span is that of its first and its last token.
* `Node.Covers` — the same for any node; `Node.Covers.toSource_eq` — the node is written with the
  characters of its tokens.
* `Node.Covers.children` — the children of a node cover parts of its tokens, one behind the other;
  `Node.Covers.beneath` — so do all nodes beneath it.
-/

namespace ArithExpr

open Grammar

/-- The span from the first to the last of some tokens. -/
def Token.spanOf? (tokens : List Token) : Option Span :=
  match tokens.head?, tokens.getLast? with
  | some first, some last => some ⟨first.location, last.location⟩
  | _, _ => none

/-- The span of several tokens goes from that of the first few of them to that of the last few. -/
theorem Token.join?_spanOf? {left right : List Token} (hleft : left ≠ []) (hright : right ≠ [])
    (middle : List Token) :
    Span.join? (spanOf? left) (spanOf? right) = spanOf? (left ++ middle ++ right) := by
  -- neither end depends on the tokens between the two
  simp [spanOf?, Span.join?, List.head?_append, List.getLast?_append,
    List.head?_eq_some_head hleft, List.getLast?_eq_some_getLast hleft,
    List.head?_eq_some_head hright, List.getLast?_eq_some_getLast hright]

/-- **The tree was read from the tokens**, and its spans are theirs. -/
inductive Tree.Located : {l : Level} → List Token → Tree l → Prop where
  | number {tokens : List Token} {a : Number} (written : Literal tokens a.text)
      (span : a.span = Token.spanOf? tokens) : Located tokens (.number a a.span)
  | group {opening closing : Token} {tokens : List Token} {inner : Expression}
      (openingKind : opening.kind = .leftParen) (content : Located tokens inner)
      (closingKind : closing.kind = .rightParen) :
      Located (opening :: tokens ++ [closing])
        (.group inner (some ⟨opening.location, closing.location⟩))
  | single {p : Precedence} {tokens : List Token} {operand : Tree p.operand}
      (only : Located tokens operand) : Located tokens (Tree.ofOperand operand)
  | link {p : Precedence} {left right : List Token} {token : Token} {operand : Tree p.operand}
      {op : Operator p} {rest : Tree (.chain p)} (first : Located left operand)
      (kind : token.kind = .operator op.symbol) (lexeme : token.lexeme = op.lexeme)
      (span : op.span = some (.point token.location)) (further : Located right rest) :
      Located (left ++ token :: right) (Tree.cons operand op rest)

namespace Tree.Located

variable {l : Level} {tokens : List Token} {t : Tree l}

/-- **A located tree is derived from its tokens.** -/
theorem derives (h : t.Located tokens) : Derives tokens t.phrase := by
  induction h with
  | number written => exact .number written
  | group openingKind _ closingKind ih => exact .group openingKind ih closingKind
  | single _ ih => exact .single ih
  | @link p left right token operand op rest _ kind lexeme _ _ ih ih' =>
    rw [Tree.cons, Tree.phrase, ← lexeme]
    exact .link ih kind op.belongs ih'

theorem ne_nil (h : t.Located tokens) : tokens ≠ [] := by
  induction h with
  | number written => exact written.ne_nil
  | group => simp
  | single _ ih => exact ih
  | link => simp

/-- **The span of a located tree** is that of its first and its last token. -/
theorem span_eq (h : t.Located tokens) : t.span = Token.spanOf? tokens := by
  induction h with
  | number _ span => exact span
  | @group opening closing content =>
    -- from one parenthesis to the other, with the content between them
    exact Token.join?_spanOf? (show [opening] ≠ [] by simp) (show [closing] ≠ [] by simp) content
  | single _ ih => exact ih
  | @link p left right token operand op rest first _ _ _ further ih ih' =>
    -- the operator is between two parts that are not empty, so the span is that of the parts
    rw [Tree.cons, Tree.span, ih, ih', ← List.singleton_append, ← List.append_assoc]
    exact Token.join?_spanOf? first.ne_nil further.ne_nil [token]

end Tree.Located

/-! ### Nodes -/

theorem Grammar.Literal.text_eq {tokens : List Token} {text : String} (h : Literal tokens text) :
    text = String.join (tokens.map Token.lexeme) := by
  cases h <;> simp [String.join_cons, String.join_nil, String.append_assoc]

/-- **The node was read from the tokens**, and its span is theirs. -/
inductive Node.Covers : Node → List Token → Prop where
  | tree {l : Level} {t : Tree l} {tokens : List Token} (located : t.Located tokens) :
      Covers (.tree t) tokens
  | number {a : Number} {tokens : List Token} (written : Literal tokens a.text)
      (span : a.span = Token.spanOf? tokens) : Covers (.number a) tokens
  | operator {p : Precedence} {op : Operator p} {token : Token} (lexeme : token.lexeme = op.lexeme)
      (span : op.span = some (.point token.location)) : Covers (.operator op) [token]

namespace Node.Covers

variable {n : Node} {tokens : List Token}

theorem ne_nil (h : n.Covers tokens) : tokens ≠ [] := by
  cases h with
  | tree located => exact located.ne_nil
  | number written => exact written.ne_nil
  | operator => simp

theorem span_eq (h : n.Covers tokens) : n.span = Token.spanOf? tokens := by
  cases h with
  | tree located => exact located.span_eq
  | number _ span => exact span
  | operator _ span => exact span

/-- **A node is written with the characters of its tokens.** -/
theorem toSource_eq (h : n.Covers tokens) (hs : ∀ token ∈ tokens, token.Spelled) :
    n.toSource = String.join (tokens.map Token.lexeme) := by
  rw [Node.toSource_eq_source]
  cases h with
  | tree located =>
    rw [Node.source, ← Tree.source_phrase]
    exact located.derives.source_eq hs
  | number written => exact written.text_eq
  | operator lexeme =>
    rw [Node.source, ← lexeme]
    simp [String.join_cons, String.join_nil]

/-- **The children of a node** cover parts of its tokens, one behind the other. -/
theorem children (h : n.Covers tokens) :
    ∃ parts : List (Node × List Token), n.children = parts.map Prod.fst ∧
      (∀ part ∈ parts, part.1.Covers part.2) ∧ (parts.map Prod.snd).flatten <:+: tokens := by
  cases h with
  | number | operator => exact ⟨[], rfl, by simp, List.nil_infix⟩
  | tree located =>
    cases located with
    -- the parts of a node are those that its tokens are put together from
    | @number _ a written span =>
      exact ⟨[(.number a, tokens)], rfl, by simpa using Covers.number written span, by simp⟩
    | @group opening closing content inner _ located =>
      exact ⟨[(.tree inner, content)], rfl, by simpa using Covers.tree located,
        [opening], [closing], by simp⟩
    | @single _ _ operand only =>
      exact ⟨[(.tree operand, tokens)], rfl, by simpa using Covers.tree only, by simp⟩
    | @link _ left right token operand op rest first _ lexeme span further =>
      exact ⟨[(.tree operand, left), (.operator op, [token]), (.tree rest, right)], rfl,
        by simpa using ⟨Covers.tree first, Covers.operator lexeme span, Covers.tree further⟩,
        by simp⟩

theorem child {m : Node} (h : n.Covers tokens) (hm : m ∈ n.children) :
    ∃ part, m.Covers part ∧ part <:+: tokens := by
  obtain ⟨parts, hchildren, hcovers, hwithin⟩ := h.children
  rw [hchildren, List.mem_map] at hm
  obtain ⟨part, hmem, rfl⟩ := hm
  exact ⟨part.2, hcovers part hmem,
    (List.infix_of_mem_flatten (List.mem_map_of_mem hmem)).trans hwithin⟩

end Node.Covers

/-- A node is beneath another one if it is a child of it, or a child of a child, and so on. -/
def Node.Beneath (root : Node) : Node → Prop :=
  Relation.ReflTransGen (fun parent child => child ∈ parent.children) root

/-- **Every node of a tree** covers some of the tokens of the tree, which follow one another. -/
theorem Node.Covers.beneath {root n : Node} {tokens : List Token} (h : root.Covers tokens)
    (hn : root.Beneath n) : ∃ part, n.Covers part ∧ part <:+: tokens := by
  -- by induction on the way down: each step leads to a part of a part
  induction hn with
  | refl => exact ⟨tokens, h, List.infix_rfl⟩
  | tail _ hchild ih =>
    obtain ⟨part, hcovers, hwithin⟩ := ih
    obtain ⟨part', hcovers', hwithin'⟩ := hcovers.child hchild
    exact ⟨part', hcovers', hwithin'.trans hwithin⟩

end ArithExpr
