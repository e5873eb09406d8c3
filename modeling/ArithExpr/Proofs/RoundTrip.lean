import ArithExpr.Parser.Session
import ArithExpr.Proofs.Correctness
import ArithExpr.Proofs.Printing
import ArithExpr.Proofs.Retokenizing

/-!
# Writing a node and reading it again

What is written for a node is read again as the same node by the routine of its class. So two nodes
of a class are the same if they are written alike: writing loses nothing but spans. It is asked of
the operators that they are written with the characters of their symbols, since an operator that
was put together by hand may be written with anything.

* `Lexer.ReadsAs.faces` — from the tokens of a text to what a parser at its beginning has ahead.
* `Tree.reads_source`, `Tree.parse_source` — a written tree is read again, as a tree of its level
  and, if it is an expression, as a whole input.
* `Node.read_toSource` — the same for nodes of any class, and what follows for two of them.
-/

namespace ArithExpr

open Grammar

theorem Lexer.ReadsAs.faces {text : String} {P : List Token → Prop}
    (h : ReadsAs text.toList [] P) (filename : String) :
    ∃ tokens final, (Parser.ofString text filename).Faces tokens final ∧ P tokens := by
  -- a text that ends behind `text` has no tokens left there
  obtain ⟨tokens, place', last', heq, hP⟩ := h (.start filename) .nothing
  have hnil : tokensAhead ⟨[], place', last'⟩ = [] := tokensAhead_of_rest_nil rfl
  rw [List.append_nil, hnil, List.append_nil] at heq
  refine ⟨tokens, (ofString text filename).endToken, ?_, hP⟩
  rw [← heq]
  exact Parser.faces_ofLexer _

theorem Parser.Faces.kind_peek_of_nil {parser : Parser} {final : Token}
    (h : parser.Faces [] final) : parser.peek.1.kind = .eof := by
  rw [h.peek_fst, List.headD_nil, h.kind_final]

/-! ### Trees -/

namespace Tree

variable {l : Level} {t u : Tree l}

/-- A parser at the beginning of a written tree has tokens ahead that are derived from its
phrase. -/
theorem faces_source (ht : t.Conventional) (filename : String) :
    ∃ tokens final, (Parser.ofString t.source filename).Faces tokens final ∧
      Derives tokens t.phrase :=
  (t.readsAs_source ht (by simp)).faces filename

/-- **A written tree is read again** as a tree of its level, and nothing is left. -/
theorem reads_source (ht : t.Conventional) (filename : String) :
    ∃ u after, (Parser.ofString t.source filename).parseTree l = (.ok u, after) ∧
      u.same t = true ∧ after.peek.1.kind = .eof := by
  obtain ⟨tokens, final, hfaces, hderives⟩ := faces_source ht filename
  -- nothing is behind the tree that could carry it on
  rw [← List.append_nil tokens] at hfaces
  obtain ⟨u, after, hread, hphrase, hafter⟩ :=
    Parser.reads_of_derives hderives t.readable_phrase hfaces (by simp)
  exact ⟨u, after, hread, same_iff_phrase_eq.2 hphrase, hafter.kind_peek_of_nil⟩

theorem parse_source {t : Expression} (ht : t.Conventional) (filename : String) :
    ∃ u, parse t.source filename = .ok u ∧ u.same t = true := by
  obtain ⟨tokens, final, hfaces, hderives⟩ := faces_source ht filename
  obtain ⟨u, after, hread, hphrase, -⟩ :=
    Parser.parse_of_derives hderives t.readable_phrase hfaces
  exact ⟨u, congrArg Prod.fst hread, same_iff_phrase_eq.2 hphrase⟩

/-- Trees of a level are the same if they are written alike. -/
theorem same_iff_source_eq (ht : t.Conventional) (hu : u.Conventional) :
    t.same u = true ↔ t.source = u.source := by
  constructor
  · -- the text shows in the phrase, so trees of one phrase have one text
    intro h
    calc t.source
      _ = t.phrase.source := t.source_phrase.symm
      _ = u.phrase.source := by rw [same_iff_phrase_eq.1 h]
      _ = u.source := u.source_phrase
  · intro h
    obtain ⟨t', after, hread, hsame, -⟩ := reads_source ht ""
    obtain ⟨u', after', hread', hsame', -⟩ := reads_source hu ""
    -- the parser cannot read one text as two trees
    rw [h, hread', Prod.mk.injEq, Except.ok.injEq] at hread
    obtain ⟨rfl, -⟩ := hread
    rw [same_iff_phrase_eq] at hsame hsame' ⊢
    rw [← hsame, hsame']

end Tree

/-! ### Numbers and operators -/

theorem Number.reads_text (a : Number) (filename : String) :
    ∃ b after, (Parser.ofString a.text filename).parseNumber = (.ok b, after) ∧
      b.same a = true ∧ after.peek.1.kind = .eof := by
  obtain ⟨hwritten, hcount⟩ := decimalValue_eq_ok a.denotes
  have hstop : ∀ c ∈ ([] : List Char).head?, isDecimalDigit c = false := by simp
  obtain ⟨tokens, final, hfaces, hliteral⟩ :=
    (Lexer.readsAs_literal hwritten hstop).faces filename
  rw [← List.append_nil tokens] at hfaces
  rcases Parser.parseNumber_literal hliteral hfaces (by simp) with
    ⟨b, after, hread, htext, hafter⟩ | ⟨_, _, -, hlt⟩
  · exact ⟨b, after, hread, by simp [same, htext], hafter.kind_peek_of_nil⟩
  · -- the number has a value, so it has not too many digits
    omega

namespace Operator

variable {p : Precedence} {a b : Operator p}

theorem reads_lexeme (ha : a.Conventional) (filename : String) :
    ∃ b after, (Parser.ofString a.lexeme filename).parseOperator p = (.ok b, after) ∧
      b.same a = true ∧ after.peek.1.kind = .eof := by
  obtain ⟨_, final, hfaces, token, rfl, hk, hlexeme⟩ := (a.readsAs_lexeme ha []).faces filename
  -- a conventional operator is read as a token of its own symbol, and that belongs to the class
  obtain ⟨b, hb, hsymbol, hlexeme'⟩ :=
    exists_ofToken? hk a.belongs (hfaces.spec token List.mem_cons_self).2
  refine ⟨b, (Parser.ofString a.lexeme filename).peek.2.scanIgnoringSpace.2, ?_, ?_,
    hfaces.peek.take.kind_peek_of_nil⟩
  · unfold Parser.parseOperator
    dsimp only
    rw [hfaces.peek_fst, List.headD_cons, hb]
  · simp [same, hsymbol, hlexeme', hlexeme]

theorem same_iff_lexeme_eq (ha : a.Conventional) (hb : b.Conventional) :
    a.same b = true ↔ a.lexeme = b.lexeme := by
  constructor
  · intro h
    simp only [same, Bool.and_eq_true, decide_eq_true_eq] at h
    exact h.2
  · intro h
    -- written alike, the two have symbols of one character
    have hchars : String.singleton a.symbol.char = String.singleton b.symbol.char := by
      rw [← show a.lexeme = _ from ha, ← show b.lexeme = _ from hb, h]
    have hchar : a.symbol.char = b.symbol.char := by
      rw [← String.toList_inj, String.toList_singleton, String.toList_singleton] at hchars
      exact (List.cons.inj hchars).1
    -- a character writes one symbol
    have hsymbol : some a.symbol = some b.symbol :=
      calc some a.symbol
        _ = OperatorSymbol.ofChar? a.symbol.char := (OperatorSymbol.ofChar?_char _).symm
        _ = OperatorSymbol.ofChar? b.symbol.char := by rw [hchar]
        _ = some b.symbol := OperatorSymbol.ofChar?_char _
    simp [same, h, Option.some.inj hsymbol]

end Operator

/-! ### Nodes -/

/-- The routine that reads nodes of a class. -/
def NodeClass.routine : NodeClass → Routine
  | tree level => .tree level
  | number => .number
  | operator p => .operator p

namespace Node

/-- A written node is read again by the routine of its class, and nothing is left. -/
theorem reads_source {a : Node} (ha : a.Conventional) (filename : String) :
    ∃ b after, (Parser.ofString a.source filename).read a.cls.routine = (.ok b, after) ∧
      b.same a = true ∧ after.peek.1.kind = .eof := by
  cases a with
  | tree t =>
    obtain ⟨u, after, hread, hsame, hend⟩ := t.reads_source ha filename
    refine ⟨.tree u, after, ?_, hsame, hend⟩
    rw [source, cls, NodeClass.routine, Parser.read, hread, Parser.asNode]
  | number n =>
    obtain ⟨m, after, hread, hsame, hend⟩ := n.reads_text filename
    refine ⟨.number m, after, ?_, hsame, hend⟩
    rw [source, cls, NodeClass.routine, Parser.read, hread, Parser.leafAsNode]
  | operator op =>
    obtain ⟨op', after, hread, hsame, hend⟩ := op.reads_lexeme ha filename
    refine ⟨.operator op', after, ?_, by simp [same, hsame], hend⟩
    rw [source, cls, NodeClass.routine, Parser.read, hread, Parser.leafAsNode]

/-- Nodes of a class are the same if they are written alike. -/
theorem same_iff_source_eq {a b : Node} (ha : a.Conventional) (hb : b.Conventional)
    (hcls : b.cls = a.cls) : a.same b = true ↔ a.source = b.source := by
  -- of different classes there is nothing to show
  cases a <;> cases b <;> simp only [cls, reduceCtorEq, NodeClass.tree.injEq,
    NodeClass.operator.injEq] at hcls
  case tree.tree =>
    subst hcls
    exact Tree.same_iff_source_eq ha hb
  case number.number n m => simp [same, Number.same, source]
  case operator.operator =>
    subst hcls
    simpa [same, source] using Operator.same_iff_lexeme_eq ha hb

/-- **Writing and reading again.** What is written for a node is read again as the same node by the
routine of its class, which leaves only the end; an expression is also read again as a whole input.
So two nodes of a class are the same exactly if they are written alike. -/
theorem read_toSource {a : Node} (ha : a.Conventional) (filename : String) :
    (∃ b after, (Parser.ofString a.toSource filename).read a.cls.routine = (.ok b, after) ∧
      b.same a = true ∧ after.peek.1.kind = .eof) ∧
    (∀ t : Expression, a = .tree t →
      ∃ u, parse a.toSource filename = .ok u ∧ u.same t = true) ∧
    (∀ b : Node, b.Conventional → b.cls = a.cls →
      (a.same b = true ↔ a.toSource = b.toSource)) := by
  rw [toSource_eq_source]
  refine ⟨reads_source ha filename, ?_, ?_⟩
  · rintro t rfl
    exact Tree.parse_source ha filename
  · intro b hb hcls
    rw [toSource_eq_source]
    exact same_iff_source_eq ha hb hcls

/-- The expression `1+(1)`, as one that was not read: it has no spans. -/
def onePlusGroup : Expression :=
  let one : Term := .number ⟨"1", 1, none, rfl⟩ none
  .link (.single (.single one none) none) ⟨.plus, "+", none, rfl⟩
    (.single (.single (.single (.group (.single (.single (.single one none) none) none) none) none)
      none) none) none

theorem read_toSource_onePlusGroup :
    (Node.tree onePlusGroup).Conventional ∧
    (∃ b after, (Parser.ofString (Node.tree onePlusGroup).toSource "input").read
        (.tree (.chain .additive)) = (.ok b, after) ∧
      b.same (.tree onePlusGroup) = true ∧ after.peek.1.kind = .eof) ∧
    (∃ u, parse (Node.tree onePlusGroup).toSource "input" = .ok u ∧
      u.same onePlusGroup = true) := by
  have h : (Node.tree onePlusGroup).Conventional := ⟨trivial, rfl, trivial⟩
  obtain ⟨hread, hparse, -⟩ := read_toSource h "input"
  exact ⟨h, hread, hparse onePlusGroup rfl⟩

end Node

end ArithExpr
