import ArithExpr.Proofs.DescentOutcome
import ArithExpr.Proofs.RoundTrip

/-!
# Texts that are read to their end

A text is read to its end as a tree of some level if the routine of the level returns the tree and
nothing is left of the text but white space (`Tree.ReadFrom`). Then the tree has just the tokens of
the text, and the tokens say all there is to it: the phrase, because the grammar is unambiguous, and
the spans, because they are places of tokens. So the parser need not be run to know what is read.

* `Tree.Located.unique` — tokens determine the tree that is located at them, spans included.
* `Tree.readFrom_iff_located` — a tree is read from a text exactly if it is located at the tokens of
  the text.
* `Tree.exists_readFrom_iff` — a tree is read from it, but for spans, exactly if its phrase is
  derived into the tokens.
-/

namespace ArithExpr

open Grammar

/-! ### Tokens determine a tree -/

/-- A number is determined by its text, but for its span. -/
theorem Number.ext_text {a b : Number} (htext : a.text = b.text) (hspan : a.span = b.span) :
    a = b := by
  obtain ⟨text, value, span, denotes⟩ := a
  obtain ⟨_, value', _, denotes'⟩ := b
  dsimp only at htext hspan
  subst htext hspan
  -- both texts denote both values
  obtain rfl : value = value' := Except.ok.inj (denotes.symm.trans denotes')
  rfl

/-- An operator is determined by the token that it stands for. -/
theorem Operator.ext_token {p : Precedence} {a b : Operator p} {token : Token}
    (kind : token.kind = .operator a.symbol) (lexeme : token.lexeme = a.lexeme)
    (span : a.span = some (.point token.location)) (kind' : token.kind = .operator b.symbol)
    (lexeme' : token.lexeme = b.lexeme) (span' : b.span = some (.point token.location)) :
    a = b := by
  obtain ⟨symbol, _, _, _⟩ := a
  obtain ⟨symbol', _, _, _⟩ := b
  dsimp only at kind lexeme span kind' lexeme' span'
  obtain rfl : symbol = symbol' := TokenKind.operator.inj (kind.symm.trans kind')
  subst lexeme lexeme' span span'
  rfl

/-- An operator does not carry on the operands of its class. -/
theorem Operator.not_continuedBy {p : Precedence} (op : Operator p) :
    p.operand.continuedBy (.operator op.symbol) = false := by
  obtain ⟨symbol, _, _, rfl⟩ := op
  exact Level.continuedBy_own

namespace Tree

/-- **Tokens determine the tree** that is located at them. -/
theorem Located.unique {l : Level} {tokens tokens' : List Token} {t u : Tree l}
    (h : t.Located tokens) (h' : u.Located tokens') (heq : tokens = tokens') : t = u := by
  -- the two are of one phrase, so they are made by the same rule
  have hphrase : t.phrase = u.phrase := h.derives.unique_whole (heq ▸ h'.derives)
  induction h generalizing tokens' with
  | number written span =>
    cases h' with
    | number _ span' =>
      obtain rfl := Number.ext_text (Phrase.number.inj hphrase)
        -- the spans of the numbers are those of the same tokens
        (span.trans (heq ▸ span'.symm))
      rfl
    | group => simp [phrase] at hphrase
  | group _ _ _ ih =>
    cases h' with
    | number => simp [phrase] at hphrase
    | group _ content' =>
      -- the parentheses are the first and the last token, so the contents are at the same ones
      obtain ⟨hcontent, hclosing⟩ := List.append_inj' heq rfl
      obtain ⟨rfl, rfl⟩ := List.cons.inj hcontent
      obtain rfl := List.singleton_inj.1 hclosing
      rw [ih content' rfl (Phrase.group.inj hphrase)]
  | single _ ih =>
    cases h' with
    | single only' => rw [ih only' heq (Phrase.single.inj hphrase)]
    | link => simp [phrase, ofOperand, cons] at hphrase
  | @link p left right token operand op rest first kind lexeme span _ ih ih' =>
    cases h' with
    | single => simp [phrase, ofOperand, cons] at hphrase
    | @link _ left' right' token' operand' op' rest' first' kind' lexeme' span' further' =>
      -- the operator of a link ends the operand before it
      have hown : ∀ {token : Token} {op : Operator p} {behind : List Token},
          token.kind = .operator op.symbol →
            ∀ next ∈ (token :: behind).head?, p.operand.continuedBy next.kind = false := by
        intro token op behind hkind next hnext
        obtain rfl := Option.some.inj hnext
        rw [hkind]
        exact op.not_continuedBy
      obtain ⟨rfl, hoperand⟩ := first.derives.unique first'.derives heq (hown kind) (hown kind')
      obtain ⟨rfl, rfl⟩ := List.cons.inj (List.append_cancel_left heq)
      rw [ih first' rfl hoperand, ih' further' rfl (Phrase.link.inj hphrase).2.2.2,
        Operator.ext_token kind lexeme span kind' lexeme' span']

/-! ### Reading a text to its end -/

/-- **The tree is read from the text**: the routine of its level returns it, and nothing is left of
the text but white space. -/
def ReadFrom {l : Level} (t : Tree l) (text filename : String) : Prop :=
  ∃ after, (Parser.ofString text filename).parseTree l = (.ok t, after) ∧
    after.peek.1.kind = .eof

variable {l : Level} {t u : Tree l} {text filename : String}

/-- Whether a text is read to its end is seen by running the routine. -/
instance : Decidable (∃ t : Tree l, t.ReadFrom text filename) :=
  decidable_of_iff
    (((Parser.ofString text filename).parseTree l).1.isOk = true ∧
      ((Parser.ofString text filename).parseTree l).2.peek.1.kind = .eof) <| by
    unfold ReadFrom
    -- an outcome without a fault is a tree, and the only one
    rcases (Parser.ofString text filename).parseTree l with ⟨_ | t, after⟩
    · simp [Except.isOk, Except.toBool]
    · constructor
      · rintro ⟨-, hend⟩
        exact ⟨t, after, rfl, hend⟩
      · rintro ⟨_, _, hread, hend⟩
        obtain ⟨-, rfl⟩ := Prod.mk.inj hread
        exact ⟨rfl, hend⟩

theorem ReadFrom.located (h : t.ReadFrom text filename) :
    t.Located (significantTokens text filename) := by
  obtain ⟨after, hread, hend⟩ := h
  have houtcome := Parser.outcome_parseTree l (Parser.faces_ofString text filename)
  rw [hread, Parser.withoutBuilt_ok] at houtcome
  cases houtcome with
  | @read taken rest _ _ split located _ faces =>
    rw [faces.peek_fst] at hend
    -- behind the tree there is nothing, since what is there would be no end
    cases rest with
    | nil => rwa [split, List.append_nil]
    | cons next rest => exact absurd hend (faces.kind_ne_eof List.mem_cons_self)

/-- What is derived is read, as a tree of the same phrase. -/
theorem exists_readFrom_of_derives {phrase : Phrase l}
    (h : Derives (significantTokens text filename) phrase) (hreadable : phrase.Readable) :
    ∃ t : Tree l, t.ReadFrom text filename ∧ t.phrase = phrase := by
  have hfaces := Parser.faces_ofString text filename
  rw [← List.append_nil (significantTokens text filename)] at hfaces
  obtain ⟨t, after, hread, hphrase, hafter⟩ :=
    Parser.reads_of_derives h hreadable hfaces (by simp)
  exact ⟨t, ⟨after, hread, hafter.kind_peek_of_nil⟩, hphrase⟩

/-- **A tree is read from a text** exactly if it is located at its tokens. -/
theorem readFrom_iff_located :
    t.ReadFrom text filename ↔ t.Located (significantTokens text filename) := by
  refine ⟨ReadFrom.located, fun h => ?_⟩
  -- a tree of the same phrase is read, and it is located at the same tokens
  obtain ⟨u, hread, -⟩ := exists_readFrom_of_derives h.derives t.readable_phrase
  rwa [h.unique hread.located rfl]

/-- **But for its spans, a tree is read from a text** exactly if its phrase is derived into the
tokens. -/
theorem exists_readFrom_iff :
    (∃ u : Tree l, u.ReadFrom text filename ∧ u.same t = true) ↔
      Derives (significantTokens text filename) t.phrase := by
  constructor
  · rintro ⟨u, hread, hsame⟩
    rw [← same_iff_phrase_eq.1 hsame]
    exact hread.located.derives
  · intro h
    obtain ⟨u, hread, hphrase⟩ := exists_readFrom_of_derives h t.readable_phrase
    exact ⟨u, hread, same_iff_phrase_eq.2 hphrase⟩

end Tree

end ArithExpr
