import ArithExpr.Proofs.DescentAgreement
import ArithExpr.Proofs.Literals
import ArithExpr.Proofs.Unambiguity
import ArithExpr.Source

/-!
# The parser and the grammar

The parser reads a text exactly if the grammar derives its tokens, and what it returns is the
derivation (`parse_iff_derives`). Soundness comes from the invariant of the stack
(`Parser.derives_of_parse`), completeness from recursive descent (`Parser.parse_of_derives`), and
the grammar is unambiguous by itself (`Grammar.Derives.unique`).

`Parser.reads_of_derives`: if the tokens ahead begin with tokens that the grammar derives from a
phrase, if no number in the phrase has too many digits, and if what comes behind these tokens does
not carry the phrase on, then the parser returns a tree of the phrase and has taken just these
tokens.

The proof is an induction on the derivation and is about recursive descent, which calls itself as
the grammar does. At each token that recursive descent looks at, the derivation says what it is: the
beginning of a term, an operator of the class of the chain, or the token behind the chain, which is
no such operator.
-/

namespace ArithExpr

open Grammar

namespace Parser.Faces

variable {parser : Parser} {tokens : List Token} {final : Token}

/-- What holds of the end and of the first token ahead, if there is one, holds of what is seen. -/
theorem kind_next (h : parser.Faces tokens final) {P : TokenKind → Prop} (hend : P .eof)
    (htokens : ∀ next ∈ tokens.head?, P next.kind) : P (tokens.headD final).kind := by
  cases tokens with
  | nil => rwa [List.headD_nil, h.kind_final]
  | cons token tokens => exact htokens token rfl

end Parser.Faces

/-! ### Numbers -/

namespace Parser

variable {parser : Parser} {rest : List Token} {final : Token}

/-- A literal that is ahead is read as a number, or refused if it has too many digits. -/
theorem parseNumber_literal {literal : List Token} {text : String}
    (hlit : Literal literal text) (h : parser.Faces (literal ++ rest) final)
    (hend : ∀ next ∈ rest.head?, next.kind ≠ .dot) :
    (∃ a after, parser.parseNumber = (.ok a, after) ∧ a.text = text ∧ after.Faces rest final) ∨
      ∃ fault after, parser.parseNumber = (.error fault, after) ∧ digitLimit < digitsIn text := by
  obtain ⟨digits, more, hsplit, hk⟩ := hlit.head
  have hspell : ∀ token ∈ literal, token.Spelled := fun token hmem =>
    (h.spec token (List.mem_append_left _ hmem)).2
  -- whatever literal was read, it is this one
  have hsame : ∀ {literal' rest' : List Token} {text' : String} {after : Parser},
      literal ++ rest = literal' ++ rest' → Literal literal' text' →
      (literal'.length = 1 → (rest'.headD final).kind ≠ .dot) →
      after.Faces rest' final → literal = literal' ∧ text = text' ∧ after.Faces rest final := by
    intro literal' rest' text' after heq hlit' hwhole hfaces
    -- a point behind the literal would be behind both
    obtain ⟨rfl, rfl⟩ := hlit.unique hlit' heq (fun _ => hend) fun hone next hnext => by
      rw [Option.mem_def] at hnext
      simpa [List.headD_eq_head?_getD, hnext] using hwhole hone
    obtain rfl := List.append_cancel_left heq
    exact ⟨rfl, rfl, hfaces⟩
  -- there are digits ahead, so reading the number comes to one of three things
  rw [hsplit, List.cons_append] at h
  have hread := numberRead_parseNumber h hk
  rw [← List.cons_append, ← hsplit] at hread
  generalize parser.parseNumber = result at hread
  cases hread with
  | @number literal' rest' _ _ a after split written _ _ _ whole faces =>
    obtain ⟨-, rfl, hfaces⟩ := hsame split written whole faces
    exact .inl ⟨a, after, rfl, rfl, hfaces⟩
  | @noFraction integral point rest' after split kind pointKind refused faces =>
    -- the literal would have to stop at the point, or to have digits behind it
    exfalso
    cases hlit with
    | whole =>
      obtain ⟨-, rfl⟩ := List.cons.inj split
      exact hend point rfl pointKind
    | fraction _ _ fractionalKind =>
      simp only [List.cons_append, List.nil_append, List.cons.injEq] at split
      obtain ⟨-, -, rfl⟩ := split
      exact refused fractionalKind
  | @noValue literal' rest' first text' reason after split written _ refused whole faces =>
    obtain ⟨-, rfl, -⟩ := hsame split written whole faces
    -- a written literal has a value unless it has too many digits
    refine .inr ⟨_, after, rfl, ?_⟩
    by_contra hle
    obtain ⟨value, hvalue⟩ := (decimalValue_written (hlit.written hspell)).1 (by omega)
    rw [hvalue] at refused
    simp at refused

end Parser

/-! ### Operators -/

namespace Operator

theorem exists_ofToken? {p : Precedence} {token : Token} {symbol : OperatorSymbol}
    (hk : token.kind = .operator symbol) (belongs : symbol.precedence = p) (hs : token.Spelled) :
    ∃ op, ofToken? p token = some op ∧ op.symbol = symbol ∧ op.lexeme = token.lexeme := by
  refine ⟨⟨symbol, token.lexeme, some (.point token.location), belongs⟩, ?_, rfl, rfl⟩
  have hlexeme : token.lexeme ≠ "" := by
    rw [hs.operator hk]
    simp
  -- the kind has a symbol, of this class, and what was read is not empty
  simp [ofToken?, hk, TokenKind.symbol?, ofSymbol?, belongs, hlexeme]

theorem ofToken?_eq_none {p : Precedence} {token : Token}
    (h : (Level.chain p).continuedBy token.kind = false) : ofToken? p token = none := by
  unfold ofToken?
  cases hk : token.kind <;> simp only [TokenKind.symbol?]
  -- only an operator could be one of the class, and that would carry the chain on
  next symbol =>
    unfold ofSymbol?
    rw [dif_neg]
    rintro rfl
    rw [hk, Level.continuedBy_chain] at h
    simp at h

end Operator

/-! ### Trees -/

namespace Descent

/-- If there is something ahead, it does not matter what a chain would say if there were not. -/
theorem parseChain_congr {p : Precedence} {parser : Parser} (hk : parser.peek.1.kind ≠ .eof)
    (expected expected' : Expectation) :
    parseChain p expected parser = parseChain p expected' parser := by
  rw [parseChain_eq, parseChain_eq, if_neg hk, if_neg hk]

/-- **Recursive descent is complete.** What the grammar derives is read, and nothing behind it. -/
theorem reads_of_derives {l : Level} {tokens rest : List Token} {phrase : Phrase l}
    {parser : Parser} {final : Token} (h : Derives tokens phrase) (hread : phrase.Readable)
    (hp : parser.Faces (tokens ++ rest) final)
    (hend : ∀ next ∈ rest.head?, l.continuedBy next.kind = false) :
    ∃ t after, parseTree l parser = (.ok t, after) ∧ t.phrase = phrase ∧
      after.Faces rest final := by
  -- by induction on the derivation, whose rules are the rules of recursive descent
  induction h generalizing rest parser with
  | @number literal text hlit =>
    obtain ⟨digits, more, rfl, hk⟩ := hlit.head
    -- a point would carry the term on
    have hpoint : ∀ next ∈ rest.head?, next.kind ≠ .dot := by
      intro next hnext hdot
      simpa [hdot, Level.continuedBy] using hend next hnext
    have hle : digitsIn text ≤ digitLimit := hread text (by simp [Phrase.literals])
    have hseen : parser.peek.1 = digits := hp.peek_fst
    rw [parseTree_term, hseen, if_neg (by simp [hk]), if_pos hk]
    rcases Parser.parseNumber_literal hlit hp.peek hpoint with
      ⟨a, after, ha, rfl, hafter⟩ | ⟨_, _, -, hlt⟩
    · rw [ha]
      exact ⟨_, after, rfl, rfl, hafter⟩
    -- the phrase is readable, so its literal is not refused
    · omega
  | @group opening closing content inner openingKind _ closingKind ih =>
    have hp : parser.Faces (opening :: (content ++ closing :: rest)) final := by
      simpa using hp
    have hseen : parser.peek.1 = opening := hp.peek_fst
    obtain ⟨t, after, ht, rfl, hafter⟩ := ih hread hp.peek.take
      (by simp [closingKind, Level.continuedBy])
    -- the content was read up to the closing parenthesis, which does not carry it on
    have hclosing : after.peek.1 = closing := hafter.peek_fst
    rw [parseTree_chain] at ht
    rw [parseTree_term, hseen, if_pos openingKind]
    dsimp only
    rw [ht]
    dsimp only
    rw [hclosing, if_pos closingKind]
    exact ⟨_, _, rfl, rfl, hafter.peek.take⟩
  | @single p content operand only ih =>
    obtain ⟨token, more, rfl, hk⟩ := only.head
    have hseen : parser.peek.1 = token := hp.peek_fst
    obtain ⟨t, after, ht, rfl, hafter⟩ := ih hread hp.peek
      (fun next hn => Level.continuedBy_operand (hend next hn))
    -- what follows the only operand is no operator of the class
    have hnone : Operator.ofToken? p after.peek.1 = none := by
      apply Operator.ofToken?_eq_none
      rw [hafter.peek_fst]
      exact hafter.kind_next (P := fun kind => (Level.chain p).continuedBy kind = false) rfl hend
    rw [parseTree_chain, parseChain_eq, hseen, if_neg (by rcases hk with hk | hk <;> simp [hk]), ht]
    dsimp only
    rw [parseRest, hnone]
    exact ⟨_, _, rfl, rfl, hafter.peek⟩
  | @link p left right token symbol operand further first kind belongs derives ih ih' =>
    obtain ⟨begin, more, rfl, hk⟩ := first.head
    obtain ⟨begin', more', rfl, hk'⟩ := derives.head
    rw [List.append_assoc, List.cons_append] at hp
    have hseen : parser.peek.1 = begin := hp.peek_fst
    obtain ⟨t, after, ht, rfl, hafter⟩ := ih (fun text hm => hread text (by
      rw [Phrase.literals]
      exact List.mem_append_left _ hm)) hp.peek (by simp [kind, ← belongs, Level.continuedBy_own])
    -- behind the first operand there is the operator of the link
    have hoperator : after.peek.1 = token := hafter.peek_fst
    obtain ⟨op, hop, hsymbol, hlexeme⟩ :=
      Operator.exists_ofToken? kind belongs (hafter.spec token (by simp)).2
    have hbehind := hafter.peek.take
    obtain ⟨u, final', hu, rfl, hfinal⟩ := ih' (fun text hm => hread text (by
      rw [Phrase.literals]
      exact List.mem_append_right _ hm)) hbehind hend
    -- the further chain is not at its end, so it does not matter what it would ask for there
    have hfirst : after.peek.2.scanIgnoringSpace.2.peek.1 = begin' := hbehind.peek_fst
    rw [parseTree_chain, parseChain_congr (by
      rw [hfirst]
      rcases hk' with hk | hk <;> simp [hk]) _ (.operandAfter op.lexeme)] at hu
    rw [parseTree_chain, parseChain_eq, hseen, if_neg (by rcases hk with hk | hk <;> simp [hk]), ht]
    dsimp only
    rw [parseRest, hoperator, hop]
    dsimp only
    rw [hu]
    exact ⟨_, _, rfl, by simp [Tree.cons, Tree.phrase, hsymbol, hlexeme], hfinal⟩

end Descent

namespace Parser

variable {parser : Parser} {rest : List Token} {final : Token}

/-- **The parser is complete.** What the grammar derives is read, and nothing behind it, if none of
its numbers has too many digits. -/
theorem reads_of_derives {l : Level} {tokens : List Token} {phrase : Phrase l}
    (h : Derives tokens phrase) (hread : phrase.Readable)
    (hp : parser.Faces (tokens ++ rest) final)
    (hend : ∀ next ∈ rest.head?, l.continuedBy next.kind = false) :
    ∃ t after, parser.parseTree l = (.ok t, after) ∧ t.phrase = phrase ∧
      after.Faces rest final := by
  obtain ⟨t, after, ht, hphrase, hafter⟩ := Descent.reads_of_derives h hread hp hend
  exact ⟨t, after, parseTree_of_descent hp.settled ht, hphrase, hafter⟩

theorem parse_of_derives {tokens : List Token} {phrase : Phrase (.chain .additive)}
    (h : Derives tokens phrase) (hread : phrase.Readable) (hp : parser.Faces tokens final) :
    ∃ t after, parser.parse = (.ok t, after) ∧ t.phrase = phrase ∧ after.Faces [] final := by
  have hp : parser.Faces (tokens ++ []) final := by rwa [List.append_nil]
  obtain ⟨t, after, ht, hphrase, hafter⟩ := reads_of_derives h hread hp (by simp)
  have hseen : after.peek.1 = final := hafter.peek_fst
  refine ⟨t, after.peek.2, ?_, hphrase, hafter.peek⟩
  unfold parse
  rw [ht]
  dsimp only
  rw [hseen, if_pos hafter.kind_final]

/-- **The parser is sound.** A whole input that is read is derived from what the tree says. -/
theorem derives_of_parse {tokens : List Token} {t : Expression} {after : Parser}
    (h : parser.parse = (.ok t, after)) (hp : parser.Faces tokens final) :
    Derives tokens t.phrase := by
  -- what was taken is the phrase of the tree, and it remains to see that nothing was left
  obtain ⟨taken, rest, rfl, hfaces, haccounted⟩ := accounts_parseTree (.chain .additive) hp
  unfold parse at h
  split at h
  · simp at h
  · next u final' htree =>
    rw [htree] at hfaces haccounted
    dsimp only at h hfaces
    rw [hfaces.peek_fst] at h
    split at h
    · next hk =>
      obtain rfl := Except.ok.inj (Prod.mk.inj h).1
      -- only the end is of the kind of the end
      cases rest with
      | nil =>
        rw [List.append_nil]
        exact haccounted
      | cons token rest => exact absurd hk (hfaces.kind_ne_eof (by simp))
    · simp at h

end Parser

/-! ### Whole texts -/

/-- The tokens of a text, without white space and without the end. -/
def significantTokens (text filename : String) : List Token :=
  (tokenize text filename).filter Token.isSignificant

theorem Parser.faces_ofString (text filename : String) :
    (ofString text filename).Faces (significantTokens text filename)
      (Lexer.ofString text filename).endToken :=
  faces_ofLexer _

theorem Grammar.Derives.unique_whole {l : Level} {tokens : List Token} {phrase phrase' : Phrase l}
    (h : Derives tokens phrase) (h' : Derives tokens phrase') : phrase = phrase' :=
  -- nothing is behind the tokens that could carry either phrase on
  (h.unique h' (show tokens ++ [] = tokens ++ [] from rfl) (by simp) (by simp)).2

/-- **The parser decides the grammar.** A text is read exactly if its tokens are derived from a
phrase none of whose numbers has too many digits. The tree that is returned is of that phrase, there
is no other phrase, and every other text is refused. -/
theorem parse_iff_derives (text filename : String) :
    ((∃ t, parse text filename = .ok t) ↔
      ∃ phrase : Phrase (.chain .additive),
        Derives (significantTokens text filename) phrase ∧ phrase.Readable) ∧
    (∀ t, parse text filename = .ok t →
      Derives (significantTokens text filename) t.phrase ∧ t.phrase.Readable) ∧
    (∀ phrase phrase' : Phrase (.chain .additive),
      Derives (significantTokens text filename) phrase →
      Derives (significantTokens text filename) phrase' → phrase = phrase') ∧
    ((¬ ∃ phrase : Phrase (.chain .additive),
        Derives (significantTokens text filename) phrase ∧ phrase.Readable) →
      ∃ error, parse text filename = .error error) := by
  have hfaces := Parser.faces_ofString text filename
  -- what the parser returns is a derivation, and its numbers have values
  have hsound : ∀ t, parse text filename = .ok t →
      Derives (significantTokens text filename) t.phrase ∧ t.phrase.Readable := by
    intro t ht
    exact ⟨Parser.derives_of_parse (Prod.ext ht rfl) hfaces, t.readable_phrase⟩
  -- a derivation is read, since the tree is not carried on by the end
  have hcomplete : ∀ phrase : Phrase (.chain .additive),
      Derives (significantTokens text filename) phrase → phrase.Readable →
      ∃ t, parse text filename = .ok t := by
    intro phrase hderives hreadable
    obtain ⟨t, after, ht, -, -⟩ := Parser.parse_of_derives hderives hreadable hfaces
    exact ⟨t, congrArg Prod.fst ht⟩
  refine ⟨⟨?_, ?_⟩, hsound, fun _ _ h h' => h.unique_whole h', ?_⟩
  · rintro ⟨t, ht⟩
    exact ⟨t.phrase, hsound t ht⟩
  · rintro ⟨phrase, hderives, hreadable⟩
    exact hcomplete phrase hderives hreadable
  · -- without a derivation it cannot have been read, and there is no third outcome
    intro hnone
    cases hparse : parse text filename with
    | ok t => exact absurd ⟨t.phrase, hsound t hparse⟩ hnone
    | error error => exact ⟨error, rfl⟩

end ArithExpr
