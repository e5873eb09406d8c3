import ArithExpr.Parser.Cursor
import ArithExpr.Proofs.Scanning

/-!
# What a parser has ahead

The slot of a parser may hold a token that was looked at, taken or given back, and that may be white
space. For the grammar only one thing counts: the list of the tokens ahead. This module says what
the operations on the slot do to that list, so that nothing later has to look into the slot.

* `Parser.Settled` — the token in the slot is the one right in front of the lexer. Every operation
  of the parser keeps this up; an operation on the lexer behind the parser's back need not.
* `Parser.Faces` — the tokens ahead of a settled parser, and the token that reports the end.
* `Faces.peek_fst`, `Faces.peek` — looking gives the first token ahead, or the end, and changes
  nothing of what is ahead.
* `Faces.take_fst`, `Faces.take` — taking gives the same token and takes it off.
-/

namespace ArithExpr

namespace Parser

/-- Taking a token fills the slot first, as looking does. -/
theorem scan_eq_fill (parser : Parser) :
    parser.scan = (parser.fill.1, ⟨parser.fill.2, .taken parser.fill.1⟩) := by
  obtain ⟨lexer, slot⟩ := parser
  cases slot <;> rfl

/-- The token in the slot, if there is one, is the one right in front of the lexer. -/
def Settled (parser : Parser) : Prop :=
  match parser.slot with
  | .empty => True
  | .taken token | .ahead token => parser.lexer.Follows token

/-- The tokens ahead, without white space and without the end. -/
def tokensAhead (parser : Parser) : List Token :=
  match parser.slot with
  | .ahead token =>
    if token.isSignificant then token :: parser.lexer.tokensAhead else parser.lexer.tokensAhead
  | .taken _ | .empty => parser.lexer.tokensAhead

/-- The parser is settled, and it has just these tokens ahead, behind which `final` reports the
end. -/
structure Faces (parser : Parser) (tokens : List Token) (final : Token) : Prop where
  settled : parser.Settled
  tokensAhead : parser.tokensAhead = tokens
  endToken : parser.lexer.endToken = final

variable {parser : Parser} {tokens : List Token} {final : Token}

theorem Settled.faces (h : parser.Settled) :
    parser.Faces parser.tokensAhead parser.lexer.endToken :=
  ⟨h, rfl, rfl⟩

theorem settled_ofLexer (lexer : Lexer) : (ofLexer lexer).Settled :=
  trivial

theorem faces_ofLexer (lexer : Lexer) :
    (ofLexer lexer).Faces lexer.tokensAhead lexer.endToken :=
  ⟨trivial, rfl, rfl⟩

namespace Faces

theorem kind_final (h : parser.Faces tokens final) : final.kind = .eof := by
  rw [← h.endToken]
  rfl

/-- The tokens ahead count for the grammar and are spelled as their kinds say. -/
theorem spec (h : parser.Faces tokens final) :
    ∀ token ∈ tokens, token.isSignificant = true ∧ token.Spelled := by
  intro token hmem
  obtain ⟨lexer, slot⟩ := parser
  rw [← h.tokensAhead] at hmem
  cases slot with
  | empty | taken => exact lexer.tokensAhead_spec token hmem
  | ahead held =>
    have hspelled : held.Spelled := h.settled.spelled
    simp only [Parser.tokensAhead] at hmem
    -- a token that is held ahead may be white space or the end, and then does not count
    split at hmem
    · next hs =>
      rcases List.mem_cons.1 hmem with rfl | hmem
      · exact ⟨hs, hspelled⟩
      · exact lexer.tokensAhead_spec token hmem
    · exact lexer.tokensAhead_spec token hmem

/-- So are the tokens that are taken of them. -/
theorem spelled_taken (h : parser.Faces tokens final) {taken rest : List Token}
    (split : tokens = taken ++ rest) : ∀ token ∈ taken, token.Spelled := by
  intro token hmem
  exact (h.spec token (by rw [split]; exact List.mem_append_left _ hmem)).2

theorem kind_ne_eof (h : parser.Faces tokens final) {token : Token} (hmem : token ∈ tokens) :
    token.kind ≠ .eof :=
  (Token.isSignificant_iff.1 (h.spec token hmem).1).2

/-! ### Reading a token into the slot -/

/-- A token that is read from the lexer and left ahead changes nothing of what is ahead. -/
theorem read (h : parser.Faces tokens final) (hslot : ∀ token, parser.slot ≠ .ahead token) :
    Faces ⟨parser.lexer.scan.2, .ahead parser.lexer.scan.1⟩ tokens final := by
  -- what was read into the slot is what the lexer no longer has ahead
  obtain ⟨lexer, slot⟩ := parser
  refine ⟨lexer.follows_scan, ?_, (lexer.endToken_scan).trans h.endToken⟩
  rw [← h.tokensAhead]
  cases slot with
  | empty | taken => exact lexer.tokensAhead_scan.symm
  | ahead token => exact absurd rfl (hslot token)

/-- White space that is ahead may be dropped for the token behind it. -/
theorem skip {lexer : Lexer} {token : Token} (h : Faces ⟨lexer, .ahead token⟩ tokens final)
    (hspace : token.kind = .whitespace) :
    Faces ⟨lexer.scan.2, .ahead lexer.scan.1⟩ tokens final := by
  -- white space does not count, so it may as well have been taken
  have htaken : Faces ⟨lexer, .taken token⟩ tokens final := by
    refine ⟨h.settled, ?_, h.endToken⟩
    rw [← h.tokensAhead]
    simp [Parser.tokensAhead, Token.isSignificant, hspace]
  exact htaken.read (by simp)

theorem eq_headD {lexer : Lexer} {token : Token} (h : Faces ⟨lexer, .ahead token⟩ tokens final)
    (hspace : token.kind ≠ .whitespace) : token = tokens.headD final := by
  rw [← h.tokensAhead, ← h.endToken]
  -- a token is the first one ahead, and the end is there if nothing is
  by_cases he : token.kind = .eof
  · obtain ⟨hrest, htoken⟩ := h.settled.last he
    simp only [Parser.tokensAhead, Token.isSignificant, he]
    rw [Lexer.tokensAhead_of_rest_nil hrest]
    exact htoken
  · simp [Parser.tokensAhead, Token.isSignificant, hspace, he]

theorem taken {lexer : Lexer} {token : Token} (h : Faces ⟨lexer, .ahead token⟩ tokens final)
    (hspace : token.kind ≠ .whitespace) : Faces ⟨lexer, .taken token⟩ tokens.tail final := by
  refine ⟨h.settled, ?_, h.endToken⟩
  rw [← h.tokensAhead]
  -- the end is not among the tokens, so taking it takes none of them
  by_cases he : token.kind = .eof
  · simp [Parser.tokensAhead, Token.isSignificant, he,
      Lexer.tokensAhead_of_rest_nil (h.settled.last he).1]
  · simp [Parser.tokensAhead, Token.isSignificant, hspace, he]

/-! ### Looking and taking -/

theorem fill (h : parser.Faces tokens final) :
    Faces ⟨parser.fill.2, .ahead parser.fill.1⟩ tokens final := by
  obtain ⟨lexer, slot⟩ := parser
  cases slot with
  | ahead token => exact h
  | empty | taken => exact h.read (by simp)

/-- Looking leaves a token ahead that is not white space, and what is ahead as it is. -/
theorem peek_spec (h : parser.Faces tokens final) :
    parser.peek.2.Faces tokens final ∧ parser.peek.1.kind ≠ .whitespace := by
  have hfill := h.fill
  unfold peek Token.isWhitespace
  dsimp only
  split
  · -- white space is passed over, and what the lexer gives next is none
    next hspace =>
    rw [decide_eq_true_eq] at hspace
    exact ⟨hfill.skip hspace, hfill.settled.maximal hspace⟩
  · next hspace =>
    rw [decide_eq_true_eq] at hspace
    exact ⟨hfill, hspace⟩

/-- **Looking changes nothing** of what is ahead. -/
theorem peek (h : parser.Faces tokens final) : parser.peek.2.Faces tokens final :=
  h.peek_spec.1

/-- **Looking gives the first token ahead**, or the end. -/
theorem peek_fst (h : parser.Faces tokens final) : parser.peek.1 = tokens.headD final := by
  obtain ⟨hfaces, hspace⟩ := h.peek_spec
  have hslot := parser.slot_peek
  generalize parser.peek.2 = after at hfaces hslot
  obtain ⟨lexer, slot⟩ := after
  -- looking has put the token into the slot, where it is the first one ahead
  obtain rfl : slot = .ahead parser.peek.1 := hslot
  exact hfaces.eq_headD hspace

theorem take_spec (h : parser.Faces tokens final) :
    parser.scanIgnoringSpace.1 = tokens.headD final ∧
      parser.scanIgnoringSpace.2.Faces tokens.tail final := by
  have hfill := h.fill
  unfold scanIgnoringSpace
  rw [scan_eq_fill]
  by_cases hspace : parser.fill.1.kind = .whitespace
  · -- white space was in the slot, and the token behind it comes from the lexer
    have hnext := hfill.settled.maximal hspace
    simp only [Token.isWhitespace, hspace, decide_true, if_true]
    exact ⟨(hfill.skip hspace).eq_headD hnext, (hfill.skip hspace).taken hnext⟩
  · simp only [Token.isWhitespace, hspace, decide_false, Bool.false_eq_true, if_false]
    exact ⟨hfill.eq_headD hspace, hfill.taken hspace⟩

/-- **Taking gives the first token ahead.** -/
theorem take_fst {token : Token} (h : parser.Faces (token :: tokens) final) :
    parser.scanIgnoringSpace.1 = token :=
  h.take_spec.1

/-- **Taking takes the first token off.** -/
theorem take {token : Token} (h : parser.Faces (token :: tokens) final) :
    parser.scanIgnoringSpace.2.Faces tokens final :=
  h.take_spec.2

end Faces

/-! ### Settled parsers -/

theorem peek_ahead {lexer : Lexer} {token : Token} (h : token.kind ≠ .whitespace) :
    peek ⟨lexer, .ahead token⟩ = (token, ⟨lexer, .ahead token⟩) := by
  simp [peek, fill, Token.isWhitespace, h]

/-- To look again, where no white space was seen, sees the same and changes nothing more. -/
theorem peek_peek_of_ne (h : parser.peek.1.kind ≠ .whitespace) :
    parser.peek.2.peek = parser.peek := by
  have hslot := parser.slot_peek
  generalize parser.peek = seen at h hslot ⊢
  obtain ⟨token, lexer, slot⟩ := seen
  obtain rfl : slot = .ahead token := hslot
  exact peek_ahead h

/-- A token that was seen ahead and is no white space is the one that is taken. -/
theorem scanIgnoringSpace_peek_fst {parser : Parser} (h : parser.peek.1.kind ≠ .whitespace) :
    parser.peek.2.scanIgnoringSpace.1 = parser.peek.1 := by
  rw [scanIgnoringSpace_of_ahead parser.slot_peek (by simp [Token.isWhitespace, h])]

/-- Looking twice sees the same and changes nothing more. -/
theorem Settled.peek_peek (h : parser.Settled) : parser.peek.2.peek = parser.peek :=
  peek_peek_of_ne h.faces.peek_spec.2

theorem Settled.peek (h : parser.Settled) : parser.peek.2.Settled :=
  h.faces.peek.settled

theorem Settled.scanIgnoringSpace (h : parser.Settled) : parser.scanIgnoringSpace.2.Settled :=
  h.faces.take_spec.2.settled

theorem Settled.scan (h : parser.Settled) : parser.scan.2.Settled := by
  obtain ⟨lexer, slot⟩ := parser
  cases slot with
  | ahead token => exact h
  | empty | taken => exact lexer.follows_scan

theorem Settled.unscan (h : parser.Settled) : parser.unscan.Settled := by
  obtain ⟨lexer, slot⟩ := parser
  cases slot <;> exact h

end Parser

end ArithExpr
