import ArithExpr.Proofs.Beginnings
import ArithExpr.Proofs.Correctness
import ArithExpr.Proofs.LocatedTrees

/-!
# What reading a tree comes to

Recursive descent calls itself as the grammar does, so what it comes to is read off the grammar,
too. Either it returns a tree that is located at the tokens taken, and the next token does not carry
this tree on; or it is refused behind an unfinished phrase. `Descent.Outcome` says both, and
`Descent.outcome_parseTree` is the induction along the calls. The stack machine comes to the same
(`Parser.outcome_parseTree`), and a whole input adds one case: something is behind the expression
(`Parser.WholeOutcome`). A text is read as a whole input (`outcome_text`).
-/

namespace ArithExpr

open Grammar

/-! ### Where a tree ends -/

/-- A token of the kind does not carry on a tree of the level that was read from the tokens. -/
structure Level.EndedBy (level : Level) (tokens : List Token) (kind : TokenKind) : Prop where
  operator : kind ≠ .dot → level.continuedBy kind = false
  /-- A number that has its point already gets no other. -/
  point : Phase.run? .operand tokens = some .integral → kind ≠ .dot

namespace Level.EndedBy

variable {p : Precedence} {tokens : List Token} {kind : TokenKind}

/-- What ends an operand ends the chain if it is no operator of its class. -/
theorem chain (h : p.operand.EndedBy tokens kind)
    (hown : ∀ symbol, kind = .operator symbol → symbol.precedence ≠ p) :
    (Level.chain p).EndedBy tokens kind := by
  refine ⟨fun hdot => ?_, h.point⟩
  have hoperand := h.operator hdot
  cases kind with
  | dot => exact absurd rfl hdot
  -- an operator that carries the chain on but not its operand is of the class itself
  | operator symbol =>
    have hne := hown symbol rfl
    cases p <;> cases hs : symbol.precedence <;>
      simp_all [continuedBy, height]
  | _ => rfl

/-- Nothing but an operator or a point carries a term on. -/
theorem term (hpoint : Phase.run? .operand tokens = some .integral → kind ≠ .dot) :
    Level.term.EndedBy tokens kind := by
  refine ⟨fun hdot => ?_, hpoint⟩
  cases kind with
  | dot => exact absurd rfl hdot
  | operator symbol => cases hs : symbol.precedence <;> simp [continuedBy, hs, height]
  | _ => rfl

/-- Behind a whole expression comes no operator at all. -/
theorem not_operator (h : (Level.chain .additive).EndedBy tokens kind) (symbol : OperatorSymbol) :
    kind ≠ .operator symbol := by
  rintro rfl
  have hoperator := h.operator (by simp)
  -- the chain is of the level that every class of operators carries on
  cases hs : symbol.precedence <;> simp [continuedBy, hs, height] at hoperator

end Level.EndedBy

namespace Descent

/-- **What a call of recursive descent comes to**, by the tokens ahead: a tree that is located at
the first of them, or a refusal. -/
inductive Outcome (level : Level) (tokens : List Token) (final : Token) :
    Except Fault (Tree level) × Parser → Prop where
  | read {taken rest : List Token} {t : Tree level} {after : Parser}
      (split : tokens = taken ++ rest) (located : t.Located taken)
      (ended : level.EndedBy taken (rest.headD final).kind) (faces : after.Faces rest final) :
      Outcome level tokens final (.ok t, after)
  | refused {taken rest : List Token} {fault : Fault} {after : Parser}
      (split : tokens = taken ++ rest) (refused : Refused level (rest.headD final) taken fault)
      (faces : after.Faces rest final) : Outcome level tokens final (.error fault, after)

end Descent

theorem Operator.span_ofToken? {p : Precedence} {token : Token} {op : Operator p}
    (h : ofToken? p token = some op) : op.span = some (.point token.location) := by
  unfold ofToken? at h
  cases hk : token.kind.symbol? with
  | none => simp [hk] at h
  | some symbol =>
    simp only [hk, ofSymbol?] at h
    split at h
    · obtain rfl := Option.some.inj h
      rfl
    · simp at h

theorem Operator.precedence_of_ofToken? {p : Precedence} {token : Token} {symbol : OperatorSymbol}
    (h : ofToken? p token = none) (hk : token.kind = .operator symbol) : symbol.precedence ≠ p := by
  rintro rfl
  -- an operator of the class would have been found
  simp [ofToken?, hk, TokenKind.symbol?, ofSymbol?] at h

namespace Descent

/-! ### Numbers -/

theorem outcome_number {parser : Parser} {tokens : List Token} {final digits : Token}
    (h : parser.Faces (digits :: tokens) final) (hk : digits.kind = .digits) :
    Outcome .term (digits :: tokens) final
      (match parser.parseNumber with
      | (.ok a, after) => (.ok (.number a a.span), after)
      | (.error fault, after) => (.error fault, after)) := by
  have hread := Parser.numberRead_parseNumber h hk
  generalize parser.parseNumber = result at hread
  cases hread with
  | @number literal rest first last a after split written head getLast span whole faces =>
    refine .read split (.number written ?_) (.term ?_) faces
    · rw [span, Token.spanOf?, head, getLast]
    · -- only a number without a point may be carried on by one
      intro hrun
      obtain ⟨phase, hphase, -, hone⟩ := written.run?
      rw [hphase] at hrun
      exact whole (hone (Option.some.inj hrun))
  -- the point was taken, so the refusal comes behind it
  | noFraction split kind pointKind refused faces =>
    exact .refused split (.fraction (awaits_nothing .term) kind pointKind refused) faces
  | @noValue literal rest first text reason after split written head refused whole faces =>
    refine .refused split (.literal (awaits_nothing .term) written head whole ?_) faces
    -- a written literal is refused for the number of its digits only
    by_contra hle
    obtain ⟨value, hvalue⟩ :=
      (decimalValue_written (written.written (h.spelled_taken split))).1 (Nat.le_of_not_lt hle)
    rw [hvalue] at refused
    simp at refused

/-! ### Parts and wholes -/

variable {tokens : List Token} {final : Token}

/-- A chain with an operand that is refused is refused. -/
theorem Outcome.first {p : Precedence} {taken rest : List Token} {fault : Fault} {after : Parser}
    (split : tokens = taken ++ rest) (refused : Refused p.operand (rest.headD final) taken fault)
    (faces : after.Faces rest final) : Outcome (.chain p) tokens final (.error fault, after) := by
  -- what begins an operand begins the chain
  have hchain : Refused (.chain p) (rest.headD final) ([] ++ taken) fault :=
    refused.lift fun before n hawaits => ⟨n, .first hawaits⟩
  exact .refused split hchain faces

/-- An operand, an operator and what reading the rest of the chain comes to. -/
theorem Outcome.link {p : Precedence} {taken rest : List Token} {token : Token}
    {operand : Tree p.operand} {op : Operator p} {read : Except Fault (Tree (.chain p)) × Parser}
    (split : tokens = taken ++ token :: rest) (located : operand.Located taken)
    (hop : Operator.ofToken? p token = some op) (hs : token.Spelled) :
    Outcome (.chain p) rest final read →
      Outcome (.chain p) tokens final
        (match read with
        | (.error fault, after) => (.error fault, after)
        | (.ok further, after) => (.ok (.cons operand op further), after)) := by
  intro h
  -- what is left decides: the operand and the operator go in front of it, whatever it comes to
  obtain ⟨kind, lexeme⟩ := Operator.of_ofToken? hop hs
  cases h with
  | @refused right rest' fault after split' refused faces =>
    have hchain : Refused (.chain p) (rest'.headD final) ((taken ++ [token]) ++ right) fault := by
      refine refused.lift fun before n hawaits => ⟨n, ?_⟩
      rw [List.append_assoc, List.singleton_append]
      -- up to the operator the chain awaits its next operand
      exact .link located.derives operand.readable_phrase kind op.belongs hawaits
    -- the tokens are those of the operand, the operator and the part
    have hsplit : tokens = (taken ++ [token]) ++ right ++ rest' := by simp [split, split']
    exact .refused hsplit hchain faces
  | @read right rest' further after split' located' ended faces =>
    have hsplit : tokens = taken ++ token :: right ++ rest' := by simp [split, split']
    refine .read hsplit (.link located kind lexeme (Operator.span_ofToken? hop) located')
      ⟨ended.operator, ?_⟩ faces
    -- the tree ends as the rest of the chain does
    obtain ⟨phase, hrun, hoperand⟩ := located.derives.run?
    rw [Phase.run?_append hrun, Phase.run?_cons, kind, Phase.next?_operator hoperand]
    exact ended.point

/-- A parenthesis and what reading the content of the group comes to. -/
theorem Outcome.group {opening : Token} {read : Except Fault Expression × Parser}
    (kind : opening.kind = .leftParen) :
    Outcome (.chain .additive) tokens final read →
      Outcome .term (opening :: tokens) final
        (match read with
        | (.error fault, after) => (.error fault, after)
        | (.ok inner, after) =>
          if after.peek.1.kind = .rightParen then
            let closing := after.peek.2.scanIgnoringSpace
            (.ok (.group inner (some ⟨opening.location, closing.1.location⟩)), closing.2)
          else
            (.error (.missingRightParen (some opening.location) after.peek.1), after.peek.2)) := by
  intro h
  cases h with
  | @refused taken rest fault after split refused faces =>
    -- the parenthesis opens one group more
    have hterm : Refused .term (rest.headD final) ([opening] ++ taken) fault :=
      refused.lift fun before n hawaits => ⟨n + 1, .group kind hawaits⟩
    have hsplit : opening :: tokens = [opening] ++ taken ++ rest := by simp [split]
    exact .refused hsplit hterm faces
  | @read taken rest inner after split located ended faces =>
    dsimp only
    rw [faces.peek_fst]
    by_cases hclose : (rest.headD final).kind = .rightParen
    · -- the group is closed
      cases rest with
      | nil => rw [List.headD_nil, faces.kind_final] at hclose; simp at hclose
      | cons closing rest =>
        rw [if_pos hclose, faces.peek.take_fst]
        rw [List.headD_cons] at hclose
        have hsplit : opening :: tokens = opening :: taken ++ [closing] ++ rest := by simp [split]
        refine .read hsplit (.group kind located hclose) (.term ?_) faces.peek.take
        -- a group is no number, so no point carries it on
        obtain ⟨phase, hrun, hoperand⟩ := located.derives.run?
        rw [List.cons_append, Phase.run?_cons, kind, Phase.next?, Option.bind_some,
          Phase.run?_append hrun, Phase.run?_cons, hclose, Phase.next?_rightParen hoperand]
        simp
    · -- another token stands in the place of the parenthesis
      rw [if_neg hclose]
      have hterm : Refused .term (rest.headD final) ([] ++ opening :: taken)
          (.missingRightParen (some opening.location) (rest.headD final)) :=
        .group .nothing kind located.derives inner.readable_phrase hclose ended.not_operator
          ended.point
      have hsplit : opening :: tokens = [] ++ opening :: taken ++ rest := by simp [split]
      exact .refused hsplit hterm faces.peek

/-! ### Trees -/

mutual

/-- **Every call of recursive descent** returns a located tree or is refused. -/
theorem outcome_parseTree (level : Level) {parser : Parser} {tokens : List Token} {final : Token}
    (h : parser.Faces tokens final) : Outcome level tokens final (parseTree level parser) := by
  match level with
  -- a term asks for itself, a chain for its first operand
  | .term => exact outcome_term h
  | .chain p =>
    rw [parseTree_chain]
    exact outcome_parseChain p .expression h
termination_by (parser.remaining, 2 * level.height + 1)
decreasing_by
  · exact Prod.Lex.right _ (by omega)
  · exact Prod.Lex.right _ (by omega)

theorem outcome_parseChain (p : Precedence) (expected : Expectation) {parser : Parser}
    {tokens : List Token} {final : Token} (h : parser.Faces tokens final) :
    Outcome (.chain p) tokens final (parseChain p expected parser) := by
  rw [parseChain_eq, h.peek_fst]
  by_cases hk : (tokens.headD final).kind = .eof
  · -- the end is refused for want of an operand
    rw [if_pos hk]
    exact .refused (List.nil_append _).symm
      (.operand (awaits_nothing _) (by rw [hk]; simp) (by rw [hk]; simp)) h.peek
  · rw [if_neg hk]
    have hoperand := outcome_parseTree p.operand h.peek
    generalize hresult : parseTree p.operand parser.peek.2 = result at hoperand
    cases hoperand with
    | refused split refused faces => exact .first split refused faces
    | @read taken rest operand after split located ended faces =>
      dsimp only [parseRest]
      rw [faces.peek_fst]
      cases hop : Operator.ofToken? p (rest.headD final) with
      | none =>
        -- what ends the operand is no operator of the class, so it ends the chain
        exact .read split (.single located)
          (ended.chain fun symbol hsymbol => Operator.precedence_of_ofToken? hop hsymbol) faces.peek
      | some op =>
        cases rest with
        | nil =>
          -- the end is no operator
          exact absurd hop (by simp [Operator.ofToken?, TokenKind.symbol?, faces.kind_final])
        | cons token rest =>
          rw [List.headD_cons] at hop
          have htaken : after.peek.2.scanIgnoringSpace.2.remaining < parser.remaining :=
            calc after.peek.2.scanIgnoringSpace.2.remaining
              _ ≤ after.peek.2.remaining := Parser.remaining_scanIgnoringSpace_le _
              _ ≤ after.remaining := after.remaining_peek_le
              _ < parser.peek.2.remaining := remaining_parseTree_lt hresult
              _ ≤ parser.remaining := parser.remaining_peek_le
          exact .link split located hop (faces.spec token (by simp)).2
            (outcome_parseChain p (.operandAfter op.lexeme) faces.peek.take)
termination_by (parser.remaining, 2 * (Level.chain p).height)
decreasing_by
  · have := Level.height_operand p
    exact Prod.Lex.right' _ parser.remaining_peek_le (by omega)
  · exact Prod.Lex.left _ _ htaken

theorem outcome_term {parser : Parser} {tokens : List Token} {final : Token}
    (h : parser.Faces tokens final) : Outcome .term tokens final (parseTree .term parser) := by
  rw [parseTree_term, h.peek_fst]
  -- a term begins with a parenthesis or with digits
  by_cases hopen : (tokens.headD final).kind = .leftParen
  · rw [if_pos hopen]
    cases tokens with
    | nil => rw [List.headD_nil, h.kind_final] at hopen; simp at hopen
    | cons opening tokens =>
      rw [List.headD_cons] at hopen
      have hseen : parser.peek.1.kind = .leftParen := by rwa [h.peek_fst]
      have htaken : parser.peek.2.scanIgnoringSpace.2.remaining < parser.remaining :=
        parser.remaining_take_lt (by simp [hseen]) (by simp [hseen])
      dsimp only
      rw [h.peek.take_fst]
      exact .group hopen (outcome_parseChain .additive .expression h.peek.take)
  · rw [if_neg hopen]
    by_cases hdigits : (tokens.headD final).kind = .digits
    · rw [if_pos hdigits]
      cases tokens with
      | nil => rw [List.headD_nil, h.kind_final] at hdigits; simp at hdigits
      | cons digits tokens => exact outcome_number h.peek hdigits
    · -- neither of them: the token is refused before anything is taken
      rw [if_neg hdigits]
      exact .refused (List.nil_append _).symm (.operand .nothing hopen hdigits) h.peek
termination_by (parser.remaining, 0)
decreasing_by exact Prod.Lex.left _ _ htaken

end

end Descent

/-! ### The parser -/

namespace Parser

variable {parser : Parser} {tokens : List Token} {final : Token}

/-- **What reading a tree comes to**, apart from the part of a tree that a refusal comes with. -/
theorem outcome_parseTree (level : Level) (h : parser.Faces tokens final) :
    Descent.Outcome level tokens final (withoutBuilt (parser.parseTree level)) := by
  rw [withoutBuilt_parseTree h.settled]
  exact Descent.outcome_parseTree level h

/-- **What reading a whole input comes to**: an expression of all tokens, a refusal within it, or a
token behind it. -/
inductive WholeOutcome (tokens : List Token) (final : Token) :
    Except Fault Expression × Parser → Prop where
  | read {t : Expression} {after : Parser} (located : t.Located tokens)
      (faces : after.Faces [] final) : WholeOutcome tokens final (.ok t, after)
  | refused {taken rest : List Token} {fault : Fault} {after : Parser}
      (split : tokens = taken ++ rest)
      (refused : Refused (.chain .additive) (rest.headD final) taken fault)
      (faces : after.Faces rest final) : WholeOutcome tokens final (.error fault, after)
  | behind {taken rest : List Token} {next : Token} {t : Expression} {after : Parser}
      (split : tokens = taken ++ next :: rest) (located : t.Located taken)
      (ended : (Level.chain .additive).EndedBy taken next.kind)
      (faces : after.Faces (next :: rest) final) :
      WholeOutcome tokens final (.error (.unexpected .operatorOrEnd next), after)

theorem outcome_parse (h : parser.Faces tokens final) :
    WholeOutcome tokens final (withoutBuilt parser.parse) := by
  -- what was built makes no difference to where the reading stops
  have htree := outcome_parseTree (.chain .additive) h
  unfold parse
  generalize parser.parseTree (.chain .additive) = result at htree
  obtain ⟨failure | t, after⟩ := result
  · cases htree with
    | refused split refused faces => exact .refused split refused faces
  · cases htree with
    | @read taken rest _ _ split located ended faces =>
      dsimp only
      rw [faces.peek_fst]
      cases rest with
      | nil =>
        obtain rfl : tokens = taken := by simpa using split
        rw [List.headD_nil, if_pos faces.kind_final]
        exact .read located faces.peek
      -- a token behind the expression is refused, and was not taken
      | cons next rest =>
        rw [List.headD_cons, if_neg (faces.kind_ne_eof (by simp))]
        exact .behind split located ended faces.peek

end Parser

/-- **What reading a text comes to.** -/
theorem outcome_text (text filename : String) :
    ∃ after, Parser.WholeOutcome (significantTokens text filename)
      (Lexer.ofString text filename).endToken
      ((parse text filename).mapError ParseError.fault, after) :=
  ⟨_, Parser.outcome_parse (Parser.faces_ofString text filename)⟩

theorem located_of_parse_ok {text filename : String} {t : Expression}
    (h : parse text filename = .ok t) : t.Located (significantTokens text filename) := by
  obtain ⟨after, houtcome⟩ := outcome_text text filename
  rw [h] at houtcome
  cases houtcome with
  | read located => exact located

end ArithExpr
