import ArithExpr.Proofs.DescentOutcome

/-!
# Where a text goes wrong, and how

A text that is no expression goes wrong at one place: the tokens before it can be carried on to an
expression, and with the token there they cannot (`Grammar.WrongAt`). Nothing about the parser is
said by this, and there is only one such place (`Grammar.WrongAt.unique`). The other thing that can
be wrong is a literal with too many digits (`Grammar.Oversized`), if nothing is wrong before it.

* `Grammar.Refusal` — a fault that blames a token, and what is known of the tokens before it.
* `refusal_of_parse_error` — a text is refused with such a fault, or for a literal.
* `cls_of_parse_error` — which of the five classes of faults it is, where it is located and what
  token it carries, all told from the tokens of the text.
-/

namespace ArithExpr

open Grammar

namespace Grammar

/-! ### The place of a fault -/

/-- **Tokens go wrong at a place.** Those before it begin an expression. With the one behind it they
do not, or if nothing is behind it, they are no expression yet. -/
structure WrongAt (before behind : List Token) : Prop where
  viable : Viable before
  wrong : ∀ next ∈ behind.head?, ¬ Viable (before ++ [next])
  unfinished : behind = [] → ∀ phrase : Phrase (.chain .additive), ¬ Derives before phrase

/-- **A literal has too many digits**, and nothing is wrong before it. -/
structure Oversized (before literal behind : List Token) (text : String) : Prop where
  stands : Stands before literal behind text
  viable : Viable (before ++ literal)
  tooLong : digitLimit < digitsIn text

namespace WrongAt

variable {before behind : List Token}

/-- **What begins an expression is in front of the place** where the tokens go wrong. -/
theorem viable_prefix (h : WrongAt before behind) {tokens more : List Token}
    (hviable : Viable tokens) (hsplit : before ++ behind = tokens ++ more) :
    ∃ between, before = tokens ++ between ∧ more = between ++ behind := by
  -- of two divisions of the same tokens one goes at least as far as the other
  rcases List.append_eq_append_iff.1 hsplit with
    ⟨between, htokens, hbehind⟩ | ⟨between, hbefore, hmore⟩
  · -- if the tokens went beyond the place, what is wrong there would be viable
    cases between with
    | nil => exact ⟨[], by simpa using htokens.symm, by simpa using hbehind.symm⟩
    | cons next between =>
      refine absurd ?_ (h.wrong next (by rw [hbehind]; rfl))
      rw [htokens, ← List.singleton_append, ← List.append_assoc] at hviable
      exact hviable.of_append
  · -- else the place is behind the tokens, and what lies between is the rest of `before`
    exact ⟨between, hbefore, hmore⟩

/-- **There is only one place** where tokens go wrong. -/
theorem unique {before' behind' : List Token} (h : WrongAt before behind)
    (h' : WrongAt before' behind') (hsplit : before ++ behind = before' ++ behind') :
    before = before' ∧ behind = behind' := by
  -- each of the two is in front of the other, so nothing lies between
  obtain ⟨between, rfl, rfl⟩ := h.viable_prefix h'.viable hsplit
  obtain ⟨between', hbefore, -⟩ := h'.viable_prefix h.viable hsplit.symm
  obtain rfl : between = [] := by
    have := congrArg List.length hbefore
    simp only [List.length_append] at this
    exact List.eq_nil_of_length_eq_zero (by omega)
  simp

/-- Tokens that go wrong are no expression. -/
theorem not_derives (h : WrongAt before behind) (phrase : Phrase (.chain .additive)) :
    ¬ Derives (before ++ behind) phrase := by
  intro hderives
  have hviable : Viable (before ++ behind) := ⟨[], phrase, by rwa [List.append_nil]⟩
  -- a whole expression is viable, so it is in front of the place, and nothing is behind it
  obtain ⟨between, hbefore, hnil⟩ := h.viable_prefix hviable (List.append_nil _).symm
  obtain rfl : behind = [] := (List.append_eq_nil_iff.1 hnil.symm).2
  exact h.unfinished rfl phrase (by rwa [List.append_nil] at hderives)

/-- If the literals in front of the place are short enough, no other literal counts. -/
theorem not_oversized (h : WrongAt before behind) (hlegible : Legible before)
    {before' literal behind' : List Token} {text : String}
    (hsplit : before ++ behind = before' ++ literal ++ behind') :
    ¬ Oversized before' literal behind' text := by
  rintro ⟨hstands, hviable, hlong⟩
  -- a viable literal is in front of the place, where all literals are short enough
  obtain ⟨between, rfl, rfl⟩ := h.viable_prefix hviable hsplit
  refine absurd (hlegible _ _ _ text rfl ⟨hstands.begins, hstands.written, ?_⟩) (by omega)
  intro hone next hnext
  exact hstands.whole hone next (by rw [List.head?_append, Option.mem_def.1 hnext]; rfl)

/-- The place stays one where tokens go wrong if the token there is changed for one of its kind. -/
theorem congr {after after' : List Token} {next next' : Token} (h : WrongAt before (next :: after))
    (hkind : next'.kind = next.kind) : WrongAt before (next' :: after') := by
  refine ⟨h.viable, ?_, by simp⟩
  -- whether a token can come next depends on its kind alone
  intro other hother
  obtain rfl : next' = other := by simpa using hother
  exact fun hviable => h.wrong next rfl (hviable.congr hkind)

end WrongAt

/-! ### Refusals -/

/-- **The tokens can be completed**: with what completes the last operand and a parenthesis for each
open group they are an expression, and a readable one unless they end in a number without room. -/
def Completable (tokens : List Token) : Prop :=
  ∀ fill closing : List Token, Fills tokens fill →
    (∀ token ∈ closing, token.kind = .rightParen) → closing.length = openGroups tokens →
    ∃ phrase : Phrase (.chain .additive), Derives (tokens ++ fill ++ closing) phrase ∧
      (¬ Exhausted tokens → phrase.Readable)

theorem exists_fills (tokens : List Token) : ∃ fill, Fills tokens fill := by
  -- one number is enough where an operand is missing
  by_cases h : OperandComplete tokens []
  · exact ⟨[], by rw [Fills, if_pos h]⟩
  · refine ⟨[⟨.digits, "0", .start unnamedSource⟩], ?_⟩
    rw [Fills, if_neg h]
    exact ⟨_, rfl, rfl, by decide⟩

theorem kind_of_mem_closers {n : Nat} {token : Token} (h : token ∈ closers n) :
    token.kind = .rightParen := by
  rw [List.eq_of_mem_replicate h]

theorem Completable.viable {tokens : List Token} (h : Completable tokens) : Viable tokens := by
  obtain ⟨fill, hfill⟩ := exists_fills tokens
  obtain ⟨phrase, hderives, -⟩ := h fill (closers (openGroups tokens)) hfill
    (fun _ => kind_of_mem_closers) List.length_replicate
  -- the closing parentheses are part of what completes the tokens
  exact ⟨fill ++ closers (openGroups tokens), phrase, by rwa [← List.append_assoc]⟩

/-- **An input is refused for a fault that blames a token**: the first of `rest`, or the end. -/
structure Refusal (taken rest : List Token) (final : Token) (fault : Fault) : Prop where
  wrongAt : WrongAt taken rest
  legible : Legible taken
  completable : Completable taken
  cls_eq : fault.cls = .between taken (rest.headD final)
  blames : fault.Blames (rest.headD final)

variable {taken rest : List Token} {final : Token} {fault : Fault}

theorem Refused.refusal (h : Refused (.chain .additive) (rest.headD final) taken fault)
    (hcls : fault.cls ≠ .numberConversion) (hs : ∀ token ∈ taken, token.Spelled) :
    Refusal taken rest final fault := by
  have hcompletable : Completable taken := fun _ _ => h.completed hcls hs
  -- the kind of refusal says all of this about the tokens taken, since it is no literal's
  refine ⟨⟨hcompletable.viable, ?_, fun _ _ => h.not_derives hcls⟩, h.legible hcls, hcompletable,
    h.cls_eq hcls, h.blames hcls⟩
  intro next hnext
  have hviable := h.not_viable hcls
  rwa [List.headD_eq_head?_getD, Option.mem_def.1 hnext] at hviable

/-- An input is refused behind a whole expression. -/
theorem refusal_behind {next : Token} {t : Expression} (located : t.Located taken)
    (ended : (Level.chain .additive).EndedBy taken next.kind) :
    Refusal taken (next :: rest) final (.unexpected .operatorOrEnd next) := by
  have hderives := located.derives
  have hopen : openGroups taken = 0 := hderives.balanced 0
  have hcomplete : OperandComplete taken [] := hderives.operandComplete (by simp)
  have hcompletable : Completable taken := by
    intro fill closing hfill _ hlength
    -- nothing is missing
    rw [Fills, if_pos hcomplete] at hfill
    rw [hopen] at hlength
    obtain rfl := List.length_eq_zero_iff.1 hlength
    exact ⟨t.phrase, by simpa [hfill] using hderives, fun _ => t.readable_phrase⟩
  refine ⟨⟨hcompletable.viable, ?_, by simp⟩, hderives.legible t.readable_phrase, hcompletable, ?_,
    Fault.blames_unexpected _ _⟩
  · -- what ends the expression neither carries it on nor closes a group, for none is open
    intro other hother
    obtain rfl : next = other := by simpa using hother
    by_cases hclose : next.kind = .rightParen
    · exact hderives.not_viable_close hclose
    · obtain ⟨phase, hrun, hoperand⟩ := hderives.run?
      refine not_viable_append hrun (Phase.next?_eq_none hoperand ended.not_operator hclose ?_)
      rintro rfl
      exact ended.point hrun
  · rw [Fault.cls_unexpected, FaultClass.between, if_neg (by omega), List.headD_cons]

/-- **The fault of a literal**, which is located at the first token of the first literal that has
too many digits. -/
structure LiteralRefusal (before literal behind : List Token) (fault : Fault) : Prop where
  oversized : ∃ text, Oversized before literal behind text
  legible : Legible before
  cls_eq : fault.cls = .numberConversion
  location : fault.location? = literal.head?.map Token.location
  carried : fault.token? = none

theorem Refused.literalRefusal {tokens : List Token}
    (h : Refused (.chain .additive) (rest.headD final) taken fault)
    (hcls : fault.cls = .numberConversion) (hsplit : tokens = taken ++ rest) :
    ∃ before literal behind, tokens = before ++ literal ++ behind ∧
      LiteralRefusal before literal behind fault := by
  cases h with
  -- the other refusals blame a token, and a fault that does so is no conversion
  | operand | fraction => exact absurd hcls (Fault.blames_unexpected _ _).cls_ne
  | group => exact absurd hcls (Fault.blames_missingRightParen _ _).cls_ne
  | @literal before literal n first text reason awaits written head whole tooLong =>
    have hstands : Stands before literal rest text := by
      refine ⟨awaits.opens, written, fun hone next hnext => ?_⟩
      have hnext' := whole hone
      rwa [List.headD_eq_head?_getD, Option.mem_def.1 hnext] at hnext'
    have hviable : Viable (before ++ literal) := by
      -- the literal closes its operand, so the groups that are open only have to be closed
      obtain ⟨phrase, hderives, -⟩ := awaits.completed (.number written)
        (fun _ => kind_of_mem_closers) (List.length_replicate (n := n))
      exact ⟨closers n, phrase, hderives⟩
    have hlegible : Legible before := by simpa using awaits.legible_append legible_nil
    exact ⟨before, literal, rest, hsplit, ⟨text, hstands, hviable, tooLong⟩, hlegible, rfl,
      by rw [head]; rfl, rfl⟩

end Grammar

/-! ### Texts -/

variable {text filename : String} {error : ParseError Expression}

/-- **A text is refused** for a token that is blamed, or else for a literal. -/
theorem refusal_of_parse_error (h : parse text filename = .error error) :
    (error.fault.cls ≠ .numberConversion ∧ ∃ before behind,
      significantTokens text filename = before ++ behind ∧
      Refusal before behind (Lexer.ofString text filename).endToken error.fault) ∨
    ∃ before literal behind, significantTokens text filename = before ++ literal ++ behind ∧
      LiteralRefusal before literal behind error.fault := by
  obtain ⟨after, houtcome⟩ := outcome_text text filename
  rw [h] at houtcome
  obtain ⟨fault, built⟩ := error
  -- either a routine gave up, or the expression was whole and something stood behind it
  cases houtcome with
  | @refused taken rest _ _ split refused =>
    by_cases hcls : fault.cls = .numberConversion
    · exact .inr (refused.literalRefusal hcls split)
    · exact .inl ⟨hcls, taken, rest, split,
        refused.refusal hcls ((Parser.faces_ofString text filename).spelled_taken split)⟩
  | behind split located ended =>
    exact .inl ⟨(Fault.blames_unexpected _ _).cls_ne, _, _, split, refusal_behind located ended⟩

/-- **What class of fault refuses a text.** It is the fault of a literal exactly if a literal has
too many digits and nothing is wrong before its end; it is then located at the first such literal
and carries no token. In every other case there is a place where the tokens go wrong. The class can
be told from the tokens before the place and the token there, which is blamed. -/
theorem cls_of_parse_error (h : parse text filename = .error error) :
    (error.fault.cls = .numberConversion ↔ ∃ before literal behind word,
      significantTokens text filename = before ++ literal ++ behind ∧
      Oversized before literal behind word) ∧
    (error.fault.cls = .numberConversion → ∃ before literal behind word,
      significantTokens text filename = before ++ literal ++ behind ∧
      Oversized before literal behind word ∧ Legible before ∧
      error.fault.location? = literal.head?.map Token.location ∧ error.fault.token? = none) ∧
    (error.fault.cls ≠ .numberConversion → ∃ before behind,
      significantTokens text filename = before ++ behind ∧ WrongAt before behind ∧
      error.fault.cls =
        .between before (behind.headD (Lexer.ofString text filename).endToken) ∧
      error.fault.Blames (behind.headD (Lexer.ofString text filename).endToken)) := by
  rcases refusal_of_parse_error h with
    ⟨hcls, before, behind, hsplit, hrefusal⟩ | ⟨before, literal, behind, hsplit, hrefusal⟩
  · -- a token is blamed
    refine ⟨⟨fun hconversion => absurd hconversion hcls, ?_⟩,
      fun hconversion => absurd hconversion hcls,
      fun _ => ⟨before, behind, hsplit, hrefusal.wrongAt, hrefusal.cls_eq, hrefusal.blames⟩⟩
    -- an oversized literal would have to be in front of the place, and there is none
    rintro ⟨before', literal, behind', word, hsplit', hoversized⟩
    exact absurd hoversized
      (hrefusal.wrongAt.not_oversized hrefusal.legible (hsplit.symm.trans hsplit'))
  · -- a literal is at fault
    obtain ⟨word, hoversized⟩ := hrefusal.oversized
    exact ⟨⟨fun _ => ⟨before, literal, behind, word, hsplit, hoversized⟩, fun _ => hrefusal.cls_eq⟩,
      fun _ => ⟨before, literal, behind, word, hsplit, hoversized, hrefusal.legible,
        hrefusal.location, hrefusal.carried⟩,
      fun hcls => absurd hrefusal.cls_eq hcls⟩

/-- In `(1 2` the group would have to be closed in front of the second number. -/
theorem cls_of_parse_error_openGroup :
    ∃ error, parse "(1 2" "input" = .error error ∧ error.fault.cls = .missingRightParen ∧
      error.fault.location? = some ⟨"input", 1, 4, 3⟩ ∧
      ∃ before behind, significantTokens "(1 2" "input" = before ++ behind ∧
        WrongAt before behind := by
  have hrefused : (match parse "(1 2" "input" with
      | .error error => some (error.fault.cls, error.fault.location?)
      | .ok _ => none) = some (.missingRightParen, some ⟨"input", 1, 4, 3⟩) := by decide +kernel
  cases hparse : parse "(1 2" "input" with
  | ok => simp [hparse] at hrefused
  | error error =>
    rw [hparse] at hrefused
    obtain ⟨hcls, hplace⟩ := Prod.mk.inj (Option.some.inj hrefused)
    obtain ⟨-, -, hwrong⟩ := cls_of_parse_error hparse
    obtain ⟨before, behind, hsplit, hwrongAt, -, -⟩ := hwrong (by simp [hcls])
    exact ⟨error, rfl, hcls, hplace, before, behind, hsplit, hwrongAt⟩

end ArithExpr
