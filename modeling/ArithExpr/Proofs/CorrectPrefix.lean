import ArithExpr.Proofs.Layout
import ArithExpr.Proofs.Refusals

/-!
# Incomplete and wrong texts

A text that is refused is either incomplete, so that it can be carried on to an expression, or it is
wrong, and then nothing behind it makes it right. The fault says which: it is incomplete exactly if
the fault is at the end (`Fault.AtEnd`). What is in front of the fault can be carried on in any
case. The one exception is a text that ends in a point behind as many digits as a number may have.

* `Grammar.Refusal.parse_append` — what is wrong before the end stays wrong in the same way.
* `exists_parse_append_iff` — a text that is no expression yet can be carried on to one exactly if
  there is room for what completes its last operand.
* `carries_on_of_parse_error` — the three statements together.
-/

namespace ArithExpr

open Grammar

namespace Grammar

/-- **Digits where an operand begins** are no more than a number may have. -/
theorem Derives.digitsIn_le {before behind : List Token} {digits : Token}
    {phrase : Phrase (.chain .additive)} (h : Derives (before ++ digits :: behind) phrase)
    (hlegible : Legible (before ++ digits :: behind)) (hkind : digits.kind = .digits)
    (hbegins : ∀ last ∈ before.getLast?, last.Opens) : digitsIn digits.lexeme ≤ digitLimit := by
  -- it depends on a point behind the digits how far their literal goes
  by_cases hpoint : ∃ point ∈ behind.head?, point.kind = .dot
  · obtain ⟨point, hhead, hdot⟩ := hpoint
    obtain ⟨further, rfl⟩ := List.head?_eq_some_iff.1 (Option.mem_def.1 hhead)
    obtain ⟨-, fractional, rest, rfl, hfractional⟩ := h.digits_behind_point hkind hdot
    -- together with what is behind the point they are a literal
    have hle := hlegible before [digits, point, fractional] rest _ (by simp)
      ⟨hbegins, .fraction hkind hdot hfractional, by simp⟩
    rw [digitsIn_append, digitsIn_append] at hle
    omega
  · exact hlegible before [digits] behind _ (by simp)
      ⟨hbegins, .whole hkind, fun _ next hnext hdot => hpoint ⟨next, hnext, hdot⟩⟩

end Grammar

/-! ### Completing a text -/

/-- What completes an expression behind the tokens: a digit, if an operand is not complete, and a
parenthesis for each open group. -/
def completion (tokens : List Token) : List Char :=
  (if OperandComplete tokens [] then [] else ['0']) ++ List.replicate (openGroups tokens) ')'

theorem exists_laid_closing (n : Nat) (place : Location) :
    ∃ closing, Laid place (List.replicate n ')') closing ∧
      (∀ token ∈ closing, token.kind = .rightParen) ∧ closing.length = n := by
  induction n generalizing place with
  | zero => exact ⟨[], .nothing place, by simp, rfl⟩
  -- the outermost parenthesis is laid out first, and the others behind it
  | succ n ih =>
    obtain ⟨closing, hlaid, hkind, hlength⟩ := ih (place.advanceOver [')'])
    have htakes : Takes [')'] .rightParen (List.replicate n ')') := .single (by decide)
    refine ⟨⟨.rightParen, String.ofList [')'], place⟩ :: closing, .token htakes (by simp) hlaid,
      List.forall_mem_cons.2 ⟨rfl, hkind⟩, by rw [List.length_cons, hlength]⟩

theorem exists_laid_completion (tokens : List Token) (place : Location) :
    ∃ fill closing, Laid place (completion tokens) (fill ++ closing) ∧ Fills tokens fill ∧
      (∀ token ∈ closing, token.kind = .rightParen) ∧ closing.length = openGroups tokens := by
  unfold completion Fills
  split
  · -- nothing is to be filled in
    obtain ⟨closing, hlaid, hkind, hlength⟩ := exists_laid_closing (openGroups tokens) place
    exact ⟨[], closing, hlaid, rfl, hkind, hlength⟩
  · -- the digit that is filled in is in front of the parentheses
    obtain ⟨closing, hlaid, hkind, hlength⟩ :=
      exists_laid_closing (openGroups tokens) (place.advanceOver ['0'])
    -- a parenthesis does not carry the number on
    have hstop : ∀ c ∈ (List.replicate (openGroups tokens) ')').head?,
        CharClass.digit.contains c = false := by
      intro c hc
      obtain rfl := List.eq_of_mem_replicate (List.mem_of_head? hc)
      decide
    have hrun : CharClass.digit.IsRun ['0'] := ⟨by simp, List.forall_mem_singleton.2 (by decide)⟩
    have htakes : Takes ['0'] .digits (List.replicate (openGroups tokens) ')') := .run hrun hstop
    exact ⟨[⟨.digits, String.ofList ['0'], place⟩], closing, .token htakes (by simp) hlaid,
      ⟨_, rfl, rfl, show digitsIn (String.ofList ['0']) = 1 by decide⟩, hkind, hlength⟩

theorem head_completion (tokens : List Token) :
    ∀ c ∈ (completion tokens).head?, isWhitespace c = false := by
  intro c hc
  have hmem := List.mem_of_head? hc
  rw [completion, List.mem_append] at hmem
  rcases hmem with hmem | hmem
  -- the first character is the digit, or a parenthesis
  · split at hmem
    · simp at hmem
    · obtain rfl := List.mem_singleton.1 hmem
      decide
  · obtain rfl := List.eq_of_mem_replicate hmem
    decide

variable {text filename : String}

/-- The tokens of a text that is read are derived from a phrase, and no literal is too long. -/
theorem derives_of_parse_ok {t : Expression} (h : parse text filename = .ok t) :
    Derives (significantTokens text filename) t.phrase ∧
      Legible (significantTokens text filename) := by
  obtain ⟨-, hsound, -, -⟩ := parse_iff_derives text filename
  obtain ⟨hderives, hreadable⟩ := hsound t h
  exact ⟨hderives, hderives.legible hreadable⟩

/-- **A text is completed** if there is room for a digit behind it. -/
theorem exists_parse_append (h : Completable (significantTokens text filename))
    (hroom : ¬ Exhausted (significantTokens text filename)) :
    ∃ more t, parse (text ++ more) filename = .ok t := by
  obtain ⟨gap, place, hseparated⟩ := (laid_text text filename).separated
    (head_completion (significantTokens text filename))
  -- what is put behind the text is told by its tokens, but has to be kept apart from the last of
  -- them
  obtain ⟨fill, closing, hlaid, hfill, hkind, hlength⟩ :=
    exists_laid_completion (significantTokens text filename) place
  obtain ⟨phrase, hderives, hreadable⟩ := h fill closing hfill hkind hlength
  have htokens := (hseparated _ hlaid).significantTokens_eq
  refine ⟨String.ofList (gap ++ completion (significantTokens text filename)), ?_⟩
  have htext : String.ofList (text.toList ++ gap ++ completion (significantTokens text filename)) =
      text ++ String.ofList (gap ++ completion (significantTokens text filename)) := by
    rw [← String.toList_inj]
    simp
  rw [htext, ← List.append_assoc] at htokens
  refine (parse_iff_derives _ filename).1.2 ⟨phrase, ?_, hreadable hroom⟩
  rwa [htokens]

/-- Digits that have no room for further ones before a point make every text unreadable. -/
theorem not_parse_append_of_exhausted (h : Exhausted (significantTokens text filename))
    (more : String) (t : Expression) : parse (text ++ more) filename ≠ .ok t := by
  intro hparse
  obtain ⟨before, integral, point, hsplit, hkind, hpoint, hfull⟩ := h
  obtain ⟨hderives, hlegible⟩ := derives_of_parse_ok hparse
  have hcontinued := continued_text text more filename
  -- the point is there in the longer text, too
  rw [hsplit, show before ++ [integral, point] = (before ++ [integral]) ++ point :: [] by simp]
    at hcontinued
  obtain ⟨point', behind, htokens, hgrows⟩ := hcontinued.split
  have hpoint' : point'.kind = .dot := hgrows.kind.trans hpoint
  rw [List.append_assoc, List.singleton_append] at htokens
  have hspelled := (Lexer.ofString (text ++ more) filename).tokensAhead_spec
  rw [show Lexer.tokensAhead _ = _ from htokens] at hspelled
  rw [htokens] at hderives hlegible
  -- the point is followed by digits, so with what was there already they are too many
  obtain ⟨hbegins, fractional, rest, rfl, hfractional⟩ := hderives.digits_behind_point hkind hpoint'
  have hle := hlegible before [integral, point', fractional] rest _ (by simp)
    ⟨hbegins, .fraction hkind hpoint' hfractional, by simp⟩
  have hdigits : 0 < digitsIn fractional.lexeme := by
    have hrun := (hspelled fractional (by simp)).2.digits hfractional
    rw [digitsIn, Decimal.countP_isRun hrun]
    exact List.length_pos_iff.2 hrun.1
  rw [digitsIn_append, digitsIn_append] at hle
  omega

/-- **A text that begins an expression can be carried on to one** exactly if it does not end in a
number without room. -/
theorem exists_parse_append_iff (h : Completable (significantTokens text filename)) :
    (∃ more t, parse (text ++ more) filename = .ok t) ↔
      ¬ Exhausted (significantTokens text filename) := by
  constructor
  · -- a text without room is never read, so there is room
    rintro ⟨more, t, hparse⟩ hexhausted
    exact not_parse_append_of_exhausted hexhausted more t hparse
  · exact exists_parse_append h

/-! ### Wrong texts -/

variable {error : ParseError Expression}

/-- **What is wrong before the end stays wrong**, in the same way and at the same place, whatever is
put behind it. -/
theorem Grammar.Refusal.parse_append {before after : List Token} {next final : Token}
    {fault : Fault} (h : Refusal before (next :: after) final fault)
    (hsplit : significantTokens text filename = before ++ next :: after) (more : String) :
    ∃ error', parse (text ++ more) filename = .error error' ∧ error'.fault.cls = fault.cls ∧
      error'.fault.location? = fault.location? := by
  have hcontinued := continued_text text more filename
  rw [hsplit] at hcontinued
  obtain ⟨next', after', htokens, hgrows⟩ := hcontinued.split
  have hwrong : WrongAt before (next' :: after') := h.wrongAt.congr hgrows.kind
  -- the text behind it may be read or refused; the tokens around the place decide
  cases hparse : parse (text ++ more) filename with
  | ok t =>
    -- where tokens go wrong there is no phrase
    obtain ⟨hderives, -⟩ := derives_of_parse_ok hparse
    rw [htokens] at hderives
    exact absurd hderives (hwrong.not_derives t.phrase)
  | error error' =>
    refine ⟨error', rfl, ?_⟩
    rcases refusal_of_parse_error hparse with
      ⟨-, before', behind', hsplit', hrefusal⟩ | ⟨before', literal, behind', hsplit', hrefusal⟩
    · -- there is only one place where the tokens go wrong
      obtain ⟨rfl, rfl⟩ := hwrong.unique hrefusal.wrongAt (htokens.symm.trans hsplit')
      constructor
      · rw [hrefusal.cls_eq, h.cls_eq]
        exact FaultClass.between_congr before hgrows.kind
      · rw [hrefusal.blames.location, h.blames.location]
        exact congrArg some hgrows.location
    · -- the fault of a literal would need one with too many digits in front, where all are legible
      obtain ⟨word, hoversized⟩ := hrefusal.oversized
      exact absurd hoversized (hwrong.not_oversized h.legible (htokens.symm.trans hsplit'))

theorem Token.Grows.digitsIn_le {token token' : Token} (h : token.Grows token') :
    digitsIn token.lexeme ≤ digitsIn token'.lexeme := by
  obtain ⟨more, hlexeme⟩ := h.lexeme
  rw [digitsIn, digitsIn, hlexeme, List.countP_append]
  exact Nat.le_add_right _ _

/-- **A literal with too many digits** makes every text unreadable that it is in. -/
theorem Grammar.Oversized.not_parse_append {before literal behind : List Token} {word : String}
    (h : Oversized before literal behind word)
    (hsplit : significantTokens text filename = before ++ literal ++ behind) (more : String)
    (t : Expression) : parse (text ++ more) filename ≠ .ok t := by
  intro hparse
  obtain ⟨hderives, hlegible⟩ := derives_of_parse_ok hparse
  have hcontinued := continued_text text more filename
  obtain ⟨⟨hbegins, hwritten, -⟩, -, hlong⟩ := h
  cases hwritten with
  | @whole digits kind =>
    -- the digits may have grown, and a point may be behind them now
    rw [hsplit, List.append_assoc, List.singleton_append] at hcontinued
    obtain ⟨digits', behind', htokens, hgrows⟩ := hcontinued.split
    rw [htokens] at hderives hlegible
    have hle := hderives.digitsIn_le hlegible (hgrows.kind.trans kind) hbegins
    have hgrown := hgrows.digitsIn_le
    omega
  -- the digits behind the point may have grown
  | @fraction integral point fractional kind pointKind fractionalKind =>
    rw [hsplit, show before ++ [integral, point, fractional] ++ behind =
      (before ++ [integral, point]) ++ fractional :: behind by simp] at hcontinued
    obtain ⟨fractional', behind', htokens, hgrows⟩ := hcontinued.split
    rw [htokens] at hlegible
    have hle := hlegible before [integral, point, fractional'] behind' _ (by simp)
      ⟨hbegins, .fraction kind pointKind (hgrows.kind.trans fractionalKind), by simp⟩
    have hgrown := hgrows.digitsIn_le
    rw [digitsIn_append, digitsIn_append] at hle hlong
    omega

/-- **Incomplete or wrong.** A text whose fault is not at its end is refused whatever is put behind
it, with a fault of the same class at the same place unless it is that of a literal. A text whose
fault is at its end can be carried on to an expression, and so can, of every text without the fault
of a literal, the part in front of the fault. The one exception are tokens that end in a number
without room. -/
theorem carries_on_of_parse_error (h : parse text filename = .error error) :
    (¬ error.fault.AtEnd → ∀ more, ∃ error', parse (text ++ more) filename = .error error' ∧
      (error.fault.cls ≠ .numberConversion → error'.fault.cls = error.fault.cls ∧
        error'.fault.location? = error.fault.location?)) ∧
    (error.fault.AtEnd → ((∃ more t, parse (text ++ more) filename = .ok t) ↔
      ¬ Exhausted (significantTokens text filename))) ∧
    (error.fault.cls ≠ .numberConversion → ∃ place, error.fault.location? = some place ∧
      ((∃ more t, parse (textBefore text place ++ more) filename = .ok t) ↔
        ¬ Exhausted (significantTokens (textBefore text place) filename))) := by
  -- the fault is that of a token, at a place, or that of a literal
  rcases refusal_of_parse_error h with
    ⟨hcls, before, behind, hsplit, hrefusal⟩ | ⟨before, literal, behind, hsplit, hrefusal⟩
  · refine ⟨fun hend more => ?_, fun hend => ?_, fun _ => ⟨_, hrefusal.blames.location, ?_⟩⟩
    · -- not at the end: it stays
      cases behind with
      | nil => exact absurd (hrefusal.blames.atEnd_iff.2 rfl) hend
      | cons next after =>
        obtain ⟨error', hparse, hsame⟩ := hrefusal.parse_append hsplit more
        exact ⟨error', hparse, fun _ => hsame⟩
    · -- at the end: the whole text is in front of it
      cases behind with
      | nil =>
        rw [List.append_nil] at hsplit
        exact exists_parse_append_iff (hsplit ▸ hrefusal.completable)
      | cons next after =>
        -- the end is not among the tokens
        have hfaces := Parser.faces_ofString text filename
        exact absurd (hrefusal.blames.atEnd_iff.1 hend)
          (hfaces.kind_ne_eof (by rw [hsplit]; simp))
    · -- the text before the fault has just the tokens before it
      refine exists_parse_append_iff ?_
      rw [significantTokens_textBefore hsplit]
      exact hrefusal.completable
  · obtain ⟨word, hoversized⟩ := hrefusal.oversized
    refine ⟨fun _ more => ?_, ?_, fun hcls => absurd hrefusal.cls_eq hcls⟩
    · -- the literal is in every such text, and whatever is reported then has its own class
      cases hparse : parse (text ++ more) filename with
      | ok t => exact absurd hparse (hoversized.not_parse_append hsplit more t)
      | error error' => exact ⟨error', rfl, fun hcls => absurd hrefusal.cls_eq hcls⟩
    · -- the fault of a literal is not at the end
      rintro (hcls | ⟨token, htoken, -⟩)
      · simp [hrefusal.cls_eq] at hcls
      · simp [hrefusal.carried] at htoken

/-- The text `1+` is incomplete. -/
theorem carries_on_of_parse_error_operator :
    ∃ error, parse "1+" "input" = .error error ∧ error.fault.AtEnd ∧
      ∃ more t, parse ("1+" ++ more) "input" = .ok t := by
  have hrefused : (match parse "1+" "input" with
      | .error error => some error.fault.cls
      | .ok _ => none) = some .unexpectedEnd := by decide +kernel
  have hlast : ((significantTokens "1+" "input").getLast?.map Token.kind) =
      some (.operator .plus) := by decide +kernel
  cases hparse : parse "1+" "input" with
  | ok => simp [hparse] at hrefused
  | error error =>
    rw [hparse] at hrefused
    have hend : error.fault.AtEnd := .inl (Option.some.inj hrefused)
    obtain ⟨-, hincomplete, -⟩ := carries_on_of_parse_error hparse
    refine ⟨error, rfl, hend, (hincomplete hend).2 ?_⟩
    -- the last token is no point
    rintro ⟨before, integral, point, hsplit, -, hpoint, -⟩
    rw [hsplit] at hlast
    simp [hpoint] at hlast

end ArithExpr
