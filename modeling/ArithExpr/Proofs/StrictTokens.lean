import ArithExpr.Proofs.Segmentation

/-!
# The first character that no expression may hold

Tokenizing strictly stops at the first illegal token. Which token this is shows in the characters
alone: an illegal token is a single character that is of no class and that makes no token of its
own, and every such character is an illegal token, whatever stands around it. So the first of them
is reported, at its own place, and if there is none, strictness makes no difference.

* `IsLegal` — an expression may hold the character; `isLegal_iff` — the lexer tells by the same.
* `Lexer.tokenizeStrict_eq` — tokenizing strictly, from what tokenizing gives.
* `Segmentation.find?_illegal` — the first illegal piece is the first illegal character.
* `tokenizeStrict_cases` — what tokenizing a text strictly comes to.
-/

namespace ArithExpr

/-! ### Legal characters -/

/-- The characters that make a token of their own. -/
def standingCharacters : List Char :=
  ['(', ')', '.', '+', '-', '*', '/', '\\', '%', '^']

/-- An expression may hold the character: it is white space, a letter or a digit, or it makes a
token of its own. -/
def IsLegal (c : Char) : Prop :=
  isWhitespace c = true ∨ isLetter c = true ∨ isDecimalDigit c = true ∨ c ∈ standingCharacters

/-- Whether a character is legal is decided by the classes and the list. -/
instance (c : Char) : Decidable (IsLegal c) :=
  inferInstanceAs (Decidable (_ ∨ _ ∨ _ ∨ _))

theorem TokenKind.ofChar?_eq_none_iff {c : Char} : ofChar? c = none ↔ c ∉ standingCharacters := by
  have hsymbol : OperatorSymbol.ofChar? c = none ↔ ∀ s : OperatorSymbol, s.char ≠ c := by
    simp [OperatorSymbol.ofChar?, OperatorSymbol.mem_all]
  constructor
  · -- each of the listed characters has a kind, by evaluation
    intro h hmem
    simp only [standingCharacters, List.mem_cons, List.not_mem_nil, or_false] at hmem
    rcases hmem with rfl | rfl | rfl | rfl | rfl | rfl | rfl | rfl | rfl | rfl <;>
      exact absurd h (by decide)
  · -- what is not listed is neither a parenthesis nor a point, nor does it write an operator
    intro h
    simp only [standingCharacters, List.mem_cons, List.not_mem_nil, or_false, not_or] at h
    obtain ⟨hopen, hclose, hdot, hoperators⟩ := h
    rw [ofChar?, if_neg hopen, if_neg hclose, if_neg hdot, hsymbol.2, Option.map_none]
    rintro (_ | _ | _ | _ | _ | _ | _) rfl <;> simp [OperatorSymbol.char] at hoperators

/-- A character is legal if it is of a class or makes a token of its own. -/
theorem isLegal_iff {c : Char} :
    IsLegal c ↔ CharClass.of? c ≠ none ∨ TokenKind.ofChar? c ≠ none := by
  have hclass : CharClass.of? c ≠ none ↔
      isWhitespace c = true ∨ isLetter c = true ∨ isDecimalDigit c = true := by
    unfold CharClass.of?
    repeat' split
    all_goals simp [*]
  rw [hclass, Ne, TokenKind.ofChar?_eq_none_iff, not_not, IsLegal, or_assoc, or_assoc]

/-- **What a scan takes** is legal through and through, or it is a single illegal character. -/
theorem Takes.legal_or_illegal {run rest : List Char} {kind : TokenKind}
    (h : Takes run kind rest) :
    (kind ≠ .illegal ∧ ∀ c ∈ run, IsLegal c) ∨
      kind = .illegal ∧ ∃ c, run = [c] ∧ ¬ IsLegal c := by
  cases h with
  | @run cls _ _ isRun =>
    -- the kind of a run is that of its class, and each of its characters is of that class
    refine .inl ⟨by cases cls <;> simp [CharClass.kind], fun c hc => isLegal_iff.2 (.inl ?_)⟩
    simp [CharClass.of?_contains (isRun.2 c hc)]
  | @single c _ alone =>
    unfold TokenKind.ofChar
    cases hkind : TokenKind.ofChar? c with
    | none => exact .inr ⟨rfl, c, rfl, by simp [isLegal_iff, alone, hkind]⟩
    | some kind =>
      refine .inl ⟨?_, by simp [isLegal_iff, hkind]⟩
      rintro rfl
      -- no character is listed as illegal
      unfold TokenKind.ofChar? at hkind
      repeat' split at hkind
      all_goals simp at hkind

/-! ### Strictness, by tokens -/

/-- Tokenizing strictly gives all tokens if none of them is illegal, and otherwise the first one
that is. -/
theorem Lexer.tokenizeStrict_eq (lexer : Lexer) :
    lexer.tokenizeStrict.1 =
      match lexer.tokenize.1.find? fun token => token.kind = .illegal with
      | some token => .error ⟨token.lexeme, token.location⟩
      | none => .ok lexer.tokenize.1 := by
  -- by induction on what is left; each scan that is not the end shortens it
  induction h : lexer.rest.length using Nat.strongRecOn generalizing lexer with
  | ind n ih =>
    rw [tokenizeStrict]
    by_cases heof : lexer.scan.1.kind = .eof
    · rw [dif_pos heof, tokenize_of_eof heof]
      simp [heof]
    · rw [dif_neg heof, tokenize_of_ne_eof heof]
      -- what is found behind the first token, if that is not found itself
      have hbehind := ih _ (h ▸ rest_scan_length_lt heof) lexer.scan.2 rfl
      by_cases hillegal : lexer.scan.1.kind = .illegal
      · simp [hillegal]
      · rw [if_neg hillegal, List.find?_cons_of_neg (by simpa using hillegal)]
        dsimp only
        rw [hbehind]
        split <;> rfl

/-! ### Strictness, by characters -/

namespace Segmentation

variable {filename : String} {front cs : List Char} {pieces : List Token}

/-- If all characters are legal, all pieces are. -/
theorem find?_illegal_of_legal (h : Segmentation filename front cs pieces)
    (hlegal : ∀ c ∈ cs, IsLegal c) : (pieces.find? fun piece => piece.kind = .illegal) = none := by
  -- an illegal piece would hold an illegal character
  induction pieces generalizing front cs with
  | nil => rfl
  | cons piece pieces ih =>
    obtain ⟨run, rest, rfl, htakes, -, hrest⟩ := h.uncons
    rcases htakes.legal_or_illegal with ⟨hkind, -⟩ | ⟨-, c, rfl, hc⟩
    · rw [List.find?_cons_of_neg (by simpa using hkind)]
      exact ih hrest fun c hc => hlegal c (List.mem_append_right run hc)
    · exact absurd (hlegal c (by simp)) hc

/-- **The first illegal piece is the first illegal character**, and it is located there. -/
theorem find?_illegal {before behind : List Char} {c : Char}
    (h : Segmentation filename front (before ++ c :: behind) pieces)
    (hbefore : ∀ d ∈ before, IsLegal d) (hc : ¬ IsLegal c) :
    (pieces.find? fun piece => piece.kind = .illegal) =
      some ⟨.illegal, String.singleton c, .behind filename (front ++ before)⟩ := by
  -- by induction on the pieces; what a legal piece spans goes from `before` to `front`
  induction pieces generalizing front before with
  | nil => exact absurd h.joined (by simp)
  | cons piece pieces ih =>
    obtain ⟨run, rest, hsplit, htakes, hpiece, hrest⟩ := h.uncons
    rcases htakes.legal_or_illegal with ⟨hkind, hrun⟩ | ⟨hkind, d, rfl, hd⟩
    · -- a legal piece ends in front of the character, which is therefore behind it
      obtain ⟨before', rfl, hbehind⟩ : ∃ before', before = run ++ before' ∧
          rest = before' ++ c :: behind := by
        rcases List.append_eq_append_iff.1 hsplit with
          ⟨more, rfl, hmore⟩ | ⟨before', rfl, hbehind⟩
        · cases more with
          | nil => exact ⟨[], by simp, by simpa using hmore.symm⟩
          | cons d more =>
            obtain rfl : c = d := (List.cons.inj hmore).1
            exact absurd (hrun c (by simp)) hc
        · exact ⟨before', rfl, hbehind⟩
      subst hbehind
      rw [List.find?_cons_of_neg (by simpa using hkind),
        ih hrest fun d hd => hbefore d (List.mem_append_right run hd), List.append_assoc]
    · -- an illegal piece is the character itself, since nothing in front of it is illegal
      cases before with
      | nil =>
        obtain rfl : c = d := (List.cons.inj hsplit).1
        rw [List.find?_cons_of_pos (by simpa using hkind), List.append_nil, hpiece, hkind]
        rfl
      | cons first before =>
        obtain rfl : first = d := (List.cons.inj hsplit).1
        exact absurd (hbefore first (by simp)) hd

end Segmentation

/-- A text with an illegal character has a first one. -/
theorem exists_first_illegal {cs : List Char} (h : ∃ c ∈ cs, ¬ IsLegal c) :
    ∃ before c behind, cs = before ++ c :: behind ∧ (∀ d ∈ before, IsLegal d) ∧ ¬ IsLegal c := by
  obtain ⟨c, hc⟩ : ∃ c, cs.find? (fun c => decide (¬ IsLegal c)) = some c :=
    Option.isSome_iff_exists.1 (List.find?_isSome.2 (by simpa using h))
  obtain ⟨hillegal, before, behind, hsplit, hbefore⟩ := List.find?_eq_some_iff_append.1 hc
  exact ⟨before, c, behind, hsplit, by simpa using hbefore, by simpa using hillegal⟩

/-- What tokenizing a text strictly comes to shows in its pieces. -/
theorem Segmentation.tokenizeStrict_text {text filename : String} {pieces : List Token}
    (h : Segmentation filename [] text.toList pieces) :
    tokenizeStrict text filename =
      match pieces.find? fun piece => piece.kind = .illegal with
      | some piece => .error ⟨piece.lexeme, piece.location⟩
      | none => .ok (tokenize text filename) := by
  have htokens : (Lexer.ofString text filename).tokenize.1 =
      pieces ++ [⟨.eof, "", .behind filename text.toList⟩] := h.tokenize_eq .nothing
  have hend : ([⟨.eof, "", .behind filename text.toList⟩] : List Token).find?
      (fun token => token.kind = .illegal) = none := rfl
  -- the end, which is behind the pieces, is not illegal
  rw [tokenizeStrict, Lexer.tokenizeStrict_eq, tokenize, htokens, List.find?_append, hend,
    Option.or_none]

/-- What is reported of an illegal token is what belongs to its one character. -/
theorem IllegalCharacter.diagnostic_singleton (c : Char) (place : Location) :
    diagnostic ⟨String.singleton c, place⟩ =
      { message := "Invalid character: '" ++ String.singleton c ++ "'"
        location := some place
        severity := "error"
        code := some "L001"
        help := some (illegalCharacterHelp c)
        suggestions := some (suggestions c) } := by
  have hchars : (String.singleton c).toList = [c] := String.toList_singleton c
  have hhelp : lexemeHelp (String.singleton c) = illegalCharacterHelp c := by
    rw [lexemeHelp, hchars]
  have hsuggestions : lexemeSuggestions (String.singleton c) = suggestions c := by
    rw [lexemeSuggestions, hchars]
  unfold diagnostic Diagnostic.illegalCharacter
  dsimp only
  rw [hhelp, hsuggestions]

/-- **Tokenizing strictly fails exactly on a text with an illegal character.** What is reported is
the first such character, at the place behind the characters in front of it, with the message, the
help and the suggestions that belong to the character, whatever is around it. A text without one has
the tokens that it has otherwise. -/
theorem tokenizeStrict_cases (text filename : String) :
    ((∃ found, tokenizeStrict text filename = .error found) ↔
      ∃ c ∈ text.toList, ¬ IsLegal c) ∧
    (∀ before c behind, text.toList = before ++ c :: behind → (∀ d ∈ before, IsLegal d) →
      ¬ IsLegal c → ∃ found, tokenizeStrict text filename = .error found ∧
        found.location = .behind filename before ∧
        found.diagnostic =
          { message := "Invalid character: '" ++ String.singleton c ++ "'"
            location := some (.behind filename before)
            severity := "error"
            code := some "L001"
            help := some (illegalCharacterHelp c)
            suggestions := some (suggestions c) }) ∧
    ((∀ c ∈ text.toList, IsLegal c) →
      tokenizeStrict text filename = .ok (tokenize text filename)) := by
  -- the pieces decide both outcomes, and the rest is read off these two
  obtain ⟨pieces, hpieces⟩ := exists_segmentation filename [] text.toList
  have hstrict := hpieces.tokenizeStrict_text
  have hillegal : ∀ before c behind, text.toList = before ++ c :: behind →
      (∀ d ∈ before, IsLegal d) → ¬ IsLegal c →
        tokenizeStrict text filename =
          .error ⟨String.singleton c, .behind filename before⟩ := by
    intro before c behind hsplit hbefore hc
    rw [hsplit] at hpieces
    rw [hstrict, hpieces.find?_illegal hbefore hc, List.nil_append]
  have hlegal : (∀ c ∈ text.toList, IsLegal c) →
      tokenizeStrict text filename = .ok (tokenize text filename) := by
    intro hall
    rw [hstrict, hpieces.find?_illegal_of_legal hall]
  refine ⟨⟨?_, ?_⟩, ?_, hlegal⟩
  · -- a text of legal characters does not fail
    rintro ⟨found, hfound⟩
    by_contra hnone
    rw [hlegal (by simpa using hnone)] at hfound
    cases hfound
  · -- one illegal character somewhere means that there is a first one
    intro h
    obtain ⟨before, c, behind, hsplit, hbefore, hc⟩ := exists_first_illegal h
    exact ⟨_, hillegal before c behind hsplit hbefore hc⟩
  · intro before c behind hsplit hbefore hc
    exact ⟨_, hillegal before c behind hsplit hbefore hc, rfl,
      IllegalCharacter.diagnostic_singleton c _⟩

/-- Of two illegal characters on the second line, the multiplication sign is reported and not the
comma behind it. -/
theorem tokenizeStrict_cases_times :
    (∀ d ∈ "1\n2 ".toList, IsLegal d) ∧ ¬ IsLegal '×' ∧
    ∃ found, tokenizeStrict "1\n2 ×,3" "input" = .error found ∧
      found.location = ⟨"input", 2, 3, 4⟩ ∧
      found.diagnostic.message = "Invalid character: '×'" ∧
      found.diagnostic.suggestions = some ["*"] := by
  have hall : "1\n2 ".toList.all (fun d => decide (IsLegal d)) = true := by decide +kernel
  have hbefore : ∀ d ∈ "1\n2 ".toList, IsLegal d :=
    fun d hd => of_decide_eq_true (List.all_eq_true.1 hall d hd)
  have hc : ¬ IsLegal '×' := by decide +kernel
  -- the place is counted out from the characters in front
  have hplace : Location.behind "input" "1\n2 ".toList = ⟨"input", 2, 3, 4⟩ := by decide +kernel
  obtain ⟨-, hfirst, -⟩ := tokenizeStrict_cases "1\n2 ×,3" "input"
  obtain ⟨found, hfound, hlocation, hdiagnostic⟩ :=
    hfirst "1\n2 ".toList '×' [',', '3'] (by decide +kernel) hbefore hc
  refine ⟨hbefore, hc, found, hfound, hlocation.trans hplace, ?_, ?_⟩
  · rw [hdiagnostic]
    rfl
  · rw [hdiagnostic]
    rfl

end ArithExpr
