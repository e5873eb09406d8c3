import ArithExpr.Proofs.CharacterClasses
import ArithExpr.Proofs.Literals
import ArithExpr.Tree.Printer

/-!
# The tokens of a written tree

A tree is written without white space, so its tokens are kept apart by nothing but their characters.
Two runs of digits never meet, since an operator, a parenthesis or a point stands between them.

* `Lexer.scan_run`, `Lexer.scan_single` — what a scan takes, given the characters that it meets.
* `Lexer.ReadsAs` — what the characters in front of some others are read as; `Lexer.ReadsAs.append`.
* `Node.Conventional` — every operator in a node is written with the character of its symbol.
* `Tree.readsAs_source` — what is written for such a tree is read as tokens that the grammar
  derives from the phrase of the tree.
-/

namespace ArithExpr

open Grammar

/-! ### Characters that stand alone -/

theorem CharClass.of?_char (s : OperatorSymbol) : CharClass.of? s.char = none := by
  cases s <;> decide

theorem OperatorSymbol.isDecimalDigit_char (s : OperatorSymbol) :
    isDecimalDigit s.char = false := by
  cases s <;> decide

theorem TokenKind.ofChar_char (s : OperatorSymbol) : TokenKind.ofChar s.char = .operator s := by
  cases s <;> decide

namespace Lexer

/-! ### Scanning given characters -/

/-- A run is scanned as a whole if what is behind it does not carry it on. -/
theorem scan_run {cls : CharClass} {run rest : List Char} (h : cls.IsRun run)
    (stop : ∀ c ∈ rest.head?, cls.contains c = false) (place : Location) (last : LastRead) :
    ∃ last', scan ⟨run ++ rest, place, last⟩ =
      (⟨cls.kind, String.ofList run, place⟩, ⟨rest, place.advanceOver run, last'⟩) := by
  -- the run goes as far as its characters are of the class, and no further
  have htake : (run ++ rest).takeWhile cls.contains = run := by
    rw [List.takeWhile_append_of_pos h.2]
    cases rest with
    | nil => exact List.append_nil run
    | cons c rest =>
      rw [List.takeWhile_cons_of_neg (by simp [stop c rfl])]
      exact List.append_nil run
  have hdrop : (run ++ rest).dropWhile cls.contains = rest := by
    rw [List.dropWhile_append_of_pos h.2]
    cases rest with
    | nil => rfl
    | cons c rest => exact List.dropWhile_cons_of_neg (by simp [stop c rfl])
  -- the class of the run is decided by its first character
  obtain ⟨c, cs, rfl⟩ := List.exists_cons_of_ne_nil h.1
  have hc : CharClass.of? c = some cls := CharClass.of?_contains (h.2 c List.mem_cons_self)
  rw [List.cons_append] at htake hdrop ⊢
  refine ⟨if rest.isEmpty then .endOfText else .nothing, ?_⟩
  simp only [scan, read, hc, takeToken, takeRun, htake, hdrop]

theorem scan_single {c : Char} (h : CharClass.of? c = none) (rest : List Char) (place : Location)
    (last : LastRead) :
    scan ⟨c :: rest, place, last⟩ =
      (⟨.ofChar c, String.singleton c, place⟩, ⟨rest, place.advance c, .char c place⟩) := by
  simp only [scan, read, h]

/-! ### Characters and their tokens -/

/-- In front of the characters `rest`, the characters `cs` are read as tokens of which `P` holds,
wherever the lexer stands. -/
def ReadsAs (cs rest : List Char) (P : List Token → Prop) : Prop :=
  ∀ place last, ∃ tokens place' last',
    tokensAhead ⟨cs ++ rest, place, last⟩ = tokens ++ tokensAhead ⟨rest, place', last'⟩ ∧ P tokens

namespace ReadsAs

variable {cs ds rest : List Char} {P Q : List Token → Prop}

theorem mono (h : ReadsAs cs rest P) (himp : ∀ tokens, P tokens → Q tokens) :
    ReadsAs cs rest Q := by
  intro place last
  obtain ⟨tokens, place', last', heq, hP⟩ := h place last
  exact ⟨tokens, place', last', heq, himp tokens hP⟩

/-- **Texts are read one after the other.** -/
theorem append (h : ReadsAs cs (ds ++ rest) P) (h' : ReadsAs ds rest Q) :
    ReadsAs (cs ++ ds) rest fun tokens =>
      ∃ left right, tokens = left ++ right ∧ P left ∧ Q right := by
  intro place last
  -- the second text is read from where the first one left the lexer
  obtain ⟨left, place₁, last₁, heq, hP⟩ := h place last
  obtain ⟨right, place₂, last₂, heq', hQ⟩ := h' place₁ last₁
  refine ⟨left ++ right, place₂, last₂, ?_, left, right, rfl, hP, hQ⟩
  rw [List.append_assoc, heq, heq', List.append_assoc]

end ReadsAs

/-- A run of digits is read as one token if no digit is behind it. -/
theorem readsAs_digits {run rest : List Char} (h : CharClass.digit.IsRun run)
    (stop : ∀ c ∈ rest.head?, isDecimalDigit c = false) :
    ReadsAs run rest fun tokens =>
      ∃ token, tokens = [token] ∧ token.kind = .digits ∧ token.lexeme = String.ofList run := by
  intro place last
  obtain ⟨last', hscan⟩ := scan_run h stop place last
  refine ⟨[⟨.digits, String.ofList run, place⟩], place.advanceOver run, last', ?_, _, rfl, rfl, rfl⟩
  -- digits are no space, so their token is among those ahead
  rw [tokensAhead_scan, hscan]
  rfl

theorem readsAs_single {c : Char} (h : CharClass.of? c = none) (rest : List Char) :
    ReadsAs [c] rest fun tokens =>
      ∃ token, tokens = [token] ∧ token.kind = .ofChar c ∧ token.lexeme = String.singleton c := by
  intro place last
  refine ⟨[⟨.ofChar c, String.singleton c, place⟩], place.advance c, .char c place, ?_, _, rfl, rfl,
    rfl⟩
  have hsignificant : Token.isSignificant ⟨.ofChar c, String.singleton c, place⟩ = true := by
    -- a character that stands alone is no space, whatever it is
    rw [Token.isSignificant_iff]
    rcases TokenKind.ofChar_cases c with hk | hk | hk | hk | ⟨s, hk⟩ <;> simp [hk]
  rw [List.singleton_append, tokensAhead_scan, scan_single h, if_pos hsignificant]
  rfl

theorem readsAs_literal {text : String} (h : Decimal.Written text.toList) {rest : List Char}
    (stop : ∀ c ∈ rest.head?, isDecimalDigit c = false) :
    ReadsAs text.toList rest fun tokens => Literal tokens text := by
  obtain ⟨cs, rfl⟩ : ∃ cs, text = String.ofList cs := ⟨text.toList, String.ofList_toList.symm⟩
  rw [String.toList_ofList] at h ⊢
  -- with or without a point, the digits in front are read up to what stops them
  cases h with
  | whole digits =>
    refine (readsAs_digits digits stop).mono ?_
    rintro tokens ⟨token, rfl, hk, hlexeme⟩
    rw [← hlexeme]
    exact .whole hk
  | @fraction before behind digits fractional =>
    -- the point keeps the two runs of digits apart
    have hpoint : ReadsAs ['.'] (behind ++ rest) _ := readsAs_single (by decide) _
    have hbehind := hpoint.append (readsAs_digits fractional stop)
    have hstop : ∀ c ∈ (['.'] ++ behind ++ rest).head?, isDecimalDigit c = false := by
      intro c hc
      obtain rfl := Option.some.inj hc
      exact Decimal.isDecimalDigit_point
    have hbefore := readsAs_digits digits hstop
    refine (hbefore.append hbehind).mono ?_
    rintro tokens ⟨_, _, rfl, ⟨integral, rfl, hk, hl⟩, _, _, rfl, ⟨point, rfl, hk', hl'⟩,
      fractional, rfl, hk'', hl''⟩
    have htext : String.ofList (before ++ '.' :: behind) =
        integral.lexeme ++ point.lexeme ++ fractional.lexeme := by
      rw [hl, hl', hl'', ← String.toList_inj]
      simp
    rw [htext]
    exact .fraction hk hk' hk''

end Lexer

/-! ### Written trees -/

/-- The operator is written with the character of its symbol. -/
def Operator.Conventional {p : Precedence} (op : Operator p) : Prop :=
  op.lexeme = String.singleton op.symbol.char

/-- Every operator in the tree is written with the character of its symbol. -/
def Tree.Conventional : {l : Level} → Tree l → Prop
  | _, number .. => True
  | _, group inner _ => inner.Conventional
  | _, single operand _ => operand.Conventional
  | _, link operand op rest _ => operand.Conventional ∧ op.Conventional ∧ rest.Conventional

/-- Every operator at the node and beneath it is written with the character of its symbol. -/
def Node.Conventional : Node → Prop
  | tree t => t.Conventional
  | number _ => True
  | operator op => op.Conventional

/-- An operator is read as a token of its symbol. -/
theorem Operator.readsAs_lexeme {p : Precedence} {op : Operator p} (h : op.Conventional)
    (rest : List Char) :
    Lexer.ReadsAs op.lexeme.toList rest fun tokens =>
      ∃ token, tokens = [token] ∧ token.kind = .operator op.symbol ∧
        token.lexeme = op.lexeme := by
  rw [show op.lexeme = String.singleton op.symbol.char from h, String.toList_singleton,
    ← TokenKind.ofChar_char]
  exact Lexer.readsAs_single (CharClass.of?_char _) rest

/-- **A written tree is read as its phrase**, if no digit is behind it. -/
theorem Tree.readsAs_source {l : Level} {t : Tree l} (ht : t.Conventional) {rest : List Char}
    (stop : ∀ c ∈ rest.head?, isDecimalDigit c = false) :
    Lexer.ReadsAs t.source.toList rest fun tokens => Derives tokens t.phrase := by
  -- the induction is for any `rest`, since what stands behind a part is the rest of the whole
  induction t generalizing rest with
  | number a _ =>
    exact (Lexer.readsAs_literal (decimalValue_eq_ok a.denotes).1 stop).mono fun _ => .number
  | group inner _ ih =>
    -- the parentheses are read on their own, since no run goes past them
    have hclosing : Lexer.ReadsAs [')'] rest _ := Lexer.readsAs_single (by decide) rest
    have hstop : ∀ c ∈ ([')'] ++ rest).head?, isDecimalDigit c = false := by
      intro c hc
      obtain rfl := Option.some.inj hc
      decide
    have hinner := (ih ht hstop).append hclosing
    have hopening : Lexer.ReadsAs ['('] (inner.source.toList ++ [')'] ++ rest) _ :=
      Lexer.readsAs_single (by decide) _
    have hsource : (group inner ‹_›).source.toList = ['('] ++ (inner.source.toList ++ [')']) := by
      simp [source]
    rw [hsource]
    refine (hopening.append hinner).mono ?_
    rintro tokens
      ⟨_, _, rfl, ⟨opening, rfl, hk, -⟩, content, _, rfl, hcontent, closing, rfl, hk', -⟩
    exact .group hk hcontent hk'
  | single operand _ ih => exact (ih ht stop).mono fun _ => .single
  | @link p operand op further _ ih ih' =>
    obtain ⟨hoperand, hop, hfurther⟩ := ht
    -- the operator ends the last run of the operand before it
    have hbehind := (op.readsAs_lexeme hop (further.source.toList ++ rest)).append
      (ih' hfurther stop)
    have hstop : ∀ c ∈ (op.lexeme.toList ++ further.source.toList ++ rest).head?,
        isDecimalDigit c = false := by
      rw [show op.lexeme = String.singleton op.symbol.char from hop, String.toList_singleton]
      intro c hc
      obtain rfl := Option.some.inj hc
      exact OperatorSymbol.isDecimalDigit_char _
    have hfirst := ih hoperand hstop
    have hsource : (link operand op further ‹_›).source.toList =
        operand.source.toList ++ (op.lexeme.toList ++ further.source.toList) := by
      simp [source]
    rw [hsource]
    refine (hfirst.append hbehind).mono ?_
    rintro tokens ⟨left, _, rfl, hleft, _, right, rfl, ⟨token, rfl, hk, hlexeme⟩, hright⟩
    rw [phrase, ← hlexeme]
    exact .link hleft hk op.belongs hright

end ArithExpr
