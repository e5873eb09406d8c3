import ArithExpr.Lexer.Basic

/-!
# What a scan does

The lexer is described here once, for everything that is said about the parser later. A scan meets
the end, takes a run that goes as far as it can, or takes a single character
(`Lexer.Scans`). Two consequences carry the parser:

* every token is spelled as its kind says (`Lexer.spelled_scan`);
* no scan takes white space right after white space (`Lexer.follows_scan`), which is why the parser
  may skip one token of white space and be sure that the next one is not.

`Lexer.tokensAhead` is what the grammar gets to see of the text that is left: the tokens that are
neither white space nor the end. A scan takes the first of them off, or takes white space and
leaves them as they are (`Lexer.tokensAhead_scan`).
-/

namespace ArithExpr

/-! ### Spelling -/

/-- A run of a class is not empty and holds characters of the class only. -/
def CharClass.IsRun (cls : CharClass) (cs : List Char) : Prop :=
  cs ≠ [] ∧ ∀ c ∈ cs, cls.contains c = true

/-- Whether characters are a run is decided by looking at each of them. -/
instance (cls : CharClass) (cs : List Char) : Decidable (cls.IsRun cs) :=
  decidable_of_iff (cs ≠ [] ∧ cs.all cls.contains = true) (by rw [List.all_eq_true]; rfl)

namespace Token

/-- A token is spelled as its kind says. Runs are of one class, the end has no characters, and
every other token is a single character that stands alone. -/
def Spelled (token : Token) : Prop :=
  match token.kind with
  | .eof => token.lexeme = ""
  | .whitespace => CharClass.whitespace.IsRun token.lexeme.toList
  | .word => CharClass.letter.IsRun token.lexeme.toList
  | .digits => CharClass.digit.IsRun token.lexeme.toList
  | kind => ∃ c, token.lexeme = String.singleton c ∧ TokenKind.ofChar c = kind ∧
      CharClass.of? c = none

/-- The kind and the characters of a token, wherever it stands. -/
def spelling (token : Token) : TokenKind × String :=
  (token.kind, token.lexeme)

/-- Says whether the grammar has a use for the token: it is neither white space nor the end. -/
def isSignificant (token : Token) : Bool :=
  token.kind ≠ .whitespace && token.kind ≠ .eof

theorem isSignificant_iff {token : Token} :
    token.isSignificant = true ↔ token.kind ≠ .whitespace ∧ token.kind ≠ .eof := by
  simp [isSignificant]

theorem spelled_of_isRun {cls : CharClass} {cs : List Char} (h : cls.IsRun cs)
    (place : Location) : Spelled ⟨cls.kind, String.ofList cs, place⟩ := by
  cases cls <;> simpa [Spelled, CharClass.kind] using h

end Token

namespace TokenKind

/-- The kinds of single characters: none of them is the kind of a run or the end. -/
theorem ofChar_cases (c : Char) :
    ofChar c = .leftParen ∨ ofChar c = .rightParen ∨ ofChar c = .dot ∨ ofChar c = .illegal ∨
      ∃ s, ofChar c = .operator s := by
  unfold ofChar ofChar?
  repeat' split
  · simp
  · simp
  · simp
  · -- what has no kind of its own is an operator, or else illegal
    cases OperatorSymbol.ofChar? c <;> simp

/-- The character that writes tokens of a kind, if there is only one. -/
def mark? : TokenKind → Option Char
  | leftParen => some '('
  | rightParen => some ')'
  | dot => some '.'
  | operator symbol => some symbol.char
  | eof | whitespace | word | digits | illegal => none

/-- A single character of a kind that has only one character is that character. -/
theorem eq_of_mark?_ofChar {c mark : Char} (h : (ofChar c).mark? = some mark) : c = mark := by
  unfold ofChar ofChar? at h
  repeat' split at h
  · next hc => exact hc.trans (Option.some.inj h)
  · next hc => exact hc.trans (Option.some.inj h)
  · next hc => exact hc.trans (Option.some.inj h)
  · cases hs : OperatorSymbol.ofChar? c with
    | none => simp [hs, mark?] at h
    | some s =>
      rw [hs] at h
      exact (OperatorSymbol.char_of_ofChar? hs).symm.trans (Option.some.inj h)

end TokenKind

namespace Token

theorem spelled_ofChar {c : Char} (h : CharClass.of? c = none) (place : Location) :
    Spelled ⟨TokenKind.ofChar c, String.singleton c, place⟩ := by
  unfold Spelled
  rcases TokenKind.ofChar_cases c with hk | hk | hk | hk | ⟨s, hk⟩ <;> rw [hk] <;>
    exact ⟨c, rfl, hk, h⟩

theorem Spelled.mark {token : Token} {mark : Char} (h : token.Spelled)
    (hk : token.kind.mark? = some mark) : token.lexeme = String.singleton mark := by
  unfold Spelled at h
  split at h
  case h_5 =>
    obtain ⟨c, hl, hc, -⟩ := h
    rw [← hc] at hk
    rw [hl, TokenKind.eq_of_mark?_ofChar hk]
  -- a run may have any characters of its class, and the end has none
  all_goals simp_all [TokenKind.mark?]

theorem Spelled.operator {token : Token} {s : OperatorSymbol} (h : token.Spelled)
    (hk : token.kind = .operator s) : token.lexeme = String.singleton s.char :=
  h.mark (by rw [hk]; rfl)

theorem Spelled.digits {token : Token} (h : token.Spelled) (hk : token.kind = .digits) :
    CharClass.digit.IsRun token.lexeme.toList := by
  unfold Spelled at h
  rwa [hk] at h

end Token

/-! ### What a scan can do -/

namespace Lexer

/-- The token that reports the end of the text, wherever before it the lexer stands. -/
def endToken (lexer : Lexer) : Token :=
  ⟨.eof, "", lexer.location.advanceOver lexer.rest⟩

/-- **Everything a scan can do**: meet the end, take a run of a class as far as it goes, or take one
character that is of no class. -/
inductive Scans : Lexer → Token × Lexer → Prop where
  | finish (place : Location) (last : LastRead) :
      Scans ⟨[], place, last⟩ (⟨.eof, "", place⟩, ⟨[], place, .endOfText⟩)
  | run {cls : CharClass} {run rest : List Char} (place : Location) (last last' : LastRead)
      (isRun : cls.IsRun run) (stop : ∀ c ∈ rest.head?, cls.contains c = false) :
      Scans ⟨run ++ rest, place, last⟩
        (⟨cls.kind, String.ofList run, place⟩, ⟨rest, place.advanceOver run, last'⟩)
  | single {c : Char} {rest : List Char} (place : Location) (last last' : LastRead)
      (alone : CharClass.of? c = none) :
      Scans ⟨c :: rest, place, last⟩
        (⟨.ofChar c, String.singleton c, place⟩, ⟨rest, place.advance c, last'⟩)

theorem head_dropWhile {p : Char → Bool} {cs : List Char} :
    ∀ c ∈ (cs.dropWhile p).head?, p c = false := by
  intro c hc
  have h := List.head?_dropWhile_not p cs
  rw [Option.mem_def] at hc
  rwa [hc] at h

theorem scans (lexer : Lexer) : Scans lexer lexer.scan := by
  obtain ⟨rest, place, last⟩ := lexer
  cases rest with
  | nil => exact .finish place last
  | cons c cs =>
    -- the first character decides which of the three it is
    cases hc : CharClass.of? c with
    | none =>
      simp only [scan, read, hc]
      exact .single place last _ hc
    | some cls =>
      have hrun : cls.IsRun ((c :: cs).takeWhile cls.contains) := by
        refine ⟨?_, fun d hd => List.all_eq_true.1 List.all_takeWhile d hd⟩
        -- the first character is of the class
        simp [CharClass.contains_of_of? hc]
      have hstop : ∀ d ∈ ((c :: cs).dropWhile cls.contains).head?, cls.contains d = false :=
        head_dropWhile
      have h := Scans.run place last
        (if ((c :: cs).dropWhile cls.contains).isEmpty then .endOfText else .nothing) hrun hstop
      rw [List.takeWhile_append_dropWhile] at h
      simp only [scan, read, hc]
      exact h

theorem spelled_scan (lexer : Lexer) : lexer.scan.1.Spelled := by
  have h := lexer.scans
  generalize lexer.scan = scanned at h ⊢
  cases h with
  | finish => rfl
  | run _ _ _ isRun => exact Token.spelled_of_isRun isRun _
  | single _ _ _ alone => exact Token.spelled_ofChar alone _

@[simp] theorem endToken_scan (lexer : Lexer) : lexer.scan.2.endToken = lexer.endToken := by
  have h := lexer.scans
  generalize lexer.scan = scanned at h ⊢
  cases h with
  | finish => rfl
  | run => simp only [endToken, Location.advanceOver, List.foldl_append]
  | single => rfl

/-- A scan that reports the end reports the one end token, and nothing was left. -/
theorem scan_of_eof {lexer : Lexer} (h : lexer.scan.1.kind = .eof) :
    lexer.rest = [] ∧ lexer.scan.2.rest = [] ∧ lexer.scan.1 = lexer.endToken := by
  have hs := lexer.scans
  generalize lexer.scan = scanned at hs h ⊢
  cases hs with
  | finish => exact ⟨rfl, rfl, rfl⟩
  | run => exact absurd h (CharClass.kind_ne_eof _)
  | single => exact absurd h (TokenKind.ofChar_ne_eof _)

theorem scan_of_whitespace {lexer : Lexer} (h : lexer.scan.1.kind = .whitespace) :
    (∃ c ∈ lexer.rest.head?, CharClass.whitespace.contains c = true) ∧
      ∀ c ∈ lexer.scan.2.rest.head?, CharClass.whitespace.contains c = false := by
  have hs := lexer.scans
  generalize lexer.scan = scanned at hs h ⊢
  cases hs with
  | finish => simp at h
  | @run cls run rest place last last' isRun stop =>
    -- only runs of white space are of the kind of white space
    obtain rfl : cls = .whitespace := by cases cls <;> simp [CharClass.kind] at h ⊢
    obtain ⟨c, cs, rfl⟩ := List.exists_cons_of_ne_nil isRun.1
    exact ⟨⟨c, by simp, isRun.2 c List.mem_cons_self⟩, stop⟩
  | @single c =>
    rcases TokenKind.ofChar_cases c with hk | hk | hk | hk | ⟨s, hk⟩ <;> simp [hk] at h

/-! ### All tokens -/

theorem tokenize_of_eof {lexer : Lexer} (h : lexer.scan.1.kind = .eof) :
    lexer.tokenize.1 = [lexer.scan.1] := by
  rw [tokenize, dif_pos h]

theorem tokenize_of_ne_eof {lexer : Lexer} (h : lexer.scan.1.kind ≠ .eof) :
    lexer.tokenize.1 = lexer.scan.1 :: lexer.scan.2.tokenize.1 := by
  rw [tokenize, dif_neg h]

/-! ### After a scan -/

/-- The lexer stands right behind a token: as far as the parser goes, the two fit together as they
do after a scan. -/
structure Follows (lexer : Lexer) (token : Token) : Prop where
  /-- The token is spelled as its kind says. -/
  spelled : token.Spelled
  /-- White space is not followed by more white space. -/
  maximal : token.kind = .whitespace → lexer.scan.1.kind ≠ .whitespace
  /-- Nothing comes after the end. -/
  last : token.kind = .eof → lexer.rest = [] ∧ token = lexer.endToken

/-- **Scanning is maximal.** After a scan the lexer stands right behind the token. -/
theorem follows_scan (lexer : Lexer) : lexer.scan.2.Follows lexer.scan.1 where
  spelled := lexer.spelled_scan
  maximal := by
    -- the first run has stopped at what the second one would begin with
    intro h h'
    obtain ⟨-, hstop⟩ := scan_of_whitespace h
    obtain ⟨⟨c, hc, hw⟩, -⟩ := scan_of_whitespace h'
    rw [hstop c hc] at hw
    exact absurd hw (by simp)
  last := by
    intro h
    obtain ⟨-, hrest, htoken⟩ := scan_of_eof h
    exact ⟨hrest, by rw [endToken_scan, htoken]⟩

/-! ### What the grammar gets to see -/

/-- The tokens that are left, without white space and without the end. -/
def tokensAhead (lexer : Lexer) : List Token :=
  lexer.tokenize.1.filter Token.isSignificant

theorem tokensAhead_of_rest_nil {lexer : Lexer} (h : lexer.rest = []) : lexer.tokensAhead = [] := by
  obtain ⟨rest, location, last⟩ := lexer
  obtain rfl : rest = [] := h
  have he : (scan ⟨[], location, last⟩).1.kind = .eof := rfl
  rw [tokensAhead, tokenize, dif_pos he]
  rfl

/-- A scan takes the first of the tokens ahead, or one that does not count among them. -/
theorem tokensAhead_scan (lexer : Lexer) :
    lexer.tokensAhead =
      if lexer.scan.1.isSignificant then lexer.scan.1 :: lexer.scan.2.tokensAhead
      else lexer.scan.2.tokensAhead := by
  -- behind the end nothing is left, so that nothing is ahead either way
  by_cases h : lexer.scan.1.kind = .eof
  · obtain ⟨hr, hr', -⟩ := scan_of_eof h
    rw [tokensAhead_of_rest_nil hr, tokensAhead_of_rest_nil hr']
    simp [Token.isSignificant, h]
  · rw [tokensAhead, tokenize, dif_neg h, List.filter_cons]
    rfl

theorem tokensAhead_spec (lexer : Lexer) :
    ∀ token ∈ lexer.tokensAhead, token.isSignificant = true ∧ token.Spelled := by
  -- the induction is on the characters that are left, since every token but the end takes some
  induction h : lexer.rest.length using Nat.strongRecOn generalizing lexer with
  | ind n ih =>
    rw [tokensAhead_scan]
    by_cases he : lexer.scan.1.kind = .eof
    · obtain ⟨-, hr, -⟩ := scan_of_eof he
      simp [Token.isSignificant, he, tokensAhead_of_rest_nil hr]
    · have hlt := rest_scan_length_lt he
      have hrest := ih _ (by omega) lexer.scan.2 rfl
      split
      · next hs =>
        intro token hmem
        rcases List.mem_cons.1 hmem with rfl | hmem
        · exact ⟨hs, lexer.spelled_scan⟩
        · exact hrest token hmem
      · exact hrest

end Lexer

end ArithExpr
