import ArithExpr.Diagnostic
import ArithExpr.Token.Basic

/-!
# The lexer

A lexer is a cursor on the characters of a source. It hands out one token at a time, white space
included, and can put one character back.

A source is a sequence of Unicode scalar values and nothing else: surrogates that stand alone, which
are no characters, do not occur in one. It is all there from the beginning, whether it comes from a
text or from a file, and there is no limit on its length or on that of a token.

* `Lexer.read`, `Lexer.unread` — take the next character; put the last one back.
* `Lexer.takeRun` — take the longest run of characters of a class.
* `Lexer.scan` — take the next token: a run of white space, letters or digits as long as it goes, a
  single character that is of none of these classes, or the end.
* `Lexer.scan_spec` — the end is reported exactly when nothing is left, and any other token
  shortens what is left.
* `Lexer.tokenize` — all tokens that are left, the end included; `Lexer.tokenizeStrict` — the same,
  but the first character that no expression may hold ends it.
* `tokenize`, `tokenizeStrict` — both for a text.
-/

namespace ArithExpr

/-- What the latest reading of a character met, as far as it can still be undone. -/
inductive LastRead where
  /-- Nothing was read, or the reading was undone. -/
  | nothing
  | endOfText
  /-- The reading took a character, at the place `before`. -/
  | char (c : Char) (before : Location)
deriving DecidableEq

/-- A cursor on the characters of a source. -/
structure Lexer where
  /-- The characters still to be read. -/
  rest : List Char
  /-- The place of the first of them. -/
  location : Location
  last : LastRead
deriving DecidableEq

namespace Lexer

/-- The lexer at the beginning of a text given as a list of characters. -/
def ofChars (text : List Char) (filename : String) : Lexer :=
  ⟨text, .start filename, .nothing⟩

/-- The lexer at the beginning of a text. -/
def ofString (text filename : String) : Lexer :=
  ofChars text.toList filename

/-! ### Characters -/

/-- Takes the next character, if there is one. -/
def read (lexer : Lexer) : Option Char × Lexer :=
  match lexer.rest with
  | [] => (none, ⟨[], lexer.location, .endOfText⟩)
  | c :: rest => (some c, ⟨rest, lexer.location.advance c, .char c lexer.location⟩)

/-- Puts back the character that the latest reading took. A reading is undone once, and one that
met the end has nothing to put back. -/
def unread (lexer : Lexer) : Lexer :=
  match lexer.last with
  | .char c before => ⟨c :: lexer.rest, before, .nothing⟩
  | .endOfText | .nothing => ⟨lexer.rest, lexer.location, .nothing⟩

/-- Takes the longest run of characters of a class. The run ends where the text ends or with a
character of another class, which is read and put back. -/
def takeRun (cls : CharClass) (lexer : Lexer) : List Char × Lexer :=
  let run := lexer.rest.takeWhile cls.contains
  let rest := lexer.rest.dropWhile cls.contains
  -- a character behind the run was read and put back; the end was met, which is not undone
  (run, ⟨rest, lexer.location.advanceOver run, if rest.isEmpty then .endOfText else .nothing⟩)

/-! ### Tokens -/

/-- Takes a run as a token, which has no characters if the run is empty. -/
def takeToken (cls : CharClass) (lexer : Lexer) : Token × Lexer :=
  let (run, after) := lexer.takeRun cls
  (⟨cls.kind, String.ofList run, lexer.location⟩, after)

/-- Takes the next token: a run of a class, a character that stands alone, or the end. -/
def scan (lexer : Lexer) : Token × Lexer :=
  match lexer.read with
  | (none, after) => (⟨.eof, "", lexer.location⟩, after)
  | (some c, after) =>
    match CharClass.of? c with
    | some cls => lexer.takeToken cls
    | none => (⟨.ofChar c, String.singleton c, lexer.location⟩, after)

/-! ### What a scan leaves -/

/-- What a scan does: either it reports the end, and then nothing was left and nothing is, or it
takes a token of another kind and leaves less than there was. -/
theorem scan_spec (lexer : Lexer) :
    (lexer.scan.1.kind = .eof ∧ lexer.rest = [] ∧ lexer.scan.2.rest = []) ∨
      (lexer.scan.1.kind ≠ .eof ∧ lexer.scan.2.rest.length < lexer.rest.length) := by
  obtain ⟨rest, location, last⟩ := lexer
  -- a scan finds nothing only where nothing is left
  cases rest with
  | nil => exact .inl ⟨rfl, rfl, rfl⟩
  | cons c cs =>
    refine .inr ?_
    cases h : CharClass.of? c with
    | none => simp [scan, read, h, TokenKind.ofChar_ne_eof]
    | some cls =>
      -- the first character is of the class, so the run is not empty
      have hc := CharClass.contains_of_of? h
      have hle := (List.dropWhile_suffix (l := cs) cls.contains).length_le
      simp only [scan, read, h, takeToken, takeRun, List.dropWhile_cons, hc, if_true,
        List.length_cons]
      exact ⟨cls.kind_ne_eof, by omega⟩

theorem rest_scan_length (lexer : Lexer) : lexer.scan.2.rest.length ≤ lexer.rest.length := by
  rcases lexer.scan_spec with ⟨-, h, h'⟩ | ⟨-, h⟩
  · simp [h, h']
  · omega

/-- A scan that does not report the end leaves less than there was. -/
theorem rest_scan_length_lt {lexer : Lexer} (h : lexer.scan.1.kind ≠ .eof) :
    lexer.scan.2.rest.length < lexer.rest.length := by
  rcases lexer.scan_spec with ⟨he, -⟩ | ⟨-, hlt⟩
  · exact absurd he h
  · exact hlt

/-! ### The tokens of a whole text -/

/-- Takes all tokens that are left. The last of them, and no other, reports the end. -/
def tokenize (lexer : Lexer) : List Token × Lexer :=
  if _ : lexer.scan.1.kind = .eof then
    ([lexer.scan.1], lexer.scan.2)
  else
    let (tokens, final) := lexer.scan.2.tokenize
    (lexer.scan.1 :: tokens, final)
termination_by lexer.rest.length
decreasing_by exact rest_scan_length_lt ‹_›

/-- Takes all tokens that are left, up to the first illegal character. -/
def tokenizeStrict (lexer : Lexer) : Except IllegalCharacter (List Token) × Lexer :=
  if _ : lexer.scan.1.kind = .eof then
    (.ok [lexer.scan.1], lexer.scan.2)
  else if lexer.scan.1.kind = .illegal then
    (.error ⟨lexer.scan.1.lexeme, lexer.scan.1.location⟩, lexer.scan.2)
  else
    let (tokens, final) := lexer.scan.2.tokenizeStrict
    (tokens.map (lexer.scan.1 :: ·), final)
termination_by lexer.rest.length
decreasing_by exact rest_scan_length_lt ‹_›

end Lexer

/-- The tokens of a text, the end included. -/
def tokenize (text filename : String) : List Token :=
  (Lexer.ofString text filename).tokenize.1

/-- The tokens of a text that holds no illegal character, or the first such character. -/
def tokenizeStrict (text filename : String) : Except IllegalCharacter (List Token) :=
  (Lexer.ofString text filename).tokenizeStrict.1

end ArithExpr
