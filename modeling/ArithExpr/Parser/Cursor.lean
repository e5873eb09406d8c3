import ArithExpr.Lexer.Basic

/-!
# The cursor on tokens

A parser is a lexer and one slot for a token. The slot holds the token that was read last, and
whether it has been taken or is still ahead. So one token can be looked at before it is taken, and
one can be given back.

* `Parser.scan`, `Parser.unscan` — take the next token; give it back.
* `Parser.peek` — look at the next token that is not white space.
* `Parser.scanIgnoringSpace` — take that token.
* `Parser.remaining` — a measure of what is ahead. Looking never raises it, and taking a token that
  is not the end lowers it.
-/

namespace ArithExpr

/-- What the parser holds between it and the lexer: at most one token. -/
inductive Slot where
  | empty
  /-- The token was read last and has been taken. -/
  | taken (token : Token)
  /-- The token was read and is still to be taken. -/
  | ahead (token : Token)
deriving DecidableEq

namespace Slot

/-- A measure of what a slot holds ahead. The end does not count, since it can be read again and
again. -/
def weight : Slot → Nat
  | .ahead token => if token.kind = .eof then 0 else 1
  | .taken _ | .empty => 0

theorem weight_ahead_le (token : Token) : (ahead token).weight ≤ 1 := by
  simp only [weight]
  split <;> omega

end Slot

/-- A cursor on the tokens of a source. -/
structure Parser where
  /-- Where the further tokens come from. -/
  lexer : Lexer
  slot : Slot
deriving DecidableEq

namespace Parser

/-- The parser that draws on a lexer and has read nothing. -/
def ofLexer (lexer : Lexer) : Parser :=
  ⟨lexer, .empty⟩

/-- The parser at the beginning of a text. -/
def ofString (text filename : String) : Parser :=
  ofLexer (.ofString text filename)

/-- Takes the next token: the one that is ahead, else one from the lexer. -/
def scan (parser : Parser) : Token × Parser :=
  match parser.slot with
  | .ahead token => (token, ⟨parser.lexer, .taken token⟩)
  | .taken _ | .empty => (parser.lexer.scan.1, ⟨parser.lexer.scan.2, .taken parser.lexer.scan.1⟩)

/-- Gives back the token that was taken last. Only one token can be given back. -/
def unscan (parser : Parser) : Parser :=
  match parser.slot with
  | .taken token => ⟨parser.lexer, .ahead token⟩
  | .ahead _ | .empty => parser

/-- The token that is ahead, or else the next one from the lexer, with the lexer after it. -/
def fill (parser : Parser) : Token × Lexer :=
  match parser.slot with
  | .ahead token => (token, parser.lexer)
  | .taken _ | .empty => parser.lexer.scan

/-- Looks at the next token that is not white space. A run of white space goes as far as it can, so
skipping one is enough. -/
def peek (parser : Parser) : Token × Parser :=
  let (token, lexer) := parser.fill
  if token.isWhitespace then
    let (next, after) := lexer.scan
    (next, ⟨after, .ahead next⟩)
  else
    (token, ⟨lexer, .ahead token⟩)

/-- Takes the next token that is not white space. -/
def scanIgnoringSpace (parser : Parser) : Token × Parser :=
  let (token, after) := parser.scan
  if token.isWhitespace then after.scan else (token, after)

/-! ### What is ahead -/

/-- A measure of what is ahead of a parser. A character that is not read yet counts more than a
token that is, so that reading ahead does not raise the measure. -/
def remaining (parser : Parser) : Nat :=
  2 * parser.lexer.rest.length + parser.slot.weight

/-- Reading a token ahead of an empty slot does not raise the measure. -/
theorem remaining_read_le (lexer : Lexer) :
    2 * lexer.scan.2.rest.length + (Slot.ahead lexer.scan.1).weight ≤
      2 * lexer.rest.length := by
  rcases lexer.scan_spec with ⟨hk, h, h'⟩ | ⟨-, h⟩
  · simp [Slot.weight, hk, h, h']
  · have := Slot.weight_ahead_le lexer.scan.1
    omega

theorem remaining_fill_le (parser : Parser) :
    2 * parser.fill.2.rest.length + (Slot.ahead parser.fill.1).weight ≤ parser.remaining := by
  obtain ⟨lexer, slot⟩ := parser
  cases slot with
  | ahead token => exact Nat.le_refl _
  | taken | empty => exact remaining_read_le lexer

theorem slot_peek (parser : Parser) : parser.peek.2.slot = .ahead parser.peek.1 := by
  unfold peek
  dsimp only
  split <;> rfl

theorem remaining_peek_le (parser : Parser) : parser.peek.2.remaining ≤ parser.remaining := by
  have hfill := parser.remaining_fill_le
  unfold peek
  dsimp only
  split
  · -- the token behind the white space is read ahead, too
    have := remaining_read_le parser.fill.2
    simp only [remaining] at hfill ⊢
    omega
  · exact hfill

theorem remaining_scan_le (parser : Parser) : parser.scan.2.remaining ≤ parser.remaining := by
  obtain ⟨lexer, slot⟩ := parser
  cases slot with
  -- a token that is ahead is taken without the lexer
  | ahead token => exact Nat.add_le_add_left (Nat.zero_le _) _
  | taken | empty => exact Nat.mul_le_mul_left 2 lexer.rest_scan_length

/-- Taking a token behind white space does not raise the measure. -/
theorem remaining_scanIgnoringSpace_le (parser : Parser) :
    parser.scanIgnoringSpace.2.remaining ≤ parser.remaining := by
  unfold scanIgnoringSpace
  dsimp only
  split
  · exact Nat.le_trans (remaining_scan_le _) (remaining_scan_le _)
  · exact remaining_scan_le _

/-- A token that is ahead and no white space is the one that is taken. -/
theorem scanIgnoringSpace_of_ahead {parser : Parser} {token : Token}
    (h : parser.slot = .ahead token) (hs : token.isWhitespace = false) :
    parser.scanIgnoringSpace = (token, ⟨parser.lexer, .taken token⟩) := by
  simp [scanIgnoringSpace, scan, h, hs]

/-- Taking the token that was seen ahead lowers the measure, unless it is the end or white space. -/
theorem remaining_take_lt (parser : Parser) (he : parser.peek.1.kind ≠ .eof)
    (hs : parser.peek.1.kind ≠ .whitespace) :
    parser.peek.2.scanIgnoringSpace.2.remaining < parser.remaining := by
  have hs' : parser.peek.1.isWhitespace = false := by simp [Token.isWhitespace, hs]
  have hle := parser.remaining_peek_le
  -- the slot has held the token, and now it holds nothing that counts
  rw [scanIgnoringSpace_of_ahead parser.slot_peek hs']
  simp only [remaining, parser.slot_peek, Slot.weight, he, if_false] at hle ⊢
  omega

end Parser

end ArithExpr
