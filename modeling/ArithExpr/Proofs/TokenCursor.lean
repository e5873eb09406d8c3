import ArithExpr.Proofs.Places
import ArithExpr.Proofs.Reachable

/-!
# The slot as a cursor on the tokens

A parser draws tokens from a lexer one by one and holds the latest in its slot. Seen from outside it
is a cursor on the list of all tokens of the text: all that counts is how many of them have been
drawn, and whether the latest is still to be taken (`TokenCursor`). The operations on the slot are
defined here once more, on such a cursor and without a lexer.

* `Lexer.tokenAt` — the tokens of a text by their number, the end again and again behind the last.
* `Lexer.parserAt` — the parser that a cursor stands for.
* `Lexer.scan_parserAt`, `Lexer.unscan_parserAt`, `Lexer.peek_parserAt`,
  `Lexer.scanIgnoringSpace_parserAt` — an operation on the parser is the same operation on the
  cursor.
* `Parser.session_slotSteps` — so sessions of such operations give the same tokens. No look ahead
  meets white space, looking twice sees the same, and a token given back is the one taken next.
-/

namespace ArithExpr

/-! ### Tokens by number -/

namespace Lexer

/-- The lexer after some scans. -/
def drawn (lexer : Lexer) : Nat → Lexer
  | 0 => lexer
  | n + 1 => (lexer.drawn n).scan.2

theorem drawn_scan (lexer : Lexer) (n : Nat) : lexer.scan.2.drawn n = lexer.drawn (n + 1) := by
  induction n with
  | zero => rfl
  | succ n ih =>
    calc lexer.scan.2.drawn (n + 1)
      _ = (lexer.scan.2.drawn n).scan.2 := rfl
      _ = (lexer.drawn (n + 1)).scan.2 := by rw [ih]
      _ = lexer.drawn (n + 1 + 1) := rfl

/-- The tokens that are left, by their number. Behind the last of them comes the end, again and
again. -/
def tokenAt (lexer : Lexer) (n : Nat) : Token :=
  lexer.tokenize.1.getD n lexer.endToken

theorem tokenAt_zero (lexer : Lexer) : lexer.tokenAt 0 = lexer.scan.1 := by
  rw [tokenAt]
  -- the first token is the end or it is not, and it is scanned in both cases
  by_cases h : lexer.scan.1.kind = .eof
  · rw [tokenize_of_eof h]
    rfl
  · rw [tokenize_of_ne_eof h]
    rfl

theorem tokenAt_succ (lexer : Lexer) (n : Nat) :
    lexer.tokenAt (n + 1) = lexer.scan.2.tokenAt n := by
  rw [tokenAt, tokenAt, endToken_scan]
  by_cases h : lexer.scan.1.kind = .eof
  · -- nothing is left behind the end, so it is met again
    obtain ⟨-, hrest, -⟩ := scan_of_eof h
    have hagain : lexer.scan.2.scan.1.kind = .eof := by
      generalize lexer.scan.2 = after at hrest
      obtain ⟨rest, place, last⟩ := after
      obtain rfl : rest = [] := hrest
      rfl
    have hend : lexer.scan.2.scan.1 = lexer.endToken := by
      rw [(scan_of_eof hagain).2.2, endToken_scan]
    rw [tokenize_of_eof h, tokenize_of_eof hagain, hend]
    cases n <;> rfl
  · rw [tokenize_of_ne_eof h, List.getD_cons_succ]

/-- **The token that is drawn next** is told by how many have been drawn. -/
theorem scan_drawn (lexer : Lexer) (n : Nat) : (lexer.drawn n).scan.1 = lexer.tokenAt n := by
  -- the number counts from the front of the text, so the first scan is taken off
  induction n generalizing lexer with
  | zero => exact lexer.tokenAt_zero.symm
  | succ n ih =>
    calc (lexer.drawn (n + 1)).scan.1
      _ = (lexer.scan.2.drawn n).scan.1 := by rw [drawn_scan]
      _ = lexer.scan.2.tokenAt n := ih lexer.scan.2
      _ = lexer.tokenAt (n + 1) := (lexer.tokenAt_succ n).symm

end Lexer

/-! ### Cursors -/

/-- The operations on the slot of a parser. -/
inductive SlotStep where
  | scan
  | unscan
  | peek
  | scanIgnoringSpace
deriving DecidableEq

/-- The operation of the parser that an operation on the slot is. -/
def SlotStep.step : SlotStep → Parser.Step
  | scan => .scan
  | unscan => .unscan
  | peek => .peek
  | scanIgnoringSpace => .scanIgnoringSpace

/-- A cursor on a sequence of tokens. -/
structure TokenCursor where
  /-- How many tokens have been drawn. -/
  drawn : Nat
  /-- Says whether the latest token that was drawn is still to be taken. -/
  pending : Bool
  /-- There is nothing to be taken before a token has been drawn. -/
  drawn_pos : pending = true → 0 < drawn

namespace TokenCursor

/-- The cursor in front of all tokens. -/
def start : TokenCursor :=
  ⟨0, false, by simp⟩

/-- Draws a token unless one is to be taken. -/
def fill (cursor : TokenCursor) : TokenCursor :=
  if h : cursor.pending then ⟨cursor.drawn, true, fun _ => cursor.drawn_pos h⟩
  else ⟨cursor.drawn + 1, true, fun _ => Nat.succ_pos _⟩

variable (tokens : Nat → Token)

/-- The latest token that was drawn. -/
def latest (cursor : TokenCursor) : Token :=
  tokens (cursor.drawn - 1)

/-- Takes the token that is pending, or else the next one. -/
def scan (cursor : TokenCursor) : Token × TokenCursor :=
  (cursor.fill.latest tokens, ⟨cursor.fill.drawn, false, by simp⟩)

/-- Makes the latest token pending again, if there is one. A pending one stays so. -/
def unscan (cursor : TokenCursor) : TokenCursor :=
  if h : 0 < cursor.drawn then ⟨cursor.drawn, true, fun _ => h⟩ else cursor

/-- Looks at the latest token, or at the one behind it if that is white space. -/
def peek (cursor : TokenCursor) : Token × TokenCursor :=
  let seen : TokenCursor :=
    if (cursor.fill.latest tokens).isWhitespace then
      ⟨cursor.fill.drawn + 1, true, fun _ => Nat.succ_pos _⟩
    else cursor.fill
  (seen.latest tokens, seen)

/-- Takes a token, and one more if that was white space. -/
def scanIgnoringSpace (cursor : TokenCursor) : Token × TokenCursor :=
  if (cursor.scan tokens).1.isWhitespace then (cursor.scan tokens).2.scan tokens
  else cursor.scan tokens

/-- Carries out one operation. -/
def perform (step : SlotStep) (cursor : TokenCursor) : Parser.Answer × TokenCursor :=
  match step with
  | .scan => (.token (cursor.scan tokens).1, (cursor.scan tokens).2)
  | .unscan => (.nothing, cursor.unscan)
  | .peek => (.token (cursor.peek tokens).1, (cursor.peek tokens).2)
  | .scanIgnoringSpace =>
    (.token (cursor.scanIgnoringSpace tokens).1, (cursor.scanIgnoringSpace tokens).2)

/-- Carries out operations in turn, and gives what each of them gives back. -/
def answers : List SlotStep → TokenCursor → List Parser.Answer
  | [], _ => []
  | step :: steps, cursor =>
    (cursor.perform tokens step).1 :: answers steps (cursor.perform tokens step).2

/-- What a parser has in its slot where the cursor stands. -/
def slot (cursor : TokenCursor) : Slot :=
  if cursor.drawn = 0 then .empty
  else if cursor.pending then .ahead (cursor.latest tokens)
  else .taken (cursor.latest tokens)

variable {tokens} {cursor : TokenCursor}

theorem slot_of_pending (h : cursor.pending = true) :
    cursor.slot tokens = .ahead (cursor.latest tokens) := by
  have hpos := cursor.drawn_pos h
  rw [slot, if_neg (by omega), if_pos h]

theorem fill_of_pending (h : cursor.pending = true) : cursor.fill = cursor := by
  obtain ⟨drawn, pending, hpos⟩ := cursor
  subst h
  rfl

theorem fill_of_not_pending (h : cursor.pending = false) :
    cursor.fill = ⟨cursor.drawn + 1, true, fun _ => Nat.succ_pos _⟩ := by
  rw [fill, dif_neg (by simp [h])]

theorem pending_fill (cursor : TokenCursor) : cursor.fill.pending = true := by
  unfold fill
  split <;> rfl

end TokenCursor

/-! ### The parser of a cursor -/

namespace Lexer

variable (lexer : Lexer) (cursor : TokenCursor)

/-- The parser that has drawn on the lexer as a cursor says. -/
def parserAt : Parser :=
  ⟨lexer.drawn cursor.drawn, cursor.slot lexer.tokenAt⟩

/-- A cursor that is to take a token stands for a parser that has this token ahead. -/
theorem parserAt_of_pending {cursor : TokenCursor} (h : cursor.pending = true) :
    lexer.parserAt cursor =
      ⟨lexer.drawn cursor.drawn, .ahead (cursor.latest lexer.tokenAt)⟩ := by
  rw [parserAt, TokenCursor.slot_of_pending h]

/-- If nothing is ahead, the slot is filled from the lexer. -/
theorem fill_parserAt :
    (lexer.parserAt cursor).fill =
      (cursor.fill.latest lexer.tokenAt, lexer.drawn cursor.fill.drawn) := by
  cases h : cursor.pending with
  | true =>
    -- a pending token is in the slot already
    rw [TokenCursor.fill_of_pending h, parserAt_of_pending lexer h]
    rfl
  | false =>
    -- without one the lexer is asked, whatever else the slot holds
    have hscan : (lexer.parserAt cursor).fill = (lexer.drawn cursor.drawn).scan := by
      unfold parserAt Parser.fill TokenCursor.slot
      rw [h]
      split
      · next hslot => split at hslot <;> simp at hslot
      · rfl
      · rfl
    rw [hscan, TokenCursor.fill_of_not_pending h, TokenCursor.latest, Nat.add_sub_cancel, drawn,
      ← scan_drawn]

theorem scan_parserAt :
    (lexer.parserAt cursor).scan =
      ((cursor.scan lexer.tokenAt).1, lexer.parserAt (cursor.scan lexer.tokenAt).2) := by
  -- a slot that was filled has had a token drawn, so it is not empty afterwards
  have hpos := cursor.fill.drawn_pos cursor.pending_fill
  have htaken : (cursor.scan lexer.tokenAt).2.slot lexer.tokenAt =
      .taken (cursor.fill.latest lexer.tokenAt) := by
    unfold TokenCursor.scan TokenCursor.slot
    rw [if_neg (by dsimp only; omega)]
    rfl
  rw [Parser.scan_eq_fill, fill_parserAt, parserAt, htaken]
  rfl

theorem unscan_parserAt : (lexer.parserAt cursor).unscan = lexer.parserAt cursor.unscan := by
  -- a token that was never drawn cannot be given back
  obtain ⟨drawn, pending, hpos⟩ := cursor
  cases drawn with
  | zero => rfl
  | succ n => cases pending <;> rfl

theorem peek_parserAt :
    (lexer.parserAt cursor).peek =
      ((cursor.peek lexer.tokenAt).1, lexer.parserAt (cursor.peek lexer.tokenAt).2) := by
  unfold Parser.peek TokenCursor.peek
  rw [fill_parserAt]
  dsimp only
  split
  · -- the token behind the white space is drawn, too
    rw [parserAt_of_pending lexer rfl, TokenCursor.latest, Nat.add_sub_cancel, drawn, ← scan_drawn]
  · rw [parserAt_of_pending lexer cursor.pending_fill]

theorem scanIgnoringSpace_parserAt :
    (lexer.parserAt cursor).scanIgnoringSpace =
      ((cursor.scanIgnoringSpace lexer.tokenAt).1,
        lexer.parserAt (cursor.scanIgnoringSpace lexer.tokenAt).2) := by
  unfold Parser.scanIgnoringSpace TokenCursor.scanIgnoringSpace
  rw [scan_parserAt]
  dsimp only
  split
  · -- the second token is taken as the first one was
    rw [scan_parserAt]
  · rfl

/-- **Every operation on the slot** is the same operation on the cursor. -/
theorem perform_parserAt (step : SlotStep) :
    (lexer.parserAt cursor).perform step.step =
      ((cursor.perform lexer.tokenAt step).1,
        lexer.parserAt (cursor.perform lexer.tokenAt step).2) := by
  cases step with
  | scan =>
    dsimp only [SlotStep.step, Parser.perform]
    rw [scan_parserAt]
    rfl
  | unscan =>
    dsimp only [SlotStep.step, Parser.perform]
    rw [unscan_parserAt]
    rfl
  | peek =>
    dsimp only [SlotStep.step, Parser.perform]
    rw [peek_parserAt]
    rfl
  | scanIgnoringSpace =>
    dsimp only [SlotStep.step, Parser.perform]
    rw [scanIgnoringSpace_parserAt]
    rfl

/-- So are sessions of such operations. -/
theorem session_parserAt (steps : List SlotStep) :
    ((lexer.parserAt cursor).session (steps.map SlotStep.step)).map Prod.fst =
      cursor.answers lexer.tokenAt steps := by
  induction steps generalizing cursor with
  | nil => rfl
  | cons step steps ih =>
    -- every operation leads to the parser of the next cursor
    rw [List.map_cons, Parser.session, perform_parserAt, List.map_cons, ih, TokenCursor.answers]

end Lexer

namespace Parser

/-! ### States between operations -/

/-- The parser after some operations. -/
def after (parser : Parser) (steps : List Step) : Parser :=
  steps.foldl (fun parser step => (parser.perform step).2) parser

theorem Reachable.after {parser : Parser} (h : parser.Reachable) (steps : List SlotStep) :
    (parser.after (steps.map SlotStep.step)).Reachable := by
  induction steps generalizing parser with
  | nil => exact h
  | cons step steps ih =>
    -- no operation on the slot is one of the lexer
    have hown : step.step.isOwn = true := by cases step <;> rfl
    exact ih (h.perform hown)

/-- Looking and taking see the same token. -/
theorem Settled.scanIgnoringSpace_fst {parser : Parser} (h : parser.Settled) :
    parser.scanIgnoringSpace.1 = parser.peek.1 :=
  h.faces.take_spec.1.trans h.faces.peek_fst.symm

/-- **A token that is given back** is the one that is taken next, and the lexer is left alone. -/
theorem scan_unscan_scan (parser : Parser) : parser.scan.2.unscan.scan = parser.scan := by
  -- the slot keeps a token that was taken, and is only marked
  obtain ⟨lexer, slot⟩ := parser
  cases slot <;> rfl

/-- Taking a token draws at most one from the lexer. -/
theorem exists_drawn_scan (parser : Parser) :
    ∃ n ≤ 1, parser.scan.2.lexer = parser.lexer.drawn n := by
  -- what is ahead is taken without the lexer
  obtain ⟨lexer, slot⟩ := parser
  cases slot with
  | ahead => exact ⟨0, by omega, rfl⟩
  | empty | taken => exact ⟨1, by omega, rfl⟩

/-- **The slot is a cursor on the tokens of the text.** Whatever operations on the slot are carried
out, they give back what a cursor on the list of all tokens gives, behind which the last of them,
the end, comes again and again. Wherever they lead, neither looking nor taking behind white space
meets white space, looking twice sees the same token, and a token that was given back is taken
again, for which one token is drawn at most. -/
theorem session_slotSteps (text filename : String) (steps : List SlotStep) :
    ∃ final, (tokenize text filename).getLast? = some final ∧ final.kind = .eof ∧
      ((ofString text filename).session (steps.map SlotStep.step)).map Prod.fst =
        TokenCursor.start.answers (fun n => (tokenize text filename).getD n final) steps ∧
      let parser := (ofString text filename).after (steps.map SlotStep.step)
      parser.peek.1.kind ≠ .whitespace ∧
        parser.scanIgnoringSpace.1.kind ≠ .whitespace ∧
        parser.peek.2.peek.1 = parser.peek.1 ∧
        parser.scan.2.unscan.scan.1 = parser.scan.1 ∧
        ∃ n ≤ 1, parser.scan.2.unscan.scan.2.lexer = parser.lexer.drawn n := by
  -- the cursor is on the tokens of this lexer
  let lexer : Lexer := .ofString text filename
  obtain ⟨tokens, htokens⟩ := Lexer.exists_tokenize_eq lexer
  have hlast : (tokenize text filename).getLast? = some lexer.endToken := by
    rw [tokenize, htokens, List.getLast?_concat]
  refine ⟨lexer.endToken, hlast, rfl, lexer.session_parserAt .start steps, ?_⟩
  intro parser
  -- whatever was done before, the parser is settled
  have hreachable : parser.Reachable := (Reachable.start lexer).after steps
  have hsettled := hreachable.settled
  have hspace : parser.peek.1.kind ≠ .whitespace := hsettled.faces.peek_spec.2
  refine ⟨hspace, ?_, ?_, ?_, ?_⟩
  · rw [hsettled.scanIgnoringSpace_fst]
    exact hspace
  · rw [hsettled.peek_peek]
  · rw [scan_unscan_scan]
  · rw [scan_unscan_scan]
    exact exists_drawn_scan _

end Parser

end ArithExpr
