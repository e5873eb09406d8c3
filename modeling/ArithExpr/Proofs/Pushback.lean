import ArithExpr.Lexer.CharReader
import ArithExpr.Proofs.Positions

/-!
# No character is lost

A reader of single characters has a stream that only goes forward, one character kept aside, and a
record of the latest reading, which every operation writes over. All of this hangs together by where
the reader stands in the text: behind some characters `front`, with the rest of the text ahead
(`CharReader.StandsBehind`).

* `CharReader.StandsBehind.read`, `CharReader.StandsBehind.unread_of_char`,
  `CharReader.StandsBehind.unread_of_ne` — what taking a character and undoing it preserve.
* `CharReader.StandsBehind.takeRun`, `CharReader.StandsBehind.scan`,
  `CharReader.StandsBehind.tokenize` — what the operations put together from them preserve.
* `CharReader.StandsBehind.after` — so a reader stands somewhere in the text after any operations.
* `CharReader.stands_after` — what this says of a session: nothing is lost or read twice, every
  place is the right one, and the lexer that the reader stands for is the one that has been used in
  the same way.
-/

namespace ArithExpr

/-! ### What is handed out and what is left -/

namespace Lexer.Answer

/-- The characters that an answer hands out. -/
def chars : Answer → List Char
  | .char c => c.toList
  | .text run => run.toList
  | .token taken => taken.lexeme.toList
  | .tokens all => Token.written all
  | .nothing | .place _ => []

/-- The places in an answer are right, where `front` are the characters in front of what it hands
out. -/
def Placed (filename : String) (front : List Char) : Answer → Prop
  | .token taken => taken.location = .behind filename front
  | .tokens all => Token.Placed filename front all
  | .place here => here = .behind filename front
  | .nothing | .char _ | .text _ => True

end Lexer.Answer

/-- The lexer after some operations. -/
def Lexer.after (lexer : Lexer) (steps : List Lexer.Step) : Lexer :=
  steps.foldl (fun lexer step => (lexer.perform step).2) lexer

/-- What the latest reading gave, unless something was undone after it. Of the record of what was
done, the latest comes first. -/
def CharEvent.latestRead : List CharEvent → Option (Option Char)
  | read c :: _ => some c
  | unread :: _ | [] => none

namespace CharReader

/-! ### Where a reader stands -/

/-- **A reader stands behind the characters `front`** of a text. -/
structure StandsBehind (filename : String) (text front : List Char) (reader : CharReader) :
    Prop where
  /-- What is ahead is the rest of the text. -/
  whole : text = front ++ reader.ahead
  place : reader.place = .behind filename front
  /-- What can be undone is what was done latest. -/
  recorded : reader.latest = CharEvent.latestRead reader.log
  /-- A character that can be put back is the latest of those in front, and there is room for it. -/
  undoable : ∀ c, reader.latest = some (some c) →
    reader.putBack = none ∧
      ∃ before, front = before ++ [c] ∧ reader.before = .behind filename before

namespace StandsBehind

variable {filename : String} {text front : List Char} {reader : CharReader}

theorem start (text filename : String) :
    StandsBehind filename text.toList [] (.ofString text filename) where
  whole := rfl
  place := (Location.behind_nil filename).symm
  recorded := rfl
  undoable := by
    intro c h
    exact absurd h (by simp [ofString])

/-- A character that is taken is one of those in front. -/
theorem read (h : StandsBehind filename text front reader) :
    StandsBehind filename text (front ++ reader.read.1.toList) reader.read.2 where
  whole := by
    -- what a reading gives is what it takes off the front of what is ahead
    have hahead : reader.ahead = reader.read.1.toList ++ reader.read.2.ahead := by
      rw [ahead_read, read_fst]
      cases reader.ahead <;> rfl
    rw [List.append_assoc, ← hahead]
    exact h.whole
  place := by
    have hplace : reader.read.2.place = reader.place.advanceOver reader.read.1.toList := rfl
    rw [hplace, h.place, Location.advanceOver_behind]
  recorded := rfl
  undoable := by
    intro c hc
    -- the record says what the reading gave, and it put nothing back
    have hread : reader.read.1 = some c := Option.some.inj hc
    exact ⟨rfl, front, by rw [hread]; rfl, h.place⟩

/-- Undoing the reading of a character goes back by this character. -/
theorem unread_of_char (h : StandsBehind filename text front reader) {c : Char}
    (hc : reader.latest = some (some c)) :
    ∃ before, front = before ++ [c] ∧ reader.unread.ahead = c :: reader.ahead ∧
      StandsBehind filename text before reader.unread := by
  -- what was undone stood last in front, and the room for one character is free
  obtain ⟨hputBack, before, rfl, hbefore⟩ := h.undoable c hc
  have hunread : reader.unread = { reader with
      putBack := some c, place := reader.before, latest := none, log := .unread :: reader.log } := by
    unfold unread
    rw [hc]
  have hahead : reader.unread.ahead = c :: reader.ahead := by
    rw [hunread, ahead, ahead, hputBack]
    rfl
  -- ahead and in front, the character has changed sides; nothing further can be undone
  refine ⟨before, rfl, hahead, ?_, ?_, ?_, ?_⟩
  · rw [hahead, h.whole, List.append_assoc]
    rfl
  · rw [hunread]
    exact hbefore
  · rw [hunread]
    rfl
  · intro d hd
    rw [hunread] at hd
    exact absurd hd (by simp)

/-- Otherwise undoing goes nowhere. -/
theorem unread_of_ne (h : StandsBehind filename text front reader)
    (hne : ∀ c, reader.latest ≠ some (some c)) :
    reader.unread.ahead = reader.ahead ∧ StandsBehind filename text front reader.unread := by
  have hunread : reader.unread =
      { reader with latest := none, log := .unread :: reader.log } := by
    -- the reader differs from one case to the other only in what it did last
    obtain ⟨stream, putBack, place, latest, before, log⟩ := reader
    rcases latest with _ | _ | c
    · rfl
    · rfl
    · exact absurd rfl (hne c)
  rw [hunread]
  refine ⟨rfl, h.whole, h.place, rfl, ?_⟩
  intro c hc
  exact absurd hc (by simp)

/-- Undoing the reading of a character right after it leads back to where the reader stood. -/
theorem unread_read (h : StandsBehind filename text front reader) {c : Char}
    (hc : reader.read.1 = some c) : StandsBehind filename text front reader.read.2.unread := by
  obtain ⟨before, hbefore, -, hstands⟩ := h.read.unread_of_char (congrArg some hc)
  rw [hc] at hbefore
  -- a reading adds its character to those in front, so undoing removes just that one
  obtain rfl : front = before := List.append_cancel_right hbefore
  exact hstands

/-! ### Operations put together from these -/

/-- The characters of a run that was taken are in front. -/
theorem takeRun (h : StandsBehind filename text front reader) (cls : CharClass) :
    StandsBehind filename text (front ++ (reader.takeRun cls).1) (reader.takeRun cls).2 := by
  -- the induction is on the run; what is in front grows with it
  fun_induction CharReader.takeRun cls reader generalizing front with
  | case1 reader hread =>
    have hstands := h.read
    rwa [hread] at hstands
  | case2 reader c hread hcls run after hrun ih =>
    have hstands := h.read
    rw [hread] at hstands
    have hrest := ih hstands
    rw [hrun, List.append_assoc] at hrest
    exact hrest
  | case3 reader c hread hcls =>
    -- the character behind the run is read and undone, and leaves no trace
    rw [List.append_nil]
    exact h.unread_read hread

theorem takeToken (h : StandsBehind filename text front reader) (cls : CharClass) :
    StandsBehind filename text (front ++ (reader.takeToken cls).1.lexeme.toList)
        (reader.takeToken cls).2 ∧
      (reader.takeToken cls).1.location = .behind filename front := by
  refine ⟨?_, h.place⟩
  have hlexeme : (reader.takeToken cls).1.lexeme.toList = (reader.takeRun cls).1 :=
    String.toList_ofList
  rw [hlexeme]
  exact h.takeRun cls

/-- The characters of a token that was taken are in front, and it is located where it began. -/
theorem scan (h : StandsBehind filename text front reader) :
    StandsBehind filename text (front ++ reader.scan.1.lexeme.toList) reader.scan.2 ∧
      reader.scan.1.location = .behind filename front := by
  have hstands := h.read
  unfold CharReader.scan
  generalize hread : reader.read = result at hstands ⊢
  obtain ⟨c, after⟩ := result
  cases c with
  | none => exact ⟨hstands, h.place⟩
  | some c =>
    have hc : reader.read.1 = some c := congrArg Prod.fst hread
    have hafter : reader.read.2 = after := congrArg Prod.snd hread
    dsimp only
    cases CharClass.of? c with
    | none =>
      refine ⟨?_, h.place⟩
      rw [String.toList_singleton]
      exact hstands
    | some cls =>
      -- the class is known by a reading that is undone, and the run begins where the token does
      rw [← hafter]
      exact (h.unread_read hc).takeToken cls

/-- So are the characters of all tokens. -/
theorem tokenize (h : StandsBehind filename text front reader) :
    StandsBehind filename text (front ++ Token.written reader.tokenize.1) reader.tokenize.2 ∧
      Token.Placed filename front reader.tokenize.1 := by
  -- the induction is on the tokens, each of which is placed behind all those before it
  fun_induction CharReader.tokenize reader generalizing front with
  | case1 reader heof =>
    obtain ⟨hstands, hplace⟩ := h.scan
    refine ⟨?_, Token.placed_cons.2 ⟨hplace, .nil _ _⟩⟩
    rwa [Token.written_cons, Token.written_nil, List.append_nil]
  | case2 reader heof tokens final hrest ih =>
    obtain ⟨hstands, hplace⟩ := h.scan
    obtain ⟨hfinal, hplaced⟩ := ih hstands
    rw [hrest] at hfinal hplaced
    refine ⟨?_, Token.placed_cons.2 ⟨hplace, hplaced⟩⟩
    rwa [Token.written_cons, ← List.append_assoc]

/-- **An operation hands out the characters that it passes**, unless it undoes a reading. -/
theorem perform (h : StandsBehind filename text front reader) {step : Lexer.Step}
    (hstep : step ≠ .unread) :
    StandsBehind filename text (front ++ (reader.perform step).1.chars)
        (reader.perform step).2 ∧
      (reader.perform step).1.Placed filename front := by
  cases step with
  | read => exact ⟨h.read, trivial⟩
  | unread => exact absurd rfl hstep
  | scan => exact h.scan
  | scanWord => exact h.takeToken .letter
  | scanDigits => exact h.takeToken .digit
  | takeRun cls =>
    refine ⟨?_, trivial⟩
    -- the run is handed out as a text of the same characters
    have hchars : (reader.perform (.takeRun cls)).1.chars = (reader.takeRun cls).1 :=
      String.toList_ofList
    rw [hchars]
    exact h.takeRun cls
  | tokenize => exact h.tokenize
  | location =>
    refine ⟨?_, h.place⟩
    have hchars : (reader.perform .location).1.chars = [] := rfl
    rw [hchars, List.append_nil]
    exact h

end StandsBehind

/-! ### Sessions -/

/-- The reader after some operations. -/
def after (reader : CharReader) (steps : List Lexer.Step) : CharReader :=
  steps.foldl (fun reader step => (reader.perform step).2) reader

/-- Wherever a reader stands, any operations lead to a reader that stands somewhere. -/
theorem StandsBehind.after {filename : String} {text front : List Char} {reader : CharReader}
    (h : StandsBehind filename text front reader) (steps : List Lexer.Step) :
    ∃ front, StandsBehind filename text front (reader.after steps) := by
  -- where the reader stands differs from step to step, and is found anew for each
  induction steps generalizing front reader with
  | nil => exact ⟨front, h⟩
  | cons step steps ih =>
    by_cases hstep : step = .unread
    · -- an undoing leads back by a character, or nowhere
      subst hstep
      by_cases hc : ∃ c, reader.latest = some (some c)
      · obtain ⟨c, hc⟩ := hc
        obtain ⟨before, -, -, hbefore⟩ := h.unread_of_char hc
        exact ih hbefore
      · exact ih (h.unread_of_ne (not_exists.1 hc)).2
    · exact ih (h.perform hstep).1

/-! ### The lexer of a reader -/

theorem StandsBehind.unread_toLexer {filename : String} {text front : List Char}
    {reader : CharReader} (h : StandsBehind filename text front reader) :
    reader.toLexer.unread = reader.unread.toLexer := by
  by_cases hc : ∃ c, reader.latest = some (some c)
  -- what is put back in front is the same character that the lexer remembers
  · obtain ⟨c, hc⟩ := hc
    obtain ⟨before, -, hahead, -⟩ := h.unread_of_char hc
    unfold toLexer
    rw [hahead]
    unfold Lexer.unread unread
    simp only [hc]
  -- nothing is put back on either side, but both forget the latest reading
  · obtain ⟨hahead, -⟩ := h.unread_of_ne (not_exists.1 hc)
    unfold toLexer
    rw [hahead]
    unfold Lexer.unread unread
    obtain ⟨stream, putBack, place, latest, before, log⟩ := reader
    rcases latest with _ | _ | c
    · rfl
    · rfl
    · exact absurd ⟨c, rfl⟩ hc

/-- An operation on the reader is the same operation on its lexer. -/
theorem StandsBehind.perform_toLexer {filename : String} {text front : List Char}
    {reader : CharReader} (h : StandsBehind filename text front reader) (step : Lexer.Step) :
    reader.toLexer.perform step = ((reader.perform step).1, (reader.perform step).2.toLexer) := by
  -- undoing alone needs to know where the reader stands
  cases step with
  | read =>
    unfold Lexer.perform
    rw [read_toLexer]
    rfl
  | unread =>
    unfold Lexer.perform
    rw [h.unread_toLexer]
    rfl
  | scan =>
    unfold Lexer.perform
    rw [scan_toLexer]
    rfl
  | scanWord | scanDigits =>
    unfold Lexer.perform
    dsimp only
    rw [takeToken_toLexer]
    rfl
  | takeRun cls =>
    unfold Lexer.perform
    dsimp only
    rw [takeRun_toLexer]
    rfl
  | tokenize =>
    unfold Lexer.perform
    rw [tokenize_toLexer]
    rfl
  | location => rfl

/-- So are sessions. -/
theorem StandsBehind.after_toLexer {filename : String} {text front : List Char}
    {reader : CharReader} (h : StandsBehind filename text front reader)
    (steps : List Lexer.Step) : reader.toLexer.after steps = (reader.after steps).toLexer := by
  induction steps generalizing front reader with
  | nil => rfl
  | cons step steps ih =>
    -- what comes later needs a reader that stands somewhere, as this one still does
    obtain ⟨front, hstands⟩ := h.after [step]
    have hstep : (reader.toLexer.perform step).2 = (reader.perform step).2.toLexer := by
      rw [h.perform_toLexer step]
    calc reader.toLexer.after (step :: steps)
      _ = (reader.toLexer.perform step).2.after steps := rfl
      _ = (reader.perform step).2.toLexer.after steps := by rw [hstep]
      _ = ((reader.perform step).2.after steps).toLexer := ih hstands

/-- **No character is lost, read twice or misplaced.** Whatever has been done with a reader of a
text, it stands behind some of the characters, and the others are ahead. What an operation hands out
are the next characters, each at its place, and the reader stands behind them afterwards. Undoing
goes back by one character if a reading was not undone yet and the latest of these gave a character;
otherwise it goes nowhere. The lexer of the text, after the same operations, is the one that the
reader stands for, and it goes on giving the same answers. -/
theorem stands_after (text filename : String) (steps : List Lexer.Step) :
    let reader := (ofString text filename).after steps
    let lexer := (Lexer.ofString text filename).after steps
    ∃ front, text.toList = front ++ (reader.putBack.toList ++ reader.stream) ∧
      reader.place = .behind filename front ∧
      (∀ step, step ≠ .unread →
        let (answer, next) := reader.perform step
        text.toList = front ++ answer.chars ++ next.ahead ∧
          next.place = .behind filename (front ++ answer.chars) ∧
          answer.Placed filename front) ∧
      (∀ c, CharEvent.latestRead reader.log = some (some c) →
        ∃ before, front = before ++ [c] ∧
          reader.unread.ahead = c :: reader.ahead ∧
          reader.unread.place = .behind filename before) ∧
      ((∀ c, CharEvent.latestRead reader.log ≠ some (some c)) →
        reader.unread.ahead = reader.ahead ∧ reader.unread.place = reader.place) ∧
      lexer = reader.toLexer ∧
      ∀ step, lexer.perform step =
        ((reader.perform step).1, (reader.perform step).2.toLexer) := by
  intro reader lexer
  have hstart := StandsBehind.start text filename
  obtain ⟨front, h⟩ : ∃ front, StandsBehind filename text.toList front reader :=
    hstart.after steps
  have hlexer : lexer = reader.toLexer := hstart.after_toLexer steps
  -- all of it is read off where the reader stands; only the record needs a translation
  refine ⟨front, h.whole, h.place, ?_, ?_, ?_, hlexer, ?_⟩
  · -- an operation that goes forward
    intro step hstep
    obtain ⟨hstands, hplaced⟩ := h.perform hstep
    exact ⟨hstands.whole, hstands.place, hplaced⟩
  · -- undoing, when there is a character to undo; that there is one is told by the log
    intro c hc
    obtain ⟨before, hfront, hahead, hstands⟩ := h.unread_of_char (h.recorded.trans hc)
    exact ⟨before, hfront, hahead, hstands.place⟩
  · -- undoing, when the log tells of none
    intro hne
    rw [← h.recorded] at hne
    obtain ⟨hahead, hstands⟩ := h.unread_of_ne hne
    exact ⟨hahead, hstands.place.trans h.place.symm⟩
  · -- the lexer of the text and the lexer of the reader are one and the same by now
    rw [hlexer]
    exact h.perform_toLexer

end CharReader

end ArithExpr
