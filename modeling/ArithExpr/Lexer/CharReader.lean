import ArithExpr.Lexer.Session

/-!
# Reading character by character

A `Lexer` holds all that is left of a text, and takes a run at once. Here the same is done with a
stream that hands out one character at a time and takes none back. Where a run ends is known when
the character behind it has been read. That character is kept aside and is read again before the
stream, and the place goes back to where it was.

* `CharReader` — a stream, the character kept aside, and what is known of the latest reading; the
  readings and undoings so far are on record.
* `CharReader.read`, `CharReader.unread` — take a character; undo the latest reading.
* `CharReader.takeRun`, `CharReader.scan`, `CharReader.tokenize` — the operations of a lexer, put
  together from these two.
* `CharReader.toLexer` — the lexer that a reader stands for. `CharReader.read_toLexer`,
  `CharReader.takeRun_toLexer` and `CharReader.scan_toLexer` say that it reads the same.
-/

namespace ArithExpr

/-- What was done about a single character. -/
inductive CharEvent where
  /-- A reading and what it gave: a character, or `none` at the end. -/
  | read (c : Option Char)
  | unread
deriving DecidableEq

/-- A reader of single characters that can undo one reading. -/
structure CharReader where
  /-- What has not been read from the stream. -/
  stream : List Char
  /-- A character that was put back. It is read again before the stream. -/
  putBack : Option Char
  place : Location
  /-- What the latest reading gave, unless that was undone. -/
  latest : Option (Option Char)
  /-- The place before the latest reading. -/
  before : Location
  /-- What was done until now, the latest first. Nothing that the reader does depends on it. -/
  log : List CharEvent

namespace CharReader

/-- The reader at the beginning of a text, with nothing put back and an empty log. -/
def ofString (text filename : String) : CharReader :=
  ⟨text.toList, none, .start filename, none, .start filename, []⟩

/-- The characters that are read next. -/
def ahead (reader : CharReader) : List Char :=
  reader.putBack.toList ++ reader.stream

/-! ### Characters -/

/-- Takes the next character, if there is one. -/
def read (reader : CharReader) : Option Char × CharReader :=
  let (c, stream) :=
    match reader.putBack with
    | some c => (some c, reader.stream)
    | none => (reader.stream.head?, reader.stream.tail)
  (c, ⟨stream, none, reader.place.advanceOver c.toList, some c, reader.place,
    .read c :: reader.log⟩)

/-- Undoes the latest reading. There is nothing to undo if it met the end or was undone before. -/
def unread (reader : CharReader) : CharReader :=
  match reader.latest with
  | none => { reader with log := .unread :: reader.log }
  | some none => { reader with latest := none, log := .unread :: reader.log }
  | some (some c) =>
    { reader with
      putBack := some c, place := reader.before, latest := none, log := .unread :: reader.log }

theorem read_fst (reader : CharReader) : reader.read.1 = reader.ahead.head? := by
  obtain ⟨stream, putBack, place, latest, before, log⟩ := reader
  cases putBack <;> rfl

theorem ahead_read (reader : CharReader) : reader.read.2.ahead = reader.ahead.tail := by
  obtain ⟨stream, putBack, place, latest, before, log⟩ := reader
  cases putBack <;> rfl

theorem length_ahead_read {reader : CharReader} {c : Char} (h : reader.read.1 = some c) :
    reader.read.2.ahead.length < reader.ahead.length := by
  rw [ahead_read, List.length_tail]
  rw [read_fst] at h
  -- what was read was ahead
  have hpos : 0 < reader.ahead.length := List.length_pos_of_mem (List.mem_of_head? h)
  omega

/-- A character that was just read is put back in front of what is ahead. -/
theorem ahead_unread_read {reader : CharReader} {c : Char} (h : reader.read.1 = some c) :
    reader.read.2.unread.ahead = reader.ahead := by
  obtain ⟨stream, putBack, place, latest, before, log⟩ := reader
  cases putBack with
  | some d => rfl
  | none =>
    -- nothing was put back, so the character comes from the stream
    obtain ⟨rest, rfl⟩ := List.head?_eq_some_iff.1 h
    rfl

theorem place_unread_read {reader : CharReader} {c : Char} (h : reader.read.1 = some c) :
    reader.read.2.unread.place = reader.place := by
  have hlatest : reader.read.2.latest = some (some c) := congrArg some h
  unfold unread
  rw [hlatest]
  rfl

/-! ### Runs -/

/-- Takes characters as long as they are of a class. The first one that is not is put back. -/
def takeRun (cls : CharClass) (reader : CharReader) : List Char × CharReader :=
  match _ : reader.read.1 with
  | none => ([], reader.read.2)
  | some c =>
    if cls.contains c then
      let (run, after) := reader.read.2.takeRun cls
      (c :: run, after)
    else ([], reader.read.2.unread)
termination_by reader.ahead.length
decreasing_by exact length_ahead_read ‹_›

/-- Takes a run as a token. -/
def takeToken (cls : CharClass) (reader : CharReader) : Token × CharReader :=
  let (run, after) := reader.takeRun cls
  (⟨cls.kind, String.ofList run, reader.place⟩, after)

/-- Takes the next token. The first character of a run is read twice: to know the class, and as a
part of the run. -/
def scan (reader : CharReader) : Token × CharReader :=
  match reader.read with
  | (none, after) => (⟨.eof, "", reader.place⟩, after)
  | (some c, after) =>
    match CharClass.of? c with
    | some cls => after.unread.takeToken cls
    | none => (⟨.ofChar c, String.singleton c, reader.place⟩, after)

/-! ### The lexer of a reader -/

/-- The lexer that a reader stands for. -/
def toLexer (reader : CharReader) : Lexer where
  rest := reader.ahead
  location := reader.place
  last :=
    match reader.latest with
    | none => .nothing
    | some none => .endOfText
    | some (some c) => .char c reader.before

theorem read_toLexer (reader : CharReader) :
    reader.toLexer.read = (reader.read.1, reader.read.2.toLexer) := by
  obtain ⟨stream, putBack, place, latest, before, log⟩ := reader
  cases putBack with
  | some c => rfl
  | none => cases stream <;> rfl

/-- Once a reading has been undone, all is as before, but nothing can be undone. -/
theorem toLexer_unread_read {reader : CharReader} {c : Char} (h : reader.read.1 = some c) :
    reader.read.2.unread.toLexer = ⟨reader.ahead, reader.place, .nothing⟩ := by
  have hlatest : reader.read.2.unread.latest = none := by
    have hread : reader.read.2.latest = some (some c) := congrArg some h
    unfold unread
    rw [hread]
  rw [toLexer, ahead_unread_read h, place_unread_read h, hlatest]

/-- **A run that is taken character by character** is the longest run of the class. -/
theorem takeRun_toLexer (cls : CharClass) (reader : CharReader) :
    reader.toLexer.takeRun cls = ((reader.takeRun cls).1, (reader.takeRun cls).2.toLexer) := by
  -- the induction is on what is ahead, of which every character of the run takes one
  induction h : reader.ahead.length using Nat.strongRecOn generalizing reader with
  | ind n ih =>
    rw [takeRun]
    split
    · next hread =>
      -- the end is met at once
      have hnil : reader.ahead = [] := by rwa [read_fst, List.head?_eq_none_iff] at hread
      have hafter := congrArg Prod.snd reader.read_toLexer
      dsimp only at hafter
      rw [← hafter]
      simp [Lexer.takeRun, Lexer.read, toLexer, hnil, Location.advanceOver]
    · next c hread =>
      have hcons : reader.ahead = c :: reader.read.2.ahead := by
        rw [ahead_read]
        rw [read_fst] at hread
        obtain ⟨rest, hrest⟩ := List.head?_eq_some_iff.1 hread
        rw [hrest]
        rfl
      have hplace : reader.read.2.place = reader.place.advance c := by
        change reader.place.advanceOver reader.read.1.toList = _
        rw [hread]
        rfl
      split
      · next hc =>
        -- the character belongs to the run, and what is behind it is taken likewise
        have hrest := ih _ (h ▸ length_ahead_read hread) reader.read.2 rfl
        rw [Prod.ext_iff] at hrest
        simp only [Lexer.takeRun, toLexer] at hrest
        simp only [Lexer.takeRun, toLexer, hcons, List.takeWhile_cons, List.dropWhile_cons, hc,
          if_true, ← hrest.1, ← hrest.2, hplace]
        rfl
      · next hc =>
        -- the character is put back, and the reader stands where it stood
        dsimp only
        rw [toLexer_unread_read hread]
        simp [Lexer.takeRun, toLexer, hcons, hc, Location.advanceOver]

theorem takeToken_toLexer (cls : CharClass) (reader : CharReader) :
    reader.toLexer.takeToken cls =
      ((reader.takeToken cls).1, (reader.takeToken cls).2.toLexer) := by
  unfold Lexer.takeToken takeToken
  rw [takeRun_toLexer]
  rfl

theorem scan_toLexer (reader : CharReader) :
    reader.toLexer.scan = (reader.scan.1, reader.scan.2.toLexer) := by
  unfold Lexer.scan scan
  rw [read_toLexer]
  generalize hread : reader.read = result
  obtain ⟨c, after⟩ := result
  cases c with
  | none => rfl
  | some c =>
    have hc : reader.read.1 = some c := congrArg Prod.fst hread
    have hafter : reader.read.2 = after := congrArg Prod.snd hread
    dsimp only
    cases CharClass.of? c with
    | none => rfl
    | some cls =>
      -- that nothing can be undone makes no difference to a run
      have hundone : after.unread.toLexer = ⟨reader.ahead, reader.place, .nothing⟩ := by
        rw [← hafter, toLexer_unread_read hc]
      dsimp only
      rw [← takeToken_toLexer, hundone]
      rfl

/-! ### All tokens -/

/-- Takes all tokens that are left. The last of them, and no other, reports the end. -/
def tokenize (reader : CharReader) : List Token × CharReader :=
  if _ : reader.scan.1.kind = .eof then ([reader.scan.1], reader.scan.2)
  else
    let (tokens, final) := reader.scan.2.tokenize
    (reader.scan.1 :: tokens, final)
termination_by reader.ahead.length
decreasing_by
  -- the lexer that scans the same has less to read afterwards
  have hscan := reader.scan_toLexer
  have hlt : reader.toLexer.scan.2.rest.length < reader.toLexer.rest.length :=
    Lexer.rest_scan_length_lt (by rw [hscan]; assumption)
  rw [hscan] at hlt
  exact hlt

theorem tokenize_toLexer (reader : CharReader) :
    reader.toLexer.tokenize = (reader.tokenize.1, reader.tokenize.2.toLexer) := by
  fun_induction tokenize reader with
  | case1 reader heof =>
    rw [Lexer.tokenize, scan_toLexer, dif_pos heof]
  | case2 reader heof tokens final hrest ih =>
    rw [Lexer.tokenize, scan_toLexer, dif_neg heof]
    dsimp only
    rw [ih, hrest]

/-! ### Operations -/

/-- Carries out one operation of a lexer on single characters. -/
def perform (step : Lexer.Step) (reader : CharReader) : Lexer.Answer × CharReader :=
  match step with
  | .read => let (c, after) := reader.read; (.char c, after)
  | .unread => (.nothing, reader.unread)
  | .scan => let (token, after) := reader.scan; (.token token, after)
  | .scanWord => let (token, after) := reader.takeToken .letter; (.token token, after)
  | .scanDigits => let (token, after) := reader.takeToken .digit; (.token token, after)
  | .takeRun cls => let (run, after) := reader.takeRun cls; (.text (String.ofList run), after)
  | .tokenize => let (tokens, after) := reader.tokenize; (.tokens tokens, after)
  | .location => (.place reader.place, reader)

end CharReader

end ArithExpr
