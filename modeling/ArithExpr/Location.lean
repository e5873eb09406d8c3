import ArithExpr.Text.Quoted

/-!
# Places in a source

* `Location` — a place in a named source: line, column and offset, counted in characters.
* `Location.textOf`, `Location.constructionOf` — a place that may be unknown, as messages show it
  and with everything there is to it.
* `Location.advance` — the place after a character; only a line feed begins a new line.
* `Span` — from the start of a first token to the start of a last one.
* `Span.join?` — the span from where a first span begins to where a last one ends.
-/

namespace ArithExpr

/-- The name of a source that was not given one. -/
def unnamedSource : String := "<string>"

/-- A place in a source. Lines and columns count from one and the offset counts from zero, all in
characters. They are integers because a place need not come from reading a source: one that is made
up may lie anywhere, in front of the source, too. -/
structure Location where
  filename : String
  /-- One more than the number of line feeds before the place. -/
  line : Int
  /-- One more than the number of characters between the last line feed and the place. -/
  column : Int
  /-- The number of characters before the place. -/
  offset : Int
deriving DecidableEq

namespace Location

/-- The place of the first character of a source. -/
def start (filename : String) : Location :=
  ⟨filename, 1, 1, 0⟩

/-- The place behind a character. A line feed begins a new line. -/
def advance (place : Location) (c : Char) : Location :=
  if c = '\n' then ⟨place.filename, place.line + 1, 1, place.offset + 1⟩
  else ⟨place.filename, place.line, place.column + 1, place.offset + 1⟩

/-- The place behind several characters. -/
def advanceOver (place : Location) (cs : List Char) : Location :=
  cs.foldl advance place

/-- The place as messages show it, which leaves out the offset. -/
def text (place : Location) : String :=
  place.filename ++ ":" ++ toString place.line ++ ":" ++ toString place.column

/-- All there is to a place, as the construction that makes it. -/
def construction (place : Location) : String :=
  "SourceLocation(" ++ quoted place.filename ++ ", " ++ toString place.line ++ ", " ++
    toString place.column ++ ", " ++ toString place.offset ++ ")"

/-- A place that may be unknown, as messages show it. -/
def textOf : Option Location → String
  | some place => place.text
  | none => "None"

/-- The construction of a place that may be unknown. -/
def constructionOf : Option Location → String
  | some place => place.construction
  | none => "None"

end Location

/-- A stretch of source. It ends at the token that `finish` locates, and so takes in that token. -/
structure Span where
  start : Location
  finish : Location
deriving DecidableEq

namespace Span

/-- The span of what takes up a single place. -/
def point (place : Location) : Span :=
  ⟨place, place⟩

/-- The span as messages show it: the name of the source is repeated only if it changes. -/
def text (span : Span) : String :=
  if span.start.filename = span.finish.filename then
    span.start.text ++ "-" ++ toString span.finish.line ++ ":" ++ toString span.finish.column
  else
    span.start.text ++ "-" ++ span.finish.text

/-- The span from where `first?` begins to where `last?` ends, if both are known. -/
def join? (first? last? : Option Span) : Option Span :=
  match first?, last? with
  | some first, some last => some ⟨first.start, last.finish⟩
  | _, _ => none

end Span

end ArithExpr
