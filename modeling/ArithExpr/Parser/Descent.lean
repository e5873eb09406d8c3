import ArithExpr.Parser.Basic

/-!
# Recursive descent

The same language read by one function for each production, which call each other as the grammar
says. What is open is held by the calls. This is how the grammar is read off the page; `Stack.run`
reads it with no more stack for deep input than for flat.

* `Descent.Reading` — an outcome, with the proof that a successful one took something.
* `Descent.tree` — reads a tree of a level: a chain with `Descent.chain`, a term with
  `Descent.term`. They go down a level, or else on in the input.
-/

namespace ArithExpr

namespace Descent

/-- What reading at a parser comes to. If it succeeds, less is ahead than before. -/
abbrev Reading (parser : Parser) (α : Type) :=
  { outcome : Except Fault α × Parser //
    ∀ a, outcome.1 = .ok a → outcome.2.remaining < parser.remaining }

/-- The outcome of a fault, which promises nothing of what is ahead. -/
def refuse {parser : Parser} {α : Type} (fault : Fault) (after : Parser) : Reading parser α :=
  ⟨(.error fault, after), by simp⟩

/-- The outcome of reading something after which less is ahead. -/
def accept {parser : Parser} {α : Type} (a : α) (after : Parser)
    (h : after.remaining < parser.remaining) : Reading parser α :=
  ⟨(.ok a, after), fun _ _ => h⟩

/-- Reads a term that is a number. -/
def number (parser : Parser) : Reading parser Term :=
  match h : parser.parseNumber with
  | (.ok a, after) =>
    accept (.number a a.span) after (by
      have := Parser.remaining_parseNumber_lt (congrArg Prod.fst h)
      rwa [congrArg Prod.snd h] at this)
  | (.error fault, after) => refuse fault after

mutual

/-- Reads a tree of a level by the production of that level. -/
def tree (level : Level) (parser : Parser) : Reading parser (Tree level) :=
  match level with
  | .term => term parser
  | .chain p => chain p .expression parser
termination_by (parser.remaining, 2 * level.height + 1)

/-- Reads a chain, whose first operand is asked for as `expected`: an operand, and as long as an
operator of the class follows, this and a further chain. -/
def chain (p : Precedence) (expected : Expectation) (parser : Parser) :
    Reading parser (Tree (.chain p)) :=
  let seen := parser.peek
  if seen.1.kind = .eof then
    refuse (.unexpected expected seen.1) seen.2
  else
    match tree p.operand seen.2 with
    | ⟨(.error fault, after), _⟩ => refuse fault after
    | ⟨(.ok operand, after), h⟩ =>
      have hafter : after.remaining < parser.remaining :=
        Nat.lt_of_lt_of_le (h operand rfl) parser.remaining_peek_le
      let next := after.peek
      have hnext : next.2.remaining < parser.remaining :=
        Nat.lt_of_le_of_lt after.remaining_peek_le hafter
      match Operator.ofToken? p next.1 with
      | none => accept (.ofOperand operand) next.2 hnext
      | some op =>
        have htaken : next.2.scanIgnoringSpace.2.remaining < parser.remaining :=
          Nat.lt_of_le_of_lt next.2.remaining_scanIgnoringSpace_le hnext
        match chain p (.operandAfter op.lexeme) next.2.scanIgnoringSpace.2 with
        | ⟨(.error fault, final), _⟩ => refuse fault final
        | ⟨(.ok rest, final), h'⟩ =>
          accept (.cons operand op rest) final (Nat.lt_trans (h' rest rfl) htaken)
termination_by (parser.remaining, 2 * (Level.chain p).height)
decreasing_by
  · have := Level.height_operand p
    exact Prod.Lex.right' _ parser.remaining_peek_le (by omega)
  · exact Prod.Lex.left _ _ htaken

/-- Reads a term: a parenthesis, an expression and the other parenthesis, or a number. -/
def term (parser : Parser) : Reading parser Term :=
  let seen := parser.peek
  if hopen : seen.1.kind = .leftParen then
    let opening := seen.2.scanIgnoringSpace
    have hopening : opening.2.remaining < parser.remaining :=
      parser.remaining_take_lt (by rw [hopen]; simp) (by rw [hopen]; simp)
    match chain .additive .expression opening.2 with
    | ⟨(.error fault, after), _⟩ => refuse fault after
    | ⟨(.ok inner, after), h⟩ =>
      have hafter : after.remaining < parser.remaining :=
        Nat.lt_trans (h inner rfl) hopening
      let next := after.peek
      have hnext : next.2.remaining < parser.remaining :=
        Nat.lt_of_le_of_lt after.remaining_peek_le hafter
      if next.1.kind = .rightParen then
        let closing := next.2.scanIgnoringSpace
        accept (.group inner (some ⟨opening.1.location, closing.1.location⟩)) closing.2
          (Nat.lt_of_le_of_lt next.2.remaining_scanIgnoringSpace_le hnext)
      else
        refuse (.missingRightParen (some opening.1.location) next.1) next.2
  else if seen.1.kind = .digits then
    let read := number seen.2
    ⟨read.1, fun a h => Nat.lt_of_lt_of_le (read.2 a h) parser.remaining_peek_le⟩
  else
    refuse (.unexpected .numberOrGroup seen.1) seen.2
termination_by (parser.remaining, 0)
decreasing_by exact Prod.Lex.left _ _ hopening

end

/-- Reads a tree of a level by recursive descent. -/
def parseTree (level : Level) (parser : Parser) : Except Fault (Tree level) × Parser :=
  (tree level parser).1

end Descent

end ArithExpr
