import ArithExpr.Parser.Session
import ArithExpr.Proofs.OpenProductions

/-!
# The states of a parser

A parser may be asked for anything at any time: tokens may be looked at, taken and given back
between two routines, and a routine may be called after another one has failed. What is proved of
every reachable parser holds in all of these states.

* `Parser.Reachable` — the parsers that the operations of a parser lead to. Operations on the lexer
  behind the parser's back are not among them.
* `Parser.Reachable.settled` — a reachable parser is settled.
-/

namespace ArithExpr

namespace Parser

/-- Says whether an operation is one of the parser itself. -/
def Step.isOwn : Step → Bool
  | .scan | .unscan | .peek | .scanIgnoringSpace | .read _ => true
  | .lexer _ => false

/-- The parsers that operations of their own lead to, from one that has read nothing. -/
inductive Reachable : Parser → Prop where
  | start (lexer : Lexer) : Reachable (.ofLexer lexer)
  | perform {parser : Parser} {step : Step} (reachable : Reachable parser)
      (own : step.isOwn = true) : Reachable (parser.perform step).2

variable {parser : Parser}

/-- Reading a number leaves a parser settled, whatever it comes to. -/
theorem Settled.parseNumber (h : parser.Settled) : parser.parseNumber.2.Settled := by
  have hfaces := h.faces
  generalize parser.tokensAhead = tokens at hfaces
  by_cases hk : (tokens.headD parser.lexer.endToken).kind = .digits
  · -- digits are no end, so they are the first of the tokens ahead
    cases tokens with
    | nil => simp [Lexer.endToken] at hk
    | cons digits tokens =>
      have hread := numberRead_parseNumber hfaces hk
      -- each case of reading a number says what the parser faces afterwards
      generalize parser.parseNumber = result at hread ⊢
      cases hread <;> exact Faces.settled ‹_›
  · -- anything else is refused after a look at it
    unfold Parser.parseNumber
    dsimp only
    rw [hfaces.peek_fst, if_neg hk]
    split <;> exact h.peek

theorem Settled.parseOperator (p : Precedence) (h : parser.Settled) :
    (parser.parseOperator p).2.Settled := by
  unfold Parser.parseOperator
  dsimp only
  -- an operator is taken behind the look at it, and what is no operator is only looked at
  split
  · exact h.peek.scanIgnoringSpace
  · exact h.peek

theorem Settled.parseTree (level : Level) (h : parser.Settled) :
    (parser.parseTree level).2.Settled := by
  obtain ⟨_, _, -, hfaces, -⟩ := accounts_parseTree level h.faces
  exact hfaces.settled

theorem Settled.parse (h : parser.Settled) : parser.parse.2.Settled := by
  have htree := h.parseTree (.chain .additive)
  unfold Parser.parse
  split
  · next hparse => rwa [hparse] at htree
  · next hparse =>
    rw [hparse] at htree
    dsimp only
    -- behind the expression there is one more look, at the end of the text
    split <;> exact htree.peek

@[simp] theorem asNode_snd {α : Type} (f : α → Node)
    (read : Except (ParseError α) α × Parser) : (asNode f read).2 = read.2 := by
  obtain ⟨outcome, after⟩ := read
  cases outcome <;> rfl

@[simp] theorem leafAsNode_snd {α : Type} (f : α → Node) (read : Except Fault α × Parser) :
    (leafAsNode f read).2 = read.2 := by
  obtain ⟨outcome, after⟩ := read
  cases outcome <;> rfl

theorem Settled.read (routine : Routine) (h : parser.Settled) :
    (parser.read routine).2.Settled := by
  cases routine with
  | whole => simpa [Parser.read] using h.parse
  | tree level => simpa [Parser.read] using h.parseTree level
  | number => simpa [Parser.read] using h.parseNumber
  | operator p => simpa [Parser.read] using h.parseOperator p

theorem Settled.perform {step : Step} (h : parser.Settled) (own : step.isOwn = true) :
    (parser.perform step).2.Settled := by
  -- each operation of the parser keeps it settled, and those of the lexer are excluded
  cases step with
  | scan => exact h.scan
  | unscan => exact h.unscan
  | peek => exact h.peek
  | scanIgnoringSpace => exact h.scanIgnoringSpace
  | read routine => exact h.read routine
  | lexer => simp [Step.isOwn] at own

/-- **Every reachable parser is settled.** -/
theorem Reachable.settled (h : parser.Reachable) : parser.Settled := by
  induction h with
  | start lexer => exact settled_ofLexer lexer
  | perform _ own ih => exact ih.perform own

end Parser

end ArithExpr
