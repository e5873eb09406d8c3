import ArithExpr.Parser.Descent
import ArithExpr.Proofs.Reachable

/-!
# The stack machine and recursive descent

The parser holds what is open in a `Stack`; recursive descent holds it in its calls. Both come to
the same outcome and leave the parser in the same state, in every reachable state of the parser and
at every level (`Parser.parseTree_eq_descent`). Equal states have the same tokens ahead, and equal
faults have the same class, message, code, place and token.

A call of recursive descent at some level corresponds to the stretch of a run between opening the
hole of that level and filling it. What comes after that stretch is the same whatever the call read,
so the correspondence is stated for every stack around the hole (`Stack.resume_readTerm`): reading
into the hole is the call, and then closing the productions around it (`Stack.fill`). The two sides
recurse alike, on what is ahead and then on the level.

Recursive descent looks ahead once at every level that it goes down, the machine only twice. This
makes no difference to a settled parser (`Parser.Settled.peek_peek`).
-/

namespace ArithExpr

/-! ### Recursive descent, unfolded -/

namespace Descent

/-- Reads a chain by recursive descent, without the proof that it takes something. -/
def parseChain (p : Precedence) (expected : Expectation) (parser : Parser) :
    Except Fault (Tree (.chain p)) × Parser :=
  (chain p expected parser).1

theorem parseTree_chain (p : Precedence) (parser : Parser) :
    parseTree (.chain p) parser = parseChain p .expression parser := by
  rw [parseTree, tree, parseChain]

/-- What follows an operand in a chain: an operator of the class and a further chain, or nothing. -/
def parseRest (p : Precedence) (operand : Tree p.operand) (parser : Parser) :
    Except Fault (Tree (.chain p)) × Parser :=
  match Operator.ofToken? p parser.peek.1 with
  | none => (.ok (.ofOperand operand), parser.peek.2)
  | some op =>
    match parseChain p (.operandAfter op.lexeme) parser.peek.2.scanIgnoringSpace.2 with
    | (.error fault, after) => (.error fault, after)
    | (.ok rest, after) => (.ok (.cons operand op rest), after)

/-- The rule for a chain. -/
theorem parseChain_eq (p : Precedence) (expected : Expectation) (parser : Parser) :
    parseChain p expected parser =
      if parser.peek.1.kind = .eof then
        (.error (.unexpected expected parser.peek.1), parser.peek.2)
      else
        match parseTree p.operand parser.peek.2 with
        | (.error fault, after) => (.error fault, after)
        | (.ok operand, after) => parseRest p operand after := by
  rw [parseChain, chain]
  dsimp only
  split
  · rfl
  · rw [parseTree]
    split
    · next heq => rw [heq]; rfl
    -- the proof that less is ahead is dropped, and what is left is the rule
    · next operand after h heq =>
      rw [heq]
      dsimp only
      rw [parseRest]
      cases Operator.ofToken? p after.peek.1 with
      | none => rfl
      | some op =>
        dsimp only [parseChain]
        rcases chain p (.operandAfter op.lexeme) after.peek.2.scanIgnoringSpace.2 with
          ⟨⟨fault | rest, final⟩, -⟩
        · rfl
        · rfl

/-- The rule for a term. -/
theorem parseTree_term (parser : Parser) :
    parseTree .term parser =
      if parser.peek.1.kind = .leftParen then
        let opening := parser.peek.2.scanIgnoringSpace
        match parseChain .additive .expression opening.2 with
        | (.error fault, after) => (.error fault, after)
        | (.ok inner, after) =>
          if after.peek.1.kind = .rightParen then
            let closing := after.peek.2.scanIgnoringSpace
            (.ok (.group inner (some ⟨opening.1.location, closing.1.location⟩)), closing.2)
          else (.error (.missingRightParen (some opening.1.location) after.peek.1), after.peek.2)
      else if parser.peek.1.kind = .digits then
        match parser.peek.2.parseNumber with
        | (.ok a, after) => (.ok (.number a a.span), after)
        | (.error fault, after) => (.error fault, after)
      else (.error (.unexpected .numberOrGroup parser.peek.1), parser.peek.2) := by
  rw [parseTree, tree, term]
  dsimp only
  split
  · rw [parseChain]
    split
    · -- the content is refused
      next heq => rw [heq]; rfl
    · -- the content is read, and the parenthesis behind it is asked for
      next heq =>
      rw [heq]
      dsimp only
      split <;> rfl
  · -- a number, or nothing that a term begins with
    split
    · dsimp only [number]
      split
      · next a after heq =>
        change (Except.ok (Tree.number a a.span), after) = _
        rw [heq]
      · next heq => rw [heq]; rfl
    · rfl

theorem remaining_parseTree_lt {level : Level} {parser after : Parser} {t : Tree level}
    (h : parseTree level parser = (.ok t, after)) : after.remaining < parser.remaining := by
  -- reading promises this of itself
  have hlt := (tree level parser).2 t (congrArg Prod.fst h)
  rwa [show (tree level parser).1.2 = after from congrArg Prod.snd h] at hlt

end Descent

/-! ### Runs, cut at the productions -/

/-- An outcome with nothing of what was built before a fault. -/
def Parser.withoutBuilt {α : Type} (read : Except (ParseError α) α × Parser) :
    Except Fault α × Parser :=
  (read.1.mapError ParseError.fault, read.2)

@[simp] theorem Parser.withoutBuilt_ok {α : Type} (a : α) (after : Parser) :
    withoutBuilt (.ok a, after) = (.ok a, after) :=
  rfl

@[simp] theorem Parser.withoutBuilt_error {α : Type} (error : ParseError α) (after : Parser) :
    withoutBuilt (.error error, after) = (.error error.fault, after) :=
  rfl

namespace Stack

variable {goal : Level}

/-- What comes of a round in the end: its own outcome, or that of the rounds that follow. -/
def resume : Pass goal × Parser → Except Fault (Tree goal) × Parser
  | (.finished tree, after) => (.ok tree, after)
  | (.stuck _ fault _, after) => (.error fault, after)
  | (.next stack, after) => Parser.withoutBuilt (stack.run after)

theorem withoutBuilt_run {hole : Level} (stack : Stack goal hole) (parser : Parser) :
    Parser.withoutBuilt (stack.run parser) = resume (stack.pass parser) := by
  rw [run_eq_carryOn]
  obtain ⟨finished | stuck | next, after⟩ := stack.pass parser <;> rfl

/-- What comes of filling the hole with what was read. -/
def fill {hole : Level} (stack : Stack goal hole) :
    Except Fault (Tree hole) × Parser → Except Fault (Tree goal) × Parser
  | (.ok tree, after) => resume (stack.reduce tree after)
  | (.error fault, after) => (.error fault, after)

theorem fill_done (read : Except Fault (Tree goal) × Parser) : fill done read = read := by
  obtain ⟨outcome, after⟩ := read
  cases outcome <;> rfl

/-- What a chain asks for next, by what it has already. -/
def asked {p : Precedence} : List (Tree p.operand × Operator p) → Expectation
  | [] => .expression
  | (_, op) :: _ => .operandAfter op.lexeme

theorem awaited_operand {p : Precedence} (links : List (Tree p.operand × Operator p))
    (below : Stack goal (.chain p)) : (operand p links below).awaited = some (asked links) := by
  match links with
  | [] => rfl
  | _ :: _ => rfl

/-- The operands that a chain has already, put in front of a further chain that was read. -/
def prepend {p : Precedence} (links : List (Tree p.operand × Operator p))
    (read : Except Fault (Tree (.chain p)) × Parser) : Except Fault (Tree (.chain p)) × Parser :=
  (read.1.map fun rest => links.foldl (fun rest (tree, op) => .cons tree op rest) rest, read.2)

theorem prepend_nil {p : Precedence} (read : Except Fault (Tree (.chain p)) × Parser) :
    prepend [] read = read := by
  obtain ⟨outcome, after⟩ := read
  cases outcome <;> rfl

/-- Opening the chains in a hole begins with the chain of the hole's own level. -/
theorem descend_chain {p : Precedence} (stack : Stack goal (.chain p)) :
    stack.descend = (operand p [] stack).descend := by
  cases p <;> rfl

/-- A term looks ahead for itself: to have looked before makes no difference. -/
theorem readTerm_peek (stack : Stack goal .term) {parser : Parser} (h : parser.Settled) :
    stack.readTerm parser.peek.2 = stack.readTerm parser := by
  unfold readTerm
  rw [h.peek_peek]

theorem pass_of_ne_eof {hole : Level} (stack : Stack goal hole) {parser : Parser}
    (h : parser.Settled) (hk : parser.peek.1.kind ≠ .eof) :
    stack.pass parser = stack.descend.readTerm parser := by
  unfold pass
  -- a round asks for more than a term only in that it refuses the end, which is not here
  split
  · rfl
  · dsimp only
    rw [if_neg hk, readTerm_peek _ h]

end Stack

namespace Descent

open Stack

variable {goal : Level}

/-! ### The correspondence -/

mutual

/-- **Reading into a hole is a call of recursive descent** at the level of the hole. The end is left
out, since it is up to the chain to refuse it. -/
theorem resume_readTerm {level : Level} (stack : Stack goal level) {parser : Parser}
    (h : parser.Settled) (hk : level = .term ∨ parser.peek.1.kind ≠ .eof) :
    resume (stack.descend.readTerm parser) = stack.fill (parseTree level parser) ∧
      (parseTree level parser).2.Settled := by
  match level with
  | .term => exact resume_readTerm_term stack h
  | .chain p =>
    have hk : parser.peek.1.kind ≠ .eof := hk.resolve_left (by simp)
    -- to read into the hole is to run with the chain of its level open and still empty
    have hrun := withoutBuilt_run_operand [] stack h
    rwa [withoutBuilt_run, pass_of_ne_eof _ h hk, ← descend_chain, asked, prepend_nil,
      ← parseTree_chain] at hrun
termination_by (parser.remaining, 2 * level.height + 1)
decreasing_by
  -- the measure is the same, and the level of the hole is the chain of its own
  · exact Prod.Lex.right _ (by omega)
  · exact Prod.Lex.right _ (by omega)

/-- A run with a chain open reads the rest of that chain as recursive descent does. -/
theorem withoutBuilt_run_operand {p : Precedence} (links : List (Tree p.operand × Operator p))
    (below : Stack goal (.chain p)) {parser : Parser} (h : parser.Settled) :
    Parser.withoutBuilt ((operand p links below).run parser) =
        below.fill (prepend links (parseChain p (asked links) parser)) ∧
      (parseChain p (asked links) parser).2.Settled := by
  rw [withoutBuilt_run, parseChain_eq]
  by_cases hk : parser.peek.1.kind = .eof
  · -- both refuse the end, in the words of this chain
    rw [if_pos hk, Stack.pass, awaited_operand]
    dsimp only
    rw [if_pos hk]
    exact ⟨rfl, h.peek⟩
  · rw [if_neg hk, pass_of_ne_eof _ h hk, ← readTerm_peek _ h]
    -- the next operand is a call one level down
    obtain ⟨hread, hsettled⟩ := resume_readTerm (operand p links below) h.peek
      (.inr (by rwa [h.peek_peek]))
    rw [hread]
    generalize hresult : parseTree p.operand parser.peek.2 = result at hsettled
    obtain ⟨outcome, after⟩ := result
    cases outcome with
    -- what is refused one level down is refused here
    | error fault => exact ⟨rfl, hsettled⟩
    | ok tree =>
      have hlt : after.remaining < parser.remaining :=
        Nat.lt_of_lt_of_le (remaining_parseTree_lt hresult) parser.remaining_peek_le
      dsimp only [fill, parseRest, reduce]
      cases hop : Operator.ofToken? p after.peek.1 with
      -- no operator follows, so the chain is complete and fills its hole
      | none => exact ⟨rfl, hsettled.peek⟩
      | some op =>
        -- the machine goes on in the same frame, recursive descent calls itself for the rest
        have htaken : after.peek.2.scanIgnoringSpace.2.remaining < parser.remaining :=
          calc after.peek.2.scanIgnoringSpace.2.remaining
            _ ≤ after.peek.2.remaining := Parser.remaining_scanIgnoringSpace_le _
            _ ≤ after.remaining := after.remaining_peek_le
            _ < parser.remaining := hlt
        obtain ⟨hrest, hsettled'⟩ := withoutBuilt_run_operand ((tree, op) :: links) below
          hsettled.peek.scanIgnoringSpace
        dsimp only [resume]
        rw [hrest, asked]
        rw [asked] at hsettled'
        generalize parseChain p (.operandAfter op.lexeme) _ = rest at hsettled'
        obtain ⟨outcome, final⟩ := rest
        cases outcome <;> exact ⟨rfl, hsettled'⟩
termination_by (parser.remaining, 2 * (Level.chain p).height)
decreasing_by
  · have := Level.height_operand p
    exact Prod.Lex.right' _ parser.remaining_peek_le (by omega)
  · exact Prod.Lex.left _ _ htaken

theorem resume_readTerm_term (stack : Stack goal .term) {parser : Parser} (h : parser.Settled) :
    resume (stack.readTerm parser) = stack.fill (parseTree .term parser) ∧
      (parseTree .term parser).2.Settled := by
  rw [parseTree_term]
  dsimp only [readTerm]
  by_cases hopen : parser.peek.1.kind = .leftParen
  · have htaken : parser.peek.2.scanIgnoringSpace.2.remaining < parser.remaining :=
      parser.remaining_take_lt (by simp [hopen]) (by simp [hopen])
    rw [if_pos hopen, if_pos hopen]
    -- the content of a group is a call on what is behind its parenthesis
    obtain ⟨hrun, hsettled⟩ := withoutBuilt_run_operand []
      (group parser.peek.2.scanIgnoringSpace.1 stack) h.peek.scanIgnoringSpace
    dsimp only [resume]
    rw [hrun, prepend_nil, asked]
    rw [asked] at hsettled
    generalize parseChain .additive .expression _ = result at hsettled
    obtain ⟨outcome, after⟩ := result
    cases outcome with
    | error fault => exact ⟨rfl, hsettled⟩
    | ok inner =>
      -- both look for the closing parenthesis, and blame the same token if it is not there
      dsimp only [fill, reduce]
      split
      · exact ⟨rfl, hsettled.peek.scanIgnoringSpace⟩
      · exact ⟨rfl, hsettled.peek⟩
  · -- neither side takes anything but digits for a term without parentheses
    rw [if_neg hopen, if_neg hopen]
    by_cases hdigits : parser.peek.1.kind = .digits
    · -- both read the number with the same function
      rw [if_pos hdigits, if_pos hdigits]
      have hsettled := h.peek.parseNumber
      generalize parser.peek.2.parseNumber = result at hsettled ⊢
      obtain ⟨outcome, after⟩ := result
      cases outcome <;> exact ⟨rfl, hsettled⟩
    · rw [if_neg hdigits, if_neg hdigits]
      exact ⟨rfl, h.peek⟩
termination_by (parser.remaining, 0)
decreasing_by exact Prod.Lex.left _ _ htaken

end

end Descent

namespace Parser

variable {parser : Parser}

theorem withoutBuilt_parseTree (h : parser.Settled) (level : Level) :
    withoutBuilt (parser.parseTree level) = Descent.parseTree level parser := by
  cases level with
  | term =>
    -- with nothing around the hole, filling it is the end
    have hread := (Descent.resume_readTerm .done h (.inl rfl)).1
    rw [Stack.fill_done] at hread
    rw [parseTree, Stack.withoutBuilt_run]
    exact hread
  | chain p =>
    -- a chain with nothing in it yet, and nothing around it
    have hrun := (Descent.withoutBuilt_run_operand (p := p) [] .done h).1
    rw [Stack.fill_done, Stack.prepend_nil, Stack.asked, ← Descent.parseTree_chain] at hrun
    exact hrun

theorem parseTree_of_descent (h : parser.Settled) {level : Level} {t : Tree level} {after : Parser}
    (ht : Descent.parseTree level parser = (.ok t, after)) :
    parser.parseTree level = (.ok t, after) := by
  -- success leaves nothing out, so the outcomes are equal as they are
  rw [← withoutBuilt_parseTree h] at ht
  generalize parser.parseTree level = read at ht ⊢
  obtain ⟨outcome, final⟩ := read
  cases outcome with
  | error => simp at ht
  | ok u =>
    rw [withoutBuilt_ok, Prod.mk.injEq, Except.ok.injEq] at ht
    obtain ⟨rfl, rfl⟩ := ht
    rfl

/-- **The stack machine agrees with recursive descent.** At every level and in every reachable
state, both return the same tree, spans included, or are refused for the same fault, and they leave
the parser in the same state. -/
theorem parseTree_eq_descent (h : parser.Reachable) (level : Level) :
    withoutBuilt (parser.parseTree level) = Descent.parseTree level parser :=
  withoutBuilt_parseTree h.settled level

/-- The two agree behind a number that was read, and in front of the operator that follows it. -/
theorem parseTree_eq_descent_behind_number :
    Reachable ((ofString "1 + (2" "input").perform (.read .number)).2 ∧
      withoutBuilt (((ofString "1 + (2" "input").perform (.read .number)).2.parseTree .term) =
        Descent.parseTree .term ((ofString "1 + (2" "input").perform (.read .number)).2 := by
  have h : Reachable ((ofString "1 + (2" "input").perform (.read .number)).2 :=
    .perform (.start _) rfl
  exact ⟨h, parseTree_eq_descent h .term⟩

end Parser

end ArithExpr
