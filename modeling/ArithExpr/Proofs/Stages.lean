import Mathlib.Logic.Function.Iterate
import ArithExpr.Parser.Basic
import ArithExpr.Proofs.Lookahead

/-!
# Reading in steps

Rounds follow each other by recursion, and in a round the productions that a tree completes are
closed by another one. Here the same reading is taken apart into steps that a loop can carry out: a
step begins a round, or it deals with the innermost open production. What is held between two steps
is a `Stage`. The open productions are a part of it, so nothing but the stage is needed to go on.

That steps come to an end is no matter of course. Looking ahead takes nothing, at the end of the
input one can look for ever, and productions are opened as well as closed. But a round takes a token
that begins a term, unless it is the last one, and behind it each step closes a production, until
the next round begins or the reading is over (`Stage.Advances`). So the tokens ahead that begin
terms bound the rounds, and together with the productions that are open they bound the steps.

* `Stage.next` — one step.
* `Stage.within_beginRound`, `Stage.within_close` — a step does what `Stack.pass` or `Stack.reduce`
  does first, and leaves the rest of it to further steps.
* `Stage.result_next` — so the steps come to what `Stack.run` does.
* `Stage.advances_next` — what a step takes, opens and closes.
* `Stage.Advances.potential_lt`, `Stage.Advances.roundsLeft_le` — the two measures.
* `Stage.outcome?_iterate`, `Stage.countP_isRound_le` — how many steps there are, and how many
  rounds.
* `Parser.parseTree_stages` — all of this, for the reading of a tree.

None of this asks for a parser that is settled.
-/

namespace ArithExpr

variable {goal : Level}

/-! ### Stages -/

/-- What is held between two steps of reading a tree. -/
inductive Stage (goal : Level) where
  /-- A round begins. -/
  | round {hole : Level} (stack : Stack goal hole) (parser : Parser)
  /-- A tree was read, and the productions that it completes are being closed. -/
  | closing {hole : Level} (stack : Stack goal hole) (tree : Tree hole) (parser : Parser)
  | ended (outcome : Except (ParseError (Tree goal)) (Tree goal)) (parser : Parser)

namespace Stack

/-- The input is refused. -/
def refuse {hole : Level} (stack : Stack goal hole) (fault : Fault) (filling : Option (Tree hole))
    (parser : Parser) : Stage goal :=
  .ended (.error ⟨fault, stack.unwind filling⟩) parser

/-- The beginning of a term is read into the hole. -/
def beginTerm (stack : Stack goal .term) (parser : Parser) : Stage goal :=
  let (token, parser) := parser.peek
  if token.kind = .leftParen then
    let (opening, parser) := parser.scanIgnoringSpace
    .round (.operand .additive [] (.group opening stack)) parser
  else if token.kind = .digits then
    match parser.parseNumber with
    | (.ok number, parser) => .closing stack (.number number number.span) parser
    | (.error fault, parser) => stack.refuse fault none parser
  else stack.refuse (.unexpected .numberOrGroup token) none parser

/-- A round begins. A chain that is innermost asks for something in the place of its next operand;
then the chains that begin there are opened. -/
def beginRound {hole : Level} (stack : Stack goal hole) (parser : Parser) : Stage goal :=
  match stack.awaited with
  | none => stack.descend.beginTerm parser
  | some expected =>
    let (token, parser) := parser.peek
    if token.kind = .eof then stack.refuse (.unexpected expected token) none parser
    else stack.descend.beginTerm parser

/-- The innermost production gets the tree that it was open for. -/
def close : {hole : Level} → Stack goal hole → Tree hole → Parser → Stage goal
  | _, done, tree, parser => .ended (.ok tree) parser
  | _, group opening below, inner, parser =>
    let (token, parser) := parser.peek
    if token.kind = .rightParen then
      let (closing, parser) := parser.scanIgnoringSpace
      .closing below (.group inner (some ⟨opening.location, closing.location⟩)) parser
    else
      below.refuse (.missingRightParen (some opening.location) token) (some (.group inner none))
        parser
  | _, operand p links below, tree, parser =>
    let (token, parser) := parser.peek
    match Operator.ofToken? p token with
    | some op => .round (.operand p ((tree, op) :: links) below) parser.scanIgnoringSpace.2
    | none => .closing below (.ofReversed links tree) parser

end Stack

namespace Stage

/-- One step. Behind the end there is none. -/
def next : Stage goal → Stage goal
  | round stack parser => stack.beginRound parser
  | closing stack tree parser => stack.close tree parser
  | ended outcome parser => ended outcome parser

/-- Says whether a round begins. -/
def isRound : Stage goal → Bool
  | round .. => true
  | closing .. | ended .. => false

/-- Where a round leaves the reading. -/
def ofPass : Pass goal × Parser → Stage goal
  | (.finished tree, after) => .ended (.ok tree) after
  | (.stuck stack fault filling, after) => stack.refuse fault filling after
  | (.next stack, after) => .round stack after

/-- What the reading has come to, if it is over. -/
def outcome? : Stage goal → Option (Except (ParseError (Tree goal)) (Tree goal) × Parser)
  | ended outcome parser => some (outcome, parser)
  | round .. | closing .. => none

/-! ### What steps come to -/

/-- A stage behind the first step of a round that comes to `pass`. -/
inductive Within (pass : Pass goal × Parser) : Stage goal → Prop where
  | passed : Within pass (ofPass pass)
  | closing {hole : Level} {stack : Stack goal hole} {tree : Tree hole} {parser : Parser}
      (reduces : stack.reduce tree parser = pass) : Within pass (.closing stack tree parser)

theorem within_beginTerm (stack : Stack goal .term) (parser : Parser) :
    Within (stack.readTerm parser) (stack.beginTerm parser) := by
  -- the two look at the same token and go the same ways, but for a number
  unfold Stack.beginTerm Stack.readTerm
  dsimp only
  split
  · exact .passed
  · split
    · rcases parser.peek.2.parseNumber with ⟨fault | number, after⟩
      · exact .passed
      · exact .closing rfl
    · exact .passed

theorem within_beginRound {hole : Level} (stack : Stack goal hole) (parser : Parser) :
    Within (stack.pass parser) (stack.beginRound parser) := by
  unfold Stack.beginRound Stack.pass
  cases stack.awaited with
  | none => exact within_beginTerm _ _
  | some expected =>
    dsimp only
    split
    · -- at the end of the input both refuse
      exact .passed
    · exact within_beginTerm _ _

theorem within_close {hole : Level} (stack : Stack goal hole) (tree : Tree hole)
    (parser : Parser) : Within (stack.reduce tree parser) (stack.close tree parser) := by
  cases stack with
  | done => exact .passed
  | group opening below =>
    unfold Stack.close Stack.reduce
    dsimp only
    split
    · exact .closing rfl
    · exact .passed
  | operand p links below =>
    unfold Stack.close Stack.reduce
    dsimp only
    cases Operator.ofToken? p parser.peek.1 with
    | some op => exact .passed
    | none => exact .closing rfl

/-- What `Stack.run` makes of a stage. -/
def result : Stage goal → Except (ParseError (Tree goal)) (Tree goal) × Parser
  | round stack parser => stack.run parser
  | closing stack tree parser => Stack.carryOn (stack.reduce tree parser)
  | ended outcome parser => (outcome, parser)

theorem Within.result_eq {pass : Pass goal × Parser} {stage : Stage goal}
    (h : Within pass stage) : stage.result = Stack.carryOn pass := by
  cases h with
  | passed => obtain ⟨finished | stuck | next, after⟩ := pass <;> rfl
  | closing reduces => rw [result, reduces]

/-- **A step leaves the result as it is.** -/
theorem result_next (stage : Stage goal) : stage.next.result = stage.result := by
  cases stage with
  | round stack parser =>
    -- the round goes on as `Stack.run` does, since `Stack.pass` says what becomes of it
    exact (within_beginRound stack parser).result_eq.trans (stack.run_eq_carryOn parser).symm
  | closing stack tree parser => exact (within_close stack tree parser).result_eq
  | ended => rfl

theorem result_of_outcome? {stage : Stage goal}
    {found : Except (ParseError (Tree goal)) (Tree goal) × Parser}
    (h : stage.outcome? = some found) : stage.result = found := by
  cases stage with
  | round | closing => simp [outcome?] at h
  | ended => exact Option.some.inj h

end Stage

/-! ### What is looked at and taken -/

namespace Parser

theorem tokensAhead_fill (parser : Parser) :
    tokensAhead ⟨parser.fill.2, .ahead parser.fill.1⟩ = parser.tokensAhead := by
  obtain ⟨lexer, slot⟩ := parser
  -- a slot that is filled from the lexer holds what the scan took off its tokens
  cases slot with
  | ahead token => rfl
  | empty | taken => exact lexer.tokensAhead_scan.symm

/-- Looking leaves what is ahead as it is, wherever the token in the slot comes from. -/
theorem tokensAhead_peek (parser : Parser) : parser.peek.2.tokensAhead = parser.tokensAhead := by
  have hfill := parser.tokensAhead_fill
  unfold peek
  dsimp only
  split
  · next hspace =>
    -- white space that is dropped was not among the tokens ahead
    have hkind : parser.fill.1.kind = .whitespace := by simpa [Token.isWhitespace] using hspace
    have hdropped : parser.fill.2.tokensAhead = parser.tokensAhead := by
      rw [← hfill]
      simp [tokensAhead, Token.isSignificant, hkind]
    exact parser.fill.2.tokensAhead_scan.symm.trans hdropped
  · exact hfill

/-- A token that was looked at is taken off the tokens ahead. -/
theorem tokensAhead_take (parser : Parser) (h : parser.peek.1.isSignificant = true) :
    parser.tokensAhead = parser.peek.1 :: parser.peek.2.scanIgnoringSpace.2.tokensAhead := by
  -- what counts is no white space, so taking it is taking what was looked at
  have hspace : parser.peek.1.isWhitespace = false := by
    simpa [Token.isWhitespace] using (Token.isSignificant_iff.1 h).1
  rw [scanIgnoringSpace_of_ahead parser.slot_peek hspace, ← parser.tokensAhead_peek]
  simp [tokensAhead, parser.slot_peek, h]

/-- Whatever follows the point of a number, tokens are only taken from the front. -/
theorem suffix_parseFraction (integral : Token) (parser : Parser) :
    (parser.parseFraction integral).2.tokensAhead <:+ parser.tokensAhead := by
  unfold parseFraction
  dsimp only
  split
  · next hk =>
    -- the digits of the fraction are one token more
    rw [parser.tokensAhead_take (by simp [Token.isSignificant, hk])]
    exact List.suffix_cons _ _
  · exact parser.tokensAhead_peek ▸ List.suffix_rfl

/-- Digits are taken, whatever they come to. -/
theorem exists_tokensAhead_parseNumber (parser : Parser) (h : parser.peek.1.kind = .digits) :
    ∃ more, parser.tokensAhead = parser.peek.1 :: more ++ parser.parseNumber.2.tokensAhead := by
  have htake := parser.tokensAhead_take (by simp [Token.isSignificant, h])
  unfold parseNumber
  simp only [h, reduceCtorEq, if_false, if_true]
  generalize parser.peek.2.scanIgnoringSpace.2 = behind at htake ⊢
  split
  · -- a point is taken with what follows it
    next hdot =>
    have hpoint := behind.tokensAhead_take (by simp [Token.isSignificant, hdot])
    obtain ⟨more, hmore⟩ := suffix_parseFraction parser.peek.2.scanIgnoringSpace.1
      behind.peek.2.scanIgnoringSpace.2
    refine ⟨behind.peek.1 :: more, ?_⟩
    rw [htake, hpoint, ← hmore]
    rfl
  · exact ⟨[], by rw [htake, tokensAhead_peek]; rfl⟩

end Parser

theorem Operator.isSignificant_of_ofToken? {p : Precedence} {token : Token} {op : Operator p}
    (h : ofToken? p token = some op) : token.isSignificant = true := by
  unfold ofToken? at h
  split at h
  · next hsymbol =>
    -- white space and the end have no symbol
    rw [Token.isSignificant_iff]
    constructor <;> intro hk <;> simp [hk, TokenKind.symbol?] at hsymbol
  · simp at h

/-! ### What a step does -/

/-- Says whether terms can begin with a token. -/
def Token.beginsTerm (token : Token) : Bool :=
  token.kind = .leftParen || token.kind = .digits

namespace Stage

/-- **What a step does.** It takes tokens off the front of those ahead, and it opens or closes
productions. -/
inductive Advances : Stage goal → Stage goal → Prop where
  /-- A round opens a group with a chain in it. -/
  | opens {hole : Level} {stack : Stack goal hole} {parser after : Parser} {opening : Token}
      (takes : parser.tokensAhead = opening :: after.tokensAhead)
      (kind : opening.kind = .leftParen) :
      Advances (.round stack parser)
        (.round (.operand .additive [] (.group opening stack.descend)) after)
  /-- A round reads a number, which is a term. -/
  | reads {hole : Level} {stack : Stack goal hole} {parser after : Parser} {digits : Token}
      {more : List Token} {number : Number}
      (takes : parser.tokensAhead = digits :: more ++ after.tokensAhead)
      (kind : digits.kind = .digits) :
      Advances (.round stack parser)
        (.closing stack.descend (.number number number.span) after)
  /-- A round fails. -/
  | fails {hole : Level} {stack : Stack goal hole} {parser after : Parser}
      {error : ParseError (Tree goal)} :
      Advances (.round stack parser) (.ended (.error error) after)
  /-- A group is closed. -/
  | closesGroup {opening closing : Token} {below : Stack goal .term} {inner : Expression}
      {span : Option Span} {parser after : Parser}
      (takes : parser.tokensAhead = closing :: after.tokensAhead)
      (kind : closing.kind = .rightParen) :
      Advances (.closing (.group opening below) inner parser)
        (.closing below (.group inner span) after)
  /-- A group misses its end. -/
  | missesEnd {opening : Token} {below : Stack goal .term} {inner : Expression}
      {parser after : Parser} {error : ParseError (Tree goal)} :
      Advances (.closing (.group opening below) inner parser) (.ended (.error error) after)
  /-- A chain asks for a further operand. -/
  | goesOn {p : Precedence} {links : List (Tree p.operand × Operator p)}
      {below : Stack goal (.chain p)} {operand : Tree p.operand} {token : Token} {op : Operator p}
      {parser after : Parser} (takes : parser.tokensAhead = token :: after.tokensAhead)
      (operator : Operator.ofToken? p token = some op) :
      Advances (.closing (.operand p links below) operand parser)
        (.round (.operand p ((operand, op) :: links) below) after)
  /-- A chain is closed, for which nothing is taken. -/
  | closesChain {p : Precedence} {links : List (Tree p.operand × Operator p)}
      {below : Stack goal (.chain p)} {operand : Tree p.operand} {parser after : Parser}
      (ahead : after.tokensAhead = parser.tokensAhead) :
      Advances (.closing (.operand p links below) operand parser)
        (.closing below (.ofReversed links operand) after)
  /-- Nothing is open any more. -/
  | finishes {tree : Tree goal} {parser : Parser} :
      Advances (.closing .done tree parser) (.ended (.ok tree) parser)

theorem advances_beginTerm {hole : Level} {stack : Stack goal hole} {parser looked : Parser}
    (h : looked.tokensAhead = parser.tokensAhead) :
    Advances (.round stack parser) (stack.descend.beginTerm looked) := by
  unfold Stack.beginTerm
  dsimp only
  split
  · next hk =>
    have hsig : looked.peek.1.isSignificant = true := by simp [Token.isSignificant, hk]
    -- the token that is taken is the one that was looked at
    rw [Parser.scanIgnoringSpace_peek_fst (by simp [hk])]
    exact .opens (h.symm.trans (looked.tokensAhead_take hsig)) hk
  · split
    · next hk =>
      -- the number looks for itself and sees the same
      have hagain : looked.peek.2.peek = looked.peek :=
        Parser.peek_peek_of_ne (by simp [hk])
      obtain ⟨more, hmore⟩ := looked.peek.2.exists_tokensAhead_parseNumber
        (by rw [hagain, hk])
      rw [looked.tokensAhead_peek, h, hagain] at hmore
      split
      · next hread =>
        rw [hread] at hmore
        exact .reads hmore hk
      · exact .fails
    · exact .fails

theorem advances_beginRound {hole : Level} (stack : Stack goal hole) (parser : Parser) :
    Advances (.round stack parser) (stack.beginRound parser) := by
  unfold Stack.beginRound
  split
  · exact advances_beginTerm rfl
  · dsimp only
    split
    · exact .fails
    · -- a look ahead takes nothing
      exact advances_beginTerm parser.tokensAhead_peek

theorem advances_close {hole : Level} (stack : Stack goal hole) (tree : Tree hole)
    (parser : Parser) : Advances (.closing stack tree parser) (stack.close tree parser) := by
  cases stack with
  | done => exact .finishes
  | group opening below =>
    unfold Stack.close
    dsimp only
    split
    · next hk =>
      -- the parenthesis counts among the tokens ahead, from which it is taken
      have hsig : parser.peek.1.isSignificant = true := by simp [Token.isSignificant, hk]
      exact .closesGroup (parser.tokensAhead_take hsig) hk
    · exact .missesEnd
  | operand p links below =>
    unfold Stack.close
    dsimp only
    split
    · next hop =>
      exact .goesOn (parser.tokensAhead_take (Operator.isSignificant_of_ofToken? hop)) hop
    · exact .closesChain parser.tokensAhead_peek

/-- **Every step** is one of these, as long as the reading is not over. -/
theorem advances_next {stage : Stage goal} (h : stage.outcome? = none) :
    stage.Advances stage.next := by
  cases stage with
  | round stack parser => exact advances_beginRound stack parser
  | closing stack tree parser => exact advances_close stack tree parser
  | ended => simp [outcome?] at h

end Stage

/-! ### Measures -/

/-- How many productions are open. -/
def Stack.height : {hole : Level} → Stack goal hole → Nat
  | _, done => 0
  | _, group _ below => below.height + 1
  | _, operand _ _ below => below.height + 1

theorem Stack.height_descend_le {hole : Level} (stack : Stack goal hole) :
    stack.descend.height ≤ stack.height + 3 := by
  -- no more than the three chains above a term are opened at once
  rcases hole with _ | _ | _ | _ <;> simp [descend, height]

/-- How many of the tokens ahead terms can begin with. -/
def Parser.termStarts (parser : Parser) : Nat :=
  parser.tokensAhead.countP Token.beginsTerm

namespace Parser

variable {parser after : Parser} {token : Token} (more : List Token)

theorem termStarts_le_of_takes (h : parser.tokensAhead = more ++ after.tokensAhead) :
    after.termStarts ≤ parser.termStarts := by
  rw [termStarts, termStarts, h, List.countP_append]
  exact Nat.le_add_left _ _

theorem termStarts_lt_of_takes (h : parser.tokensAhead = token :: more ++ after.tokensAhead)
    (hb : token.beginsTerm = true) : after.termStarts < parser.termStarts := by
  rw [termStarts, termStarts, h, List.countP_append, List.countP_cons_of_pos hb]
  omega

end Parser

namespace Stage

/-- A bound on the steps that are left. A token that begins a term counts for all productions that
it opens. -/
def potential : Stage goal → Nat
  | round stack parser => 6 * parser.termStarts + stack.height + 1
  | closing stack _ parser => 6 * parser.termStarts + stack.height + 2
  | ended .. => 0

/-- A bound on the rounds that are left. -/
def roundsLeft : Stage goal → Nat
  | round _ parser | closing _ _ parser => parser.termStarts + 1
  | ended .. => 0

namespace Advances

variable {stage after : Stage goal}

/-- **Steps use up the potential.** -/
theorem potential_lt (h : stage.Advances after) : after.potential < stage.potential := by
  cases h with
  | @opens _ stack _ _ opening takes kind =>
    -- a token that begins a term is worth more than the productions that it opens
    have hlt := Parser.termStarts_lt_of_takes [] takes (by simp [Token.beginsTerm, kind])
    have hheight := stack.height_descend_le
    simp only [potential, Stack.height]
    omega
  | @reads _ stack _ _ _ _ _ takes kind =>
    have hlt := Parser.termStarts_lt_of_takes _ takes (by simp [Token.beginsTerm, kind])
    have hheight := stack.height_descend_le
    simp only [potential]
    omega
  | fails | missesEnd | finishes => simp [potential]
  | @closesGroup _ closing _ _ _ _ _ takes =>
    -- whatever the token is that closes a group, the production that is closed pays for the step
    have hle := Parser.termStarts_le_of_takes [closing] takes
    simp only [potential, Stack.height]
    omega
  | @goesOn _ _ _ _ token _ _ _ takes =>
    have hle := Parser.termStarts_le_of_takes [token] takes
    simp only [potential, Stack.height]
    omega
  | closesChain ahead =>
    -- nothing is taken, but a production is closed
    simp only [potential, Stack.height, Parser.termStarts, ahead]
    omega

/-- **Rounds use up the tokens that begin terms.** -/
theorem roundsLeft_le (h : stage.Advances after) :
    after.roundsLeft + (if stage.isRound then 1 else 0) ≤ stage.roundsLeft := by
  -- only what begins in a round counts for one, and that has taken a token that begins a term
  cases h with
  | @opens _ _ _ _ opening takes kind =>
    have hlt := Parser.termStarts_lt_of_takes [] takes (by simp [Token.beginsTerm, kind])
    simp only [roundsLeft, isRound, if_true]
    omega
  | reads takes kind =>
    have hlt := Parser.termStarts_lt_of_takes _ takes (by simp [Token.beginsTerm, kind])
    simp only [roundsLeft, isRound, if_true]
    omega
  | fails | missesEnd | finishes => simp [roundsLeft, isRound]
  | @closesGroup _ closing _ _ _ _ _ takes =>
    have hle := Parser.termStarts_le_of_takes [closing] takes
    simpa [roundsLeft, isRound] using hle
  | @goesOn _ _ _ _ token _ _ _ takes =>
    have hle := Parser.termStarts_le_of_takes [token] takes
    simpa [roundsLeft, isRound] using hle
  | closesChain ahead => simp [roundsLeft, isRound, Parser.termStarts, ahead]

end Advances

/-! ### Whole readings -/

/-- **A round is one of `Stack.pass`.** Its steps lead to where that leaves the reading, and no
other round begins before. -/
theorem Within.exists_iterate {pass : Pass goal × Parser} {stage : Stage goal}
    (h : Within pass stage) : ∃ m, next^[m] stage = ofPass pass ∧
      ∀ j < m, (next^[j] stage).isRound = false := by
  -- each production that is closed uses up some of the potential
  induction hp : stage.potential using Nat.strongRecOn generalizing stage with
  | ind potential ih =>
    cases h with
    | passed => exact ⟨0, rfl, by simp⟩
    | @closing _ stack tree parser reduces =>
      have hlt := (advances_close stack tree parser).potential_lt
      obtain ⟨m, hend, hbetween⟩ := ih _ (hp ▸ hlt) (reduces ▸ within_close stack tree parser) rfl
      refine ⟨m + 1, hend, fun j hj => ?_⟩
      cases j with
      | zero => rfl
      | succ j => exact hbetween j (by omega)

/-- **Steps come to an end**, after a number of them that the potential bounds, and then the result
is there. No limit on the steps has a part in it, but that it may come too early. -/
theorem outcome?_iterate (stage : Stage goal) :
    ∃ n ≤ stage.potential, ∀ limit, (next^[limit] stage).outcome? =
      if n ≤ limit then some stage.result else none := by
  induction hp : stage.potential using Nat.strongRecOn generalizing stage with
  | ind potential ih =>
    cases hover : stage.outcome? with
    | some found =>
      -- the reading is over, and further steps leave it so
      refine ⟨0, Nat.zero_le _, fun limit => ?_⟩
      have hfixed : next^[limit] stage = stage := by
        apply Function.iterate_fixed
        cases stage with
        | round | closing => simp [outcome?] at hover
        | ended => rfl
      rw [hfixed, hover, result_of_outcome? hover, if_pos (Nat.zero_le _)]
    | none =>
      have hlt := (advances_next hover).potential_lt
      obtain ⟨n, hn, hlimit⟩ := ih _ (hp ▸ hlt) stage.next rfl
      refine ⟨n + 1, by omega, fun limit => ?_⟩
      cases limit with
      | zero => simpa using hover
      | succ limit =>
        -- the first of the steps leaves the result, so that of the others is the same
        rw [Function.iterate_succ_apply, hlimit, result_next]
        simp

theorem roundsLeft_next_le (stage : Stage goal) :
    stage.next.roundsLeft + (if stage.isRound then 1 else 0) ≤ stage.roundsLeft := by
  cases hover : stage.outcome? with
  | none => exact (advances_next hover).roundsLeft_le
  | some found =>
    cases stage with
    | round | closing => simp [outcome?] at hover
    | ended => simp [next, isRound]

/-- The rounds among some steps, and those that are left behind them. -/
theorem countP_isRound_le (stage : Stage goal) (n : Nat) :
    (List.range n).countP (fun i => (next^[i] stage).isRound) + (next^[n] stage).roundsLeft ≤
      stage.roundsLeft := by
  induction n with
  | zero => simp
  | succ n ih =>
    -- a round that begins is paid for by what the step uses up
    have hstep := (next^[n] stage).roundsLeft_next_le
    rw [List.range_succ, List.countP_append, List.countP_singleton, Function.iterate_succ_apply']
    omega

/-- The stage in which the reading of a tree begins. -/
def start : (level : Level) → Parser → Stage level
  | .term, parser => .round .done parser
  | .chain p, parser => .round (.operand p [] .done) parser

theorem result_start (level : Level) (parser : Parser) :
    (start level parser).result = parser.parseTree level := by
  cases level <;> rfl

theorem potential_start_le (level : Level) (parser : Parser) :
    (start level parser).potential ≤ 6 * parser.termStarts + 2 := by
  cases level <;> simp [start, potential, Stack.height]

theorem roundsLeft_start (level : Level) (parser : Parser) :
    (start level parser).roundsLeft = parser.termStarts + 1 := by
  cases level <;> rfl

end Stage

namespace Parser

/-- The stage of reading a tree behind some steps. -/
def stageAt (level : Level) (parser : Parser) (n : Nat) : Stage level :=
  Stage.next^[n] (.start level parser)

theorem stageAt_succ (level : Level) (parser : Parser) (n : Nat) :
    parser.stageAt level (n + 1) = (parser.stageAt level n).next :=
  Function.iterate_succ_apply' ..

theorem stageAt_add (level : Level) (parser : Parser) (m n : Nat) :
    parser.stageAt level (m + n) = Stage.next^[n] (parser.stageAt level m) := by
  rw [stageAt, Nat.add_comm, Function.iterate_add_apply]
  rfl

/-- **Reading a tree ends**, whatever the parser has ahead. There is a number of steps, at most
linear in the number of the tokens ahead that begin terms, such that every limit from there on gives
the tree or the refusal that `Parser.parseTree` gives, and every smaller one gives nothing. Until
then each step takes a token that begins a term, closes a production or asks for another operand,
unless it is the last one. Where a round begins, the steps lead to what `Stack.pass` comes to before
another one does, and there is one round more than there are such tokens, at most. -/
theorem parseTree_stages (level : Level) (parser : Parser) :
    ∃ n ≤ 6 * parser.termStarts + 2,
      (∀ limit, (parser.stageAt level limit).outcome? =
        if n ≤ limit then some (parser.parseTree level) else none) ∧
      (∀ i < n, (parser.stageAt level i).Advances (parser.stageAt level (i + 1))) ∧
      (∀ i hole (stack : Stack level hole) looked,
        parser.stageAt level i = .round stack looked →
          ∃ m, parser.stageAt level (i + 1 + m) = .ofPass (stack.pass looked) ∧
            ∀ j < m, (parser.stageAt level (i + 1 + j)).isRound = false) ∧
      (List.range n).countP (fun i => (parser.stageAt level i).isRound) ≤
        parser.termStarts + 1 := by
  obtain ⟨n, hn, hlimit⟩ := (Stage.start level parser).outcome?_iterate
  rw [Stage.result_start] at hlimit
  refine ⟨n, Nat.le_trans hn (Stage.potential_start_le level parser), hlimit, ?_, ?_, ?_⟩
  · -- the reading is not over before the last step, so each of them advances
    intro i hi
    rw [stageAt_succ]
    refine Stage.advances_next ?_
    rw [stageAt, hlimit, if_neg (by omega)]
  · -- the step that begins a round leaves the reading within it, and its other steps follow
    intro i hole stack looked hround
    obtain ⟨m, hend, hbetween⟩ := (Stage.within_beginRound stack looked).exists_iterate
    have hnext : parser.stageAt level (i + 1) = stack.beginRound looked := by
      rw [stageAt_succ, hround]
      rfl
    refine ⟨m, ?_, fun j hj => ?_⟩
    · rw [stageAt_add, hnext, hend]
    · rw [stageAt_add, hnext, hbetween j hj]
  · -- the rounds that have begun and those that are left were all left at the start
    have hrounds := (Stage.start level parser).countP_isRound_le n
    rw [Stage.roundsLeft_start] at hrounds
    exact Nat.le_trans (Nat.le_add_right _ _) hrounds

/-- The bound on the rounds is met: behind three parentheses that open groups, the end takes one
round more. -/
theorem parseTree_stages_unclosed :
    (ofString "(((" "input").termStarts = 3 ∧ ∃ n ≤ 20,
      (∀ limit, ((ofString "(((" "input").stageAt .term limit).outcome? =
        if n ≤ limit then some ((ofString "(((" "input").parseTree .term) else none) ∧
      (List.range n).countP (fun i => ((ofString "(((" "input").stageAt .term i).isRound) = 4 := by
  have hstarts : (ofString "(((" "input").termStarts = 3 := by decide +kernel
  have hnot : ((ofString "(((" "input").stageAt .term 3).outcome?.isSome = false := by
    decide +kernel
  have hover : ((ofString "(((" "input").stageAt .term 4).outcome?.isSome = true := by
    decide +kernel
  have hrounds : (List.range 4).countP
      (fun i => ((ofString "(((" "input").stageAt .term i).isRound) = 4 := by decide +kernel
  obtain ⟨n, hn, hlimit, -⟩ := parseTree_stages .term (ofString "(((" "input")
  rw [hstarts] at hn
  -- the outcome is not there behind three steps, but it is behind four
  rw [hlimit] at hnot hover
  obtain rfl : n = 4 := by
    by_cases h3 : n ≤ 3 <;> by_cases h4 : n ≤ 4 <;> simp [h3, h4] at hnot hover
    omega
  exact ⟨hstarts, 4, hn, hlimit, hrounds⟩

end Parser

end ArithExpr
