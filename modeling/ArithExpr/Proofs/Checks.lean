import ArithExpr.Proofs.Frames
import ArithExpr.Proofs.SlotSpelling

/-!
# No check ever fails

`Checked` looks up classes in tables, collects operands and operators in lists, and checks the parts
of every node that it makes. Here it is proved that none of these checks ever fails, whatever the
parser is asked for, and whatever is done to its lexer in between. The reason is that the frames
which are open are always those of a `Stack`, and that every token which is read was scanned.

* `Checked.parseNumber_eq`, `Checked.parseOperator_eq` — leaves are read as the parser reads them.
* `Checked.reduce_frames`, `Checked.pass_frames`, `Checked.run_frames` — on the frames of a stack,
  rounds succeed with what rounds on the stack come to.
* `Checked.read_eq`, `Checked.session_eq` — so routines and sessions succeed with what the parser
  gives.
* `Checked.session_ofString` — this of every text; and a literal is only ever refused for the number
  of its digits.
-/

namespace ArithExpr

/-- What a round comes to, with frames in place of a stack and nodes in place of trees. -/
def Pass.erased {goal : Level} : Pass goal → Checked.Round
  | finished tree => .finished (.tree tree)
  | stuck stack fault filling => .stuck stack.frames ⟨fault, filling.map .tree⟩
  | next stack => .next stack.frames

/-- An open chain can begin a round, and so can the place of a whole term. -/
def Stack.Begins {goal : Level} : {hole : Level} → Stack goal hole → Prop
  | _, operand .. => True
  | _, done => goal = .term
  | _, group .. => False

namespace Checked

variable {goal : Level} {p : Precedence}

/-! ### Faults -/

/-- An illegal token that was scanned is a single character, so advice can be given about it. -/
theorem refusal_eq (expected : Expectation) {found : Token} (h : found.Spelled)
    (built : Option Node) :
    refusal expected found built = .ok ⟨.unexpected expected found, built⟩ := by
  have hfault : Fault.ofUnexpected expected (loose found) =
      .ok (.unexpected expected found) := by
    by_cases hk : found.kind = .illegal
    · have hadvise : canAdvise found.lexeme = true := by
        unfold Token.Spelled at h
        rw [hk] at h
        obtain ⟨c, hc, -⟩ := h
        rw [hc]
        simp [canAdvise]
      exact Fault.ofUnexpected_placed expected found hadvise
    · -- no other token needs advice
      obtain ⟨kind, lexeme, location⟩ := found
      cases kind with
      | illegal => exact absurd rfl hk
      | _ => rfl
  unfold refusal
  rw [hfault]
  rfl

theorem missingRightParen_eq (opening found : Token) (built : Option Node) :
    missingRightParen opening found built =
      .ok ⟨.missingRightParen (some opening.location) found, built⟩ :=
  rfl

theorem expectInput_of_eof (expected : Expectation) {parser : Parser}
    (h : parser.peek.1.kind = .eof) :
    expectInput expected parser =
      (.error ⟨.unexpected expected parser.peek.1, none⟩, parser.peek.2) := by
  unfold expectInput Fault.unexpected
  simp [h]

theorem expectInput_of_ne (expected : Expectation) {parser : Parser}
    (h : parser.peek.1.kind ≠ .eof) :
    expectInput expected parser = (.ok parser.peek.1, parser.peek.2) := by
  unfold expectInput
  simp [h]

/-! ### Numbers and operators -/

open ArithExpr.Parser

variable {parser : Parser}

theorem numberOf_eq (text : String) (first last : Token) (parser : Parser) :
    numberOf text first last parser =
      .ok (leafAsNode .number (Parser.numberOf text first last, parser)) := by
  unfold numberOf Parser.numberOf
  cases hvalue : decimalValue text with
  | error reason =>
    rw [Number.ofText_of_error hvalue]
    rfl
  | ok value =>
    -- the value that is stated is the one that the text has, so the check agrees
    have hnumber : ∀ span, numberNode text value span =
        .ok (.number ⟨text, value, span, hvalue⟩) := by
      intro span
      unfold numberNode Number.ofStated Number.ofLiteral
      rw [Number.ofText_of_ok hvalue]
      simp [StatedValue.toRat, Except.mapError]
    rw [Number.ofText_of_ok hvalue]
    dsimp only
    rw [hnumber]
    rfl

theorem parseFraction_eq (integral : Token) (h : parser.HoldsSpelled) :
    parseFraction integral parser =
      .ok (leafAsNode .number (parser.parseFraction integral)) := by
  unfold parseFraction Parser.parseFraction
  dsimp only
  split
  · exact numberOf_eq _ _ _ _
  -- what was looked at is spelled, as `HoldsSpelled` says of every token that is held
  · rw [refusal_eq _ h.peek_fst]
    rfl

theorem parseNumber_eq (h : parser.HoldsSpelled) :
    parseNumber parser = .ok (leafAsNode .number parser.parseNumber) := by
  unfold parseNumber Parser.parseNumber
  dsimp only
  by_cases heof : parser.peek.1.kind = .eof
  · rw [expectInput_of_eof _ heof, if_pos heof]
    rfl
  · rw [expectInput_of_ne _ heof, if_neg heof]
    dsimp only
    split
    -- the parser holds a spelled token after each of the three steps
    · have hafter := h.peek.scanIgnoringSpace.peek
      split
      · exact parseFraction_eq _ hafter.scanIgnoringSpace
      · exact numberOf_eq _ _ _ _
    · rw [refusal_eq _ h.peek_fst]
      rfl

theorem operatorNode_eq {token : Token} {op : Operator p}
    (h : Operator.ofToken? p token = some op) :
    operatorNode p token = .ok (.operator op) := by
  -- the kind is checked by its symbol and then by the class of the symbol, as in `ofToken?`
  have hop : Operator.ofToken p token = .ok op := by
    unfold Operator.ofToken? at h
    unfold Operator.ofToken Operator.ofKind
    cases hsymbol : token.kind.symbol? with
    | none => rw [hsymbol] at h; simp at h
    | some symbol =>
      rw [hsymbol] at h
      dsimp only at h
      rw [Option.bind_some, h]
  unfold operatorNode
  rw [hop]
  rfl

/-- A token is an operator of a class exactly if its kind is. -/
theorem isSome_ofToken? (p : Precedence) (token : Token) :
    (Operator.ofToken? p token).isSome = true ↔ token.kind.precedence? = some p := by
  unfold Operator.ofToken? TokenKind.precedence?
  cases token.kind.symbol? with
  | none => simp
  | some symbol =>
    unfold Operator.ofSymbol?
    by_cases h : symbol.precedence = p <;> simp [h]

theorem precedence?_of_ofToken? {token : Token} {op : Operator p}
    (h : Operator.ofToken? p token = some op) : token.kind.precedence? = some p :=
  (isSome_ofToken? p token).1 (by rw [h]; rfl)

theorem precedence?_ne_of_ofToken? {token : Token} (h : Operator.ofToken? p token = none) :
    token.kind.precedence? ≠ some p := by
  rw [Ne, ← isSome_ofToken?, h]
  simp

theorem kind_ne_whitespace {token : Token} (h : token.kind.precedence? = some p) :
    token.kind ≠ .whitespace := by
  intro hk
  rw [hk] at h
  simp [TokenKind.precedence?, TokenKind.symbol?] at h

theorem parseOperator_eq (p : Precedence) (h : parser.HoldsSpelled) :
    parseOperator p parser = .ok (leafAsNode .operator (parser.parseOperator p)) := by
  unfold parseOperator Parser.parseOperator
  dsimp only
  by_cases heof : parser.peek.1.kind = .eof
  · -- the end is no operator, so both refuse it, in the same words
    have hnone : Operator.ofToken? p parser.peek.1 = none := by
      simp [Operator.ofToken?, TokenKind.symbol?, heof]
    rw [expectInput_of_eof _ heof, hnone]
    rfl
  · rw [expectInput_of_ne _ heof]
    dsimp only
    cases hop : Operator.ofToken? p parser.peek.1 with
    | some op =>
      have hk := precedence?_of_ofToken? hop
      -- the token that is taken is the one that was looked at
      rw [if_pos hk, scanIgnoringSpace_peek_fst (kind_ne_whitespace hk), operatorNode_eq hop]
      rfl
    | none =>
      rw [if_neg (precedence?_ne_of_ofToken? hop), refusal_eq _ h.peek_fst]
      rfl

/-! ### Rounds -/

/-- **Reducing frames** gives what reducing the stack gives. -/
theorem reduce_frames {hole : Level} (stack : Stack goal hole) (tree : Tree hole)
    (h : parser.HoldsSpelled) :
    reduce stack.frames (.tree tree) parser =
      .ok ((stack.reduce tree parser).1.erased, (stack.reduce tree parser).2) := by
  -- by induction on the stack, as far as it is closed
  induction stack generalizing parser with
  | done => rfl
  | group opening below ih =>
    rw [Stack.frames, reduce, Stack.reduce]
    dsimp only
    split
    · -- the group is closed, and the term that it makes goes on to what is below
      rw [termNode_group]
      exact ih _ h.peek.scanIgnoringSpace
    · -- the parenthesis is missing
      rw [termNode_group, ok_bind, missingRightParen_eq]
      rfl
  | operand p links below ih =>
    rw [Stack.frames, reduce, Stack.reduce]
    dsimp only
    cases hop : Operator.ofToken? p parser.peek.1 with
    | some op =>
      have hk := precedence?_of_ofToken? hop
      -- the operator is looked at once more before it is taken
      have hread : parser.peek.2.parseOperator p =
          (.ok op, parser.peek.2.scanIgnoringSpace.2) := by
        unfold Parser.parseOperator
        rw [peek_peek_of_ne (kind_ne_whitespace hk)]
        dsimp only
        rw [hop]
      rw [if_pos hk, parseOperator_eq p h.peek, hread, ← operandNodes_cons tree op]
      simp only [ok_bind, leafAsNode, ← operatorNodes_cons tree op]
      rfl
    | none =>
      -- the chain ends here and is an operand of what is below
      rw [if_neg (precedence?_ne_of_ofToken? hop), fold_links]
      exact ih _ h.peek

theorem readTerm_frames (stack : Stack goal .term) (h : parser.HoldsSpelled) :
    readTerm stack.frames parser =
      .ok ((stack.readTerm parser).1.erased, (stack.readTerm parser).2) := by
  unfold readTerm Stack.readTerm
  dsimp only
  by_cases heof : parser.peek.1.kind = .eof
  · rw [expectInput_of_eof _ heof]
    simp [heof, Pass.erased]
  · rw [expectInput_of_ne _ heof]
    dsimp only
    split
    · rfl
    · split
      -- the number is what is reduced, by a parser that holds a spelled token again
      · have hnumber := safe_parseNumber h.peek
        rw [parseNumber_eq h.peek]
        generalize parser.peek.2.parseNumber = read at hnumber ⊢
        obtain ⟨fault | number, after⟩ := read
        · rfl
        · exact reduce_frames stack _ hnumber.spelled
      · rw [refusal_eq _ h.peek_fst]
        rfl

theorem openChains_frames (stack : Stack goal p.operand) :
    openChains (.tree (.chain p)) stack.frames = .ok stack.descend.frames := by
  cases p <;> simp [openChains, operandClass?, chainFrame, entry, rule?, Stack.descend] <;> rfl

theorem awaited_operatorNodes (links : List (Tree p.operand × Operator p)) :
    awaited (operatorNodes links) = .ok (Stack.asked links) := by
  match links with
  | [] => rfl
  | (operand, op) :: links =>
    unfold awaited
    rw [operatorNodes_cons, List.getLast?_concat]
    rfl

/-- **A round on frames** comes to what a round on the stack comes to. -/
theorem pass_frames {hole : Level} {stack : Stack goal hole} (hb : stack.Begins)
    (h : parser.HoldsSpelled) :
    pass stack.frames parser = .ok ((stack.pass parser).1.erased, (stack.pass parser).2) := by
  cases stack with
  -- nothing is awaited, so the round is that of a whole term
  | done =>
    obtain rfl : goal = .term := hb
    exact readTerm_frames .done h
  -- no round begins with a group that has no chain in it
  | group => exact hb.elim
  | operand p links below =>
    unfold Stack.pass
    rw [Stack.awaited_operand]
    dsimp only
    rw [Stack.frames, pass, awaited_operatorNodes, ok_bind]
    by_cases heof : parser.peek.1.kind = .eof
    · rw [expectInput_of_eof _ heof, if_pos heof]
      rfl
    · have hopen := openChains_frames (Stack.operand p links below)
      rw [Stack.frames] at hopen
      rw [expectInput_of_ne _ heof, if_neg heof]
      dsimp only
      rw [hopen]
      exact readTerm_frames _ h.peek

/-! ### Rounds that follow -/

/-- After a round that is followed by another one, a chain waits for an operand. -/
theorem isSome_awaited_reduce {hole hole' : Level} {stack : Stack goal hole} {tree : Tree hole}
    {next : Stack goal hole'} (h : (stack.reduce tree parser).1 = .next next) :
    next.awaited.isSome = true := by
  -- reducing goes on through groups and chains that end, and stops at a chain that goes on
  induction stack generalizing parser with
  | done => simp [Stack.reduce] at h
  | group opening below ih =>
    rw [Stack.reduce] at h
    dsimp only at h
    split at h
    · exact ih h
    · simp at h
  | operand p links below ih =>
    rw [Stack.reduce] at h
    dsimp only at h
    split at h
    · cases h
      rfl
    · exact ih h

theorem isSome_awaited_readTerm {hole : Level} {stack : Stack goal .term}
    {next : Stack goal hole} (h : (stack.readTerm parser).1 = .next next) :
    next.awaited.isSome = true := by
  -- behind a parenthesis a new chain waits; otherwise it is what reducing stops at
  unfold Stack.readTerm at h
  dsimp only at h
  split at h
  · cases h
    rfl
  · split at h
    · split at h
      · exact isSome_awaited_reduce h
      · simp at h
    · simp at h

theorem isSome_awaited_pass {hole hole' : Level} {stack : Stack goal hole}
    {next : Stack goal hole'} (h : (stack.pass parser).1 = .next next) :
    next.awaited.isSome = true := by
  unfold Stack.pass at h
  split at h
  · exact isSome_awaited_readTerm h
  · dsimp only at h
    split at h
    · simp at h
    · exact isSome_awaited_readTerm h

theorem begins_of_awaited {hole : Level} {stack : Stack goal hole}
    (h : stack.awaited.isSome = true) : stack.Begins := by
  cases stack with
  | operand => trivial
  | done | group => simp [Stack.awaited] at h

/-- **Rounds on frames** come to what rounds on the stack come to, and each of them takes
something. -/
theorem run_frames {hole : Level} {stack : Stack goal hole} (hb : stack.Begins)
    (h : parser.HoldsSpelled) :
    run stack.frames parser = .ok (asNode .tree (stack.run parser)) := by
  -- a round that asks for another one has taken something
  induction hn : parser.remaining using Nat.strongRecOn generalizing hole stack parser with
  | ind n ih =>
    have hsafe := Stack.safePass_pass stack h
    have hpass := pass_frames hb h
    rw [Stack.run]
    split
    · -- the tree is complete
      next tree after hround =>
      rw [hround] at hpass
      rw [run, hpass]
      rfl
    · -- the input is refused, and the open productions are closed in the same order
      next stuck fault filling after hround =>
      rw [hround] at hpass
      rw [run, hpass]
      dsimp only [Pass.erased]
      rw [unwind_frames]
      rfl
    · -- another round follows; it has less ahead, which is the check, and it begins like this one
      next next after hround =>
      have hlt := Stack.remaining_pass_lt hround
      have hbegins := begins_of_awaited (isSome_awaited_pass (congrArg Prod.fst hround))
      rw [hround] at hpass hsafe
      rw [run, hpass]
      dsimp only [Pass.erased]
      rw [if_pos hlt]
      exact ih after.remaining (hn ▸ hlt) hbegins hsafe.spelled rfl

/-! ### Routines -/

theorem parseTree_eq (level : Level) (h : parser.HoldsSpelled) :
    parseTree level parser = .ok (asNode .tree (parser.parseTree level)) := by
  cases level with
  | term =>
    have hbegins : (Stack.done : Stack .term .term).Begins := rfl
    exact run_frames hbegins h
  | chain p =>
    have hbegins : (Stack.operand p [] (.done : Stack (.chain p) (.chain p))).Begins := trivial
    exact run_frames hbegins h

theorem parse_eq (h : parser.HoldsSpelled) :
    parse parser = .ok (asNode .tree parser.parse) := by
  have hsafe := safe_parseTree (.chain .additive) h
  unfold parse Parser.parse
  rw [parseTree_eq _ h]
  generalize parser.parseTree (.chain .additive) = read at hsafe ⊢
  -- what is read has to be followed by the end, and what stands there instead is spelled
  obtain ⟨error | expression, after⟩ := read
  · rfl
  · have hafter : after.HoldsSpelled := hsafe.spelled
    simp only [ok_bind, asNode]
    split
    · rfl
    · rw [refusal_eq _ hafter.peek_fst]
      rfl

/-- **Every routine** gives what the parser gives. -/
theorem read_eq (routine : Routine) (h : parser.HoldsSpelled) :
    read routine parser = .ok (parser.read routine) := by
  cases routine with
  | whole => exact parse_eq h
  | tree level => exact parseTree_eq level h
  | number => exact parseNumber_eq h
  | operator p => exact parseOperator_eq p h

/-! ### Sessions -/

theorem perform_eq (step : Step) (h : parser.HoldsSpelled) :
    perform step parser = .ok (parser.perform step) := by
  cases step with
  | read routine =>
    rw [perform, read_eq routine h]
    rfl
  -- what is no routine makes no node, and nothing is checked
  | scan | unscan | peek | scanIgnoringSpace | lexer => rfl

theorem session_eq (steps : List Step) (h : parser.HoldsSpelled) :
    session steps parser = .ok (parser.session steps) := by
  induction steps generalizing parser with
  | nil => rfl
  | cons step steps ih =>
    rw [session, perform_eq step h, ok_bind, ih (h.perform step)]
    rfl

end Checked

namespace Parser

/-- In a session, a literal is refused for its length only. -/
theorem HoldsSpelled.onlyTooLong {parser : Parser} (h : parser.HoldsSpelled) (steps : List Step) :
    ∀ done ∈ parser.session steps, ∀ error, done.1 = .outcome (.error error) →
      error.fault.OnlyTooLong := by
  induction steps generalizing parser with
  | nil => simp [session]
  | cons step steps ih =>
    rw [session, List.forall_mem_cons]
    -- a literal can be refused at this step, or at a later one
    refine ⟨?_, ih (h.perform step)⟩
    intro error herror
    cases step with
    | read routine =>
      have hread : (parser.read routine).1 = .error error := Answer.outcome.inj herror
      exact (safe_read routine h).literal _ (by rw [withoutBuilt, hread]; rfl)
    | scan | unscan | peek | scanIgnoringSpace | lexer => simp [Parser.perform] at herror

end Parser

/-- **The parser never trips over its own checks.** Whatever it is asked for, in any order, after
faults as well as before, and whatever is done to its lexer in between: no node is made of parts
that do not make one or that are of a wrong class, no chain is made of no operands, every class that
is looked up is in its table, and no round goes on without taking something. So each step comes to
what the parser gives, which for a routine is a node or a fault. A literal is only ever refused
because it has too many digits; it is always of the form of a literal. -/
theorem Checked.session_ofString (text filename : String) (steps : List Parser.Step) :
    session steps (.ofString text filename) =
        .ok ((Parser.ofString text filename).session steps) ∧
      ∀ done ∈ (Parser.ofString text filename).session steps, ∀ error,
        done.1 = .outcome (.error error) → ∀ written reason place,
          error.fault = .numberConversion written reason place →
            reason = .tooLong ∧ Decimal.Written written.toList ∧
              digitLimit < digitsIn written := by
  -- a parser that has read nothing holds no token that could be misspelled
  have hstart : (Parser.ofString text filename).HoldsSpelled :=
    Parser.holdsSpelled_ofLexer (.ofString text filename)
  exact ⟨session_eq steps hstart, hstart.onlyTooLong steps⟩

end ArithExpr
