import ArithExpr.Proofs.DescentAgreement
import ArithExpr.Proofs.Literals

/-!
# A lexer that is moved from outside

A parser is settled as long as nobody else moves its lexer. If somebody does, white space may follow
white space, and there may be characters between the token in the slot and the lexer that were never
a token. Little is left to rely on, but it is enough for what the parser builds: the token in the
slot was scanned at some time, so it is spelled as its kind says (`Parser.HoldsSpelled`). A literal
is put together of such tokens, so it is of the form of a literal, and all that it can have wrong is
the number of its digits (`Fault.OnlyTooLong`).

* `Parser.HoldsSpelled.peek`, `Parser.HoldsSpelled.scanIgnoringSpace` — looking and taking give such
  tokens, and leave one in the slot.
* `Parser.safe_read` — so does every routine, and it faults a literal for its length only.
* `Parser.HoldsSpelled.perform` — any operation keeps this up, those of the lexer included.
-/

namespace ArithExpr

/-- If the fault is about a literal, this is of the right form and has too many digits. -/
def Fault.OnlyTooLong (fault : Fault) : Prop :=
  ∀ written reason place, fault = .numberConversion written reason place →
    reason = .tooLong ∧ Decimal.Written written.toList ∧ digitLimit < digitsIn written

theorem Fault.onlyTooLong_unexpected (expected : Expectation) (found : Token) :
    (unexpected expected found).OnlyTooLong := by
  intro written reason place h
  unfold unexpected at h
  -- none of the faults of a token is one of a literal
  split at h <;> simp at h

theorem Fault.onlyTooLong_missingRightParen (opening : Option Location) (found : Token) :
    (missingRightParen opening found).OnlyTooLong := by
  intro written reason place h
  simp at h

namespace Parser

/-! ### The slot -/

/-- The token in the slot, if there is one, is spelled as its kind says. -/
def HoldsSpelled (parser : Parser) : Prop :=
  match parser.slot with
  | .empty => True
  | .taken token | .ahead token => token.Spelled

theorem holdsSpelled_ofLexer (lexer : Lexer) : (ofLexer lexer).HoldsSpelled :=
  trivial

/-- The slot of a settled parser asks for more than that. -/
theorem Settled.holdsSpelled {parser : Parser} (h : parser.Settled) : parser.HoldsSpelled := by
  obtain ⟨lexer, slot⟩ := parser
  cases slot with
  | empty => trivial
  | taken token | ahead token =>
    have hfollows : lexer.Follows token := h
    exact hfollows.spelled

namespace HoldsSpelled

variable {parser : Parser}

theorem fill_fst (h : parser.HoldsSpelled) : parser.fill.1.Spelled := by
  obtain ⟨lexer, slot⟩ := parser
  cases slot with
  | ahead token => exact h
  | empty | taken => exact lexer.spelled_scan

theorem peek_fst (h : parser.HoldsSpelled) : parser.peek.1.Spelled := by
  unfold Parser.peek
  dsimp only
  split
  · -- white space was ahead, and the token is a new one of the lexer
    exact Lexer.spelled_scan _
  · exact h.fill_fst

theorem peek (h : parser.HoldsSpelled) : parser.peek.2.HoldsSpelled := by
  unfold HoldsSpelled
  rw [slot_peek]
  exact h.peek_fst

theorem scan (h : parser.HoldsSpelled) : parser.scan.2.HoldsSpelled := by
  rw [scan_eq_fill]
  exact h.fill_fst

theorem unscan (h : parser.HoldsSpelled) : parser.unscan.HoldsSpelled := by
  obtain ⟨lexer, slot⟩ := parser
  cases slot <;> exact h

theorem scanIgnoringSpace (h : parser.HoldsSpelled) :
    parser.scanIgnoringSpace.2.HoldsSpelled := by
  unfold Parser.scanIgnoringSpace
  dsimp only
  split
  · -- white space is taken, and another token after it
    exact h.scan.scan
  · exact h.scan

end HoldsSpelled

/-! ### What reading comes to -/

/-- **What reading comes to in any state.** The slot holds a token that was scanned, and a literal
is faulted for its length only. -/
structure Safe {α : Type} (read : Except Fault α × Parser) : Prop where
  spelled : read.2.HoldsSpelled
  literal : ∀ fault, read.1 = .error fault → fault.OnlyTooLong

variable {parser : Parser}

theorem safe_ok {α : Type} (a : α) (h : parser.HoldsSpelled) : Safe (.ok a, parser) where
  spelled := h
  literal := by simp

theorem safe_error {α : Type} {fault : Fault} (hf : fault.OnlyTooLong) (h : parser.HoldsSpelled) :
    Safe (α := α) (.error fault, parser) where
  spelled := h
  literal := by
    rintro _ ⟨⟩
    exact hf

theorem safe_unexpected {α : Type} (expected : Expectation) (found : Token)
    (h : parser.HoldsSpelled) : Safe (α := α) (.error (.unexpected expected found), parser) :=
  safe_error (Fault.onlyTooLong_unexpected expected found) h

/-- Numbers of the right form are refused only if they are too long. -/
theorem safe_numberOf {text : String} (first last : Token)
    (hw : Decimal.Written text.toList) (h : parser.HoldsSpelled) :
    Safe (numberOf text first last, parser) := by
  unfold numberOf
  split
  · exact safe_ok _ h
  · next reason hreason =>
    refine safe_error ?_ h
    rintro _ _ _ ⟨⟩
    -- the fault that came back carries the reason of the conversion, which is now told by the count
    obtain ⟨hshort, hlong⟩ := decimalValue_written hw
    by_cases hcount : digitsIn text ≤ digitLimit
    · obtain ⟨value, hvalue⟩ := hshort hcount
      rw [Number.ofText_of_ok hvalue] at hreason
      simp at hreason
    · have hlimit : digitLimit < digitsIn text := by omega
      rw [Number.ofText_of_error (hlong hlimit)] at hreason
      exact ⟨(Except.error.inj hreason).symm, hw, hlimit⟩

theorem safe_parseFraction {integral : Token} (hi : CharClass.digit.IsRun integral.lexeme.toList)
    (h : parser.HoldsSpelled) : Safe (parser.parseFraction integral) := by
  unfold parseFraction
  dsimp only
  split
  · -- digits follow, and are put together with those in front into a literal
    next hk =>
    have hspace : parser.peek.1.kind ≠ .whitespace := by simp [hk]
    have hf : CharClass.digit.IsRun parser.peek.2.scanIgnoringSpace.1.lexeme.toList := by
      rw [scanIgnoringSpace_peek_fst hspace]
      exact h.peek_fst.digits hk
    -- the point is written anew, so the token that was taken for it does not matter
    have hw : Decimal.Written
        (integral.lexeme ++ "." ++ parser.peek.2.scanIgnoringSpace.1.lexeme).toList := by
      rw [String.toList_append, String.toList_append, List.append_assoc]
      exact .fraction hi hf
    exact safe_numberOf _ _ hw h.peek.scanIgnoringSpace
  · -- anything else is refused as a token
    exact safe_unexpected _ _ h.peek

theorem safe_parseNumber (h : parser.HoldsSpelled) : Safe parser.parseNumber := by
  unfold parseNumber
  dsimp only
  split
  · exact safe_unexpected _ _ h.peek
  · split
    · next hk =>
      -- digits were seen, and they are a run of their own until a point is met
      have hspace : parser.peek.1.kind ≠ .whitespace := by simp [hk]
      have hi : CharClass.digit.IsRun parser.peek.2.scanIgnoringSpace.1.lexeme.toList := by
        rw [scanIgnoringSpace_peek_fst hspace]
        exact h.peek_fst.digits hk
      have hafter := h.peek.scanIgnoringSpace.peek
      split
      · exact safe_parseFraction hi hafter.scanIgnoringSpace
      · exact safe_numberOf _ _ (.whole hi) hafter
    · exact safe_unexpected _ _ h.peek

theorem safe_parseOperator (p : Precedence) (h : parser.HoldsSpelled) :
    Safe (parser.parseOperator p) := by
  unfold parseOperator
  dsimp only
  split
  · exact safe_ok _ h.peek.scanIgnoringSpace
  · exact safe_unexpected _ _ h.peek

end Parser

/-! ### Rounds -/

namespace Stack

open ArithExpr.Parser

variable {goal : Level} {parser : Parser}

/-- The same of a round. -/
structure SafePass (round : Pass goal × Parser) : Prop where
  spelled : round.2.HoldsSpelled
  literal : ∀ {hole : Level} (stack : Stack goal hole) fault filling,
    round.1 = .stuck stack fault filling → fault.OnlyTooLong

theorem safePass_stuck {hole : Level} (stack : Stack goal hole) {fault : Fault}
    (filling : Option (Tree hole)) (hf : fault.OnlyTooLong) (h : parser.HoldsSpelled) :
    SafePass (.stuck stack fault filling, parser) where
  spelled := h
  literal := by
    rintro _ _ _ _ ⟨⟩
    exact hf

theorem safePass_next {hole : Level} (stack : Stack goal hole) (h : parser.HoldsSpelled) :
    SafePass (.next stack, parser) where
  spelled := h
  literal := by simp

theorem safePass_reduce {hole : Level} (stack : Stack goal hole) (tree : Tree hole)
    (h : parser.HoldsSpelled) : SafePass (stack.reduce tree parser) := by
  -- by induction on the stack; what is closed leaves a spelled token in the slot again
  induction stack generalizing parser with
  | done => exact ⟨h, by simp [reduce]⟩
  | group opening below ih =>
    unfold reduce
    dsimp only
    split
    · exact ih _ h.peek.scanIgnoringSpace
    · exact safePass_stuck _ _ (Fault.onlyTooLong_missingRightParen _ _) h.peek
  | operand p links below ih =>
    unfold reduce
    dsimp only
    split
    · exact safePass_next _ h.peek.scanIgnoringSpace
    · exact ih _ h.peek

theorem safePass_readTerm (stack : Stack goal .term) (h : parser.HoldsSpelled) :
    SafePass (stack.readTerm parser) := by
  unfold readTerm
  dsimp only
  split
  · exact safePass_next _ h.peek.scanIgnoringSpace
  · split
    · -- the only fault of a literal in a round comes from here
      have hnumber := safe_parseNumber h.peek
      split
      · next hread =>
        rw [hread] at hnumber
        exact safePass_reduce _ _ hnumber.spelled
      · next hread =>
        rw [hread] at hnumber
        exact safePass_stuck _ _ (hnumber.literal _ rfl) hnumber.spelled
    · exact safePass_stuck _ _ (Fault.onlyTooLong_unexpected _ _) h.peek

theorem safePass_pass {hole : Level} (stack : Stack goal hole) (h : parser.HoldsSpelled) :
    SafePass (stack.pass parser) := by
  unfold pass
  split
  · exact safePass_readTerm _ h
  · dsimp only
    split
    · -- the end is refused as a token
      exact safePass_stuck _ _ (Fault.onlyTooLong_unexpected _ _) h.peek
    · exact safePass_readTerm _ h.peek

/-- Rounds keep this up as long as they go on. -/
theorem safe_run {hole : Level} (stack : Stack goal hole) (h : parser.HoldsSpelled) :
    Safe (withoutBuilt (stack.run parser)) := by
  -- a round that asks for another one has taken something
  induction hn : parser.remaining using Nat.strongRecOn generalizing hole stack parser with
  | ind n ih =>
    have hpass := safePass_pass stack h
    rw [withoutBuilt_run]
    rcases hround : stack.pass parser with ⟨round, after⟩
    rw [hround] at hpass
    cases round with
    | finished tree => exact safe_ok _ hpass.spelled
    | stuck stack' fault filling =>
      exact safe_error (hpass.literal _ _ _ rfl) hpass.spelled
    | next stack' =>
      exact ih after.remaining (hn ▸ remaining_pass_lt hround) stack' hpass.spelled rfl

end Stack

/-! ### Routines -/

namespace Parser

variable {parser : Parser}

theorem safe_parseTree (level : Level) (h : parser.HoldsSpelled) :
    Safe (withoutBuilt (parser.parseTree level)) := by
  cases level with
  | term => exact Stack.safe_run _ h
  | chain p => exact Stack.safe_run _ h

theorem safe_parse (h : parser.HoldsSpelled) : Safe (withoutBuilt parser.parse) := by
  have htree := safe_parseTree (.chain .additive) h
  unfold parse
  split
  · next hread => rwa [hread] at htree
  · next hread =>
    rw [hread] at htree
    -- behind the tree one more token is looked at, which is the end or is refused
    dsimp only
    split
    · exact safe_ok _ htree.spelled.peek
    · exact safe_unexpected _ _ htree.spelled.peek

theorem Safe.asNode {α : Type} {read : Except (ParseError α) α × Parser} (f : α → Node)
    (h : Safe (withoutBuilt read)) : Safe (withoutBuilt (asNode f read)) := by
  obtain ⟨error | a, after⟩ := read
  · exact safe_error (h.literal _ rfl) h.spelled
  · exact safe_ok _ h.spelled

theorem Safe.leafAsNode {α : Type} {read : Except Fault α × Parser} (f : α → Node)
    (h : Safe read) : Safe (withoutBuilt (leafAsNode f read)) := by
  obtain ⟨fault | a, after⟩ := read
  · exact safe_error (h.literal _ rfl) h.spelled
  · exact safe_ok _ h.spelled

/-- **Every routine**, in any state, leaves a token in the slot that was scanned, and it faults a
literal for its length only. -/
theorem safe_read (routine : Routine) (h : parser.HoldsSpelled) :
    Safe (withoutBuilt (parser.read routine)) := by
  cases routine with
  | whole => exact (safe_parse h).asNode _
  | tree level => exact (safe_parseTree level h).asNode _
  | number => exact (safe_parseNumber h).leafAsNode _
  | operator p => exact (safe_parseOperator p h).leafAsNode _

/-- **Any operation keeps this up**, also one that moves the lexer behind the parser's back. -/
theorem HoldsSpelled.perform (h : parser.HoldsSpelled) (step : Step) :
    (parser.perform step).2.HoldsSpelled := by
  cases step with
  | scan => exact h.scan
  | unscan => exact h.unscan
  | peek => exact h.peek
  | scanIgnoringSpace => exact h.scanIgnoringSpace
  | read routine => exact (safe_read routine h).spelled
  -- the lexer moves, but the slot holds what it held
  | lexer step => exact h

end Parser

end ArithExpr
