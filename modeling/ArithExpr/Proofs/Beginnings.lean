import ArithExpr.Proofs.Blame
import ArithExpr.Proofs.Phases
import ArithExpr.Proofs.StandingLiterals

/-!
# Unfinished phrases

Tokens begin a phrase up to where an operand is awaited (`Grammar.Awaits`): groups are open, and
chains have some of their operands. This is read off the grammar as a derivation is, one rule for
each place where a phrase may be left off. An operand, and a parenthesis for each open group, makes
a phrase of them (`Awaits.completed`).

Where an input is refused, the tokens that were taken are of this form but for their end: an operand
is missed, a point has no digits behind it, a group is not closed, or a literal has no value
(`Grammar.Refused`). From this form alone it follows

* what class of fault it is (`Refused.cls_eq`),
* that no token at the place of the fault can carry on what is before it (`Refused.not_viable`),
* that what is before it can be carried on (`Refused.completed`),
* that no literal before it has too many digits (`Refused.legible`).
-/

namespace ArithExpr

namespace Grammar

/-! ### Where an operand is awaited -/

/-- **The tokens begin a phrase of a level, up to where an operand is awaited.** The number is that
of the groups they leave open. -/
inductive Awaits : Level → List Token → Nat → Prop where
  | nothing : Awaits .term [] 0
  /-- A group is open. -/
  | group {opening : Token} {tokens : List Token} {n : Nat} (kind : opening.kind = .leftParen)
      (content : Awaits (.chain .additive) tokens n) : Awaits .term (opening :: tokens) (n + 1)
  /-- The first operand of a chain is unfinished. -/
  | first {p : Precedence} {tokens : List Token} {n : Nat} (operand : Awaits p.operand tokens n) :
      Awaits (.chain p) tokens n
  /-- A chain is unfinished behind an operand and an operator. -/
  | link {p : Precedence} {left right : List Token} {token : Token} {symbol : OperatorSymbol}
      {operand : Phrase p.operand} {n : Nat} (first : Derives left operand)
      (readable : operand.Readable) (kind : token.kind = .operator symbol)
      (belongs : symbol.precedence = p) (further : Awaits (.chain p) right n) :
      Awaits (.chain p) (left ++ token :: right) n

theorem awaits_nothing (level : Level) : Awaits level [] 0 :=
  match level with
  | .term => .nothing
  | .chain .exponentiation => .first .nothing
  | .chain .multiplicative => .first (.first .nothing)
  | .chain .additive => .first (.first (.first .nothing))

namespace Awaits

variable {level : Level} {before : List Token} {n : Nat}

theorem run? (h : Awaits level before n) : Phase.run? .operand before = some .operand := by
  induction h with
  | nothing => rfl
  | group kind _ ih => rw [Phase.run?_cons, kind, Phase.next?, Option.bind_some, ih]
  | first _ ih => exact ih
  -- an operand is complete in front of the operator, whatever the operand is
  | link first _ kind _ _ ih =>
    obtain ⟨phase, hrun, hoperand⟩ := first.run?
    rw [Phase.run?_append hrun, Phase.run?_cons, kind, Phase.next?_operator hoperand,
      Option.bind_some, ih]

/-- What is awaited stands at the beginning, or behind a token that waits for it. -/
theorem opens (h : Awaits level before n) : ∀ last ∈ before.getLast?, last.Opens := by
  -- behind the opening parenthesis or the operator there is nothing, or the same again
  have hcons : ∀ (left : List Token) {token : Token} {right : List Token}, token.Opens →
      (∀ last ∈ right.getLast?, last.Opens) →
      ∀ last ∈ (left ++ token :: right).getLast?, last.Opens := by
    intro left token right htoken hright last hlast
    rw [List.getLast?_append, List.getLast?_cons] at hlast
    obtain rfl := Option.some.inj hlast
    cases hr : right.getLast? with
    | none => exact htoken
    | some final => exact hright final hr
  induction h with
  | nothing => simp
  | group kind _ ih => exact hcons [] (.inl kind) ih
  | first _ ih => exact ih
  | link _ _ kind _ _ ih => exact hcons _ (.inr ⟨_, kind⟩) ih

theorem not_operandComplete (h : Awaits level before n) : ¬ OperandComplete before [] := by
  rintro ⟨last, hlast, hends⟩
  -- neither a parenthesis that opens nor an operator ends an operand
  rcases h.opens last hlast with hk | ⟨symbol, hk⟩ <;> simp [EndsOperand, hk] at hends

theorem foldl_nesting (h : Awaits level before n) (depth : Nat) :
    before.foldl nesting depth = depth + n := by
  induction h generalizing depth with
  | nothing => rfl
  | @group opening _ _ kind _ ih =>
    have hopening : nesting depth opening = depth + 1 := by rw [nesting, kind]
    rw [List.foldl_cons, hopening, ih]
    omega
  | first _ ih => exact ih depth
  -- the operand in front is balanced, and an operator opens nothing
  | link first _ kind _ _ ih =>
    rw [List.foldl_append, first.balanced, List.foldl_cons, nesting, kind, ih]

/-- What is put behind the tokens does not change how many groups they leave open. -/
theorem openGroups_append (h : Awaits level before n) {more : List Token} {k : Nat}
    (hmore : ∀ depth, more.foldl nesting depth = depth + k) :
    openGroups (before ++ more) = n + k := by
  rw [openGroups, List.foldl_append, h.foldl_nesting, hmore]
  omega

/-- **An operand and the missing parentheses make a phrase.** -/
theorem completed (h : Awaits level before n) {content closing : List Token}
    {term : Phrase .term} (hcontent : Derives content term)
    (hclosing : ∀ token ∈ closing, token.kind = .rightParen) (hlength : closing.length = n) :
    ∃ phrase : Phrase level, Derives (before ++ content ++ closing) phrase ∧
      (term.Readable → phrase.Readable) := by
  induction h generalizing closing with
  -- nothing is open, so nothing closes; what is awaited is the term itself
  | nothing =>
    obtain rfl := List.length_eq_zero_iff.1 hlength
    exact ⟨term, by simpa using hcontent, id⟩
  | @group opening tokens n kind _ ih =>
    -- the last of the parentheses belongs to this group, since it is the outermost
    obtain rfl | ⟨inside, last, rfl⟩ := List.eq_nil_or_concat closing
    · simp at hlength
    · have hinside : ∀ token ∈ inside, token.kind = .rightParen := fun token hmem =>
        hclosing token (by simp [hmem])
      obtain ⟨phrase, hderives, hread⟩ := ih hinside (by simpa using hlength)
      refine ⟨.group phrase, ?_, hread⟩
      simpa using Derives.group kind hderives (hclosing last (by simp))
  | first _ ih =>
    obtain ⟨phrase, hderives, hread⟩ := ih hclosing hlength
    exact ⟨.single phrase, .single hderives, hread⟩
  -- the operand that is there stays, and the rest is completed
  | @link p left right token symbol operand n first readable kind belongs _ ih =>
    obtain ⟨phrase, hderives, hread⟩ := ih hclosing hlength
    refine ⟨.link operand symbol token.lexeme phrase, ?_, ?_⟩
    · simpa using Derives.link first kind belongs hderives
    · intro hterm text hmem
      rw [Phrase.literals, List.mem_append] at hmem
      exact hmem.elim (readable text) (hread hterm text)

/-- Behind an unfinished phrase literals are kept apart from those in it. -/
theorem legible_append (h : Awaits level before n) {more : List Token} (hmore : Legible more) :
    Legible (before ++ more) := by
  induction h with
  | nothing => exact hmore
  | group kind _ ih => exact legible_nil.join ih (by simp [kind]) (by simp [kind])
  | first _ ih => exact ih
  -- the operator keeps the literals in front of it apart from those behind
  | link first readable kind _ _ ih =>
    rw [List.append_assoc, List.cons_append]
    exact (first.legible readable).join ih (by simp [kind]) (by simp [kind])

end Awaits

/-! ### What is missing -/

/-- **The tokens are what completes an operand**, if it is not complete yet: a number, or the digits
behind a point. -/
def Fills (taken fill : List Token) : Prop :=
  if OperandComplete taken [] then fill = []
  else ∃ digits, fill = [digits] ∧ digits.kind = .digits ∧ digitsIn digits.lexeme = 1

/-- The tokens end in an unfinished number that has no room for further digits. -/
def Exhausted (tokens : List Token) : Prop :=
  ∃ before integral point, tokens = before ++ [integral, point] ∧ integral.kind = .digits ∧
    point.kind = .dot ∧ digitLimit ≤ digitsIn integral.lexeme

/-! ### Where an input is refused -/

/-- **Why reading a phrase stops**, by the tokens taken until then and the next one. -/
inductive Refused (level : Level) (next : Token) : List Token → Fault → Prop where
  /-- No operand begins with the next token. -/
  | operand {before : List Token} {n : Nat} {expected : Expectation}
      (awaits : Awaits level before n) (paren : next.kind ≠ .leftParen)
      (digits : next.kind ≠ .digits) : Refused level next before (.unexpected expected next)
  /-- A point has no digits behind it. -/
  | fraction {before : List Token} {n : Nat} {integral point : Token}
      (awaits : Awaits level before n) (kind : integral.kind = .digits)
      (pointKind : point.kind = .dot) (digits : next.kind ≠ .digits) :
      Refused level next (before ++ [integral, point]) (.unexpected .fractionalDigits next)
  /-- A group is not closed behind its content. -/
  | group {before content : List Token} {n : Nat} {opening : Token}
      {inner : Phrase (.chain .additive)} {place : Option Location}
      (awaits : Awaits level before n) (kind : opening.kind = .leftParen)
      (derives : Derives content inner) (readable : inner.Readable)
      (close : next.kind ≠ .rightParen) (operator : ∀ symbol, next.kind ≠ .operator symbol)
      (point : Phase.run? .operand content = some .integral → next.kind ≠ .dot) :
      Refused level next (before ++ opening :: content) (.missingRightParen place next)
  /-- A literal has too many digits. -/
  | literal {before literal : List Token} {n : Nat} {first : Token} {text : String}
      {reason : ConversionFault} (awaits : Awaits level before n) (written : Literal literal text)
      (head : literal.head? = some first) (whole : literal.length = 1 → next.kind ≠ .dot)
      (tooLong : digitLimit < digitsIn text) :
      Refused level next (before ++ literal)
        (.numberConversion text reason (some first.location))

namespace Refused

variable {level : Level} {next : Token} {taken : List Token} {fault : Fault}

/-- What stops the reading of a part stops the reading of the whole. -/
theorem lift {level' : Level} {front : List Token} (h : Refused level next taken fault)
    (hlift : ∀ before n, Awaits level before n → ∃ m, Awaits level' (front ++ before) m) :
    Refused level' next (front ++ taken) fault := by
  -- only the beginning is lifted; what is wrong with the next token stays what it is
  cases h with
  | operand awaits paren digits =>
    obtain ⟨m, hawaits⟩ := hlift _ _ awaits
    exact .operand hawaits paren digits
  | fraction awaits kind pointKind digits =>
    obtain ⟨m, hawaits⟩ := hlift _ _ awaits
    rw [← List.append_assoc]
    exact .fraction hawaits kind pointKind digits
  | group awaits kind derives readable close operator point =>
    obtain ⟨m, hawaits⟩ := hlift _ _ awaits
    rw [← List.append_assoc]
    exact .group hawaits kind derives readable close operator point
  | literal awaits written head whole tooLong =>
    obtain ⟨m, hawaits⟩ := hlift _ _ awaits
    rw [← List.append_assoc]
    exact .literal hawaits written head whole tooLong

/-- The fault blames the next token, unless it is that of a literal. -/
theorem blames (h : Refused level next taken fault) (hcls : fault.cls ≠ .numberConversion) :
    fault.Blames next := by
  cases h with
  | operand => exact Fault.blames_unexpected _ _
  | fraction => exact Fault.blames_unexpected _ _
  | group => exact Fault.blames_missingRightParen _ _
  | literal => exact absurd rfl hcls

/-! ### What is open -/

theorem foldl_nesting_point {integral point : Token} (kind : integral.kind = .digits)
    (pointKind : point.kind = .dot) (depth : Nat) :
    [integral, point].foldl nesting depth = depth := by
  simp [nesting, kind, pointKind]

theorem foldl_nesting_group {opening : Token} {content : List Token}
    {inner : Phrase (.chain .additive)} (kind : opening.kind = .leftParen)
    (derives : Derives content inner) (depth : Nat) :
    (opening :: content).foldl nesting depth = depth + 1 := by
  -- the content is balanced, so only its parenthesis counts
  rw [List.foldl_cons, derives.balanced, nesting, kind]

theorem not_operandComplete_point {before : List Token} {integral point : Token}
    (pointKind : point.kind = .dot) : ¬ OperandComplete (before ++ [integral, point]) [] := by
  rintro ⟨last, hlast, hends⟩
  obtain rfl : point = last := by simpa using hlast
  simp [EndsOperand, pointKind] at hends

theorem operandComplete_group {before content : List Token} {opening : Token}
    {inner : Phrase (.chain .additive)} (derives : Derives content inner) :
    OperandComplete (before ++ opening :: content) [] := by
  -- the content alone is where the operand ends; what stands in front does not matter
  rw [← List.singleton_append, ← List.append_assoc]
  exact (derives.operandComplete (by simp)).append _

/-- **The class of the fault** can be told from the tokens taken and the next one. -/
theorem cls_eq (h : Refused level next taken fault) (hcls : fault.cls ≠ .numberConversion) :
    fault.cls = FaultClass.between taken next := by
  cases h with
  | operand awaits =>
    rw [Fault.cls_unexpected, FaultClass.between, if_neg fun h => awaits.not_operandComplete h.2]
  | fraction _ _ pointKind =>
    rw [Fault.cls_unexpected, FaultClass.between,
      if_neg fun h => not_operandComplete_point pointKind h.2]
  | group awaits kind derives =>
    -- at least this group is open, and its content is an operand
    have hopen := awaits.openGroups_append (foldl_nesting_group kind derives)
    rw [FaultClass.between, if_pos ⟨by omega, operandComplete_group derives⟩]
    rfl
  | literal => exact absurd rfl hcls

/-! ### What can follow -/

theorem run?_point {before : List Token} {n : Nat} {integral point : Token}
    (awaits : Awaits level before n) (kind : integral.kind = .digits)
    (pointKind : point.kind = .dot) :
    Phase.run? .operand (before ++ [integral, point]) = some .point := by
  rw [Phase.run?_append awaits.run?]
  simp [Phase.run?_cons, kind, pointKind, Phase.next?]

theorem run?_group {before content : List Token} {n : Nat} {opening : Token}
    {inner : Phrase (.chain .additive)} (awaits : Awaits level before n)
    (kind : opening.kind = .leftParen) (derives : Derives content inner) :
    ∃ phase, Phase.run? .operand (before ++ opening :: content) = some phase ∧
      phase.hasOperand = true ∧ Phase.run? .operand content = some phase := by
  -- the content leaves the same phase alone as it does behind the parenthesis
  obtain ⟨phase, hrun, hoperand⟩ := derives.run?
  refine ⟨phase, ?_, hoperand, hrun⟩
  rw [Phase.run?_append awaits.run?, Phase.run?_cons, kind, Phase.next?, Option.bind_some, hrun]

/-- **The token that is blamed cannot carry on** what is before it. -/
theorem not_viable (h : Refused level next taken fault) (hcls : fault.cls ≠ .numberConversion) :
    ¬ Viable (taken ++ [next]) := by
  cases h with
  -- each refusal excludes just the kinds that its phase admits
  | operand awaits paren digits =>
    refine not_viable_append awaits.run? ?_
    cases hk : next.kind <;> simp_all [Phase.next?]
  | fraction awaits kind pointKind digits =>
    refine not_viable_append (run?_point awaits kind pointKind) ?_
    cases hk : next.kind <;> simp_all [Phase.next?]
  | group awaits kind derives _ close operator point =>
    obtain ⟨phase, hrun, hoperand, hcontent⟩ := run?_group awaits kind derives
    refine not_viable_append hrun (Phase.next?_eq_none hoperand operator close ?_)
    -- a point goes on only from a number without one, and then the refusal excludes it
    rintro rfl
    exact point hcontent
  | literal => exact absurd rfl hcls

/-- What was taken before a refusal is no whole phrase. -/
theorem not_derives {phrase : Phrase level} (h : Refused level next taken fault)
    (hcls : fault.cls ≠ .numberConversion) : ¬ Derives taken phrase := by
  intro hderives
  obtain ⟨final, hfinal, hoperand⟩ := hderives.run?
  cases h with
  -- behind a phrase an operand is complete, which the phase tells apart from one that is awaited
  | operand awaits =>
    rw [awaits.run?] at hfinal
    obtain rfl := Option.some.inj hfinal
    simp [Phase.hasOperand] at hoperand
  | fraction awaits kind pointKind =>
    rw [run?_point awaits kind pointKind] at hfinal
    obtain rfl := Option.some.inj hfinal
    simp [Phase.hasOperand] at hoperand
  | group awaits kind derives =>
    -- the group is still open
    have hopen := awaits.openGroups_append (foldl_nesting_group kind derives)
    rw [show openGroups _ = 0 from hderives.balanced 0] at hopen
    omega
  | literal => exact absurd rfl hcls

/-- **No literal before the place of the fault has too many digits.** -/
theorem legible (h : Refused level next taken fault) (hcls : fault.cls ≠ .numberConversion) :
    Legible taken := by
  cases h with
  | operand awaits => simpa using awaits.legible_append legible_nil
  | fraction awaits kind pointKind => exact awaits.legible_append (legible_point kind pointKind)
  | group awaits kind derives readable =>
    exact awaits.legible_append
      (legible_nil.join (derives.legible readable) (by simp [kind]) (by simp [kind]))
  | literal => exact absurd rfl hcls

/-! ### Carrying on -/

/-- **What was taken can be carried on to a phrase**: an operand is completed, and open groups are
closed. The phrase is readable unless what was taken ends in a number without room. -/
theorem completed {fill closing : List Token} (h : Refused level next taken fault)
    (hcls : fault.cls ≠ .numberConversion) (hs : ∀ token ∈ taken, token.Spelled)
    (hfill : Fills taken fill) (hclosing : ∀ token ∈ closing, token.kind = .rightParen)
    (hlength : closing.length = openGroups taken) :
    ∃ phrase : Phrase level, Derives (taken ++ fill ++ closing) phrase ∧
      (¬ Exhausted taken → phrase.Readable) := by
  cases h with
  | @operand _ n _ awaits =>
    -- the operand that is awaited is the number
    rw [Fills, if_neg awaits.not_operandComplete] at hfill
    obtain ⟨digits, rfl, kind, hdigits⟩ := hfill
    have hopen : openGroups taken = 0 + n := awaits.foldl_nesting 0
    obtain ⟨phrase, hderives, hread⟩ :=
      awaits.completed (.number (.whole kind)) hclosing (by omega)
    refine ⟨phrase, hderives, fun _ => hread ?_⟩
    simp [Phrase.Readable, Phrase.literals, hdigits, digitLimit]
  | @fraction before n integral point awaits kind pointKind =>
    rw [Fills, if_neg (not_operandComplete_point pointKind)] at hfill
    obtain ⟨digits, rfl, fractionalKind, hdigits⟩ := hfill
    have hopen : openGroups (before ++ [integral, point]) = n + 0 :=
      awaits.openGroups_append (foldl_nesting_point kind pointKind)
    obtain ⟨phrase, hderives, hread⟩ :=
      awaits.completed (.number (.fraction kind pointKind fractionalKind)) hclosing (by omega)
    refine ⟨phrase, by simpa using hderives, fun hroom => hread ?_⟩
    -- the point does not count, and the digits behind it are one
    have hpoint : point.lexeme = String.singleton '.' :=
      (hs point (by simp)).mark (by rw [pointKind]; rfl)
    have hfew : digitsIn integral.lexeme < digitLimit := by
      by_contra hmany
      exact hroom ⟨before, integral, point, rfl, kind, pointKind, Nat.le_of_not_lt hmany⟩
    intro text hmem
    obtain rfl : text = integral.lexeme ++ point.lexeme ++ digits.lexeme := by
      simpa [Phrase.literals] using hmem
    rw [digitsIn_append, digitsIn_append, hpoint, hdigits, digitsIn_point]
    omega
  | @group before content n opening inner place awaits kind derives readable =>
    rw [Fills, if_pos (operandComplete_group derives)] at hfill
    subst hfill
    have hopen := awaits.openGroups_append (foldl_nesting_group kind derives)
    -- the first parenthesis closes the group itself
    obtain _ | ⟨first, closing⟩ := closing
    · rw [hopen] at hlength
      simp at hlength
    · obtain ⟨hfirst, hclosing⟩ := List.forall_mem_cons.1 hclosing
      rw [hopen, List.length_cons] at hlength
      obtain ⟨phrase, hderives, hread⟩ :=
        awaits.completed (.group kind derives hfirst) hclosing (by omega)
      exact ⟨phrase, by simpa using hderives, fun _ => hread readable⟩
  | literal => exact absurd rfl hcls

end Refused

end Grammar

end ArithExpr
