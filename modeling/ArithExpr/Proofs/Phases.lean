import ArithExpr.Proofs.CompletePart

/-!
# What may come next

Whether a token may come next depends on little of what is before it: whether an operand is awaited,
a number may still get a point, a point waits for its digits, or an operand is complete. These four
phases are the states of an automaton (`Phase.next?`), and every phrase leads from an awaited
operand to a complete one (`Derives.run?`). The automaton does not count groups, which `Balanced`
does.

So where the automaton stops, or where a parenthesis closes nothing, the tokens are no beginning of
an expression any more.

* `Derives.digits_behind_point` — what the automaton says of a number with a point.
* `Derives.of_kinds` — whether tokens are derived from a phrase depends on their kinds only, and
  from which phrase on their kinds and characters.
* `Viable` — the tokens can be carried on to an expression.
* `Viable.not_append` — not behind tokens after which the automaton stops.
* `Derives.not_viable_close` — not with a closing parenthesis behind a whole expression.
-/

namespace ArithExpr

namespace Grammar

/-- What tokens have led to, as far as the next token is concerned. -/
inductive Phase where
  /-- An operand has to begin. -/
  | operand
  /-- An operand is complete, and it is a number that may still get a point. -/
  | integral
  /-- The digits behind a point have to follow. -/
  | point
  /-- An operand is complete, and no point can follow. -/
  | complete
deriving DecidableEq

namespace Phase

/-- The phase behind a token, if the token may come. -/
def next? : Phase → TokenKind → Option Phase
  | operand, .leftParen => some operand
  | operand, .digits => some integral
  | integral, .dot => some point
  | point, .digits => some complete
  | integral, .operator _ | complete, .operator _ => some operand
  | integral, .rightParen | complete, .rightParen => some complete
  | _, _ => none

/-- The phase behind several tokens, if all of them may come. -/
def run? (phase : Phase) (tokens : List Token) : Option Phase :=
  tokens.foldlM (fun phase token => phase.next? token.kind) phase

/-- Says whether an operand is complete. -/
def hasOperand : Phase → Bool
  | integral | complete => true
  | operand | point => false

@[simp] theorem run?_nil (phase : Phase) : phase.run? [] = some phase :=
  rfl

theorem run?_cons (phase : Phase) (token : Token) (tokens : List Token) :
    phase.run? (token :: tokens) = (phase.next? token.kind).bind fun next => next.run? tokens :=
  rfl

theorem run?_append {phase middle : Phase} {tokens : List Token}
    (h : phase.run? tokens = some middle) (more : List Token) :
    phase.run? (tokens ++ more) = middle.run? more := by
  rw [run?, List.foldlM_append, show List.foldlM _ phase tokens = some middle from h]
  rfl

/-- What the automaton takes it takes from the beginning on. -/
theorem exists_run?_of_append {phase final : Phase} {tokens more : List Token}
    (h : phase.run? (tokens ++ more) = some final) :
    ∃ middle, phase.run? tokens = some middle ∧ middle.run? more = some final := by
  rw [run?, List.foldlM_append] at h
  exact Option.bind_eq_some_iff.1 h

/-- Behind an operator an operand is awaited. -/
theorem next?_operator {phase : Phase} (h : phase.hasOperand = true) (symbol : OperatorSymbol) :
    phase.next? (.operator symbol) = some operand := by
  cases phase <;> first | rfl | simp [hasOperand] at h

theorem next?_rightParen {phase : Phase} (h : phase.hasOperand = true) :
    phase.next? .rightParen = some complete := by
  cases phase <;> first | rfl | simp [hasOperand] at h

/-- Behind an operand comes nothing but an operator, a closing parenthesis or a point. -/
theorem next?_eq_none {phase : Phase} {kind : TokenKind} (h : phase.hasOperand = true)
    (hoperator : ∀ symbol, kind ≠ .operator symbol) (hclose : kind ≠ .rightParen)
    (hpoint : phase = .integral → kind ≠ .dot) : phase.next? kind = none := by
  cases phase <;> simp only [hasOperand, Bool.false_eq_true] at h <;> cases kind <;>
    simp_all [next?]

/-- Where the automaton awaits an operand, there is nothing, or a token that waits for one. -/
theorem opens_of_run? {tokens : List Token} (h : run? .operand tokens = some .operand) :
    ∀ last ∈ tokens.getLast?, last.Opens := by
  intro last hlast
  obtain rfl | ⟨front, final, rfl⟩ := List.eq_nil_or_concat tokens
  · simp at hlast
  rw [List.concat_eq_append] at h
  obtain rfl : final = last := by simpa using hlast
  -- what the automaton did last was to pass the final token, which left an operand awaited
  obtain ⟨phase, -, hnext⟩ := exists_run?_of_append h
  rw [run?_cons] at hnext
  obtain ⟨phase', hnext, hnil⟩ := Option.bind_eq_some_iff.1 hnext
  obtain rfl := Option.some.inj hnil
  cases hk : final.kind <;> rw [hk] at hnext <;> cases phase <;>
    simp_all [next?, Token.Opens]

end Phase

/-! ### Phrases -/

theorem Literal.run? {tokens : List Token} {text : String} (h : Literal tokens text) :
    ∃ phase, Phase.run? .operand tokens = some phase ∧ phase.hasOperand = true ∧
      (phase = .integral → tokens.length = 1) := by
  cases h with
  | whole kind => exact ⟨.integral, by simp [Phase.run?_cons, kind, Phase.next?], rfl, by simp⟩
  | fraction kind pointKind fractionalKind =>
    exact ⟨.complete,
      by simp [Phase.run?_cons, kind, pointKind, fractionalKind, Phase.next?], rfl, by simp⟩

/-- **A phrase is an operand.** It leads from an awaited operand to a complete one. -/
theorem Derives.run? {l : Level} {tokens : List Token} {phrase : Phrase l}
    (h : Derives tokens phrase) :
    ∃ phase, Phase.run? .operand tokens = some phase ∧ phase.hasOperand = true := by
  -- by induction on the derivation: each rule ends where an operand is complete
  induction h with
  | number literal =>
    obtain ⟨phase, hrun, hoperand, -⟩ := literal.run?
    exact ⟨phase, hrun, hoperand⟩
  -- inside the group an operand is awaited again
  | group openingKind _ closingKind ih =>
    obtain ⟨phase, hrun, hoperand⟩ := ih
    refine ⟨.complete, ?_, rfl⟩
    rw [List.cons_append, Phase.run?_cons, openingKind, Phase.next?, Option.bind_some,
      Phase.run?_append hrun, Phase.run?_cons, closingKind, Phase.next?_rightParen hoperand]
    rfl
  | single _ ih => exact ih
  | link _ kind _ _ ih ih' =>
    obtain ⟨phase, hrun, hoperand⟩ := ih
    obtain ⟨phase', hrun', hoperand'⟩ := ih'
    refine ⟨phase', ?_, hoperand'⟩
    rw [Phase.run?_append hrun, Phase.run?_cons, kind, Phase.next?_operator hoperand,
      Option.bind_some, hrun']

/-- **Behind a point there are digits**, and before it there is a number that begins where an
operand does. -/
theorem Derives.digits_behind_point {before behind : List Token} {integral point : Token}
    {phrase : Phrase (.chain .additive)}
    (h : Derives (before ++ integral :: point :: behind) phrase)
    (hkind : integral.kind = .digits) (hpoint : point.kind = .dot) :
    (∀ last ∈ before.getLast?, last.Opens) ∧
      ∃ fractional rest, behind = fractional :: rest ∧ fractional.kind = .digits := by
  obtain ⟨final, hrun, hoperand⟩ := h.run?
  obtain ⟨phase, hbefore, hrun⟩ := Phase.exists_run?_of_append hrun
  rw [Phase.run?_cons, hkind] at hrun
  -- only where an operand is awaited digits may be followed by a point
  cases phase <;> simp only [Phase.next?, Option.bind_some, Option.bind_none, reduceCtorEq,
    Phase.run?_cons, hpoint] at hrun
  refine ⟨Phase.opens_of_run? hbefore, ?_⟩
  -- nothing behind the point, or something other than digits: an operand would be missing
  cases behind with
  | nil =>
    obtain rfl := Option.some.inj hrun
    simp [Phase.hasOperand] at hoperand
  | cons fractional rest =>
    refine ⟨fractional, rest, rfl, ?_⟩
    rw [Phase.run?_cons] at hrun
    obtain ⟨next, hnext, -⟩ := Option.bind_eq_some_iff.1 hrun
    cases hk : fractional.kind <;> simp_all [Phase.next?]

/-! ### Only kinds count -/

theorem Literal.of_kinds {tokens tokens' : List Token} {text : String} (h : Literal tokens text)
    (hkinds : tokens'.map Token.kind = tokens.map Token.kind) :
    ∃ text', Literal tokens' text' ∧
      (tokens'.map Token.lexeme = tokens.map Token.lexeme → text' = text) := by
  -- the other tokens are as many, so they are taken one by one
  cases h with
  | whole kind =>
    obtain ⟨digits, _, rfl, hdigits, hnil⟩ := List.map_eq_cons_iff.1 hkinds
    obtain rfl := List.map_eq_nil_iff.1 hnil
    refine ⟨_, .whole (hdigits.trans kind), fun hlexemes => ?_⟩
    exact (List.cons.inj hlexemes).1
  | fraction kind pointKind fractionalKind =>
    obtain ⟨integral, _, rfl, hintegral, hrest⟩ := List.map_eq_cons_iff.1 hkinds
    obtain ⟨point, _, rfl, hpoint, hrest⟩ := List.map_eq_cons_iff.1 hrest
    obtain ⟨fractional, _, rfl, hfractional, hnil⟩ := List.map_eq_cons_iff.1 hrest
    obtain rfl := List.map_eq_nil_iff.1 hnil
    refine ⟨_, .fraction (hintegral.trans kind) (hpoint.trans pointKind)
      (hfractional.trans fractionalKind), fun hlexemes => ?_⟩
    obtain ⟨hlexeme, hrest⟩ := List.cons.inj hlexemes
    obtain ⟨hlexeme', hrest⟩ := List.cons.inj hrest
    rw [hlexeme, hlexeme', (List.cons.inj hrest).1]

/-- **Whether tokens are derived from a phrase depends on their kinds only**, and from which phrase
on their kinds and characters. -/
theorem Derives.of_kinds {l : Level} {tokens tokens' : List Token} {phrase : Phrase l}
    (h : Derives tokens phrase) (hkinds : tokens'.map Token.kind = tokens.map Token.kind) :
    ∃ phrase' : Phrase l, Derives tokens' phrase' ∧
      (tokens'.map Token.lexeme = tokens.map Token.lexeme → phrase' = phrase) := by
  -- by induction on the derivation; tokens of the same kinds are cut where these are
  induction h generalizing tokens' with
  | number literal =>
    obtain ⟨text', hliteral, hsame⟩ := literal.of_kinds hkinds
    exact ⟨.number text', .number hliteral, fun hlexemes => by rw [hsame hlexemes]⟩
  | group openingKind _ closingKind ih =>
    obtain ⟨opening', _, rfl, hopening, hrest⟩ := List.map_eq_cons_iff.1 hkinds
    rw [List.append_eq, List.map_append] at hrest
    obtain ⟨content', last, rfl, hcontent, hlast⟩ := List.map_eq_append_iff.1 hrest
    obtain ⟨closing', _, rfl, hclosing, hnil⟩ := List.map_eq_cons_iff.1 hlast
    obtain rfl := List.map_eq_nil_iff.1 hnil
    obtain ⟨inner', hinner, hsame⟩ := ih hcontent
    refine ⟨.group inner', .group (hopening.trans openingKind) hinner
      (hclosing.trans closingKind), fun hlexemes => ?_⟩
    have hbehind := (List.cons.inj hlexemes).2
    rw [List.append_eq, List.map_append, List.map_append] at hbehind
    rw [hsame (List.append_inj_left' hbehind rfl)]
  | single _ ih =>
    obtain ⟨operand', hoperand, hsame⟩ := ih hkinds
    exact ⟨.single operand', .single hoperand, fun hlexemes => by rw [hsame hlexemes]⟩
  | link _ kind belongs _ ih ih' =>
    rw [List.map_append] at hkinds
    obtain ⟨left', right, rfl, hleft, hright⟩ := List.map_eq_append_iff.1 hkinds
    obtain ⟨token', right', rfl, htoken, hright⟩ := List.map_eq_cons_iff.1 hright
    obtain ⟨operand', hoperand, hsame⟩ := ih hleft
    obtain ⟨rest', hrest, hsame'⟩ := ih' hright
    refine ⟨_, .link hoperand (htoken.trans kind) belongs hrest, fun hlexemes => ?_⟩
    -- as many tokens are before the operator, so the lexemes are cut in the same place
    have hlength := congrArg List.length hleft
    rw [List.map_append, List.map_append] at hlexemes
    obtain ⟨hbefore, hbehind⟩ := List.append_inj hlexemes (by simpa using hlength)
    obtain ⟨hlexeme, hbehind⟩ := List.cons.inj hbehind
    rw [hsame hbefore, hlexeme, hsame' hbehind]

/-! ### Beginnings of expressions -/

/-- The tokens can be carried on to an expression. The number of digits does not matter here. -/
def Viable (tokens : List Token) : Prop :=
  ∃ (more : List Token) (phrase : Phrase (.chain .additive)), Derives (tokens ++ more) phrase

variable {tokens : List Token} {next : Token}

theorem Viable.of_append {more : List Token} (h : Viable (tokens ++ more)) : Viable tokens := by
  obtain ⟨further, phrase, hderives⟩ := h
  exact ⟨more ++ further, phrase, by rwa [← List.append_assoc]⟩

/-- The last of the tokens may be changed for one of its kind. -/
theorem Viable.congr {next' : Token} (h : Viable (tokens ++ [next']))
    (hkind : next'.kind = next.kind) : Viable (tokens ++ [next]) := by
  obtain ⟨more, phrase, hderives⟩ := h
  obtain ⟨phrase', hderives', -⟩ := hderives.of_kinds
    (show (tokens ++ [next] ++ more).map Token.kind = _ by simp [hkind])
  exact ⟨more, phrase', hderives'⟩

theorem Viable.run? (h : Viable tokens) : ∃ phase, Phase.run? .operand tokens = some phase := by
  obtain ⟨more, phrase, hderives⟩ := h
  obtain ⟨final, hrun, -⟩ := hderives.run?
  obtain ⟨middle, hmiddle, -⟩ := Phase.exists_run?_of_append hrun
  exact ⟨middle, hmiddle⟩

/-- **Where the automaton stops, the tokens are no beginning of an expression.** -/
theorem not_viable_append {phase : Phase} (h : Phase.run? .operand tokens = some phase)
    (hnext : phase.next? next.kind = none) : ¬ Viable (tokens ++ [next]) := by
  intro hviable
  -- a longer input cannot lead on from where the automaton has stopped
  obtain ⟨final, hrun⟩ := hviable.run?
  rw [Phase.run?_append h, Phase.run?_cons, hnext] at hrun
  simp at hrun

/-- **A parenthesis behind a whole expression closes nothing.** -/
theorem Derives.not_viable_close {phrase : Phrase (.chain .additive)} (h : Derives tokens phrase)
    (hk : next.kind = .rightParen) : ¬ Viable (tokens ++ [next]) := by
  rintro ⟨more, whole, hderives⟩
  -- behind the parenthesis as many groups are open with one group around as with none
  have hopen : ∀ depth, more.foldl nesting (depth - 1) = depth := by
    intro depth
    have hbalanced := hderives.balanced depth
    rwa [List.append_assoc, List.foldl_append, h.balanced, List.singleton_append, List.foldl_cons,
      nesting, hk] at hbalanced
  have hone : more.foldl nesting 0 = 1 := hopen 1
  have hnone : more.foldl nesting 0 = 0 := hopen 0
  omega

end Grammar

end ArithExpr
