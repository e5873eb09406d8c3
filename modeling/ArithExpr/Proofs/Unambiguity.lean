import ArithExpr.Grammar

/-!
# The grammar is unambiguous

Where a tree may be followed by something else, it is not enough that the two derivations use up
the same tokens: one of them might stop early. The token behind a tree has to be one that cannot
carry the tree on (`Level.continuedBy`). Then both the end of the tree and the tree are determined
(`Grammar.Derives.unique`). With nothing behind it, this is unambiguity.
-/

namespace ArithExpr

/-- Says whether a token of this kind behind a tree of the level can carry the tree on: a point goes
on with a number, and an operator with every tree that may have it outside of parentheses. -/
def Level.continuedBy (level : Level) : TokenKind → Bool
  | .dot => true
  | .operator symbol => (Level.chain symbol.precedence).height ≤ level.height
  | _ => false

/-- What does not carry a chain on does not carry on its operands either. -/
theorem Level.continuedBy_operand {p : Precedence} {kind : TokenKind}
    (h : (Level.chain p).continuedBy kind = false) : p.operand.continuedBy kind = false := by
  cases kind with
  | operator symbol =>
    -- the operands of a chain are of the level below
    simp only [continuedBy, decide_eq_false_iff_not, height_operand] at h ⊢
    omega
  | _ => exact h

theorem Level.continuedBy_chain {symbol : OperatorSymbol} :
    (Level.chain symbol.precedence).continuedBy (.operator symbol) = true := by
  simp [continuedBy]

/-- An operator of a class does not carry on the operands of the class. -/
theorem Level.continuedBy_own {symbol : OperatorSymbol} :
    symbol.precedence.operand.continuedBy (.operator symbol) = false := by
  simp only [continuedBy, decide_eq_false_iff_not, height_operand]
  omega

namespace Grammar

theorem Literal.head {tokens : List Token} {text : String} (h : Literal tokens text) :
    ∃ digits more, tokens = digits :: more ∧ digits.kind = .digits := by
  cases h with
  | whole kind => exact ⟨_, [], rfl, kind⟩
  | fraction kind => exact ⟨_, _, rfl, kind⟩

/-- A phrase begins with digits or with a parenthesis. -/
theorem Derives.head {l : Level} {tokens : List Token} {phrase : Phrase l}
    (h : Derives tokens phrase) :
    ∃ token more, tokens = token :: more ∧ (token.kind = .digits ∨ token.kind = .leftParen) := by
  induction h with
  | number literal =>
    obtain ⟨digits, more, rfl, hk⟩ := literal.head
    exact ⟨digits, more, rfl, .inl hk⟩
  | group openingKind => exact ⟨_, _, rfl, .inr openingKind⟩
  | single _ ih => exact ih
  | link _ _ _ _ ih =>
    obtain ⟨token, more, rfl, hk⟩ := ih
    exact ⟨token, _, rfl, hk⟩

/-- A literal is determined by its beginning, unless it stops in front of a point. -/
theorem Literal.unique {tokens tokens' rest rest' : List Token} {text text' : String}
    (h : Literal tokens text) (h' : Literal tokens' text')
    (heq : tokens ++ rest = tokens' ++ rest')
    (hend : tokens.length = 1 → ∀ next ∈ rest.head?, next.kind ≠ .dot)
    (hend' : tokens'.length = 1 → ∀ next ∈ rest'.head?, next.kind ≠ .dot) :
    tokens = tokens' ∧ text = text' := by
  -- both begin with the same digits, and a point behind them decides
  cases h with
  | whole =>
    cases h' with
    | whole =>
      obtain ⟨rfl, -⟩ := List.cons.inj heq
      exact ⟨rfl, rfl⟩
    | fraction _ pointKind =>
      obtain ⟨-, rfl⟩ := List.cons.inj heq
      exact absurd pointKind (hend rfl _ rfl)
  | fraction _ pointKind =>
    cases h' with
    | whole =>
      obtain ⟨-, rfl⟩ := List.cons.inj heq
      exact absurd pointKind (hend' rfl _ rfl)
    | fraction =>
      simp only [List.cons_append, List.nil_append, List.cons.injEq] at heq
      obtain ⟨rfl, rfl, rfl, -⟩ := heq
      exact ⟨rfl, rfl⟩

/-- **The end of a tree and the tree are determined** by the tokens, if what comes behind it does
not carry it on. -/
theorem Derives.unique {l : Level} {tokens tokens' rest rest' : List Token}
    {phrase phrase' : Phrase l} (h : Derives tokens phrase) (h' : Derives tokens' phrase')
    (heq : tokens ++ rest = tokens' ++ rest')
    (hend : ∀ next ∈ rest.head?, l.continuedBy next.kind = false)
    (hend' : ∀ next ∈ rest'.head?, l.continuedBy next.kind = false) :
    tokens = tokens' ∧ phrase = phrase' := by
  -- of the other derivation only the tokens are known, so its rule is compared with this one
  induction h generalizing tokens' rest rest' with
  | number literal =>
    cases h' with
    | number literal' =>
      have hpoint : ∀ {behind : List Token},
          (∀ next ∈ behind.head?, Level.term.continuedBy next.kind = false) →
          ∀ next ∈ behind.head?, next.kind ≠ .dot := by
        intro behind hb next hnext hdot
        simpa [hdot, Level.continuedBy] using hb next hnext
      obtain ⟨rfl, rfl⟩ := literal.unique literal' heq (fun _ => hpoint hend)
        (fun _ => hpoint hend')
      exact ⟨rfl, rfl⟩
    | group openingKind =>
      -- a number begins with digits, and a group does not
      obtain ⟨digits, more, rfl, hk⟩ := literal.head
      obtain ⟨rfl, -⟩ := List.cons.inj heq
      rw [hk] at openingKind
      simp at openingKind
  | @group opening closing content inner openingKind _ closingKind ih =>
    cases h' with
    | number literal' =>
      obtain ⟨digits, more, rfl, hk⟩ := literal'.head
      obtain ⟨rfl, -⟩ := List.cons.inj heq
      rw [hk] at openingKind
      simp at openingKind
    | @group _ closing' content' _ _ derives' closingKind' =>
      -- the closing parentheses do not carry the contents on
      simp only [List.cons_append, List.append_assoc, List.nil_append, List.cons.injEq] at heq
      obtain ⟨rfl, heq⟩ := heq
      obtain ⟨rfl, rfl⟩ := ih derives' heq (by simp [closingKind, Level.continuedBy])
        (by simp [closingKind', Level.continuedBy])
      obtain ⟨rfl, -⟩ := List.cons.inj (List.append_cancel_left heq)
      exact ⟨rfl, rfl⟩
  | @single p left operand _ ih =>
    cases h' with
    -- what does not carry the chain on does not carry the operand on
    | single only' =>
      obtain ⟨rfl, rfl⟩ := ih only' heq (fun next hn => Level.continuedBy_operand (hend next hn))
        (fun next hn => Level.continuedBy_operand (hend' next hn))
      exact ⟨rfl, rfl⟩
    | @link _ left' right' token symbol _ _ first' kind' belongs' _ =>
      rw [List.append_assoc, List.cons_append] at heq
      subst belongs'
      obtain ⟨rfl, -⟩ := ih first' heq (fun next hn => Level.continuedBy_operand (hend next hn))
        (by simp [kind', Level.continuedBy_own])
      -- the operator behind the operand carries the chain on
      obtain rfl := List.append_cancel_left heq
      have hcontinued := hend token rfl
      rw [kind', Level.continuedBy_chain] at hcontinued
      simp at hcontinued
  | @link p left right token symbol operand further _ kind belongs _ ih ih' =>
    subst belongs
    rw [List.append_assoc, List.cons_append] at heq
    -- the operator of the link ends the operand before it
    have hown : ∀ next ∈ (token :: (right ++ rest)).head?,
        symbol.precedence.operand.continuedBy next.kind = false := by
      simp [kind, Level.continuedBy_own]
    cases h' with
    | single only' =>
      -- without a link, the same operator would stand behind the other chain and carry it on
      obtain ⟨rfl, -⟩ := ih only' heq hown
        (fun next hn => Level.continuedBy_operand (hend' next hn))
      obtain rfl := List.append_cancel_left heq
      have hcontinued := hend' token rfl
      rw [kind, Level.continuedBy_chain] at hcontinued
      simp at hcontinued
    | @link _ left' right' token' symbol' _ _ first' kind' belongs' further' =>
      rw [List.append_assoc, List.cons_append] at heq
      obtain ⟨rfl, rfl⟩ := ih first' heq hown (by
        rw [← belongs']
        simp [kind', Level.continuedBy_own])
      obtain ⟨rfl, hright⟩ := List.cons.inj (List.append_cancel_left heq)
      -- the token has one kind, so the two operators are of one symbol
      obtain rfl : symbol = symbol' := by simpa [kind] using kind'
      obtain ⟨rfl, rfl⟩ := ih' further' hright hend hend'
      exact ⟨rfl, rfl⟩

end Grammar

end ArithExpr
