import Mathlib.Data.List.Forall2
import ArithExpr.Proofs.Literals
import ArithExpr.Proofs.Reachable

/-!
# Two parsers in step

Two parsers whose tokens ahead correspond do the same for as long as they do. Of tokens that
correspond it is only asked that they are of one kind and have the same characters
(`Correspondence`), so their places may differ; and only the first so many tokens have to
correspond, so the tokens behind them may differ, too (`Parser.Abreast`). The parser looks at no
token before it has to. So the two are in step for as long as the first of them has not taken all
tokens that correspond, which is told from the number of tokens that it has ahead in the end.

* `Fault.Matches`, `Stack.Matches`, `Pass.Matches` — the same fault, the same open productions, the
  same outcome of a round, but for corresponding tokens and for spans.
* `Parser.Abreast.peek`, `Parser.Abreast.take` — looking and taking in step.
* `Stack.Matches.reduce`, `Stack.Matches.readTerm`, `Stack.Matches.pass` — one round in step.
* `Stack.Matches.run`, `Stack.Matches.unwind` — a whole run, and what is kept of the tree when it
  is refused.
* `Parser.Abreast.parse` — two whole inputs.
-/

namespace ArithExpr

open Grammar

/-- **A way in which tokens correspond.** Tokens that do are of one kind and have the same
characters. Nothing is said of their places. -/
structure Correspondence where
  rel : Token → Token → Prop
  kind : ∀ {a b : Token}, rel a b → a.kind = b.kind
  lexeme : ∀ {a b : Token}, rel a b → a.lexeme = b.lexeme

variable (R : Correspondence)

/-! ### What matches -/

/-- The same fault, of tokens that correspond. -/
inductive Fault.Matches : Fault → Fault → Prop where
  | unexpectedToken (expected : Expectation) {a b : Token} (found : R.rel a b) :
      Matches (.unexpectedToken expected a) (.unexpectedToken expected b)
  | missingRightParen {a b c d : Token} (opening : R.rel a b) (found : R.rel c d) :
      Matches (.missingRightParen (some a.location) c) (.missingRightParen (some b.location) d)
  | unexpectedEnd (expected : Expectation) {a b : Token} (found : R.rel a b) :
      Matches (.unexpectedEnd expected (some a.location)) (.unexpectedEnd expected (some b.location))
  | illegalCharacter (expected : Option Expectation) {a b : Token} (found : R.rel a b) :
      Matches (.illegalCharacter expected a) (.illegalCharacter expected b)
  | numberConversion (written : String) (reason : ConversionFault) {a b : Token}
      (first : R.rel a b) :
      Matches (.numberConversion written reason (some a.location))
        (.numberConversion written reason (some b.location))

/-- An operand and the operator behind it, without their spans. -/
def linkPhrase {p : Precedence} (link : Tree p.operand × Operator p) :
    Phrase p.operand × OperatorSymbol × String :=
  (link.1.phrase, link.2.symbol, link.2.lexeme)

/-- The same open productions, with groups that were opened by tokens that correspond. -/
inductive Stack.Matches {goal : Level} :
    {hole : Level} → Stack goal hole → Stack goal hole → Prop where
  | done : Matches .done .done
  | group {a b : Token} {below below' : Stack goal .term} (opening : R.rel a b)
      (rest : Matches below below') : Matches (.group a below) (.group b below')
  | operand {p : Precedence} {links links' : List (Tree p.operand × Operator p)}
      {below below' : Stack goal (.chain p)}
      (same : links.map linkPhrase = links'.map linkPhrase) (rest : Matches below below') :
      Matches (.operand p links below) (.operand p links' below')

/-- The same outcome of a round. -/
inductive Pass.Matches {goal : Level} : Pass goal → Pass goal → Prop where
  | finished {t u : Tree goal} (same : t.phrase = u.phrase) : Matches (.finished t) (.finished u)
  | stuck {hole : Level} {stack stack' : Stack goal hole} {fault fault' : Fault}
      {filling filling' : Option (Tree hole)} (frames : stack.Matches R stack')
      (faults : fault.Matches R fault')
      (same : filling.map Tree.phrase = filling'.map Tree.phrase) :
      Matches (.stuck stack fault filling) (.stuck stack' fault' filling')
  | next {hole : Level} {stack stack' : Stack goal hole} (frames : stack.Matches R stack') :
      Matches (.next stack) (.next stack')

/-- The same outcome of reading a number. -/
inductive NumbersMatch : Except Fault Number → Except Fault Number → Prop where
  | ok {a b : Number} (same : a.text = b.text) : NumbersMatch (.ok a) (.ok b)
  | error {fault fault' : Fault} (faults : fault.Matches R fault') :
      NumbersMatch (.error fault) (.error fault')

/-- The same outcome of reading a tree. -/
inductive TreesMatch {level : Level} : Except (ParseError (Tree level)) (Tree level) →
    Except (ParseError (Tree level)) (Tree level) → Prop where
  | ok {t u : Tree level} (same : t.phrase = u.phrase) : TreesMatch (.ok t) (.ok u)
  | error {error error' : ParseError (Tree level)} (faults : error.fault.Matches R error'.fault)
      (same : error.built.map Tree.phrase = error'.built.map Tree.phrase) :
      TreesMatch (.error error) (.error error')

variable {R}

theorem Fault.matches_unexpected (expected : Expectation) {a b : Token} (h : R.rel a b) :
    (unexpected expected a).Matches R (unexpected expected b) := by
  obtain ⟨kind, lexeme, place⟩ := a
  obtain ⟨kind', lexeme', place'⟩ := b
  -- of the two tokens, all but the place is the same
  obtain rfl : kind = kind' := R.kind h
  cases kind with
  | illegal => exact .illegalCharacter _ h
  | eof => exact .unexpectedEnd _ h
  | _ => exact .unexpectedToken _ h

/-- Tokens that correspond are the same operator, or neither is one of the class. -/
theorem Operator.ofToken?_rel (p : Precedence) {a b : Token} (h : R.rel a b) :
    (ofToken? p a = none ∧ ofToken? p b = none) ∨
      ∃ op op', ofToken? p a = some op ∧ ofToken? p b = some op' ∧ op.symbol = op'.symbol ∧
        op.lexeme = op'.lexeme := by
  unfold ofToken?
  -- the class and the lexeme are asked of one token for both
  rw [← R.kind h, ← R.lexeme h]
  cases a.kind.symbol? with
  | none => exact .inl ⟨rfl, rfl⟩
  | some symbol =>
    dsimp only [ofSymbol?]
    by_cases hp : symbol.precedence = p
    · rw [dif_pos hp, dif_pos hp]
      exact .inr ⟨_, _, rfl, rfl, rfl, rfl⟩
    · rw [dif_neg hp, dif_neg hp]
      exact .inl ⟨rfl, rfl⟩

/-- The phrase of a chain is made of those of its links. -/
theorem Tree.phrase_ofReversed {p : Precedence} (links : List (Tree p.operand × Operator p))
    (last : Tree p.operand) :
    (ofReversed links last).phrase =
      (links.map linkPhrase).foldl (fun rest link => .link link.1 link.2.1 link.2.2 rest)
        (.single last.phrase) := by
  have hfoldl : ∀ rest : Tree (.chain p),
      (links.foldl (fun rest link => cons link.1 link.2 rest) rest).phrase =
        (links.map linkPhrase).foldl (fun rest link => .link link.1 link.2.1 link.2.2 rest)
          rest.phrase := by
    -- each link adds the same in front of phrases that are the same
    induction links with
    | nil => exact fun _ => rfl
    | cons link links ih => exact fun rest => ih (cons link.1 link.2 rest)
  exact hfoldl (ofOperand last)

theorem Tree.phrase_ofReversed_congr {p : Precedence}
    {links links' : List (Tree p.operand × Operator p)} {last last' : Tree p.operand}
    (hlinks : links.map linkPhrase = links'.map linkPhrase) (hlast : last.phrase = last'.phrase) :
    (ofReversed links last).phrase = (ofReversed links' last').phrase := by
  rw [phrase_ofReversed, phrase_ofReversed, hlinks, hlast]

/-- What is kept of two trees is the same but for spans if it is of one phrase. -/
theorem Tree.rel_same_of_map_phrase {l : Level} {built built' : Option (Tree l)}
    (h : built.map Tree.phrase = built'.map Tree.phrase) :
    Option.Rel (fun t u => t.same u = true) built built' := by
  cases built with
  | none =>
    obtain rfl := Option.map_eq_none_iff.1 h.symm
    exact .none
  | some t =>
    obtain ⟨u, rfl, hphrase⟩ := Option.map_eq_some_iff.1 h.symm
    exact .some (Tree.same_iff_phrase_eq.2 hphrase.symm)

namespace Stack.Matches

variable {goal hole : Level} {stack stack' : Stack goal hole}

theorem awaited (h : stack.Matches R stack') : stack.awaited = stack'.awaited := by
  cases h with
  | done | group => rfl
  | @operand p links links' below below' same =>
    -- what is asked for is told by the latest operator only
    cases links with
    | nil =>
      obtain rfl := List.map_eq_nil_iff.1 same.symm
      rfl
    | cons link links =>
      obtain ⟨link', links'', rfl, hlink, -⟩ := List.map_eq_cons_iff.1 same.symm
      have hlexeme : link'.2.lexeme = link.2.lexeme := congrArg (fun l => l.2.2) hlink
      simp only [Stack.awaited, hlexeme]

theorem descend (h : stack.Matches R stack') : stack.descend.Matches R stack'.descend := by
  have hopen : ∀ p {below below' : Stack goal (.chain p)}, below.Matches R below' →
      (Stack.operand p [] below).Matches R (Stack.operand p [] below') :=
    fun _ _ _ => .operand rfl
  match hole with
  | .term => exact h
  | .chain .exponentiation => exact hopen _ h
  | .chain .multiplicative => exact hopen _ (hopen _ h)
  | .chain .additive => exact hopen _ (hopen _ (hopen _ h))

/-- **The same is kept** when a run is refused. -/
theorem unwind (h : stack.Matches R stack') {filling filling' : Option (Tree hole)}
    (hfilling : filling.map Tree.phrase = filling'.map Tree.phrase) :
    (stack.unwind filling).map Tree.phrase = (stack'.unwind filling').map Tree.phrase := by
  -- by induction on the productions, each of which closes what it is given to the same
  induction h with
  | done => exact hfilling
  | group _ _ ih =>
    refine ih ?_
    cases filling <;> cases filling' <;> simp_all [Tree.phrase]
  | @operand p links links' below below' same _ ih =>
    have hkept : ∀ {links links' : List (Tree p.operand × Operator p)} {last last' : Tree p.operand},
        links.map linkPhrase = links'.map linkPhrase → last.phrase = last'.phrase →
        (below.unwind (some (.ofReversed links last))).map Tree.phrase =
          (below'.unwind (some (.ofReversed links' last'))).map Tree.phrase := fun hlinks hlast =>
      ih (congrArg some (Tree.phrase_ofReversed_congr hlinks hlast))
    cases filling with
    -- both holes are filled, so both chains are complete
    | some last =>
      obtain ⟨last', rfl, hlast⟩ := Option.map_eq_some_iff.1 hfilling.symm
      exact hkept same hlast.symm
    | none =>
      obtain rfl := Option.map_eq_none_iff.1 hfilling.symm
      cases links with
      -- neither chain has anything yet
      | nil =>
        obtain rfl := List.map_eq_nil_iff.1 same.symm
        exact ih rfl
      | cons link links =>
        -- the latest operator is dropped on both sides
        obtain ⟨link', links'', rfl, hlink, hlinks⟩ := List.map_eq_cons_iff.1 same.symm
        exact hkept hlinks.symm (congrArg Prod.fst hlink).symm

end Stack.Matches

/-! ### What two parsers see -/

namespace Parser

/-- The parser gets to see these tokens one after the other, and the last of them is the end. -/
def Sees (parser : Parser) (tokens : List Token) : Prop :=
  ∃ ahead final, parser.Faces ahead final ∧ tokens = ahead ++ [final]

variable {p q : Parser} {a b : Token} {more : List Token}

theorem Faces.sees {final : Token} (h : p.Faces more final) : p.Sees (more ++ [final]) :=
  ⟨more, final, h, rfl⟩

theorem Sees.settled (h : p.Sees more) : p.Settled := by
  obtain ⟨_, _, hfaces, -⟩ := h
  exact hfaces.settled

theorem Sees.ne_nil (h : p.Sees more) : more ≠ [] := by
  obtain ⟨ahead, final, -, rfl⟩ := h
  simp

theorem Sees.length (h : p.Sees more) : more.length = p.tokensAhead.length + 1 := by
  obtain ⟨ahead, final, hfaces, rfl⟩ := h
  rw [hfaces.tokensAhead, List.length_append, List.length_singleton]

theorem Sees.peek (h : p.Sees (a :: more)) : p.peek.1 = a ∧ p.peek.2.Sees (a :: more) := by
  obtain ⟨ahead, final, hfaces, hsplit⟩ := h
  refine ⟨?_, ahead, final, hfaces.peek, hsplit⟩
  rw [hfaces.peek_fst]
  -- the first token that is seen is the first one ahead, or else the end
  cases ahead with
  | nil => exact (List.cons.inj hsplit).1.symm
  | cons => exact (List.cons.inj hsplit).1.symm

/-- The first token that is seen is taken, unless it is the end. -/
theorem Sees.take (h : p.Sees (a :: more)) (hk : a.kind ≠ .eof) :
    p.scanIgnoringSpace.1 = a ∧ p.scanIgnoringSpace.2.Sees more := by
  obtain ⟨ahead, final, hfaces, hsplit⟩ := h
  cases ahead with
  | nil =>
    obtain ⟨rfl, -⟩ := List.cons.inj hsplit
    exact absurd hfaces.kind_final hk
  | cons first ahead =>
    obtain ⟨rfl, rfl⟩ := List.cons.inj hsplit
    exact ⟨hfaces.take_fst, hfaces.take.sees⟩

/-- **Two parsers are in step.** The first one sees `a` next and the second one `b`, and these
correspond. So do the tokens behind them, one by one, but for the last `n` that the first parser
gets to see; about these, and about what the second one sees in their place, nothing is known. -/
structure Abreast (R : Correspondence) (n : Nat) (a b : Token) (p q : Parser) : Prop where
  next : R.rel a b
  behind : ∃ more more' hidden hidden', p.Sees (a :: more ++ hidden) ∧
    q.Sees (b :: more' ++ hidden') ∧ List.Forall₂ R.rel more more' ∧ hidden.length = n

/-- Two parsers are in step, whatever they see next. -/
def InStep (R : Correspondence) (n : Nat) (p q : Parser) : Prop :=
  ∃ a b, Abreast R n a b p q

/-- Two parsers are in step where the tokens that they see begin alike. -/
theorem InStep.of_sees {shared shared' hidden hidden' : List Token}
    (hp : p.Sees (shared ++ hidden)) (hq : q.Sees (shared' ++ hidden'))
    (h : List.Forall₂ R.rel shared shared') (hne : shared ≠ []) :
    InStep R hidden.length p q := by
  cases h with
  | nil => exact absurd rfl hne
  | @cons a b more more' next behind =>
    exact ⟨a, b, next, more, more', hidden, hidden', hp, hq, behind, rfl⟩

namespace Abreast

variable {n : Nat}

theorem settled (h : Abreast R n a b p q) : p.Settled := by
  obtain ⟨_, _, _, _, hp, -⟩ := h.behind
  exact hp.settled

theorem inStep (h : Abreast R n a b p q) : InStep R n p q :=
  ⟨a, b, h⟩

/-- **Looking in step.** -/
theorem peek (h : Abreast R n a b p q) :
    p.peek.1 = a ∧ q.peek.1 = b ∧ Abreast R n a b p.peek.2 q.peek.2 := by
  obtain ⟨more, more', hidden, hidden', hp, hq, hmore, hlength⟩ := h.behind
  exact ⟨hp.peek.1, hq.peek.1, h.next, more, more', hidden, hidden', hp.peek.2, hq.peek.2, hmore,
    hlength⟩

/-- **Taking in step.** The tokens that correspond must not be at their end, of which it is enough
that the first parser has still as many tokens ahead. -/
theorem take (h : Abreast R n a b p q) (hk : a.kind ≠ .eof) :
    p.scanIgnoringSpace.1 = a ∧ q.scanIgnoringSpace.1 = b ∧
      (n ≤ p.scanIgnoringSpace.2.tokensAhead.length →
        InStep R n p.scanIgnoringSpace.2 q.scanIgnoringSpace.2) := by
  obtain ⟨more, more', hidden, hidden', hp, hq, hmore, hlength⟩ := h.behind
  obtain ⟨htaken, hp⟩ := hp.take hk
  -- the second parser may take its token, since it is of the same kind
  obtain ⟨htaken', hq⟩ := hq.take (R.kind h.next ▸ hk)
  refine ⟨htaken, htaken', fun hahead => ?_⟩
  cases hmore with
  | nil =>
    -- all that is ahead is hidden, and that is too little
    have hseen : hidden.length = _ := hp.length
    omega
  | @cons a' b' more more' hnext hmore =>
    exact ⟨a', b', hnext, more, more', hidden, hidden', hp, hq, hmore, hlength⟩

end Abreast

/-! ### Less and less is ahead -/

theorem Settled.length_peek (h : p.Settled) :
    p.peek.2.tokensAhead.length = p.tokensAhead.length := by
  rw [h.faces.peek.tokensAhead]

theorem Settled.length_take_le (h : p.Settled) :
    p.scanIgnoringSpace.2.tokensAhead.length ≤ p.tokensAhead.length := by
  rw [h.faces.take_spec.2.tokensAhead, List.length_tail]
  exact Nat.sub_le _ _

theorem Settled.length_parseFraction_le (integral : Token) (h : p.Settled) :
    (p.parseFraction integral).2.tokensAhead.length ≤ p.tokensAhead.length := by
  unfold Parser.parseFraction
  dsimp only
  split
  · exact h.peek.length_take_le.trans h.length_peek.le
  · exact h.length_peek.le

theorem Settled.length_reduce_le {goal hole : Level} (stack : Stack goal hole) (t : Tree hole)
    (h : p.Settled) : (stack.reduce t p).2.tokensAhead.length ≤ p.tokensAhead.length := by
  -- by induction on the stack: a parenthesis or an operator is taken, or only looked at
  induction stack generalizing p with
  | done => exact le_rfl
  | group opening below ih =>
    unfold Stack.reduce
    dsimp only
    split
    · exact (ih _ h.peek.scanIgnoringSpace).trans (h.peek.length_take_le.trans h.length_peek.le)
    · exact h.length_peek.le
  | operand p links below ih =>
    unfold Stack.reduce
    dsimp only
    split
    · exact h.peek.length_take_le.trans h.length_peek.le
    · exact (ih _ h.peek).trans h.length_peek.le

/-! ### Numbers in step -/

/-- A number is read from its text alone. -/
theorem numbersMatch_numberOf (text : String) {first first' : Token} (h : R.rel first first')
    (last last' : Token) :
    NumbersMatch R (numberOf text first last) (numberOf text first' last') := by
  unfold numberOf
  cases hv : decimalValue text with
  | ok value =>
    rw [Number.ofText_of_ok hv, Number.ofText_of_ok hv]
    exact .ok rfl
  | error reason =>
    rw [Number.ofText_of_error hv, Number.ofText_of_error hv]
    exact .error (.numberConversion text reason h)

namespace Abreast

variable {n : Nat}

theorem parseFraction (h : Abreast R n a b p q) {integral integral' : Token}
    (hintegral : R.rel integral integral')
    (hahead : n ≤ (p.parseFraction integral).2.tokensAhead.length) :
    NumbersMatch R (p.parseFraction integral).1 (q.parseFraction integral').1 ∧
      InStep R n (p.parseFraction integral).2 (q.parseFraction integral').2 := by
  obtain ⟨hp, hq, hpeek⟩ := h.peek
  -- both look at the same kind, so both go the same way
  unfold Parser.parseFraction at hahead ⊢
  dsimp only at hahead ⊢
  rw [hp] at hahead
  rw [hp, hq, ← R.kind h.next]
  by_cases hk : a.kind = .digits
  · -- the text of the number is made of characters, and these are the same
    obtain ⟨htaken, htaken', hbehind⟩ := hpeek.take (by simp [hk])
    simp only [if_pos hk] at hahead ⊢
    rw [htaken, htaken', R.lexeme h.next, R.lexeme hintegral]
    exact ⟨numbersMatch_numberOf _ hintegral _ _, hbehind hahead⟩
  · simp only [if_neg hk]
    exact ⟨.error (Fault.matches_unexpected _ h.next), hpeek.inStep⟩

/-- **Reading a number in step.** -/
theorem parseNumber (h : Abreast R n a b p q)
    (hahead : n ≤ p.parseNumber.2.tokensAhead.length) :
    NumbersMatch R p.parseNumber.1 q.parseNumber.1 ∧
      InStep R n p.parseNumber.2 q.parseNumber.2 := by
  obtain ⟨hp, hq, hpeek⟩ := h.peek
  -- the same three cases on both sides, by the kind of the next token
  unfold Parser.parseNumber at hahead ⊢
  dsimp only at hahead ⊢
  rw [hp] at hahead
  rw [hp, hq, ← R.kind h.next]
  by_cases heof : a.kind = .eof
  · simp only [if_pos heof]
    exact ⟨.error (Fault.matches_unexpected _ h.next), hpeek.inStep⟩
  by_cases hk : a.kind = .digits
  · obtain ⟨htaken, htaken', hbehind⟩ := hpeek.take heof
    have hsettled := hpeek.settled.scanIgnoringSpace
    simp only [if_neg heof, if_pos hk, htaken, htaken'] at hahead ⊢
    -- behind the digits there is more ahead than in the end
    have hpoint : InStep R n p.peek.2.scanIgnoringSpace.2 q.peek.2.scanIgnoringSpace.2 := by
      refine hbehind (hahead.trans ?_)
      split
      · exact (hsettled.peek.scanIgnoringSpace.length_parseFraction_le _).trans
          (hsettled.peek.length_take_le.trans hsettled.length_peek.le)
      · exact hsettled.length_peek.le
    obtain ⟨c, d, hpoint⟩ := hpoint
    obtain ⟨hp', hq', hpeek'⟩ := hpoint.peek
    rw [hp'] at hahead
    rw [hp', hq', ← R.kind hpoint.next]
    by_cases hdot : c.kind = .dot
    · -- a point follows, and is taken on both sides, too
      obtain ⟨-, -, hfraction⟩ := hpeek'.take (by simp [hdot])
      simp only [if_pos hdot] at hahead ⊢
      obtain ⟨_, _, hfraction⟩ := hfraction
        (hahead.trans (hsettled.peek.scanIgnoringSpace.length_parseFraction_le _))
      exact hfraction.parseFraction h.next hahead
    · -- no point follows
      simp only [if_neg hdot]
      rw [R.lexeme h.next]
      exact ⟨numbersMatch_numberOf _ h.next _ _, hpeek'.inStep⟩
  · simp only [if_neg heof, if_neg hk]
    exact ⟨.error (Fault.matches_unexpected _ h.next), hpeek.inStep⟩

end Abreast

end Parser

/-! ### Rounds in step -/

namespace Stack.Matches

variable {goal hole : Level} {stack stack' : Stack goal hole} {n : Nat} {p q : Parser} {a b : Token}

/-- **Closing productions in step.** -/
theorem reduce (hs : stack.Matches R stack') {t u : Tree hole} (ht : t.phrase = u.phrase)
    (h : p.Abreast R n a b q) (hahead : n ≤ (stack.reduce t p).2.tokensAhead.length) :
    (stack.reduce t p).1.Matches R (stack'.reduce u q).1 ∧
      Parser.InStep R n (stack.reduce t p).2 (stack'.reduce u q).2 := by
  -- by induction on the productions; those below get trees of the same phrase
  induction hs generalizing a b p q with
  | done => exact ⟨.finished ht, h.inStep⟩
  | @group opening opening' below below' hopening hbelow ih =>
    obtain ⟨hp, hq, hpeek⟩ := h.peek
    unfold Stack.reduce at hahead ⊢
    dsimp only at hahead ⊢
    rw [hp] at hahead
    rw [hp, hq, ← R.kind h.next]
    by_cases hk : a.kind = .rightParen
    · -- the group fills the hole of what is below, and that only takes more
      obtain ⟨-, -, hbehind⟩ := hpeek.take (by simp [hk])
      simp only [if_pos hk] at hahead ⊢
      obtain ⟨_, _, hbehind⟩ := hbehind
        (hahead.trans (hpeek.settled.scanIgnoringSpace.length_reduce_le _ _))
      exact ih (congrArg Phrase.group ht) hbehind hahead
    · -- the parenthesis is missing on both sides
      simp only [if_neg hk]
      exact ⟨.stuck hbelow (.missingRightParen hopening h.next)
        (congrArg (some ∘ Phrase.group) ht), hpeek.inStep⟩
  | @operand r links links' below below' same hbelow ih =>
    obtain ⟨hp, hq, hpeek⟩ := h.peek
    unfold Stack.reduce at hahead ⊢
    dsimp only at hahead ⊢
    rw [hp] at hahead
    rw [hp, hq]
    rcases Operator.ofToken?_rel r h.next with ⟨hop, hop'⟩ | ⟨op, op', hop, hop', hsymbol, hlexeme⟩
    · -- no operator: both chains are complete
      simp only [hop, hop'] at hahead ⊢
      exact ih (Tree.phrase_ofReversed_congr same ht) hpeek hahead
    · simp only [hop, hop'] at hahead ⊢
      -- the end is no operator
      have hk : a.kind ≠ .eof := fun hk => by
        simp [Operator.ofToken?, TokenKind.symbol?, hk] at hop
      have hlink : linkPhrase (t, op) = linkPhrase (u, op') := by
        rw [linkPhrase, linkPhrase, ht, hsymbol, hlexeme]
      obtain ⟨-, -, hbehind⟩ := hpeek.take hk
      exact ⟨.next (.operand (List.cons_eq_cons.2 ⟨hlink, same⟩) hbelow), hbehind hahead⟩

/-- **Reading the beginning of a term in step.** -/
theorem readTerm {stack stack' : Stack goal .term} (hs : stack.Matches R stack')
    (h : p.Abreast R n a b q) (hahead : n ≤ (stack.readTerm p).2.tokensAhead.length) :
    (stack.readTerm p).1.Matches R (stack'.readTerm q).1 ∧
      Parser.InStep R n (stack.readTerm p).2 (stack'.readTerm q).2 := by
  obtain ⟨hp, hq, hpeek⟩ := h.peek
  unfold Stack.readTerm at hahead ⊢
  dsimp only at hahead ⊢
  rw [hp] at hahead
  rw [hp, hq, ← R.kind h.next]
  by_cases hopen : a.kind = .leftParen
  · obtain ⟨htaken, htaken', hbehind⟩ := hpeek.take (by simp [hopen])
    simp only [if_pos hopen, htaken, htaken'] at hahead ⊢
    exact ⟨.next (.operand rfl (.group h.next hs)), hbehind hahead⟩
  by_cases hk : a.kind = .digits
  · simp only [if_neg hopen, if_pos hk] at hahead ⊢
    have hread := hpeek.parseNumber
    have hsettled := hpeek.settled.parseNumber
    generalize p.peek.2.parseNumber = result at hahead hread hsettled ⊢
    generalize q.peek.2.parseNumber = result' at hread ⊢
    obtain ⟨read, after⟩ := result
    obtain ⟨read', after'⟩ := result'
    -- only a number that was read is followed by more
    have hafter : n ≤ after.tokensAhead.length := by
      cases read with
      | ok number => exact hahead.trans (hsettled.length_reduce_le _ _)
      | error => exact hahead
    obtain ⟨hmatch, _, _, hstep⟩ := hread hafter
    cases hmatch with
    | ok same => exact hs.reduce (congrArg Phrase.number same) hstep hahead
    | error faults => exact ⟨.stuck hs faults rfl, hstep.inStep⟩
  · simp only [if_neg hopen, if_neg hk]
    exact ⟨.stuck hs (Fault.matches_unexpected _ h.next) rfl, hpeek.inStep⟩

/-- **A round in step.** -/
theorem pass (hs : stack.Matches R stack') (h : p.Abreast R n a b q)
    (hahead : n ≤ (stack.pass p).2.tokensAhead.length) :
    (stack.pass p).1.Matches R (stack'.pass q).1 ∧
      Parser.InStep R n (stack.pass p).2 (stack'.pass q).2 := by
  unfold Stack.pass at hahead ⊢
  -- whether the end is refused here depends on what is awaited, which is the same
  rw [← hs.awaited]
  cases hawaited : stack.awaited with
  | none =>
    simp only [hawaited] at hahead
    exact hs.descend.readTerm h hahead
  | some expected =>
    obtain ⟨hp, hq, hpeek⟩ := h.peek
    simp only [hawaited, hp] at hahead
    dsimp only
    rw [hp, hq, ← R.kind h.next]
    by_cases heof : a.kind = .eof
    · simp only [if_pos heof]
      exact ⟨.stuck hs (Fault.matches_unexpected _ h.next) rfl, hpeek.inStep⟩
    · simp only [if_neg heof] at hahead ⊢
      exact hs.descend.readTerm hpeek hahead

end Stack.Matches

/-! ### Runs in step -/

/-- **A whole run in step.** -/
theorem Stack.Matches.run {goal hole : Level} {stack stack' : Stack goal hole} {n : Nat}
    {p q : Parser} {a b : Token} {taken : List Token} (hs : stack.Matches R stack')
    (hspells : stack.Spells taken) (h : p.Abreast R n a b q)
    (hahead : n ≤ (stack.run p).2.tokensAhead.length) :
    TreesMatch R (stack.run p).1 (stack'.run q).1 ∧
      Parser.InStep R n (stack.run p).2 (stack'.run q).2 := by
  induction hn : p.remaining using Nat.strongRecOn
    generalizing hole stack stack' p q a b taken with
  -- what a run takes is at least what its first round takes, so the round may be compared
  | ind _ ih =>
    have hmatch := hs.pass h
    obtain ⟨more, rest, -, hfaces, haccounts⟩ := accounts_pass hspells h.settled.faces
    have hlt : ∀ {hole' : Level} {next : Stack goal hole'} {after : Parser},
        stack.pass p = (.next next, after) → after.remaining < p.remaining := remaining_pass_lt
    rw [run_eq_carryOn] at hahead
    rw [run_eq_carryOn, run_eq_carryOn]
    generalize stack.pass p = result at hmatch hfaces haccounts hlt hahead ⊢
    generalize stack'.pass q = result' at hmatch ⊢
    obtain ⟨outcome, after⟩ := result
    obtain ⟨outcome', after'⟩ := result'
    have hafter : n ≤ after.tokensAhead.length := by
      cases outcome with
      | finished | stuck => exact hahead
      | next stack =>
        -- the rounds that follow only take more
        obtain ⟨_, _, hsplit, hfaces', -⟩ := accounts_run haccounts hfaces
        refine hahead.trans ?_
        simp only [carryOn, hfaces'.tokensAhead, hfaces.tokensAhead, hsplit, List.length_append]
        exact Nat.le_add_left _ _
    obtain ⟨hpass, _, _, hstep⟩ := hmatch hafter
    -- the outcome of the round on one side is that on the other
    cases hpass with
    | finished same => exact ⟨.ok same, hstep.inStep⟩
    | stuck frames faults same => exact ⟨.error faults (frames.unwind same), hstep.inStep⟩
    | next frames => exact ih _ (hn ▸ hlt rfl) frames haccounts hstep hahead rfl

namespace Parser.Abreast

variable {n : Nat} {p q : Parser} {a b : Token}

/-- **Reading a tree in step.** -/
theorem parseTree (level : Level) (h : p.Abreast R n a b q)
    (hahead : n ≤ (p.parseTree level).2.tokensAhead.length) :
    TreesMatch R (p.parseTree level).1 (q.parseTree level).1 ∧
      InStep R n (p.parseTree level).2 (q.parseTree level).2 := by
  cases level with
  | term =>
    -- nothing was read into these stacks, and the parsers are in step from the start
    have hs : (.done : Stack .term .term).Spells [] := rfl
    exact Stack.Matches.done.run hs h hahead
  | chain r =>
    have hs : (.operand r [] .done : Stack (.chain r) r.operand).Spells [] :=
      ⟨[], [], rfl, rfl, Stack.linked_nil⟩
    exact (Stack.Matches.operand rfl .done).run hs h hahead

/-- **Reading a whole input in step.** -/
theorem parse (h : p.Abreast R n a b q) (hahead : n ≤ p.parse.2.tokensAhead.length) :
    TreesMatch R p.parse.1 q.parse.1 ∧ InStep R n p.parse.2 q.parse.2 := by
  have htree := h.parseTree (.chain .additive)
  have hsettled := h.settled.parseTree (.chain .additive)
  unfold Parser.parse at hahead ⊢
  generalize p.parseTree (.chain .additive) = result at htree hsettled hahead ⊢
  generalize q.parseTree (.chain .additive) = result' at htree ⊢
  obtain ⟨error | t, after⟩ := result <;> obtain ⟨outcome', after'⟩ := result'
  · -- both are refused
    obtain ⟨hmatch, hstep⟩ := htree hahead
    cases hmatch with
    | error faults same => exact ⟨.error faults same, hstep⟩
  · -- behind the tree there is only a look at the next token
    have hafter : n ≤ after.tokensAhead.length := by
      refine hahead.trans ?_
      dsimp only
      split <;> exact hsettled.length_peek.le
    obtain ⟨hmatch, c, d, hstep⟩ := htree hafter
    cases hmatch with
    | ok same =>
      obtain ⟨hp, hq, hpeek⟩ := hstep.peek
      dsimp only
      rw [hp, hq, ← R.kind hstep.next]
      by_cases heof : c.kind = .eof
      · simp only [if_pos heof]
        exact ⟨.ok same, hpeek.inStep⟩
      · simp only [if_neg heof]
        exact ⟨.error (Fault.matches_unexpected _ hstep.next) (congrArg some same), hpeek.inStep⟩

end Parser.Abreast

end ArithExpr
