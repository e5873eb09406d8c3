import ArithExpr.Grammar
import ArithExpr.Parser.Basic
import ArithExpr.Proofs.Lookahead

/-!
# What the stack stands for

While an input is read, the tokens that have been taken are held as a stack of open productions.
The invariant of the parser says which tokens a stack stands for (`Stack.Spells`): the frames from
the outermost to the innermost are the tokens taken so far, a group its parenthesis, a chain its
operands and the operators behind them. Each operand is a tree that the grammar derives from its
tokens, so that closing a production is a step of a derivation.

* `Parser.numberRead_parseNumber` — everything that reading a number can come to.
* `Pass.Accounts` — what a round may come to, by the tokens taken until then and the next token. A
  refusal names one of five reasons (`Stack.Stuck`).
* `Stack.accounts_reduce`, `Stack.accounts_readTerm`, `Stack.accounts_pass` — every round keeps the
  invariant.
* `Stack.accounts_run` — so does a whole run: a tree that is returned is derived from the tokens
  that were taken, and a refusal happens with a stack that stands for them.
-/

namespace ArithExpr

open Grammar

/-! ### Numbers -/

/-- **Everything that reading a number can come to**, where digits are ahead: a number, a point
without digits behind it, or a literal that has no value. -/
inductive Parser.NumberRead (tokens : List Token) (final : Token) :
    Except Fault Number × Parser → Prop where
  | number {literal rest : List Token} {first last : Token} {a : Number} {after : Parser}
      (split : tokens = literal ++ rest) (written : Literal literal a.text)
      (head : literal.head? = some first) (getLast : literal.getLast? = some last)
      (span : a.span = some ⟨first.location, last.location⟩)
      (whole : literal.length = 1 → (rest.headD final).kind ≠ .dot)
      (faces : after.Faces rest final) : NumberRead tokens final (.ok a, after)
  | noFraction {integral point : Token} {rest : List Token} {after : Parser}
      (split : tokens = integral :: point :: rest) (kind : integral.kind = .digits)
      (pointKind : point.kind = .dot) (refused : (rest.headD final).kind ≠ .digits)
      (faces : after.Faces rest final) :
      NumberRead tokens final
        (.error (.unexpected .fractionalDigits (rest.headD final)), after)
  | noValue {literal rest : List Token} {first : Token} {text : String} {reason : ConversionFault}
      {after : Parser} (split : tokens = literal ++ rest) (written : Literal literal text)
      (head : literal.head? = some first) (refused : decimalValue text = .error reason)
      (whole : literal.length = 1 → (rest.headD final).kind ≠ .dot)
      (faces : after.Faces rest final) :
      NumberRead tokens final (.error (.numberConversion text reason (some first.location)), after)

namespace Parser

variable {parser : Parser} {tokens : List Token} {final : Token}

/-- A literal of which all tokens have been taken is a number, or it has no value. -/
theorem numberRead_numberOf {literal rest : List Token} {first last : Token} {text : String}
    (split : tokens = literal ++ rest) (written : Literal literal text)
    (head : literal.head? = some first) (getLast : literal.getLast? = some last)
    (whole : literal.length = 1 → (rest.headD final).kind ≠ .dot) (h : parser.Faces rest final) :
    NumberRead tokens final (numberOf text first last, parser) := by
  unfold numberOf Number.ofText
  split
  · next a ha =>
    split at ha
    · obtain rfl := Except.ok.inj ha
      exact .number split written head getLast rfl whole h
    · simp at ha
  · -- the error of the conversion is the one that is passed on
    next reason hr =>
    split at hr
    · simp at hr
    · next reason' hv =>
      obtain rfl := Except.error.inj hr
      exact .noValue split written head hv whole h

theorem numberRead_parseNumber {digits : Token} (h : parser.Faces (digits :: tokens) final)
    (hk : digits.kind = .digits) :
    NumberRead (digits :: tokens) final parser.parseNumber := by
  have hfst : parser.peek.1 = digits := h.peek_fst
  have hintegral := h.peek.take_fst
  have hpoint := h.peek.take.peek_fst
  have hbehind := h.peek.take.peek
  have hspell := (h.spec digits List.mem_cons_self).2
  -- the digits are taken, and the number looks at one more token
  unfold parseNumber
  simp only [hfst, hk, hintegral, hpoint, reduceCtorEq, if_false, if_true]
  cases tokens with
  | nil =>
    -- nothing is behind the digits but the end, which is no point
    have hfinal : final.kind ≠ .dot := by rw [h.kind_final]; simp
    simp only [List.headD_nil, hfinal, if_false]
    exact numberRead_numberOf (show [digits] = [digits] ++ [] from rfl) (.whole hk) rfl rfl
      (fun _ => hfinal) hbehind
  | cons point tokens =>
    rw [List.headD_cons]
    split
    · next hdot =>
      have hafter := hbehind.take
      have hfraction := hafter.peek_fst
      unfold parseFraction
      dsimp only
      rw [hfraction]
      split
      · next hdigits =>
        cases tokens with
        | nil => rw [List.headD_nil, h.kind_final] at hdigits; simp at hdigits
        | cons fractional tokens =>
          -- the number is made with a point of its own, which is how this one is spelled
          have hdot' : point.lexeme = String.singleton '.' :=
            (h.spec point (by simp)).2.mark (by rw [hdot]; rfl)
          rw [hafter.peek.take_fst, show "." = point.lexeme from hdot'.symm]
          have hsplit : digits :: point :: fractional :: tokens =
            [digits, point, fractional] ++ tokens := rfl
          exact numberRead_numberOf hsplit (.fraction hk hdot hdigits) rfl rfl (by simp)
            hafter.peek.take
      · next hdigits => exact .noFraction rfl hk hdot hdigits hafter.peek
    · -- without a point the digits are the whole literal
      next hdot =>
      have hsplit : digits :: point :: tokens = [digits] ++ point :: tokens := rfl
      exact numberRead_numberOf hsplit (.whole hk) rfl rfl (fun _ => hdot) hbehind

end Parser

/-! ### The tokens of a stack -/

namespace Stack

variable {goal : Level}

/-- The tokens of the operands that a chain has already, each followed by its operator. The latest
comes first in the chain and last in the tokens. -/
def Linked {p : Precedence} : List (Tree p.operand × Operator p) → List Token → Prop
  | [], tokens => tokens = []
  | (tree, op) :: links, tokens => ∃ before content token,
    tokens = before ++ content ++ [token] ∧ Linked links before ∧
      Derives content tree.phrase ∧ token.kind = .operator op.symbol ∧ token.lexeme = op.lexeme

theorem linked_nil {p : Precedence} : Linked (p := p) [] [] := by
  simp [Linked]

/-- **The invariant.** The tokens that a stack stands for, from the outermost production to the
innermost. -/
def Spells : {hole : Level} → Stack goal hole → List Token → Prop
  | _, done, tokens => tokens = []
  | _, group opening below, tokens => ∃ before,
    tokens = before ++ [opening] ∧ below.Spells before ∧ opening.kind = .leftParen
  | _, operand _ links below, tokens => ∃ before linked,
    tokens = before ++ linked ∧ below.Spells before ∧ Linked links linked

/-- The reasons for which an input is refused, by the tokens taken until then and the next one.
What was taken stands in the stack, apart from the last case of each kind: the beginning of a
number, and a group that has no end, are taken but are not in the stack. -/
inductive Stuck (next : Token) :
    {hole : Level} → Stack goal hole → List Token → Fault → Option (Tree hole) → Prop where
  /-- A chain misses an operand at the end of the input. -/
  | operand {hole : Level} {stack : Stack goal hole} {tokens : List Token}
      {expected : Expectation} (spells : stack.Spells tokens)
      (awaited : stack.awaited = some expected) (kind : next.kind = .eof) :
      Stuck next stack tokens (.unexpected expected next) none
  /-- No term begins with the next token. -/
  | term {stack : Stack goal .term} {tokens : List Token} (spells : stack.Spells tokens)
      (paren : next.kind ≠ .leftParen) (digits : next.kind ≠ .digits) :
      Stuck next stack tokens (.unexpected .numberOrGroup next) none
  /-- A point has no digits behind it. -/
  | fraction {stack : Stack goal .term} {tokens : List Token} {integral point : Token}
      (spells : stack.Spells tokens) (integralKind : integral.kind = .digits)
      (pointKind : point.kind = .dot) (kind : next.kind ≠ .digits) :
      Stuck next stack (tokens ++ [integral, point]) (.unexpected .fractionalDigits next) none
  /-- A literal has no value. -/
  | literal {stack : Stack goal .term} {tokens literal : List Token} {first : Token}
      {text : String} {reason : ConversionFault} (spells : stack.Spells tokens)
      (written : Literal literal text) (head : literal.head? = some first)
      (whole : literal.length = 1 → next.kind ≠ .dot)
      (refused : decimalValue text = .error reason) :
      Stuck next stack (tokens ++ literal) (.numberConversion text reason (some first.location))
        none
  /-- A group is not closed behind its content. -/
  | group {stack : Stack goal .term} {tokens content : List Token} {opening : Token}
      {inner : Expression} (spells : stack.Spells tokens) (kind : opening.kind = .leftParen)
      (derives : Derives content inner.phrase) (refused : next.kind ≠ .rightParen) :
      Stuck next stack (tokens ++ opening :: content)
        (.missingRightParen (some opening.location) next) (some (.group inner none))

end Stack

/-- What a round may come to, by the tokens taken until then and the next token. -/
def Pass.Accounts {goal : Level} (next : Token) (taken : List Token) : Pass goal → Prop
  | .finished tree => Derives taken tree.phrase
  | .next stack => stack.Spells taken
  | .stuck stack fault filling => stack.Stuck next taken fault filling

namespace Stack

variable {goal : Level}

/-! ### Closing productions -/

/-- Putting the operands of a chain in front of a further chain is a derivation. -/
theorem derives_foldl_cons {p : Precedence} {links : List (Tree p.operand × Operator p)}
    {linked tokens : List Token} {rest : Tree (.chain p)} (hl : Linked links linked)
    (h : Derives tokens rest.phrase) :
    Derives (linked ++ tokens)
      (links.foldl (fun rest (tree, op) => Tree.cons tree op rest) rest).phrase := by
  -- by induction on the links; the rest grows by the latest of them
  induction links generalizing linked tokens rest with
  | nil =>
    obtain rfl : linked = [] := by simpa [Linked] using hl
    exact h
  | cons link links ih =>
    obtain ⟨tree, op⟩ := link
    obtain ⟨before, content, token, rfl, hbefore, hcontent, hk, hlexeme⟩ := hl
    -- the latest operand comes right in front of the further chain
    have hlink : Derives (content ++ token :: tokens) (Tree.cons tree op rest).phrase := by
      rw [Tree.cons, Tree.phrase, ← hlexeme]
      exact .link hcontent hk op.belongs h
    rw [List.foldl_cons]
    simpa using ih hbefore hlink

theorem derives_ofReversed {p : Precedence} {links : List (Tree p.operand × Operator p)}
    {linked tokens : List Token} {last : Tree p.operand} (hl : Linked links linked)
    (h : Derives tokens last.phrase) :
    Derives (linked ++ tokens) (Tree.ofReversed links last).phrase :=
  derives_foldl_cons hl (.single h)

end Stack

theorem Operator.of_ofToken? {p : Precedence} {token : Token} {op : Operator p}
    (h : ofToken? p token = some op) (hs : token.Spelled) :
    token.kind = .operator op.symbol ∧ token.lexeme = op.lexeme := by
  unfold ofToken? at h
  cases hk : token.kind <;> simp only [hk, TokenKind.symbol?] at h <;> try exact absurd h (by simp)
  next s =>
    unfold ofSymbol? at h
    split at h
    · obtain rfl := Option.some.inj h
      refine ⟨rfl, ?_⟩
      -- a token that was read has characters
      rw [if_neg]
      rw [hs.operator hk]
      simp
    · simp at h

namespace Stack

variable {goal : Level} {parser : Parser} {tokens taken : List Token} {final : Token}

/-- Reducing keeps the invariant. -/
theorem accounts_reduce {hole : Level} (stack : Stack goal hole) {tree : Tree hole}
    {content : List Token} (hs : stack.Spells taken) (ht : Derives content tree.phrase)
    (h : parser.Faces tokens final) :
    ∃ more rest, tokens = more ++ rest ∧ (stack.reduce tree parser).2.Faces rest final ∧
      (stack.reduce tree parser).1.Accounts (rest.headD final) (taken ++ content ++ more) := by
  -- by induction on the stack: what is closed is the content of what is below
  induction stack generalizing taken content parser tokens with
  | done =>
    obtain rfl : taken = [] := hs
    refine ⟨[], tokens, rfl, h, ?_⟩
    rw [List.nil_append, List.append_nil]
    exact ht
  | group opening below ih =>
    -- the tree is the content of a group, of which the parenthesis has been taken
    obtain ⟨before, rfl, hbelow, hopen⟩ := hs
    unfold reduce
    dsimp only
    rw [h.peek_fst]
    split
    · next hclose =>
      cases tokens with
      | nil => rw [List.headD_nil, h.kind_final] at hclose; simp at hclose
      | cons closing tokens =>
        have hgroup : Derives (opening :: content ++ [closing])
            (Tree.group tree (some ⟨opening.location, closing.location⟩)).phrase :=
          .group hopen ht hclose
        obtain ⟨more, rest, rfl, hfaces, haccounts⟩ := ih hbelow hgroup h.peek.take
        -- the group fills the hole of what is below, which goes on with what is left
        refine ⟨closing :: more, rest, rfl, ?_, ?_⟩
        · rw [h.peek.take_fst]; exact hfaces
        · rw [h.peek.take_fst]; simpa using haccounts
    · next hclose =>
      -- the refusal names the token in place of the closing parenthesis, which stays ahead
      refine ⟨[], tokens, rfl, h.peek, ?_⟩
      rw [List.append_nil, List.append_assoc, List.singleton_append]
      exact .group hbelow hopen ht hclose
  | operand p links below ih =>
    -- the tree is an operand of a chain, which ends here unless an operator of its class follows
    obtain ⟨before, linked, rfl, hbelow, hlinked⟩ := hs
    unfold reduce
    dsimp only
    rw [h.peek_fst]
    split
    · next op hop =>
      cases tokens with
      | nil =>
        -- the end is no operator
        exact absurd hop (by simp [Operator.ofToken?, TokenKind.symbol?, h.kind_final])
      | cons token tokens =>
        obtain ⟨hk, hlexeme⟩ := Operator.of_ofToken? hop (h.spec token (by simp)).2
        refine ⟨[token], tokens, rfl, h.peek.take, before, linked ++ content ++ [token],
          by simp, hbelow, linked, content, token, rfl, hlinked, ht, hk, hlexeme⟩
    · -- the chain ends here, and with its operands it is a tree for the hole below
      obtain ⟨more, rest, rfl, hfaces, haccounts⟩ :=
        ih hbelow (derives_ofReversed hlinked ht) h.peek
      exact ⟨more, rest, rfl, hfaces, by simpa using haccounts⟩

/-! ### Rounds -/

theorem spells_descend {hole : Level} {stack : Stack goal hole} (h : stack.Spells taken) :
    stack.descend.Spells taken := by
  -- an empty chain stands for no tokens
  have hopen : ∀ p (below : Stack goal (.chain p)), below.Spells taken →
      (operand p [] below).Spells taken :=
    fun p below hb => ⟨taken, [], by simp, hb, linked_nil⟩
  match hole with
  | .term => exact h
  | .chain .exponentiation => exact hopen _ _ h
  | .chain .multiplicative => exact hopen _ _ (hopen _ _ h)
  | .chain .additive => exact hopen _ _ (hopen _ _ (hopen _ _ h))

/-- Reading the beginning of a term keeps the invariant. -/
theorem accounts_readTerm {stack : Stack goal .term} (hs : stack.Spells taken)
    (h : parser.Faces tokens final) :
    ∃ more rest, tokens = more ++ rest ∧ (stack.readTerm parser).2.Faces rest final ∧
      (stack.readTerm parser).1.Accounts (rest.headD final) (taken ++ more) := by
  unfold readTerm
  dsimp only
  rw [h.peek_fst]
  split
  · next hopen =>
    cases tokens with
    | nil => rw [List.headD_nil, h.kind_final] at hopen; simp at hopen
    | cons opening tokens =>
      refine ⟨[opening], tokens, rfl, h.peek.take, ?_⟩
      -- the parenthesis is on the stack now, with an empty chain above it
      rw [h.peek.take_fst]
      exact ⟨taken ++ [opening], [], by simp, ⟨taken, rfl, hs, hopen⟩, linked_nil⟩
  · next hopen =>
    split
    · next hdigits =>
      cases tokens with
      | nil => rw [List.headD_nil, h.kind_final] at hdigits; simp at hdigits
      | cons digits tokens =>
        have hread := Parser.numberRead_parseNumber h.peek hdigits
        generalize hr : parser.peek.2.parseNumber = result at hread
        cases hread with
        | @number literal rest _ _ a after split written head getLast span whole faces =>
          -- a number is a whole term, which may complete what is around it
          have hterm : Derives literal (Tree.number a a.span).phrase := .number written
          obtain ⟨more, rest', rfl, hfaces, haccounts⟩ := stack.accounts_reduce hs hterm faces
          exact ⟨literal ++ more, rest', by simp [split], hfaces, by simpa using haccounts⟩
        | @noFraction integral point rest after split kind pointKind refused faces =>
          exact ⟨[integral, point], rest, split, faces, .fraction hs kind pointKind refused⟩
        | @noValue literal rest first text reason after split written head refused whole faces =>
          exact ⟨literal, rest, split, faces, .literal hs written head whole refused⟩
    · -- no term begins here, and nothing was taken
      next hdigits =>
      refine ⟨[], tokens, rfl, h.peek, ?_⟩
      rw [List.append_nil]
      exact .term hs hopen hdigits

/-- **Every round keeps the invariant.** -/
theorem accounts_pass {hole : Level} {stack : Stack goal hole} (hs : stack.Spells taken)
    (h : parser.Faces tokens final) :
    ∃ more rest, tokens = more ++ rest ∧ (stack.pass parser).2.Faces rest final ∧
      (stack.pass parser).1.Accounts (rest.headD final) (taken ++ more) := by
  unfold pass
  split
  · exact accounts_readTerm (spells_descend hs) h
  · next expected hawaited =>
    dsimp only
    rw [h.peek_fst]
    split
    · -- the end is refused before any chain is opened
      next heof =>
      refine ⟨[], tokens, rfl, h.peek, ?_⟩
      rw [List.append_nil]
      exact .operand hs hawaited heof
    · exact accounts_readTerm (spells_descend hs) h.peek

/-- What a run may come to, by the tokens taken until then and the next token: a tree derived from
these tokens, or a refusal with a stack that stands for them and is unwound. -/
def Accounted (next : Token) (taken : List Token) :
    Except (ParseError (Tree goal)) (Tree goal) → Prop
  | .ok tree => Derives taken tree.phrase
  | .error error => ∃ (hole : Level) (stack : Stack goal hole) (filling : Option (Tree hole)),
    stack.Stuck next taken error.fault filling ∧ error.built = stack.unwind filling

/-- **Every run keeps the invariant.** -/
theorem accounts_run {hole : Level} {stack : Stack goal hole} (hs : stack.Spells taken)
    (h : parser.Faces tokens final) :
    ∃ more rest, tokens = more ++ rest ∧ (stack.run parser).2.Faces rest final ∧
      Accounted (rest.headD final) (taken ++ more) (stack.run parser).1 := by
  -- by induction on what is ahead, which every round but the last lowers
  induction hn : parser.remaining using Nat.strongRecOn
    generalizing hole stack parser tokens taken with
  | ind n ih =>
    obtain ⟨more, rest, rfl, hfaces, haccounts⟩ := accounts_pass hs h
    rw [run]
    split
    · next tree after hpass =>
      rw [hpass] at hfaces haccounts
      exact ⟨more, rest, rfl, hfaces, haccounts⟩
    · -- what stopped the round is unwound from the stack that it left
      next hole' stack' fault filling after hpass =>
      rw [hpass] at hfaces haccounts
      exact ⟨more, rest, rfl, hfaces, hole', stack', filling, haccounts, rfl⟩
    · next hole' stack' after hpass =>
      -- the round took a token, so the rounds that follow are covered by the induction
      have hlt := remaining_pass_lt hpass
      rw [hpass] at hfaces haccounts
      obtain ⟨more', rest', rfl, hfaces', haccounts'⟩ :=
        ih after.remaining (by omega) (show stack'.Spells (taken ++ more) from haccounts) hfaces rfl
      exact ⟨more ++ more', rest', by simp, hfaces', by simpa using haccounts'⟩

end Stack

namespace Parser

variable {parser : Parser} {tokens : List Token} {final : Token}

theorem accounts_parseTree (level : Level) (h : parser.Faces tokens final) :
    ∃ taken rest, tokens = taken ++ rest ∧ (parser.parseTree level).2.Faces rest final ∧
      Stack.Accounted (rest.headD final) taken (parser.parseTree level).1 := by
  cases level with
  -- nothing has been taken when the run begins
  | term =>
    have hs : (.done : Stack .term .term).Spells [] := rfl
    exact Stack.accounts_run hs h
  | chain p =>
    have hs : (.operand p [] .done : Stack (.chain p) p.operand).Spells [] :=
      ⟨[], [], rfl, rfl, Stack.linked_nil⟩
    exact Stack.accounts_run hs h

end Parser

end ArithExpr
