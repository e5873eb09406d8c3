import ArithExpr.Tree.Basic

/-!
# The grammar

The grammar as a relation between token lists and phrases, with no regard to how it is read:

    Expression = Factor | Factor AddOp Expression
    Factor     = Power  | Power MultiplyOp Factor
    Power      = Term   | Term ExponentOp Power
    Term       = '(' Expression ')' | Number
    Number     = Digits | Digits '.' Digits

* `Phrase` — what a tree says, without the places and the values in it; `Tree.phrase`.
* `Grammar.Literal` — the tokens that write a number, and its text.
* `Grammar.Derives` — the tokens that a phrase is derived into, one rule for each production.
* `Tree.same_iff_phrase_eq` — two trees of a level are the same but for their spans exactly if they
  are of one phrase.
-/

namespace ArithExpr

/-- A derivation in the grammar, with the texts of its numbers and operators. -/
inductive Phrase : Level → Type where
  /-- A number, which may have any number of digits. -/
  | number (text : String) : Phrase .term
  /-- An expression in parentheses. -/
  | group (inner : Phrase (.chain .additive)) : Phrase .term
  /-- A chain of one operand. -/
  | single {p : Precedence} (operand : Phrase p.operand) : Phrase (.chain p)
  /-- An operand, an operator and the rest of the chain. -/
  | link {p : Precedence} (operand : Phrase p.operand) (symbol : OperatorSymbol) (lexeme : String)
      (rest : Phrase (.chain p)) : Phrase (.chain p)

/-- The texts of the numbers in a phrase, in order. -/
def Phrase.literals : {l : Level} → Phrase l → List String
  | _, number text => [text]
  | _, group inner => inner.literals
  | _, single operand => operand.literals
  | _, link operand _ _ rest => operand.literals ++ rest.literals

/-- What a tree says. -/
def Tree.phrase : {l : Level} → Tree l → Phrase l
  | _, number a _ => .number a.text
  | _, group inner _ => .group inner.phrase
  | _, single operand _ => .single operand.phrase
  | _, link operand op rest _ => .link operand.phrase op.symbol op.lexeme rest.phrase

namespace Grammar

/-- The tokens that write a number, and the text of the number. -/
inductive Literal : List Token → String → Prop where
  /-- Number = Digits -/
  | whole {digits : Token} (kind : digits.kind = .digits) : Literal [digits] digits.lexeme
  /-- Number = Digits '.' Digits -/
  | fraction {integral point fractional : Token} (kind : integral.kind = .digits)
      (pointKind : point.kind = .dot) (fractionalKind : fractional.kind = .digits) :
      Literal [integral, point, fractional]
        (integral.lexeme ++ point.lexeme ++ fractional.lexeme)

/-- The tokens that a phrase is derived into. -/
inductive Derives : {l : Level} → List Token → Phrase l → Prop where
  /-- Term = Number -/
  | number {tokens : List Token} {text : String} (literal : Literal tokens text) :
      Derives tokens (.number text)
  /-- Term = '(' Expression ')' -/
  | group {opening closing : Token} {tokens : List Token} {inner : Phrase (.chain .additive)}
      (openingKind : opening.kind = .leftParen) (content : Derives tokens inner)
      (closingKind : closing.kind = .rightParen) :
      Derives (opening :: tokens ++ [closing]) (.group inner)
  /-- A chain of one operand. -/
  | single {p : Precedence} {tokens : List Token} {operand : Phrase p.operand}
      (only : Derives tokens operand) : Derives tokens (Phrase.single (p := p) operand)
  /-- A chain of an operand, an operator of its class and a further chain. -/
  | link {p : Precedence} {left right : List Token} {token : Token} {symbol : OperatorSymbol}
      {operand : Phrase p.operand} {rest : Phrase (.chain p)} (first : Derives left operand)
      (kind : token.kind = .operator symbol) (belongs : symbol.precedence = p)
      (further : Derives right rest) :
      Derives (left ++ token :: right) (.link operand symbol token.lexeme rest)

end Grammar

/-! ### Trees of one phrase -/

/-- Trees that are the same are of one level and of one phrase. -/
theorem Tree.phrase_eq_of_same {l m : Level} {t : Tree l} {u : Tree m} (h : t.same u = true) :
    l = m ∧ t.phrase ≍ u.phrase := by
  -- the level of the second tree is only known once the two are compared
  induction t generalizing m with
  | number a _ =>
    cases u <;> simp_all [same, Number.same, phrase]
  | group inner _ ih =>
    cases u with
    | group inner' _ =>
      simp only [same] at h
      exact ⟨rfl, by simp [phrase, eq_of_heq (ih h).2]⟩
    | number | single | link => simp [same] at h
  | @single p operand _ ih =>
    cases u with
    | @single q operand' _ =>
      simp only [same, Bool.and_eq_true, decide_eq_true_eq] at h
      obtain ⟨rfl, h⟩ := h
      exact ⟨rfl, by simp [phrase, eq_of_heq (ih h).2]⟩
    | number | group | link => simp [same] at h
  | @link p operand op rest _ ih ih' =>
    cases u with
    | @link q operand' op' rest' _ =>
      simp only [same, Operator.same, Bool.and_eq_true, decide_eq_true_eq] at h
      obtain ⟨⟨⟨rfl, h⟩, hs, hl⟩, h'⟩ := h
      exact ⟨rfl, by simp [phrase, eq_of_heq (ih h).2, eq_of_heq (ih' h').2, hs, hl]⟩
    | number | group | single => simp [same] at h

/-- Two trees of a level are the same but for their spans exactly if they are of one phrase. -/
theorem Tree.same_iff_phrase_eq {l : Level} {t u : Tree l} :
    t.same u = true ↔ t.phrase = u.phrase := by
  refine ⟨fun h => eq_of_heq (phrase_eq_of_same h).2, fun h => ?_⟩
  -- the rule of a tree shows in its phrase, so both trees are made by the same rule
  induction t with
  | number a _ =>
    cases u <;> simp_all [same, Number.same, phrase]
  | group inner _ ih =>
    cases u with
    | group inner' _ => simp only [phrase, Phrase.group.injEq] at h; simp [same, ih h]
    | number => simp [phrase] at h
  | single operand _ ih =>
    cases u with
    | single operand' _ => simp only [phrase, Phrase.single.injEq] at h; simp [same, ih h]
    | link => simp [phrase] at h
  | link operand op rest _ ih ih' =>
    cases u with
    | link operand' op' rest' _ =>
      simp only [phrase, Phrase.link.injEq] at h
      obtain ⟨h, hs, hl, h'⟩ := h
      simp [same, Operator.same, ih h, ih' h', hs, hl]
    | single => simp [phrase] at h

end ArithExpr
