import ArithExpr.Grammar
import ArithExpr.Proofs.Printing
import ArithExpr.Proofs.Retokenizing

/-!
# The complete part of an unfinished input

When an input is refused, part of it can still be kept: everything up to the last operand that is
complete. Operators and parentheses behind that operand have nothing to hold, and a number that
stops at its point is not finished. What is kept may have open groups, which have to be closed.

* `EndsOperand` — behind a token an operand is complete.
* `completePart` — the longest beginning of a list of tokens behind which an operand is complete;
  `completePart_spec` says that it is.
* `openGroups` — the number of groups that tokens leave open; a phrase leaves none open.
* `Salvaged` — what is had of an unfinished input: a tree of some tokens, the open groups of which
  are closed; `Salvaged.toSource_eq` is what is written for it.
-/

namespace ArithExpr

open Grammar

/-! ### Where operands end -/

/-- Behind the token an operand is complete, if these tokens follow: it closes a group, or it is the
end of a number and not the part of a number in front of its point. -/
def EndsOperand (token : Token) (behind : List Token) : Prop :=
  token.kind = .rightParen ∨ token.kind = .digits ∧ ∀ next ∈ behind.head?, next.kind ≠ .dot

/-- At most one further token has to be looked at. -/
instance (token : Token) (behind : List Token) : Decidable (EndsOperand token behind) :=
  inferInstanceAs (Decidable (_ ∨ _ ∧ _))

/-- The longest beginning of the tokens behind which an operand is complete. -/
def completePart : List Token → List Token
  | [] => []
  | token :: behind =>
    if completePart behind ≠ [] ∨ EndsOperand token behind then token :: completePart behind
    else []

/-- Behind these tokens an operand is complete, if those ones follow. -/
def OperandComplete (kept dropped : List Token) : Prop :=
  ∃ token ∈ kept.getLast?, EndsOperand token dropped

/-- Whether an operand is complete shows behind the last tokens. -/
theorem OperandComplete.append {kept dropped : List Token} (h : OperandComplete kept dropped)
    (before : List Token) : OperandComplete (before ++ kept) dropped := by
  obtain ⟨token, hlast, hends⟩ := h
  rw [Option.mem_def] at hlast
  exact ⟨token, by simp [List.getLast?_append, hlast], hends⟩

theorem OperandComplete.ne_nil {kept dropped : List Token} (h : OperandComplete kept dropped) :
    kept ≠ [] := by
  rintro rfl
  obtain ⟨_, hlast, -⟩ := h
  simp at hlast

theorem operandComplete_cons {token : Token} {kept dropped : List Token} (h : kept ≠ []) :
    OperandComplete (token :: kept) dropped ↔ OperandComplete kept dropped := by
  rw [OperandComplete, OperandComplete, List.getLast?_cons_of_ne_nil h]

/-- Where an operand is complete and none is completed later, the complete part ends. -/
theorem completePart_append {kept dropped : List Token}
    (h : kept = [] ∨ OperandComplete kept dropped) (hdropped : completePart dropped = []) :
    completePart (kept ++ dropped) = kept := by
  -- by induction on what is kept, towards its last token
  induction kept with
  | nil => exact hdropped
  | cons token kept ih =>
    have hcomplete : OperandComplete (token :: kept) dropped := h.resolve_left (by simp)
    rw [List.cons_append, completePart]
    by_cases hnil : kept = []
    · -- the token is the last one kept, and nothing behind it counts
      subst hnil
      obtain ⟨_, hlast, hends⟩ := hcomplete
      obtain rfl := Option.some.inj hlast
      rw [List.nil_append, hdropped, if_pos (.inr hends)]
    -- the last token kept is further behind, where it decides the same
    · have hkept := ih (.inr ((operandComplete_cons hnil).1 hcomplete))
      rw [hkept, if_pos (.inl hnil)]

theorem completePart_of_operandComplete {tokens : List Token} (h : OperandComplete tokens []) :
    completePart tokens = tokens := by
  have hkept : completePart (tokens ++ []) = tokens := completePart_append (.inr h) rfl
  rwa [List.append_nil] at hkept

/-- **The complete part is the longest beginning behind which an operand is complete**, and it is
empty if there is none. -/
theorem completePart_spec (tokens : List Token) :
    (∃ dropped, tokens = completePart tokens ++ dropped ∧
      (completePart tokens = [] ∨ OperandComplete (completePart tokens) dropped)) ∧
    ∀ kept dropped, tokens = kept ++ dropped → OperandComplete kept dropped →
      kept.length ≤ (completePart tokens).length := by
  induction tokens with
  | nil =>
    refine ⟨⟨[], rfl, .inl rfl⟩, ?_⟩
    intro kept dropped heq _
    obtain ⟨rfl, -⟩ := List.append_eq_nil_iff.1 heq.symm
    exact Nat.le_refl _
  | cons token behind ih =>
    obtain ⟨⟨dropped, hsplit, hcomplete⟩, hlongest⟩ := ih
    rw [completePart]
    split
    · -- the token is kept: an operand is complete behind it, or later
      next hends =>
      constructor
      · refine ⟨dropped, by rw [List.cons_append, ← hsplit], .inr ?_⟩
        by_cases hnil : completePart behind = []
        · rw [hnil] at hsplit hends ⊢
          rw [hsplit] at hends
          exact ⟨token, rfl, hends.resolve_left (by simp)⟩
        · exact (operandComplete_cons hnil).2 (hcomplete.resolve_left hnil)
      · -- a longer beginning would be one of the tokens behind it, too
        intro kept dropped' heq hkept
        cases kept with
        | nil => exact Nat.zero_le _
        | cons first kept =>
          obtain ⟨rfl, rfl⟩ := List.cons.inj heq
          by_cases hnil : kept = []
          · simp [hnil]
          · have hkept' := (operandComplete_cons hnil).1 hkept
            exact Nat.succ_le_succ (hlongest kept dropped' rfl hkept')
    · -- nothing is kept: no beginning whatever ends in an operand
      next hends =>
      rw [not_or, Decidable.not_not] at hends
      obtain ⟨hnone, hends⟩ := hends
      refine ⟨⟨token :: behind, rfl, .inl rfl⟩, ?_⟩
      intro kept dropped' heq hkept
      exfalso
      cases kept with
      | nil => exact hkept.ne_nil rfl
      | cons first kept =>
        obtain ⟨rfl, rfl⟩ := List.cons.inj heq
        by_cases hnil : kept = []
        · subst hnil
          obtain ⟨_, hlast, hkept⟩ := hkept
          obtain rfl := Option.some.inj hlast
          exact hends hkept
        · have hle := hlongest kept dropped' rfl ((operandComplete_cons hnil).1 hkept)
          rw [hnone] at hle
          exact hnil (List.eq_nil_of_length_eq_zero (Nat.le_zero.1 hle))

/-- The token begins something that is not complete with it: a group, or the operand behind an
operator. -/
def Token.Opens (token : Token) : Prop :=
  token.kind = .leftParen ∨ ∃ symbol, token.kind = .operator symbol

/-- No operand is complete behind tokens that only begin something. -/
theorem completePart_opens {tokens behind : List Token} (h : ∀ token ∈ tokens, token.Opens)
    (hbehind : completePart behind = []) : completePart (tokens ++ behind) = [] := by
  induction tokens with
  | nil => exact hbehind
  | cons token tokens ih =>
    obtain ⟨hopens, htokens⟩ := List.forall_mem_cons.1 h
    rw [List.cons_append, completePart, ih htokens, if_neg]
    rintro (hne | hends)
    · exact hne rfl
    · -- what is begun by such a token is not ended by it
      rcases hopens with hk | ⟨symbol, hk⟩ <;> simp [EndsOperand, hk] at hends

theorem completePart_point {integral point : Token} (hk : integral.kind = .digits)
    (hdot : point.kind = .dot) : completePart [integral, point] = [] := by
  simp [completePart, EndsOperand, hk, hdot]

/-! ### Open groups -/

/-- The number of open groups behind a token, by their number in front of it. -/
def nesting (depth : Nat) (token : Token) : Nat :=
  match token.kind with
  | .leftParen => depth + 1
  | .rightParen => depth - 1
  | _ => depth

/-- The number of groups that tokens leave open. -/
def openGroups (tokens : List Token) : Nat :=
  tokens.foldl nesting 0

/-- As many groups are open behind the tokens as in front of them, whatever their number is. -/
def Balanced (tokens : List Token) : Prop :=
  ∀ depth, tokens.foldl nesting depth = depth

theorem Balanced.append {tokens tokens' : List Token} (h : Balanced tokens)
    (h' : Balanced tokens') : Balanced (tokens ++ tokens') := by
  intro depth
  rw [List.foldl_append, h, h']

/-- Tokens that leave no groups open do not change how many groups are. -/
theorem Balanced.openGroups_append {tokens : List Token} (h : Balanced tokens)
    (before : List Token) : openGroups (before ++ tokens) = openGroups before := by
  rw [openGroups, List.foldl_append, h, openGroups]

theorem openGroups_opening {opening : Token} (hk : opening.kind = .leftParen)
    (before : List Token) : openGroups (before ++ [opening]) = openGroups before + 1 := by
  rw [openGroups, List.foldl_append, List.foldl_cons, List.foldl_nil, nesting, hk, openGroups]

theorem balanced_operator {token : Token} {symbol : OperatorSymbol}
    (hk : token.kind = .operator symbol) : Balanced [token] := by
  intro depth
  rw [List.foldl_cons, List.foldl_nil, nesting, hk]

namespace Grammar

theorem Literal.balanced {tokens : List Token} {text : String} (h : Literal tokens text) :
    Balanced tokens := by
  intro depth
  cases h with
  | whole kind => simp [nesting, kind]
  | fraction kind pointKind fractionalKind => simp [nesting, kind, pointKind, fractionalKind]

/-- **A phrase leaves no group open.** -/
theorem Derives.balanced {l : Level} {tokens : List Token} {phrase : Phrase l}
    (h : Derives tokens phrase) : Balanced tokens := by
  induction h with
  | number literal => exact literal.balanced
  | group openingKind _ closingKind ih =>
    intro depth
    -- one more is open in front of the content, and so one more behind it
    rw [List.cons_append, List.foldl_cons, List.foldl_append, ih, List.foldl_cons, List.foldl_nil]
    simp [nesting, openingKind, closingKind]
  | single _ ih => exact ih
  | link _ kind _ _ ih ih' =>
    rw [← List.singleton_append]
    exact ih.append ((balanced_operator kind).append ih')

/-- **Behind a phrase an operand is complete**, if no point follows. -/
theorem Derives.operandComplete {l : Level} {tokens : List Token} {phrase : Phrase l}
    (h : Derives tokens phrase) {behind : List Token}
    (hbehind : ∀ next ∈ behind.head?, next.kind ≠ .dot) : OperandComplete tokens behind := by
  induction h with
  | number literal =>
    cases literal with
    -- a literal ends in digits, of whichever form it is
    | whole kind => exact ⟨_, rfl, .inr ⟨kind, hbehind⟩⟩
    | fraction _ _ fractionalKind => exact ⟨_, rfl, .inr ⟨fractionalKind, hbehind⟩⟩
  | group _ _ closingKind => exact ⟨_, List.getLast?_concat, .inl closingKind⟩
  | single _ ih => exact ih
  -- the last operand of a chain is in the rest of the chain
  | @link _ left right token _ _ _ _ _ _ _ _ ih' =>
    rw [← List.singleton_append, ← List.append_assoc]
    exact ih'.append _

/-! ### Written phrases -/

theorem Derives.source_eq {l : Level} {tokens : List Token} {phrase : Phrase l}
    (h : Derives tokens phrase) (hs : ∀ token ∈ tokens, token.Spelled) :
    phrase.source = String.join (tokens.map Token.lexeme) := by
  induction h with
  | number literal =>
    -- the lexemes are joined in the order of the tokens
    cases literal <;> simp [Phrase.source, String.join_cons, String.join_nil, String.append_assoc]
  | @group opening closing content inner openingKind _ closingKind ih =>
    have hopening : opening.lexeme = String.singleton '(' :=
      (hs opening (by simp)).mark (by rw [openingKind]; rfl)
    have hclosing : closing.lexeme = String.singleton ')' :=
      (hs closing (by simp)).mark (by rw [closingKind]; rfl)
    have hinner := ih fun token hmem => hs token (by simp [hmem])
    simp [Phrase.source, hinner, hopening, hclosing, String.join_cons, String.join_append,
      String.append_assoc]
  | single _ ih => exact ih hs
  | @link p left right token symbol operand rest _ _ _ _ ih ih' =>
    have hleft := ih fun token hmem => hs token (by simp [hmem])
    have hright := ih' fun token hmem => hs token (by simp [hmem])
    simp [Phrase.source, hleft, hright, String.join_cons, String.join_append, String.append_assoc]

end Grammar

/-- A tree whose operators are tokens that were read is written conventionally. -/
theorem Tree.conventional_of_derives {l : Level} {t : Tree l} {tokens : List Token}
    (h : Derives tokens t.phrase) (hs : ∀ token ∈ tokens, token.Spelled) : t.Conventional := by
  induction t generalizing tokens with
  | number => trivial
  | group inner _ ih =>
    cases h with
    | group _ content _ => exact ih content fun token hmem => hs token (by simp [hmem])
  | single operand _ ih =>
    cases h with
    | single only => exact ih only hs
  | link operand op rest _ ih ih' =>
    unfold phrase at h
    -- the rule of a link speaks of the lexeme of its token, which has to be a variable for `cases`
    generalize hl : op.lexeme = lexeme at h
    cases h with
    | @link _ left right token _ _ _ first kind _ further =>
      refine ⟨ih first fun token hmem => hs token (by simp [hmem]), ?_,
        ih' further fun token hmem => hs token (by simp [hmem])⟩
      rw [Operator.Conventional, hl]
      exact (hs token (by simp)).operator kind

/-! ### Closing what is open -/

/-- Closing parentheses. Where they stand does not matter. -/
def closers (n : Nat) : List Token :=
  List.replicate n ⟨.rightParen, ")", .start unnamedSource⟩

theorem spelled_of_mem_closers {n : Nat} {token : Token} (h : token ∈ closers n) :
    token.Spelled := by
  obtain rfl := List.eq_of_mem_replicate h
  exact ⟨')', rfl, by decide, by decide⟩

theorem join_closers (n : Nat) :
    String.join ((closers n).map Token.lexeme) = String.ofList (List.replicate n ')') := by
  induction n with
  | zero => rfl
  | succ n ih =>
    rw [closers, List.replicate_succ, List.map_cons, String.join_cons, ← closers, ih,
      ← String.toList_inj]
    simp [List.replicate_succ]

/-- **What is had of an unfinished input**: nothing, or a tree of some of its tokens, the open
groups of which are closed. -/
def Salvaged {l : Level} (kept : List Token) : Option (Tree l) → Prop
  | none => kept = []
  | some t => kept ≠ [] ∧ Derives (kept ++ closers (openGroups kept)) t.phrase

/-- The tree that is had is written with the characters of its tokens and with the parentheses that
close it. -/
theorem Salvaged.toSource_eq {l : Level} {kept : List Token} {t : Tree l}
    (h : Salvaged kept (some t)) (hs : ∀ token ∈ kept, token.Spelled) :
    t.Conventional ∧ t.toSource = String.join (kept.map Token.lexeme) ++
      String.ofList (List.replicate (openGroups kept) ')') := by
  have hspelled : ∀ token ∈ kept ++ closers (openGroups kept), token.Spelled := by
    intro token hmem
    exact (List.mem_append.1 hmem).elim (hs token) spelled_of_mem_closers
  refine ⟨t.conventional_of_derives h.2 hspelled, ?_⟩
  calc t.toSource
    _ = t.phrase.source := by rw [t.toSource_eq_source, t.source_phrase]
    _ = String.join ((kept ++ closers (openGroups kept)).map Token.lexeme) :=
      h.2.source_eq hspelled
    _ = String.join (kept.map Token.lexeme) ++
        String.ofList (List.replicate (openGroups kept) ')') := by
      rw [List.map_append, String.join_append, join_closers]

end ArithExpr
