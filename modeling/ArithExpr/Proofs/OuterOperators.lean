import Mathlib.Data.List.Forall2
import ArithExpr.Proofs.DescentOutcome
import ArithExpr.Proofs.RoundTrip

/-!
# Operators outside of groups

Precedence can be seen without a parser. If the tokens of a chain are cut at the operators of its
class that are in no group, the pieces are its operands, and what they were cut at are its
operators (`cutAlong_of_parse_ok`). No operator that binds looser is there to be cut at: it would
have to be in a group.

* `Precedence.outerOperators` — the operators of a class in front of which no group is open.
* `Precedence.cut` — cuts tokens at the operators of a class that are in no group;
  `Precedence.map_fst_cut` — it is cut at these and at nothing else; `Precedence.join_cut` — nothing
  is lost by it.
* `Precedence.Uncut` — the tokens stay in one piece, whatever comes behind them.
* `Grammar.Derives.uncut` — a phrase stays in one piece in a group, and where only looser operators
  are cut at.
* `Tree.cut_of_derives` — the tokens of a chain are cut into those of its operands.
-/

namespace ArithExpr

open Grammar

/-! ### Cutting -/

namespace Precedence

/-- Cuts tokens at the operators of a class that are in no group, where so many groups are open in
front of them: the tokens up to the first such operator, and each of these operators with the tokens
behind it. -/
def cut (p : Precedence) : (depth : Nat) → List Token → List Token × List (Token × List Token)
  | _, [] => ([], [])
  | depth, token :: tokens =>
    let (segment, further) := p.cut (nesting depth token) tokens
    if depth = 0 ∧ token.kind.precedence? = some p then ([], (token, segment) :: further)
    else (token :: segment, further)

/-- The operators of a class in front of which no group is open, in order, where so many are open in
front of all tokens. -/
def outerFrom (p : Precedence) (depth : Nat) (tokens : List Token) : List Token :=
  ((tokens.zip (tokens.scanl nesting depth)).filter fun entry =>
    entry.2 = 0 ∧ entry.1.kind.precedence? = some p).map Prod.fst

/-- The operators of a class that are in no group, in order. -/
def outerOperators (p : Precedence) (tokens : List Token) : List Token :=
  p.outerFrom 0 tokens

/-- What is in front of, between and behind the operators of a class that are in no group. -/
def segments (p : Precedence) (tokens : List Token) : List (List Token) :=
  (p.cut 0 tokens).1 :: (p.cut 0 tokens).2.map Prod.snd

variable {p : Precedence} {depth : Nat} {token : Token} {tokens tokens' : List Token}

theorem cut_inner (h : depth ≠ 0 ∨ token.kind.precedence? ≠ some p) :
    p.cut depth (token :: tokens) =
      (token :: (p.cut (nesting depth token) tokens).1, (p.cut (nesting depth token) tokens).2) := by
  rw [cut]
  dsimp only
  rw [if_neg]
  rintro ⟨hdepth, hp⟩
  exact h.elim (absurd hdepth) (absurd hp)

theorem cut_outer {symbol : OperatorSymbol} (hk : token.kind = .operator symbol)
    (hp : symbol.precedence = p) :
    p.cut 0 (token :: tokens) =
      ([], (token, (p.cut 0 tokens).1) :: (p.cut 0 tokens).2) := by
  have hnesting : nesting 0 token = 0 := by rw [nesting, hk]
  rw [cut, hnesting]
  dsimp only
  rw [if_pos]
  exact ⟨rfl, by rw [hk, TokenKind.precedence?, TokenKind.symbol?, Option.map_some, hp]⟩

/-- **It is cut at the operators outside of groups**, and at nothing else. -/
theorem map_fst_cut (p : Precedence) (depth : Nat) (tokens : List Token) :
    (p.cut depth tokens).2.map Prod.fst = p.outerFrom depth tokens := by
  -- by induction on the tokens, with the depth in front of each
  induction tokens generalizing depth with
  | nil => rfl
  | cons token tokens ih =>
    rw [cut, outerFrom, List.scanl_cons, List.zip_cons_cons]
    dsimp only
    split
    · next houter =>
      rw [List.filter_cons_of_pos (by simpa using houter), List.map_cons, List.map_cons, ih]
      rfl
    · next hinner =>
      rw [List.filter_cons_of_neg (by simpa using hinner), ih]
      rfl

/-- **Nothing is lost** by cutting. -/
theorem join_cut (p : Precedence) (depth : Nat) (tokens : List Token) :
    (p.cut depth tokens).1 ++ (p.cut depth tokens).2.flatMap (fun piece => piece.1 :: piece.2) =
      tokens := by
  -- each token begins a piece, or is put in front of the first one
  induction tokens generalizing depth with
  | nil => rfl
  | cons token tokens ih =>
    rw [cut]
    dsimp only
    split <;> simp [ih]

/-- The tokens stay in one piece, whatever comes behind them. -/
def Uncut (p : Precedence) (depth : Nat) (tokens : List Token) : Prop :=
  ∀ more, p.cut depth (tokens ++ more) =
    (tokens ++ (p.cut depth more).1, (p.cut depth more).2)

theorem uncut_nil : p.Uncut depth [] :=
  fun _ => rfl

theorem Uncut.append (h : p.Uncut depth tokens) (h' : p.Uncut depth tokens') :
    p.Uncut depth (tokens ++ tokens') := by
  intro more
  rw [List.append_assoc, h, h', List.append_assoc]

/-- A token that opens or closes no group stays, unless it is cut at. -/
theorem Uncut.cons (hnesting : nesting depth token = depth)
    (htoken : depth ≠ 0 ∨ token.kind.precedence? ≠ some p) (h : p.Uncut depth tokens) :
    p.Uncut depth (token :: tokens) := by
  intro more
  rw [List.cons_append, cut_inner htoken, hnesting, h]
  rfl

theorem Uncut.cut_eq (h : p.Uncut depth tokens) : p.cut depth tokens = (tokens, []) := by
  have hnothing := h []
  rwa [List.append_nil, cut, List.append_nil] at hnothing

end Precedence

namespace Grammar

theorem Literal.uncut {text : String} {tokens : List Token} (h : Literal tokens text)
    (p : Precedence) (depth : Nat) : p.Uncut depth tokens := by
  -- the tokens of a literal are neither parentheses nor operators
  have hcons : ∀ {token : Token} {tokens : List Token},
      token.kind = .digits ∨ token.kind = .dot → p.Uncut depth tokens →
        p.Uncut depth (token :: tokens) := by
    intro token tokens hk
    refine .cons ?_ (.inr ?_) <;> rcases hk with hk | hk <;>
      simp [nesting, TokenKind.precedence?, TokenKind.symbol?, hk]
  cases h with
  | whole kind => exact hcons (.inl kind) Precedence.uncut_nil
  | fraction kind pointKind fractionalKind =>
    exact hcons (.inl kind) (hcons (.inr pointKind) (hcons (.inl fractionalKind)
      Precedence.uncut_nil))

/-- **A phrase stays in one piece** in a group, and also outside of groups where operators are cut
at that bind looser than all of its own. -/
theorem Derives.uncut {l : Level} {tokens : List Token} {phrase : Phrase l}
    (h : Derives tokens phrase) {p : Precedence} {depth : Nat}
    (houter : depth ≠ 0 ∨ l.height < (Level.chain p).height) : p.Uncut depth tokens := by
  -- by induction on the derivation, for every depth; what is in a group is at a depth that is not
  -- zero
  induction h generalizing depth with
  | number literal => exact literal.uncut p depth
  | @group opening closing content inner openingKind _ closingKind ih =>
    intro more
    have hopening : nesting depth opening = depth + 1 := by rw [nesting, openingKind]
    have hclosing : nesting (depth + 1) closing = depth := by
      rw [nesting, closingKind]
      exact Nat.add_sub_cancel depth 1
    have hparen : opening.kind.precedence? ≠ some p := by
      simp [openingKind, TokenKind.precedence?, TokenKind.symbol?]
    -- the content is in a group, whatever is around the parentheses
    have hcontent := ih (.inl (Nat.succ_ne_zero depth)) (closing :: more)
    rw [Precedence.cut_inner (.inl (Nat.succ_ne_zero depth)), hclosing] at hcontent
    rw [List.append_assoc, List.singleton_append, List.cons_append,
      Precedence.cut_inner (.inr hparen), hopening, hcontent]
    simp
  | @single q _ _ _ ih =>
    -- an operand binds tighter than its chain
    refine ih (houter.imp_right fun hlt => ?_)
    rw [Level.height_operand] at hlt
    omega
  | @link q left right token symbol _ _ _ kind belongs _ ih ih' =>
    have hoperand : depth ≠ 0 ∨ q.operand.height < (Level.chain p).height := by
      rw [Level.height_operand] at houter
      omega
    -- the operator is of the class of its chain, and that is not the one that is cut at
    have htoken : depth ≠ 0 ∨ token.kind.precedence? ≠ some p := by
      refine houter.imp_right fun hlt hp => ?_
      rw [kind, TokenKind.precedence?, TokenKind.symbol?, Option.map_some, belongs] at hp
      obtain rfl := Option.some.inj hp
      exact Nat.lt_irrefl _ hlt
    exact (ih hoperand).append (.cons (by rw [nesting, kind]) htoken (ih' houter))

end Grammar

/-! ### Chains -/

/-- What a chain is cut at, and the tokens behind it, are those of a link of the chain. -/
def Tree.Link {p : Precedence} (piece : Token × List Token) (link : Operator p × Tree p.operand) :
    Prop :=
  piece.1.kind = .operator link.1.symbol ∧ piece.1.lexeme = link.1.lexeme ∧
    Derives piece.2 link.2.phrase

/-- **The tokens of a chain are cut into those of its operands**, at its operators. -/
theorem Tree.cut_of_derives {p : Precedence} (c : Tree (.chain p)) {tokens : List Token}
    (h : Derives tokens c.phrase) :
    Derives (p.cut 0 tokens).1 c.first.phrase ∧
      List.Forall₂ Tree.Link (p.cut 0 tokens).2 c.links := by
  match c with
  | .single operand _ =>
    cases h with
    | single only =>
      -- an operand is of a lower level, so there is nothing in it to be cut at
      have huncut : p.Uncut 0 tokens := only.uncut (.inr (by rw [Level.height_operand]; omega))
      rw [huncut.cut_eq, links]
      exact ⟨only, .nil⟩
  | .link operand op rest _ =>
    unfold phrase at h
    -- the rule of a link speaks of the lexeme of its token, which has to be a variable for `cases`
    generalize hl : op.lexeme = lexeme at h
    cases h with
    | @link _ left right token _ _ _ first kind _ further =>
      -- the first operand is in one piece, and behind it there is a cut
      have huncut : p.Uncut 0 left := first.uncut (.inr (by rw [Level.height_operand]; omega))
      obtain ⟨hfirst, hlinks⟩ := rest.cut_of_derives further
      rw [huncut, Precedence.cut_outer kind op.belongs, List.append_nil, links]
      exact ⟨first, .cons ⟨kind, hl.symm, hfirst⟩ hlinks⟩

/-- The operators of a chain are those that stand in front of its operands. -/
theorem Tree.filterMap_chain {p : Precedence} (c : Tree (.chain p)) :
    c.chain.filterMap Prod.fst = c.operators := by
  rw [chain, operators, List.filterMap_cons_none rfl, List.filterMap_map]
  exact congrFun List.filterMap_eq_map' c.links

/-- The kind and the characters of the token that an operator is written as. -/
def Operator.spelling {p : Precedence} (op : Operator p) : TokenKind × String :=
  (.operator op.symbol, op.lexeme)

theorem map_eq_map_of_forall₂ {α β γ : Type} {f : α → γ} {g : β → γ} {xs : List α} {ys : List β}
    (h : List.Forall₂ (fun x y => f x = g y) xs ys) : xs.map f = ys.map g := by
  rw [← List.forall₂_eq_eq_eq, List.forall₂_map_left_iff, List.forall₂_map_right_iff]
  exact h

/-- **The tokens are cut along the chain.** Those of its class that are in no group are its
operators, and the pieces between them are its operands. None that binds looser is outside of
groups. -/
structure Tree.CutAlong {p : Precedence} (c : Tree (.chain p)) (tokens : List Token) : Prop where
  operators : (p.outerOperators tokens).map Token.spelling =
    (c.chain.filterMap Prod.fst).map Operator.spelling
  operands : (p.segments tokens).map (fun segment => String.join (segment.map Token.lexeme)) =
    c.operands.map Tree.toSource
  looser : ∀ q : Precedence, (Level.chain p).height < (Level.chain q).height →
    q.outerOperators tokens = []

theorem Tree.toSource_of_derives {l : Level} {t : Tree l} {tokens : List Token}
    (h : Derives tokens t.phrase) (hs : ∀ token ∈ tokens, token.Spelled) :
    String.join (tokens.map Token.lexeme) = t.toSource := by
  rw [t.toSource_eq_source, ← t.source_phrase, h.source_eq hs]

/-- The tokens of a chain are cut along it. -/
theorem Tree.cutAlong_of_derives {p : Precedence} {c : Tree (.chain p)} {tokens : List Token}
    (h : Derives tokens c.phrase) (hs : ∀ token ∈ tokens, token.Spelled) : c.CutAlong tokens := by
  obtain ⟨hfirst, hlinks⟩ := c.cut_of_derives h
  have hjoin := p.join_cut 0 tokens
  -- each piece has some of the tokens, which are spelled as their kinds say
  have hspelled : (∀ token ∈ (p.cut 0 tokens).1, token.Spelled) ∧
      ∀ piece ∈ (p.cut 0 tokens).2, ∀ token ∈ piece.2, token.Spelled := by
    refine ⟨fun token hmem => hs token ?_, fun piece hpiece token hmem => hs token ?_⟩
    · rw [← hjoin]
      exact List.mem_append_left _ hmem
    · rw [← hjoin]
      exact List.mem_append_right _
        (List.mem_flatMap.2 ⟨piece, hpiece, List.mem_cons_of_mem _ hmem⟩)
  constructor
  · -- the operators are what is cut at
    rw [c.filterMap_chain, Tree.operators, Precedence.outerOperators, ← p.map_fst_cut,
      List.map_map, List.map_map]
    refine map_eq_map_of_forall₂ (hlinks.imp fun piece link hlink => ?_)
    exact Prod.ext hlink.1 hlink.2.1
  · -- each piece has the characters of its operand
    have hpieces := (List.forall₂_and_left _ _).2 ⟨hspelled.2, hlinks⟩
    rw [Precedence.segments, Tree.operands, List.map_cons, List.map_cons, List.map_map,
      List.map_map, Tree.toSource_of_derives hfirst hspelled.1]
    refine congrArg _ (map_eq_map_of_forall₂ (hpieces.imp fun piece link hlink => ?_))
    exact Tree.toSource_of_derives hlink.2.2.2 hlink.1
  · -- an operator that binds looser would have to be in a group
    intro q hlooser
    rw [Precedence.outerOperators, ← q.map_fst_cut, (h.uncut (.inr hlooser)).cut_eq]
    rfl

/-! ### Trees that were read -/

/-- The tokens of what is written for a tree are derived from its phrase. -/
theorem Tree.derives_toSource {l : Level} {t : Tree l} (ht : t.Conventional) (filename : String) :
    Derives (significantTokens t.toSource filename) t.phrase := by
  obtain ⟨tokens, final, hfaces, hderives⟩ := t.faces_source ht filename
  rw [t.toSource_eq_source, ← (Parser.faces_ofString t.source filename).tokensAhead,
    hfaces.tokensAhead]
  exact hderives

/-- **Precedence is depth.** In a tree that was read, what is written for a chain is cut along the
chain at the operators of its class that are in no group, and none that binds looser is outside of
groups. -/
theorem cutAlong_of_parse_ok {text filename : String} {t : Expression}
    (h : parse text filename = .ok t) {p : Precedence} {c : Tree (.chain p)}
    (hc : (Node.tree t).Beneath (.tree c)) (name : String) :
    c.CutAlong (significantTokens c.toSource name) := by
  have hcovers : (Node.tree t).Covers (significantTokens text filename) :=
    .tree (located_of_parse_ok h)
  have hspelled : ∀ {text filename : String}, ∀ token ∈ significantTokens text filename,
      token.Spelled := fun token hmem => ((Parser.faces_ofString _ _).spec token hmem).2
  obtain ⟨part, hpart, hwithin⟩ := hcovers.beneath hc
  cases hpart with
  | tree located =>
    -- its operators were read, so what is written for it has the same tokens again
    have hconventional : c.Conventional := c.conventional_of_derives located.derives
      fun token hmem => hspelled token (hwithin.subset hmem)
    exact Tree.cutAlong_of_derives (c.derives_toSource hconventional name) hspelled

/-- A factor is cut at its operator only: the sum in it is in a group. -/
theorem cutAlong_of_parse_ok_group : ∃ (t : Expression) (c : Factor),
    parse " 2 * (3 + 4)" "input" = .ok t ∧ (Node.tree t).Beneath (.tree c) ∧
      c.CutAlong (significantTokens c.toSource "other") := by
  -- the sum has one child, its only factor
  have hread : (parse " 2 * (3 + 4)" "input").toOption.map
      (fun t => (Node.tree t).children.length) = some 1 := by decide +kernel
  cases hparse : parse " 2 * (3 + 4)" "input" with
  | error => simp [hparse, Except.toOption] at hread
  | ok t =>
    rw [hparse] at hread
    cases t with
    | link => simp [Except.toOption, Node.children, Node.childrenOfTree] at hread
    | single factor span =>
      have hchild : (Node.tree (.single factor span)).Beneath (.tree factor) :=
        Relation.ReflTransGen.single List.mem_cons_self
      exact ⟨_, factor, rfl, hchild, cutAlong_of_parse_ok hparse hchild "other"⟩

example : (Precedence.multiplicative.segments (significantTokens "2*(3+4)" "input")).map
    (fun segment => String.join (segment.map Token.lexeme)) = ["2", "(3+4)"] ∧
      Precedence.additive.outerOperators (significantTokens "2*(3+4)" "input") = [] := by
  decide +kernel

end ArithExpr
