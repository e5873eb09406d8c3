import Mathlib.Data.List.Forall2
import ArithExpr.Proofs.FullReading
import ArithExpr.Proofs.Layout
import ArithExpr.Proofs.Phases
import ArithExpr.Tree.Chain

/-!
# Texts that are put together

What a text is read as does not depend on what it is put into, as long as it is kept apart from its
surroundings by an operator or by parentheses. Two chains of a level with an operator of the level
between them are read as one chain, which has the links of both. An expression in parentheses is
read as a term that holds the expression.

No run of characters goes past an operator or a parenthesis, so the tokens of the parts are the
tokens of the whole, but for their places. The grammar does not look at places.

* `Laid.moved`, `Grammar.Derives.of_spellings` — the same text at another place has the same tokens
  but for their places, and the same phrases are derived into them.
* `Laid.single` — texts around a character that stands alone.
* `Tree.join` — the chain of two chains and an operator between them; `Tree.chain_join`.
* `readFrom_composed` — reading is compositional.
-/

namespace ArithExpr

open Grammar

/-! ### The same tokens elsewhere -/

/-- **At another place** a text is laid out as the same tokens. -/
theorem Laid.moved {place : Location} {cs : List Char} {tokens : List Token}
    (h : Laid place cs tokens) (place' : Location) :
    ∃ tokens', Laid place' cs tokens' ∧
      tokens'.map Token.spelling = tokens.map Token.spelling := by
  induction h generalizing place' with
  | nothing => exact ⟨[], .nothing place', rfl⟩
  -- what follows begins elsewhere, but what a scan takes depends on the characters only
  | @space _ cs _ _ takes _ ih =>
    obtain ⟨tokens', hlaid, hsame⟩ := ih (place'.advanceOver cs)
    exact ⟨tokens', .space takes hlaid, hsame⟩
  | @token _ cs _ kind _ takes visible _ ih =>
    obtain ⟨tokens', hlaid, hsame⟩ := ih (place'.advanceOver cs)
    exact ⟨_, .token takes visible hlaid, by rw [List.map_cons, List.map_cons, hsame]; rfl⟩

/-- **Places do not matter**: a phrase is derived into tokens by their kinds and characters. -/
theorem Grammar.Derives.of_spellings {l : Level} {tokens tokens' : List Token} {phrase : Phrase l}
    (h : Derives tokens phrase)
    (hsame : tokens'.map Token.spelling = tokens.map Token.spelling) : Derives tokens' phrase := by
  -- kinds and lexemes are compared apart, since the rules only ask for kinds
  have hkinds := congrArg (List.map Prod.fst) hsame
  have hlexemes := congrArg (List.map Prod.snd) hsame
  rw [List.map_map, List.map_map] at hkinds hlexemes
  obtain ⟨phrase', hderives, hphrase⟩ := h.of_kinds hkinds
  rwa [hphrase hlexemes] at hderives

/-- What is derived into the tokens of a text is derived into those of the text at any place. -/
theorem exists_laid_of_derives {l : Level} {phrase : Phrase l} {text filename : String}
    (h : Derives (significantTokens text filename) phrase) (place : Location) :
    ∃ tokens, Laid place text.toList tokens ∧ Derives tokens phrase := by
  obtain ⟨tokens, hlaid, hsame⟩ := (laid_text text filename).moved place
  exact ⟨tokens, hlaid, h.of_spellings hsame⟩

/-! ### Characters between texts -/

/-- **Around a character that stands alone** texts are laid out as they are on their own. -/
theorem Laid.single {place : Location} {cs ds : List Char} {tokens more : List Token} {c : Char}
    (h : Laid place cs tokens) (alone : CharClass.of? c = none)
    (behind : Laid ((place.advanceOver cs).advanceOver [c]) ds more) :
    Laid place (cs ++ c :: ds)
      (tokens ++ ⟨.ofChar c, String.ofList [c], place.advanceOver cs⟩ :: more) := by
  -- no kind of such a character is white space, so it is kept as a token
  have hvisible : TokenKind.ofChar c ≠ .whitespace := by
    rcases TokenKind.ofChar_cases c with hk | hk | hk | hk | ⟨s, hk⟩ <;> simp [hk]
  refine h.append (Laid.token (Takes.single alone) hvisible behind) ?_
  -- the character is of no class, so it carries no run on
  intro cls _ _ _ d hd
  obtain rfl : c = d := Option.some.inj hd
  by_contra hcls
  rw [Bool.not_eq_false] at hcls
  simp [CharClass.of?_contains hcls] at alone

/-! ### Chains one behind the other -/

/-- The operator of a symbol, written as usual. -/
def Operator.ofSymbol {p : Precedence} (symbol : OperatorSymbol) (belongs : symbol.precedence = p) :
    Operator p :=
  ⟨symbol, String.singleton symbol.char, none, belongs⟩

namespace Tree

variable {p : Precedence}

/-- The chain of two chains with an operator between them. -/
def join : Tree (.chain p) → Operator p → Tree (.chain p) → Tree (.chain p)
  | single operand _, op, u => cons operand op u
  | link operand op' rest _, op, u => cons operand op' (rest.join op u)

theorem first_join (t u : Tree (.chain p)) (op : Operator p) : (t.join op u).first = t.first := by
  cases t <;> rw [join] <;> rfl

theorem links_join : (t u : Tree (.chain p)) → (op : Operator p) →
    (t.join op u).links = t.links ++ (op, u.first) :: u.links
  | single .., _, _ => by rw [join, cons, links, links, List.nil_append]
  | link _ _ rest _, u, op => by
    rw [join, cons, links, links, first_join, links_join rest u op, List.cons_append]

/-- **The links of a joined chain** are those of the two chains. -/
theorem chain_join (t u : Tree (.chain p)) (op : Operator p) :
    (t.join op u).chain = t.chain ++ (some op, u.first) :: u.chain.tail := by
  simp [chain, first_join, links_join]

/-- **Joined chains are derived** into the tokens of the two and that of the operator. -/
theorem derives_join : (t : Tree (.chain p)) → {u : Tree (.chain p)} → {op : Operator p} →
    {left right : List Token} → {token : Token} → Derives left t.phrase →
    token.kind = .operator op.symbol → token.lexeme = op.lexeme → Derives right u.phrase →
    Derives (left ++ token :: right) (t.join op u).phrase
  | single .., u, op, _, _, token, h, kind, lexeme, hu => by
    cases h with
    | single only =>
      -- the one operand and the operator begin the chain, and the other chain is its rest
      rw [join, cons, phrase, ← lexeme]
      exact .link only kind op.belongs hu
  | link operand op' rest _, u, op, _, _, token, h, kind, lexeme, hu => by
    -- the rule of links has the lexeme of a token in place of that of the operator
    unfold phrase at h
    generalize hl : op'.lexeme = lexeme' at h
    cases h with
    | link first kind' belongs further =>
      rw [join, cons, phrase, hl, List.append_assoc, List.cons_append]
      -- the operator is further inside, behind the rest
      exact .link first kind' belongs (rest.derives_join further kind lexeme hu)

/-- Two links of chains are the same but for their spans. -/
structure SameLink (a b : Option (Operator p) × Tree p.operand) : Prop where
  operator : Option.Rel (fun op op' => op.same op' = true) a.1 b.1
  operand : a.2.same b.2 = true

theorem forall₂_links_of_same : {t u : Tree (.chain p)} → t.same u = true →
    t.first.same u.first = true ∧
      List.Forall₂ (fun a b => a.1.same b.1 = true ∧ a.2.same b.2 = true) t.links u.links
  | single .., single .., h => by simpa [same, first, links] using h
  | link _ op rest _, link _ op' rest' _, h => by
    simp only [same, Bool.and_eq_true] at h
    obtain ⟨⟨⟨-, hfirst⟩, hop⟩, hrest⟩ := h
    obtain ⟨hnext, hlinks⟩ := forall₂_links_of_same hrest
    rw [links, links]
    exact ⟨hfirst, .cons ⟨hop, hnext⟩ hlinks⟩
  | single .., link .., h => by simp [same] at h
  | link .., single .., h => by simp [same] at h

/-- **Chains that are the same have the same links.** -/
theorem forall₂_chain_of_same {t u : Tree (.chain p)} (h : t.same u = true) :
    List.Forall₂ SameLink t.chain u.chain := by
  obtain ⟨hfirst, hlinks⟩ := forall₂_links_of_same h
  refine .cons ⟨.none, hfirst⟩ ?_
  -- behind the first operand, links are the entries of the chain
  rw [List.forall₂_map_left_iff, List.forall₂_map_right_iff]
  exact hlinks.imp fun _ _ hlink => ⟨.some hlink.1, hlink.2⟩

/-- **Two texts with an operator between them** are read as the joined chain. -/
theorem ReadFrom.join {t u : Tree (.chain p)} {x y f g : String} (ht : t.ReadFrom x f)
    (hu : u.ReadFrom y g) {symbol : OperatorSymbol} (belongs : symbol.precedence = p)
    (filename : String) :
    ∃ v : Tree (.chain p), v.ReadFrom (x ++ String.singleton symbol.char ++ y) filename ∧
      v.same (t.join (.ofSymbol symbol belongs) u) = true := by
  -- the second text begins behind the first one and the operator, wherever it was read on its own
  obtain ⟨left, hleft, hderives⟩ := exists_laid_of_derives ht.located.derives (.start filename)
  obtain ⟨right, hright, hderives'⟩ := exists_laid_of_derives hu.located.derives
    (((Location.start filename).advanceOver x.toList).advanceOver [symbol.char])
  have htokens := (hleft.single (CharClass.of?_char symbol) hright).significantTokens_eq
  -- the characters laid out are those of the three texts
  have htext : String.ofList (x.toList ++ symbol.char :: y.toList) =
      x ++ String.singleton symbol.char ++ y := by
    rw [← String.toList_inj]
    simp
  rw [exists_readFrom_iff, ← htext, htokens]
  exact t.derives_join hderives (TokenKind.ofChar_char symbol) rfl hderives'

/-- **A text in parentheses** is read as a term that holds what the text is read as. -/
theorem ReadFrom.group {t : Expression} {x f : String} (ht : t.ReadFrom x f) (filename : String) :
    ∃ (inner : Expression) (span : Option Span),
      (Tree.group inner span).ReadFrom ("(" ++ x ++ ")") filename ∧ inner.same t = true := by
  obtain ⟨content, hcontent, hderives⟩ := exists_laid_of_derives ht.located.derives
    ((Location.start filename).advanceOver ['('])
  -- from the inside out: first what closes the group, then what opens it
  have hclosed := hcontent.single (c := ')') (by decide) (.nothing _)
  have hlaid := (Laid.nothing (.start filename)).single (c := '(') (by decide) hclosed
  have htokens := hlaid.significantTokens_eq
  have htext : String.ofList ([] ++ '(' :: (x.toList ++ ')' :: [])) = "(" ++ x ++ ")" := by
    rw [← String.toList_inj]
    simp
  have hgroup : Derives (significantTokens ("(" ++ x ++ ")") filename)
      (Tree.group t none).phrase := by
    rw [← htext, htokens]
    exact .group (show TokenKind.ofChar '(' = _ by decide) hderives
      (show TokenKind.ofChar ')' = _ by decide)
  -- what is read has the phrase of a group, so it is one
  obtain ⟨u, hread, hsame⟩ := exists_readFrom_iff.2 hgroup
  cases u with
  | number => simp [same] at hsame
  | group inner span => exact ⟨inner, span, hread, hsame⟩

end Tree

/-! ### Reading is compositional -/

/-- **Reading is compositional.** If two texts are read to their ends as chains of a level, they are
so with any operator of the level between them, and the chain has the links of both, but for their
spans; the operator joins them. If a text is read to its end as an expression, it is so in
parentheses as a term, which holds the expression. -/
theorem readFrom_composed :
    (∀ {p : Precedence} {t u : Tree (.chain p)} {x y f g : String} {symbol : OperatorSymbol}
      (belongs : symbol.precedence = p), t.ReadFrom x f → u.ReadFrom y g → ∀ filename : String,
        ∃ v : Tree (.chain p), v.ReadFrom (x ++ String.singleton symbol.char ++ y) filename ∧
          List.Forall₂ Tree.SameLink v.chain
            (t.chain ++ (some (.ofSymbol symbol belongs), u.first) :: u.chain.tail)) ∧
    (∀ {t : Expression} {x f : String}, t.ReadFrom x f → ∀ filename : String,
      ∃ (inner : Expression) (span : Option Span),
        (Tree.group inner span).ReadFrom ("(" ++ x ++ ")") filename ∧ inner.same t = true) := by
  -- for chains, the joined chain is what is read, and its entries are those of the two
  refine ⟨fun belongs ht hu filename => ?_, fun ht => ht.group⟩
  obtain ⟨v, hread, hsame⟩ := ht.join hu belongs filename
  refine ⟨v, hread, ?_⟩
  rw [← Tree.chain_join]
  exact Tree.forall₂_chain_of_same hsame

/-- A product and a factor of one operand, with a sign of multiplication between them. -/
theorem readFrom_composed_product : ∃ t u : Factor,
    t.ReadFrom "2 *(3)" "input" ∧ u.ReadFrom "4" "input" ∧
      ∃ v : Factor, v.ReadFrom ("2 *(3)" ++ String.singleton '*' ++ "4") "input" ∧
        List.Forall₂ Tree.SameLink v.chain
          (t.chain ++ (some (.ofSymbol .multiply rfl), u.first) :: u.chain.tail) := by
  -- both parts are read by running the parser
  have hproduct : ∃ t : Factor, t.ReadFrom "2 *(3)" "input" := by decide +kernel
  have hone : ∃ t : Factor, t.ReadFrom "4" "input" := by decide +kernel
  obtain ⟨t, ht⟩ := hproduct
  obtain ⟨u, hu⟩ := hone
  have hbelongs : OperatorSymbol.multiply.precedence = .multiplicative := rfl
  exact ⟨t, u, ht, hu, readFrom_composed.1 hbelongs ht hu "input"⟩

end ArithExpr
