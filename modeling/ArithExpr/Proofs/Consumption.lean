import ArithExpr.Proofs.DescentOutcome
import ArithExpr.Proofs.Reachable

/-!
# What a routine takes

A routine takes tokens off the front of those ahead, and it looks at one more. What it returns is
written with just the tokens it took. If it fails, the token that is blamed is still ahead, and only
a literal that has no value is taken before it is blamed. `Parser.Consumes` says this of the tokens
ahead, so neither white space nor the slot matters. It holds of every routine, in every state that a
parser can get into (`Parser.tokensAhead_of_read`).
-/

namespace ArithExpr

open Grammar

namespace Parser

/-- **What a routine takes of the tokens ahead**, and what it leaves. -/
inductive Consumes (tokens : List Token) (final : Token) : Except Fault Node × Parser → Prop where
  | node {taken rest : List Token} {node : Node} {after : Parser} (split : tokens = taken ++ rest)
      (covers : node.Covers taken) (faces : after.Faces rest final) :
      Consumes tokens final (.ok node, after)
  | blamed {taken rest : List Token} {fault : Fault} {after : Parser}
      (split : tokens = taken ++ rest) (blames : fault.Blames (rest.headD final))
      (faces : after.Faces rest final) : Consumes tokens final (.error fault, after)
  | literal {before literal rest : List Token} {first : Token} {text : String}
      {reason : ConversionFault} {after : Parser} (split : tokens = before ++ literal ++ rest)
      (written : Literal literal text) (head : literal.head? = some first)
      (faces : after.Faces rest final) :
      Consumes tokens final (.error (.numberConversion text reason (some first.location)), after)

variable {parser : Parser} {tokens : List Token} {final : Token}

/-! ### Trees -/

theorem consumes_refused {level : Level} {taken rest : List Token} {fault : Fault} {after : Parser}
    (split : tokens = taken ++ rest) (refused : Refused level (rest.headD final) taken fault)
    (faces : after.Faces rest final) : Consumes tokens final (.error fault, after) := by
  -- only the fault of a literal is not blamed on the token that is next
  by_cases hcls : fault.cls = .numberConversion
  · cases refused with
    | operand | fraction => exact absurd hcls (Fault.blames_unexpected _ _).cls_ne
    | group => exact absurd hcls (Fault.blames_missingRightParen _ _).cls_ne
    | literal awaits written head whole tooLong => exact .literal split written head faces
  · exact .blamed split (refused.blames hcls) faces

theorem consumes_parseTree (level : Level) (h : parser.Faces tokens final) :
    Consumes tokens final (withoutBuilt (parser.read (.tree level))) := by
  have houtcome := outcome_parseTree level h
  rw [read]
  generalize parser.parseTree level = result at houtcome
  obtain ⟨error | t, after⟩ := result
  · cases houtcome with
    | refused split refused faces => exact consumes_refused split refused faces
  · cases houtcome with
    | read split located _ faces => exact .node split (.tree located) faces

theorem consumes_parse (h : parser.Faces tokens final) :
    Consumes tokens final (withoutBuilt (parser.read .whole)) := by
  -- a whole input is refused like a tree, or by a token behind one
  have houtcome := outcome_parse h
  rw [read]
  generalize parser.parse = result at houtcome
  obtain ⟨⟨fault, built⟩ | t, after⟩ := result
  · cases houtcome with
    | refused split refused faces => exact consumes_refused split refused faces
    | behind split _ _ faces => exact .blamed split (Fault.blames_unexpected _ _) faces
  · cases houtcome with
    | read located faces => exact .node (List.append_nil tokens).symm (.tree located) faces

/-! ### Numbers and operators -/

theorem consumes_parseNumber (h : parser.Faces tokens final) :
    Consumes tokens final (withoutBuilt (parser.read .number)) := by
  rw [read]
  by_cases hk : (tokens.headD final).kind = .digits
  · -- digits are no end, so they are the first of the tokens ahead
    cases tokens with
    | nil => rw [List.headD_nil, h.kind_final] at hk; simp at hk
    | cons digits tokens =>
      have hread := numberRead_parseNumber h hk
      generalize parser.parseNumber = result at hread
      cases hread with
      | number split written head getLast span _ faces =>
        exact .node split (.number written (by rw [span, Token.spanOf?, head, getLast])) faces
      | @noFraction integral point rest after split _ _ _ faces =>
        have hsplit : digits :: tokens = [integral, point] ++ rest := split
        exact .blamed hsplit (Fault.blames_unexpected _ _) faces
      -- a literal without a value is taken to its end, and there is nothing else before it
      | noValue split written head _ _ faces =>
        exact .literal (by rw [List.nil_append]; exact split) written head faces
  · -- without digits nothing is taken, be it the end or another token that is met
    have hnothing : tokens = [] ++ tokens := (List.nil_append tokens).symm
    unfold parseNumber
    dsimp only
    rw [h.peek_fst, if_neg hk]
    split <;> exact .blamed hnothing (Fault.blames_unexpected _ _) h.peek

/-- **An operator is taken, or nothing is.** -/
theorem parseOperator_cases (p : Precedence) (h : parser.Faces tokens final) :
    (∃ token rest op after, tokens = token :: rest ∧ parser.parseOperator p = (.ok op, after) ∧
      (Node.operator op).Covers [token] ∧ after.Faces rest final) ∨
    ∃ after, parser.parseOperator p =
      (.error (.unexpected (.operator p) (tokens.headD final)), after) ∧
        after.Faces tokens final := by
  unfold parseOperator
  dsimp only
  rw [h.peek_fst]
  cases hop : Operator.ofToken? p (tokens.headD final) with
  -- the token was only looked at
  | none => exact .inr ⟨_, rfl, h.peek⟩
  | some op =>
    cases tokens with
    -- the end is no operator
    | nil => simp [Operator.ofToken?, TokenKind.symbol?, h.kind_final] at hop
    | cons token rest =>
      obtain ⟨-, hlexeme⟩ := Operator.of_ofToken? hop (h.spec token (by simp)).2
      exact .inl ⟨token, rest, op, _, rfl, rfl, .operator hlexeme (Operator.span_ofToken? hop),
        h.peek.take⟩

theorem consumes_parseOperator (p : Precedence) (h : parser.Faces tokens final) :
    Consumes tokens final (withoutBuilt (parser.read (.operator p))) := by
  rw [read]
  rcases parseOperator_cases p h with
    ⟨token, rest, op, after, rfl, hread, hcovers, hfaces⟩ | ⟨after, hread, hfaces⟩
  · rw [hread]
    have hsplit : token :: rest = [token] ++ rest := rfl
    exact .node hsplit hcovers hfaces
  · rw [hread]
    exact .blamed (List.nil_append _).symm (Fault.blames_unexpected _ _) hfaces

/-! ### Routines -/

/-- **What every routine takes.** -/
theorem consumes_read (routine : Routine) (h : parser.Faces tokens final) :
    Consumes tokens final (withoutBuilt (parser.read routine)) := by
  cases routine with
  | whole => exact consumes_parse h
  | tree level => exact consumes_parseTree level h
  | number => exact consumes_parseNumber h
  | operator p => exact consumes_parseOperator p h

/-- A routine that misses an operator leaves the tokens ahead as they are. -/
theorem tokensAhead_of_read_operator {p : Precedence} {error : ParseError Node} {after : Parser}
    (h : parser.Faces tokens final) (hread : parser.read (.operator p) = (.error error, after)) :
    after.tokensAhead = tokens := by
  rw [read] at hread
  rcases parseOperator_cases p h with ⟨_, _, op, _, -, hread', -⟩ | ⟨after', hread', hfaces⟩
  · rw [hread'] at hread
    simp [leafAsNode] at hread
  · rw [hread'] at hread
    obtain ⟨-, rfl⟩ := Prod.mk.inj hread
    exact hfaces.tokensAhead

/-- **No token is lost, and none is taken twice.** Of the tokens ahead of a reachable parser, every
routine takes some off the front. If it returns a node, this is written with just the tokens taken.
If it fails, the token that is blamed is looked at next, which is the first of those that are left
or else the end; but a literal without a value is taken to its end. A routine that misses an
operator takes nothing. -/
theorem tokensAhead_of_read (h : parser.Reachable) {routine : Routine}
    {outcome : Except (ParseError Node) Node} {after : Parser}
    (hread : parser.read routine = (outcome, after)) :
    ∃ taken, parser.tokensAhead = taken ++ after.tokensAhead ∧
      after.peek.1 = after.tokensAhead.headD parser.lexer.endToken ∧
      (∀ node, outcome = .ok node → node.toSource = String.join (taken.map Token.lexeme)) ∧
      (∀ error, outcome = .error error → error.fault.cls ≠ .numberConversion →
        error.fault.Blames after.peek.1) ∧
      (∀ error, outcome = .error error → error.fault.cls = .numberConversion →
        ∃ before literal text reason, taken = before ++ literal ∧ Literal literal text ∧
          error.fault = .numberConversion text reason (literal.head?.map Token.location)) ∧
      (∀ p error, routine = .operator p → outcome = .error error → taken = []) := by
  -- a reachable parser is settled, so its tokens ahead are all that the routine can take
  have hfaces := h.settled.faces
  have hconsumes := consumes_read routine hfaces
  rw [hread] at hconsumes
  -- an operator that is missed is known to leave all there was
  have hoperator : ∀ taken, parser.tokensAhead = taken ++ after.tokensAhead →
      ∀ p error, routine = .operator p → outcome = .error error → taken = [] := by
    rintro taken hsplit p error rfl rfl
    rw [tokensAhead_of_read_operator hfaces hread] at hsplit
    exact List.append_left_eq_self.1 hsplit.symm
  cases outcome with
  | ok node =>
    cases hconsumes with
    -- written with just the tokens taken, since the node covers them and all of them are spelled
    | node split covers hafter =>
      refine ⟨_, by rw [hafter.tokensAhead]; exact split, ?_, ?_, by simp, by simp, by simp⟩
      · rw [hafter.peek_fst, hafter.tokensAhead]
      · rintro _ ⟨⟩
        exact covers.toSource_eq (hfaces.spelled_taken split)
  | error error =>
    obtain ⟨fault, built⟩ := error
    cases hconsumes with
    -- the token that is blamed is the first of those left
    | blamed split blames hafter =>
      have hsplit := split.trans (congrArg _ hafter.tokensAhead.symm)
      refine ⟨_, hsplit, ?_, by simp, ?_, ?_, hoperator _ hsplit⟩
      · rw [hafter.peek_fst, hafter.tokensAhead]
      · rintro _ ⟨⟩ -
        rw [hafter.peek_fst]
        exact blames
      · rintro _ ⟨⟩ hcls
        exact absurd hcls blames.cls_ne
    -- the literal is blamed where it begins, and all of it is taken
    | literal split written head hafter =>
      have hsplit := split.trans (congrArg _ hafter.tokensAhead.symm)
      refine ⟨_, hsplit, ?_, by simp, ?_, ?_, hoperator _ hsplit⟩
      · rw [hafter.peek_fst, hafter.tokensAhead]
      · rintro _ ⟨⟩ hcls
        exact absurd rfl hcls
      · rintro _ ⟨⟩ -
        exact ⟨_, _, _, _, rfl, written, by rw [head]; rfl⟩

/-- Behind the number of `1 + 2` no multiplicative operator is found, and the sign stays ahead. Of
`2 * (3) + 4` a factor takes the tokens in front of the sign of addition. -/
theorem tokensAhead_of_read_otherOperator :
    (∃ parser : Parser, parser.Reachable ∧ ∃ error after,
      parser.read (.operator .multiplicative) = (.error error, after) ∧
      error.fault.Blames after.peek.1 ∧ after.tokensAhead = parser.tokensAhead) ∧
    ∃ parser : Parser, parser.Reachable ∧ ∃ node after taken,
      parser.read (.tree (.chain .multiplicative)) = (.ok node, after) ∧
      parser.tokensAhead = taken ++ after.tokensAhead ∧
      taken.map Token.lexeme = ["2", "*", "(", "3", ")"] ∧
      after.tokensAhead.map Token.lexeme = ["+", "4"] ∧ node.toSource = "2*(3)" := by
  constructor
  · have hreachable : Reachable ((ofString "1 + 2" "input").perform (.read .number)).2 :=
      .perform (.start _) rfl
    have hrefused : (match ((ofString "1 + 2" "input").perform (.read .number)).2.read
          (.operator .multiplicative) with
        | (.error error, _) => some error.fault.cls
        | (.ok _, _) => none) = some .unexpectedToken := by decide +kernel
    refine ⟨_, hreachable, ?_⟩
    rcases hread : ((ofString "1 + 2" "input").perform (.read .number)).2.read
      (.operator .multiplicative) with ⟨outcome, after⟩
    rw [hread] at hrefused
    cases outcome with
    | ok => simp at hrefused
    | error error =>
      have hcls : error.fault.cls = .unexpectedToken := Option.some.inj hrefused
      obtain ⟨taken, hsplit, -, -, hblames, -, hnothing⟩ := tokensAhead_of_read hreachable hread
      obtain rfl := hnothing _ error rfl rfl
      exact ⟨error, after, rfl, hblames error rfl (by simp [hcls]), hsplit.symm⟩
  · have hreachable : Reachable (ofString "2 * (3) + 4" "input") := .start _
    have hahead : (ofString "2 * (3) + 4" "input").tokensAhead.map Token.lexeme =
        ["2", "*", "(", "3", ")"] ++ ["+", "4"] := by decide +kernel
    have hfactor : (match (ofString "2 * (3) + 4" "input").read (.tree (.chain .multiplicative)) with
        | (.ok _, after) => some (after.tokensAhead.map Token.lexeme)
        | (.error _, _) => none) = some ["+", "4"] := by decide +kernel
    refine ⟨_, hreachable, ?_⟩
    rcases hread : (ofString "2 * (3) + 4" "input").read (.tree (.chain .multiplicative)) with
      ⟨outcome, after⟩
    rw [hread] at hfactor
    cases outcome with
    | error => simp at hfactor
    | ok node =>
      have hafter : after.tokensAhead.map Token.lexeme = ["+", "4"] := Option.some.inj hfactor
      obtain ⟨taken, hsplit, -, hsource, -⟩ := tokensAhead_of_read hreachable hread
      -- what was taken is all that was ahead, less what still is
      rw [hsplit, List.map_append, hafter] at hahead
      have htaken := List.append_cancel_right hahead
      refine ⟨node, after, taken, rfl, hsplit, htaken, hafter, ?_⟩
      rw [hsource node rfl, htaken]
      decide

end Parser

end ArithExpr
