import ArithExpr.Proofs.Correctness

/-!
# Tokens and their places

The tokens of a text stand in it one behind the other, and the end behind all of them. So the place
of a token tells which tokens come before it.

* `Lexer.ascending_tokenize` — the offsets of the tokens ascend; `Lexer.ascending_tokensAhead` — so
  do those of the tokens ahead, up to the end.
* `tokensBefore` — the tokens of a text in front of a place; `tokensBefore_eq` — where a text is
  divided into tokens before and after a place, these are the ones before it.
-/

namespace ArithExpr

namespace Location

@[simp] theorem offset_advance (place : Location) (c : Char) :
    (place.advance c).offset = place.offset + 1 := by
  unfold advance
  split <;> rfl

theorem offset_advanceOver (place : Location) (cs : List Char) :
    (place.advanceOver cs).offset = place.offset + cs.length := by
  induction cs generalizing place with
  | nil => simp [advanceOver]
  | cons c cs ih =>
    calc (place.advanceOver (c :: cs)).offset
      _ = ((place.advance c).advanceOver cs).offset := rfl
      _ = (place.advance c).offset + cs.length := ih _
      _ = place.offset + (c :: cs).length := by
        rw [offset_advance, List.length_cons]
        omega

end Location

/-- The token stands in front of the other one. -/
def Token.Precedes (token other : Token) : Prop :=
  token.location.offset < other.location.offset

namespace Lexer

theorem location_scan (lexer : Lexer) : lexer.scan.1.location = lexer.location := by
  have h := lexer.scans
  -- the token is made with the place at which its scan began, whatever the scan found
  generalize lexer.scan = scanned at h ⊢
  cases h <;> rfl

theorem offset_scan_lt {lexer : Lexer} (h : lexer.scan.1.kind ≠ .eof) :
    lexer.location.offset < lexer.scan.2.location.offset := by
  have hs := lexer.scans
  generalize lexer.scan = scanned at hs h ⊢
  cases hs with
  | finish => exact absurd rfl h
  -- a run has at least one character, and the lexer has gone past all of them
  | run place _ _ isRun =>
    have hlength := List.length_pos_iff.2 isRun.1
    simp only [Location.offset_advanceOver]
    omega
  | single =>
    simp only [Location.offset_advance]
    omega

/-- **Tokens stand one behind the other**, from the place of the lexer on. -/
theorem ascending_tokenize (lexer : Lexer) :
    lexer.tokenize.1.Pairwise Token.Precedes ∧
      ∀ token ∈ lexer.tokenize.1, lexer.location.offset ≤ token.location.offset := by
  -- a token that is no end leaves less to be read
  induction h : lexer.rest.length using Nat.strongRecOn generalizing lexer with
  | ind n ih =>
    have hplace : lexer.location.offset ≤ lexer.scan.1.location.offset :=
      Int.le_of_eq (congrArg Location.offset lexer.location_scan.symm)
    rw [tokenize]
    split
    · exact ⟨List.pairwise_singleton _ _, List.forall_mem_singleton.2 hplace⟩
    · next he =>
      have hlt := rest_scan_length_lt he
      have hoffset := offset_scan_lt he
      obtain ⟨hpairwise, hle⟩ := ih _ (by omega) lexer.scan.2 rfl
      refine ⟨List.pairwise_cons.2 ⟨?_, hpairwise⟩, List.forall_mem_cons.2 ⟨hplace, ?_⟩⟩
      · -- the later tokens begin where this one has ended, or behind it
        intro token hmem
        have := hle token hmem
        rw [Token.Precedes, location_scan]
        omega
      · intro token hmem
        have := hle token hmem
        omega

/-- The end stands behind all other tokens. -/
theorem exists_tokenize_eq (lexer : Lexer) :
    ∃ tokens, lexer.tokenize.1 = tokens ++ [lexer.endToken] := by
  induction h : lexer.rest.length using Nat.strongRecOn generalizing lexer with
  | ind n ih =>
    rw [tokenize]
    split
    · -- at the end there is only the end token, which is that of the lexer
      next he => exact ⟨[], by rw [(scan_of_eof he).2.2]; rfl⟩
    · next he =>
      have hlt := rest_scan_length_lt he
      obtain ⟨tokens, htokens⟩ := ih _ (by omega) lexer.scan.2 rfl
      -- scanning on does not move the end
      rw [endToken_scan] at htokens
      exact ⟨lexer.scan.1 :: tokens, congrArg _ htokens⟩

/-- So do the tokens ahead, and the end behind them. -/
theorem ascending_tokensAhead (lexer : Lexer) :
    (lexer.tokensAhead ++ [lexer.endToken]).Pairwise Token.Precedes := by
  obtain ⟨tokens, htokens⟩ := lexer.exists_tokenize_eq
  obtain ⟨hpairwise, -⟩ := lexer.ascending_tokenize
  -- the end does not count among the tokens ahead
  have hahead : lexer.tokensAhead = tokens.filter Token.isSignificant := by
    rw [tokensAhead, htokens, List.filter_append]
    simp [Token.isSignificant, endToken]
  rw [htokens] at hpairwise
  rw [hahead]
  -- what is left of an ascending list is ascending
  exact hpairwise.sublist (List.filter_sublist.append_right _)

end Lexer

/-- The tokens of a text in front of a place. -/
def tokensBefore (text filename : String) (place : Location) : List Token :=
  (significantTokens text filename).takeWhile fun token => token.location.offset < place.offset

/-- Where the tokens of a text are divided in two, the first part is in front of the place of the
second part. -/
theorem tokensBefore_eq {text filename : String} {before after : List Token}
    (h : significantTokens text filename = before ++ after) :
    tokensBefore text filename
      (after.headD (Lexer.ofString text filename).endToken).location = before := by
  have hpairwise := (Lexer.ofString text filename).ascending_tokensAhead
  rw [show (Lexer.ofString text filename).tokensAhead = before ++ after from h,
    List.append_assoc, List.pairwise_append] at hpairwise
  obtain ⟨-, -, hprecedes⟩ := hpairwise
  -- the tokens of the first part are in front of the place, whether it is a token's or the end's
  have hbefore : ∀ token ∈ before, decide (token.location.offset <
      (after.headD (Lexer.ofString text filename).endToken).location.offset) = true := by
    intro token hmem
    rw [decide_eq_true_eq]
    refine hprecedes token hmem _ ?_
    cases after with
    | nil => exact List.mem_cons_self
    | cons => exact List.mem_cons_self
  rw [tokensBefore, h, List.takeWhile_append_of_pos hbefore]
  -- and the first token of the second part is not in front of its own place
  cases after with
  | nil => exact List.append_nil before
  | cons token after =>
    rw [List.headD_cons, List.takeWhile_cons_of_neg (by simp)]
    exact List.append_nil before

end ArithExpr
