import ArithExpr.Token.Basic

/-!
# Places, counted out

A place moves on by one character at a time. It can also be told from all characters in front of it
at once: how many there are, how many of them are line feeds, and how many are behind the last line
feed.

* `Location.behind` — the place behind the first characters of a source.
* `Location.advance_behind`, `Location.advanceOver_behind` — further characters lead from the place
  behind some characters to the place behind all of them.
* `Token.written` — the characters of some tokens, one behind the other; `Token.Placed` — each of
  the tokens is located behind the characters in front of it.
-/

namespace ArithExpr

namespace Location

/-- The place behind the characters `front` of a source, counted out. -/
def behind (filename : String) (front : List Char) : Location where
  filename
  line := 1 + front.count '\n'
  column := 1 + (front.reverse.takeWhile (· ≠ '\n')).length
  offset := front.length

@[simp] theorem behind_nil (filename : String) : behind filename [] = start filename :=
  rfl

/-- One character more is one step further. -/
theorem advance_behind (filename : String) (front : List Char) (c : Char) :
    (behind filename front).advance c = behind filename (front ++ [c]) := by
  unfold advance
  split
  · next hc =>
    -- a line feed is the last one, and nothing is behind it
    subst hc
    simp only [behind, List.count_append, List.reverse_append, List.length_append]
    simp [Int.add_assoc]
  · -- the column counts on from the last line feed
    next hc =>
    have hcount : (front ++ [c]).count '\n' = front.count '\n' := by
      rw [List.count_append, List.count_singleton, if_neg (by simpa using hc), Nat.add_zero]
    simp only [behind, hcount, List.reverse_append, List.length_append]
    simp [hc, Int.add_assoc]

/-- **Further characters** lead to the place behind all of them. -/
theorem advanceOver_behind (filename : String) (front cs : List Char) :
    (behind filename front).advanceOver cs = behind filename (front ++ cs) := by
  induction cs generalizing front with
  | nil =>
    rw [List.append_nil]
    rfl
  | cons c cs ih =>
    calc (behind filename front).advanceOver (c :: cs)
      _ = ((behind filename front).advance c).advanceOver cs := rfl
      _ = (behind filename (front ++ [c])).advanceOver cs := by rw [advance_behind]
      _ = behind filename (front ++ [c] ++ cs) := ih _
      _ = behind filename (front ++ c :: cs) := by rw [List.append_assoc]; rfl

end Location

namespace Token

/-- The characters of some tokens, one behind the other. -/
def written (tokens : List Token) : List Char :=
  tokens.flatMap fun token => token.lexeme.toList

@[simp] theorem written_nil : written [] = [] :=
  rfl

@[simp] theorem written_cons (token : Token) (tokens : List Token) :
    written (token :: tokens) = token.lexeme.toList ++ written tokens :=
  rfl

/-- Each of the tokens is located behind all characters in front of it, of which `front` are those
in front of the first token. -/
def Placed (filename : String) (front : List Char) (tokens : List Token) : Prop :=
  ∀ before token after, tokens = before ++ token :: after →
    token.location = .behind filename (front ++ written before)

theorem Placed.nil (filename : String) (front : List Char) : Placed filename front [] := by
  simp [Placed]

variable {filename : String} {front : List Char} {token : Token} {tokens : List Token}

theorem placed_cons :
    Placed filename front (token :: tokens) ↔
      token.location = .behind filename front ∧
        Placed filename (front ++ token.lexeme.toList) tokens := by
  constructor
  · intro h
    constructor
    · -- nothing is in front of the first token but `front`
      have htoken := h [] token tokens rfl
      rwa [written_nil, List.append_nil] at htoken
    · -- a later token has the first one in front of it as well
      intro before next after hsplit
      have hnext := h (token :: before) next after (by rw [hsplit]; rfl)
      rwa [written_cons, ← List.append_assoc] at hnext
  · rintro ⟨htoken, h⟩ before next after hsplit
    -- the token that is asked for is the first one or one of the others
    obtain ⟨rfl, hfirst⟩ | ⟨before, rfl, hlater⟩ := List.cons_eq_append_iff.1 hsplit
    · obtain ⟨rfl, -⟩ := List.cons.inj hfirst
      rw [written_nil, List.append_nil, htoken]
    · rw [h before next after hlater, written_cons, List.append_assoc]

end Token

end ArithExpr
