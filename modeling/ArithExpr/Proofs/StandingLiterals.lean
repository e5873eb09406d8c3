import ArithExpr.Proofs.CompletePart
import ArithExpr.Proofs.Unambiguity

/-!
# The literals among tokens

A literal stands among tokens where an operand begins, and it goes as far as it can
(`Grammar.Stands`). No derivation is needed to see this. In tokens that are derived from a phrase
these are the numbers of the phrase, so if the phrase is readable, none of them has too many digits
(`Derives.legible`).

A token that is no part of a literal keeps the literals before it and behind it apart
(`Legible.join`). This carries the property from the parts of tokens to the whole.
-/

namespace ArithExpr

/-- A stretch of a list that does not hold some item is before the item or behind it. -/
theorem infix_before_or_behind {α : Type} {before middle behind left right : List α} {a : α}
    (h : before ++ middle ++ behind = left ++ a :: right) (ha : a ∉ middle) :
    (∃ more, left = before ++ middle ++ more ∧ behind = more ++ a :: right) ∨
      ∃ more, before = left ++ a :: more ∧ right = more ++ middle ++ behind := by
  rcases List.append_eq_append_iff.1 h with ⟨more, hleft, hbehind⟩ | ⟨more, hmiddle, hright⟩
  · exact .inl ⟨more, hleft, hbehind⟩
  rcases List.append_eq_cons_iff.1 hright.symm with ⟨rfl, hbehind⟩ | ⟨more, rfl, rfl⟩
  · exact .inl ⟨[], by simpa using hmiddle.symm, hbehind⟩
  -- the item is among the tokens before the end of the stretch, and so before the stretch
  rcases List.append_eq_append_iff.1 hmiddle with ⟨more', -, rfl⟩ | ⟨more', rfl, hmore⟩
  · exact absurd (by simp) ha
  rcases List.append_eq_cons_iff.1 hmore.symm with ⟨-, rfl⟩ | ⟨more'', rfl, rfl⟩
  · exact absurd (by simp) ha
  · exact .inr ⟨more'', rfl, rfl⟩

namespace Grammar

/-- **A literal stands among tokens**: it begins where an operand does, and it goes as far as it
can. -/
structure Stands (before literal behind : List Token) (text : String) : Prop where
  /-- In front of it there is nothing, or a token that waits for an operand. -/
  begins : ∀ last ∈ before.getLast?, last.Opens
  written : Literal literal text
  /-- Digits are not a whole literal if a point follows. -/
  whole : literal.length = 1 → ∀ next ∈ behind.head?, next.kind ≠ .dot

/-- No literal that stands among the tokens has too many digits. -/
def Legible (tokens : List Token) : Prop :=
  ∀ before literal behind text, tokens = before ++ literal ++ behind →
    Stands before literal behind text → digitsIn text ≤ digitLimit

theorem Literal.kind {tokens : List Token} {text : String} (h : Literal tokens text) :
    ∀ token ∈ tokens, token.kind = .digits ∨ token.kind = .dot := by
  cases h with
  | whole kind => simp [kind]
  | fraction kind pointKind fractionalKind => simp [kind, pointKind, fractionalKind]

theorem Literal.ne_nil {tokens : List Token} {text : String} (h : Literal tokens text) :
    tokens ≠ [] := by
  cases h <;> simp

namespace Stands

variable {before literal behind : List Token} {text : String}

/-- A literal among parts of a number begins where they begin. -/
theorem before_eq_nil (h : Stands before literal behind text)
    (hkind : ∀ token ∈ before, token.kind = .digits ∨ token.kind = .dot) : before = [] := by
  cases hlast : before.getLast? with
  | none => exact List.getLast?_eq_none_iff.1 hlast
  | some last =>
    -- what is in front is part of a number, and no operand begins behind that
    exfalso
    have hopens := h.begins last hlast
    rcases hkind last (List.mem_of_getLast? hlast) with hk | hk <;>
      rcases hopens with hopen | ⟨symbol, hoperator⟩ <;> simp_all

end Stands

/-! ### Legible tokens -/

theorem legible_nil : Legible [] := by
  intro before literal behind text heq h
  obtain ⟨heq, -⟩ := List.append_eq_nil_iff.1 heq.symm
  obtain ⟨-, hliteral⟩ := List.append_eq_nil_iff.1 heq
  exact absurd hliteral h.written.ne_nil

/-- **A token that is no part of a literal keeps literals apart.** -/
theorem Legible.join {left right : List Token} {token : Token} (hleft : Legible left)
    (hright : Legible right) (hdigits : token.kind ≠ .digits) (hdot : token.kind ≠ .dot) :
    Legible (left ++ token :: right) := by
  intro before literal behind text heq h
  have hmem : token ∉ literal := fun hmem =>
    (h.written.kind token hmem).elim hdigits hdot
  rcases infix_before_or_behind heq.symm hmem with ⟨more, rfl, rfl⟩ | ⟨more, rfl, rfl⟩
  · -- the literal is before the token, and what is behind it there is behind it here
    refine hleft before literal more text rfl ⟨h.begins, h.written, ?_⟩
    intro hone next hnext
    exact h.whole hone next (by rw [List.head?_append, Option.mem_def.1 hnext]; rfl)
  · -- the literal is behind the token, and what is in front of it there is in front of it here
    refine hright more literal behind text rfl ⟨?_, h.written, h.whole⟩
    intro last hlast
    refine h.begins last ?_
    rw [Option.mem_def] at hlast ⊢
    rw [List.getLast?_append, List.getLast?_cons, hlast]
    rfl

/-- The only literal that stands in a literal is this one. -/
theorem Literal.legible {tokens : List Token} {text : String} (h : Literal tokens text)
    (hdigits : digitsIn text ≤ digitLimit) : Legible tokens := by
  intro before literal behind text' heq h'
  -- every token of the literal is part of a number, so the other one begins with it
  obtain rfl := h'.before_eq_nil fun token hmem => h.kind token (by simp [heq, hmem])
  have heq : tokens ++ [] = literal ++ behind := by simpa using heq
  obtain ⟨-, rfl⟩ := h.unique h'.written heq (by simp) h'.whole
  exact hdigits

/-- A number that stops at its point is no literal. -/
theorem legible_point {integral point : Token} (hk : integral.kind = .digits)
    (hdot : point.kind = .dot) : Legible [integral, point] := by
  intro before literal behind text heq h
  have hkind : ∀ token ∈ [integral, point], token.kind = .digits ∨ token.kind = .dot := by
    simp [hk, hdot]
  obtain rfl := h.before_eq_nil fun token hmem => hkind token (by simp [heq, hmem])
  exfalso
  obtain ⟨-, written, whole⟩ := h
  -- the digits alone would stop in front of the point, and with the point they go on to more digits
  cases written with
  | whole kind =>
    obtain ⟨-, rfl⟩ := List.cons.inj heq
    exact whole rfl point rfl hdot
  | fraction => simp at heq

/-- **The literals among the tokens of a readable phrase have few enough digits.** -/
theorem Derives.legible {l : Level} {tokens : List Token} {phrase : Phrase l}
    (h : Derives tokens phrase) (hread : phrase.Readable) : Legible tokens := by
  -- a parenthesis and an operator are no part of a literal, so the parts of the phrase are apart
  induction h with
  | number literal => exact literal.legible (hread _ (by simp [Phrase.literals]))
  | @group opening closing content inner openingKind _ closingKind ih =>
    have hcontent : Legible (content ++ [closing]) :=
      (ih hread).join legible_nil (by simp [closingKind]) (by simp [closingKind])
    exact legible_nil.join hcontent (by simp [openingKind]) (by simp [openingKind])
  | single _ ih => exact ih hread
  | link _ kind _ _ ih ih' =>
    refine Legible.join (ih fun text hmem => hread text ?_) (ih' fun text hmem => hread text ?_)
      (by simp [kind]) (by simp [kind])
    · exact List.mem_append_left _ hmem
    · exact List.mem_append_right _ hmem

end Grammar

end ArithExpr
