import ArithExpr.Fault
import ArithExpr.Proofs.CompletePart

/-!
# Faults and the tokens that they blame

A fault is of one of five classes. All but one of them blame a token: the fault is located at the
token and carries it, apart from the end of the input, which is not carried. The class of such a
fault can be told from the token and from what is before it.

* `FaultClass`, `Fault.cls` — the classes.
* `Fault.Blames` — the fault blames the token; `Fault.AtEnd` — it blames the end.
* `FaultClass.between` — the class of the fault that refuses a token behind other tokens: if an
  operand is complete there and a group is open, the parenthesis of the group is missed, whatever
  the token is.
-/

namespace ArithExpr

/-- The classes of faults, finer than their kinds: a group that is not closed has its own. -/
inductive FaultClass where
  | unexpectedToken
  | missingRightParen
  | unexpectedEnd
  | illegalCharacter
  | numberConversion
deriving DecidableEq

namespace Fault

/-- The class of a fault. -/
def cls : Fault → FaultClass
  | unexpectedToken .. => .unexpectedToken
  | missingRightParen .. => .missingRightParen
  | unexpectedEnd .. => .unexpectedEnd
  | illegalCharacter .. => .illegalCharacter
  | numberConversion .. => .numberConversion

/-- **The fault blames the token**: it is located there, and it carries the token unless it is that
the input ends there. -/
structure Blames (fault : Fault) (token : Token) : Prop where
  location : fault.location? = some token.location
  carried : fault.token? = if fault.cls = .unexpectedEnd then none else some token
  atEnd : fault.cls = .unexpectedEnd → token.kind = .eof

/-- A fault that blames a token is no fault of a number. -/
theorem Blames.cls_ne {fault : Fault} {token : Token} (h : fault.Blames token) :
    fault.cls ≠ .numberConversion := by
  intro hcls
  cases fault <;> simp [cls] at hcls
  -- the fault of a literal is located like any other, but carries no token
  have hcarried := h.carried
  simp [token?, cls] at hcarried

/-- The fault is at the end of the input: it blames the end, whether that is carried or not. -/
def AtEnd (fault : Fault) : Prop :=
  fault.cls = .unexpectedEnd ∨ ∃ token ∈ fault.token?, token.kind = .eof

theorem Blames.atEnd_iff {fault : Fault} {token : Token} (h : fault.Blames token) :
    fault.AtEnd ↔ token.kind = .eof := by
  constructor
  · -- a fault at the end blames the end, by its class or by the token that it carries
    rintro (hcls | ⟨found, hfound, hkind⟩)
    · exact h.atEnd hcls
    · rw [h.carried] at hfound
      split at hfound
      · next hcls => exact h.atEnd hcls
      · obtain rfl := Option.some.inj hfound
        exact hkind
  · intro hkind
    -- the end is carried as a token by every fault but one, which has a class of its own
    by_cases hcls : fault.cls = .unexpectedEnd
    · exact .inl hcls
    · exact .inr ⟨token, by rw [h.carried, if_neg hcls]; rfl, hkind⟩

theorem blames_missingRightParen (opening : Option Location) (found : Token) :
    (missingRightParen opening found).Blames found :=
  ⟨rfl, rfl, by simp [cls]⟩

theorem blames_unexpected (expected : Expectation) (found : Token) :
    (unexpected expected found).Blames found := by
  unfold unexpected
  split
  · exact ⟨rfl, rfl, by simp [cls]⟩
  · next hk => exact ⟨rfl, rfl, fun _ => hk⟩
  · exact ⟨rfl, rfl, by simp [cls]⟩

end Fault

namespace FaultClass

/-- The class of the fault of a token that the grammar does not admit. -/
def ofKind : TokenKind → FaultClass
  | .illegal => illegalCharacter
  | .eof => unexpectedEnd
  | _ => unexpectedToken

/-- Whether an operand is complete is decided by the last token that is kept. -/
instance (kept dropped : List Token) : Decidable (OperandComplete kept dropped) :=
  match h : kept.getLast? with
  | none => isFalse (by simp [OperandComplete, h])
  | some token => decidable_of_iff (EndsOperand token dropped) (by simp [OperandComplete, h])

/-- **The class of the fault that refuses `next` behind the tokens `before`.** -/
def between (before : List Token) (next : Token) : FaultClass :=
  if 0 < openGroups before ∧ OperandComplete before [] then missingRightParen
  else ofKind next.kind

/-- What comes next counts only by its kind. -/
theorem between_congr (before : List Token) {next next' : Token} (h : next'.kind = next.kind) :
    between before next' = between before next := by
  rw [between, between, h]

end FaultClass

theorem Fault.cls_unexpected (expected : Expectation) (found : Token) :
    (unexpected expected found).cls = FaultClass.ofKind found.kind := by
  unfold unexpected FaultClass.ofKind
  cases found.kind <;> rfl

end ArithExpr
