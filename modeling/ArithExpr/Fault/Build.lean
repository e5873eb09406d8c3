import ArithExpr.Fault

/-!
# Faults of tokens that were not read

The parser reports the faults of tokens that it has read. A fault may also be put together of a
token that comes from nowhere, and then what reading ensures has to be checked: that the token has a
place, and that an illegal one can be shown or is a single character.

* `FaultBuildError` — why a token makes no fault.
* `Fault.ofUnexpected`, `Fault.ofMissingRightParen`, `Fault.ofIllegal`, `Diagnostic.ofIllegal` — the
  checked constructions.
* `Fault.ofUnexpected_placed` — for a token that could have been read the checks change nothing.
-/

namespace ArithExpr

/-- Why a token that was not read makes no fault. -/
inductive FaultBuildError where
  /-- An illegal token of so many characters cannot be shown, and has no single code point by which
  it could be named. -/
  | notOneCharacter (count : Nat)
  /-- The token that is to be blamed has no place. -/
  | unplaced
deriving DecidableEq

/-- Refuses an illegal token about which no advice can be given. -/
def checkAdvice (lexeme : String) : Except FaultBuildError Unit :=
  if canAdvise lexeme then .ok () else .error (.notOneCharacter lexeme.length)

/-- The diagnostic of an illegal character that was not read. -/
def Diagnostic.ofIllegal (lexeme : String) (location : Option Location) :
    Except FaultBuildError Diagnostic :=
  (checkAdvice lexeme).map fun _ => .illegalCharacter lexeme location

namespace Fault

/-- The fault that blames a token, which has to have a place. -/
def blaming (found : LooseToken) (fault : Token → Fault) : Except FaultBuildError Fault :=
  match found.placed? with
  | some token => .ok (fault token)
  | none => .error .unplaced

/-- The fault of an illegal token. Whether advice can be given is checked before the place. -/
def ofIllegal (expected : Option Expectation) (found : LooseToken) : Except FaultBuildError Fault :=
  match checkAdvice found.lexeme with
  | .ok _ => blaming found (illegalCharacter expected)
  | .error error => .error error

/-- The fault of a group that begins with the token `opening` and that the token `found` does not
close. -/
def ofMissingRightParen (opening found : LooseToken) : Except FaultBuildError Fault :=
  blaming found (missingRightParen opening.location)

/-- The fault of a token that the grammar does not admit. Only the end of the input can be without
a place, since it is not blamed as a token. -/
def ofUnexpected (expected : Expectation) (found : LooseToken) : Except FaultBuildError Fault :=
  match found.kind with
  | .illegal => ofIllegal (some expected) found
  | .eof => .ok (unexpectedEnd expected found.location)
  | _ => blaming found (unexpectedToken expected)

/-- A token that has a place and, if it is illegal, admits advice makes the fault that the parser
reports of it. -/
theorem ofUnexpected_placed (expected : Expectation) (token : Token)
    (h : canAdvise token.lexeme = true) :
    ofUnexpected expected ⟨token.kind, token.lexeme, some token.location⟩ =
      .ok (unexpected expected token) := by
  obtain ⟨kind, lexeme, location⟩ := token
  have hadvice : checkAdvice lexeme = .ok () := if_pos h
  cases kind <;> simp [ofUnexpected, unexpected, ofIllegal, blaming, LooseToken.placed?, hadvice]

end Fault

end ArithExpr
