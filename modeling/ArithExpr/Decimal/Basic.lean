import ArithExpr.Text.CharacterClass

/-!
# Decimal literals

A literal is a run of digits, or two runs with a point between them. Its value is a rational number
and is never rounded.

* `Decimal.ofChars?` — takes a literal apart into the values of its digits.
* `Decimal.value` — the number that the digits denote: all of them read as one natural number,
  divided by ten for each one behind the point.
* `decimalValue` — the value of a text, or why it has none.
-/

namespace ArithExpr

/-- A decimal literal as the values of its digits. -/
structure Decimal where
  /-- The digits before the point. -/
  integral : List Nat
  /-- The digits behind the point; none if there is no point. -/
  fractional : List Nat
deriving DecidableEq

namespace Decimal

/-- The natural number that digits denote, the first digit counting most. -/
def natural (digits : List Nat) : Nat :=
  digits.foldl (fun n d => 10 * n + d) 0

/-- The number that a literal denotes, exactly. -/
def value (decimal : Decimal) : Rat :=
  mkRat (natural (decimal.integral ++ decimal.fractional)) (Nat.pow 10 decimal.fractional.length)

/-- The number of digits of a literal, zeros in front included. -/
def digitCount (decimal : Decimal) : Nat :=
  decimal.integral.length + decimal.fractional.length

/-- The values of characters that are all digits. -/
def digitValues? : List Char → Option (List Nat)
  | [] => some []
  | c :: cs =>
    match digitValue? c, digitValues? cs with
    | some d, some ds => some (d :: ds)
    | _, _ => none

/-- The values of a run of digits, which has at least one. -/
def run? (cs : List Char) : Option (List Nat) :=
  if cs.isEmpty then none else digitValues? cs

/-- Takes a literal apart: one run of digits, or two with a point between them. -/
def ofChars? (cs : List Char) : Option Decimal :=
  match cs.dropWhile (· ≠ '.') with
  | [] => (run? cs).map fun integral => ⟨integral, []⟩
  | _ :: behind =>
    -- a second point is no digit, so the second run refuses it
    match run? (cs.takeWhile (· ≠ '.')), run? behind with
    | some integral, some fractional => some ⟨integral, fractional⟩
    | _, _ => none

end Decimal

/-- The greatest number of digits in a literal. -/
def digitLimit : Nat := 4300

/-- Why something is not accepted as a decimal literal. -/
inductive ConversionFault where
  /-- The text is not of the form of a literal. -/
  | malformed
  /-- The literal has more than `digitLimit` digits. -/
  | tooLong
  /-- What was given is no text at all. -/
  | notText
  | described (reason : String)
deriving DecidableEq

/-- The sentence that says why something is not accepted. -/
def ConversionFault.reason : ConversionFault → String
  | malformed => "Expected digits, optionally followed by '.' and more digits."
  | tooLong => "Digits could not be read as an integer."
  | notText => "Numeric literals must be text."
  | described reason => reason

/-- The value of a text, if it is a literal and its digits are not too many. -/
def decimalValue (text : String) : Except ConversionFault Rat :=
  match Decimal.ofChars? text.toList with
  | none => .error .malformed
  | some decimal =>
    if digitLimit < decimal.digitCount then .error .tooLong else .ok decimal.value

end ArithExpr
