import ArithExpr.Location
import ArithExpr.Text.UpperCase

/-!
# Diagnostics

What is said about a source, and in particular about a character that no expression may hold.

* `lookAlike?` — the character of the language that another one resembles.
* `illegalCharacterHelp` — the advice given: the look-alike if there is one, else the character
  itself if it can be shown, else its code point.
* `lexemeHelp` — the advice about a token, if there can be any: see `canAdvise`.
* `Diagnostic` — a message with what goes with it: severity, place, code, help and suggestions.
* `Diagnostic.render` — the lines in which it is shown. What is absent or empty has no line.
* `IllegalCharacter` — the finding of an illegal character in a source, and
  `Diagnostic.illegalCharacter` — what is reported of it.
-/

namespace ArithExpr

/-! ### Characters that look like an operator or a parenthesis -/

/-- The character of the language that the given one resembles. -/
def lookAlike? (c : Char) : Option Char :=
  match c with
  | '×' | '⋅' | '·' | '∗' => some '*'
  | '÷' | '∕' => some '/'
  | '−' | '–' | '—' => some '-'
  | '＋' => some '+'
  | '∖' => some '\\'
  | '＾' => some '^'
  | ',' => some '.'
  | '[' | '\x7b' => some '('
  | ']' | '\x7d' => some ')'
  | _ => none

/-- The replacements to offer for a character. -/
def suggestions (c : Char) : List String :=
  (lookAlike? c).toList.map String.singleton

/-- The code point of a character with at least four digits, in upper case. -/
def codePointName (c : Char) : String :=
  "U+" ++ String.ofList (((Nat.toDigits 16 c.toNat).map Char.toUpper).leftpad 4 '0')

/-- The advice given about a character that no expression may hold. -/
def illegalCharacterHelp (c : Char) : String :=
  match lookAlike? c with
  | some likeness => "Did you mean " ++ quoted (String.singleton likeness) ++ "?"
  | none =>
    if isPrintable c then
      "The character '" ++ String.singleton c ++ "' is not valid in an arithmetic expression."
    else
      "Non-printable character (Unicode: " ++ codePointName c ++ ") is not allowed."

/-- The replacements to offer for an illegal token, which are those of its one character. -/
def lexemeSuggestions (lexeme : String) : List String :=
  match lexeme.toList with
  | [c] => suggestions c
  | _ => []

/-- Says whether advice can be given about an illegal token. If it cannot be shown as it is, it has
to be a single character, which can be named by its code point. -/
def canAdvise (lexeme : String) : Bool :=
  lexeme.length = 1 || lexeme.toList.all isPrintable

/-- The advice given about an illegal token, which is that for its one character. A token that is
not of one character is shown as it is. -/
def lexemeHelp (lexeme : String) : String :=
  match lexeme.toList with
  | [c] => illegalCharacterHelp c
  | _ => "The character '" ++ lexeme ++ "' is not valid in an arithmetic expression."

/-! ### Messages -/

/-- A message about a source. -/
structure Diagnostic where
  message : String
  /-- The place the message is about, if it is about one. -/
  location : Option Location
  /-- How grave the message is, such as `error` or `hint`. -/
  severity : String
  /-- The code under which the message is known. -/
  code : Option String
  help : Option String
  /-- What the reader might do. No list at all differs from an empty one, but is shown alike. -/
  suggestions : Option (List String)
deriving DecidableEq

namespace Diagnostic

/-- A text that is given and not empty. -/
def present? (text : Option String) : Option String :=
  text.filter fun s => s ≠ ""

/-- The first line: severity in upper case, code in brackets, message. -/
def headline (d : Diagnostic) : String :=
  let code := match present? d.code with
    | some code => "[" ++ code ++ "]"
    | none => ""
  upperCased d.severity ++ code ++ ": " ++ d.message ++ "\n"

/-- The line that shows the place, behind an arrow. -/
def locationLine (d : Diagnostic) : String :=
  match d.location with
  | some place => "  --> " ++ place.text ++ "\n"
  | none => ""

/-- The line of the help text. -/
def helpLine (d : Diagnostic) : String :=
  match present? d.help with
  | some help => "  help: " ++ help ++ "\n"
  | none => ""

/-- The lines of the suggestions, each as an item under a common title. -/
def suggestionLines (d : Diagnostic) : String :=
  match d.suggestions.getD [] with
  | [] => ""
  | list => "  suggestions:\n" ++ String.join (list.map fun s => "    - " ++ s ++ "\n")

/-- The lines in which a diagnostic is shown, each ended by a line feed. -/
def render (d : Diagnostic) : String :=
  d.headline ++ d.locationLine ++ d.helpLine ++ d.suggestionLines

/-- The diagnostic of an illegal character, which is given as the lexeme of its token. -/
def illegalCharacter (lexeme : String) (location : Option Location) : Diagnostic where
  message := "Invalid character: '" ++ lexeme ++ "'"
  location := location
  severity := "error"
  code := some "L001"
  help := some (lexemeHelp lexeme)
  suggestions := some (lexemeSuggestions lexeme)

end Diagnostic

/-- The finding of a character that no expression may hold, at its place in a source. -/
structure IllegalCharacter where
  /-- The character, as the lexeme of its token. -/
  lexeme : String
  location : Location
deriving DecidableEq

/-- What is reported of an illegal character where it was found. -/
def IllegalCharacter.diagnostic (found : IllegalCharacter) : Diagnostic :=
  .illegalCharacter found.lexeme (some found.location)

end ArithExpr
