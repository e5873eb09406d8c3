import ArithExpr.Lexer.Basic

/-!
# Sessions with a lexer

The operations of a lexer as data, so that a sequence of them can be spoken about.

* `Lexer.Step` — one operation; `Lexer.Answer` — what an operation gives back.
* `Lexer.perform` — carries out one operation.
* `Lexer.session` — carries out several in turn, and gives each answer with the lexer after it.
-/

namespace ArithExpr

namespace Lexer

/-- An operation of the lexer. -/
inductive Step where
  | read
  | unread
  | scan
  /-- Take a run of letters as a token, even if it is empty. -/
  | scanWord
  /-- Take a run of digits as a token, even if it is empty. -/
  | scanDigits
  /-- Take a run of a class as mere characters. -/
  | takeRun (cls : CharClass)
  | tokenize
  | location
deriving DecidableEq

/-- What an operation of the lexer gives back. -/
inductive Answer where
  | nothing
  /-- A character, or `none` at the end. -/
  | char (c : Option Char)
  | text (run : String)
  | token (token : Token)
  | tokens (tokens : List Token)
  | place (place : Location)
deriving DecidableEq

/-- Carries out one operation. -/
def perform (step : Step) (lexer : Lexer) : Answer × Lexer :=
  match step with
  | .read => let (c, after) := lexer.read; (.char c, after)
  | .unread => (.nothing, lexer.unread)
  | .scan => let (token, after) := lexer.scan; (.token token, after)
  | .scanWord => let (token, after) := lexer.takeToken .letter; (.token token, after)
  | .scanDigits => let (token, after) := lexer.takeToken .digit; (.token token, after)
  | .takeRun cls => let (run, after) := lexer.takeRun cls; (.text (String.ofList run), after)
  | .tokenize => let (tokens, after) := lexer.tokenize; (.tokens tokens, after)
  | .location => (.place lexer.location, lexer)

/-- Carries out operations in turn, and gives each answer with the lexer after it. -/
def session : List Step → Lexer → List (Answer × Lexer)
  | [], _ => []
  | step :: steps, lexer =>
    let done := lexer.perform step
    done :: session steps done.2

end Lexer

end ArithExpr
