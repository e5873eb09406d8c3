import ArithExpr.Location
import ArithExpr.Text.CharacterClass
import ArithExpr.Text.Quoted
import ArithExpr.Token.Symbol

/-!
# Tokens

* `CharClass` — the three classes of characters that come in runs.
* `TokenKind` — what a token is; `CharClass.kind` is the kind of a run, `TokenKind.ofChar` the kind
  of a character that stands alone.
* `Token` — a kind, the characters it was read from, and the place of the first of them.
* `LooseToken` — the same for a token that was not read: its place may be unknown.
-/

namespace ArithExpr

/-- The kinds of tokens. -/
inductive TokenKind where
  | eof
  | whitespace
  /-- A run of letters, which the grammar has no use for. -/
  | word
  | operator (symbol : OperatorSymbol)
  | digits
  | leftParen
  | rightParen
  | dot
  /-- A character that means nothing in an expression. -/
  | illegal
deriving DecidableEq

namespace TokenKind

/-- The name of a kind where tokens are written out. -/
def name : TokenKind → String
  | eof => "EOF"
  | whitespace => "WHITESPACE"
  | word => "UNKNOWN_KEYWORD"
  | operator symbol => symbol.name
  | digits => "DIGITS"
  | leftParen => "LEFT_PAREN"
  | rightParen => "RIGHT_PAREN"
  | dot => "DOT"
  | illegal => "ILLEGAL"

/-- All kinds, in the order of their numbers. -/
def all : List TokenKind :=
  [eof, whitespace, word] ++ OperatorSymbol.all.map operator ++
    [digits, leftParen, rightParen, dot, illegal]

/-- The kind that has a name, if one does. -/
def named? (text : String) : Option TokenKind :=
  all.find? fun kind => kind.name = text

/-- What messages call a kind. -/
def description : TokenKind → String
  | eof => "end of input"
  | whitespace => "whitespace"
  | word => "identifier"
  | operator symbol => "'" ++ String.singleton symbol.char ++ "'"
  | digits => "digits"
  | leftParen => "'('"
  | rightParen => "')'"
  | dot => "'.'"
  | illegal => "illegal character"

/-- The symbol of an operator, and `none` for every other kind. -/
def symbol? : TokenKind → Option OperatorSymbol
  | operator symbol => some symbol
  | _ => none

/-- The class of an operator, and `none` for every other kind. -/
def precedence? (kind : TokenKind) : Option Precedence :=
  kind.symbol?.map OperatorSymbol.precedence

/-- The kind of a character that makes a token on its own. -/
def ofChar? (c : Char) : Option TokenKind :=
  if c = '(' then some leftParen
  else if c = ')' then some rightParen
  else if c = '.' then some dot
  else (OperatorSymbol.ofChar? c).map operator

/-- The kind of a character that is not part of a run. -/
def ofChar (c : Char) : TokenKind :=
  (ofChar? c).getD illegal

/-- A character that stands alone does not mark the end. -/
theorem ofChar_ne_eof (c : Char) : ofChar c ≠ eof := by
  unfold ofChar ofChar?
  repeat' split
  · simp
  · simp
  · simp
  · cases OperatorSymbol.ofChar? c <;> simp

end TokenKind

/-- A class of characters that come in runs: neighbours of one class belong to one token. -/
inductive CharClass where
  | whitespace
  | letter
  | digit
deriving DecidableEq

namespace CharClass

/-- Says whether a character is of a class. -/
def contains : CharClass → Char → Bool
  | whitespace => isWhitespace
  | letter => isLetter
  | digit => isDecimalDigit

/-- The kind of a run of the class. -/
def kind : CharClass → TokenKind
  | whitespace => .whitespace
  | letter => .word
  | digit => .digits

theorem kind_ne_eof (cls : CharClass) : cls.kind ≠ .eof := by
  cases cls <;> simp [kind]

/-- The class of a character, and `none` for one that stands alone. -/
def of? (c : Char) : Option CharClass :=
  if isWhitespace c then some whitespace
  else if isLetter c then some letter
  else if isDecimalDigit c then some digit
  else none

/-- A character that has a class is of that class. -/
theorem contains_of_of? {c : Char} {cls : CharClass} (h : of? c = some cls) :
    cls.contains c = true := by
  unfold of? at h
  split at h
  · obtain rfl := Option.some.inj h
    assumption
  · split at h
    · obtain rfl := Option.some.inj h
      assumption
    · split at h
      · obtain rfl := Option.some.inj h
        assumption
      · simp at h

end CharClass

/-- A token of the source. -/
structure Token where
  kind : TokenKind
  /-- The characters of the source that it was read from. -/
  lexeme : String
  location : Location
deriving DecidableEq

namespace Token

/-- Says whether a token is a run of white space. -/
def isWhitespace (token : Token) : Bool :=
  token.kind = .whitespace

end Token

/-- A token that was put together rather than read from a source. Kind and characters need not
agree, and the place may be unknown. -/
structure LooseToken where
  kind : TokenKind
  lexeme : String
  location : Option Location
deriving DecidableEq

namespace LooseToken

/-- The token with its place, if that is known. -/
def placed? (token : LooseToken) : Option Token :=
  token.location.map fun place => ⟨token.kind, token.lexeme, place⟩

/-- Says whether a token is of the kind of an operator. -/
def isOperator (token : LooseToken) : Bool :=
  token.kind.symbol?.isSome

/-- Says whether a token is of the kind of white space. -/
def isWhitespace (token : LooseToken) : Bool :=
  token.kind = .whitespace

/-- The kind of a token and its characters. -/
def text (token : LooseToken) : String :=
  token.kind.name ++ "(" ++ quoted token.lexeme ++ ")"

/-- All there is to a token: its kind, its characters and its place with the offset. -/
def construction (token : LooseToken) : String :=
  "Token(" ++ token.kind.name ++ ", " ++ quoted token.lexeme ++ ", " ++
    Location.constructionOf token.location ++ ")"

end LooseToken

end ArithExpr
