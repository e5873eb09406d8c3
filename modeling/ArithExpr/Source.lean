import ArithExpr.Lexer.Basic
import ArithExpr.Parser.Basic

/-!
# Reading expressions from text and from files

* `parse` — the expression that a text is.
* `Utf8.decode` — the characters of a sequence of bytes, and whether the bytes end in the middle of
  a character. There is no answer if some byte cannot stand where it does.
* `joinLines` — every way of ending a line becomes a line feed.
* `parseFile`, `tokenizeFile`, `tokenizeFileStrict` — the same for the content of a file.
* `FileError` — why nothing is read from a file. A byte that cannot stand where it does is noticed
  before anything is read. A file that ends in the middle of a character can be read up to there,
  so that a fault before its end is reported as what it is.
-/

namespace ArithExpr

/-- The expression that a text is. -/
def parse (text filename : String) : Except (ParseError Expression) Expression :=
  (Parser.ofString text filename).parse.1

/-! ### Text as bytes -/

namespace Utf8

/-- A character of which some bytes have been read. -/
structure Pending where
  /-- The number of bytes still to come. -/
  missing : Nat
  /-- The bits of the code point that have been read. -/
  bits : Nat
  /-- The least value of the next byte. -/
  low : Nat
  /-- The greatest value of the next byte. -/
  high : Nat
deriving DecidableEq

/-- What a first byte of several begins. The bounds on the second byte exclude surrogates, code
points that are too great and those that have a shorter form. -/
def begin? (byte : Nat) : Option Pending :=
  if 0xC2 ≤ byte ∧ byte ≤ 0xDF then some ⟨1, byte - 0xC0, 0x80, 0xBF⟩
  else if byte = 0xE0 then some ⟨2, 0, 0xA0, 0xBF⟩
  else if byte = 0xED then some ⟨2, 0xD, 0x80, 0x9F⟩
  else if 0xE1 ≤ byte ∧ byte ≤ 0xEF then some ⟨2, byte - 0xE0, 0x80, 0xBF⟩
  else if byte = 0xF0 then some ⟨3, 0, 0x90, 0xBF⟩
  else if 0xF1 ≤ byte ∧ byte ≤ 0xF3 then some ⟨3, byte - 0xF0, 0x80, 0xBF⟩
  else if byte = 0xF4 then some ⟨3, 4, 0x80, 0x8F⟩
  else none

/-- The text that bytes stand for. -/
structure Decoded where
  chars : List Char
  /-- The bytes end in the middle of a character. -/
  truncated : Bool
deriving DecidableEq

/-- The text with a character in front. -/
def Decoded.push (c : Char) (text : Decoded) : Decoded :=
  ⟨c :: text.chars, text.truncated⟩

/-- The text of the bytes that follow those of a pending character. -/
def decodeFrom (pending : Option Pending) : List UInt8 → Option Decoded
  | [] => some ⟨[], pending.isSome⟩
  | byte :: bytes =>
    match pending with
    | none =>
      -- a character begins here
      if byte.toNat < 0x80 then (decodeFrom none bytes).map (.push (Char.ofNat byte.toNat))
      else
        match begin? byte.toNat with
        | some started => decodeFrom (some started) bytes
        | none => none
    | some ⟨missing, bits, low, high⟩ =>
      if low ≤ byte.toNat ∧ byte.toNat ≤ high then
        let bits := bits * 64 + byte.toNat % 64
        -- only the second byte of a character has bounds of its own
        match missing with
        | 0 | 1 => (decodeFrom none bytes).map (.push (Char.ofNat bits))
        | more + 2 => decodeFrom (some ⟨more + 1, bits, 0x80, 0xBF⟩) bytes
      else none

/-- The text of a whole sequence of bytes. -/
def decode (bytes : List UInt8) : Option Decoded :=
  decodeFrom none bytes

end Utf8

/-- Text in which a line feed, a carriage return, or a carriage return with a line feed behind it
ends a line, with a line feed for each. -/
def joinLines : List Char → List Char
  | [] => []
  | '\r' :: '\n' :: cs => '\n' :: joinLines cs
  | '\r' :: cs => '\n' :: joinLines cs
  | c :: cs => c :: joinLines cs

/-! ### Files -/

/-- A file: its name, and its bytes if it is there. -/
structure SourceFile where
  name : String
  content : Option (List UInt8)

/-- Why nothing comes of a file: it is not there, is no text, or its text is refused. -/
inductive FileError (ε : Type) where
  | missing
  | undecodable
  | content (error : ε)

namespace SourceFile

/-- The text of a file as far as it can be read. A carriage return is read once it is known whether
a line feed follows it, and that is never known if the file is truncated right behind it. -/
def readable (decoded : Utf8.Decoded) : List Char :=
  if decoded.truncated && decoded.chars.getLast? = some '\r' then joinLines decoded.chars.dropLast
  else joinLines decoded.chars

/-- Runs a reader on the text of a file. A truncated file is refused if the reader comes to its
end. -/
def readWith {ε α : Type} (file : SourceFile) (reader : Lexer → Except ε α × Lexer) :
    Except (FileError ε) α :=
  match file.content with
  | none => .error .missing
  | some bytes =>
    match Utf8.decode bytes with
    | none => .error .undecodable
    | some decoded =>
      let (result, lexer) := reader (.ofChars (readable decoded) file.name)
      -- the reader has come to the end exactly if its last reading of a character met it
      if decoded.truncated && lexer.last = .endOfText then .error .undecodable
      else result.mapError .content

end SourceFile

/-- The expression that the content of a file is. -/
def parseFile (file : SourceFile) : Except (FileError (ParseError Expression)) Expression :=
  file.readWith fun lexer =>
    let (result, parser) := (Parser.ofLexer lexer).parse
    (result, parser.lexer)

/-- The tokens of the content of a file, the end included. -/
def tokenizeFile (file : SourceFile) : Except (FileError IllegalCharacter) (List Token) :=
  file.readWith fun lexer =>
    let (tokens, lexer) := lexer.tokenize
    (.ok tokens, lexer)

/-- The tokens of the content of a file that holds no illegal character. -/
def tokenizeFileStrict (file : SourceFile) : Except (FileError IllegalCharacter) (List Token) :=
  file.readWith Lexer.tokenizeStrict

end ArithExpr
