import ArithExpr.Fault

/-!
# Literals that are given as data

A literal may come from a document that holds more than text. Only text is accepted; anything else
is refused under the form in which such data is written.

* `Datum` — the data; `Datum.written` — its written form.
* `Datum.decimalValue` — the value of a piece of data that is the text of a literal.
-/

namespace ArithExpr

/-- What may stand in a document where a literal is asked for. -/
inductive Datum where
  | null
  | truth (value : Bool)
  | integer (value : Int)
  | text (value : String)
  | list (items : List Datum)

namespace Datum

mutual

/-- The form in which data is written. -/
def written : Datum → String
  | null => "None"
  | truth true => "True"
  | truth false => "False"
  | integer value => toString value
  | text value => quoted value
  | list items => "[" ++ writtenItems items ++ "]"

/-- The form in which the items of a list are written. -/
def writtenItems : List Datum → String
  | [] => ""
  | [item] => item.written
  | item :: items => item.written ++ ", " ++ writtenItems items

end

/-- The value of a piece of data that is the text of a literal, which stands at a place. -/
def decimalValue (datum : Datum) (location : Option Location) : Except Fault Rat :=
  match datum with
  | text value =>
    match ArithExpr.decimalValue value with
    | .ok q => .ok q
    | .error reason => .error (.numberConversion value reason location)
  | other => .error (.numberConversion other.written .notText location)

end Datum

end ArithExpr
