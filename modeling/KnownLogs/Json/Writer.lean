/-
Writing JSON text:

* `Json.escape`: a character of a text, with a backslash where the grammar asks
  for one;
* `Json.writeChars`: a value without blanks, members and items in their order.
-/
import KnownLogs.Json.Basic

namespace KnownLogs.Json

/-- A character inside quotes: the quote, the backslash and the control characters
are escaped. -/
def escape (c : Char) : List Char :=
  if c = '"' then ['\\', '"']
  else if c = '\\' then ['\\', '\\']
  else if c.toNat < 0x20 then '\\' :: 'u' :: Text.hexDigits 4 c.toNat
  else [c]

/-- A text in quotes. -/
def quote (s : String) : List Char :=
  '"' :: s.toList.flatMap escape ++ ['"']

/-- A number with an exponent, its digits before the point. -/
def writeDecimal (d : Decimal) : List Char :=
  (if d.negative then ['-'] else []) ++ (toString d.mantissa).toList ++ 'e' ::
    (toString d.exponent).toList

mutual

/-- The text of a value. -/
def writeChars : Json → List Char
  | .null => ['n', 'u', 'l', 'l']
  | .bool true => ['t', 'r', 'u', 'e']
  | .bool false => ['f', 'a', 'l', 's', 'e']
  | .int i => (toString i).toList
  | .decimal d => writeDecimal d
  | .nan => ['N', 'a', 'N']
  | .infinity negative => (if negative then ['-'] else []) ++ "Infinity".toList
  | .text s => quote s
  | .halved t => '"' :: t.spell escape (fun n => '\\' :: 'u' :: Text.hexDigits 4 n) ++ ['"']
  | .list items => '[' :: writeItems items
  | .record members => '{' :: writeMembers members

/-- The items of a list, each followed by a comma or the end. -/
def writeItems : List Json → List Char
  | [] => [']']
  | [v] => writeChars v ++ [']']
  | v :: w :: rest => writeChars v ++ ',' :: writeItems (w :: rest)

/-- The members of a record, each followed by a comma or the end. -/
def writeMembers : List (String × Json) → List Char
  | [] => ['}']
  | [(n, v)] => quote n ++ ':' :: writeChars v ++ ['}']
  | (n, v) :: w :: rest => quote n ++ ':' :: writeChars v ++ ',' :: writeMembers (w :: rest)

end

/-- The text of a value. -/
def write (v : Json) : String :=
  String.ofList (writeChars v)

end KnownLogs.Json
