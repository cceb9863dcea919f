/-
Characters, and the pieces of a text:

* `isBlank`: the characters with the White_Space property;
* `isSeparator`: these and the four information separators of ASCII, which also
  stand between words;
* `digitValue?`: the value of a digit of any script;
* `capitals`: a text in capitals, as far as a capital of ASCII can come of it;
* `trimChars`, `words`: a text without the blanks at its ends, and the words of
  a text.
-/

namespace KnownLogs.Text

/-! ### Blanks -/

/-- Characters with the White_Space property. -/
def isBlank (c : Char) : Bool :=
  let n := c.toNat
  (9 ≤ n && n ≤ 13) || n == 0x20 || n == 0x85 || n == 0xA0 || n == 0x1680 ||
    (0x2000 ≤ n && n ≤ 0x200A) || n == 0x2028 || n == 0x2029 || n == 0x202F || n == 0x205F ||
    n == 0x3000

/-- Characters that stand between words: the blanks and the information
separators of ASCII. -/
def isSeparator (c : Char) : Bool :=
  isBlank c || (0x1C ≤ c.toNat && c.toNat ≤ 0x1F)

/-! ### Digits -/

/-- Beyond ASCII, the characters of the general category Nd with the value zero. -/
def zeros : List Nat :=
  [0x660, 0x6F0, 0x7C0, 0x966, 0x9E6, 0xA66, 0xAE6, 0xB66, 0xBE6, 0xC66, 0xCE6, 0xD66, 0xDE6,
   0xE50, 0xED0, 0xF20, 0x1040, 0x1090, 0x17E0, 0x1810, 0x1946, 0x19D0, 0x1A80, 0x1A90, 0x1B50,
   0x1BB0, 0x1C40, 0x1C50, 0xA620, 0xA8D0, 0xA900, 0xA9D0, 0xA9F0, 0xAA50, 0xABF0, 0xFF10,
   0x104A0, 0x10D30, 0x11066, 0x110F0, 0x11136, 0x111D0, 0x112F0, 0x11450, 0x114D0, 0x11650,
   0x116C0, 0x11730, 0x118E0, 0x11950, 0x11C50, 0x11D50, 0x11DA0, 0x16A60, 0x16AC0, 0x16B50,
   0x1D7CE, 0x1D7D8, 0x1D7E2, 0x1D7EC, 0x1D7F6, 0x1E140, 0x1E2F0, 0x1E950, 0x1FBF0]

/-- The value of a decimal digit of any script. -/
def digitValue? (c : Char) : Option Nat :=
  let n := c.toNat
  if n < 0x80 then if 48 ≤ n ∧ n < 58 then some (n - 48) else none
  else (zeros.find? fun z => z ≤ n && n < z + 10).map fun z => n - z

/-! ### Capitals -/

/-- The capitals of a letter, if they are letters of ASCII. Some letters beyond ASCII
have such capitals as well, and a ligature has several. -/
def capital (c : Char) : List Char :=
  match c.toNat with
  | 0xDF => ['S', 'S']
  | 0x131 => ['I']
  | 0x17F => ['S']
  | 0xFB00 => ['F', 'F']
  | 0xFB01 => ['F', 'I']
  | 0xFB02 => ['F', 'L']
  | 0xFB03 => ['F', 'F', 'I']
  | 0xFB04 => ['F', 'F', 'L']
  | 0xFB05 | 0xFB06 => ['S', 'T']
  | _ => [c.toUpper]

/-- A text in capitals, as far as a capital of ASCII can come of it. -/
def capitals (s : String) : String :=
  String.ofList (s.toList.flatMap capital)

/-! ### Pieces -/

/-- A text without the characters of a class at its two ends. -/
def trimChars (drop : Char → Bool) (cs : List Char) : List Char :=
  ((cs.dropWhile drop).reverse.dropWhile drop).reverse

/-- A text without the characters of a class at its two ends. -/
def trim (drop : Char → Bool) (s : String) : String :=
  String.ofList (trimChars drop s.toList)

/-- Cuts a text at every character of a class; neighbours leave empty pieces. -/
def pieces (cut : Char → Bool) : List Char → List (List Char)
  | [] => [[]]
  | c :: cs =>
    match pieces cut cs with
    | [] => [[c]]
    | p :: ps => if cut c then [] :: p :: ps else (c :: p) :: ps

/-- The words of a text, in order. -/
def words (s : String) : List String :=
  ((pieces isSeparator s.toList).filter (fun p => !p.isEmpty)).map String.ofList

/-- The pieces of a text between the places where a given character stands. -/
def splitAt (c : Char) (s : String) : List String :=
  (pieces (· == c) s.toList).map String.ofList

/-- The texts in order, with `sep` between neighbours. -/
def join (sep : String) : List String → String
  | [] => ""
  | [s] => s
  | s :: t :: rest => s ++ sep ++ join sep (t :: rest)

end KnownLogs.Text
