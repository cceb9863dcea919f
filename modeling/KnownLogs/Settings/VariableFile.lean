/-
Files of variables, one line for each: a name, and behind an equality sign its text,
plain or in quotes; a number sign begins a remark.

* `VariableFile.bindingAt`: the variable at the front of a text; a line that cannot be
  read is passed over alone;
* `VariableFile.bindings`: the variables of a text, in order;
* `VariableFile.fill`: a text with the values of the variables that it names;
* `VariableFile.read`: the variables of a file, each once, filled in.
-/
import KnownLogs.Text.Basic

namespace KnownLogs.VariableFile

/-- A name and its text; without an equality sign there is no text. -/
abbrev Binding := String × Option String

/-! ### Reading -/

/-- What is read at the front of a text and what follows it, or the place where reading
ends in vain. -/
abbrev Reading (α : Type) := Except (List Char) (α × List Char)

/-- A blank inside a line. -/
def isLineBlank (c : Char) : Bool :=
  Text.isSeparator c && c != '\n'

/-- A text whose lines all end in the same way. -/
def withPlainEnds : List Char → List Char
  | [] => []
  | '\r' :: '\n' :: cs => '\n' :: withPlainEnds cs
  | c :: cs => (if c = '\r' then '\n' else c) :: withPlainEnds cs

/-- What follows the line at the front of a text. -/
def afterLine (cs : List Char) : List Char :=
  (cs.dropWhile (· != '\n')).drop 1

/-- What follows the word that may stand in front of a name. -/
def afterExport (cs : List Char) : List Char :=
  let rest := cs.drop 6
  if "export".toList.isPrefixOf cs && rest.head?.any isLineBlank then rest.dropWhile isLineBlank
  else cs

/-- A name, plain or in quotes. In front of a remark there is none. -/
def name : List Char → Reading (Option String)
  | '#' :: cs => .ok (none, '#' :: cs)
  | '\'' :: cs =>
    match cs.span (· != '\'') with
    | (c :: n, _ :: rest) => .ok (some (String.ofList (c :: n)), rest)
    | _ => .error ('\'' :: cs)
  | cs =>
    match cs.span fun c => c != '=' && c != '#' && !Text.isSeparator c with
    | ([], _) => .error cs
    | (n, rest) => .ok (some (String.ofList n), rest)

/-- A text up to the quote that ends it, and what follows the quote. A backslash and the
character behind it belong together, so that a quote there ends nothing. -/
def quoted? (mark : Char) : List Char → Option (List Char × List Char)
  | [] => none
  | '\\' :: c :: cs => (quoted? mark cs).map fun p => ('\\' :: c :: p.1, p.2)
  | c :: cs => if c = mark then some ([], cs) else (quoted? mark cs).map fun p => (c :: p.1, p.2)

/-- The character that a letter behind a backslash stands for, by the quotes around
it. -/
def escape? (mark c : Char) : Option Char :=
  if c = '\\' ∨ c = '\'' then some c
  else if mark = '\'' then none
  else
    match c with
    | '"' => some '"'
    | 'a' => some '\x07'
    | 'b' => some '\x08'
    | 'f' => some '\x0c'
    | 'n' => some '\n'
    | 'r' => some '\r'
    | 't' => some '\t'
    | 'v' => some '\x0b'
    | _ => none

/-- A text in quotes with its escapes resolved. -/
def unescaped (mark : Char) : List Char → List Char
  | [] => []
  | '\\' :: c :: cs =>
    match escape? mark c with
    | some d => d :: unescaped mark cs
    | none => '\\' :: unescaped mark (c :: cs)
  | c :: cs => c :: unescaped mark cs

/-- The part of a line before a remark, which starts with a number sign behind a
blank. -/
def withoutRemark : List Char → List Char
  | [] => []
  | c :: '#' :: cs => if isLineBlank c then [] else c :: withoutRemark ('#' :: cs)
  | c :: cs => c :: withoutRemark cs

/-- The text behind an equality sign. -/
def rightSide (cs : List Char) : Reading String :=
  let inQuotes (mark : Char) (bare rest : List Char) : Reading String :=
    match quoted? mark rest with
    | some (w, rest) => .ok (String.ofList (unescaped mark w), rest)
    | none => .error bare
  match cs.dropWhile isLineBlank with
  | '\'' :: rest => inQuotes '\'' ('\'' :: rest) rest
  | '"' :: rest => inQuotes '"' ('"' :: rest) rest
  | _ =>
    let line := cs.takeWhile (· != '\n')
    .ok (String.ofList (Text.trimChars isLineBlank (withoutRemark line)), cs.dropWhile (· != '\n'))

/-- The end of a line, with a remark in front of it or not. -/
def lineEnd (cs : List Char) : Reading Unit :=
  let rest := match cs.dropWhile isLineBlank with
    | '#' :: rest => rest.dropWhile (· != '\n')
    | rest => rest
  match rest with
  | [] => .ok ((), [])
  | '\n' :: rest => .ok ((), rest)
  | rest => .error rest

/-- The variable of a line, if it is one of a variable. -/
def line (cs : List Char) : Except (List Char) (Option Binding × List Char) := do
  let (name, cs) ← name (afterExport cs)
  let (text, cs) ← match cs.dropWhile isLineBlank with
    | '=' :: rest => (rightSide rest).map fun p => (some p.1, p.2)
    | rest => .ok (none, rest)
  let ((), cs) ← lineEnd cs
  return (name.map fun n => (n, text), cs)

/-- The variable at the front of a text, if there is one, and what follows its line. -/
def bindingAt (cs : List Char) : Option Binding × List Char :=
  match cs.dropWhile Text.isSeparator with
  | [] => (none, [])
  | c :: rest =>
    match line (c :: rest) with
    | .ok found => found
    | .error place => (none, afterLine place)

/-- The variables of a text, in order. -/
def bindings (cs : List Char) : List Binding :=
  let (found, rest) := bindingAt cs
  if _h : rest.length < cs.length then found.toList ++ bindings rest else found.toList
termination_by cs.length

/-! ### Filling in -/

/-- The name behind an opening curly bracket, the text to use where there is no such
variable, and what follows the closing bracket. -/
def reference? (cs : List Char) : Option (String × String × List Char) :=
  match cs.span fun c => c != '\x7d' && c != ':' with
  | (n, '\x7d' :: rest) => some (String.ofList n, "", rest)
  | (n, ':' :: '-' :: rest) =>
    match rest.span (· != '\x7d') with
    | (otherwise, _ :: rest) => some (String.ofList n, String.ofList otherwise, rest)
    | _ => none
  | _ => none

/-- A text with the values of the variables that it names in curly brackets behind a
dollar sign. At most `fuel` characters and names are looked at. -/
def fillChars (value? : String → Option String) : Nat → List Char → List Char
  | 0, cs => cs
  | _, [] => []
  | fuel + 1, c :: cs =>
    match if c = '$' ∧ cs.head? = some '\x7b' then reference? (cs.drop 1) else none with
    | some (n, otherwise, rest) =>
      ((value? n).getD otherwise).toList ++ fillChars value? fuel rest
    | none => c :: fillChars value? fuel cs

/-- A text with the values of the variables that it names. -/
def fill (value? : String → Option String) (s : String) : String :=
  String.ofList (fillChars value? s.length s.toList)

/-- Sets a variable: in the place of the one of that name, or at the end. -/
def set (b : Binding) : List Binding → List Binding
  | [] => [b]
  | c :: rest => if c.1 = b.1 then b :: rest else c :: set b rest

/-- The text of a variable: the file says it before the environment does, and one without
a text counts as empty. -/
def valueOf? (environment : List (String × String)) (known : List Binding) (name : String) :
    Option String :=
  match known.lookup name with
  | some text => some (text.getD "")
  | none => environment.lookup name

/-- The variables of a file, each once and with its last text, filled in from the lines
before and from the environment. A mark of the byte order in front of the file does not
count. -/
def read (environment : List (String × String)) (s : String) : List Binding :=
  let cs := match s.toList with
    | '\uFEFF' :: cs => cs
    | cs => cs
  (bindings (withPlainEnds cs)).foldl
    (fun known b => set (b.1, b.2.map (fill (valueOf? environment known))) known) []

end KnownLogs.VariableFile
