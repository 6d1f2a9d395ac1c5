import SolidScene.Toml.Quoted
import SolidScene.Toml.Scalar

/-!
# Reading TOML

Keys, values and lines of a TOML document. A document that breaks a rule has no reading; why is not
told. Recursion is bounded by the nesting limit and by `size`, a number above the length of the
text.
-/
namespace SolidScene.Toml

/-! ## Space and comments -/

def skipBlanks (cs : List Char) : List Char := cs.dropWhile isBlank

/-- Take off the text of a comment: anything up to a control character. -/
def skipComment (cs : List Char) : List Char := cs.dropWhile fun c => !isControl c

/-- Take off what may stand behind a key and its value or a header: blanks, a comment, and the end
of the line or of the document. -/
def lineEnd? (cs : List Char) : Option (List Char) :=
  let rest := match skipBlanks cs with
    | '#' :: rest => skipComment rest
    | rest => rest
  if rest.isEmpty then some [] else newline? rest

/-- Take off blanks, line ends and comments, at most `lines` lines of them. A comment counts with
the end of its line only. -/
def skipLines : Nat → List Char → List Char
  | 0, cs => cs
  | lines + 1, cs =>
    match skipBlanks cs with
    | '#' :: rest =>
      match newline? (skipComment rest) with
      | some rest => skipLines lines rest
      | none => '#' :: rest
    | rest =>
      match newline? rest with
      | some rest => skipLines lines rest
      | none => rest

/-! ## Keys -/

def simpleKey? (cs : List Char) : Option (String × List Char) :=
  let bare := cs.takeWhile isBareChar
  if bare.isEmpty then lineText? cs else some (String.ofList bare, cs.dropWhile isBareChar)

/-- Read keys with dots between them, at most `keys` of them, with blanks around each. -/
def keyPath? : Nat → List Char → Option (List String × List Char)
  | 0, _ => none
  | keys + 1, cs => do
    let (key, rest) ← simpleKey? (skipBlanks cs)
    match skipBlanks rest with
    | '.' :: rest =>
      let (path, rest) ← keyPath? keys rest
      return (key :: path, rest)
    | rest => return ([key], rest)

/-- Read a dotted key: the path to its table, and its last part. -/
def key? (cs : List Char) : Option ((List String × String) × List Char) := do
  let (path, rest) ← keyPath? (nestingLimit - 1) cs
  let last ← path.getLast?
  return ((path.dropLast, last), rest)

/-- Read a key, an equals sign, and a value with blanks around it. -/
def pair? (value : List Char → Option (Item × List Char)) (cs : List Char) :
    Option ((List String × String × Item) × List Char) := do
  let ((path, key), rest) ← key? cs
  let rest ← expect? '=' rest
  let (item, rest) ← value (skipBlanks rest)
  return ((path, key, item), skipBlanks rest)

/-! ## Values -/

/-- Read the items of an array up to its bracket, at most `count` of them. The last one may have a
comma behind it. -/
def arrayItems? (size : Nat) (value : List Char → Option (Item × List Char)) :
    Nat → List Char → Option (List Item × List Char)
  | 0, _ => none
  | count + 1, cs =>
    match skipLines size cs with
    | ']' :: rest => some ([], rest)
    | cs => do
      let (item, rest) ← value cs
      match skipLines size rest with
      | ',' :: rest =>
        let (items, rest) ← arrayItems? size value count rest
        return (item :: items, rest)
      | ']' :: rest => return ([item], rest)
      | _ => none

/-- Read the pairs of an inline table up to its brace, at most `count` of them, and add them to the
entries. There is no comma behind the last one. -/
def inlinePairs? (value : List Char → Option (Item × List Char)) :
    Nat → Entries → List Char → Option (Entries × List Char)
  | 0, _, _ => none
  | count + 1, entries, cs => do
    let ((path, key, item), rest) ← pair? value cs
    let entries ← assign path key item .inline entries
    match rest with
    | ',' :: rest => inlinePairs? value count entries rest
    | c :: rest => if c == '\x7d' then return (entries, rest) else none
    | [] => none

/-- Read an inline table behind its brace. -/
def inlineTable? (size : Nat) (value : List Char → Option (Item × List Char))
    (cs : List Char) : Option (Item × List Char) :=
  match skipBlanks cs with
  | [] => none
  | c :: rest =>
    if c == '\x7d' then some (.table .inline [], rest)
    else (inlinePairs? value size [] cs).map fun r => (.table .inline r.1, r.2)

/-- Read a value; arrays and inline tables go at most `depth` levels deep. -/
def value? (size depth : Nat) (cs : List Char) : Option (Item × List Char) :=
  match cs with
  | [] => none
  | c :: rest =>
    if c == '"' || c == '\'' then (text? cs).map fun r => (.text r.1, r.2)
    else if c == '[' then
      match depth with
      | 0 => none
      | depth + 1 =>
        (arrayItems? size (value? size depth) size rest).map fun r => (.array r.1, r.2)
    else if c == '\x7b' then
      match depth with
      | 0 => none
      | depth + 1 => inlineTable? size (value? size depth) rest
    else scalar? cs

/-! ## Documents -/

/-- A document so far, and the path of the table that its lines belong to. -/
structure Reading where
  root : Entries
  current : List String

/-- Take a header in: the table that it opens becomes the current one. -/
def Reading.header (r : Reading) (path : List String) (key : String)
    (opening : String → Origin → Entries → Option Entries) : Option Reading := do
  let root ← descend false (opening key) path .header r.root
  return ⟨root, path ++ [key]⟩

def Reading.pair (r : Reading) (path : List String) (key : String) (item : Item) :
    Option Reading := do
  let root ← descend false (assign path key item) r.current .header r.root
  return { r with root }

/-- Read the line of a header behind its bracket. -/
def headerLine? (r : Reading) : List Char → Option (Reading × List Char)
  | '[' :: cs => do
    let ((path, key), rest) ← key? cs
    let rest ← expect? ']' (← expect? ']' rest)
    return (← r.header path key openRow, ← lineEnd? rest)
  | cs => do
    let ((path, key), rest) ← key? cs
    let rest ← expect? ']' rest
    return (← r.header path key openTable, ← lineEnd? rest)

/-- Read one line of a document that is not at its end. -/
def line? (size : Nat) (r : Reading) (cs : List Char) : Option (Reading × List Char) :=
  match newline? cs with
  | some rest => some (r, rest)
  | none =>
    match cs with
    | '#' :: _ => (lineEnd? cs).map fun rest => (r, rest)
    | '[' :: rest => headerLine? r rest
    | cs => do
      let ((path, key, item), rest) ← pair? (value? size (nestingLimit - 1)) cs
      return (← r.pair path key item, ← lineEnd? rest)

/-- Read at most `lines` lines, up to the end of the document. -/
def lines? (size : Nat) : Nat → Reading → List Char → Option Entries
  | 0, _, _ => none
  | lines + 1, r, cs =>
    match skipBlanks cs with
    | [] => some r.root
    | cs => do
      let (r, rest) ← line? size r cs
      lines? size lines r rest

/-- Read a document. A byte order mark at its start does not count. -/
def document? (text : String) : Option Entries :=
  let cs := match text.toList with
    | '\ufeff' :: rest => rest
    | cs => cs
  let size := cs.length + 1
  lines? size size ⟨[], []⟩ cs

end SolidScene.Toml
