import SolidScene.Digits

/-!
# Quoted text of TOML

The four forms of a TOML string, how text is written in them, and how it is read. A written text
takes the first form that needs no escape for it; if there is none, control characters, backslashes
and quotes are escaped.
-/
namespace SolidScene.Toml

/-! ## Characters -/

def isBlank (c : Char) : Bool := c == ' ' || c == '\t'

def isControl (c : Char) : Bool := (c.toNat < 32 && c != '\t') || c.toNat == 127

/-- Take one line end off: a line feed, with or without a carriage return before it. -/
def newline? : List Char → Option (List Char)
  | '\n' :: rest => some rest
  | '\r' :: '\n' :: rest => some rest
  | _ => none

def skipBlankLines : List Char → List Char
  | ' ' :: rest => skipBlankLines rest
  | '\t' :: rest => skipBlankLines rest
  | '\n' :: rest => skipBlankLines rest
  | '\r' :: '\n' :: rest => skipBlankLines rest
  | rest => rest

/-! ## Forms -/

/-- A way to quote text. A form over several lines has three quotes on either side and starts after
a line end that follows them. -/
structure QuoteForm where
  /-- Literal text stands for itself; basic text knows escapes. -/
  isLiteral : Bool
  severalLines : Bool
deriving DecidableEq, Repr

namespace QuoteForm

def quote (f : QuoteForm) : Char := if f.isLiteral then '\'' else '"'

def mark (f : QuoteForm) : List Char := List.replicate (if f.severalLines then 3 else 1) f.quote

end QuoteForm

/-! ## Writing -/

def longestRun (q : Char) (s : List Char) : Nat :=
  (s.foldl (fun (run, longest) c =>
    let run := if c == q then run + 1 else 0
    (run, max longest run)) (0, 0)).2

/-- The form that a text is written in. -/
def QuoteForm.forText (s : List Char) : QuoteForm :=
  let control := s.any fun c => isControl c && c != '\n'
  let backslash := s.contains '\\'
  let line := s.contains '\n'
  let doubles := longestRun '"' s
  let singles := longestRun '\'' s
  if !control && !backslash && doubles == 0 && !line then ⟨false, false⟩
  else if !control && singles == 0 && !line then ⟨true, false⟩
  else if !control && !backslash && doubles ≤ 2 then ⟨false, true⟩
  else if !control && singles ≤ 2 then ⟨true, true⟩
  else ⟨false, line⟩

/-- A character inside basic text; quotes are seen to by `escapeBasic`. -/
def escapedChar (severalLines : Bool) (c : Char) : List Char :=
  match c with
  | '\x08' => ['\\', 'b']
  | '\t' => ['\\', 't']
  | '\x0c' => ['\\', 'f']
  | '\r' => ['\\', 'r']
  | '\\' => ['\\', '\\']
  | '\n' => if severalLines then ['\n'] else ['\\', 'n']
  | c =>
    if isControl c then
      ['\\', 'u', '0', '0'] ++ (Digits.ofByte c.toNat).map Char.toUpper
    else [c]

/-- The inside of basic text. On one line every quote is escaped; over several lines only the third
one in a row is. -/
def escapeBasic (severalLines : Bool) (run : Nat) : List Char → List Char
  | [] => []
  | c :: rest =>
    if c == '"' then
      if (if severalLines then 2 else 0) < run + 1 then
        '\\' :: '"' :: escapeBasic severalLines 0 rest
      else '"' :: escapeBasic severalLines (run + 1) rest
    else escapedChar severalLines c ++ escapeBasic severalLines 0 rest

def quoteChars (s : List Char) : List Char :=
  let form := QuoteForm.forText s
  let start := if form.severalLines && s.contains '\n' then ['\n'] else []
  let inside := if form.isLiteral then s else escapeBasic form.severalLines 0 s
  form.mark ++ start ++ inside ++ form.mark

def quote (s : String) : String := String.ofList (quoteChars s.toList)

/-! ## Reading -/

/-- The character of a hexadecimal number with exactly these digits. -/
def charOfHex? (digits : List Char) : Option Char := do
  let n ← Digits.number? 16 digits
  if n.isValidChar then some (Char.ofNat n) else none

/-- Read a character that is written as a hexadecimal number of so many digits. -/
def hexChar? (count : Nat) (cs : List Char) : Option (Char × List Char) :=
  let digits := cs.take count
  if digits.length = count then (charOfHex? digits).map fun c => (c, cs.drop count) else none

/-- Read what follows the backslash of an escape. -/
def escape? : List Char → Option (Char × List Char)
  | 'b' :: rest => some ('\x08', rest)
  | 't' :: rest => some ('\t', rest)
  | 'n' :: rest => some ('\n', rest)
  | 'f' :: rest => some ('\x0c', rest)
  | 'r' :: rest => some ('\r', rest)
  | '"' :: rest => some ('"', rest)
  | '\\' :: rest => some ('\\', rest)
  | 'u' :: rest => hexChar? 4 rest
  | 'U' :: rest => hexChar? 8 rest
  | _ => none

/-- The end of quoted text: what the quotes before the closing ones stand for, and the rest. Over
several lines, up to two quotes may stand right before the closing three. -/
def closing? (form : QuoteForm) (cs : List Char) : Option (List Char × List Char) :=
  let run := (cs.takeWhile (· == form.quote)).length
  let width := if form.severalLines then 3 else 1
  if run < width then none
  else
    let extra := if form.severalLines then min (run - 3) 2 else 0
    some (List.replicate extra form.quote, cs.drop (extra + width))

/-- The next piece of quoted text before its end: a character, a line end, an escape, or an escaped
line end with the blank lines after it, which stands for nothing. -/
def piece? (form : QuoteForm) (cs : List Char) : Option (List Char × List Char) :=
  match cs with
  | [] => none
  | c :: rest =>
    if c == '\\' && !form.isLiteral then
      match escape? rest with
      | some (e, rest) => some ([e], rest)
      | none =>
        if form.severalLines then
          (newline? (rest.dropWhile isBlank)).map fun rest => ([], skipBlankLines rest)
        else none
    else
      match newline? cs with
      | some rest => if form.severalLines then some (['\n'], rest) else none
      | none => if isControl c then none else some ([c], rest)

/-! Every piece takes something off, so the reading of quoted text comes to an end. -/

theorem length_lt_of_newline? {cs rest : List Char} (h : newline? cs = some rest) :
    rest.length < cs.length := by
  fun_cases newline? cs <;> grind [newline?]

theorem length_skipBlankLines_le (cs : List Char) :
    (skipBlankLines cs).length ≤ cs.length := by
  fun_induction skipBlankLines cs <;> grind

theorem length_le_of_hexChar? {count : Nat} {cs rest : List Char} {c : Char}
    (h : hexChar? count cs = some (c, rest)) : rest.length ≤ cs.length := by
  simp only [hexChar?] at h
  split at h
  · obtain ⟨_, _, h⟩ := Option.map_eq_some_iff.1 h
    simp [← (Prod.mk.inj h).2]
  · simp at h

theorem length_lt_of_escape? {cs rest : List Char} {c : Char} (h : escape? cs = some (c, rest)) :
    rest.length < cs.length := by
  fun_cases escape? cs with
  | case8 tail => exact Nat.lt_succ_of_le (length_le_of_hexChar? h)
  | case9 tail => exact Nat.lt_succ_of_le (length_le_of_hexChar? h)
  | _ => grind [escape?]

theorem length_lt_of_piece? {form : QuoteForm} {cs piece rest : List Char}
    (h : piece? form cs = some (piece, rest)) : rest.length < cs.length := by
  have escape {c : Char} {cs rest : List Char} (h : escape? cs = some (c, rest)) :=
    length_lt_of_escape? h
  have line {cs rest : List Char} (h : newline? cs = some rest) := length_lt_of_newline? h
  fun_cases piece? form cs with
  | case3 c tail basic noEscape several =>
    have h : (newline? (tail.dropWhile isBlank)).map (fun r => ([], skipBlankLines r)) =
        some (piece, rest) := by simpa [piece?, basic, noEscape, several] using h
    obtain ⟨after, hafter, h⟩ := Option.map_eq_some_iff.1 h
    rw [← (Prod.mk.inj h).2, List.length_cons]
    have := length_skipBlankLines_le after
    have := (List.dropWhile_sublist isBlank (l := tail)).length_le
    have := line hafter
    omega
  | _ => grind [piece?]

/-- Read quoted text up to its end. -/
def quotedBody? (form : QuoteForm) (cs : List Char) : Option (List Char × List Char) :=
  match closing? form cs with
  | some done => some done
  | none =>
    match _ : piece? form cs with
    | none => none
    | some (piece, rest) =>
      (quotedBody? form rest).map fun (body, rest) => (piece ++ body, rest)
termination_by cs.length
decreasing_by exact length_lt_of_piece? ‹_›

/-- Read quoted text after its opening quotes. A line end right after those of a form over several
lines does not count. -/
def quotedTail? (form : QuoteForm) (cs : List Char) : Option (String × List Char) :=
  let inside := if form.severalLines then (newline? cs).getD cs else cs
  (quotedBody? form inside).map fun (body, rest) => (String.ofList body, rest)

/-- Read a string on one line, as keys are quoted. -/
def lineText? : List Char → Option (String × List Char)
  | '"' :: rest => quotedTail? ⟨false, false⟩ rest
  | '\'' :: rest => quotedTail? ⟨true, false⟩ rest
  | _ => none

def text? : List Char → Option (String × List Char)
  | '"' :: '"' :: '"' :: rest => quotedTail? ⟨false, true⟩ rest
  | '\'' :: '\'' :: '\'' :: rest => quotedTail? ⟨true, true⟩ rest
  | cs => lineText? cs

end SolidScene.Toml
