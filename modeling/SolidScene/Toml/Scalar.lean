import SolidScene.Digits
import SolidScene.Toml.Value

/-!
# Unquoted scalars of TOML

Booleans, integers, floats and moments. None of them shares a character with what may follow a
value, so a scalar is first cut off as a word and then told by its form.
-/
namespace SolidScene.Toml

def isBareChar (c : Char) : Bool := c.isAlphanum || c == '_' || c == '-'

def isWordChar (c : Char) : Bool := isBareChar c || c == '+' || c == '.' || c == ':'

/-! ## Numbers -/

/-- The value of digits with single underscores between them. -/
def digits? (base : Nat) : List Char → Option Nat
  | [] => none
  | c :: rest => do
    let first ← Digits.value? base c
    go first rest
where
  go (n : Nat) : List Char → Option Nat
    | [] => some n
    | '_' :: c :: rest => do
      let v ← Digits.value? base c
      go (base * n + v) rest
    | c :: rest => do
      let v ← Digits.value? base c
      go (base * n + v) rest

/-- Take off a sign: whether it is a minus. -/
def signed : List Char → Bool × List Char
  | '-' :: rest => (true, rest)
  | '+' :: rest => (false, rest)
  | cs => (false, cs)

/-- The value of decimal digits that have no leading zero. -/
def wholeDigits? (cs : List Char) : Option Nat :=
  match cs with
  | '0' :: _ :: _ => none
  | cs => digits? 10 cs

/-- An integer of 64 bits. Only decimal integers take a sign. -/
def integer? (word : List Char) : Option Int := do
  let n : Int ← match word with
    | '0' :: 'x' :: rest => Int.ofNat <$> digits? 16 rest
    | '0' :: 'o' :: rest => Int.ofNat <$> digits? 8 rest
    | '0' :: 'b' :: rest => Int.ofNat <$> digits? 2 rest
    | cs =>
      let (negative, rest) := signed cs
      (wholeDigits? rest).map fun n => if negative then -Int.ofNat n else Int.ofNat n
  if Int64.minValue.toInt ≤ n && n ≤ Int64.maxValue.toInt then some n else none

/-- Cut a list at the first element with a property, which goes with neither part. -/
def cutAt? (p : Char → Bool) (cs : List Char) : Option (List Char × List Char) :=
  match cs.dropWhile fun c => !p c with
  | [] => none
  | _ :: rest => some (cs.takeWhile fun c => !p c, rest)

/-- Whether `digits · 10 ^ exponent` is too large for double precision. -/
def overflows (digits : Nat) (exponent : Int) : Bool :=
  let size := (Nat.toDigits 10 digits).length + exponent
  if digits == 0 || size < 300 then false
  else if 400 < size then true
  else
    (Nat.pow 2 54 - 1) * Nat.pow 2 970 * Nat.pow 10 (-exponent).toNat ≤
      digits * Nat.pow 10 exponent.toNat

/-- Whether a word is a float: a whole part with a fraction or an exponent or both. A positive
number too large for double precision is none. -/
def isDecimalFloat (word : List Char) : Bool :=
  let (negative, unsigned) := signed word
  let (mantissa, exponent) :=
    match cutAt? (fun c => c == 'e' || c == 'E') unsigned with
    | some (mantissa, exponent) => (mantissa, some exponent)
    | none => (unsigned, none)
  let (whole, fraction) :=
    match cutAt? (· == '.') mantissa with
    | some (whole, fraction) => (whole, some fraction)
    | none => (mantissa, none)
  let exponentValue : Option Int :=
    match exponent with
    | none => some 0
    | some e =>
      let (negative, rest) := signed e
      (digits? 10 rest).map fun n => if negative then -Int.ofNat n else Int.ofNat n
  let fractionValue : Option (Nat × Nat) :=
    match fraction with
    | none => some (0, 0)
    | some f => (digits? 10 f).map fun n => (n, f.countP (· != '_'))
  match wholeDigits? whole, fractionValue, exponentValue with
  | some w, some (f, places), some e =>
    (fraction.isSome || exponent.isSome) &&
      (negative || !overflows (w * Nat.pow 10 places + f) (e - places))
  | _, _, _ => false

def isFloat (word : List Char) : Bool :=
  let (_, unsigned) := signed word
  unsigned == ['i', 'n', 'f'] || unsigned == ['n', 'a', 'n'] || isDecimalFloat word

/-! ## Moments -/

def figures? (n : Nat) (cs : List Char) : Option (Nat × List Char) :=
  if cs.length < n then none
  else (Digits.number? 10 (cs.take n)).map fun value => (value, cs.drop n)

def expect? (c : Char) : List Char → Option (List Char)
  | d :: rest => if d == c then some rest else none
  | [] => none

def isLeapYear (year : Nat) : Bool :=
  year % 4 == 0 && (year % 100 != 0 || year % 400 == 0)

def daysInMonth (year month : Nat) : Nat :=
  if month == 2 then (if isLeapYear year then 29 else 28)
  else if [4, 6, 9, 11].contains month then 30 else 31

/-- Take off a date that is in the calendar. -/
def date? (cs : List Char) : Option (List Char) := do
  let (year, cs) ← figures? 4 cs
  let (month, cs) ← figures? 2 (← expect? '-' cs)
  let (day, cs) ← figures? 2 (← expect? '-' cs)
  guard (1 ≤ month && month ≤ 12 && 1 ≤ day && day ≤ daysInMonth year month)
  return cs

/-- Take off a time of day, which may be a leap second and may have a fraction. -/
def time? (cs : List Char) : Option (List Char) := do
  let (hour, cs) ← figures? 2 cs
  let (minute, cs) ← figures? 2 (← expect? ':' cs)
  let (second, cs) ← figures? 2 (← expect? ':' cs)
  guard (hour ≤ 23 && minute ≤ 59 && second ≤ 60)
  match cs with
  | '.' :: c :: rest =>
    guard c.isDigit
    return rest.dropWhile Char.isDigit
  | cs => return cs

/-- Whether what follows a time is nothing or an offset. -/
def isOffset : List Char → Bool
  | [] => true
  | ['Z'] => true
  | ['z'] => true
  | sign :: cs =>
    (sign == '+' || sign == '-') &&
      match figures? 2 cs with
      | some (hour, ':' :: rest) =>
        match figures? 2 rest with
        | some (minute, []) => hour ≤ 23 && minute ≤ 59
        | _ => false
      | _ => false

/-- Whether a word is a time of day with an offset or without. -/
def isOffsetTime (word : List Char) : Bool :=
  match time? word with
  | some rest => isOffset rest
  | none => false

/-- Whether a word is a date, a time of day, or a date and a time with a `T` between them. -/
def isMoment (word : List Char) : Bool :=
  match date? word with
  | some [] => true
  | some (t :: rest) => (t == 'T' || t == 't') && isOffsetTime rest
  | none => time? word == some []

/-! ## Words -/

def Item.ofWord? (word : List Char) : Option Item :=
  if word == "true".toList then some (.boolean true)
  else if word == "false".toList then some (.boolean false)
  else if isMoment word then some (.moment (String.ofList word))
  else if isFloat word then some (.float (String.ofList word))
  else (integer? word).map .integer

/-- Read an unquoted scalar. A date may have its time behind a single space. -/
def scalar? (cs : List Char) : Option (Item × List Char) :=
  let word := cs.takeWhile isWordChar
  let rest := cs.dropWhile isWordChar
  let time :=
    match rest with
    | ' ' :: tail => tail.takeWhile isWordChar
    | _ => []
  if date? word == some [] && !time.isEmpty then
    if isOffsetTime time then
      some (.moment (String.ofList (word ++ ' ' :: time)), rest.drop (time.length + 1))
    else none
  else (Item.ofWord? word).map fun item => (item, rest)

end SolidScene.Toml
