/-!
# Digits

Digits of positional notation up to base sixteen, and the numbers that they write.
-/
namespace SolidScene.Digits

/-- The value of a digit of a base. Letters of either case stand for ten to fifteen. -/
def value? (base : Nat) (c : Char) : Option Nat :=
  let value :=
    if c.isDigit then c.toNat - '0'.toNat
    else if 'a' ≤ c && c ≤ 'f' then c.toNat - 'a'.toNat + 10
    else if 'A' ≤ c && c ≤ 'F' then c.toNat - 'A'.toNat + 10
    else base
  if value < base then some value else none

/-- The number that a list of digits writes; zero if it is empty. -/
def number? (base : Nat) (cs : List Char) : Option Nat :=
  cs.foldlM (fun n c => (value? base c).map (base * n + ·)) 0

/-- The lower-case hexadecimal digit of a value below sixteen. -/
def hexadecimal (value : Nat) : Char := (Nat.toDigits 16 value).headD '0'

/-- The two lower-case hexadecimal digits of a value below 256. -/
def ofByte (value : Nat) : List Char := [hexadecimal (value / 16), hexadecimal (value % 16)]

end SolidScene.Digits
