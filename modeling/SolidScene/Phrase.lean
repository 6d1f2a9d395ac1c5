/-!
# Phrases

English lists, as they appear in descriptions.
-/
namespace SolidScene.Phrase

/-- Join with commas and a last `and`: `a`, `a and b`, `a, b, and c`. -/
def series : List String → String
  | [] => ""
  | [only] => only
  | [first, second] => first ++ " and " ++ second
  | parts => ", ".intercalate parts.dropLast ++ ", and " ++ parts.getLast?.getD ""

/-- The text with an upper-case first letter, if that is a letter of the basic alphabet. -/
def capitalized (s : String) : String :=
  match s.toList with
  | [] => ""
  | c :: cs => String.ofList (c.toUpper :: cs)

end SolidScene.Phrase
