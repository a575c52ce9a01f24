/-
Texts measured in bytes of their encoding.
-/

namespace Grove.Text

/-- The first characters that fit into so many bytes. -/
def charsWithin : Nat → List Char → List Char
  | _, [] => []
  | bytes, c :: cs =>
    if c.utf8Size ≤ bytes then c :: charsWithin (bytes - c.utf8Size) cs else []

/-- The longest beginning of a text that fits into so many bytes. -/
def firstBytes (bytes : Nat) (s : String) : String := String.ofList (charsWithin bytes s.toList)

end Grove.Text
