/-!
# Blank characters

The characters of the Unicode property White_Space, and texts without them at their ends.
-/

namespace HotelBooking.Text

/-- The first and the last character of each range of blanks. -/
def blankRanges : List (Nat × Nat) :=
  [(0x9, 0xD), (0x20, 0x20), (0x85, 0x85), (0xA0, 0xA0), (0x1680, 0x1680), (0x2000, 0x200A),
    (0x2028, 0x2029), (0x202F, 0x202F), (0x205F, 0x205F), (0x3000, 0x3000)]

def isBlank (c : Char) : Bool :=
  blankRanges.any fun (first, last) => first ≤ c.toNat && c.toNat ≤ last

def skipBlanks (cs : List Char) : List Char := cs.dropWhile isBlank

/-- The text without the blanks at its ends. -/
def trim (s : String) : String :=
  String.ofList (skipBlanks (skipBlanks s.toList).reverse).reverse

end HotelBooking.Text
