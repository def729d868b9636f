/-!
# White space

The characters with Unicode's property `White_Space`.  U+FEFF is not among them
and U+0085 and the ideographic space are.
-/

namespace BackingServices.Text

/-- The code points with the property `White_Space`, as inclusive ranges in rising order. -/
def Blank.ranges : List (Nat × Nat) := [
  (0x09, 0x0D), (0x20, 0x20), (0x85, 0x85), (0xA0, 0xA0), (0x1680, 0x1680), (0x2000, 0x200A),
  (0x2028, 0x2029), (0x202F, 0x202F), (0x205F, 0x205F), (0x3000, 0x3000)]

/-- Whether a character is white space. -/
def isBlank (c : Char) : Bool :=
  Blank.ranges.any fun (first, last) => first ≤ c.toNat && c.toNat ≤ last

/-- Whether a text has nothing but white space. -/
def allBlank (s : String) : Bool := s.toList.all isBlank

end BackingServices.Text
