import EmbeddedTests.Text
/-!
Sets of code points, written as the ascending list of the points where membership changes: the
first is the least member, the second the least number above it that is no member, and so on.
The tables of character properties are such lists, of version 14 of the Unicode standard.
-/
namespace EmbeddedTests.Text

structure CodePoints where
  changes : List Nat

namespace CodePoints

/-- Membership flips at every change that is not above the point. -/
def insideAt : List Nat → Nat → Bool
  | [], _ => false
  | change :: later, n => if n < change then false else !insideAt later n

def contains (s : CodePoints) (c : Char) : Bool := insideAt s.changes c.toNat

end CodePoints
end EmbeddedTests.Text
