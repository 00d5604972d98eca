import EmbeddedTests.Text
/-!
Blank characters: what is trimmed, what separates words, and what makes a line of a test buffer a
continuation line.
-/
namespace EmbeddedTests.Text

/-- Tab to carriage return, the four information separators, the space, next line, and the
space, line and paragraph separators of Unicode. The zero width ones are not blank. -/
def isBlank (c : Char) : Bool :=
  let n := c.toNat
  (9 ≤ n && n ≤ 13) || (28 ≤ n && n ≤ 32) || n == 0x85 || n == 0xa0 || n == 0x1680
    || (0x2000 ≤ n && n ≤ 0x200a) || n == 0x2028 || n == 0x2029 || n == 0x202f
    || n == 0x205f || n == 0x3000

def isMargin (c : Char) : Bool := c == ' ' || c == '\t'

def trimStart (t : Text) : Text := t.dropWhile isBlank

def trimEnd (t : Text) : Text := dropEnd isBlank t

def trim (t : Text) : Text := strip isBlank t

def allBlank (t : Text) : Bool := t.all isBlank

/-- The first word and what follows the blanks after it; none of a blank text. -/
def firstWord? (t : Text) : Option (Text × Text) :=
  match trimStart t with
  | [] => none
  | c :: rest =>
    let word := (c :: rest).takeWhile (!isBlank ·)
    some (word, trimStart ((c :: rest).dropWhile (!isBlank ·)))

theorem margin_cases {c : Char} (h : isMargin c = true) : c = ' ' ∨ c = '\t' := by
  simpa [isMargin] using h

theorem is_blank_of_is_margin {c : Char} (h : isMargin c = true) : isBlank c = true := by
  rcases margin_cases h with rfl | rfl <;> rfl

end EmbeddedTests.Text
