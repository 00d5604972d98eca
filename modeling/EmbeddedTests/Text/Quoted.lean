import EmbeddedTests.Text.Printable
/-!
Quoted texts. Single quotes, unless the text has a single quote and no double one; a backslash
before the quote, before itself and before the letter of a line feed, carriage return or tab; other
characters that cannot be printed as two, four or eight hexadecimal digits.
-/
namespace EmbeddedTests.Text

def hexDigits (width n : Nat) : Text := padLeft width '0' (Nat.toDigits 16 n)

def quoteMark (t : Text) : Char := if '\'' ∈ t && '"' ∉ t then '"' else '\''

def hexEscape (c : Char) : Text :=
  if c.toNat < 0x100 then "\\x" ++ hexDigits 2 c.toNat
  else if c.toNat < 0x10000 then "\\u" ++ hexDigits 4 c.toNat
  else "\\U" ++ hexDigits 8 c.toNat

def escapeChar (mark c : Char) : Text :=
  if c = mark || c = '\\' then ['\\', c]
  else if c = '\n' then "\\n"
  else if c = '\r' then "\\r"
  else if c = '\t' then "\\t"
  else if isPrintable c then [c]
  else hexEscape c

def quoted (t : Text) : Text :=
  let mark := quoteMark t
  mark :: (t.map (escapeChar mark)).flatten ++ [mark]

end EmbeddedTests.Text
