import EmbeddedTests.Text.Blank
import EmbeddedTests.Text.CodePoints
/-!
Digits of every script, and reading whole numbers written with them.
-/
namespace EmbeddedTests.Text

/-- The zeros of the scripts with decimal digits; the other nine follow each of them. -/
def zeros : List Nat := [
  48, 1632, 1776, 1984, 2406, 2534, 2662, 2790, 2918, 3046, 3174, 3302, 3430, 3558, 3664, 3792,
  3872, 4160, 4240, 6112, 6160, 6470, 6608, 6784, 6800, 6992, 7088, 7232, 7248, 42528, 43216,
  43264, 43472, 43504, 43600, 44016, 65296, 66720, 68912, 69734, 69872, 69942, 70096, 70384,
  70736, 70864, 71248, 71360, 71472, 71904, 72016, 72784, 73040, 73120, 92768, 92864, 93008,
  120782, 120792, 120802, 120812, 120822, 123200, 123632, 125264, 130032]

def digits : CodePoints := ⟨[
  48, 58, 178, 180, 185, 186, 1632, 1642, 1776, 1786, 1984, 1994, 2406, 2416, 2534, 2544, 2662,
  2672, 2790, 2800, 2918, 2928, 3046, 3056, 3174, 3184, 3302, 3312, 3430, 3440, 3558, 3568, 3664,
  3674, 3792, 3802, 3872, 3882, 4160, 4170, 4240, 4250, 4969, 4978, 6112, 6122, 6160, 6170, 6470,
  6480, 6608, 6619, 6784, 6794, 6800, 6810, 6992, 7002, 7088, 7098, 7232, 7242, 7248, 7258, 8304,
  8305, 8308, 8314, 8320, 8330, 9312, 9321, 9332, 9341, 9352, 9361, 9450, 9451, 9461, 9470, 9471,
  9472, 10102, 10111, 10112, 10121, 10122, 10131, 42528, 42538, 43216, 43226, 43264, 43274,
  43472, 43482, 43504, 43514, 43600, 43610, 44016, 44026, 65296, 65306, 66720, 66730, 68160,
  68164, 68912, 68922, 69216, 69225, 69714, 69723, 69734, 69744, 69872, 69882, 69942, 69952,
  70096, 70106, 70384, 70394, 70736, 70746, 70864, 70874, 71248, 71258, 71360, 71370, 71472,
  71482, 71904, 71914, 72016, 72026, 72784, 72794, 73040, 73050, 73120, 73130, 92768, 92778,
  92864, 92874, 93008, 93018, 120782, 120832, 123200, 123210, 123632, 123642, 125264, 125274,
  127232, 127243, 130032, 130042]⟩

def digitValue? (c : Char) : Option Nat :=
  (zeros.find? fun z => z ≤ c.toNat && c.toNat < z + 10).map (c.toNat - ·)

def isDecimal (c : Char) : Bool := (digitValue? c).isSome

def isDigit (c : Char) : Bool := digits.contains c

def allDigits (t : Text) : Bool := !t.isEmpty && t.all isDigit

/-- Digits with at most one low line between neighbours; `value` is what was read so far. -/
def readDigits? (value : Nat) : Text → Option Nat
  | [] => some value
  | '_' :: c :: rest =>
    match digitValue? c with
    | some d => readDigits? (10 * value + d) rest
    | none => none
  | c :: rest =>
    match digitValue? c with
    | some d => readDigits? (10 * value + d) rest
    | none => none

/-- More digits than this are not read. -/
def digitLimit : Nat := 4300

def readNat? (t : Text) : Option Nat :=
  match t with
  | [] => none
  | c :: rest =>
    match digitValue? c with
    | none => none
    | some d => if (t.filter isDecimal).length > digitLimit then none else readDigits? d rest

def readInt? (t : Text) : Option Int :=
  match trim t with
  | '-' :: rest => (readNat? rest).map fun n => -(n : Int)
  | '+' :: rest => (readNat? rest).map fun n => (n : Int)
  | unsigned => (readNat? unsigned).map fun n => (n : Int)

end EmbeddedTests.Text
