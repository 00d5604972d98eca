import EmbeddedTests.Text.Alphanumeric
import EmbeddedTests.Text.LetterCase
import EmbeddedTests.Text.Numeral
import EmbeddedTests.Text.Quoted
/-!
Patterns that an error message or a warning is searched for: the tree of a pattern, the sets of
characters in it, and what can be wrong with the text of one.
-/
namespace EmbeddedTests

/-- What the flags of a pattern, or of a part of it, ask for. -/
structure Mode where
  ignoreCase : Bool := false
  /-- The line anchors hold at every line, not only at the ends of the text. -/
  multiline : Bool := false
  /-- A dot matches a line feed too. -/
  dotAll : Bool := true
  /-- Classes know ASCII characters only. -/
  ascii : Bool := false
  /-- Blanks and comments in the pattern are left out. -/
  verbose : Bool := false
  deriving DecidableEq, Repr

inductive ClassItem where
  /-- The code points between two; a code point need not be that of a character. -/
  | range (first last : Nat)
  | digit (holds : Bool)
  | space (holds : Bool)
  | word (holds : Bool)
  deriving DecidableEq, Repr

structure CharSet where
  negated : Bool := false
  items : List ClassItem
  ignoreCase : Bool := false
  ascii : Bool := false
  deriving DecidableEq, Repr

inductive Edge where
  | textStart
  | lineStart
  /-- The end of the text, or before a line feed that ends it. -/
  | textEnd
  | lineEnd
  | absoluteEnd
  | word (holds ascii : Bool)
  deriving DecidableEq, Repr

inductive Manner where
  | greedy | lazy | possessive
  deriving DecidableEq, Repr

inductive Pattern where
  | empty
  | chars (set : CharSet)
  | edge (e : Edge)
  /-- The text of a group again. -/
  | again (group : Nat) (ignoreCase ascii : Bool)
  | seq (first second : Pattern)
  | either (first second : Pattern)
  /-- At least `least` times, and `most` times at most if that is given. -/
  | repeated (body : Pattern) (least : Nat) (most : Option Nat) (manner : Manner)
  | group (index : Nat) (body : Pattern)
  /-- Matched in one way only: no other way is tried when what follows fails. -/
  | once (body : Pattern)
  | ahead (holds : Bool) (body : Pattern)
  | behind (holds : Bool) (width : Nat) (body : Pattern)
  /-- `yes` if the group has matched, else `no`. -/
  | given (group : Nat) (yes no : Pattern)
  deriving Repr

namespace CharSet

open Text

def sameCapital : List (List Nat) := [
  [0x69, 0x131], [0x73, 0x17f], [0xb5, 0x3bc], [0x345, 0x3b9, 0x1fbe], [0x390, 0x1fd3],
  [0x3b0, 0x1fe3], [0x3b2, 0x3d0], [0x3b5, 0x3f5], [0x3b8, 0x3d1], [0x3ba, 0x3f0],
  [0x3c0, 0x3d6], [0x3c1, 0x3f1], [0x3c2, 0x3c3], [0x3c6, 0x3d5], [0x432, 0x1c80],
  [0x434, 0x1c81], [0x43e, 0x1c82], [0x441, 0x1c83], [0x442, 0x1c84, 0x1c85], [0x44a, 0x1c86],
  [0x463, 0x1c87], [0x1c88, 0xa64b], [0x1e61, 0x1e9b], [0xfb05, 0xfb06]]

def fold (ascii : Bool) (c : Char) : Char :=
  if ascii then c.toLower
  else if c.toNat = 0x130 then 'i'
  else smallForm c

def variants (ascii : Bool) (c : Char) : List Char :=
  if ascii then [c]
  else match sameCapital.find? (·.contains c.toNat) with
    | some letters => letters.map Char.ofNat
    | none => [c]

def sources (ascii : Bool) (c : Char) : List Char :=
  if ascii then [c, c.toUpper]
  else
    let above := smallForms.filterMap fun r =>
      let n := ((c.toNat : Int) - r.shift).toNat
      if r.first ≤ n && n ≤ r.last && (n - r.first) % r.step == 0 then some (Char.ofNat n) else none
    c :: above ++ (if c = 'i' then [Char.ofNat 0x130] else [])

def isSpace (ascii : Bool) (c : Char) : Bool :=
  if ascii then c == ' ' || (9 ≤ c.toNat && c.toNat ≤ 13) else isBlank c

def isWord (ascii : Bool) (c : Char) : Bool :=
  if ascii then c.isAlphanum || c == '_' else isWordChar c

def isDecimalDigit (ascii : Bool) (c : Char) : Bool :=
  if ascii then c.isDigit else isDecimal c

def itemHas (s : CharSet) (c : Char) : ClassItem → Bool
  | .range first last =>
    if s.ignoreCase then
      ((variants s.ascii c).flatMap (sources s.ascii)).any fun v =>
        first ≤ v.toNat && v.toNat ≤ last
    else first ≤ c.toNat && c.toNat ≤ last
  | .digit holds => isDecimalDigit s.ascii c == holds
  | .space holds => isSpace s.ascii c == holds
  | .word holds => isWord s.ascii c == holds

def contains (s : CharSet) (c : Char) : Bool :=
  let c := if s.ignoreCase then fold s.ascii c else c
  s.items.any (s.itemHas c) != s.negated

end CharSet

/-- What is wrong with the text of a pattern. -/
inductive PatternFault where
  | trailingBackslash
  | openSet
  | badRange (first last : Text)
  | badEscape (escape : Text)
  | shortEscape (escape : Text)
  | bigOctal (escape : Text)
  | noCharName
  | noBrace
  | unknownCharName (name : Text)
  | nothingToRepeat
  | repeatedTwice
  | leastAboveMost
  | repeatTooLarge
  | openGroup
  | openComment
  | strayClose
  | unexpectedEnd
  | unknownExtension (text : Text)
  | noGroupName
  | openName (close : Char)
  | badGroupName (name : Text)
  | unknownGroupName (name : Text)
  | takenGroupName (name : Text) (group former : Nat)
  | badGroupNumber
  | noSuchGroup (group : Nat)
  | groupStillOpen
  | groupInLookbehind
  | tooManyBranches
  | lateFlags
  | localeFlag
  | clashingFlags
  | flagsUnended
  | unknownFlag
  | noFlag
  | noColon
  | fixedFlagOff
  | flagOnAndOff
  | variableLookbehind
  | longLookbehind
  deriving DecidableEq, Repr

namespace PatternFault

open Text

def text : PatternFault → Text
  | trailingBackslash => "bad escape (end of pattern)"
  | openSet => "unterminated character set"
  | badRange first last => "bad character range " ++ first ++ "-" ++ last
  | badEscape escape => "bad escape " ++ escape
  | shortEscape escape => "incomplete escape " ++ escape
  | bigOctal escape => "octal escape value " ++ escape ++ " outside of range 0-0o377"
  | noCharName => "missing character name"
  | noBrace => "missing \x7b"
  | unknownCharName name => "undefined character name " ++ quoted name
  | nothingToRepeat => "nothing to repeat"
  | repeatedTwice => "multiple repeat"
  | leastAboveMost => "min repeat greater than max repeat"
  | repeatTooLarge => "the repetition number is too large"
  | openGroup => "missing ), unterminated subpattern"
  | openComment => "missing ), unterminated comment"
  | strayClose => "unbalanced parenthesis"
  | unexpectedEnd => "unexpected end of pattern"
  | unknownExtension t => "unknown extension " ++ t
  | noGroupName => "missing group name"
  | openName close => "missing " ++ [close] ++ ", unterminated name"
  | badGroupName name => "bad character in group name " ++ quoted name
  | unknownGroupName name => "unknown group name " ++ quoted name
  | takenGroupName name group former =>
    "redefinition of group name " ++ quoted name ++ " as group " ++ ofNat group ++ "; was group "
      ++ ofNat former
  | badGroupNumber => "bad group number"
  | noSuchGroup group => "invalid group reference " ++ ofNat group
  | groupStillOpen => "cannot refer to an open group"
  | groupInLookbehind => "cannot refer to group defined in the same lookbehind subpattern"
  | tooManyBranches => "conditional backref with more than two branches"
  | lateFlags => "global flags not at the start of the expression"
  | localeFlag => "bad inline flags: cannot use 'L' flag with a str pattern"
  | clashingFlags => "bad inline flags: flags 'a', 'u' and 'L' are incompatible"
  | flagsUnended => "missing -, : or )"
  | unknownFlag => "unknown flag"
  | noFlag => "missing flag"
  | noColon => "missing :"
  | fixedFlagOff => "bad inline flags: cannot turn off flags 'a', 'u' and 'L'"
  | flagOnAndOff => "bad inline flags: flag turned on and off"
  | variableLookbehind => "look-behind requires fixed-width pattern"
  | longLookbehind => "looks too much behind"

end PatternFault

/-- A fault in a pattern and, for most faults, the offset of the place. -/
structure PatternError where
  fault : PatternFault
  source : Text
  offset : Option Nat
  deriving DecidableEq, Repr

namespace PatternError

open Text

/-- The line and column of an offset, both from one; given when the pattern has several lines. -/
def placeText (source : Text) (offset : Nat) : Text :=
  let before := source.take offset
  if '\n' ∈ source then
    " (line " ++ ofNat (before.count '\n' + 1) ++ ", column "
      ++ ofNat ((before.reverse.takeWhile (· ≠ '\n')).length + 1) ++ ")"
  else []

def message (e : PatternError) : Text :=
  match e.offset with
  | none => e.fault.text
  | some offset =>
    e.fault.text ++ " at position " ++ ofNat offset ++ placeText e.source offset

end PatternError
end EmbeddedTests
