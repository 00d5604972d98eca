/-!
A text is a list of code points, so an offset is a count of code points and a rule on texts is a
recursion on the list. This module has the cuts that the other modules need: at a separator, at
the first occurrence of a character, at either end.
-/
namespace EmbeddedTests

abbrev Text := List Char

instance : Coe String Text := ⟨String.toList⟩

instance : LawfulBEq Text := inferInstanceAs (LawfulBEq (List Char))

namespace Text

/-- The pieces between characters that satisfy `p`; a text without one is one piece. -/
def splitWhere (p : Char → Bool) : Text → List Text
  | [] => [[]]
  | c :: rest =>
    if p c then [] :: splitWhere p rest
    else match splitWhere p rest with
      | [] => [[c]]
      | piece :: pieces => (c :: piece) :: pieces

def splitOn (sep : Char) (t : Text) : List Text := splitWhere (· == sep) t

/-- The maximal runs of characters that do not satisfy `p`. -/
def runsOf (p : Char → Bool) (t : Text) : List Text := (splitWhere p t).filter (!·.isEmpty)

def cutAt? (sep : Char) : Text → Option (Text × Text)
  | [] => none
  | c :: rest =>
    if c = sep then some ([], rest)
    else (cutAt? sep rest).map fun (before, after) => (c :: before, after)

/-- What stands before and after the last character that satisfies `p`, if there is one. -/
def cutAtLast? (p : Char → Bool) : Text → Option (Text × Text)
  | [] => none
  | c :: rest =>
    match cutAtLast? p rest with
    | some (before, after) => some (c :: before, after)
    | none => if p c then some ([], rest) else none

def firstLine (t : Text) : Text := t.takeWhile (· ≠ '\n')

/-- What follows the first line feed; empty when there is none. -/
def laterLines (t : Text) : Text := (t.dropWhile (· ≠ '\n')).tail

def joinWith (sep : Text) (parts : List Text) : Text := List.intercalate sep parts

def joinLines (lines : List Text) : Text := joinWith ['\n'] lines

def dropEnd (p : Char → Bool) : Text → Text
  | [] => []
  | c :: rest =>
    match dropEnd p rest with
    | [] => if p c then [] else [c]
    | kept => c :: kept

def strip (p : Char → Bool) (t : Text) : Text := dropEnd p (t.dropWhile p)

def after? : Text → Text → Option Text
  | [], t => some t
  | _ :: _, [] => none
  | f :: front, c :: t => if f = c then after? front t else none

def startsWith (front t : Text) : Bool := (after? front t).isSome

def endsWith (back t : Text) : Bool := startsWith back.reverse t.reverse

def occursIn (part : Text) : Text → Bool
  | [] => part.isEmpty
  | c :: rest => startsWith part (c :: rest) || occursIn part rest

def padLeft (width : Nat) (fill : Char) (t : Text) : Text :=
  List.replicate (width - t.length) fill ++ t

def padRight (width : Nat) (fill : Char) (t : Text) : Text :=
  t ++ List.replicate (width - t.length) fill

def ofNat (n : Nat) : Text := Nat.toDigits 10 n

def ofInt : Int → Text
  | .ofNat n => ofNat n
  | .negSucc n => '-' :: ofNat (n + 1)

/-- Order by code point; a text comes after its own beginnings. -/
def precedes : Text → Text → Bool
  | [], [] => false
  | [], _ :: _ => true
  | _ :: _, [] => false
  | a :: s, b :: t => a < b || (a = b && precedes s t)

def distinct (ts : List Text) : List Text :=
  ts.foldl (fun seen t => if t ∈ seen then seen else seen ++ [t]) []

def sorted (ts : List Text) : List Text :=
  ts.mergeSort fun a b => !precedes b a

end Text
end EmbeddedTests
