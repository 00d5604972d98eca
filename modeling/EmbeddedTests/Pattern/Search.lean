import EmbeddedTests.Pattern
/-!
Searching a text for a pattern. A way of matching is tried, then what follows it, and on failure
the next way. An optional turn of a repetition is not tried where the turn before it started, so
the length of the text bounds the number of turns.
-/
namespace EmbeddedTests.Pattern

open Text

/-- How far a match has come, and where the groups that have matched start and stop, the latest
first. -/
structure Progress where
  place : Nat
  groups : List (Nat × Nat × Nat) := []

/-- What remains to be matched; `none` is failure. -/
abbrev Rest := Progress → Option Progress

def Progress.group? (p : Progress) (index : Nat) : Option (Nat × Nat) :=
  (p.groups.find? (·.1 == index)).map (·.2)

/-- Is a word character on one side of the place only? -/
def atWordEdge (ascii : Bool) (text : Array Char) (i : Nat) : Bool :=
  let wordAt (j : Nat) : Bool := (text[j]?).any (CharSet.isWord ascii)
  (i != 0 && wordAt (i - 1)) != wordAt i

def atEdge (text : Array Char) (i : Nat) : Edge → Bool
  | .textStart => i == 0
  | .lineStart => i == 0 || text[i - 1]? == some '\n'
  | .textEnd => i == text.size || (i + 1 == text.size && text[i]? == some '\n')
  | .lineEnd => i == text.size || text[i]? == some '\n'
  | .absoluteEnd => i == text.size
  | .word holds ascii => text.size != 0 && atWordEdge ascii text i == holds

def sameFrom (f : Char → Char) (text : Array Char) (i j : Nat) : Nat → Bool
  | 0 => true
  | n + 1 =>
    match text[i]?, text[j]? with
    | some a, some b => f a == f b && sameFrom f text (i + 1) (j + 1) n
    | _, _ => false

/-- Turns of a repetition. `turns` bounds their number, `count` is how many there were, and `last`
is where the last optional one started. -/
def repeatTurns (body : Progress → Rest → Option Progress) (rest : Rest) (least : Nat)
    (most : Option Nat) (lazy : Bool) (turns : Nat) (count : Nat) (last : Option Nat)
    (p : Progress) : Option Progress :=
  match turns with
  | 0 => rest p
  | turns + 1 =>
    if count < least then
      body p (repeatTurns body rest least most lazy turns (count + 1) last)
    else
      let more (_ : Unit) : Option Progress :=
        if most.all (count < ·) && last != some p.place then
          body p (repeatTurns body rest least most lazy turns (count + 1) (some p.place))
        else none
      if lazy then
        match rest p with
        | some q => some q
        | none => more ()
      else
        match more () with
        | some q => some q
        | none => rest p

/-- Turns that are taken as long as there is one, each matched in one way only. -/
def repeatAll (body : Progress → Rest → Option Progress) (least : Nat) (most : Option Nat)
    (turns : Nat) (count : Nat) (last : Option Nat) (p : Progress) : Option Progress :=
  match turns with
  | 0 => some p
  | turns + 1 =>
    if count < least then
      (body p some).bind (repeatAll body least most turns (count + 1) last)
    else if most.all (count < ·) && last != some p.place then
      match body p some with
      | some q => repeatAll body least most turns (count + 1) (some p.place) q
      | none => some p
    else some p

def run (text : Array Char) (p : Progress) (rest : Rest) : Pattern → Option Progress
  | .empty => rest p
  | .chars set =>
    match text[p.place]? with
    | some c => if set.contains c then rest { p with place := p.place + 1 } else none
    | none => none
  | .edge e => if atEdge text p.place e then rest p else none
  | .again index ignoreCase ascii =>
    match p.group? index with
    | none => none
    | some (start, stop) =>
      let f := if ignoreCase then CharSet.fold ascii else id
      if sameFrom f text start p.place (stop - start) then
        rest { p with place := p.place + (stop - start) }
      else none
  | .seq a b => run text p (fun p => run text p rest b) a
  | .either a b =>
    match run text p rest a with
    | some q => some q
    | none => run text p rest b
  | .repeated body least most .possessive =>
    (repeatAll (fun p rest => run text p rest body) least most (least + text.size + 2) 0 none p).bind
      rest
  | .repeated body least most manner =>
    repeatTurns (fun p rest => run text p rest body) rest least most (manner == .lazy)
      (least + text.size + 2) 0 none p
  | .group index body =>
    run text p (fun q => rest { q with groups := (index, p.place, q.place) :: q.groups }) body
  | .once body => (run text p some body).bind rest
  | .ahead true body => (run text p some body).bind fun q => rest { q with place := p.place }
  | .ahead false body => if (run text p some body).isSome then none else rest p
  | .behind holds width body =>
    let found :=
      if width ≤ p.place then run text { p with place := p.place - width } some body else none
    match found, holds with
    | some q, true => rest { q with place := p.place }
    | none, false => rest p
    | _, _ => none
  | .given index yes no => if (p.group? index).isSome then run text p rest yes else run text p rest no

def occursIn (pattern : Pattern) (text : Text) : Bool :=
  let chars := text.toArray
  (List.range (chars.size + 1)).any fun i => (run chars { place := i } some pattern).isSome

end EmbeddedTests.Pattern
