/-!
A Mersenne Twister: 624 words of state, each draw gives the next word. A seed of any size sets the
state.
-/
namespace EmbeddedTests

structure Twister where
  words : Array UInt32
  /-- The next word to draw; the words are made anew once they are used up. -/
  next : Nat

namespace Twister

def size : Nat := 624

def shift : Nat := 397

def wordAt (words : Array UInt32) (i : Nat) : UInt32 := words.getD i 0

def plain (seed : UInt32) : Array UInt32 :=
  (List.range (size - 1)).foldl
    (fun words i =>
      let w := wordAt words i
      words.push ((1812433253 : UInt32) * (w ^^^ (w >>> 30)) + UInt32.ofNat (i + 1)))
    #[seed]

/-- A number as words, the lowest first; zero is one word. -/
def wordsOf (n : Nat) : List UInt32 :=
  let word := UInt32.ofNat n
  if h : n < 0x100000000 then [word] else word :: wordsOf (n / 0x100000000)
termination_by n
decreasing_by omega

/-- The place in the state after place `i`; at the end the last word goes round to the start. -/
def advance (words : Array UInt32) (i : Nat) : Array UInt32 × Nat :=
  if i + 1 < size then (words, i + 1)
  else (words.setIfInBounds 0 (wordAt words (size - 1)), 1)

def carried (words : Array UInt32) (i : Nat) (factor : UInt32) : UInt32 :=
  let w := wordAt words (i - 1)
  (w ^^^ (w >>> 30)) * factor

def mixKey (key : Array UInt32) (words : Array UInt32) : Array UInt32 × Nat :=
  let rounds := max size key.size
  let (words, i, _) := (List.range rounds).foldl
    (fun (words, i, j) _ =>
      let w := (wordAt words i ^^^ carried words i 1664525) + wordAt key j + UInt32.ofNat j
      let (words, i) := advance (words.setIfInBounds i w) i
      (words, i, if j + 1 < key.size then j + 1 else 0))
    (words, 1, 0)
  (words, i)

def mixPlaces (words : Array UInt32) (i : Nat) : Array UInt32 :=
  ((List.range (size - 1)).foldl
    (fun (words, i) _ =>
      let w := (wordAt words i ^^^ carried words i 1566083941) - UInt32.ofNat i
      advance (words.setIfInBounds i w) i)
    (words, i)).1

def ofKey (key : List UInt32) : Twister :=
  let (words, i) := mixKey key.toArray (plain 19650218)
  ⟨(mixPlaces words i).setIfInBounds 0 0x80000000, size⟩

/-- The sign of a seed does not count. -/
def ofSeed (seed : Int) : Twister := ofKey (wordsOf seed.natAbs)

def renew (words : Array UInt32) : Array UInt32 :=
  (List.range size).foldl
    (fun words i =>
      let y := (wordAt words i &&& 0x80000000) ||| (wordAt words ((i + 1) % size) &&& 0x7fffffff)
      let twist : UInt32 := if y &&& 1 = 0 then 0 else 0x9908b0df
      words.setIfInBounds i (wordAt words ((i + shift) % size) ^^^ (y >>> 1) ^^^ twist))
    words

def temper (w : UInt32) : UInt32 :=
  let w := w ^^^ (w >>> 11)
  let w := w ^^^ ((w <<< 7) &&& 0x9d2c5680)
  let w := w ^^^ ((w <<< 15) &&& 0xefc60000)
  w ^^^ (w >>> 18)

def draw (t : Twister) : UInt32 × Twister :=
  let t := if t.next < size then t else ⟨renew t.words, 0⟩
  (temper (wordAt t.words t.next), { t with next := t.next + 1 })

def bitLength (n : Nat) : Nat := if n = 0 then 0 else n.log2 + 1

def drawBits (bits : Nat) (t : Twister) : Nat × Twister :=
  let (w, t) := t.draw
  (w.toNat >>> (32 - bits), t)

/-- Draws until the number is below `n`. Each try has more than an even chance, so the tries do not
run out. -/
def tryBelow (n : Nat) : Nat → Twister → Nat × Twister
  | 0, t => (0, t)
  | tries + 1, t =>
    let (r, t) := t.drawBits (bitLength n)
    if r < n then (r, t) else tryBelow n tries t

def drawBelow (n : Nat) (t : Twister) : Nat × Twister := tryBelow n 1000 t

end Twister
end EmbeddedTests
