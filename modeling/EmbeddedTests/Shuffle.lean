import EmbeddedTests.Shuffle.Twister
/-!
Shuffling a list: from the last place to the second, each is exchanged with a place drawn among
those up to it.
-/
namespace EmbeddedTests

namespace Shuffle

variable {α : Type}

def exchange (items : Array α) (i j : Nat) : Array α := items.swapIfInBounds i j

def shuffleFrom : Nat → Array α → Twister → Array α
  | 0, items, _ => items
  | i + 1, items, t =>
    let (j, t) := t.drawBelow (i + 2)
    shuffleFrom i (exchange items (i + 1) j) t

end Shuffle

def shuffle {α : Type} (seed : Int) (items : List α) : List α :=
  (Shuffle.shuffleFrom (items.length - 1) items.toArray (.ofSeed seed)).toList

end EmbeddedTests
