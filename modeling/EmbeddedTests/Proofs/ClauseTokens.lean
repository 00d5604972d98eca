import EmbeddedTests.Proofs.DeepLines
import EmbeddedTests.Proofs.Readers

/-!
# Tokens of the last clause

The tokens of a block's code are followed by those of the clause that writes back. The code opens
the first block, and that stays open up to the clause, since every margin of the code is wider than
that of the clause. Only where the last line feed of the code does not end a line can the clause be
something else: after a backslash the code and the first line of the clause are one line, and in an
open bracket there are no lines at all.
-/
namespace EmbeddedTests.Snippet

open Text

def closingTokens (line : Nat) : List Token :=
  [⟨.name "finally", line⟩, ⟨.symbol [':'], line⟩, ⟨.lineEnd, line⟩, ⟨.indent, line + 1⟩,
    ⟨.name localsName, line + 1⟩, ⟨.symbol ['='], line + 1⟩, ⟨.name "locals", line + 1⟩,
    ⟨.symbol ['('], line + 1⟩, ⟨.symbol [')'], line + 1⟩, ⟨.lineEnd, line + 1⟩,
    ⟨.name "for", line + 2⟩, ⟨.name writtenName, line + 2⟩, ⟨.name "in", line + 2⟩,
    ⟨.name stateName, line + 2⟩, ⟨.symbol [':'], line + 2⟩, ⟨.lineEnd, line + 2⟩,
    ⟨.indent, line + 3⟩, ⟨.name "if", line + 3⟩, ⟨.name writtenName, line + 3⟩,
    ⟨.name "in", line + 3⟩, ⟨.name localsName, line + 3⟩, ⟨.symbol [':'], line + 3⟩,
    ⟨.lineEnd, line + 3⟩, ⟨.indent, line + 4⟩, ⟨.name stateName, line + 4⟩,
    ⟨.symbol ['['], line + 4⟩, ⟨.name writtenName, line + 4⟩, ⟨.symbol [']'], line + 4⟩,
    ⟨.symbol ['='], line + 4⟩, ⟨.name localsName, line + 4⟩, ⟨.symbol ['['], line + 4⟩,
    ⟨.name writtenName, line + 4⟩, ⟨.symbol [']'], line + 4⟩, ⟨.lineEnd, line + 4⟩,
    ⟨.dedent, line + 4⟩, ⟨.dedent, line + 4⟩, ⟨.dedent, line + 4⟩, ⟨.dedent, line + 4⟩,
    ⟨.finish, line + 4⟩]

/-- Tokens that other lines start with, and the last one. -/
def isLayout : Lexeme → Bool
  | .indent | .dedent | .finish => true
  | _ => false

open Parse in
/-- The tokens lead to the clause, from inside so many blocks that are deeper than it. The clause
that is glued to a line has no block below it, so nothing can be read there. -/
inductive Leads : Nat → List Token → Prop
  | nothing (line : Nat) : Leads 0 (closingTokens line)
  | closed (a line : Nat) : Leads 1 (⟨.dedent, a⟩ :: closingTokens line)
  | dedent {n a : Nat} {ts : List Token} (later : Leads (n + 1) ts) :
    Leads (n + 2) (⟨.dedent, a⟩ :: ts)
  | indent {n a : Nat} {ts : List Token} (later : Leads (n + 1) ts) :
    Leads n (⟨.indent, a⟩ :: ts)
  | inLine {n : Nat} {t : Token} {ts : List Token} (other : isLayout t.lexeme = false)
    (later : Leads (n + 1) ts) : Leads (n + 1) (t :: ts)
  | glued {n a b : Nat} {ts : List Token} (bare : opensBlock ts = false) :
    Leads (n + 1) (⟨.name "finally", a⟩ :: ⟨.symbol [':'], b⟩ :: ts)
  | broken {n : Nat} {t : Token} {ts : List Token} (member : t ∈ ts) (fault : isFault t = true) :
    Leads n ts

namespace Leads

open Parse

variable {n : Nat} {t : Token} {ts rest : List Token}

theorem broken_after (sound : isFault t = false) {u : Token} (member : u ∈ t :: ts)
    (fault : isFault u = true) : Leads n ts := by
  rcases List.mem_cons.mp member with rfl | inside
  · rw [sound] at fault
    cases fault
  · exact .broken inside fault

theorem after_word (plain : isPlain t = true) (h : Leads (n + 1) (t :: ts)) : Leads (n + 1) ts := by
  have sound := sound_of_is_plain plain
  cases h with
  | closed => cases plain
  | dedent => cases plain
  | indent => cases plain
  | inLine other later => exact later
  | glued => cases plain
  | broken member fault => exact broken_after sound member fault

theorem after_indent {a : Nat} (h : Leads n (⟨.indent, a⟩ :: ts)) : Leads (n + 1) ts := by
  cases h with
  | indent later => exact later
  | inLine other => cases other
  | broken member fault => exact broken_after rfl member fault

theorem after_dedent {a : Nat} (h : Leads (n + 2) (⟨.dedent, a⟩ :: ts)) : Leads (n + 1) ts := by
  cases h with
  | dedent later => exact later
  | inLine other => cases other
  | broken member fault => exact broken_after rfl member fault

theorem after_clause {a b : Nat} (opens : opensBlock ts = true)
    (h : Leads (n + 1) (⟨.name "finally", a⟩ :: ⟨.symbol [':'], b⟩ :: ts)) : Leads (n + 1) ts := by
  cases h with
  | inLine other later => exact later.after_word rfl
  | glued bare =>
    rw [opens] at bare
    cases bare
  | broken member fault =>
    have later : Leads (n + 1) (⟨.symbol [':'], b⟩ :: ts) := broken_after rfl member fault
    exact later.after_word rfl

theorem fault_of_is_over (ended : isOver ts = true) (h : Leads (n + 1) ts) :
    ∃ t ∈ ts, isFault t := by
  cases h with
  | closed => cases ended
  | dedent => cases ended
  | indent => cases ended
  | @inLine _ t _ other =>
    obtain ⟨lexeme, line⟩ := t
    cases lexeme with
    | finish => cases other
    | _ => cases ended
  | glued => cases ended
  | broken member fault => exact ⟨_, member, fault⟩

/-- What readers take in a block leads to the end of the same block. -/
theorem after_consumed (taken : Consumes ts rest) (h : Leads (n + 1) ts) : Leads (n + 1) rest := by
  induction taken generalizing n with
  | nothing => exact h
  | plain word _ ih => exact ih (h.after_word word)
  | block _ _ inner outer => exact outer (inner (h.after_word rfl).after_indent).after_dedent
  | lastBlock _ ended ih =>
    obtain ⟨t, member, fault⟩ := (ih (h.after_word rfl).after_indent).fault_of_is_over ended
    exact .broken member fault
  | clause opens _ ih => exact ih (h.after_clause opens)

theorem ends_of_closes (closes : Closes ts rest) (sound : ∀ t ∈ rest, isFault t = false)
    (h : Leads 1 ts) : ∃ line, rest = closingTokens line := by
  cases closes with
  | dedent line inside =>
    cases h.after_consumed inside with
    | closed _ line => exact ⟨line, rfl⟩
    | inLine other => cases other
    | @broken _ t _ member fault =>
      rcases List.mem_cons.mp member with rfl | inside
      · cases fault
      · rw [sound t inside] at fault
        cases fault
  | ended inside ended =>
    obtain ⟨t, member, fault⟩ := (h.after_consumed inside).fault_of_is_over ended
    rw [sound t member] at fault
    cases fault

theorem dedents {a : Nat} (k : Nat) (h : Leads (n + 1) ts) :
    Leads (k + (n + 1)) (List.replicate k ⟨.dedent, a⟩ ++ ts) := by
  induction k with
  | zero => rwa [Nat.zero_add]
  | succ k ih =>
    have deeper : Leads (k + n + 2) (⟨.dedent, a⟩ :: (List.replicate k ⟨.dedent, a⟩ ++ ts)) :=
      .dedent ih
    have sum : k + 1 + (n + 1) = k + n + 2 := by omega
    rwa [sum]

end Leads

end EmbeddedTests.Snippet
