import EmbeddedTests.Proofs.Tokens
import EmbeddedTests.Proofs.WrappedCode

/-!
# Tokens of the function around a block

The first line of the function gives its word, its name and the names of its parameters. Everything
below is read in the same way whatever the parameters are.
-/
namespace EmbeddedTests.Snippet

open Text

def nameTokens : List Text → List Token
  | [] => []
  | [n] => [⟨.name n, 1⟩]
  | n :: m :: more => ⟨.name n, 1⟩ :: ⟨.symbol [','], 1⟩ :: nameTokens (m :: more)

def headTokens (names : List Text) : List Token :=
  ⟨.name "def", 1⟩ :: ⟨.name blockFunction, 1⟩ :: ⟨.symbol ['('], 1⟩ :: (nameTokens names ++
    [⟨.symbol [')'], 1⟩, ⟨.symbol [':'], 1⟩, ⟨.lineEnd, 1⟩])

def tokensBelow (code : Text) : List Token :=
  Lexer.scanned true { line := 2 } (Lexer.withLineFeeds (belowHeading code))

namespace Lexer

theorem scanned_names {s : State} {names : List Text} {rest : Text} (stop : Char)
    (named : ∀ n ∈ names, isIdentifier n = true) (line : s.line = 1) (some : names ≠ [])
    (stops : continuesName stop = false) :
    scanned false s (joinWith ", " names ++ stop :: rest) =
      nameTokens names ++ scanned false s (stop :: rest) := by
  induction names with
  | nil => contradiction
  | cons n more ih =>
    have isName := named n List.mem_cons_self
    cases more with
    | nil =>
      have alone : joinWith ", " [n] = n := by simp [joinWith]
      rw [alone, scanned_name stop isName stops, State.token, line]
      rfl
    | cons m more =>
      have later := ih (fun n member => named n (List.mem_cons_of_mem _ member)) (by simp)
      have comma : joinWith ", " (n :: m :: more) =
          n ++ ',' :: ' ' :: joinWith ", " (m :: more) := by
        simp [joinWith, List.intercalate_cons_cons]
      rw [comma, List.append_assoc, List.cons_append, scanned_name ',' isName (by decide)]
      simp only [List.cons_append, scanned_comma, scanned_blank, later, State.token, line]
      rfl

theorem scanned_heading {names : List Text} {rest : Text}
    (named : ∀ n ∈ names, isIdentifier n = true) :
    scanned true {} (heading names ++ '\n' :: rest) =
      headTokens (stateName :: names) ++ scanned true { line := 2 } rest := by
  have whole : heading names ++ '\n' :: rest = "def".toList ++ ' ' :: (blockFunction ++
      '(' :: (joinWith ", " (stateName :: names) ++ ')' :: ':' :: '\n' :: rest)) := by
    have word : ("def " : Text) = "def" ++ [' '] := rfl
    have opens : ("(" : Text) = ['('] := rfl
    have closes : ("):" : Text) = [')', ':'] := rfl
    unfold heading
    simp [word, opens, closes]
  have all : ∀ n ∈ stateName :: names, isIdentifier n = true :=
    List.forall_mem_cons.mpr ⟨by decide, named⟩
  have word : isIdentifier "def" = true := by decide
  have function : isIdentifier blockFunction = true := by decide
  rw [whole, scanned_first, scanned_name ' ' word (by decide), scanned_blank,
    scanned_name '(' function (by decide), scanned_open, scanned_names ')' all rfl (by simp)
    (by decide), scanned_close rfl, scanned_colon rfl]
  simp [headTokens, State.token, State.nextLine]

theorem with_line_feeds_append {front rest : Text} (plain : '\r' ∉ front) :
    withLineFeeds (front ++ rest) = front ++ withLineFeeds rest := by
  induction front with
  | nil => rfl
  | cons c front ih =>
    have other : c ≠ '\r' := fun same => plain (same ▸ List.mem_cons_self)
    have later := ih fun member => plain (List.mem_cons_of_mem c member)
    rw [List.cons_append, withLineFeeds, later]
    · rfl
    · exact fun _ same => absurd same other
    · exact other

end Lexer

theorem heading_plain {names : List Text} (named : ∀ n ∈ names, isIdentifier n = true) :
    '\r' ∉ heading names ++ ['\n'] := by
  have inside : '\r' ∉ joinWith ", " (stateName :: names) := by
    intro member
    rcases mem_join_with member with comma | ⟨name, listed, here⟩
    · exact absurd comma (by decide)
    · have isName : isIdentifier name = true := by
        rcases List.mem_cons.mp listed with rfl | given
        · decide
        · exact named name given
      have visible := (plain_of_identifier isName here).1
      revert visible
      decide
  have word : '\r' ∉ ("def " ++ blockFunction ++ "(" : Text) := by decide
  have closes : '\r' ∉ ("):" : Text) := by decide
  unfold heading
  simp only [List.mem_append, not_or] at word ⊢
  exact ⟨⟨⟨word, inside⟩, closes⟩, by decide⟩

theorem tokens_block_source {names : List Text} (code : Text)
    (named : ∀ n ∈ names, isIdentifier n = true) :
    tokens (blockSource code names) = headTokens (stateName :: names) ++ tokensBelow code := by
  have enough : Lexer.measure true (Lexer.withLineFeeds (blockSource code names)) <
      2 * (Lexer.withLineFeeds (blockSource code names)).length + 2 := by simp [Lexer.measure]
  have whole : blockSource code names = (heading names ++ ['\n']) ++ belowHeading code := by
    rw [block_source_eq, List.append_assoc, List.singleton_append]
  unfold tokens
  rw [Lexer.scan_eq_scanned enough, whole, Lexer.with_line_feeds_append (heading_plain named),
    List.append_assoc, List.singleton_append, Lexer.scanned_heading named]
  rfl

end EmbeddedTests.Snippet
