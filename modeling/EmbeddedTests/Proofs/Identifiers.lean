import EmbeddedTests.Proofs.Nesting
import EmbeddedTests.Text.Identifier

/-!
# Characters of identifiers

No blank is part of an identifier, and none of the signs is that stand around the names in the first
line of a function.
-/
namespace EmbeddedTests.Text

def nameSigns : Text := [',', '=', '(', '[', ']']

section

variable {c : Char}

theorem apart_from_identifiers (h : isBlank c = true ∨ c ∈ nameSigns) :
    identifierStart.contains c = false ∧ identifierPart.contains c = false := by
  have apart : ∀ n ∈ blankCodePoints ++ nameSigns.map Char.toNat,
      CodePoints.insideAt identifierStart.changes n = false ∧
        CodePoints.insideAt identifierPart.changes n = false := by
    decide +kernel
  apply apart
  rw [List.mem_append]
  rcases h with blank | sign
  · exact .inl (code_point_of_blank blank)
  · exact .inr (List.mem_map_of_mem sign)

theorem not_part_of_blank (h : isBlank c = true) : identifierPart.contains c = false :=
  (apart_from_identifiers (.inl h)).2

theorem plain_of_identifier {name : Text} (h : isIdentifier name = true) (member : c ∈ name) :
    isBlank c = false ∧ c ∉ nameSigns := by
  have inside : identifierStart.contains c = true ∨ identifierPart.contains c = true := by
    cases name with
    | nil => cases member
    | cons first rest =>
      obtain ⟨start, parts⟩ := Bool.and_eq_true_iff.mp h
      rcases List.mem_cons.mp member with rfl | later
      · exact .inl start
      · exact .inr (List.all_eq_true.mp parts c later)
  have other : ¬ (isBlank c = true ∨ c ∈ nameSigns) := by
    intro h
    obtain ⟨start, part⟩ := apart_from_identifiers h
    rcases inside with here | here
    · rw [start] at here
      cases here
    · rw [part] at here
      cases here
  rw [not_or] at other
  exact ⟨Bool.eq_false_iff.mpr other.1, other.2⟩

end

end EmbeddedTests.Text
