import EmbeddedTests.Leak
import Mathlib.Data.Char
import Mathlib.Data.List.Lex
import Mathlib.Order.Defs.LinearOrder

/-!
# Lists of texts in order, each text once

`distinct` keeps each text where it first stands, and `sorted` puts texts in the order of their code
points. Both keep the members, so what is new after a change is listed ascending without
repetitions.
-/
namespace EmbeddedTests

namespace Text

theorem distinct_from (seen ts : List Text) :
    ts.foldl (fun seen t => if t ∈ seen then seen else seen ++ [t]) seen =
      seen ++ (ts.filter fun t => !seen.contains t).eraseDups := by
  induction ts generalizing seen with
  | nil => simp
  | cons t rest ih =>
    rw [List.foldl_cons, ih]
    by_cases h : t ∈ seen
    · simp [h]
    · have later : rest.filter (fun u => !(seen ++ [t]).contains u) =
          (rest.filter fun u => !seen.contains u).filter fun u => !u == t := by
        rw [List.filter_filter]
        congr 1
        funext u
        by_cases hu : u = t <;> simp [hu]
      rw [if_neg h, later]
      simp [h, List.eraseDups_cons]

theorem distinct_eq_erase_dups (ts : List Text) : distinct ts = ts.eraseDups := by
  rw [distinct, distinct_from, List.nil_append, List.filter_eq_self.mpr (by simp)]

@[simp] theorem mem_distinct {t : Text} {ts : List Text} : t ∈ distinct ts ↔ t ∈ ts := by
  rw [distinct_eq_erase_dups, List.mem_eraseDups]

theorem nodup_distinct (ts : List Text) : (distinct ts).Nodup := by
  have kept (seen : List Text) (fresh : seen.Nodup) :
      (ts.foldl (fun seen t => if t ∈ seen then seen else seen ++ [t]) seen).Nodup := by
    induction ts generalizing seen with
    | nil => exact fresh
    | cons t rest ih =>
      rw [List.foldl_cons]
      apply ih
      by_cases h : t ∈ seen
      · rwa [if_pos h]
      · rw [if_neg h, List.nodup_append]
        refine ⟨fresh, by simp, ?_⟩
        intro a ha b hb same
        rw [same, List.mem_singleton.mp hb] at ha
        exact h ha
  exact kept [] List.nodup_nil

theorem precedes_iff_lt (s t : Text) : precedes s t = true ↔ s < t := by
  induction s generalizing t with
  | nil => cases t <;> simp [precedes]
  | cons a s ih =>
    cases t with
    | nil => simp [precedes]
    | cons b t => simp [precedes, List.cons_lt_cons_iff, ih]

@[simp] theorem mem_sorted {t : Text} {ts : List Text} : t ∈ sorted ts ↔ t ∈ ts :=
  List.mem_mergeSort

theorem sorted_ascending (ts : List Text) : (sorted ts).Pairwise (· ≤ ·) := by
  have unordered (a b : Text) : (!precedes b a) = true ↔ a ≤ b := by
    rw [Bool.not_eq_true', ← Bool.not_eq_true, precedes_iff_lt]
    exact not_lt
  have ordered : (sorted ts).Pairwise fun a b => (!precedes b a) = true := by
    apply List.pairwise_mergeSort
    · intro a b c hab hbc
      rw [unordered] at hab hbc ⊢
      exact hab.trans hbc
    · intro a b
      rw [Bool.or_eq_true, unordered, unordered]
      exact le_total a b
  exact ordered.imp fun h => (unordered _ _).mp h

theorem sorted_strictly {ts : List Text} (once : ts.Nodup) : (sorted ts).Pairwise (· < ·) := by
  have distinct : (sorted ts).Pairwise (· ≠ ·) :=
    (List.mergeSort_perm ts _).nodup_iff.mpr once
  exact (sorted_ascending ts).imp₂ (fun _ _ le ne => lt_of_le_of_ne le ne) distinct

end Text

@[simp] theorem mem_new_texts {t : Text} {after before : List Text} :
    t ∈ newTexts after before ↔ t ∈ after ∧ t ∉ before := by
  simp [newTexts]

/-- What is new is listed by code point, each text once. -/
theorem new_texts_ascending (after before : List Text) :
    (newTexts after before).Pairwise (· < ·) :=
  Text.sorted_strictly (Text.nodup_distinct _)

end EmbeddedTests
