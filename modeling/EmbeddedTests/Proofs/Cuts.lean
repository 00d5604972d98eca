import EmbeddedTests.Proofs.Lines
import EmbeddedTests.Text.Blank
import Mathlib.Data.List.TakeWhile

/-!
# Cuts of a text

What a text starts with, its runs between separators, and its ends without blanks.
-/
namespace EmbeddedTests.Text

@[simp] theorem after_append (front t : Text) : after? front (front ++ t) = some t := by
  induction front with
  | nil => cases t <;> rfl
  | cons c rest ih => simpa [after?] using ih

theorem after_eq_some_iff {front t rest : Text} :
    after? front t = some rest ↔ t = front ++ rest := by
  constructor
  · intro h
    induction front generalizing t with
    | nil =>
      cases t <;> cases h <;> rfl
    | cons c front ih =>
      cases t with
      | nil => cases h
      | cons d t =>
        by_cases same : c = d
        · subst same
          simp only [after?, if_true] at h
          rw [ih h, List.cons_append]
        · simp [after?, same] at h
  · rintro rfl
    exact after_append front rest

theorem starts_with_iff {front t : Text} : startsWith front t = true ↔ front <+: t := by
  rw [startsWith, Option.isSome_iff_exists]
  constructor
  · rintro ⟨rest, h⟩
    exact ⟨rest, (after_eq_some_iff.mp h).symm⟩
  · rintro ⟨rest, rfl⟩
    exact ⟨rest, after_append front rest⟩

section Runs

variable {p : Char → Bool}

theorem none_of_all {t : Text} (h : t.all (!p ·) = true) : ∀ c ∈ t, p c = false := by
  intro c member
  simpa using List.all_eq_true.mp h c member

theorem split_where_append_cons {sep : Char} {piece : Text} (rest : Text)
    (inside : ∀ c ∈ piece, p c = false) (ends : p sep = true) :
    splitWhere p (piece ++ sep :: rest) = piece :: splitWhere p rest := by
  induction piece with
  | nil => simp [splitWhere, ends]
  | cons c piece ih =>
    have here : p c = false := inside c List.mem_cons_self
    have later := ih fun d member => inside d (List.mem_cons_of_mem c member)
    simp [splitWhere, here, later]

theorem split_where_of_none {piece : Text} (inside : ∀ c ∈ piece, p c = false) :
    splitWhere p piece = [piece] := by
  induction piece with
  | nil => rfl
  | cons c piece ih =>
    have here : p c = false := inside c List.mem_cons_self
    have later := ih fun d member => inside d (List.mem_cons_of_mem c member)
    simp [splitWhere, here, later]

theorem runs_of_of_none {piece : Text} (inside : ∀ c ∈ piece, p c = false) :
    runsOf p piece = [piece].filter (!·.isEmpty) := by
  rw [runsOf, split_where_of_none inside]

theorem runs_of_append_cons {sep : Char} {piece : Text} (rest : Text)
    (inside : ∀ c ∈ piece, p c = false) (ends : p sep = true) :
    runsOf p (piece ++ sep :: rest) = [piece].filter (!·.isEmpty) ++ runsOf p rest := by
  rw [runsOf, split_where_append_cons rest inside ends, ← List.singleton_append, List.filter_append]
  rfl

theorem runs_of_separators_append {front : Text} (t : Text) (all : ∀ c ∈ front, p c = true) :
    runsOf p (front ++ t) = runsOf p t := by
  induction front with
  | nil => rfl
  | cons c front ih =>
    have here : p c = true := all c List.mem_cons_self
    have later := ih fun d member => all d (List.mem_cons_of_mem c member)
    simpa [runsOf, splitWhere, here] using later

theorem runs_of_surrounded {front piece back : Text} (before : ∀ c ∈ front, p c = true)
    (inside : ∀ c ∈ piece, p c = false) (after : ∀ c ∈ back, p c = true) (some : piece ≠ []) :
    runsOf p (front ++ (piece ++ back)) = [piece] := by
  rw [runs_of_separators_append _ before]
  cases back with
  | nil => simp [runs_of_of_none inside, some]
  | cons sep back =>
    have rest := runs_of_separators_append []
      fun c member => after c (List.mem_cons_of_mem sep member)
    rw [List.append_nil] at rest
    rw [runs_of_append_cons back inside (after sep List.mem_cons_self), rest]
    simp [some, runsOf, splitWhere]

theorem runs_of_first {p : Char → Bool} {sep : Char} {front piece : Text} (rest : Text)
    (before : ∀ c ∈ front, p c = true) (inside : ∀ c ∈ piece, p c = false) (ends : p sep = true)
    (some : piece ≠ []) :
    runsOf p (front ++ (piece ++ sep :: rest)) = piece :: runsOf p (sep :: rest) := by
  have skipped : runsOf p ([sep] ++ rest) = runsOf p rest :=
    runs_of_separators_append rest (by simpa using ends)
  rw [List.singleton_append] at skipped
  rw [runs_of_separators_append _ before, runs_of_append_cons rest inside ends, skipped]
  simp [some]

end Runs

theorem drop_end_append_of_all {p : Char → Bool} {back : Text} (t : Text)
    (all : ∀ c ∈ back, p c = true) : dropEnd p (t ++ back) = dropEnd p t := by
  induction t with
  | nil =>
    induction back with
    | nil => rfl
    | cons c back ih =>
      have later := ih fun d member => all d (List.mem_cons_of_mem c member)
      simp only [List.nil_append, dropEnd] at later ⊢
      simp [later, all c List.mem_cons_self]
  | cons c t ih => simp only [List.cons_append, dropEnd, ih]

theorem exists_drop_end_append (p : Char → Bool) (t : Text) :
    ∃ back, t = dropEnd p t ++ back ∧ ∀ c ∈ back, p c = true := by
  induction t with
  | nil => exact ⟨[], rfl, by simp⟩
  | cons c t ih =>
    obtain ⟨back, whole, all⟩ := ih
    unfold dropEnd
    split
    · rename_i none
      rw [none, List.nil_append] at whole
      split
      · rename_i dropped
        exact ⟨c :: back, by rw [whole, List.nil_append], by simpa [dropped] using all⟩
      · exact ⟨back, by rw [whole, List.singleton_append], all⟩
    · exact ⟨back, by rw [List.cons_append, ← whole], all⟩

theorem drop_end_append_cons_of_not {p : Char → Bool} {last : Char} (t rest : Text)
    (h : p last = false) : dropEnd p (t ++ last :: rest) = t ++ last :: dropEnd p rest := by
  induction t with
  | nil =>
    rw [List.nil_append, dropEnd]
    cases dropEnd p rest <;> simp [h]
  | cons c t ih =>
    rw [List.cons_append, dropEnd, ih]
    cases t <;> rfl

theorem drop_while_append_cons_of_not {p : Char → Bool} {stop : Char} (front rest : Text)
    (h : p stop = false) :
    (front ++ stop :: rest).dropWhile p = front.dropWhile p ++ stop :: rest := by
  induction front with
  | nil => simp [h]
  | cons c front ih =>
    rw [List.cons_append, List.dropWhile_cons, List.dropWhile_cons]
    split
    · exact ih
    · rfl

theorem take_while_append_cons_of_not {p : Char → Bool} {stop : Char} {front : Text} (rest : Text)
    (all : ∀ c ∈ front, p c = true) (h : p stop = false) :
    (front ++ stop :: rest).takeWhile p = front := by
  rw [List.takeWhile_append_of_pos all]
  simp [h]

theorem exists_cut (p : Char → Bool) (t : Text) :
    ∃ front rest, t = front ++ rest ∧ (∀ c ∈ front, p c = true) ∧
      ∀ c ∈ rest.head?, p c = false := by
  refine ⟨t.takeWhile p, t.dropWhile p, List.takeWhile_append_dropWhile.symm, ?_, ?_⟩
  · intro c member
    exact List.mem_takeWhile_imp member
  · intro c first
    have stops := List.head?_dropWhile_not p t
    rw [Option.mem_def.mp first] at stops
    exact stops

theorem cut_eq {p : Char → Bool} {front rest : Text} (all : ∀ c ∈ front, p c = true)
    (stops : ∀ c ∈ rest.head?, p c = false) :
    (front ++ rest).takeWhile p = front ∧ (front ++ rest).dropWhile p = rest := by
  cases rest with
  | nil =>
    rw [List.append_nil]
    exact ⟨List.takeWhile_eq_self_iff.mpr all, List.dropWhile_eq_nil_iff.mpr all⟩
  | cons c rest =>
    have stops : p c = false := stops c rfl
    refine ⟨take_while_append_cons_of_not rest all stops, ?_⟩
    rw [drop_while_append_cons_of_not front rest stops, List.dropWhile_eq_nil_iff.mpr all]
    rfl

theorem mem_of_mem_drop_end {p : Char → Bool} {t : Text} {c : Char} (h : c ∈ dropEnd p t) :
    c ∈ t := by
  induction t with
  | nil => cases h
  | cons first rest ih =>
    unfold dropEnd at h
    split at h
    · split at h
      · cases h
      · rw [List.mem_singleton.mp h]
        exact List.mem_cons_self
    · rename_i kept
      rcases List.mem_cons.mp h with rfl | later
      · exact List.mem_cons_self
      · exact List.mem_cons_of_mem _ (ih later)

theorem head_drop_end {p : Char → Bool} {t : Text} {c : Char} (h : c ∈ (dropEnd p t).head?) :
    c ∈ t.head? := by
  cases t with
  | nil => cases h
  | cons first rest =>
    unfold dropEnd at h
    split at h
    · split at h
      · cases h
      · exact h
    · exact h

theorem get_last_drop_end {p : Char → Bool} {t : Text} {c : Char}
    (h : c ∈ (dropEnd p t).getLast?) : p c = false := by
  induction t with
  | nil => cases h
  | cons first rest ih =>
    unfold dropEnd at h
    split at h
    · split at h
      · cases h
      · rename_i kept
        cases h
        simpa using kept
    · rename_i filled
      obtain ⟨d, later, kept⟩ := List.exists_cons_of_ne_nil filled
      rw [kept, List.getLast?_cons_cons, ← kept] at h
      exact ih h

theorem mem_of_mem_trim {t : Text} {c : Char} (h : c ∈ trim t) : c ∈ t :=
  (List.dropWhile_sublist isBlank).subset (mem_of_mem_drop_end h)

theorem head_trim {t : Text} {c : Char} (h : c ∈ (trim t).head?) : isBlank c = false := by
  have stops := List.head?_dropWhile_not isBlank t
  rw [Option.mem_def.mp (head_drop_end h)] at stops
  exact stops

theorem get_last_trim {t : Text} {c : Char} (h : c ∈ (trim t).getLast?) : isBlank c = false :=
  get_last_drop_end h

end EmbeddedTests.Text
