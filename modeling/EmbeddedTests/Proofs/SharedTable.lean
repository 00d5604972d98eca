import EmbeddedTests.Proofs.Namespace
import EmbeddedTests.Proofs.SharedVariables
import Mathlib.Data.List.Nodup

/-!
# Shared variables as names and values apart

A table keeps the declared names in a list and their values in a map, and each operation rewrites
the two one after the other. They never part: every name is listed once, the map has a value for
each listed name and for no other, and the pairs that a snapshot takes are the variables that blocks
are run with.
-/
namespace EmbeddedTests

variable {σ : Type}

inductive SharedAction (σ : Type) where
  | declare (names : List Text) (initializer : Text) (evaluator : Option (Evaluator σ))
  | update (values : Bindings)
  | clear

inductive SharedAnswer where
  | done (result : Option Evaluation)
  | refused (e : SharedError)
  | left (escape : Escape)
  /-- A listed name has no value. -/
  | valueless

/-- Operations one after the other, whatever each of them answers. -/
def SharedAction.performAll {α : Type}
    (perform : SharedAction σ → α → World σ → SharedAnswer × α × World σ) :
    List (SharedAction σ) → α → World σ → List SharedAnswer × α × World σ
  | [], a, w => ([], a, w)
  | action :: rest, a, w =>
    let (answer, a, w) := perform action a w
    let (later, a, w) := performAll perform rest a w
    (answer :: later, a, w)

def Shared.perform (action : SharedAction σ) (s : Shared) (w : World σ) :
    SharedAnswer × Shared × World σ :=
  match action with
  | .declare names initializer evaluator =>
    match reset names with
    | .error bad => (.refused bad, s, w)
    | .ok fresh =>
      match evaluator with
      | none => (.done none, fresh, w)
      | some e =>
        match runInitializer e initializer fresh w with
        | (.error escape, s, w) => (.left escape, s, w)
        | (.ok result, s, w) => (.done result, s, w)
  | .update values => (.done none, s.update values, w)
  | .clear => (.done none, [], w)

structure SharedTable where
  names : List Text := []
  values : Bindings := []

namespace SharedTable

def contains (t : SharedTable) (name : Text) : Bool := t.values.has name

def isTrue (t : SharedTable) : Bool := !t.names.isEmpty

/-- The value of each listed name in turn; none if one of them has no value. -/
def snapshot? (t : SharedTable) : Option Bindings :=
  t.names.foldlM (fun taken name => (t.values.get? name).map (taken.put name)) []

def writeValue (given values : Bindings) (name : Text) : Bindings :=
  match given.get? name with
  | some v => values.put name v
  | none => values

def update (t : SharedTable) (given : Bindings) : SharedTable :=
  { t with values := t.names.foldl (writeValue given) t.values }

/-- The table that a declaration starts from. -/
def fresh (names : List Text) : SharedTable where
  names := Text.distinct names
  values := (Text.distinct names).foldl (fun values name => values.put name .none) []

def runInitializer (t : SharedTable) (initializer : Text) (e : Evaluator σ) (w : World σ) :
    SharedAnswer × SharedTable × World σ :=
  if Text.allBlank initializer then (.done none, t, w)
  else
    match t.snapshot? with
    | none => (.valueless, t, w)
    | some bindings =>
      match e.execute initializer bindings false w with
      | (.error escape, w) => (.left escape, t, w)
      | (.ok result, w) =>
        (.done (some result), if result.raised then t else t.update result.bindings, w)

def perform (action : SharedAction σ) (t : SharedTable) (w : World σ) :
    SharedAnswer × SharedTable × World σ :=
  match action with
  | .declare names initializer evaluator =>
    let bad := names.filter (!Text.isIdentifier ·)
    if !bad.isEmpty then (.refused ⟨bad⟩, t, w)
    else
      match evaluator with
      | none => (.done none, fresh names, w)
      | some e => (fresh names).runInitializer initializer e w
  | .update given => (.done none, t.update given, w)
  | .clear => (.done none, {}, w)

structure WellFormed (t : SharedTable) : Prop where
  distinct : t.names.Nodup
  stored : t.values.names = t.names

end SharedTable

namespace Bindings

variable {front rest : Bindings} {name : Text} {old v : Value}

theorem free_of_once (once : (names (front ++ (name, v) :: rest)).Nodup) :
    name ∉ front.names ∧ name ∉ names rest := by
  rw [names, List.map_append, List.map_cons, List.nodup_middle, List.nodup_cons,
    List.mem_append, not_or] at once
  exact once.1

theorem get_eq_some_of_entry (first : name ∉ front.names) :
    get? (front ++ (name, v) :: rest) name = some v := by
  have before : front.find? (·.1 == name) = none := by
    rw [List.find?_eq_none]
    intro entry member same
    exact first (List.mem_map.mpr ⟨entry, member, eq_of_beq same⟩)
  simp [get?, List.find?_append, before]

theorem put_new (free : name ∉ front.names) : put front name v = front ++ [(name, v)] := by
  rw [put, if_neg fun bound => free (has_iff.mp bound)]

theorem put_entry (once : (names (front ++ (name, old) :: rest)).Nodup) :
    put (front ++ (name, old) :: rest) name v = front ++ (name, v) :: rest := by
  have bound : has (front ++ (name, old) :: rest) name = true := by simp [names]
  obtain ⟨before, after⟩ := free_of_once once
  have kept {part : Bindings} (free : name ∉ part.names) :
      part.map (fun entry => if entry.1 = name then (name, v) else entry) = part := by
    apply (List.map_congr_left _).trans (List.map_id part)
    intro entry member
    rw [if_neg fun same => free (List.mem_map.mpr ⟨entry, member, same⟩), id]
  rw [put, if_pos bound, List.map_append, List.map_cons, if_pos rfl, kept before, kept after]

end Bindings

namespace SharedTable

variable {t : SharedTable}

theorem values_fresh (given : List Text) : (fresh given).values = Shared.declared given := by
  have filled (front : Bindings) (later : List Text) (once : (front.names ++ later).Nodup) :
      later.foldl (fun values name => values.put name .none) front =
        front ++ later.map fun name => (name, .none) := by
    induction later generalizing front with
    | nil => simp
    | cons name later ih =>
      have free : name ∉ front.names := by
        rw [List.nodup_middle, List.nodup_cons, List.mem_append, not_or] at once
        exact once.1.1
      rw [List.foldl_cons, Bindings.put_new free, ih]
      · simp
      · simpa [Bindings.names] using once
  rw [Shared.declared, ← Text.distinct_eq_erase_dups]
  exact filled [] (Text.distinct given) (Text.nodup_distinct given)

theorem well_formed_fresh (given : List Text) : (fresh given).WellFormed where
  distinct := Text.nodup_distinct given
  stored := by
    rw [values_fresh, Shared.names_declared, ← Text.distinct_eq_erase_dups]
    rfl

theorem WellFormed.snapshot_eq (h : t.WellFormed) : t.snapshot? = some t.values := by
  have taken (front rest : Bindings) (once : (Bindings.names (front ++ rest)).Nodup)
      (whole : front ++ rest = t.values) :
      (Bindings.names rest).foldlM
        (fun taken name => (t.values.get? name).map (taken.put name)) front = some t.values := by
    induction rest generalizing front with
    | nil => simpa [Bindings.names] using whole
    | cons entry rest ih =>
      obtain ⟨name, v⟩ := entry
      have free := (Bindings.free_of_once once).1
      have found : t.values.get? name = some v := by
        rw [← whole]
        exact Bindings.get_eq_some_of_entry free
      have next := ih (front ++ [(name, v)]) (by simpa using once) (by simpa using whole)
      change ((t.values.get? name).map (front.put name)).bind _ = _
      rw [found, Option.map_some, Bindings.put_new free]
      exact next
  have once : t.values.names.Nodup := h.stored ▸ h.distinct
  rw [snapshot?, ← h.stored]
  exact taken [] t.values once rfl

/-- An update that goes through the listed names one by one gives each of them its new value. -/
theorem WellFormed.update_eq (h : t.WellFormed) (given : Bindings) :
    (t.update given).values = Shared.update t.values given := by
  have written (front rest : Bindings) (once : (Bindings.names (front ++ rest)).Nodup) :
      (Bindings.names rest).foldl (writeValue given) (front ++ rest) =
        front ++ Shared.update rest given := by
    induction rest generalizing front with
    | nil => rfl
    | cons entry rest ih =>
      obtain ⟨name, old⟩ := entry
      have here : writeValue given (front ++ (name, old) :: rest) name =
          front ++ (name, (given.get? name).getD old) :: rest := by
        unfold writeValue
        cases given.get? name with
        | none => rfl
        | some v => exact Bindings.put_entry once
      have later := ih (front ++ [(name, (given.get? name).getD old)])
        (by simpa [Bindings.names] using once)
      rw [List.append_assoc, List.append_assoc] at later
      change (Bindings.names rest).foldl (writeValue given)
        (writeValue given (front ++ (name, old) :: rest) name) = _
      rw [here]
      exact later
  have once : t.values.names.Nodup := h.stored ▸ h.distinct
  rw [update, ← h.stored]
  exact written [] t.values once

theorem WellFormed.update (h : t.WellFormed) (given : Bindings) : (t.update given).WellFormed where
  distinct := h.distinct
  stored := by rw [h.update_eq, Shared.names_update, h.stored]; rfl

/-- The table is well formed, and its map is the shared variables. -/
structure Represents (t : SharedTable) (s : Shared) : Prop where
  wellFormed : t.WellFormed
  values : t.values = s

/-- Both have answered alike, and the table represents the variables again. -/
structure Agrees {α : Type} (x : α × SharedTable × World σ) (y : α × Shared × World σ) : Prop where
  answer : x.1 = y.1
  represents : x.2.1.Represents y.2.1
  world : x.2.2 = y.2.2

variable {s : Shared} {w : World σ}

theorem represents_fresh (names : List Text) : (fresh names).Represents (Shared.declared names) :=
  ⟨well_formed_fresh names, values_fresh names⟩

theorem Represents.update (h : t.Represents s) (given : Bindings) :
    (t.update given).Represents (s.update given) :=
  ⟨h.wellFormed.update given, by rw [h.wellFormed.update_eq, h.values]⟩

theorem reset_eq (names : List Text) : Shared.reset names =
    if names.all Text.isIdentifier then .ok (Shared.declared names)
    else .error ⟨names.filter (!Text.isIdentifier ·)⟩ := by
  have good : (names.filter (!Text.isIdentifier ·)).isEmpty = names.all Text.isIdentifier := by
    rw [Bool.eq_iff_iff]
    simp [List.isEmpty_iff, List.filter_eq_nil_iff]
  rw [Shared.reset, good, Text.distinct_eq_erase_dups]
  rfl

theorem perform_refused {names : List Text} (bad : names.all Text.isIdentifier = false)
    (initializer : Text) (evaluator : Option (Evaluator σ)) (t : SharedTable) (w : World σ) :
    perform (.declare names initializer evaluator) t w =
      (.refused ⟨names.filter (!Text.isIdentifier ·)⟩, t, w) := by
  have some : (names.filter (!Text.isIdentifier ·)).isEmpty = false := by
    rw [Bool.eq_false_iff]
    intro none
    rw [Bool.eq_false_iff] at bad
    apply bad
    simpa [List.isEmpty_iff, List.filter_eq_nil_iff] using none
  simp [perform, some]

theorem perform_declared {names : List Text} (good : names.all Text.isIdentifier = true)
    (initializer : Text) (evaluator : Option (Evaluator σ)) (t : SharedTable) (w : World σ) :
    perform (.declare names initializer evaluator) t w =
      match evaluator with
      | none => (.done none, fresh names, w)
      | some e => (fresh names).runInitializer initializer e w := by
  have none : (names.filter (!Text.isIdentifier ·)).isEmpty = true := by
    simpa [List.isEmpty_iff, List.filter_eq_nil_iff] using good
  simp [perform, none]

theorem run_initializer_agrees (h : t.Represents s) (initializer : Text) (e : Evaluator σ) :
    Agrees (t.runInitializer initializer e w)
      (match Shared.runInitializer e initializer s w with
        | (.error escape, s, w) => (.left escape, s, w)
        | (.ok result, s, w) => (.done result, s, w)) := by
  unfold runInitializer Shared.runInitializer
  rw [h.wellFormed.snapshot_eq, h.values]
  by_cases blank : Text.allBlank initializer = true
  · rw [if_pos blank, if_pos blank]
    exact ⟨rfl, h, rfl⟩
  · rw [if_neg blank, if_neg blank]
    rcases ran : e.execute initializer s false w with ⟨escape | result, v⟩
    · simp only [ran]
      exact ⟨rfl, h, rfl⟩
    · simp only [ran]
      refine ⟨rfl, ?_, rfl⟩
      dsimp only
      split
      · exact h
      · exact h.update result.bindings

theorem perform_agrees (h : t.Represents s) (action : SharedAction σ) :
    Agrees (perform action t w) (Shared.perform action s w) := by
  cases action with
  | declare names initializer evaluator =>
    cases good : names.all Text.isIdentifier with
    | false =>
      rw [perform_refused good, Shared.perform, reset_eq, if_neg (by simp [good])]
      exact ⟨rfl, h, rfl⟩
    | true =>
      rw [perform_declared good, Shared.perform, reset_eq, if_pos good]
      cases evaluator with
      | none => exact ⟨rfl, represents_fresh names, rfl⟩
      | some e => exact run_initializer_agrees (represents_fresh names) initializer e
  | update given => exact ⟨rfl, h.update given, rfl⟩
  | clear => exact ⟨rfl, ⟨⟨List.nodup_nil, rfl⟩, rfl⟩, rfl⟩

theorem perform_all_agrees (actions : List (SharedAction σ)) (h : t.Represents s) :
    Agrees (SharedAction.performAll perform actions t w)
      (SharedAction.performAll Shared.perform actions s w) := by
  induction actions generalizing t s w with
  | nil => exact ⟨rfl, h, rfl⟩
  | cons action rest ih =>
    have first := perform_agrees h action (w := w)
    rcases done : perform action t w with ⟨answer, t', w'⟩
    rcases done' : Shared.perform action s w with ⟨answer', s', v'⟩
    rw [done, done'] at first
    obtain ⟨rfl, represents, rfl⟩ := first
    obtain ⟨later, represents, world⟩ := ih represents (w := w')
    simp only [SharedAction.performAll, done, done']
    exact ⟨congrArg (answer :: ·) later, represents, world⟩

theorem perform_failed {names : List Text} {initializer : Text} {e : Evaluator σ}
    {ended : Attempt Evaluation} {w' : World σ} (good : names.all Text.isIdentifier = true)
    (written : Text.allBlank initializer = false)
    (run : e.execute initializer (Shared.declared names) false w = (ended, w'))
    (failed : ∀ result, ended = .ok result → result.raised = true) :
    (perform (.declare names initializer (some e)) t w).2 = (fresh names, w') := by
  rw [perform_declared good]
  simp only [runInitializer, written, Bool.false_eq_true, if_false,
    (well_formed_fresh names).snapshot_eq, values_fresh, run]
  cases ended with
  | error escape => rfl
  | ok result => simp only [failed result rfl, if_true]

theorem table_run_initializer (t : SharedTable) (initializer : Text) (e : Evaluator σ)
    (w : World σ) :
    (t.runInitializer initializer e w).2.1 = t ∨
      ∃ given, (t.runInitializer initializer e w).2.1 = t.update given := by
  unfold runInitializer
  split
  · exact .inl rfl
  · split
    · exact .inl rfl
    · split
      · exact .inl rfl
      · dsimp only
        split
        · exact .inl rfl
        · exact .inr ⟨_, rfl⟩

theorem names_perform_declare {names : List Text} (good : names.all Text.isIdentifier = true)
    (initializer : Text) (evaluator : Option (Evaluator σ)) (t : SharedTable) (w : World σ) :
    (perform (.declare names initializer evaluator) t w).2.1.names = names.eraseDups := by
  rw [perform_declared good, ← Text.distinct_eq_erase_dups]
  cases evaluator with
  | none => rfl
  | some e =>
    rcases table_run_initializer (fresh names) initializer e w with kept | ⟨given, updated⟩
    · exact congrArg SharedTable.names kept
    · exact congrArg SharedTable.names updated

theorem fresh_eq (names : List Text) :
    fresh names = ⟨names.eraseDups, names.eraseDups.map fun name => (name, .none)⟩ := by
  have values := values_fresh names
  rw [Shared.declared] at values
  rw [← values, ← Text.distinct_eq_erase_dups]
  rfl

theorem WellFormed.contains_iff (h : t.WellFormed) (name : Text) :
    t.contains name = true ↔ name ∈ t.names := by
  rw [contains, Bindings.has_iff, h.stored]

theorem is_true_iff : t.isTrue = true ↔ ∃ name, name ∈ t.names := by
  rw [isTrue, Bool.not_eq_true', List.isEmpty_eq_false_iff_exists_mem]

theorem WellFormed.get_update (h : t.WellFormed) (given : Bindings) (name : Text) :
    (t.update given).values.get? name =
      (t.values.get? name).map fun old => (given.get? name).getD old := by
  rw [h.update_eq]
  exact Shared.get_update t.values given name

/-- After any operations that started without variables, each name is listed once and has one value,
as in the variables that the same operations come to. A declaration with a name that is no
identifier changes nothing, any other lists its names in their order, without values if its
initializer fails, and an update gives values to listed names only. -/
theorem names_and_values_stay_together (actions : List (SharedAction σ)) (w : World σ) :
    let (answers, t, w') := SharedAction.performAll perform actions {} w
    let (answers', s, v') := SharedAction.performAll Shared.perform actions [] w
    (answers = answers' ∧ w' = v' ∧ t.snapshot? = some s) ∧
    (t.names.Nodup ∧ t.values.names = t.names ∧ Bindings.names s = t.names ∧
      (∀ name, t.contains name = true ↔ name ∈ t.names) ∧
      (t.isTrue = true ↔ ∃ name, name ∈ t.names)) ∧
    (∀ names initializer (evaluator : Option (Evaluator σ)) v, names.all Text.isIdentifier = false →
      perform (.declare names initializer evaluator) t v =
        (.refused ⟨names.filter (!Text.isIdentifier ·)⟩, t, v)) ∧
    (∀ names initializer (evaluator : Option (Evaluator σ)) v, names.all Text.isIdentifier = true →
      (perform (.declare names initializer evaluator) t v).2.1.names = names.eraseDups) ∧
    (∀ names initializer (e : Evaluator σ) v ended v', names.all Text.isIdentifier = true →
      Text.allBlank initializer = false →
      e.execute initializer (Shared.declared names) false v = (ended, v') →
      (∀ result, ended = .ok result → result.raised = true) →
      (perform (.declare names initializer (some e)) t v).2 =
        (⟨names.eraseDups, names.eraseDups.map fun name => (name, .none)⟩, v')) ∧
    ∀ given, (t.update given).names = t.names ∧ (t.update given).values.names = t.names ∧
      ∀ name, (t.update given).values.get? name =
        (t.values.get? name).map fun old => (given.get? name).getD old := by
  have none : ({} : SharedTable).Represents [] := ⟨⟨List.nodup_nil, rfl⟩, rfl⟩
  have run := perform_all_agrees actions none (w := w)
  rcases ran : SharedAction.performAll perform actions {} w with ⟨answers, t, w'⟩
  rcases ran' : SharedAction.performAll Shared.perform actions [] w with ⟨answers', s, v'⟩
  rw [ran, ran'] at run
  obtain ⟨answer, ⟨wellFormed, rfl⟩, world⟩ := run
  refine ⟨⟨answer, world, wellFormed.snapshot_eq⟩, ?_, ?_, ?_, ?_, ?_⟩
  · exact ⟨wellFormed.distinct, wellFormed.stored, wellFormed.stored, wellFormed.contains_iff,
      is_true_iff⟩
  · intro names initializer evaluator v bad
    exact perform_refused bad initializer evaluator t v
  · intro names initializer evaluator v good
    exact names_perform_declare good initializer evaluator t v
  · intro names initializer e v ended v' good written run failed
    rw [perform_failed good written run failed, fresh_eq]
  · intro given
    exact ⟨rfl, (wellFormed.update given).stored, wellFormed.get_update given⟩

end SharedTable
end EmbeddedTests
