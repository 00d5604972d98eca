import EmbeddedTests.Proofs.Disciplines
import EmbeddedTests.Proofs.Namespace

/-!
# What running code can change

A call of a function runs in a frame of its own, and frames are never taken away. So code changes
variables of the frame that it runs in, of those only the ones that it writes, and of frames that
are made meanwhile; and it changes names of the base namespace only where one of these frames
declares them global.
-/
namespace EmbeddedTests

open Text

namespace Bindings

variable {b : Bindings} {name other : Text} {v : Value}

theorem get_append (front back : Bindings) :
    get? (front ++ back) name = (front.get? name).or (back.get? name) := by
  unfold get?
  rw [List.find?_append]
  cases front.find? (·.1 == name) <;> rfl

theorem get_cons (entry : Text × Value) :
    get? (entry :: b) name = if entry.1 = name then some entry.2 else b.get? name := by
  unfold get?
  rw [List.find?_cons]
  by_cases same : entry.1 = name
  · simp [same]
  · simp [same, beq_eq_false_iff_ne.mpr same]

theorem get_eq_none_iff : b.get? name = none ↔ name ∉ b.names := by
  simp only [get?, names, Option.map_eq_none_iff, List.find?_eq_none, List.mem_map, not_exists,
    not_and, beq_iff_eq]

theorem get_map_written (b : Bindings) :
    get? (b.map fun entry => if entry.1 = name then (name, v) else entry) other =
      if other = name then (b.get? name).map fun _ => v else b.get? other := by
  induction b with
  | nil => simp [get?]
  | cons entry rest ih =>
    rw [List.map_cons, get_cons, ih, get_cons, get_cons]
    by_cases here : entry.1 = name
    · by_cases same : other = name
      · simp [here, same]
      · simp [here, same, Ne.symm same]
    · by_cases same : other = name
      · subst same
        simp [here]
      · simp [here, same]

theorem get_put_self : (b.put name v).get? name = some v := by
  unfold put
  split
  · rename_i bound
    obtain ⟨old, found⟩ := Option.ne_none_iff_exists'.mp
      (fun none => get_eq_none_iff.mp none (has_iff.mp bound))
    rw [get_map_written, if_pos rfl, found, Option.map_some]
  · rename_i free
    rw [get_append, get_eq_none_iff.mpr fun bound => free (has_iff.mpr bound), Option.none_or,
      get_cons, if_pos rfl]

theorem get_put_of_ne (apart : other ≠ name) : (b.put name v).get? other = b.get? other := by
  unfold put
  split
  · rw [get_map_written, if_neg apart]
  · rw [get_append, get_cons, if_neg apart.symm]
    exact Option.or_none

theorem nodup_put (once : b.names.Nodup) (name : Text) (v : Value) :
    (b.put name v).names.Nodup := by
  by_cases bound : b.has name = true
  · rw [names_put_bound v bound]
    exact once
  · have apart : name ∉ b.names := fun listed => bound (has_iff.mpr listed)
    rw [put, if_neg bound, names, List.map_append]
    refine List.nodup_append.mpr ⟨once, List.nodup_cons.mpr ⟨List.not_mem_nil, List.nodup_nil⟩, ?_⟩
    rintro n listed m last rfl
    obtain rfl : n = name := List.mem_singleton.mp last
    exact apart listed

end Bindings

namespace Snippet

namespace Machine

variable {m : Machine} {f : Frame} {id i : Nat} {change : Bindings → Bindings}

/-- Frames are numbered in the order in which they were made. -/
def Ordered (m : Machine) : Prop := (m.frames.map (·.1)).Pairwise (· > ·)

theorem Ordered.lt_fresh (h : m.Ordered) (found : m.frame? id = some f) : id < m.fresh := by
  obtain ⟨⟨i, g⟩, inside, rfl⟩ := Option.map_eq_some_iff.mp found
  have same : i = id := by simpa using List.find?_some inside
  subst same
  have member := List.mem_of_find?_eq_some inside
  unfold Ordered at h
  unfold fresh
  cases frames : m.frames with
  | nil => simp [frames] at member
  | cons first rest =>
    rw [frames] at member h
    rcases List.mem_cons.mp member with rfl | later
    · exact Nat.lt_succ_self i
    · have below : i < first.1 :=
        (List.pairwise_cons.mp h).1 i (List.mem_map.mpr ⟨_, later, rfl⟩)
      exact Nat.lt_succ_of_lt below

theorem Ordered.push (h : m.Ordered) : (m.push f).Ordered := by
  refine List.pairwise_cons.mpr ⟨?_, h⟩
  intro i listed
  obtain ⟨⟨j, g⟩, inside, rfl⟩ := List.mem_map.mp listed
  have there : (m.frames.find? (·.1 == j)).isSome = true :=
    List.find?_isSome.mpr ⟨(j, g), inside, by simp⟩
  obtain ⟨entry, found⟩ := Option.isSome_iff_exists.mp there
  exact h.lt_fresh (by rw [frame?, found]; rfl)

theorem find_adjust (change : Frame → Frame) (frames : List (Nat × Frame)) :
    (adjust id change frames).find? (·.1 == i) =
      (frames.find? (·.1 == i)).map fun entry =>
        if i = id then (entry.1, change entry.2) else entry := by
  induction frames with
  | nil => rfl
  | cons entry rest ih =>
    obtain ⟨j, g⟩ := entry
    unfold adjust
    by_cases here : j = id
    · subst here
      by_cases sought : j = i
      · simp [sought]
      · simp [sought, Ne.symm sought]
    · rw [if_neg here, List.find?_cons, List.find?_cons]
      by_cases sought : j = i
      · subst sought
        simp [here]
      · simp only [beq_eq_false_iff_ne.mpr sought]
        exact ih

theorem frame_change_vars :
    (m.changeVars id change).frame? i = (m.frame? i).map fun f =>
      if i = id then { f with vars := change f.vars } else f := by
  unfold changeVars frame?
  dsimp only
  rw [find_adjust, Option.map_map, Option.map_map]
  congr 1
  funext entry
  by_cases here : i = id <;> simp [here]

end Machine

/-- What code that runs in a frame, or in none, may have done: of the frame it changed variables of
the given names only. -/
structure Touches (own : Option Nat) (names : List Text) (w w' : World Machine) : Prop where
  ordered : w'.state.Ordered
  fresh : w.state.fresh ≤ w'.state.fresh
  frames : ∀ i f, w.state.frame? i = some f →
    ∃ vars, w'.state.frame? i = some { f with vars := vars } ∧
      ∀ n, own ≠ some i ∨ n ∉ names → vars.get? n = f.vars.get? n
  /-- A name of the base namespace is as it was, unless the frame or a new one declares it. -/
  base : ∀ n, (∀ i f, w'.state.frame? i = some f → own = some i ∨ w.state.fresh ≤ i →
    n ∉ f.declared) → w'.base.get? n = w.base.get? n

def Placed (own : Option Nat) (w : World Machine) : Prop :=
  ∀ i, own = some i → ∃ f, w.state.frame? i = some f

namespace Touches

variable {own : Option Nat} {names : List Text} {w w' w'' : World Machine}

theorem of_same (ordered : w.state.Ordered) (frames : w'.state.frames = w.state.frames)
    (base : w'.base = w.base) : Touches own names w w' := by
  have found (i : Nat) : w'.state.frame? i = w.state.frame? i := by
    unfold Machine.frame?
    rw [frames]
  refine ⟨?_, ?_, ?_, ?_⟩
  · unfold Machine.Ordered
    rw [frames]
    exact ordered
  · unfold Machine.fresh
    rw [frames]
  · intro i f here
    exact ⟨f.vars, (found i).trans here, fun _ _ => rfl⟩
  · intro n _
    rw [base]

theorem refl (ordered : w.state.Ordered) : Touches own names w w := of_same ordered rfl rfl

theorem placed (h : Touches own names w w') (there : Placed own w) : Placed own w' := by
  intro i mine
  obtain ⟨f, found⟩ := there i mine
  obtain ⟨vars, found', -⟩ := h.frames i f found
  exact ⟨_, found'⟩

theorem trans (h : Touches own names w w') (h' : Touches own names w' w'') :
    Touches own names w w'' := by
  refine ⟨h'.ordered, h.fresh.trans h'.fresh, ?_, ?_⟩
  · intro i f found
    obtain ⟨vars, found', kept⟩ := h.frames i f found
    obtain ⟨vars', found'', kept'⟩ := h'.frames i _ found'
    exact ⟨vars', found'', fun n apart => (kept' n apart).trans (kept n apart)⟩
  · intro n undeclared
    have later : w''.base.get? n = w'.base.get? n := by
      apply h'.base n
      intro i f found place
      exact undeclared i f found (place.imp_right h.fresh.trans)
    have earlier : w'.base.get? n = w.base.get? n := by
      apply h.base n
      intro i f found place
      -- A frame keeps its declarations.
      obtain ⟨vars, found', -⟩ := h'.frames i f found
      have apart := undeclared i _ found' place
      exact apart
    exact later.trans earlier

/-- What code outside any frame does, code in a frame may do as well. -/
theorem outside (h : Touches none [] w w') : Touches own names w w' := by
  refine ⟨h.ordered, h.fresh, ?_, ?_⟩
  · intro i f found
    obtain ⟨vars, found', kept⟩ := h.frames i f found
    exact ⟨vars, found', fun n _ => kept n (.inl nofun)⟩
  · intro n undeclared
    apply h.base n
    rintro i f found (mine | later)
    · cases mine
    · exact undeclared i f found (.inr later)

end Touches

namespace Run

variable {α β : Type} {own : Option Nat} {names : List Text}

def Keeps (own : Option Nat) (names : List Text) (r : Run α) : Prop :=
  ∀ w, w.state.Ordered → Placed own w → Touches own names w (r.run w).2

namespace Keeps

theorem pure (a : α) : Keeps own names (pure a : Run α) := fun _ ordered _ => .refl ordered

theorem throw (stop : Stop) : Keeps own names (throw stop : Run α) :=
  fun _ ordered _ => .refl ordered

theorem bind {r : Run α} {f : α → Run β} (h : Keeps own names r)
    (k : ∀ a, Keeps own names (f a)) : Keeps own names (r >>= f) := by
  intro w ordered placed
  have first := h w ordered placed
  rw [run_bind]
  rcases ran : r.run w with ⟨t | a, u⟩
  all_goals rw [ran] at first
  · exact first
  · exact first.trans (k a u first.ordered (first.placed placed))

theorem get : Keeps own names (get : Run (World Machine)) := fun _ ordered _ => .refl ordered

theorem modify {change : World Machine → World Machine}
    (frames : ∀ w, (change w).state.frames = w.state.frames)
    (base : ∀ w, (change w).base = w.base) : Keeps own names (modify change : Run Unit) :=
  fun w ordered _ => .of_same ordered (frames w) (base w)

theorem outside {r : Run α} (h : Keeps none [] r) : Keeps own names r :=
  fun w ordered _ => (h w ordered nofun).outside

theorem recording {r : Run α} (h : Keeps own names r) : Keeps own names (recording r) := by
  intro w ordered placed
  have ran := h (withMachine w (·.startRecording)) ordered placed
  have start : Touches own names w (withMachine w (·.startRecording)) := .of_same ordered rfl rfl
  exact (start.trans ran).trans (.of_same ran.ordered rfl rfl)

end Keeps
end Run
end Snippet
end EmbeddedTests
