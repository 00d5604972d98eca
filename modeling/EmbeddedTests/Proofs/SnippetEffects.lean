import EmbeddedTests.Proofs.FrameEffects
import EmbeddedTests.Snippet.Evaluator

/-!
# What each construct of a snippet can change

Expressions change nothing where they are evaluated: what they call runs in frames of its own.
Statements change the variables that they bind, and no others. Frames stay numbered in the order in
which they were made.
-/
namespace EmbeddedTests.Snippet

open Text Run

section

variable {id : Nat} {names : List Text} {name : Text} {w : World Machine} {f : Frame}

theorem run_get (w : World Machine) : (get : Run (World Machine)).run w = (.ok w, w) := rfl

theorem run_is_local (found : w.state.frame? id = some f) (name : Text) :
    (isLocal (some id) name).run w =
      (.ok (if name ∈ f.declared then none else some (id, f)), w) := by
  have got : (getFrame? id).run w = (.ok (some f), w) := by
    rw [← found]
    rfl
  change (getFrame? id >>= _ : Run _).run w = _
  rw [run_bind, got]
  rfl

theorem run_write_name (found : w.state.frame? id = some f) (name : Text) (v : Value) :
    (writeName (some id) name v).run w =
      (.ok (), if name ∈ f.declared then w.bind name v
        else withMachine w (·.changeVars id (·.put name v))) := by
  unfold writeName
  rw [run_bind, run_is_local found]
  by_cases declared : name ∈ f.declared
  · simp only [if_pos declared]
    rfl
  · simp only [if_neg declared]
    rfl

end

namespace Run

variable {α β : Type}

def Orders (r : Run α) : Prop := ∀ w, w.state.Ordered → (r.run w).2.state.Ordered

namespace Orders

theorem of_keeps {r : Run α} (h : Keeps none [] r) : Orders r :=
  fun w ordered => (h w ordered nofun).ordered

theorem bind {r : Run α} {f : α → Run β} (h : Orders r) (k : ∀ a, Orders (f a)) :
    Orders (r >>= f) := by
  intro w ordered
  have first := h w ordered
  rw [run_bind]
  rcases ran : r.run w with ⟨t | a, u⟩
  all_goals rw [ran] at first
  · exact first
  · exact k a u first

theorem recording {r : Run α} (h : Orders r) : Orders (recording r) :=
  fun w ordered => h (withMachine w (·.startRecording)) ordered

theorem write (name : Text) (v : Value) : Orders (writeName none name v) :=
  fun _ ordered => ordered

theorem delete (name : Text) : Orders (deleteName none name) := by
  intro w ordered
  have ran : ((deleteName none name).run w).2.state = w.state := by
    change ((if w.base.has name = true then _ else _ : Run Unit).run w).2.state = w.state
    split <;> rfl
  rw [ran]
  exact ordered

end Orders

/-- What a run may do, by its reach. Of the code of a module, which changes any names of the base
namespace, it is only said that the frames stay in order. -/
def Stays (reach : Reach) (r : Run α) : Prop :=
  match reach with
  | .nothing => Keeps none [] r
  | .names none _ => Orders r
  | .names (some id) names => Keeps (some id) names r

namespace Stays

variable {reach : Reach}

theorem of_keeps {r : Run α} (h : ∀ own names, Keeps own names r) : Stays reach r := by
  rcases reach with _ | ⟨_ | id, names⟩
  · exact h none []
  · exact Orders.of_keeps (h none [])
  · exact h (some id) names

theorem bind {r : Run α} {f : α → Run β} (h : Stays reach r) (k : ∀ a, Stays reach (f a)) :
    Stays reach (r >>= f) := by
  rcases reach with _ | ⟨_ | id, names⟩
  · exact Keeps.bind h k
  · exact Orders.bind h k
  · exact Keeps.bind h k

theorem attempt {r : Run α} (h : Stays reach r) : Stays reach r.attempt := by
  rcases reach with _ | ⟨_ | id, names⟩ <;> exact h

theorem recording {r : Run α} (h : Stays reach r) : Stays reach (recording r) := by
  rcases reach with _ | ⟨_ | id, names⟩
  · exact Keeps.recording h
  · exact Orders.recording h
  · exact Keeps.recording h

theorem anywhere {r : Run α} (h : Stays .nothing r) : Stays reach r := by
  rcases reach with _ | ⟨_ | id, names⟩
  · exact h
  · exact Orders.of_keeps h
  · exact .outside h

end Stays
end Run

def Machine.Listed (id : Nat) (m : Machine) : Prop :=
  ∀ entries, m.table? id = some entries → entries.names.Nodup

namespace Run

variable {α β : Type} {id : Nat}

def Lists (id : Nat) (r : Run α) : Prop := ∀ w, w.state.Listed id → (r.run w).2.state.Listed id

namespace Lists

theorem pure (a : α) : Lists id (pure a : Run α) := fun _ listed => listed

theorem throw (stop : Stop) : Lists id (throw stop : Run α) := fun _ listed => listed

theorem bind {r : Run α} {f : α → Run β} (h : Lists id r) (k : ∀ a, Lists id (f a)) :
    Lists id (r >>= f) := by
  intro w listed
  have first := h w listed
  rw [run_bind]
  rcases ran : r.run w with ⟨t | a, u⟩
  all_goals rw [ran] at first
  · exact first
  · exact k a u first

theorem get : Lists id (get : Run (World Machine)) := fun _ listed => listed

theorem modify {change : World Machine → World Machine}
    (tables : ∀ w, (change w).state.tables = w.state.tables) :
    Lists id (modify change : Run Unit) := by
  intro w listed entries found
  change ((change w).state.tables).lookup id = some entries at found
  rw [tables] at found
  exact listed entries found

theorem store (other : Nat) (name : Text) (v : Value) : Lists id (do
    let entries ← readTable other
    onMachine (·.keepTable other (entries.put name v))) := by
  intro w listed entries found
  change ((other, _) :: w.state.tables).lookup id = some entries at found
  rw [List.lookup_cons] at found
  split at found
  · rename_i same
    obtain rfl : id = other := by simpa using same
    obtain rfl := Option.some.inj found
    refine Bindings.nodup_put ?_ name v
    cases kept : w.state.table? id with
    | none => exact List.nodup_nil
    | some old => exact listed old kept
  · exact listed entries found

theorem get_frame (i : Nat) : Lists id (getFrame? i) := .bind .get fun _ => .pure _

theorem is_local (place : Place) (name : Text) : Lists id (isLocal place name) := by
  cases place with
  | none => exact .pure none
  | some i =>
    refine .bind (.get_frame i) fun frame => ?_
    split <;> exact .pure _

theorem write (place : Place) (name : Text) (v : Value) : Lists id (writeName place name v) := by
  refine .bind (.is_local place name) fun owner => ?_
  split <;> exact .modify fun _ => rfl

theorem delete (place : Place) (name : Text) : Lists id (deleteName place name) := by
  refine .bind (.is_local place name) fun owner => ?_
  split
  · refine .bind .get fun w => ?_
    split
    · exact .modify fun _ => rfl
    · exact .throw _
  · split
    · exact .modify fun _ => rfl
    · split <;> exact .throw _

end Lists
end Run

section

variable {w : World Machine}

def entered (body : List Stmt) (bindings : Bindings) (w : World Machine) : World Machine :=
  withMachine w fun m => (m.push (blockFrame body bindings m.fresh)).keepTable m.fresh bindings

variable {file : Text}

end

end EmbeddedTests.Snippet
