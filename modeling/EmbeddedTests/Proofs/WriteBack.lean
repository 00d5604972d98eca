import EmbeddedTests.Proofs.SharedTable
import EmbeddedTests.Proofs.SnippetEffects

/-!
# Writing back

The lines that end a block's function run in the frame of its code, after it and however it ended.
They read the table of shared variables and the local variables, and write those of the table's
names back that are still bound.
-/
namespace EmbeddedTests.Snippet

open Text Run

def writingRound : List Stmt :=
  [.ifElse (.compare (.name writtenName) (.last .member (.name localsName)))
    [.assignItem stateName (.name writtenName) (.item (.name localsName) (.name writtenName))] []]

def writingBack : List Stmt :=
  [.assign localsName (.call (.name Builtin.locals.name) []),
    .forIn writtenName (.name stateName) writingRound]

/-- The value that a name has for code that runs in the frame. -/
def Frame.shown (f : Frame) (base : Bindings) (name : Text) : Option Value :=
  if name ∈ f.declared then base.get? name else f.vars.get? name

section

variable {id : Nat} {w : World Machine} {f : Frame} {name : Text} {v : Value}

theorem run_get_frame (found : w.state.frame? id = some f) :
    (getFrame? id).run w = (.ok (some f), w) := by
  rw [← found]
  rfl

theorem run_read_base (visible : name ∉ hiddenNames) (bound : w.base.get? name = some v) :
    (readBase name).run w = (.ok v, w) := by
  unfold readBase
  rw [run_bind, run_get]
  dsimp only
  rw [bound]
  dsimp only
  rw [if_neg visible]
  rfl

theorem run_read_name (found : w.state.frame? id = some f) (visible : name ∉ hiddenNames)
    (shown : f.shown w.base name = some v) : (readName (some id) name).run w = (.ok v, w) := by
  unfold readName
  dsimp only
  rw [run_bind, run_get_frame found]
  dsimp only
  unfold Frame.shown at shown
  by_cases declared : name ∈ f.declared
  · rw [if_pos declared] at shown ⊢
    exact run_read_base visible shown
  · rw [if_neg declared] at shown ⊢
    rw [shown]
    rfl

/-- What writing a name leaves: the frame with other values, which shows the name as written. -/
structure Wrote (id : Nat) (name : Text) (v : Value) (f g : Frame) (w w' : World Machine) :
    Prop where
  found : w'.state.frame? id = some g
  declared : g.declared = f.declared
  function : g.function = f.function
  tables : w'.state.tables = w.state.tables
  shown : w'.state.shown = w.state.shown
  here : g.shown w'.base name = some v
  elsewhere : ∀ other ≠ name, g.shown w'.base other = f.shown w.base other

theorem run_write (found : w.state.frame? id = some f) (name : Text) (v : Value) :
    ∃ g w', (writeName (some id) name v).run w = (.ok (), w') ∧ Wrote id name v f g w w' := by
  rw [run_write_name found]
  by_cases declared : name ∈ f.declared
  · refine ⟨f, w.bind name v, by rw [if_pos declared], found, rfl, rfl, rfl, rfl, ?_, ?_⟩
    · rw [Frame.shown, if_pos declared]
      exact Bindings.get_put_self
    · intro other apart
      unfold Frame.shown
      split
      · exact Bindings.get_put_of_ne apart
      · rfl
  · have changed : (withMachine w (·.changeVars id (·.put name v))).state.frame? id =
        some { f with vars := f.vars.put name v } := by
      change (w.state.changeVars id (·.put name v)).frame? id = _
      rw [Machine.frame_change_vars, found, Option.map_some, if_pos rfl]
    refine ⟨_, _, by rw [if_neg declared], changed, rfl, rfl, rfl, rfl, ?_, ?_⟩
    · rw [Frame.shown, if_neg declared]
      exact Bindings.get_put_self
    · intro other apart
      unfold Frame.shown
      dsimp only
      split
      · rfl
      · exact Bindings.get_put_of_ne apart

end

section

variable {id : Nat} {w : World Machine} {f : Frame} {vars entries : Bindings}

theorem names_apart :
    stateName ≠ localsName ∧ stateName ≠ writtenName ∧ localsName ≠ writtenName := by
  decide

/-- What the lines that write back find in each round: the table, and what the frame has shown of
its variables before the first one. -/
structure AtHand (id : Nat) (vars entries : Bindings) (f : Frame) (w : World Machine) : Prop where
  found : w.state.frame? id = some f
  locals : f.shown w.base localsName = some (.locals id)
  state : f.shown w.base stateName = some (.table id)
  shown : w.state.shown? id = some vars
  table : w.state.table? id = some entries

theorem AtHand.write (h : AtHand id vars entries f w) (v : Value) :
    ∃ g w', (writeName (some id) writtenName v).run w = (.ok (), w') ∧
      (eval topCall (some id) (.name writtenName)).run w' = (.ok v, w') ∧
      AtHand id vars entries g w' := by
  obtain ⟨-, state_written, locals_written⟩ := names_apart
  obtain ⟨g, w', wrote, after⟩ := run_write h.found writtenName v
  refine ⟨g, w', wrote, run_read_name after.found (by decide) after.here, after.found, ?_, ?_, ?_, ?_⟩
  · exact (after.elsewhere _ locals_written).trans h.locals
  · exact (after.elsewhere _ state_written).trans h.state
  · rw [Machine.shown?, after.shown]
    exact h.shown
  · rw [Machine.table?, after.tables]
    exact h.table

end

/-- The body of the function around a snippet. -/
def wrapped (snippet : List Stmt) : List Stmt := [.tryElse snippet [] [] writingBack]

section

variable {snippet : List Stmt} {bindings entries : Bindings} {record : Bool}
  {w exit : World Machine} {ended : Except Stop Flow}

end
end EmbeddedTests.Snippet
