import EmbeddedTests.Proofs.Disciplines
import EmbeddedTests.Proofs.Presentation
import EmbeddedTests.Snippet.Host

/-!
# Snippets do not see the console

Running a snippet in worlds that differ in nothing but what was printed comes to the same, and
leaves such worlds: every primitive of the machine is blind to the console, and so is whatever is
built of them.
-/
namespace EmbeddedTests.Snippet

open Text

namespace Run

variable {α β : Type}

abbrev Blind (r : Run α) : Prop := World.Unseen r.run

namespace Blind

theorem pure (a : α) : Blind (pure a : Run α) := fun _ _ agrees => ⟨rfl, agrees⟩

theorem throw (stop : Stop) : Blind (throw stop : Run α) := fun _ _ agrees => ⟨rfl, agrees⟩

theorem bind {r : Run α} {f : α → Run β} (h : Blind r) (k : ∀ a, Blind (f a)) :
    Blind (r >>= f) := by
  intro w w' agrees
  rcases run : r.run w with ⟨t | a, u⟩
  all_goals
    obtain ⟨u', run', after⟩ := h.answers agrees run
    rw [run_bind, run_bind, run, run']
  · exact ⟨rfl, after⟩
  · exact k a after

theorem ite {c : Prop} [Decidable c] {r r' : Run α} (h : Blind r) (h' : Blind r') :
    Blind (if c then r else r') := by
  split
  · exact h
  · exact h'

theorem modify {change : World Machine → World Machine}
    (h : ∀ w w', w.Agrees w' → (change w).Agrees (change w')) :
    Blind (modify change : Run Unit) := fun w w' agrees => ⟨rfl, h w w' agrees⟩

theorem read {f : World Machine → Run α} (same : ∀ w w', w.Agrees w' → f w' = f w)
    (h : ∀ w, Blind (f w)) : Blind (get >>= f) := by
  intro w w' agrees
  have got (u : World Machine) : (get >>= f : Run α).run u = (f u).run u := run_bind get f u
  rw [got, got, same w w' agrees]
  exact h w agrees

theorem attempt {r : Run α} (h : Blind r) : Blind r.attempt := by
  intro w w' agrees
  obtain ⟨answer, after⟩ := h agrees
  exact ⟨congrArg Except.ok answer, after⟩

end Blind

end Run

open Run

section Machine

variable {α : Type}

theorem machine_agrees {w w' : World Machine} (h : w.Agrees w') (change : Machine → Machine) :
    (withMachine w change).Agrees (withMachine w' change) :=
  ⟨h.base, h.helpers, congrArg change h.state⟩

theorem on_machine_blind (change : Machine → Machine) : Blind (onMachine change) :=
  .modify fun _ _ h => machine_agrees h change

theorem bind_blind (name : Text) (v : Value) : Blind (modify (·.bind name v) : Run Unit) :=
  .modify fun _ _ h => h.bind name v

theorem unbind_blind (name : Text) : Blind (modify (·.unbind name) : Run Unit) :=
  .modify fun _ _ h => World.Agrees.rebinds.unbind h name

theorem print_blind (t : Text) : Blind (Run.print t) :=
  .modify fun _ _ h => ⟨h.base, h.helpers, h.state⟩

theorem get_frame_blind (id : Nat) : Blind (getFrame? id) :=
  .read (fun _ _ agrees => by rw [agrees.state]) fun _ => .pure _

theorem new_frame_blind (f : Frame) : Blind (newFrame f) :=
  .read (fun _ _ agrees => by rw [agrees.state]) fun _ =>
    .bind (on_machine_blind _) fun _ => .pure _

theorem is_local_blind (place : Place) (name : Text) : Blind (isLocal place name) := by
  cases place with
  | none => exact .pure none
  | some id =>
    refine .bind (get_frame_blind id) fun frame => ?_
    split <;> exact .pure _

theorem write_name_blind (place : Place) (name : Text) (v : Value) :
    Blind (writeName place name v) := by
  refine .bind (is_local_blind place name) fun owner => ?_
  split
  · exact bind_blind name v
  · exact on_machine_blind _

theorem delete_name_blind (place : Place) (name : Text) : Blind (deleteName place name) := by
  refine .bind (is_local_blind place name) fun owner => ?_
  split
  · exact .read (fun _ _ agrees => by rw [agrees.base]) fun _ => .ite (unbind_blind name) (.throw _)
  · repeat' split
    all_goals first | exact on_machine_blind _ | exact .throw _

theorem observe_unseen (record : Bool) {r : Run α} (h : Blind r) :
    World.Unseen (observe record r) := by
  intro w w' agrees
  unfold observe
  cases record with
  | true =>
    obtain ⟨answer, after⟩ := h (machine_agrees agrees (·.startRecording))
    exact ⟨congrArg₂ (fun a m => (a, Machine.recorded m)) answer after.state,
      machine_agrees after _⟩
  | false =>
    obtain ⟨answer, after⟩ := h agrees
    exact ⟨congrArg (·, []) answer, after⟩

theorem recording_blind {r : Run α} (h : Blind r) : Blind (recording r) := by
  intro w w' agrees
  obtain ⟨answer, after⟩ := observe_unseen true h agrees
  exact ⟨congrArg Except.ok answer, after⟩

end Machine

def blindness : Discipline where
  Holds _ _ r := Blind r
  pure := .pure
  throw := .throw
  bind := .bind
  attempt := .attempt
  recording := recording_blind
  print := print_blind
  beside _ := on_machine_blind _
  store _ _ _ := .read (fun _ _ agrees => by rw [agrees.state]) fun _ => on_machine_blind _
  read same h := .read (fun _ _ agrees => same _ _ agrees.base agrees.state) h
  anywhere h := h
  write v _ := write_name_blind _ _ v
  delete _ := delete_name_blind _ _
  inFrame f _ _ h := .bind (new_frame_blind f) h

theorem eval_blind (place : Place) (e : Expr) : Blind (eval topCall place e) := by
  have anywhere : blindness.Holds .nothing (eval topCall place e) :=
    Discipline.of_eval blindness.of_top_call place e
  exact anywhere

theorem exec_all_blind (place : Place) (ss : List Stmt) : Blind (execAll topCall place ss) :=
  Discipline.of_code blindness.of_top_call place ss

theorem run_block_unseen (body : List Stmt) (bindings : Bindings) (record : Bool) :
    World.Unseen (runBlock body bindings record) := by
  intro w w' agrees
  have blind := exec_all_blind (some w.state.fresh) body
  obtain ⟨answer, after⟩ := observe_unseen record blind
    (machine_agrees agrees fun m =>
      (m.push (blockFrame body bindings w.state.fresh)).keepTable w.state.fresh bindings)
  unfold runBlock
  rw [agrees.state]
  refine ⟨?_, after⟩
  exact congrArg₂ (fun a m => (⟨a.1.map fun _ => (), (Machine.table? m w.state.fresh).getD [],
    a.2⟩ : BlockEnd)) answer after.state

theorem execute_unseen (file code : Text) (bindings : Bindings) (record : Bool) :
    World.Unseen (execute file code bindings record) := by
  intro w w' agrees
  unfold execute
  cases readBlock code bindings.names with
  | error e => exact ⟨rfl, agrees⟩
  | ok body =>
    obtain ⟨answer, after⟩ := run_block_unseen body bindings record agrees
    dsimp only
    rw [answer]
    exact ⟨rfl, after⟩

theorem evaluate_unseen (file expr : Text) (bindings : Bindings) :
    World.Unseen (evaluate file expr bindings) := by
  intro w w' agrees
  unfold evaluate
  cases readExpr (trim expr) with
  | error e => exact ⟨rfl, agrees⟩
  | ok e =>
    have blind : Blind (do
        let id ← newFrame ⟨bindings, [], none⟩
        eval topCall (some id) e) :=
      .bind (new_frame_blind _) fun _ => eval_blind _ e
    obtain ⟨u', run', after⟩ := blind.answers agrees rfl
    simp only [run']
    exact ⟨rfl, after⟩

theorem define_unseen (file name source : Text) : World.Unseen (define file name source) := by
  intro w w' agrees
  unfold define
  cases compileStatements source with
  | error e => exact ⟨rfl, agrees⟩
  | ok ss =>
    have start : World.Agrees { w with base := documented w.base ss }
        { w' with base := documented w'.base ss } :=
      ⟨congrArg (documented · ss) agrees.base, agrees.helpers, agrees.state⟩
    obtain ⟨u', run', after⟩ := (exec_all_blind none ss).answers start rfl
    simp only [run', after.base]
    exact ⟨rfl, after⟩

theorem answer_blind (v : Value) (q : Question) : Blind (answer v q) := by
  have calls := blindness.of_top_call
  have said : blindness.Holds .nothing (saidOf topCall v) := Discipline.of_said_of calls v
  cases q with
  | text | formatted => exact said
  | written =>
    have written : blindness.Holds .nothing (render topCall v.written) :=
      Discipline.of_render calls v.written
    exact written
  | truth =>
    have decided : blindness.Holds .nothing (holds topCall v) := Discipline.of_holds calls v
    exact decided

theorem ask_unseen (q : Question) (v : Value) : World.Unseen (ask q v) := by
  intro w w' agrees
  obtain ⟨u', run', after⟩ := (answer_blind v q).answers agrees rfl
  unfold ask
  simp only [run']
  exact ⟨rfl, after⟩

theorem run_module_unseen (disk : Disk) (path : Text) (names : Bindings) :
    World.Unseen (runModule disk path names) := by
  intro w w' agrees
  unfold runModule
  cases readModule disk path with
  | error raised => exact ⟨rfl, rfl, agrees.helpers, agrees.state⟩
  | ok ss =>
    have start : World.Agrees { w with base := documented names ss }
        { w' with base := documented names ss } :=
      ⟨rfl, agrees.helpers, agrees.state⟩
    obtain ⟨u', run', after⟩ := (exec_all_blind none ss).answers start rfl
    simp only [run']
    exact ⟨rfl, after⟩

theorem run_for_tests_unseen (disk : Disk) (file : Text) : World.Unseen (runForTests disk file) := by
  intro w w' agrees
  unfold runForTests
  split
  · exact run_module_unseen _ _ _ agrees
  · exact ⟨rfl, agrees⟩

theorem prepare_unseen (disk : Disk) (config : Config) (file : Text) :
    World.Unseen (prepare disk config file) := by
  intro w w' agrees
  unfold prepare
  split
  · obtain ⟨answer, after⟩ := run_for_tests_unseen disk file agrees
    exact ⟨congrArg (Except.map (Except.map fun _ => evaluator file)) answer, after⟩
  · exact ⟨rfl, rfl, agrees.helpers, agrees.state⟩

theorem unseeing (file : Text) : (evaluator file).Unseeing := by
  unfold evaluator
  refine .of_unseen ?_ (evaluate_unseen file) (define_unseen file) ask_unseen ?_
  · dsimp only
    exact execute_unseen file
  · intro w w' agrees
    unfold Evaluator.surroundings World.names
    rw [agrees.base]

end EmbeddedTests.Snippet
