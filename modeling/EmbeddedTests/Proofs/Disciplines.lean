import EmbeddedTests.Snippet.Interpreter

/-!
# What is said of all runs

What holds of the primitives of the machine, and is kept where runs are put together, holds of all
code. The recursion over the syntax of code and over the depth of its calls is made here, once for
every property of this kind.
-/
namespace EmbeddedTests.Snippet

open Text

theorem Run.run_bind {α β : Type} (r : Run α) (f : α → Run β) (w : World Machine) :
    (r >>= f).run w = match r.run w with
      | (.ok a, u) => (f a).run u
      | (.error t, u) => (.error t, u) := by
  change (ExceptT.bindCont f (r.run w).1 : StateM _ _) (r.run w).2 = _
  rcases r.run w with ⟨_ | _, u⟩ <;> rfl

/-- What a run may write: nothing that is there when it starts, or some names where it runs. -/
inductive Reach where
  | nothing
  | names (place : Place) (names : List Text)

/-- A property of runs, for each reach, that runs have which only read and that is kept where runs
are put together. -/
structure Discipline where
  Holds : Reach → {α : Type} → Run α → Prop
  pure {reach : Reach} {α : Type} (a : α) : Holds reach (pure a : Run α)
  throw {reach : Reach} {α : Type} (stop : Stop) : Holds reach (throw stop : Run α)
  bind {reach : Reach} {α β : Type} {r : Run α} {f : α → Run β} :
    Holds reach r → (∀ a, Holds reach (f a)) → Holds reach (r >>= f)
  attempt {reach : Reach} {α : Type} {r : Run α} : Holds reach r → Holds reach r.attempt
  recording {reach : Reach} {α : Type} {r : Run α} : Holds reach r → Holds reach (recording r)
  print {reach : Reach} (t : Text) : Holds reach (Run.print t)
  /-- What is neither a frame nor a table may change. -/
  beside {reach : Reach} {change : Machine → Machine} :
    (∀ m, (change m).frames = m.frames ∧ (change m).tables = m.tables) →
      Holds reach (onMachine change)
  /-- Tables get entries. -/
  store {reach : Reach} (id : Nat) (name : Text) (v : Value) : Holds reach (do
    let entries ← readTable id
    onMachine (·.keepTable id (entries.put name v)))
  /-- Names and frames may be read, and nothing else. -/
  read {reach : Reach} {α : Type} {f : World Machine → Run α} :
    (∀ w w', w'.base = w.base → w'.state = w.state → f w' = f w) → (∀ w, Holds reach (f w)) →
      Holds reach (get >>= f)
  anywhere {reach : Reach} {α : Type} {r : Run α} : Holds .nothing r → Holds reach r
  write {place : Place} {names : List Text} {name : Text} (v : Value) :
    name ∈ names → Holds (.names place names) (writeName place name v)
  delete {place : Place} {names : List Text} {name : Text} :
    name ∈ names → Holds (.names place names) (deleteName place name)
  /-- What is written in a new frame was not there before. -/
  inFrame {α : Type} (f : Frame) (names : List Text) {k : Nat → Run α} :
    (∀ id, Holds (.names (some id) names) (k id)) → Holds .nothing (newFrame f >>= k)

namespace Discipline

variable (d : Discipline) {reach : Reach} {α : Type}

theorem compute (c : Computed α) : d.Holds reach (Run.compute c) := by
  cases c with
  | ok a => exact d.pure a
  | error t => exact d.throw t

theorem raise (type message : Text) : d.Holds reach (Run.raise type message : Run α) :=
  d.compute _

theorem beyond (what : Text) : d.Holds reach (Run.beyond what : Run α) := d.throw _

theorem record (w : Warning) : d.Holds reach (onMachine (·.record w)) := by
  refine d.beside fun m => ?_
  unfold Machine.record
  split <;> exact ⟨rfl, rfl⟩

variable {d}

theorem ite {c : Prop} [Decidable c] {r r' : Run α} (h : d.Holds reach r)
    (h' : d.Holds reach r') : d.Holds reach (if c then r else r') := by
  split
  · exact h
  · exact h'

theorem next {f r : Run Flow} (h : d.Holds reach r) (k : d.Holds reach f) :
    d.Holds reach (do
      match ← r with
      | .next => f
      | flow => return flow) := by
  refine d.bind h fun flow => ?_
  cases flow with
  | next => exact k
  | returned v => exact d.pure _

variable (d)

theorem of_get_frame (id : Nat) : d.Holds reach (getFrame? id) :=
  d.read (fun _ _ _ state => by rw [state]) fun _ => d.pure _

theorem of_read_base (name : Text) : d.Holds reach (readBase name) := by
  refine d.read (fun _ _ base _ => by rw [base]) fun w => ?_
  repeat' split
  all_goals first | exact d.pure _ | exact d.beyond _ | exact d.raise _ _

theorem of_read_outer (name : Text) (scopes : List Nat) : d.Holds reach (readOuter name scopes) := by
  induction scopes with
  | nil => exact d.of_read_base name
  | cons id rest ih =>
    refine d.bind (d.of_get_frame id) fun frame => ?_
    repeat' split
    all_goals first | exact d.pure _ | exact ih | exact d.of_read_base name | exact d.raise _ _

theorem of_read_name (place : Place) (name : Text) : d.Holds reach (readName place name) := by
  cases place with
  | none => exact d.of_read_base name
  | some id =>
    refine d.bind (d.of_get_frame id) fun frame => ?_
    repeat' split
    all_goals first
      | exact d.pure _ | exact d.of_read_base name | exact d.of_read_outer name _ | exact d.raise _ _

theorem of_function_at (place : Place) : d.Holds reach (functionAt place) := by
  cases place with
  | none => exact d.pure none
  | some id => exact d.bind (d.of_get_frame id) fun _ => d.pure _

theorem of_locals_at (place : Place) : d.Holds reach (localsAt place) := by
  cases place with
  | none => exact d.read (fun _ _ base _ => by rw [base]) fun _ => d.pure _
  | some id =>
    refine d.bind (d.of_get_frame id) fun frame => ?_
    repeat' split
    · exact d.pure _
    · exact d.pure _
    · exact d.read (fun _ _ _ state => by rw [state]) fun _ => d.pure _

theorem of_show_locals (place : Place) : d.Holds reach (showLocals place) :=
  d.bind (d.of_locals_at place) fun vars => d.bind (d.of_function_at place) fun around => by
    cases around with
    | none => exact d.pure _
    | some found => exact d.bind (d.beside fun _ => ⟨rfl, rfl⟩) fun _ => d.pure _

theorem of_read_table (id : Nat) : d.Holds reach (readTable id) :=
  d.read (fun _ _ _ state => by rw [state]) fun _ => d.pure _

theorem of_read_shown (id : Nat) : d.Holds reach (readShown id) :=
  d.read (fun _ _ _ state => by rw [state]) fun _ => d.pure _

theorem of_is_member_of (v w : Value) : d.Holds reach (isMemberOf v w) := by
  cases w with
  | table id => exact d.bind (d.of_read_table id) fun _ => d.compute _
  | locals id => exact d.bind (d.of_read_shown id) fun _ => d.compute _
  | _ => exact d.compute _

theorem of_compare_in (op : CompareOp) (a b : Value) : d.Holds reach (compareIn op a b) := by
  cases op with
  | member => exact d.of_is_member_of a b
  | notMember => exact d.bind (d.of_is_member_of a b) fun _ => d.pure _
  | _ => exact d.compute _

theorem of_item_in (v key : Value) : d.Holds reach (itemIn v key) := by
  cases v with
  | table id => exact d.bind (d.of_read_table id) fun _ => d.compute _
  | locals id => exact d.bind (d.of_read_shown id) fun _ => d.compute _
  | _ => exact d.compute _

theorem of_store_item (v key item : Value) : d.Holds reach (storeItem v key item) := by
  unfold storeItem
  split
  · exact d.store _ _ _
  · exact d.compute _

theorem of_iteration_of (v : Value) : d.Holds reach (iterationOf v) := by
  cases v with
  | table id => exact d.bind (d.of_read_table id) fun _ => d.pure _
  | _ => exact d.bind (d.compute _) fun _ => d.pure _

theorem of_check (turns : Iteration) : d.Holds reach turns.check := by
  unfold Iteration.check
  split
  · exact d.pure _
  · exact d.bind (d.of_read_table _) fun _ => ite (d.pure _) (d.raise _ _)

theorem of_loop (turns : Iteration) {body : Value → Run Flow} (h : ∀ v, d.Holds reach (body v))
    (vs : List Value) : d.Holds reach (loop turns body vs) := by
  induction vs with
  | nil => exact d.bind (d.of_check turns) fun _ => d.pure _
  | cons v rest ih => exact d.bind (d.of_check turns) fun _ => next (h v) ih

theorem of_make_function (place : Place) (name : Text) (parameters : List Text)
    (defaults : Bindings) (body : Body) :
    d.Holds reach (makeFunction place name parameters defaults body) := by
  refine d.bind (d.of_function_at place) fun around => ?_
  split <;> exact d.pure _

theorem of_make_class (place : Place) (name : Text) (above : List Value) (body : List Stmt) :
    d.Holds reach (makeClass place name above body) := by
  refine d.bind (d.of_function_at place) fun around => ?_
  refine d.bind (d.compute _) fun _ => d.bind (d.compute _) fun _ => ?_
  refine d.read (fun _ _ base _ => by rw [base]) fun w => ?_
  have numbered (home : Text) (type : Nat → Value) :
      d.Holds reach (do return type (← newFrame ⟨[], [], none⟩) : Run Value) :=
    d.anywhere (d.inFrame _ [] fun _ => d.pure _)
  split
  · exact d.bind (d.pure _) fun home => numbered home _
  · exact d.bind (d.pure _) fun home => numbered home _
  · exact d.bind (d.beyond _) fun home => numbered home _

section

variable {place : Place} {names : List Text}

theorem of_delete_names {deleted : List Text} (inside : deleted ⊆ names) :
    d.Holds (.names place names) (deleteNames place deleted) := by
  induction deleted with
  | nil => exact d.pure _
  | cons name rest ih =>
    rw [List.cons_subset] at inside
    exact d.bind (d.delete inside.1) fun _ => ih inside.2

theorem of_import_names {imported : List Text} (inside : imported ⊆ names) :
    d.Holds (.names place names) (importNames place imported) := by
  induction imported with
  | nil => exact d.pure _
  | cons name rest ih =>
    rw [List.cons_subset] at inside
    exact ite (d.bind (d.write _ inside.1) fun _ => ih inside.2) (d.beyond _)

end

/-- What is called writes nothing that is there. -/
def Calls (call : Caller) : Prop :=
  ∀ place f positional named, d.Holds .nothing (call place f positional named)

variable {d} {call : Caller}

theorem of_call_own (calls : d.Calls call) (method : Text) (object : Value) :
    d.Holds reach (callOwn call method object) := by
  unfold callOwn
  repeat' split
  all_goals first | exact d.anywhere (calls _ _ _ _) | exact d.beyond _

theorem of_render (calls : d.Calls call) (pieces : List Piece) :
    d.Holds reach (render call pieces) := by
  induction pieces with
  | nil => exact d.pure _
  | cons piece rest ih =>
    have rest (t : Text) : d.Holds reach (do return t ++ (← render call rest) : Run Text) :=
      d.bind ih fun _ => d.pure _
    cases piece with
    | text t => exact rest t
    | integer i => exact ite (d.bind (d.raise _ _) fun _ => rest _) (rest _)
    | own method object =>
      refine d.bind (of_call_own calls method object) fun said => ?_
      split
      · exact rest _
      · exact d.raise _ _
    | beyond what => exact d.beyond what

theorem of_said_of (calls : d.Calls call) (v : Value) : d.Holds reach (saidOf call v) :=
  of_render calls v.said

theorem of_holds (calls : d.Calls call) (v : Value) : d.Holds reach (holds call v) := by
  unfold holds
  split
  · exact d.pure _
  · exact d.beyond _
  · refine d.bind (of_call_own calls _ _) fun answer => ?_
    split
    · exact d.pure _
    · exact d.raise _ _

theorem of_choice (calls : d.Calls call) (v : Value) {r r' : Run α} (h : d.Holds reach r)
    (h' : d.Holds reach r') : d.Holds reach (do if ← holds call v then r else r') :=
  d.bind (of_holds calls v) fun _ => ite h h'

mutual

theorem of_eval (calls : d.Calls call) (place : Place) :
    (e : Expr) → d.Holds reach (eval call place e)
  | .none | .bool _ | .int _ | .str _ => d.pure _
  | .name n => ite (d.pure _) (d.of_read_name place n)
  | .list es => d.bind (of_eval_all calls place es) fun _ => d.pure _
  | .tuple es => d.bind (of_eval_all calls place es) fun _ => d.pure _
  | .negate e => d.bind (of_eval calls place e) fun _ => d.compute _
  | .not e =>
    d.bind (of_eval calls place e) fun v => d.bind (of_holds calls v) fun _ => d.pure _
  | .binary _ a b =>
    d.bind (of_eval calls place a) fun _ => d.bind (of_eval calls place b) fun _ => d.compute _
  | .both a b =>
    d.bind (of_eval calls place a) fun v => of_choice calls v (of_eval calls place b) (d.pure _)
  | .either a b =>
    d.bind (of_eval calls place a) fun v => of_choice calls v (d.pure _) (of_eval calls place b)
  | .compare first rest =>
    d.bind (of_eval calls place first) fun x => of_eval_comparison calls place x rest
  | .lambda _ => d.of_make_function place _ _ _ _
  | .call f arguments =>
    d.bind (of_eval calls place f) fun _ =>
      d.bind (of_eval_arguments calls place arguments) fun _ => d.anywhere (calls _ _ _ _)
  | .attribute e _ => d.bind (of_eval calls place e) fun _ => d.compute _
  | .item e key =>
    d.bind (of_eval calls place e) fun _ => d.bind (of_eval calls place key) fun _ =>
      d.of_item_in _ _

theorem of_eval_all (calls : d.Calls call) (place : Place) :
    (es : List Expr) → d.Holds reach (evalAll call place es)
  | [] => d.pure _
  | e :: es =>
    d.bind (of_eval calls place e) fun _ => d.bind (of_eval_all calls place es) fun _ => d.pure _

theorem of_eval_comparison (calls : d.Calls call) (place : Place) (x : Value) :
    (c : Comparison) → d.Holds reach (evalComparison call place x c)
  | .last op e =>
    d.bind (of_eval calls place e) fun y => d.bind (d.of_compare_in op x y) fun _ => d.pure _
  | .more op e rest =>
    d.bind (of_eval calls place e) fun y => d.bind (d.of_compare_in op x y) fun _ =>
      ite (of_eval_comparison calls place y rest) (d.pure _)

theorem of_eval_arguments (calls : d.Calls call) (place : Place) :
    (arguments : List Argument) → d.Holds reach (evalArguments call place arguments)
  | [] => d.pure _
  | .positional e :: rest =>
    d.bind (of_eval calls place e) fun _ =>
      d.bind (of_eval_arguments calls place rest) fun _ => d.pure _
  | .named _ e :: rest =>
    d.bind (of_eval calls place e) fun _ =>
      d.bind (of_eval_arguments calls place rest) fun _ => d.pure _

end

theorem of_eval_defaults (calls : d.Calls call) (place : Place) (parameters : List Parameter) :
    d.Holds reach (evalDefaults call place parameters) := by
  induction parameters with
  | nil => exact d.pure _
  | cons parameter rest ih =>
    cases parameter with
    | required name => exact ih
    | optional name e =>
      exact d.bind (of_eval calls place e) fun _ => d.bind ih fun _ => d.pure _

variable (d) in
theorem of_raise_value (v : Value) : d.Holds reach (raiseValue v : Run α) := by
  have refused : d.Holds reach (raiseValue.notRaisable : Run α) := d.raise _ _
  cases v with
  | type c =>
    refine ite (d.bind (d.compute _) fun made => ?_) refused
    split
    · exact d.throw _
    · exact refused
  | object c arguments => exact ite (d.throw _) refused
  | _ => exact refused

variable (d) in
theorem of_handles (t : Thrown) (v : Value) : d.Holds reach (handles t v) := by
  unfold handles
  split
  · exact d.pure _
  · exact d.raise _ _

section

variable {place : Place} {names : List Text}

mutual

theorem of_exec (calls : d.Calls call) :
    (s : Stmt) → s.binds ⊆ names → d.Holds (.names place names) (exec call place s)
  | .pass, _ | .global .., _ => d.pure _
  | .expr e, _ => d.bind (of_eval calls place e) fun _ => d.pure _
  | .assign _ e, inside =>
    d.bind (of_eval calls place e) fun _ =>
      d.bind (d.write _ (inside List.mem_cons_self)) fun _ => d.pure _
  | .assignItem n key e, _ =>
    d.bind (of_eval calls place e) fun _ => d.bind (d.of_read_name place n) fun _ =>
      d.bind (of_eval calls place key) fun _ => d.bind (d.of_store_item _ _ _) fun _ => d.pure _
  | .return _ none, _ => d.pure _
  | .return _ (some e), _ => d.bind (of_eval calls place e) fun _ => d.pure _
  | .delete _, inside => d.bind (d.of_delete_names inside) fun _ => d.pure _
  | .assert e none, _ =>
    d.bind (of_eval calls place e) fun v => of_choice calls v (d.pure _) (d.throw _)
  | .assert e (some message), _ =>
    d.bind (of_eval calls place e) fun v =>
      of_choice calls v (d.pure _) (d.bind (of_eval calls place message) fun _ => d.throw _)
  | .raise e, _ => d.bind (of_eval calls place e) fun v => d.of_raise_value v
  | .ifElse e body orElse, inside =>
    have parts := List.append_subset.mp inside
    d.bind (of_eval calls place e) fun v =>
      of_choice calls v (of_exec_all calls body parts.1) (of_exec_all calls orElse parts.2)
  | .forIn _ e body, inside =>
    have parts := List.cons_subset.mp inside
    d.bind (of_eval calls place e) fun v => d.bind (d.of_iteration_of v) fun turns =>
      d.of_loop turns
        (fun v => d.bind (d.write v parts.1) fun _ => of_exec_all calls body parts.2) _
  | .tryElse body handlers orElse atEnd, inside => by
    obtain ⟨front, ending⟩ := List.append_subset.mp inside
    obtain ⟨front, otherwise⟩ := List.append_subset.mp front
    obtain ⟨first, handling⟩ := List.append_subset.mp front
    refine d.bind (d.attempt (d.bind (d.attempt (of_exec_all calls body first)) fun ended => ?_))
      fun result => ?_
    · rcases ended with (t | what) | _ | v
      · exact of_exec_handlers calls t handlers handling
      · exact d.beyond what
      · exact of_exec_all calls orElse otherwise
      · exact d.pure _
    · have last := of_exec_all calls atEnd ending
      rcases result with (t | what) | flow
      · exact next last (d.compute _)
      · exact d.beyond what
      · exact next last (d.compute _)
  | .define _ _ parameters _, inside =>
    d.bind (of_eval_defaults calls place parameters) fun _ =>
      d.bind (d.of_make_function place _ _ _ _) fun _ =>
        d.bind (d.write _ (inside List.mem_cons_self)) fun _ => d.pure _
  | .classDef _ above _, inside =>
    d.bind (of_eval_arguments calls place above) fun _ =>
      ite (d.bind (d.of_make_class place _ _ _) fun _ =>
        d.bind (d.write _ (inside List.mem_cons_self)) fun _ => d.pure _) (d.beyond _)
  | .import _, inside => d.bind (d.of_import_names inside) fun _ => d.pure _

theorem of_exec_all (calls : d.Calls call) :
    (ss : List Stmt) → boundIn ss ⊆ names → d.Holds (.names place names) (execAll call place ss)
  | [], _ => d.pure _
  | s :: ss, inside =>
    have parts := List.append_subset.mp inside
    next (of_exec calls s parts.1) (of_exec_all calls ss parts.2)

theorem of_exec_handlers (calls : d.Calls call) (t : Thrown) :
    (handlers : List Handler) → boundInHandlers handlers ⊆ names →
      d.Holds (.names place names) (execHandlers call place t handlers)
  | [], _ => d.throw _
  | .mk _ none body :: _, inside => of_exec_all calls body (List.append_subset.mp inside).1
  | .mk _ (some e) body :: rest, inside =>
    have parts := List.append_subset.mp inside
    d.bind (of_eval calls place e) fun v => d.bind (d.of_handles t v) fun _ =>
      ite (of_exec_all calls body parts.1) (of_exec_handlers calls t rest parts.2)

end

/-- Code reaches no further than the names that it binds. -/
theorem of_code (calls : d.Calls call) (place : Place) (ss : List Stmt) :
    d.Holds (.names place (boundIn ss)) (execAll call place ss) :=
  of_exec_all calls ss (List.Subset.refl _)

end

theorem of_run_body (calls : d.Calls call) (frame : Frame) (body : Body) :
    d.Holds .nothing (runBody call frame body) := by
  cases body with
  | expr e => exact d.inFrame frame [] fun id => of_eval calls (some id) e
  | stmts ss =>
    refine d.inFrame frame _ fun id => d.bind (of_code calls (some id) ss) fun flow => ?_
    cases flow <;> exact d.pure _

theorem of_run_failing (calls : d.Calls call) (place : Place) (code : Value) :
    d.Holds .nothing (runFailing call place code) := by
  refine ite (d.bind (calls _ _ _ _) fun _ => d.pure _) ?_
  refine d.bind (d.of_show_locals place) fun vars => ?_
  cases code with
  | str t =>
    dsimp only
    rcases compileCode t with e | e | ss
    · exact d.raise _ _
    · exact d.inFrame _ [] fun id => d.bind (of_eval calls (some id) e) fun _ => d.pure _
    · exact d.inFrame _ _ fun id => d.bind (of_code calls (some id) ss) fun _ => d.pure _
  | _ => exact d.raise _ _

variable (d) in
theorem of_matches_pattern (pattern : Value) (message : Text) :
    d.Holds reach (matchesPattern pattern message) := by
  unfold matchesPattern
  split
  · exact d.pure _
  · refine d.read (fun _ _ _ state => by rw [state]) fun w => ?_
    split
    · exact d.pure _
    · exact d.raise _ _
  · exact d.beyond _

variable (d) in
theorem of_unmet (message : Text) : d.Holds reach (unmet message : Run α) := d.raise _ _

theorem of_expect_error (calls : d.Calls call) {failing : Run Unit} (h : d.Holds reach failing)
    (pattern : Value) (label : Text) :
    d.Holds reach (expectError call failing pattern label) := by
  refine d.bind (d.attempt h) fun ended => ?_
  rcases ended with (t | what) | _
  · have judged : d.Holds reach (do
        if ← matchesPattern pattern (← saidOf call t.value) then return .none
        unmet ("expected error" ++ label ++ "\nbut got <" ++ (← saidOf call t.value) ++ ">")
        : Run Value) :=
      d.bind (of_said_of calls _) fun message =>
        d.bind (d.of_matches_pattern pattern message) fun _ =>
          -- A failed expectation asks again what was said.
          ite (d.pure _) (d.bind (of_said_of calls _) fun _ => d.of_unmet _)
    exact ite (d.bind (d.throw _) fun _ => judged) judged
  · exact d.beyond what
  · exact d.of_unmet _

theorem of_expect_warning (calls : d.Calls call) {failing : Run Unit} (h : d.Holds reach failing)
    (pattern : Value) (label : Text) :
    d.Holds reach (expectWarning call failing pattern label) := by
  refine d.bind (d.recording (d.bind (d.attempt h) fun ended => ?watched)) fun ended => ?judged
  case watched =>
    rcases ended with (t | what) | _
    · have refused : d.Holds reach (do
          unmet ("expected warning" ++ label ++ "\nbut got error <" ++ (← saidOf call t.value)
            ++ ">") : Run Unit) :=
        d.bind (of_said_of calls _) fun _ => d.of_unmet _
      exact ite (d.bind (d.throw _) fun _ => refused) refused
    · exact d.beyond what
    · exact d.pure _
  case judged =>
    obtain ⟨stop | _, warnings⟩ := ended
    · exact d.throw stop
    · dsimp only
      cases warnings.getLast? with
      | none => exact d.of_unmet _
      | some w =>
        exact d.bind (of_said_of calls w.value) fun message =>
          d.bind (d.of_matches_pattern pattern message) fun _ => ite (d.pure _) (d.of_unmet _)

theorem of_call_fail (calls : d.Calls call) (place : Place) (positional : List Value)
    (named : Bindings) : d.Holds .nothing (callFail call place positional named) := by
  have expected : d.Holds .nothing (do
      let given ← Run.compute
        (bindArguments "fail" ["code", "pattern"] [("pattern", .none)] positional
          (named.erase "warning"))
      let code := (given.get? "code").getD .none
      let pattern := (given.get? "pattern").getD .none
      let label ← Run.compute (patternLabel pattern)
      let failing := runFailing call place code
      if ← holds call ((named.get? "warning").getD (.bool false)) then
        expectWarning call failing pattern label
      else expectError call failing pattern label) :=
    d.bind (d.compute _) fun _ => d.bind (d.compute _) fun label =>
      of_choice calls _ (of_expect_warning calls (of_run_failing calls place _) _ label)
        (of_expect_error calls (of_run_failing calls place _) _ label)
  exact ite (d.bind (d.beyond _) fun _ => expected) expected

variable (d) in
theorem of_call_warn (positional : List Value) (named : Bindings) :
    d.Holds reach (callWarn positional named) := by
  refine d.bind (d.compute _) fun given => ?_
  have told : d.Holds reach (do
      let w ← Run.compute
        (warningOf ((given.get? "message").getD .none) ((given.get? "category").getD .none))
      onMachine (·.record ⟨w.type.name, w.value⟩)
      return Value.none) :=
    d.bind (d.compute _) fun _ => d.bind (d.record _) fun _ => d.pure _
  exact ite (d.bind (d.beyond _) fun _ => told) told

theorem of_print_all (calls : d.Calls call) (vs : List Value) :
    d.Holds reach (printAll call vs) := by
  fun_induction printAll call vs with
  | case1 => exact d.print _
  | case2 v =>
    exact d.bind (of_said_of calls v) fun _ => d.bind (d.print _) fun _ => d.print _
  | case3 v vs _ ih =>
    exact d.bind (of_said_of calls v) fun _ => d.bind (d.print _) fun _ =>
      d.bind (d.print _) fun _ => ih

theorem of_call_plain (calls : d.Calls call) (place : Place) (b : Builtin)
    (positional : List Value) : d.Holds reach (callPlain call place b positional) := by
  cases b with
  | print => exact d.bind (of_print_all calls positional) fun _ => d.pure _
  | len => exact d.bind (d.compute _) fun _ => d.bind (d.compute _) fun _ => d.pure _
  | repr => exact d.bind (d.compute _) fun v => d.bind (of_render calls v.written) fun _ => d.pure _
  | abs => exact d.bind (d.compute _) fun _ => d.compute _
  | str =>
    refine d.bind (d.compute _) fun given => ?_
    cases given with
    | none => exact d.pure _
    | some v => exact d.bind (of_said_of calls v) fun _ => d.pure _
  | bool =>
    refine d.bind (d.compute _) fun given => ?_
    cases given with
    | none => exact d.pure _
    | some v => exact d.bind (of_holds calls v) fun _ => d.pure _
  | locals =>
    refine ite (d.bind (d.of_function_at place) fun around => ?_) (d.raise _ _)
    cases around with
    | none => exact d.beyond _
    | some found => exact d.bind (d.of_show_locals place) fun _ => d.pure _
  | fail | warn => exact d.pure _
  | range | max | min => exact d.compute _

theorem of_call_builtin (calls : d.Calls call) (place : Place) (b : Builtin)
    (positional : List Value) (named : Bindings) :
    d.Holds .nothing (callBuiltin call place b positional named) := by
  cases b with
  | fail => exact of_call_fail calls place positional named
  | warn => exact d.of_call_warn positional named
  | _ => exact ite (of_call_plain calls place _ positional) (d.beyond _)

variable (d)

/-- However deep calls go, they write nothing that is there. -/
theorem of_call_value (depth : Nat) : d.Calls (callValue depth) := by
  induction depth with
  | zero => exact fun _ _ _ _ => d.beyond _
  | succ depth ih =>
    intro place f positional named
    cases f with
    | function name parameters defaults body scope =>
      exact d.bind (d.compute _) fun _ => of_run_body ih _ body
    | builtin b => exact of_call_builtin ih place b positional named
    | type c => exact ite (d.compute _) (d.beyond _)
    | _ => exact d.raise _ _

theorem of_top_call : d.Calls topCall := d.of_call_value callDepth

end Discipline
end EmbeddedTests.Snippet
