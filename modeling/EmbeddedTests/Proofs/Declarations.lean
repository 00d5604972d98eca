import EmbeddedTests.Snippet.Names

/-!
# Parameters and global declarations

The parameters of a function have to differ, and a name that the function declares global cannot be
one of them. Code that is in order with some parameters is in order with more of them exactly if it
declares none of the new ones global.
-/
namespace EmbeddedTests.Snippet

theorem repeated_eq_none_iff {seen names : List Text} :
    repeated? seen names = none ↔ names.Nodup ∧ ∀ n ∈ names, n ∉ seen := by
  induction names generalizing seen with
  | nil => simp [repeated?]
  | cons n rest ih =>
    by_cases before : n ∈ seen
    · simp [repeated?, before]
    · rw [repeated?, if_neg before, ih, List.nodup_cons, List.forall_mem_cons]
      constructor
      · rintro ⟨nodup, apart⟩
        exact ⟨⟨fun member => apart n member List.mem_cons_self, nodup⟩, before,
          fun m member inside => apart m member (List.mem_cons_of_mem n inside)⟩
      · rintro ⟨⟨once, nodup⟩, -, apart⟩
        refine ⟨nodup, fun m member inside => ?_⟩
        rcases List.mem_cons.mp inside with rfl | earlier
        · exact once member
        · exact apart m member earlier

theorem check_parameters_ok_iff {line : Nat} {names : List Text} {u : Usage} :
    checkParameters line names = .ok u ↔ names.Nodup ∧ u = { parameters := names } := by
  have once : repeated? [] names = none ↔ names.Nodup := by simp [repeated_eq_none_iff]
  unfold checkParameters
  cases found : repeated? [] names with
  | some n =>
    have again : ¬names.Nodup := fun nodup => by simp [once.mpr nodup] at found
    simp [again]
  | none => simp [once.mp found, eq_comm]

def Usage.withMore (u : Usage) (extra : List Text) : Usage :=
  { u with parameters := u.parameters ++ extra }

/-- What a check comes to where it is in order: the parameters are kept, and none of them is
declared global. With more parameters it is in order if none of these is declared global either,
and fails otherwise. -/
def Follows (u : Usage) (extra declared : List Text) (x y : Checked) : Prop :=
  ∀ v, x = .ok v → (v.parameters = u.parameters ∧ ∀ n ∈ declared, n ∉ u.parameters) ∧
    ((∀ n ∈ extra, n ∉ declared) ∧ y = .ok (v.withMore extra) ∨
      (∃ n ∈ extra, n ∈ declared) ∧ ∃ e, y = .error e)

section

variable {extra declared later : List Text} {u v : Usage} {x y : Checked}

namespace Follows

theorem ok (same : v.parameters = u.parameters) :
    Follows u extra [] (.ok v) (.ok (v.withMore extra)) := by
  rintro v ⟨⟩
  exact ⟨⟨same, nofun⟩, .inl ⟨by simp, rfl⟩⟩

theorem bind {f : Usage → Checked} (h : Follows u extra declared x y)
    (k : ∀ v, Follows v extra later (f v) (f (v.withMore extra))) :
    Follows u extra (declared ++ later) (x >>= f) (y >>= f) := by
  intro w read
  cases x with
  | error e => cases read
  | ok v =>
    obtain ⟨⟨same, own⟩, first⟩ := h v rfl
    obtain ⟨⟨same', own'⟩, second⟩ := k v w read
    rw [same] at same' own'
    refine ⟨⟨same', fun n listed => (List.mem_append.mp listed).elim (own n) (own' n)⟩, ?_⟩
    rcases first with ⟨apart, rfl⟩ | ⟨⟨n, given, inside⟩, e, rfl⟩
    · rcases second with ⟨apart', same⟩ | ⟨⟨n, given, inside⟩, refused⟩
      · refine .inl ⟨fun n given => ?_, same⟩
        simpa using ⟨apart n given, apart' n given⟩
      · exact .inr ⟨⟨n, given, List.mem_append_right _ inside⟩, refused⟩
    · exact .inr ⟨⟨n, given, List.mem_append_left _ inside⟩, e, rfl⟩

theorem after {α : Type} (x : Except CodeError α) (same : v.parameters = u.parameters) :
    Follows u extra [] (x >>= fun _ => .ok v) (x >>= fun _ => .ok (v.withMore extra)) := by
  cases x with
  | error e => exact fun v read => by cases read
  | ok a => exact ok same

end Follows

theorem objection_eq_none_iff {name : Text} :
    u.objection? name = none ↔ name ∉ u.parameters ∧ name ∉ u.used ∧ name ∉ u.bound := by
  unfold Usage.objection?
  dsimp only
  split
  · simp_all
  · split
    · simp_all
    · split <;> simp_all

theorem check_global_ok_iff {line : Nat} {names : List Text} :
    checkGlobal u line names = .ok v ↔ (∀ n ∈ names, u.objection? n = none) ∧ v = u := by
  unfold checkGlobal
  cases found : names.findSome? u.objection? with
  | some message =>
    obtain ⟨n, listed, objected⟩ := List.exists_of_findSome?_eq_some found
    have : ¬∀ n ∈ names, u.objection? n = none := fun all => by simp [all n listed] at objected
    simp [this]
  | none =>
    have fine := List.findSome?_eq_none_iff.mp found
    exact ⟨fun same => by cases same; exact ⟨fine, rfl⟩, fun ⟨_, same⟩ => by rw [same]⟩

theorem check_global_follows (line : Nat) (names : List Text) :
    Follows u extra names (checkGlobal u line names)
      (checkGlobal (u.withMore extra) line names) := by
  intro v read
  obtain ⟨fine, rfl⟩ := check_global_ok_iff.mp read
  refine ⟨⟨rfl, fun n listed => (objection_eq_none_iff.mp (fine n listed)).1⟩, ?_⟩
  by_cases apart : ∀ n ∈ extra, n ∉ names
  · refine .inl ⟨apart, check_global_ok_iff.mpr ⟨fun n listed => ?_, rfl⟩⟩
    obtain ⟨own, used, bound⟩ := objection_eq_none_iff.mp (fine n listed)
    have new : n ∉ extra := fun given => apart n given listed
    exact objection_eq_none_iff.mpr ⟨by simp [Usage.withMore, own, new], used, bound⟩
  · obtain ⟨n, given, listed⟩ : ∃ n ∈ extra, n ∈ names := by simpa using apart
    refine .inr ⟨⟨n, given, listed⟩, ?_⟩
    cases again : checkGlobal (v.withMore extra) line names with
    | error e => exact ⟨e, rfl⟩
    | ok w =>
      have own := (objection_eq_none_iff.mp ((check_global_ok_iff.mp again).1 n listed)).1
      exact absurd (List.mem_append_right _ given) own

mutual

theorem Stmt.check_follows (extra : List Text) (u : Usage) :
    ∀ s : Stmt, Follows u extra s.declares (s.check u) (s.check (u.withMore extra))
  | .pass => .ok rfl
  | .expr _ | .raise _ | .assign .. | .assignItem .. | .return .. | .delete _ | .import _
  | .assert .. => by
    simp only [Stmt.declares, Stmt.check]
    exact .ok rfl
  | .global line names => check_global_follows line names
  | .ifElse e body orElse =>
    (check_all_follows extra (u.use (e.uses false)) body).bind fun v =>
      check_all_follows extra v orElse
  | .forIn n e body => check_all_follows extra ((u.bind [n]).use (e.uses false)) body
  | .tryElse body handlers orElse atEnd => by
    simp only [Stmt.declares, Stmt.check, List.append_assoc]
    exact (check_all_follows extra u body).bind fun v =>
      (check_all_follows extra v orElse).bind fun v =>
        (check_handlers_follows extra v handlers).bind fun v => check_all_follows extra v atEnd
  | .define line n ps body => by
    simp only [Stmt.declares, Stmt.check, ← bind_assoc]
    exact .after _ rfl
  | .classDef n above body => by
    simp only [Stmt.declares, Stmt.check]
    exact .after _ rfl

theorem check_all_follows (extra : List Text) (u : Usage) : ∀ ss : List Stmt,
    Follows u extra (declaredIn ss) (checkAll u ss) (checkAll (u.withMore extra) ss)
  | [] => .ok rfl
  | s :: ss => (Stmt.check_follows extra u s).bind fun v => check_all_follows extra v ss

theorem check_handlers_follows (extra : List Text) (u : Usage) :
    ∀ handlers : List Handler, Follows u extra (declaredInHandlers handlers)
      (checkHandlers u handlers) (checkHandlers (u.withMore extra) handlers)
  | [] => .ok rfl
  | .mk _ type body :: rest =>
    (check_all_follows extra (u.use (usesOf? false type)) body).bind fun v =>
      check_handlers_follows extra v rest

end

end

end EmbeddedTests.Snippet
