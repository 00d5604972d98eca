import EmbeddedTests.Config
import EmbeddedTests.Proofs.Templates

/-!
# Settings of every environment

A marker of the wrong length is replaced, and features are read as items that need no trimming. The
template of the tracker is the only setting that is taken as it is: reporting a bug by its number
needs a template that gives a text for it, which the default does and a given one may not.
-/
namespace EmbeddedTests

open Text

namespace Text

theorem trim_eq_self {t : Text} (first : ∀ c ∈ t.head?, isBlank c = false)
    (last : ∀ c ∈ t.getLast?, isBlank c = false) : trim t = t := by
  have start : t.dropWhile isBlank = t := by
    cases t with
    | nil => rfl
    | cons c t => rw [List.dropWhile_cons, first c rfl]; rfl
  rw [trim, strip, start]
  rcases List.eq_nil_or_concat t with rfl | ⟨front, c, rfl⟩
  · rfl
  · rw [List.concat_eq_append] at last ⊢
    exact drop_end_append_cons_of_not front [] (last c (by simp))

theorem trim_trim (t : Text) : trim (trim t) = trim t :=
  trim_eq_self (fun _ => head_trim) (fun _ => get_last_trim)

namespace Template

variable {attributes : TextAttributes} {name value : Text}

theorem render_with_plain {front t : Text} {depth fuel : Nat}
    (plain : ∀ c ∈ front, c ≠ '\x7b' ∧ c ≠ '\x7d') :
    renderWith attributes name value (depth + 1) (front.length + fuel) (front ++ t) =
      (renderWith attributes name value (depth + 1) fuel t).map (front ++ ·) := by
  induction front with
  | nil =>
    rw [List.length_nil, Nat.zero_add]
    cases h : renderWith attributes name value (depth + 1) fuel t <;> simp [h, Except.map]
  | cons c front ih =>
    obtain ⟨opens, closes⟩ := plain c List.mem_cons_self
    have later := ih fun d member => plain d (List.mem_cons_of_mem c member)
    rw [List.length_cons, Nat.succ_add, List.cons_append, render_with_char opens closes, later]
    cases renderWith attributes name value (depth + 1) fuel t <;> rfl

theorem render_at_end (front : Text) (isName : IsName name)
    (plain : ∀ c ∈ front, c ≠ '\x7b' ∧ c ≠ '\x7d') :
    render attributes name value (front ++ '\x7b' :: (name ++ ['\x7d'])) =
      .ok (front ++ value) := by
  obtain ⟨c, rest, rfl⟩ := List.exists_cons_of_ne_nil isName.ne_nil
  have read := read_field_append [] isName.is_path .plain
  have named : fieldValue attributes (c :: rest) value (c :: rest) = .ok (ofText value) :=
    (field_value_eq_ok isName).mpr ⟨[], (List.append_nil _).symm, .part .whole⟩
  have field : renderWith attributes (c :: rest) value 2 ((c :: rest).length + 3)
      ('\x7b' :: (c :: rest ++ ['\x7d'])) = .ok value := by
    rw [List.cons_append, render_with_field (isName.plain c List.mem_cons_self).1]
    refine bind_eq_ok.mpr ⟨_, read, bind_eq_ok.mpr ⟨value, ?_, ?_⟩⟩
    · exact bind_eq_ok.mpr ⟨_, named, rfl⟩
    · rw [render_with_nil]
      exact congrArg Except.ok (List.append_nil value)
  have length : (front ++ '\x7b' :: (c :: rest ++ ['\x7d'])).length + 1 =
      front.length + ((c :: rest).length + 3) := by simp [Nat.add_assoc]
  rw [render, length, render_with_plain plain, field]
  rfl

end Template
end Text

namespace Environment

theorem mem_items {env : Environment} {name item : Text} (h : item ∈ env.items name) :
    item ≠ [] ∧ trim item = item ∧ ',' ∉ item := by
  obtain ⟨listed, filled⟩ := List.mem_filter.mp h
  obtain ⟨piece, cut, rfl⟩ := List.mem_map.mp listed
  refine ⟨by simpa using filled, trim_trim piece, fun comma => ?_⟩
  exact not_mem_of_mem_split_on cut (mem_of_mem_trim comma)

end Environment

namespace Config

theorem length_marker (env : Environment) : (ofEnvironment env).marker.length = markerLength := by
  unfold ofEnvironment
  dsimp only
  cases found : (env.filled? "PYBIST_MARKER").filter (·.length == markerLength) with
  | none => rfl
  | some marker =>
    have long := (Option.filter_eq_some_iff.mp found).2
    simpa using long

theorem is_name_bug_id : Template.IsName "bug_id" :=
  ⟨List.all_iff_forall_prop.mp (by decide), by decide⟩

theorem bug_url_default {config : Config} {attributes : TextAttributes} {id : Text}
    (default : config.trackerUrl = ({} : Config).trackerUrl) (digits : allDigits id = true) :
    config.bugUrl attributes id = .ok ("https://bugs.python.org/issue" ++ id) := by
  rw [bugUrl, if_pos digits, default]
  exact Template.render_at_end "https://bugs.python.org/issue" is_name_bug_id
    (List.all_iff_forall_prop.mp (by decide))

theorem tracker_url_default {env : Environment} (h : env.filled? "PYBIST_TRACKER_URL" = none) :
    (ofEnvironment env).trackerUrl = ({} : Config).trackerUrl := by
  rw [ofEnvironment, h]
  rfl

/-- Whatever the environment, the marker and the features are as they should be. A bug's address is
given for every id that is not a number, and for a number exactly if the template of the tracker
gives a text for it, whatever the attributes of a text are. Without a template in the environment,
it does. -/
theorem settings_of_environment (env : Environment) (attributes : TextAttributes) :
    let config := ofEnvironment env
    config.marker.length = 2 ∧
    (∀ feature ∈ config.features, feature ≠ [] ∧ trim feature = feature ∧ ',' ∉ feature) ∧
    (∀ id, allDigits id = false → config.bugUrl attributes id = .ok id) ∧
    (∀ id, allDigits id = true →
      ((∃ place, config.bugUrl attributes id = .ok place) ↔
        Template.Serves attributes "bug_id" id 2 config.trackerUrl)) ∧
    (env.filled? "PYBIST_TRACKER_URL" = none → ∀ id, allDigits id = true →
      config.bugUrl attributes id = .ok ("https://bugs.python.org/issue" ++ id)) := by
  refine ⟨length_marker env, fun feature => Environment.mem_items, fun id other => ?_,
    fun id digits => ?_, fun unset id digits => bug_url_default (tracker_url_default unset) digits⟩
  · rw [bugUrl, other]
    rfl
  · rw [bugUrl, if_pos digits, Template.render_ok_iff is_name_bug_id]

/-- A name that the template should not have is not refused when it is read. -/
theorem misnamed_template_is_kept :
    let address : Text := "https://bugs.example.org/\x7bid\x7d"
    let env : Environment := fun name => if name = "PYBIST_TRACKER_URL" then some address else none
    (ofEnvironment env).trackerUrl = address ∧
      ∀ attributes, (ofEnvironment env).bugUrl attributes "42" = .error (.unknownName "id") :=
  ⟨by decide, fun _ => rfl⟩

end Config
end EmbeddedTests
