import EmbeddedTests.Proofs.Tags
import EmbeddedTests.Proofs.TextFormats

/-!
# Templates that give a text

A template gives a text for a value if it consists of plain characters, doubled braces and complete
fields. A field names the value or one of its characters, may convert it, and has a format that
texts accept once the fields inside the format are filled in; or it names an attribute, and what that
gives can be converted and formatted. Every other template is refused.
-/
namespace EmbeddedTests.Text

theorem cut_at_eq_some {sep : Char} {t before after : Text}
    (h : cutAt? sep t = some (before, after)) : t = before ++ sep :: after ∧ sep ∉ before := by
  induction t generalizing before with
  | nil => cases h
  | cons c t ih =>
    by_cases here : c = sep
    · subst here
      rw [cutAt?, if_pos rfl] at h
      cases h
      exact ⟨rfl, List.not_mem_nil⟩
    · rw [cutAt?, if_neg here] at h
      obtain ⟨⟨front, rest⟩, later, same⟩ := Option.map_eq_some_iff.mp h
      cases same
      obtain ⟨rfl, absent⟩ := ih later
      exact ⟨rfl, fun member => (List.mem_cons.mp member).elim (fun same => here same.symm) absent⟩

namespace Template

def isMark (c : Char) : Bool := c == '\x7d' || c == ':' || c == '!'

structure IsName (name : Text) : Prop where
  plain : ∀ c ∈ name, c ≠ '\x7b' ∧ isMark c = false ∧ c ≠ '[' ∧ c ≠ '.'
  word : name.all isDecimal = false

/-- Indices in brackets take a part of a text. An index takes one character, in which only the first
one can be taken again. -/
inductive IsPart : Text → Text → Text → Prop where
  | whole {v : Text} : IsPart v [] v
  | index {v ds parts part : Text} {c : Char} : ds ≠ [] → IsNumber ds → v[value ds]? = some c →
      IsPart [c] parts part → IsPart v ('[' :: (ds ++ ']' :: parts)) part

def isPath : Bool → Text → Bool
  | inside, [] => !inside
  | true, c :: t => isPath (c != ']') t
  | false, c :: t => c != '\x7b' && !isMark c && isPath (c == '[') t

def isClosed : Nat → Text → Bool
  | depth, [] => depth == 1
  | depth, c :: spec =>
    !(c == '\x7d' && depth == 1) &&
      isClosed (if c = '\x7b' then depth + 1 else if c = '\x7d' then depth - 1 else depth) spec

/-- What follows the name of a field: its conversion, its format and the closing brace. -/
inductive IsTail : Option Char → Text → Text → Prop where
  | plain : IsTail none [] ['\x7d']
  | formatted {spec : Text} : isClosed 1 spec → IsTail none spec (':' :: (spec ++ ['\x7d']))
  | converted {c : Char} : IsTail (some c) [] ['!', c, '\x7d']
  | both {c : Char} {spec : Text} : isClosed 1 spec →
      IsTail (some c) spec ('!' :: c :: ':' :: (spec ++ ['\x7d']))

def conversions : List (Option Char) := [none, some 's', some 'r', some 'a']

section

variable (attributes : TextAttributes)

def fill (name value : Text) (depth fuel : Nat) (spec : Text) : Except TemplateError Text :=
  if '\x7b' ∈ spec then renderWith attributes name value depth fuel spec else .ok spec

/-- A template that gives a text for the value. It can be nested less deep than `depth`. -/
inductive Serves (name value : Text) : Nat → Text → Prop where
  | done {depth : Nat} : Serves name value (depth + 1) []
  | char {depth : Nat} {c : Char} {t : Text} : c ≠ '\x7b' → c ≠ '\x7d' →
      Serves name value (depth + 1) t → Serves name value (depth + 1) (c :: t)
  | brace {depth : Nat} {c : Char} {t : Text} : c = '\x7b' ∨ c = '\x7d' →
      Serves name value (depth + 1) t → Serves name value (depth + 1) (c :: c :: t)
  | field {depth : Nat} {parts part tail spec filled t : Text} {conversion : Option Char} :
      IsPart value parts part → conversion ∈ conversions → IsTail conversion spec tail →
      fill attributes name value depth spec.length spec = .ok filled → IsTextFormat filled →
      Serves name value (depth + 1) t →
      Serves name value (depth + 1) ('\x7b' :: (name ++ (parts ++ (tail ++ t))))
  | member {depth : Nat} {parts part path tail spec filled out t : Text}
      {conversion : Option Char} {taken : Taken} {formatted : Text → Except TemplateError Text} :
      IsPart value parts part → attributeName path ≠ [] → isPath false path = true →
      attributes part path = .ok taken → taken conversion = .ok formatted →
      IsTail conversion spec tail →
      fill attributes name value depth spec.length spec = .ok filled → formatted filled = .ok out →
      Serves name value (depth + 1) t →
      Serves name value (depth + 1) ('\x7b' :: (name ++ (parts ++ '.' :: path ++ (tail ++ t))))

/-- What a text gives for the rest of a field's name. -/
inductive Takes (v : Text) : Text → Taken → Prop where
  | part {parts part : Text} : IsPart v parts part → Takes v parts (ofText part)
  | member {parts part path : Text} {taken : Taken} : IsPart v parts part →
      attributeName path ≠ [] → attributes part path = .ok taken →
      Takes v (parts ++ '.' :: path) taken

end

theorem read_spec_eq_ok {depth : Nat} {t spec rest : Text} :
    readSpec depth t = .ok (spec, rest) ↔ t = spec ++ '\x7d' :: rest ∧ isClosed depth spec := by
  constructor
  · intro h
    induction t generalizing depth spec with
    | nil => cases h
    | cons c t ih =>
      unfold readSpec at h
      split at h
      · rename_i ends
        simp only [Bool.and_eq_true, decide_eq_true_eq] at ends
        obtain ⟨rfl, rfl⟩ := ends
        cases h
        exact ⟨rfl, rfl⟩
      · rename_i inside
        obtain ⟨⟨spec, rest⟩, later, h⟩ := bind_eq_ok.mp h
        cases h
        obtain ⟨rfl, closed⟩ := ih later
        refine ⟨rfl, ?_⟩
        simpa [isClosed, closed, or_iff_not_imp_left] using inside
  · rintro ⟨rfl, closed⟩
    induction spec generalizing depth with
    | nil =>
      obtain rfl : depth = 1 := by simpa [isClosed] using closed
      rfl
    | cons c spec ih =>
      simp only [isClosed, Bool.and_eq_true] at closed
      obtain ⟨inside, closed⟩ := closed
      have inside : ¬(decide (c = '\x7d') && decide (depth = 1)) = true := by
        simpa [-not_and, Decidable.not_and_iff_or_not] using inside
      rw [List.cons_append, readSpec, if_neg inside]
      exact bind_eq_ok.mpr ⟨_, ih closed, rfl⟩

theorem read_name_eq_ok {inside : Bool} {t field rest : Text} {mark : Char} :
    readName inside t = .ok (field, some mark, rest) ↔
      t = field ++ mark :: rest ∧ isMark mark = true ∧ isPath inside field = true := by
  constructor
  · intro h
    induction t generalizing inside field with
    | nil => cases inside <;> cases h
    | cons c t ih =>
      cases inside with
      | true =>
        obtain ⟨⟨field, mark, rest⟩, later, h⟩ := bind_eq_ok.mp h
        cases h
        obtain ⟨rfl, marks, path⟩ := ih later
        exact ⟨rfl, marks, path⟩
      | false =>
        unfold readName at h
        split at h
        · cases h
        rename_i opens
        split at h
        · rename_i marks
          cases h
          exact ⟨rfl, by simpa [isMark] using marks, rfl⟩
        · rename_i plain
          obtain ⟨⟨field, mark, rest⟩, later, h⟩ := bind_eq_ok.mp h
          cases h
          obtain ⟨rfl, marks, path⟩ := ih later
          refine ⟨rfl, marks, ?_⟩
          simpa [isPath, isMark, opens, path] using plain
  · rintro ⟨rfl, marks, path⟩
    induction field generalizing inside with
    | nil =>
      obtain rfl : inside = false := by simpa [isPath] using path
      have opens : mark ≠ '\x7b' := by rintro rfl; cases marks
      have marks : (decide (mark = '\x7d') || decide (mark = ':') || decide (mark = '!')) = true := by
        simpa [isMark] using marks
      rw [List.nil_append, readName, if_neg opens, if_pos marks]
    | cons c field ih =>
      cases inside with
      | true => exact bind_eq_ok.mpr ⟨_, ih path, rfl⟩
      | false =>
        simp only [isPath, Bool.and_eq_true, bne_iff_ne, Bool.not_eq_true'] at path
        obtain ⟨⟨opens, unmarked⟩, path⟩ := path
        have unmarked : ¬(decide (c = '\x7d') || decide (c = ':') || decide (c = '!')) = true := by
          simpa [isMark] using unmarked
        rw [List.cons_append, readName, if_neg opens, if_neg unmarked]
        exact bind_eq_ok.mpr ⟨_, ih path, rfl⟩

theorem is_path_append {inside : Bool} {front : Text} (back : Text)
    (first : isPath inside front = true) : isPath inside (front ++ back) = isPath false back := by
  induction front generalizing inside with
  | nil =>
    obtain rfl : inside = false := by simpa [isPath] using first
    rfl
  | cons c front ih =>
    cases inside with
    | true => exact ih first
    | false =>
      simp only [isPath, Bool.and_eq_true] at first
      rw [List.cons_append, isPath, first.1.1, first.1.2, ih first.2, Bool.true_and, Bool.true_and]

theorem is_path_index {ds parts : Text} (whole : ']' ∉ ds) (path : isPath false parts = true) :
    isPath true (ds ++ ']' :: parts) = true := by
  induction ds with
  | nil => exact path
  | cons d ds ih =>
    have other : (d != ']') = true := by
      rw [bne_iff_ne]
      rintro rfl
      exact whole List.mem_cons_self
    rw [List.cons_append, isPath, other]
    exact ih fun member => whole (List.mem_cons_of_mem d member)

theorem IsNumber.no_bracket {ds : Text} (h : IsNumber ds) : ']' ∉ ds := by
  intro member
  have digit := h.digits ']' member
  revert digit
  decide

theorem IsPart.is_path {v parts part : Text} (h : IsPart v parts part) :
    isPath false parts = true := by
  induction h with
  | whole => rfl
  | index _ digits _ _ ih => exact is_path_index digits.no_bracket ih

theorem IsName.ne_nil {name : Text} (h : IsName name) : name ≠ [] := by
  rintro rfl
  cases h.word

theorem IsName.is_path {name : Text} (h : IsName name) : isPath false name = true := by
  have plain := h.plain
  clear h
  induction name with
  | nil => rfl
  | cons c name ih =>
    obtain ⟨opens, unmarked, bracket, -⟩ := plain c List.mem_cons_self
    have later := ih fun d member => plain d (List.mem_cons_of_mem c member)
    simpa [Template.isPath, opens, unmarked, bracket, beq_false_of_ne bracket] using later

theorem IsTail.cons_mark {conversion : Option Char} {spec tail : Text}
    (h : IsTail conversion spec tail) :
    ∃ mark after, tail = mark :: after ∧ isMark mark = true := by
  cases h with
  | plain => exact ⟨_, _, rfl, rfl⟩
  | formatted => exact ⟨_, _, rfl, rfl⟩
  | converted => exact ⟨_, _, rfl, rfl⟩
  | both => exact ⟨_, _, rfl, rfl⟩

theorem IsTail.length_spec {conversion : Option Char} {spec tail : Text}
    (h : IsTail conversion spec tail) : spec.length < tail.length := by
  cases h <;> simp
  all_goals omega

theorem read_field_eq {t rest : Text} {field : Field} (h : readField t = .ok (field, rest)) :
    ∃ tail, t = field.name ++ (tail ++ rest) ∧ isPath false field.name = true ∧
      IsTail field.conversion field.format tail := by
  obtain ⟨⟨name, mark, after⟩, named, read⟩ := bind_eq_ok.mp h
  clear h
  dsimp only at read
  split at read
  · obtain ⟨rfl, -, path⟩ := read_name_eq_ok.mp named
    cases read
    exact ⟨_, rfl, path, .plain⟩
  · obtain ⟨rfl, -, path⟩ := read_name_eq_ok.mp named
    obtain ⟨⟨spec, rest⟩, whole, read⟩ := bind_eq_ok.mp read
    cases read
    obtain ⟨rfl, closed⟩ := read_spec_eq_ok.mp whole
    exact ⟨_, by simp, path, .formatted closed⟩
  · rename_i mark noBrace noColon
    obtain ⟨rfl, marks, path⟩ := read_name_eq_ok.mp named
    obtain rfl : mark = '!' := by
      simp only [isMark, Bool.or_eq_true, beq_iff_eq] at marks
      rcases marks with (rfl | rfl) | rfl
      · exact absurd rfl noBrace
      · exact absurd rfl noColon
      · rfl
    split at read
    · cases read
    · cases read
    · cases read
      exact ⟨_, rfl, path, .converted⟩
    · obtain ⟨⟨spec, rest⟩, whole, read⟩ := bind_eq_ok.mp read
      cases read
      obtain ⟨rfl, closed⟩ := read_spec_eq_ok.mp whole
      exact ⟨_, by simp, path, .both closed⟩
    · cases read
  · cases read

section

variable {attributes : TextAttributes} {name value parts tail spec rest : Text}
  {conversion : Option Char} {taken : Taken}

theorem read_field_append {field : Text} (rest : Text) (path : isPath false field = true)
    (isTail : IsTail conversion spec tail) :
    readField (field ++ (tail ++ rest)) =
      .ok ({ name := field, conversion, format := spec }, rest) := by
  have closing {depth : Nat} {spec : Text} (closed : isClosed depth spec) :
      readSpec depth (spec ++ ['\x7d'] ++ rest) = .ok (spec, rest) :=
    read_spec_eq_ok.mpr ⟨by simp, closed⟩
  obtain ⟨mark, after, rfl, marks⟩ := isTail.cons_mark
  refine bind_eq_ok.mpr ⟨_, read_name_eq_ok.mpr ⟨rfl, marks, path⟩, ?_⟩
  cases isTail with
  | plain => rfl
  | formatted closed => exact bind_eq_ok.mpr ⟨_, closing closed, rfl⟩
  | converted => rfl
  | both closed => exact bind_eq_ok.mpr ⟨_, closing closed, rfl⟩

theorem is_number_of_number {ds : Text} {n : Option Nat} (digits : ∀ c ∈ ds, isDecimal c = true)
    (h : number ds = .ok (n, rest)) : IsNumber ds ∧ n = number? ds := by
  obtain ⟨front, rfl, isNumber, read, stops⟩ := number_eq_ok h
  cases rest with
  | nil => simpa using And.intro isNumber read
  | cons c rest =>
    have digit := digits c (by simp)
    rw [stops c rfl] at digit
    cases digit

theorem take_parts_index {steps : Nat} {t : Text} :
    takeParts attributes value (steps + 1) ('[' :: t) = .ok taken ↔
      ∃ ds parts c, t = ds ++ ']' :: parts ∧ ds ≠ [] ∧ IsNumber ds ∧
        value[Template.value ds]? = some c ∧ takeParts attributes [c] steps parts = .ok taken := by
  constructor
  · intro h
    rw [takeParts] at h
    split at h
    · cases h
    rename_i ds parts cut
    obtain ⟨rfl, -⟩ := cut_at_eq_some cut
    dsimp only at h
    split at h
    · cases h
    rename_i filled
    split at h
    · rename_i digits
      obtain ⟨⟨i?, left⟩, read, later⟩ := bind_eq_ok.mp h
      obtain ⟨isNumber, rfl⟩ := is_number_of_number (List.all_eq_true.mp digits) read
      rw [number?, if_neg filled] at later
      dsimp only at later
      split at later
      · cases later
      rename_i c here
      exact ⟨ds, parts, c, rfl, by simpa using filled, isNumber, here, later⟩
    · cases h
  · rintro ⟨ds, parts, c, rfl, filled, isNumber, here, later⟩
    have cut := cut_at_append_cons parts isNumber.no_bracket
    have read : number ds = .ok (number? ds, []) := by
      simpa using number_append [] isNumber (by simp)
    have digits : ds.all isDecimal = true := List.all_eq_true.mpr isNumber.digits
    have filled : ¬ds.isEmpty = true := by simpa using filled
    simp only [takeParts, cut, if_neg filled, if_pos digits, read, number?, bind, Except.bind, here,
      later]

theorem Takes.index {ds : Text} {c : Char} (filled : ds ≠ []) (isNumber : IsNumber ds)
    (here : value[Template.value ds]? = some c) (later : Takes attributes [c] parts taken) :
    Takes attributes value ('[' :: (ds ++ ']' :: parts)) taken := by
  cases later with
  | part isPart => exact .part (.index filled isNumber here isPart)
  | @member parts part path _ isPart named given =>
    have whole : '[' :: (ds ++ ']' :: (parts ++ '.' :: path)) =
        ('[' :: (ds ++ ']' :: parts)) ++ '.' :: path := by simp
    rw [whole]
    exact .member (.index filled isNumber here isPart) named given

theorem take_parts_eq_ok {steps : Nat} (enough : parts.length < steps) :
    takeParts attributes value steps parts = .ok taken ↔ Takes attributes value parts taken := by
  constructor
  · intro h
    induction steps generalizing value parts with
    | zero => omega
    | succ steps ih =>
      cases parts with
      | nil =>
        cases h
        exact .part .whole
      | cons c parts =>
        by_cases bracket : c = '['
        · subst bracket
          obtain ⟨ds, parts, c, rfl, filled, isNumber, here, later⟩ := take_parts_index.mp h
          have shorter : parts.length < steps := by simp at enough; omega
          exact .index filled isNumber here (ih shorter later)
        by_cases point : c = '.'
        · subst point
          rw [takeParts] at h
          split at h
          · cases h
          · rename_i named
            have whole : Takes attributes value ([] ++ '.' :: parts) taken :=
              .member .whole (by simpa using named) h
            exact whole
        · unfold takeParts at h
          split at h <;> simp_all
  · intro h
    induction steps generalizing value parts with
    | zero => omega
    | succ steps ih =>
      have step {ds later : Text} {c : Char} (same : parts = '[' :: (ds ++ ']' :: later))
          (filled : ds ≠ []) (isNumber : IsNumber ds) (here : value[Template.value ds]? = some c)
          (takes : Takes attributes [c] later taken) :
          takeParts attributes value (steps + 1) parts = .ok taken := by
        subst same
        simp only [List.length_cons, List.length_append] at enough
        exact take_parts_index.mpr ⟨_, _, _, rfl, filled, isNumber, here, ih (by omega) takes⟩
      cases h with
      | part isPart =>
        cases isPart with
        | whole => rfl
        | index filled isNumber here later => exact step rfl filled isNumber here (.part later)
      | @member _ _ path _ isPart named given =>
        cases isPart with
        | whole =>
          have named : ¬(attributeName path).isEmpty = true := by simpa using named
          rw [List.nil_append, takeParts, if_neg named, given]
        | index filled isNumber here later =>
          exact step (by simp) filled isNumber here (.member later named given)

theorem IsPart.start {v part : Text} (h : IsPart v parts part) : ∀ c ∈ parts.head?, c = '[' := by
  cases h <;> simp

theorem Takes.start (h : Takes attributes value parts taken) :
    ∀ c ∈ parts.head?, isPart c = true := by
  intro c head
  cases h with
  | part isPart =>
    rw [isPart.start c head]
    rfl
  | member isPart _ _ =>
    cases isPart with
    | whole =>
      cases head
      rfl
    | index =>
      cases head
      rfl

theorem field_value_eq_ok {field : Text} (isName : IsName name) :
    fieldValue attributes name value field = .ok taken ↔
      ∃ parts, field = name ++ parts ∧ Takes attributes value parts taken := by
  constructor
  · intro h
    have whole : field.takeWhile (!isPart ·) ++ field.dropWhile (!isPart ·) = field :=
      List.takeWhile_append_dropWhile
    unfold fieldValue at h
    dsimp only at h
    split at h
    · cases h
    split at h
    · obtain ⟨⟨n?, _⟩, -, refused⟩ := bind_eq_ok.mp h
      cases n? <;> cases refused
    split at h
    · cases h
    rename_i same
    have same : field.takeWhile (!isPart ·) = name := not_not.mp same
    rw [same] at whole
    exact ⟨_, whole.symm, (take_parts_eq_ok (Nat.lt_succ_self _)).mp h⟩
  · rintro ⟨parts, rfl, takes⟩
    have plain : ∀ c ∈ name, (!isPart c) = true := fun c member => by
      obtain ⟨-, -, bracket, point⟩ := isName.plain c member
      simp [isPart, bracket, point]
    have stops : ∀ c ∈ parts.head?, (!isPart c) = false := fun c head => by
      rw [takes.start c head]
      rfl
    obtain ⟨first, rest⟩ := cut_eq plain stops
    have filled : ¬name.isEmpty = true := by simpa using isName.ne_nil
    have taken := (take_parts_eq_ok (Nat.lt_succ_self parts.length)).mpr takes
    simp only [fieldValue, first, rest, if_neg filled, isName.word, Bool.false_eq_true, if_false,
      ne_eq, not_true_eq_false, taken]

end

theorem read_field_length {t rest : Text} {field : Field} (h : readField t = .ok (field, rest)) :
    rest.length < t.length ∧ field.format.length < t.length := by
  obtain ⟨tail, rfl, -, isTail⟩ := read_field_eq h
  have short := isTail.length_spec
  simp only [List.length_append]
  omega

section

variable {attributes : TextAttributes} {name value : Text} {depth fuel : Nat} {t rest : Text}
  {c : Char}

theorem render_with_nil : renderWith attributes name value (depth + 1) fuel [] = .ok [] := by
  cases fuel <;> rfl

theorem render_with_deep : renderWith attributes name value 0 fuel t = .error .tooDeep := by
  rw [renderWith.eq_def]

theorem render_with_char (opens : c ≠ '\x7b') (closes : c ≠ '\x7d') :
    renderWith attributes name value (depth + 1) (fuel + 1) (c :: t) =
      (renderWith attributes name value (depth + 1) fuel t).map (c :: ·) := by
  rw [renderWith.eq_def]
  simp only [if_neg opens, if_neg closes]
  cases renderWith attributes name value (depth + 1) fuel t <;> rfl

theorem render_with_brace (brace : c = '\x7b' ∨ c = '\x7d') :
    renderWith attributes name value (depth + 1) (fuel + 1) (c :: c :: t) =
      (renderWith attributes name value (depth + 1) fuel t).map (c :: ·) := by
  rw [renderWith.eq_def]
  rcases brace with rfl | rfl
  · simp only [if_true]
    cases renderWith attributes name value (depth + 1) fuel t <;> rfl
  · simp only [if_true, if_neg (by decide : '\x7d' ≠ '\x7b')]
    cases renderWith attributes name value (depth + 1) fuel t <;> rfl

def renderField (attributes : TextAttributes) (name value : Text) (depth fuel : Nat)
    (field : Field) : Except TemplateError Text := do
  let taken ← fieldValue attributes name value field.name
  let formatted ← taken field.conversion
  let spec ← fill attributes name value depth fuel field.format
  formatted spec

theorem render_with_field (single : c ≠ '\x7b') :
    renderWith attributes name value (depth + 1) (fuel + 1) ('\x7b' :: c :: t) = (do
      let (field, rest) ← readField (c :: t)
      let part ← renderField attributes name value depth fuel field
      return part ++ (← renderWith attributes name value (depth + 1) fuel rest)) := by
  rw [renderWith.eq_def]
  simp only [if_true]
  split
  · contradiction
  · simp_all
  · refine bind_congr fun ⟨field, rest⟩ => ?_
    simp only [renderField, fill, bind_assoc]
    refine bind_congr fun taken => bind_congr fun formatted => ?_
    split <;> rfl

def IsLone (c : Char) (t : Text) : Prop :=
  c = '\x7b' ∧ t = [] ∨ c = '\x7d' ∧ ∀ d ∈ t.head?, d ≠ '\x7d'

theorem render_with_lone (lone : IsLone c t) :
    ∃ e, ∀ depth fuel,
      renderWith attributes name value (depth + 1) (fuel + 1) (c :: t) = .error e := by
  rcases lone with ⟨rfl, rfl⟩ | ⟨rfl, single⟩
  · exact ⟨.loneOpen, fun depth fuel => rfl⟩
  · refine ⟨.loneClose, fun depth fuel => ?_⟩
    rw [renderWith.eq_def]
    simp only [if_true, if_neg (by decide : '\x7d' ≠ '\x7b')]
    split
    · simp at single
    · rfl

inductive Start : Text → Prop where
  | char {c : Char} {t : Text} : c ≠ '\x7b' → c ≠ '\x7d' → Start (c :: t)
  | brace {c : Char} {t : Text} : c = '\x7b' ∨ c = '\x7d' → Start (c :: c :: t)
  | field {c : Char} {t : Text} : c ≠ '\x7b' → Start ('\x7b' :: c :: t)
  | lone {c : Char} {t : Text} : IsLone c t → Start (c :: t)

theorem start (c : Char) (t : Text) : Start (c :: t) := by
  by_cases opens : c = '\x7b'
  · subst opens
    match t with
    | [] => exact .lone (.inl ⟨rfl, rfl⟩)
    | d :: t =>
      by_cases same : d = '\x7b'
      · subst same
        exact .brace (.inl rfl)
      · exact .field same
  · by_cases closes : c = '\x7d'
    · subst closes
      match t with
      | [] => exact .lone (.inr ⟨rfl, by simp⟩)
      | d :: t =>
        by_cases same : d = '\x7d'
        · subst same
          exact .brace (.inr rfl)
        · exact .lone (.inr ⟨rfl, by simpa using same⟩)
    · exact .char opens closes

/-- A template does not depend on the fuel, if there is enough for its characters. -/
theorem render_with_fuel {fuel' : Nat} (enough : t.length ≤ fuel) (enough' : t.length ≤ fuel') :
    renderWith attributes name value depth fuel t =
      renderWith attributes name value depth fuel' t := by
  induction fuel generalizing fuel' depth t with
  | zero =>
    obtain rfl := List.eq_nil_of_length_eq_zero (Nat.le_zero.mp enough)
    cases depth with
    | zero => rw [render_with_deep, render_with_deep]
    | succ depth => rw [render_with_nil, render_with_nil]
  | succ fuel ih =>
    cases depth with
    | zero => rw [render_with_deep, render_with_deep]
    | succ depth =>
      match t, fuel' with
      | [], fuel' => rw [render_with_nil, render_with_nil]
      | c :: t, fuel' + 1 =>
        have enough : t.length ≤ fuel := Nat.le_of_succ_le_succ enough
        have enough' : t.length ≤ fuel' := Nat.le_of_succ_le_succ enough'
        cases start c t with
        | char opens closes =>
          rw [render_with_char opens closes, render_with_char opens closes, ih enough enough']
        | brace brace =>
          rw [render_with_brace brace, render_with_brace brace,
            ih (Nat.le_of_succ_le enough) (Nat.le_of_succ_le enough')]
        | field single =>
          rw [render_with_field single, render_with_field single]
          cases read : readField _ with
          | error e => rfl
          | ok found =>
            obtain ⟨field, rest⟩ := found
            obtain ⟨shorter, within⟩ := read_field_length read
            have later : renderWith attributes name value (depth + 1) fuel rest =
                renderWith attributes name value (depth + 1) fuel' rest := ih (by omega) (by omega)
            have nested : renderWith attributes name value depth fuel field.format =
                renderWith attributes name value depth fuel' field.format := ih (by omega) (by omega)
            simp only [renderField, fill, bind, Except.bind, later, nested]
        | lone lone =>
          obtain ⟨e, refused⟩ := render_with_lone lone
          rw [refused, refused]

end

section

variable {attributes : TextAttributes} {name value : Text} {depth fuel : Nat} {t : Text}

theorem convert_ok_iff {conversion : Option Char} :
    (∃ part, convert t conversion = .ok part) ↔ conversion ∈ conversions := by
  constructor
  · rintro ⟨part, h⟩
    unfold convert at h
    split at h
    · simp [conversions]
    · simp [conversions]
    · simp [conversions]
    · simp [conversions]
    · cases h
  · intro h
    simp only [conversions, List.mem_cons, List.not_mem_nil, or_false] at h
    rcases h with rfl | rfl | rfl | rfl <;> exact ⟨_, rfl⟩

theorem of_text_ok_iff {conversion : Option Char} {spec : Text} :
    (∃ formatted out, ofText t conversion = .ok formatted ∧ formatted spec = .ok out) ↔
      conversion ∈ conversions ∧ IsTextFormat spec := by
  unfold ofText
  rw [← convert_ok_iff (t := t)]
  cases convert t conversion with
  | error e => simp [Except.map]
  | ok converted =>
    rw [← format_ok_iff (t := converted)]
    simp [Except.map]

theorem render_field_ok_iff {field : Field} (isName : IsName name)
    (enough : field.format.length ≤ fuel) :
    (∃ part, renderField attributes name value depth fuel field = .ok part) ↔
      ∃ parts taken formatted filled out, field.name = name ++ parts ∧
        Takes attributes value parts taken ∧ taken field.conversion = .ok formatted ∧
        fill attributes name value depth field.format.length field.format = .ok filled ∧
        formatted filled = .ok out := by
  have same : fill attributes name value depth fuel field.format =
      fill attributes name value depth field.format.length field.format := by
    rw [fill, fill, render_with_fuel enough (Nat.le_refl _)]
  rw [renderField, same]
  constructor
  · rintro ⟨part, h⟩
    obtain ⟨taken, named, h⟩ := bind_eq_ok.mp h
    obtain ⟨formatted, converted, h⟩ := bind_eq_ok.mp h
    obtain ⟨filled, isFilled, h⟩ := bind_eq_ok.mp h
    obtain ⟨parts, same, takes⟩ := (field_value_eq_ok isName).mp named
    exact ⟨parts, taken, formatted, filled, part, same, takes, converted, isFilled, h⟩
  · rintro ⟨parts, taken, formatted, filled, out, same, takes, converted, isFilled, h⟩
    have named := (field_value_eq_ok isName).mpr ⟨parts, same, takes⟩
    exact ⟨out, bind_eq_ok.mpr ⟨taken, named, bind_eq_ok.mpr ⟨formatted, converted,
      bind_eq_ok.mpr ⟨filled, isFilled, h⟩⟩⟩⟩

theorem serves_of_render_with (isName : IsName name) (enough : t.length ≤ fuel) {out : Text}
    (h : renderWith attributes name value depth fuel t = .ok out) :
    Serves attributes name value depth t := by
  have of_map {x : Except TemplateError Text} {c : Char} {out : Text}
      (h : x.map (c :: ·) = .ok out) : ∃ out, x = .ok out := by
    cases x with
    | error e => cases h
    | ok out => exact ⟨out, rfl⟩
  induction fuel generalizing depth t out with
  | zero =>
    cases depth with
    | zero => rw [render_with_deep] at h; cases h
    | succ depth =>
      obtain rfl := List.eq_nil_of_length_eq_zero (Nat.le_zero.mp enough)
      exact .done
  | succ fuel ih =>
    match depth, t with
    | 0, t => rw [render_with_deep] at h; cases h
    | depth + 1, [] => exact .done
    | depth + 1, c :: t =>
      have enough : t.length ≤ fuel := Nat.le_of_succ_le_succ enough
      cases start c t with
      | char opens closes =>
        rw [render_with_char opens closes] at h
        obtain ⟨out, later⟩ := of_map h
        exact .char opens closes (ih enough later)
      | brace brace =>
        rw [render_with_brace brace] at h
        obtain ⟨out, later⟩ := of_map h
        exact .brace brace (ih (Nat.le_of_succ_le enough) later)
      | field single =>
        rw [render_with_field single] at h
        obtain ⟨⟨field, rest⟩, read, h⟩ := bind_eq_ok.mp h
        obtain ⟨part, rendered, h⟩ := bind_eq_ok.mp h
        obtain ⟨out, later, h⟩ := bind_eq_ok.mp h
        obtain ⟨shorter, within⟩ := read_field_length read
        obtain ⟨tail, whole, isPath, isTail⟩ := read_field_eq read
        obtain ⟨parts, taken, formatted, filled, part, same, takes, converted, isFilled, given⟩ :=
          (render_field_ok_iff isName (by omega)).mp ⟨part, rendered⟩
        have serves := ih (by omega) later
        rw [whole, same, List.append_assoc]
        cases takes with
        | part isPart =>
          obtain ⟨known, isFormat⟩ := of_text_ok_iff.mp ⟨formatted, part, converted, given⟩
          exact .field isPart known isTail isFilled isFormat serves
        | member isPart named found =>
          rw [same, is_path_append _ isName.is_path, is_path_append _ isPart.is_path] at isPath
          exact .member isPart named isPath found converted isTail isFilled
            given serves
      | lone lone =>
        obtain ⟨e, refused⟩ := render_with_lone lone
        rw [refused] at h
        cases h

theorem render_with_of_field {parts tail spec filled out : Text} {conversion : Option Char}
    {taken : Taken} {formatted : Text → Except TemplateError Text} (isName : IsName name)
    (path : isPath false (name ++ parts) = true) (takes : Takes attributes value parts taken)
    (converted : taken conversion = .ok formatted) (isTail : IsTail conversion spec tail)
    (isFilled : fill attributes name value depth spec.length spec = .ok filled)
    (given : formatted filled = .ok out) (enough : spec.length ≤ fuel)
    (later : ∃ out, renderWith attributes name value (depth + 1) fuel t = .ok out) :
    ∃ out, renderWith attributes name value (depth + 1) (fuel + 1)
      ('\x7b' :: (name ++ (parts ++ (tail ++ t)))) = .ok out := by
  obtain ⟨rest, later⟩ := later
  obtain ⟨part, rendered⟩ : ∃ part, renderField attributes name value depth fuel
      { name := name ++ parts, conversion, format := spec } = .ok part :=
    (render_field_ok_iff isName enough).mpr
      ⟨parts, taken, formatted, filled, out, rfl, takes, converted, isFilled, given⟩
  have read := read_field_append t path isTail
  rw [List.append_assoc] at read
  obtain ⟨c, later_name, rfl⟩ := List.exists_cons_of_ne_nil isName.ne_nil
  refine ⟨part ++ rest, ?_⟩
  rw [List.cons_append, render_with_field (isName.plain c List.mem_cons_self).1]
  exact bind_eq_ok.mpr ⟨_, read, bind_eq_ok.mpr ⟨part, rendered,
    bind_eq_ok.mpr ⟨rest, later, rfl⟩⟩⟩

theorem render_with_of_serves (isName : IsName name) (enough : t.length ≤ fuel)
    (h : Serves attributes name value depth t) :
    ∃ out, renderWith attributes name value depth fuel t = .ok out := by
  induction h generalizing fuel with
  | done => exact ⟨[], render_with_nil⟩
  | char opens closes _ ih =>
    obtain ⟨fuel, rfl⟩ := Nat.exists_eq_succ_of_ne_zero (Nat.ne_zero_of_lt enough)
    obtain ⟨out, later⟩ := ih (Nat.le_of_succ_le_succ enough)
    exact ⟨_, by rw [render_with_char opens closes, later]; rfl⟩
  | brace brace _ ih =>
    obtain ⟨fuel, rfl⟩ := Nat.exists_eq_succ_of_ne_zero (Nat.ne_zero_of_lt enough)
    obtain ⟨out, later⟩ := ih (Nat.le_of_succ_le (Nat.le_of_succ_le_succ enough))
    exact ⟨_, by rw [render_with_brace brace, later]; rfl⟩
  | field isPart known isTail isFilled isFormat _ ih =>
    obtain ⟨fuel, rfl⟩ := Nat.exists_eq_succ_of_ne_zero (Nat.ne_zero_of_lt enough)
    have short := isTail.length_spec
    simp only [List.length_cons, List.length_append] at enough
    obtain ⟨formatted, out, converted, given⟩ := of_text_ok_iff.mpr ⟨known, isFormat⟩
    exact render_with_of_field isName ((is_path_append _ isName.is_path).trans isPart.is_path)
      (.part isPart) converted isTail isFilled given (by omega) (ih (by omega))
  | @member depth parts part path _ _ _ _ _ _ _ _ isPart named isPath found converted isTail
      isFilled given _ ih =>
    obtain ⟨fuel, rfl⟩ := Nat.exists_eq_succ_of_ne_zero (Nat.ne_zero_of_lt enough)
    have short := isTail.length_spec
    simp only [List.length_cons, List.length_append] at enough
    have whole : Template.isPath false (parts ++ '.' :: path) = true :=
      (is_path_append _ isPart.is_path).trans isPath
    exact render_with_of_field isName ((is_path_append _ isName.is_path).trans whole)
      (.member isPart named found) converted isTail isFilled given (by omega) (ih (by omega))

theorem render_with_ok_iff (isName : IsName name) (enough : t.length ≤ fuel) :
    (∃ out, renderWith attributes name value depth fuel t = .ok out) ↔
      Serves attributes name value depth t :=
  ⟨fun ⟨_, h⟩ => serves_of_render_with isName enough h, render_with_of_serves isName enough⟩

/-- The templates that give a text for a value are those of the grammar. -/
theorem render_ok_iff (isName : IsName name) :
    (∃ out, render attributes name value t = .ok out) ↔ Serves attributes name value 2 t :=
  render_with_ok_iff isName (Nat.le_succ _)

end

end Template
end EmbeddedTests.Text
