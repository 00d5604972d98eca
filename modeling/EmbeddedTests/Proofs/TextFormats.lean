import EmbeddedTests.Proofs.Cuts
import EmbeddedTests.Text.Template
import Mathlib.Data.Bool.AllAny

/-!
# Formats of texts

A field of a template can say how its text is formatted. The formats that a text accepts are a fill
and an alignment, a width, a precision and the type of texts, each of which may be missing. Whether
a format is accepted does not depend on the text.
-/
namespace EmbeddedTests.Text.Template

theorem bind_eq_ok {ε α β : Type} {x : Except ε α} {f : α → Except ε β} {b : β} :
    (x >>= f) = .ok b ↔ ∃ a, x = .ok a ∧ f a = .ok b := by
  cases x <;> simp [bind, Except.bind]

def value (ds : Text) : Nat := ds.foldl (fun n c => 10 * n + (digitValue? c).getD 0) 0

/-- Decimal digits, or none, that write a number below the bound. -/
structure IsNumber (ds : Text) : Prop where
  digits : ∀ c ∈ ds, isDecimal c = true
  bounded : value ds < numberBound

theorem is_number_nil : IsNumber [] := ⟨List.forall_mem_nil _, by decide⟩

theorem value_zero (ds : Text) : value ('0' :: ds) = value ds := by
  have zero : digitValue? '0' = some 0 := by decide
  simp [value, zero]

theorem is_number_zero {ds : Text} : IsNumber ('0' :: ds) ↔ IsNumber ds := by
  have zero : isDecimal '0' = true := by decide
  constructor
  · rintro ⟨digits, bounded⟩
    rw [value_zero] at bounded
    exact ⟨fun c member => digits c (List.mem_cons_of_mem _ member), bounded⟩
  · rintro ⟨digits, bounded⟩
    refine ⟨?_, by rwa [value_zero]⟩
    rintro c (_ | ⟨_, member⟩)
    · exact zero
    · exact digits c member

def number? (ds : Text) : Option Nat := if ds.isEmpty then none else some (value ds)

section

variable {t ds rest : Text}

theorem number_append (rest : Text) (h : IsNumber ds)
    (stops : ∀ c ∈ rest.head?, isDecimal c = false) :
    number (ds ++ rest) = .ok (number? ds, rest) := by
  obtain ⟨first, later⟩ := cut_eq h.digits stops
  have bounded : ¬ds.foldl (fun n c => 10 * n + (digitValue? c).getD 0) 0 ≥ numberBound :=
    Nat.not_le.mpr h.bounded
  simp only [number, first, later, number?, value]
  cases ds with
  | nil => simp at later ⊢
  | cons c ds => rw [if_neg (by simp), if_neg bounded]; rfl

theorem number_eq_ok {n : Option Nat} (h : number t = .ok (n, rest)) :
    ∃ ds, t = ds ++ rest ∧ IsNumber ds ∧ n = number? ds ∧
      ∀ c ∈ rest.head?, isDecimal c = false := by
  refine ⟨t.takeWhile isDecimal, ?_⟩
  have digits : ∀ c ∈ t.takeWhile isDecimal, isDecimal c = true :=
    fun c member => List.mem_takeWhile_imp member
  have whole : t = t.takeWhile isDecimal ++ t.dropWhile isDecimal :=
    List.takeWhile_append_dropWhile.symm
  have stops : ∀ c ∈ (t.dropWhile isDecimal).head?, isDecimal c = false := by
    intro c first
    have := List.head?_dropWhile_not isDecimal t
    rwa [first] at this
  unfold number at h
  dsimp only at h
  split at h
  · rename_i none
    cases h
    have none := List.isEmpty_iff.mp none
    rw [none, List.nil_append] at whole
    rw [none]
    exact ⟨rfl, is_number_nil, rfl, whole ▸ stops⟩
  · rename_i some
    split at h
    · cases h
    · rename_i bounded
      cases h
      exact ⟨whole, ⟨digits, Nat.not_le.mp bounded⟩, by rw [number?, if_neg some]; rfl, stops⟩

end

def alignments : List Char := ['<', '>', '^']

def IsLead (lead : Text) : Prop :=
  lead = [] ∨ ∃ a ∈ alignments, lead = [a] ∨ ∃ fill, lead = [fill, a]

def IsPrecision (t : Text) : Prop := t = [] ∨ ∃ ds, t = '.' :: ds ∧ ds ≠ [] ∧ IsNumber ds

def IsType (t : Text) : Prop := t = [] ∨ t = ['s']

def IsTextFormat (spec : Text) : Prop :=
  ∃ lead width precision type, spec = lead ++ (width ++ (precision ++ type)) ∧
    IsLead lead ∧ IsNumber width ∧ IsPrecision precision ∧ IsType type

section

variable {p : Char → Bool} {t rest : Text} {found : Option Char}

theorem optional_eq (h : optional p t = (found, rest)) :
    t = found.toList ++ rest ∧ ∀ c ∈ found, p c = true := by
  cases t with
  | nil => cases h; simp
  | cons c t =>
    by_cases here : p c = true
    · rw [optional, if_pos here] at h
      cases h
      simp [here]
    · rw [optional, if_neg here] at h
      cases h
      simp

theorem optional_none (h : ∀ c ∈ t.head?, p c = false) : optional p t = (none, t) := by
  cases t with
  | nil => rfl
  | cons c t => simp [optional, h c rfl]

theorem read_align_eq {fill align : Option Char} (h : readAlign t = ((fill, align), rest)) :
    t = fill.toList ++ (align.toList ++ rest) ∧ (∀ a ∈ align, isAlign a = true) ∧
      (align = none → fill = none) := by
  unfold readAlign at h
  split at h
  · cases h; simp
  · split at h
    · rename_i here
      cases h
      simpa using here
    · cases h; simp
  · split at h
    · rename_i here
      cases h
      simpa using here
    · split at h
      · rename_i here
        cases h
        simpa using here
      · cases h; simp

theorem is_lead_of_read_align {fill align : Option Char} (h : readAlign t = ((fill, align), rest))
    (accepted : align ≠ some '=') : ∃ lead, t = lead ++ rest ∧ IsLead lead := by
  obtain ⟨rfl, known, unfilled⟩ := read_align_eq h
  refine ⟨fill.toList ++ align.toList, by simp, ?_⟩
  cases align with
  | none => exact .inl (by rw [unfilled rfl]; rfl)
  | some a =>
    have listed : a ∈ alignments := by
      have here := known a rfl
      simp only [isAlign, Bool.or_eq_true, beq_iff_eq] at here
      rcases here with ((rfl | rfl) | rfl) | rfl
      · simp [alignments]
      · simp [alignments]
      · exact absurd rfl accepted
      · simp [alignments]
    refine .inr ⟨a, listed, ?_⟩
    cases fill with
    | none => exact .inl rfl
    | some c => exact .inr ⟨c, rfl⟩

theorem read_align_append {lead : Text} (h : IsLead lead) (plain : ∀ c ∈ rest, isAlign c = false) :
    ∃ fill align, readAlign (lead ++ rest) = ((fill, align), rest) ∧ align ≠ some '=' := by
  have known {a : Char} (listed : a ∈ alignments) : isAlign a = true ∧ a ≠ '=' := by
    simp only [alignments, List.mem_cons, List.not_mem_nil, or_false] at listed
    rcases listed with rfl | rfl | rfl <;> decide
  rcases h with rfl | ⟨a, listed, rfl | ⟨fill, rfl⟩⟩
  · refine ⟨none, none, ?_, by simp⟩
    match rest with
    | [] => rfl
    | [c] => simp [readAlign, plain c]
    | c :: d :: rest => simp [readAlign, plain c, plain d]
  · refine ⟨none, some a, ?_, by simpa using (known listed).2⟩
    match rest with
    | [] => simp [readAlign, (known listed).1]
    | d :: rest => simp [readAlign, (known listed).1, plain d]
  · have found := known listed
    exact ⟨some fill, some a, by simp [readAlign, found.1], by simpa using found.2⟩

theorem read_separator_eq (h : readSeparator t = .ok (found, rest)) : found = none → t = rest := by
  unfold readSeparator at h
  split at h <;> cases h <;> simp

theorem read_separator_none (h : ∀ c ∈ t.head?, c ≠ ',' ∧ c ≠ '_') :
    readSeparator t = .ok (none, t) := by
  cases t with
  | nil => rfl
  | cons c t =>
    obtain ⟨comma, low⟩ := h c rfl
    unfold readSeparator
    split <;> simp_all

theorem read_precision_eq {n : Option Nat} (h : readPrecision t = .ok (n, rest)) :
    ∃ precision, t = precision ++ rest ∧ IsPrecision precision := by
  unfold readPrecision at h
  split at h
  · rename_i t
    obtain ⟨⟨n?, rest'⟩, read, h⟩ := bind_eq_ok.mp h
    obtain ⟨ds, rfl, isNumber, rfl, -⟩ := number_eq_ok read
    cases digits : number? ds with
    | none => simp only [digits] at h; cases h
    | some m =>
      simp only [digits] at h
      cases h
      refine ⟨'.' :: ds, rfl, .inr ⟨ds, rfl, ?_, isNumber⟩⟩
      rintro rfl
      cases digits
  · cases h
    exact ⟨[], rfl, .inl rfl⟩

theorem read_precision_append {precision : Text} (rest : Text) (h : IsPrecision precision)
    (stops : ∀ c ∈ rest.head?, isDecimal c = false ∧ c ≠ '.') :
    ∃ n, readPrecision (precision ++ rest) = .ok (n, rest) := by
  rcases h with rfl | ⟨ds, rfl, filled, isNumber⟩
  · refine ⟨none, ?_⟩
    cases rest with
    | nil => rfl
    | cons c rest =>
      have := (stops c rfl).2
      unfold readPrecision
      split
      · simp_all
      · rfl
  · have read := number_append rest isNumber fun c first => (stops c first).1
    refine ⟨some (value ds), bind_eq_ok.mpr ⟨_, read, ?_⟩⟩
    rw [number?, if_neg (by simpa using filled)]
    rfl

end

/-- What a format has to be for a text to accept it. -/
structure Format.ForTexts (f : Format) : Prop where
  type : f.type = 's'
  sign : f.sign = none
  coerces : f.coerces = false
  alternates : f.alternates = false
  align : f.align ≠ '='

theorem apply_ok_iff {f : Format} {t : Text} : (∃ out, f.apply t = .ok out) ↔ f.ForTexts := by
  constructor
  · rintro ⟨out, h⟩
    unfold Format.apply at h
    repeat' split at h
    all_goals cases h
    all_goals constructor <;> simp_all
  · rintro ⟨type, sign, coerces, alternates, align⟩
    simp [Format.apply, type, sign, coerces, alternates, align]

section

variable {spec : Text} {f : Format}

def notInWidths : List Char := ['<', '>', '=', '^', ' ', '+', '-', 'z', '#', ',', '_']

theorem not_decimal : ∀ c ∈ notInWidths, isDecimal c = false :=
  List.all_iff_forall_prop.mp (by decide)

theorem is_number_zero_fill {ds : Text} {zero : Option Char} (zeros : ∀ c ∈ zero, (c == '0') = true)
    (h : IsNumber ds) : IsNumber (zero.toList ++ ds) := by
  cases zero with
  | none => exact h
  | some c =>
    obtain rfl : c = '0' := by simpa using zeros c rfl
    exact is_number_zero.mpr h

theorem is_type_of_head_d {t : Text} (short : ¬t.length > 1) (type : t.headD 's' = 's') :
    IsType t := by
  match t with
  | [] => exact .inl rfl
  | [c] => exact .inr (congrArg (fun c => [c]) type)
  | c :: d :: rest => simp at short

theorem is_text_format_of_read_format (read : readFormat spec = .ok f) (texts : f.ForTexts) :
    IsTextFormat spec := by
  obtain ⟨type, noSign, noZero, noHash, notEquals⟩ := texts
  unfold readFormat at read
  rcases lead : readAlign spec with ⟨⟨fill, align⟩, r⟩
  rcases signs : optional (fun c => c == ' ' || c == '+' || c == '-') r with ⟨sign, r₁⟩
  rcases zeros : optional (· == 'z') r₁ with ⟨coerces, r₂⟩
  rcases hashes : optional (· == '#') r₂ with ⟨alternates, r₃⟩
  rcases fills : (if fill.isNone = true then optional (· == '0') r₃ else (none, r₃)) with
    ⟨zero, r₄⟩
  simp only [lead, signs, zeros, hashes, fills] at read
  obtain ⟨⟨width, r₅⟩, wide, read⟩ := bind_eq_ok.mp read
  obtain ⟨⟨separator, r₆⟩, separated, read⟩ := bind_eq_ok.mp read
  obtain ⟨⟨precision, r₇⟩, precise, read⟩ := bind_eq_ok.mp read
  dsimp only at separated precise read
  split at read
  · cases read
  rename_i short
  -- A separator goes with numbers only.
  have alone : separator = none := by
    cases separator with
    | none => rfl
    | some c =>
      dsimp only at read
      split at read
      · cases read
      · rename_i takes
        cases read
        dsimp only at type
        rw [type] at takes
        simp [takesSeparator] at takes
  subst alone
  cases read
  dsimp only at type noSign noZero noHash notEquals
  -- What texts refuse was not there, so what is left are the four parts.
  obtain rfl : coerces = none := by simpa using noZero
  obtain rfl : alternates = none := by simpa using noHash
  subst noSign
  have same : r = r₁ := (optional_eq signs).1
  have same' : r₁ = r₂ := (optional_eq zeros).1
  have same'' : r₂ = r₃ := (optional_eq hashes).1
  rw [← same'', ← same', ← same] at fills
  have zeroed : r = zero.toList ++ r₄ ∧ ∀ c ∈ zero, (c == '0') = true := by
    split at fills
    · exact optional_eq fills
    · cases fills
      exact ⟨rfl, by simp⟩
  obtain rfl := read_separator_eq separated rfl
  have accepted : align ≠ some '=' := fun equals => notEquals (by rw [equals]; rfl)
  obtain ⟨start, rfl, isLead⟩ := is_lead_of_read_align lead accepted
  obtain ⟨rfl, zeros⟩ := zeroed
  obtain ⟨ds, rfl, isNumber, -⟩ := number_eq_ok wide
  obtain ⟨point, rfl, isPrecision⟩ := read_precision_eq precise
  exact ⟨start, zero.toList ++ ds, point, r₇, by simp, isLead, is_number_zero_fill zeros isNumber,
    isPrecision, is_type_of_head_d short type⟩

section

variable {width precision type rest : Text}

theorem plain_after_lead (isNumber : IsNumber width) (isPrecision : IsPrecision precision)
    (isType : IsType type) : ∀ c ∈ width ++ (precision ++ type), c ∉ notInWidths := by
  have decimal {c : Char} (digit : isDecimal c = true) : c ∉ notInWidths :=
    fun listed => by simp [not_decimal c listed] at digit
  intro c member
  rcases List.mem_append.mp member with wide | member
  · exact decimal (isNumber.digits c wide)
  rcases List.mem_append.mp member with precise | ended
  · rcases isPrecision with rfl | ⟨ds, rfl, -, digits⟩
    · cases precise
    · rcases List.mem_cons.mp precise with rfl | digit
      · decide
      · exact decimal (digits.digits c digit)
  · rcases isType with rfl | rfl
    · cases ended
    · rw [List.mem_singleton.mp ended]
      decide

theorem start_after_width (isPrecision : IsPrecision precision) (isType : IsType type) :
    ∀ c ∈ (precision ++ type).head?, c = '.' ∨ c = 's' := by
  rcases isPrecision with rfl | ⟨ds, rfl, -, -⟩
  · rcases isType with rfl | rfl <;> simp
  · simp

theorem optional_zero (isNumber : IsNumber width) (stops : ∀ c ∈ rest.head?, c ≠ '0') :
    ∃ zero ds, optional (· == '0') (width ++ rest) = (zero, ds ++ rest) ∧ IsNumber ds := by
  by_cases zero : ∃ ds, width = '0' :: ds
  · obtain ⟨ds, rfl⟩ := zero
    exact ⟨some '0', ds, rfl, is_number_zero.mp isNumber⟩
  · refine ⟨none, width, optional_none ?_, isNumber⟩
    intro c first
    cases width with
    | nil => simpa using stops c first
    | cons d ds =>
      obtain rfl : d = c := by simpa using first
      simpa using fun same : d = '0' => zero ⟨ds, by rw [same]⟩

end

theorem read_format_of_is_text_format (h : IsTextFormat spec) :
    ∃ f, readFormat spec = .ok f ∧ f.ForTexts := by
  obtain ⟨lead, width, precision, type, rfl, isLead, isNumber, isPrecision, isType⟩ := h
  have plain := plain_after_lead isNumber isPrecision isType
  have point := start_after_width isPrecision isType
  obtain ⟨fill, align, aligned, notEquals⟩ := read_align_append isLead fun c member => by
    have := plain c member
    simp_all [notInWidths, isAlign]
  have none {p : Char → Bool} (few : ∀ c, p c = true → c ∈ notInWidths) :
      optional p (width ++ (precision ++ type)) = (none, width ++ (precision ++ type)) := by
    apply optional_none
    intro c first
    by_contra here
    exact plain c (List.mem_of_mem_head? first) (few c (by simpa using here))
  have signs := none (p := fun c => c == ' ' || c == '+' || c == '-') fun c here => by
    simp only [Bool.or_eq_true, beq_iff_eq] at here
    rcases here with (rfl | rfl) | rfl <;> simp [notInWidths]
  have zeros := none (p := (· == 'z')) fun c here => by simp [eq_of_beq here, notInWidths]
  have hashes := none (p := (· == '#')) fun c here => by simp [eq_of_beq here, notInWidths]
  obtain ⟨zero, ds, fills, isNumber⟩ : ∃ zero ds, (if fill.isNone = true then
      optional (· == '0') (width ++ (precision ++ type))
      else (Option.none, width ++ (precision ++ type))) = (zero, ds ++ (precision ++ type)) ∧
      IsNumber ds := by
    split
    · exact optional_zero isNumber fun c first => by rcases point c first with rfl | rfl <;> decide
    · exact ⟨Option.none, width, rfl, isNumber⟩
  have wide := number_append (precision ++ type) isNumber fun c first => by
    rcases point c first with rfl | rfl <;> decide
  have separated := read_separator_none (t := precision ++ type) fun c first => by
    rcases point c first with rfl | rfl <;> decide
  obtain ⟨n, precise⟩ := read_precision_append type isPrecision fun c first => by
    rcases isType with rfl | rfl <;> cases first
    decide
  have short : ¬type.length > 1 := by rcases isType with rfl | rfl <;> simp
  have text : type.headD 's' = 's' := by rcases isType with rfl | rfl <;> rfl
  have read : readFormat (lead ++ (width ++ (precision ++ type))) = .ok
      { fill := fill.getD (if zero.isSome then '0' else ' '), align := align.getD '<',
        width := number? ds, precision := n } := by
    unfold readFormat
    simp only [aligned, signs, zeros, hashes, fills, wide, separated, precise, text, short,
      bind, Except.bind, if_false]
    rfl
  refine ⟨_, read, rfl, rfl, rfl, rfl, ?_⟩
  cases align with
  | none => exact (by decide : '<' ≠ '=')
  | some a => exact fun same => notEquals (congrArg some same)

theorem format_ok_iff {t : Text} : (∃ out, format spec t = .ok out) ↔ IsTextFormat spec := by
  cases spec with
  | nil =>
    refine ⟨fun _ => ⟨[], [], [], [], rfl, .inl rfl, is_number_nil, .inl rfl, .inl rfl⟩,
      fun _ => ⟨t, rfl⟩⟩
  | cons c spec =>
    constructor
    · rintro ⟨out, h⟩
      obtain ⟨f, read, applied⟩ := bind_eq_ok.mp h
      exact is_text_format_of_read_format read (apply_ok_iff.mp ⟨out, applied⟩)
    · intro h
      obtain ⟨f, read, texts⟩ := read_format_of_is_text_format h
      obtain ⟨out, applied⟩ := apply_ok_iff.mpr texts
      exact ⟨out, bind_eq_ok.mpr ⟨f, read, applied⟩⟩

end

end EmbeddedTests.Text.Template
