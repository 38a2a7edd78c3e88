import SiteManifest.Toml.Scalar
import SiteManifest.Yaml.Scalar

/-!
# Numbers that stand for nothing

A definition has no number that is not finite. So a format that can write one has it stand for nothing,
and these are the only numbers that do: every other number stands for itself, or its text is refused.
-/

namespace SiteManifest

/-! ## TOML -/

namespace Toml

/-- The words for numbers that are not finite, with a sign or without. -/
def notFinite : List (List Char) :=
  [['i', 'n', 'f'], ['+', 'i', 'n', 'f'], ['-', 'i', 'n', 'f'],
    ['n', 'a', 'n'], ['+', 'n', 'a', 'n'], ['-', 'n', 'a', 'n']]

theorem mem_notFinite_of_splitSign {cs : List Char}
    (h : (splitSign cs).2 = ['i', 'n', 'f'] ∨ (splitSign cs).2 = ['n', 'a', 'n']) :
    cs ∈ notFinite := by
  unfold splitSign at h
  split at h
  all_goals
    obtain h | h := h
    all_goals
      dsimp only at h
      rw [h]
      decide

theorem float?_cases {cs : List Char} {v : Json} (h : float? cs = some v) :
    (∃ n, v = .number n) ∨ v = .null ∧ cs ∈ notFinite := by
  unfold float? at h
  dsimp only at h
  split at h
  · next hword =>
    cases h
    exact Or.inr ⟨rfl, mem_notFinite_of_splitSign hword⟩
  · obtain ⟨ds, -, h⟩ := Option.bind_eq_some_iff.mp h
    obtain ⟨x, -, h⟩ := Option.bind_eq_some_iff.mp h
    cases h
    exact Or.inl ⟨_, rfl⟩

/-- **The scalars of TOML**: truth values, numbers, dates, and the numbers that are not finite. -/
theorem scalar?_cases {cs : List Char} {v : Json} (h : scalar? cs = some v) :
    (∃ b, v = .bool b) ∨ (∃ n, v = .number n)
      ∨ (isDateTime cs = true ∧ v = .object [(dateKey, .string (.ofList cs))])
      ∨ v = .null ∧ cs ∈ notFinite := by
  unfold scalar? at h
  split at h
  · cases h
    exact Or.inl ⟨true, rfl⟩
  split at h
  · cases h
    exact Or.inl ⟨false, rfl⟩
  split at h
  · obtain ⟨n, -, rfl⟩ := Option.map_eq_some_iff.mp h
    exact Or.inr (Or.inl ⟨n, rfl⟩)
  split at h
  · next hdate =>
    cases h
    exact Or.inr (Or.inr (Or.inl ⟨hdate, rfl⟩))
  · obtain hnumber | hnull := float?_cases h
    · exact Or.inr (Or.inl hnumber)
    · exact Or.inr (Or.inr (Or.inr hnull))

theorem scalar?_eq_null_iff {cs : List Char} : scalar? cs = some .null ↔ cs ∈ notFinite := by
  constructor
  · intro h
    obtain ⟨b, hb⟩ | ⟨n, hn⟩ | ⟨-, hdate⟩ | ⟨-, hmem⟩ := scalar?_cases h
    · cases hb
    · cases hn
    · cases hdate
    · exact hmem
  · intro h
    have hall : ∀ word ∈ notFinite, (scalar? word).any Json.isNull = true := by decide
    obtain ⟨v, hv, hnull⟩ := (Option.any_eq_true _ _).mp (hall cs h)
    rw [hv, Json.isNull_iff.mp hnull]

end Toml

/-! ## YAML -/

namespace Yaml

/-- The words for numbers that are not finite. -/
def notFinite : List String :=
  [".inf", ".Inf", ".INF", "+.inf", "+.Inf", "+.INF", "-.inf", "-.Inf", "-.INF", ".nan", ".NaN",
    ".NAN"]

theorem float?_eq_null_iff {text : String} : float? text = some .null ↔ text ∈ notFinite := by
  unfold float?
  split
  · next h =>
    simp only [List.contains_iff_mem] at h
    simp only [true_iff]
    exact h
  · next h =>
    simp only [List.contains_iff_mem] at h
    constructor
    · intro hnull
      obtain ⟨x, -, hx⟩ := Option.map_eq_some_iff.mp hnull
      cases hx
    · intro hmem
      exact absurd hmem h

/-- A word for a number that is not finite is no other scalar. -/
theorem plainValue?_of_mem_notFinite {text : String} (h : text ∈ notFinite) :
    plainValue? text = some .null := by
  have hall : ∀ word ∈ notFinite, (plainValue? word).any Json.isNull = true := by decide
  obtain ⟨v, hv, hnull⟩ := (Option.any_eq_true _ _).mp (hall text h)
  rw [hv, Json.isNull_iff.mp hnull]

theorem plainValue?_eq_null_iff {text : String} :
    plainValue? text = some .null
      ↔ (text = "" ∨ isNullWord text = true) ∨ text ∈ notFinite := by
  constructor
  · intro h
    unfold plainValue? at h
    split at h
    · next hword => exact Or.inl hword
    split at h
    · cases h
    split at h
    · obtain ⟨n, -, h⟩ := Option.map_eq_some_iff.mp h
      cases h
    split at h
    · cases h
    · right
      cases hfloat : float? text with
      | none =>
        rw [hfloat] at h
        cases h
      | some v =>
        rw [hfloat] at h
        cases h
        exact float?_eq_null_iff.mp hfloat
  · rintro (hword | h)
    · unfold plainValue?
      rw [if_pos hword]
    · exact plainValue?_of_mem_notFinite h

@[simp]
theorem standardTag_inj {kind other : String} : standardTag kind = standardTag other ↔ kind = other := by
  unfold standardTag
  exact String.append_right_inj _

theorem bind_integerValue?_ne_null {n? : Option Int} : n?.bind integerValue? ≠ some .null := by
  cases n? <;> simp [integerValue?]

/-- **The scalars of YAML that stand for nothing** are the words for nothing and the numbers that are not
finite. -/
theorem scalarValue?_eq_null_iff {tag : Option String} {plain : Bool} {text : String} :
    scalarValue? tag plain text = some .null
      ↔ tag = none ∧ plain = true ∧ ((text = "" ∨ isNullWord text = true) ∨ text ∈ notFinite)
        ∨ tag = some (standardTag "null") ∧ isNullWord text = true
        ∨ tag = some (standardTag "float") ∧ text ∈ notFinite := by
  unfold scalarValue?
  cases tag with
  | none =>
    cases plain with
    | false => simp
    | true => simp [plainValue?_eq_null_iff]
  | some name =>
    dsimp only
    split
    · next hname => simp [hname]
    split
    · next hname => simp [hname]
    split
    · next hname => simp [hname, bind_integerValue?_ne_null]
    split
    · next hname => simp [hname, float?_eq_null_iff]
    · next hnull _ _ hfloat =>
      split <;> simp [hnull, hfloat]

/-- A word for a number that is not finite is read as no other number, whatever its tag. -/
theorem scalarValue?_ne_number {tag : Option String} {plain : Bool} {text : String}
    (h : text ∈ notFinite) (n : Json.Number) : scalarValue? tag plain text ≠ some (.number n) := by
  have hinteger : ∀ word ∈ notFinite, integer? word.toList = none := by decide
  unfold scalarValue?
  cases tag with
  | none =>
    cases plain with
    | false => simp
    | true => simp [plainValue?_of_mem_notFinite h]
  | some name =>
    dsimp only
    split
    · split <;> simp
    split
    · simp
    split
    · simp [hinteger text h]
    split
    · simp [float?_eq_null_iff.mpr h]
    · split <;> simp

end Yaml

end SiteManifest
