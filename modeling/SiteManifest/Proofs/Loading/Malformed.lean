import SiteManifest.Proofs.Draft.Form
import SiteManifest.Proofs.Loading.Effective
import SiteManifest.Proofs.Scalar

/-!
# Malformed configurations

A configuration is malformed if its value does not fit the form of a configuration. This is looked at
before anything else, so it does not matter which rules are broken besides.

A value that fits nowhere spoils the whole wherever it stands, and a number is such a value. But a format
has no more than the values of JSON to say what it holds. A number that is not finite becomes `null`,
which passes as a value that is not given, and a date becomes an object with a key of its own, which
passes as a theme without any of its parts.
-/

namespace SiteManifest

/-- The errors that say that there is no data of the right shape. -/
inductive LoadError.IsMalformed : LoadError → Prop where
  | mismatch (m : Shape.Mismatch) : IsMalformed (.malformed m)
  | noDefinition : IsMalformed .noDefinition

/-- **A value is malformed exactly if it does not fit the form of a configuration**, whichever rules
would be broken as well. -/
theorem malformed_iff_not_fits (v : Json) :
    (∃ e, (Loading.ofJson v).result = .error e ∧ e.IsMalformed) ↔ ¬Draft.Site.form.Fits v := by
  constructor
  · rintro ⟨e, he, hmalformed⟩ hfits
    obtain ⟨d, hd⟩ := (Draft.Site.reads v).mpr hfits
    rw [Loading.ofJson_of_draft hd] at he
    obtain ⟨x, -, rfl⟩ := Loading.ofDraft_eq_error.mp he
    cases hmalformed
  · intro hfits
    cases hd : Draft.Site.ofJson v with
    | error m => exact ⟨_, Loading.ofJson_of_mismatch hd, .mismatch m⟩
    | ok d => exact absurd ((Draft.Site.reads v).mp ⟨d, hd⟩) hfits

/-! ## Values of a wrong kind -/

section

open Shape

/-- A value that does not fit its place spoils the definition that it stands in. -/
theorem Loading.ofDefinition_of_not_fits {env : Environment} {v w : Json} {p : FieldPath} {f : Form}
    (hp : Draft.Site.form.Leads v p f w) (hw : ¬f.Fits w) :
    ∃ m, (ofDefinition env v).result = .error (.malformed m) := by
  have hv : ¬Draft.Site.form.Fits v := fun hv => hw (hp.fits hv)
  cases hd : Draft.Site.ofJson v with
  | error m => exact ⟨m, ofDefinition_of_mismatch hd⟩
  | ok d => exact absurd ((Draft.Site.reads v).mp ⟨d, hd⟩) hv

/-- A date is no text and no list. -/
theorem not_fits_date {t : String} {f : Form} (hf : f.takesRecord = false) :
    ¬f.Fits (.object [(Toml.dateKey, .string t)]) := by
  refine Form.not_fits_object (fun w hnull => ?_) hf
  obtain ⟨m, hm, hnull⟩ := Option.map_eq_some_iff.mp hnull
  rw [List.mem_singleton.mp (List.mem_of_find?_eq_some hm)] at hnull
  cases hnull

/-- The words for numbers that are not finite. JSON has none. -/
def Format.NamesNotFinite : Format → String → Prop
  | .toml, word => word.toList ∈ Toml.notFinite
  | .yaml, word => word ∈ Yaml.notFinite
  | .json, _ => False

/-- A value is what a format makes of a word that is a number or a date. All scalars of TOML are such,
but for the truth values. A scalar of YAML is such if it stands for a number, or for nothing and is no
word for nothing. In JSON each number is such, whatever its word. -/
inductive Format.Numeral : Format → String → Json → Prop where
  | json (word : String) (n : Json.Number) : Numeral .json word (.number n)
  | toml {word : String} {w : Json} (h : Toml.scalar? word.toList = some w)
    (hbool : ∀ b, w ≠ .bool b) : Numeral .toml word w
  | yaml {tag : Option String} {plain : Bool} {word : String} {n : Json.Number}
    (h : Yaml.scalarValue? tag plain word = some (.number n)) : Numeral .yaml word (.number n)
  | yamlNotFinite {tag : Option String} {plain : Bool} {word : String}
    (h : Yaml.scalarValue? tag plain word = some .null)
    (hnothing : ¬(word = "" ∨ Yaml.isNullWord word = true)) : Numeral .yaml word .null

/-- What a format makes of a number or a date is a number, the object that holds the text of the date, or
nothing. -/
theorem Format.Numeral.cases {format : Format} {word : String} {w : Json}
    (h : format.Numeral word w) :
    (∃ n, w = .number n) ∨ (∃ t, w = .object [(Toml.dateKey, .string t)]) ∨ w = .null := by
  cases h with
  | json word n => exact Or.inl ⟨n, rfl⟩
  | toml h hbool =>
    obtain ⟨b, rfl⟩ | hnumber | ⟨-, hdate⟩ | ⟨hnull, -⟩ := Toml.scalar?_cases h
    · exact absurd rfl (hbool b)
    · exact Or.inl hnumber
    · exact Or.inr (Or.inl ⟨_, hdate⟩)
    · exact Or.inr (Or.inr hnull)
  | yaml _ => exact Or.inl ⟨_, rfl⟩
  | yamlNotFinite _ _ => exact Or.inr (Or.inr rfl)

/-- A number or a date stands for nothing exactly if it is one of the words for numbers that are not
finite. -/
theorem Format.Numeral.eq_null_iff {format : Format} {word : String} {w : Json}
    (h : format.Numeral word w) : w = .null ↔ format.NamesNotFinite word := by
  cases h with
  | json word n => exact ⟨nofun, False.elim⟩
  | toml h _ =>
    show _ ↔ word.toList ∈ Toml.notFinite
    rw [← Toml.scalar?_eq_null_iff, h, Option.some.injEq]
  | yaml h =>
    refine ⟨nofun, fun hword => ?_⟩
    exact absurd h (Yaml.scalarValue?_ne_number hword _)
  | yamlNotFinite h hnothing =>
    refine ⟨fun _ => ?_, fun _ => rfl⟩
    rcases Yaml.scalarValue?_eq_null_iff.mp h with ⟨-, -, hword | hword⟩ | ⟨-, hnull⟩ | ⟨-, hword⟩
    · exact absurd hword hnothing
    · exact hword
    · exact absurd (Or.inr hnull) hnothing
    · exact hword

/-- **A number or a date is refused wherever it stands**, unless it is one of the words for numbers that
are not finite, which are the ones that stand for nothing, or a date where a record is wanted, like a
theme. -/
theorem number_or_date_refused {format : Format} {text : String} {vs : List Json} {v : Json}
    {p : FieldPath} {f : Form} {word : String} {w : Json} (env : Environment)
    (hread : format.definitions text = .ok vs) (hlast : vs.getLast? = some v)
    (hp : Draft.Site.form.Leads v p f w) (hw : format.Numeral word w) :
    (w = .null ↔ format.NamesNotFinite word)
      ∧ (¬format.NamesNotFinite word →
        (∀ t, w = .object [(Toml.dateKey, .string t)] → f.takesRecord = false) →
        ∃ m, (Loading.ofText env format text).result = .error (.malformed m)) := by
  refine ⟨hw.eq_null_iff, fun hfinite hdate => ?_⟩
  rw [Loading.ofText_of_effective hread hlast]
  refine Loading.ofDefinition_of_not_fits hp ?_
  obtain ⟨n, rfl⟩ | ⟨t, rfl⟩ | hnull := hw.cases
  · exact Form.not_fits_number
  · exact not_fits_date (hdate t rfl)
  · exact absurd (hw.eq_null_iff.mp hnull) hfinite

/-- A number for the text of an entry that is switched off, and a date for a base path. -/
theorem number_or_date_refused_texts :
    (∃ m, (Loading.ofText .empty .toml "theme.nav = [\x7btext = 7, enabled = false\x7d]").result
        = .error (.malformed m))
      ∧ ∃ m, (Loading.ofText .empty .toml "basePath = 1979-05-27").result = .error (.malformed m) := by
  have hnav : Format.definitions .toml "theme.nav = [\x7btext = 7, enabled = false\x7d]"
      = .ok [.object [("theme", .object [("nav", .array
        [.object [("text", .number (.integer 7)), ("enabled", .bool false)]])])]] := by decide +kernel
  have hbase : Format.definitions .toml "basePath = 1979-05-27"
      = .ok [.object [("basePath", .object [(Toml.dateKey, .string "1979-05-27")])]] := by decide +kernel
  constructor
  · have htheme (theme : Json) : Draft.Site.form.Leads (.object [("theme", theme)]) (.top "theme")
        (.optional Draft.Theme.form) theme :=
      .member .root (.tail _ (.tail _ (.tail _ (.head _)))) rfl
    have hentry (entry : Json) : Draft.Site.form.Leads
        (.object [("theme", .object [("nav", .array [entry])])])
        (((FieldPath.top "theme").key "nav").item 0) Draft.Entry.form entry :=
      .item (.something (.member (.something (htheme _) (by simp)) (.head _) rfl) (by simp)) rfl
    have hscalar : Toml.scalar? "7".toList = some (.number (.integer 7)) := by decide +kernel
    have hfinite : "7".toList ∉ Toml.notFinite := by decide
    exact (number_or_date_refused .empty hnav rfl (.member (hentry _) (.head _) rfl)
      (.toml hscalar (by simp))).2 hfinite (by simp)
  · have hscalar : Toml.scalar? "1979-05-27".toList
        = some (.object [(Toml.dateKey, .string "1979-05-27")]) := by decide +kernel
    have hfinite : "1979-05-27".toList ∉ Toml.notFinite := by decide
    exact (number_or_date_refused .empty hbase rfl (p := .top "basePath")
      (.member .root (.tail _ (.tail _ (.head _))) rfl) (.toml hscalar (by simp))).2 hfinite
      fun _ _ => rfl

/-- What is lost on the way from a text: a title that is not finite is missing, a description that is no
number is empty, in TOML and in YAML, and a date is a theme. -/
theorem number_or_date_lost :
    (Loading.ofText .empty .toml "title = inf\nbasePath = \"/\"\n").result
        = .error (.invalid (.missing (.top "title")))
      ∧ (Loading.ofText .empty .toml
          "title = \"Docs\"\nbasePath = \"/\"\ndescription = nan\n").result
        = .ok ⟨"Docs", "", "/", ⟨[], [], [], none⟩⟩
      ∧ (Loading.ofText .empty .toml
          "title = \"Docs\"\nbasePath = \"/\"\ntheme = 1979-05-27\n").result
        = .ok ⟨"Docs", "", "/", ⟨[], [], [], none⟩⟩
      ∧ (Loading.ofText .empty .yaml "title: Docs\nbasePath: /\ndescription: .inf\n").result
        = .ok ⟨"Docs", "", "/", ⟨[], [], [], none⟩⟩ :=
  ⟨by decide +kernel, by decide +kernel, by decide +kernel, by decide +kernel⟩

end

end SiteManifest
