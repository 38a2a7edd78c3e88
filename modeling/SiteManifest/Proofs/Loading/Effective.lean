import SiteManifest.Proofs.Expansion
import SiteManifest.Proofs.Json.Printing
import SiteManifest.Proofs.Loading.Loaded

/-!
# Effective definitions

A text in a format is loaded as the last of its definitions is, up to the expansion of three texts. The
shape of the definition is looked at first, the three texts are expanded next, and the rules are checked
last. So a text that refers to a variable that is not set is reported before any rule that is broken,
and nothing is left of the format that the definition was written in.
-/

namespace SiteManifest

/-- A printed value is the only definition of its text. -/
theorem Format.definitions_print {d : Nat} {v : Json} (h : Json.Tidy d v) (hd : d ≤ Json.maxDepth)
    (layout : Json.Layout) : Format.definitions .json (v.print layout) = .ok [v] := by
  unfold Format.definitions
  rw [h.ofText_print hd]

namespace Loading

theorem ofText_of_effective {env : Environment} {format : Format} {text : String} {vs : List Json}
    {v : Json} (hread : format.definitions text = .ok vs) (hlast : vs.getLast? = some v) :
    (ofText env format text).result = (ofDefinition env v).result := by
  have heffective : (effective vs).result = .ok v := effective_eq_ok.mpr hlast
  unfold ofText
  rw [hread, Traced.result_bind_of_ok rfl, Traced.result_bind_of_ok heffective]

section

variable {env : Environment} {v : Json} {d : Draft.Site}

theorem ofDefinition_of_mismatch {m : Shape.Mismatch} (h : Draft.Site.ofJson v = .error m) :
    (ofDefinition env v).result = .error (.malformed m) := by
  unfold ofDefinition
  rw [h]
  rfl

theorem ofDefinition_of_unset {key name : String} (h : Draft.Site.ofJson v = .ok d)
    (hunset : d.FirstUnset env key name) :
    (ofDefinition env v).result = .error (.unsetVariable (.top key) name) := by
  have hexpand := Expansion.site_eq_error.mpr ⟨key, name, hunset, rfl⟩
  unfold ofDefinition
  rw [h]
  exact Traced.result_bind_of_error hexpand _

theorem ofDefinition_of_expanded {d' : Draft.Site} (h : Draft.Site.ofJson v = .ok d)
    (hexpand : d.ExpandsTo env d') : (ofDefinition env v).result = (ofDraft d').result := by
  have hexpand := Expansion.site_eq_ok.mpr hexpand
  unfold ofDefinition
  rw [h]
  exact Traced.result_bind_of_ok hexpand _

theorem ofJson_of_mismatch {m : Shape.Mismatch} (h : Draft.Site.ofJson v = .error m) :
    (ofJson v).result = .error (.malformed m) := by
  unfold ofJson
  rw [h]
  rfl

theorem ofJson_of_draft (h : Draft.Site.ofJson v = .ok d) :
    (ofJson v).result = (ofDraft d).result := by
  unfold ofJson
  rw [h]

end

end Loading

/-- The three texts of a draft can be expanded, or one of them is the first that cannot. -/
theorem Draft.Site.firstUnset_or_expandsTo (env : Environment) (d : Draft.Site) :
    (∃ key name, d.FirstUnset env key name) ∨ ∃ d', d.ExpandsTo env d' := by
  cases h : Expansion.site env d with
  | error e =>
    obtain ⟨key, name, hunset, -⟩ := Expansion.site_eq_error.mp h
    exact Or.inl ⟨key, name, hunset⟩
  | ok d' => exact Or.inr ⟨d', Expansion.site_eq_ok.mp h⟩

/-- **A text is loaded as its effective definition**, with the three texts of the definition expanded
between the look at its shape and the check of its rules. -/
theorem loaded_as_effective {env : Environment} {format : Format} {text : String} {vs : List Json}
    {v : Json} (hread : format.definitions text = .ok vs) (hlast : vs.getLast? = some v) :
    (∀ m, Draft.Site.ofJson v = .error m →
        (Loading.ofJson v).result = .error (.malformed m)
          ∧ (Loading.ofText env format text).result = .error (.malformed m))
      ∧ ∀ d, Draft.Site.ofJson v = .ok d →
        ((∃ key name, d.FirstUnset env key name) ∨ ∃ d', d.ExpandsTo env d')
        ∧ (∀ key name, d.FirstUnset env key name →
            (Loading.ofText env format text).result = .error (.unsetVariable (.top key) name))
        ∧ (∀ d', d.ExpandsTo env d' →
            (Loading.ofText env format text).result = (Loading.ofDraft d').result)
        ∧ ((∀ s, s ∈ d.title ∨ s ∈ d.description ∨ s ∈ d.basePath → ¬['$', '\x7b'] <:+: s.toList) →
            (Loading.ofText env format text).result = (Loading.ofJson v).result) := by
  rw [Loading.ofText_of_effective hread hlast]
  constructor
  · intro m hm
    exact ⟨Loading.ofJson_of_mismatch hm, Loading.ofDefinition_of_mismatch hm⟩
  · intro d hd
    refine ⟨d.firstUnset_or_expandsTo env, fun key name => Loading.ofDefinition_of_unset hd,
      fun d' => Loading.ofDefinition_of_expanded hd, ?_⟩
    intro hplain
    have hself : d.ExpandsTo env d :=
      ⟨Expansion.expands_self (fun s hs => hplain s (Or.inl hs)) env,
        Expansion.expands_self (fun s hs => hplain s (Or.inr (Or.inl hs))) env,
        Expansion.expands_self (fun s hs => hplain s (Or.inr (Or.inr hs))) env, rfl⟩
    rw [Loading.ofDefinition_of_expanded hd hself, Loading.ofJson_of_draft hd]

/-- A title that is no text; a reference to a variable that is not set, behind a title that is blank; a
base path with a fallback for such a variable; and a blank title in a text without references. -/
theorem loaded_as_effective_texts :
    let flag : Json := .object [("title", .bool true)]
    let unset : Json := .object [("title", .string " "), ("description", .string "$\x7bNAME\x7d")]
    let spare : Json :=
      .object [("title", .string "Docs"), ("basePath", .string "$\x7bROOT:-/docs\x7d/")]
    let plain : Json := .object [("title", .string " ")]
    (Loading.ofText .empty .json (flag.print .compact)).result
        = .error (.malformed (.kind (.bool true) .text))
      ∧ (Loading.ofText .empty .json (unset.print .compact)).result
        = .error (.unsetVariable (.top "description") "NAME")
      ∧ (Loading.ofText .empty .json (spare.print .spread)).result
        = .ok ⟨"Docs", "", "/docs/", ⟨[], [], [], none⟩⟩
      ∧ (Loading.ofText .empty .json (plain.print .spread)).result = (Loading.ofJson plain).result := by
  intro flag unset spare plain
  have hflag : Format.definitions .json (flag.print .compact) = .ok [flag] :=
    Format.definitions_print (d := 1) (.object (by decide) (by simp [Json.Tidy.bool])) (by decide) _
  have hunset : Format.definitions .json (unset.print .compact) = .ok [unset] :=
    Format.definitions_print (d := 1) (.object (by decide) (by simp [Json.Tidy.string])) (by decide) _
  have hspare : Format.definitions .json (spare.print .spread) = .ok [spare] :=
    Format.definitions_print (d := 1) (.object (by decide) (by simp [Json.Tidy.string])) (by decide) _
  have hplain : Format.definitions .json (plain.print .spread) = .ok [plain] :=
    Format.definitions_print (d := 1) (.object (by decide) (by simp [Json.Tidy.string])) (by decide) _
  refine ⟨((loaded_as_effective hflag rfl).1 _ rfl).2, ?_, ?_, ?_⟩
  · have hfail : Expansion.expand .empty "$\x7bNAME\x7d" = .error "NAME" := by decide +kernel
    exact ((loaded_as_effective hunset rfl).2 ⟨some " ", some _, none, none⟩ rfl).2.1 _ _
      (.description (.some (b := " ") rfl) ⟨_, rfl, hfail⟩)
  · have hbase : Expansion.expand .empty "$\x7bROOT:-/docs\x7d/" = .ok "/docs/" := by decide +kernel
    exact ((loaded_as_effective hspare rfl).2 ⟨some "Docs", none, some _, none⟩ rfl).2.2.1
      ⟨some "Docs", none, some "/docs/", none⟩ ⟨.some rfl, .none, .some hbase, rfl⟩
  · refine ((loaded_as_effective hplain rfl).2 ⟨some " ", none, none, none⟩ rfl).2.2.2 ?_
    simp only [← Expansion.mentions_iff]
    rintro s (h | h | h) <;> cases h
    decide

end SiteManifest
