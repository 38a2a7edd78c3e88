import SiteManifest.Proofs.Expansion.Parts
import SiteManifest.Proofs.Loading.Files

/-!
# Variables that a file refers to

A file refers to a variable if one of the three texts of its effective definition does. What the file is
loaded as depends on the files and on these variables only, and so does what is told on the way.
-/

namespace SiteManifest

variable {env env' : Environment}

/-- One of the texts of a draft that are expanded refers to a variable. -/
def Draft.Site.Refers (d : Draft.Site) (name : String) : Prop :=
  ∃ text, (text ∈ d.title ∨ text ∈ d.description ∨ text ∈ d.basePath) ∧ Expansion.Refers text name

theorem Expansion.field_congr {key : String} {text : Option String}
    (h : ∀ s ∈ text, ∀ name, Refers s name → env'.get? name = env.get? name) :
    field env' key text = field env key text := by
  cases text with
  | none => rfl
  | some s =>
    unfold field
    dsimp only
    rw [expand_congr (h s rfl)]

theorem Expansion.site_congr {d : Draft.Site}
    (h : ∀ name, d.Refers name → env'.get? name = env.get? name) : site env' d = site env d := by
  unfold site
  rw [field_congr fun s hs name hname => h name ⟨s, Or.inl hs, hname⟩,
    field_congr fun s hs name hname => h name ⟨s, Or.inr (Or.inl hs), hname⟩,
    field_congr fun s hs name hname => h name ⟨s, Or.inr (Or.inr hs), hname⟩]

/-- The effective definition of a text refers to a variable. -/
def Format.Refers (format : Format) (text : String) (name : String) : Prop :=
  ∃ vs v d, format.definitions text = .ok vs ∧ vs.getLast? = some v ∧ Draft.Site.ofJson v = .ok d
    ∧ d.Refers name

theorem Loading.ofText_congr {format : Format} {text : String}
    (h : ∀ name, format.Refers text name → env'.get? name = env.get? name) :
    ofText env' format text = ofText env format text := by
  refine Traced.bind_congr_of_ok fun vs hread => Traced.bind_congr_of_ok fun v hlast => ?_
  unfold ofDefinition
  cases hd : Draft.Site.ofJson v with
  | error m => rfl
  | ok d =>
    dsimp only
    rw [Expansion.site_congr fun name hname =>
      h name ⟨vs, v, d, hread, effective_eq_ok.mp hlast, hd, hname⟩]

namespace Surroundings

variable {w w' : Surroundings} {p : FilePath}

/-- The text of a file refers to a variable. -/
def Refers (w : Surroundings) (p : FilePath) (name : String) : Prop :=
  ∃ format text, Format.ofPath? p = some format ∧ w.HasText p text ∧ format.Refers text name

theorem hasText_of_read {text : String} (h : w.read p = .ok text) : w.HasText p text := by
  have hthere : w.exists? p = true := by
    unfold read at h
    unfold exists?
    cases hopen : w.files.open? w.working p with
    | some t => rfl
    | none =>
      rw [hopen] at h
      cases h
  obtain ⟨text', htext⟩ | ⟨-, fault, hfault⟩ := hasText_or_unreadable hthere
  · cases htext.read.symm.trans h
    exact htext
  · cases hfault.symm.trans h

/-- A file is loaded as the same, and the same is told, if it is the same file and the variables that it
refers to have the same values. -/
theorem load_eq_of_refers (hopen : w'.files.open? w'.working p = w.files.open? w.working p)
    (h : ∀ name, w.Refers p name → w'.environment.get? name = w.environment.get? name) :
    w'.load p = w.load p := by
  have hread : w'.read p = w.read p := by
    unfold read
    rw [hopen]
  unfold load
  rw [exists?_congr hopen, hread]
  cases w.exists? p with
  | false => exact Traced.bind_congr_of_ok nofun
  | true =>
    simp only [Bool.not_true, Bool.false_eq_true, if_false]
    cases hformat : Format.ofPath? p with
    | none => rfl
    | some format =>
      refine Traced.bind_congr_of_ok fun text htext => ?_
      have htexts := Loading.ofText_congr fun name hname =>
        h name ⟨format, text, hformat, hasText_of_read htext, hname⟩
      rw [htexts]

end Surroundings

end SiteManifest
