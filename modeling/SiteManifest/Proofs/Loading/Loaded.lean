import SiteManifest.Loading
import SiteManifest.Proofs.Validation.Violations

/-!
# Loaded sites

A site is loaded if one of the ways to have a site ends with it: from a draft, from a JSON value, from
a text, from a file, or from the file that is found. The main statement is that every loaded site is
valid.

For each way it is said when it succeeds. All of them end with the validation of a draft, and nothing
is changed in the site after that: the texts of the draft are expanded before.
-/

namespace SiteManifest

namespace Loading

/-! ## From drafts and values -/

theorem ofDraft_eq_ok {d : Draft.Site} {s : Site} :
    (ofDraft d).result = .ok s ↔ d.Describes s ∧ s.Valid := by
  rw [ofDraft, Traced.result_mapError_eq_ok, Validation.site_eq_ok]

/-- What is wrong with a draft is the first of its violations. -/
theorem ofDraft_eq_error {d : Draft.Site} {e : LoadError} :
    (ofDraft d).result = .error e ↔ ∃ x, d.violations.head? = some x ∧ e = .invalid x := by
  have hfirst : (Validation.site d).failure? = d.violations.head? := Validation.reports_site d
  rw [← hfirst, ofDraft, Traced.result_mapError]
  unfold Traced.failure?
  cases (Validation.site d).result with
  | ok s => simp [Except.mapError]
  | error x => simp [Except.mapError, eq_comm]

theorem ofJson_eq_ok {v : Json} {s : Site} :
    (ofJson v).result = .ok s
      ↔ ∃ d, Draft.Site.ofJson v = .ok d ∧ d.Describes s ∧ s.Valid := by
  unfold ofJson
  cases Draft.Site.ofJson v with
  | error m => simp
  | ok d => simp [ofDraft_eq_ok]

theorem ofJsonText_eq_ok {text : String} {s : Site} :
    (ofJsonText text).result = .ok s
      ↔ ∃ d, Draft.Site.ofText text = .ok d ∧ d.Describes s ∧ s.Valid := by
  unfold ofJsonText
  cases Draft.Site.ofText text with
  | error fault => simp
  | ok d => simp [ofDraft_eq_ok]

/-! ## From texts in a format -/

/-- What is told of a number of definitions. -/
def notice (count : Nat) : List Event := if 1 < count then [.severalDefinitions count] else []

theorem effective_eq (vs : List Json) :
    effective vs = ⟨notice vs.length, vs.getLast?.elim (.error .noDefinition) .ok⟩ := by
  unfold effective notice
  by_cases hseveral : 1 < vs.length
  · rw [if_pos hseveral, if_pos hseveral]
    cases vs.getLast? with
    | none => rfl
    | some v => rfl
  · rw [if_neg hseveral, if_neg hseveral]
    cases vs.getLast? with
    | none => rfl
    | some v => rfl

theorem effective_eq_ok {vs : List Json} {v : Json} :
    (effective vs).result = .ok v ↔ vs.getLast? = some v := by
  rw [effective_eq]
  cases vs.getLast? with
  | none => simp
  | some u => simp

/-- The draft that a definition holds is expanded before it is validated. -/
theorem ofDefinition_eq_ok {env : Environment} {v : Json} {s : Site} :
    (ofDefinition env v).result = .ok s
      ↔ ∃ d d', Draft.Site.ofJson v = .ok d ∧ Expansion.site env d = .ok d' ∧ d'.Describes s
        ∧ s.Valid := by
  unfold ofDefinition
  cases Draft.Site.ofJson v with
  | error m => simp
  | ok d => simp [Traced.result_bind_eq_ok, ofDraft_eq_ok]

theorem ofText_eq_ok {env : Environment} {format : Format} {text : String} {s : Site} :
    (ofText env format text).result = .ok s
      ↔ ∃ vs v, format.definitions text = .ok vs ∧ vs.getLast? = some v
        ∧ (ofDefinition env v).result = .ok s := by
  unfold ofText
  simp [Traced.result_bind_eq_ok, effective_eq_ok]

end Loading

/-! ## From files -/

namespace Surroundings

theorem load_eq_ok {w : Surroundings} {p : FilePath} {s : Site} :
    (w.load p).result = .ok s
      ↔ ∃ format text, w.exists? p = true ∧ Format.ofPath? p = some format
        ∧ w.read p = .ok text ∧ (Loading.ofText w.environment format text).result = .ok s := by
  unfold load
  cases hexists : w.exists? p with
  | false =>
    constructor
    · intro h
      obtain ⟨-, h, -⟩ := Traced.result_bind_eq_ok.mp h
      cases h
    · rintro ⟨-, -, h, -⟩
      cases h
  | true =>
    cases hformat : Format.ofPath? p with
    | none => simp
    | some format =>
      simp only [Bool.not_true, Bool.false_eq_true, if_false, Traced.result_bind_eq_ok]
      constructor
      · rintro ⟨text, htext, site, hsite, -, -, hs⟩
        cases hs
        exact ⟨format, text, trivial, rfl, htext, hsite⟩
      · rintro ⟨_, text, -, hsame, htext, hsite⟩
        cases hsame
        exact ⟨text, htext, s, hsite, (), rfl, rfl⟩

theorem loadOrDiscover_eq_ok {w : Surroundings} {path : Option FilePath} {p : FilePath} {s : Site} :
    (w.loadOrDiscover path).result = .ok (p, s)
      ↔ path.or w.discover = some p ∧ (w.load p).result = .ok s := by
  unfold loadOrDiscover
  cases path with
  | some q =>
    simp only [Traced.result_bind_eq_ok, Option.some_or, Option.some.injEq]
    constructor
    · rintro ⟨site, hsite, h⟩
      cases h
      exact ⟨rfl, hsite⟩
    · rintro ⟨rfl, hs⟩
      exact ⟨s, hs, rfl⟩
  | none =>
    cases hfound : w.discover with
    | none => simp
    | some q =>
      simp only [Traced.result_bind_eq_ok, Option.none_or, Option.some.injEq]
      constructor
      · rintro ⟨-, -, site, hsite, h⟩
        cases h
        exact ⟨rfl, hsite⟩
      · rintro ⟨rfl, hs⟩
        exact ⟨(), rfl, s, hs, rfl⟩

end Surroundings

/-! ## All ways -/

/-- The ways to have a site. -/
inductive Site.Loaded : Site → Prop where
  | ofDraft {d : Draft.Site} {s : Site} (h : (Loading.ofDraft d).result = .ok s) : Loaded s
  | ofJson {v : Json} {s : Site} (h : (Loading.ofJson v).result = .ok s) : Loaded s
  | ofJsonText {text : String} {s : Site} (h : (Loading.ofJsonText text).result = .ok s) : Loaded s
  | ofText {env : Environment} {format : Format} {text : String} {s : Site}
      (h : (Loading.ofText env format text).result = .ok s) : Loaded s
  | ofFile {w : Surroundings} {p : FilePath} {s : Site} (h : (w.load p).result = .ok s) : Loaded s
  | found {w : Surroundings} {path : Option FilePath} {p : FilePath} {s : Site}
      (h : (w.loadOrDiscover path).result = .ok (p, s)) : Loaded s

theorem exists_draft_of_ofText {env : Environment} {format : Format} {text : String} {s : Site}
    (h : (Loading.ofText env format text).result = .ok s) :
    ∃ d : Draft.Site, d.Describes s ∧ s.Valid := by
  obtain ⟨_, _, -, -, hv⟩ := Loading.ofText_eq_ok.mp h
  obtain ⟨_, d, -, -, hd⟩ := Loading.ofDefinition_eq_ok.mp hv
  exact ⟨d, hd⟩

theorem exists_draft_of_load {w : Surroundings} {p : FilePath} {s : Site}
    (h : (w.load p).result = .ok s) : ∃ d : Draft.Site, d.Describes s ∧ s.Valid := by
  obtain ⟨_, _, -, -, -, htext⟩ := Surroundings.load_eq_ok.mp h
  exact exists_draft_of_ofText htext

/-- Behind every loaded site there is a draft that passed the validation. -/
theorem Site.Loaded.exists_draft {s : Site} (h : s.Loaded) :
    ∃ d : Draft.Site, d.Describes s ∧ s.Valid := by
  cases h with
  | @ofDraft d _ h => exact ⟨d, Loading.ofDraft_eq_ok.mp h⟩
  | ofJson h =>
    obtain ⟨d, -, hd⟩ := Loading.ofJson_eq_ok.mp h
    exact ⟨d, hd⟩
  | ofJsonText h =>
    obtain ⟨d, -, hd⟩ := Loading.ofJsonText_eq_ok.mp h
    exact ⟨d, hd⟩
  | ofText h => exact exists_draft_of_ofText h
  | ofFile h => exact exists_draft_of_load h
  | found h => exact exists_draft_of_load (Surroundings.loadOrDiscover_eq_ok.mp h).2

/-- **Every loaded site is valid.** -/
theorem valid_of_loaded {s : Site} (h : s.Loaded) : s.Valid := by
  obtain ⟨_, -, hv⟩ := h.exists_draft
  exact hv

/-- A value with an entry that is switched off, and that has neither a text nor a link. -/
theorem valid_of_loaded_value :
    let v : Json := .object [("title", .string "Docs"), ("basePath", .string "/docs/"),
      ("theme", .object [
        ("nav", .array [.object [("enabled", .bool false)],
          .object [("text", .string "Home"), ("link", .string "/")]]),
        ("socialLinks", .array [.object [("icon", .string "x"), ("link", .string "mailto:a@b")]])])]
    let s : Site := ⟨"Docs", "", "/docs/", ⟨[⟨"Home", "/"⟩], [], [⟨.x, "mailto:a@b"⟩], none⟩⟩
    (Loading.ofJson v).result = .ok s ∧ s.Valid := by
  intro v s
  have h : (Loading.ofJson v).result = .ok s := rfl
  exact ⟨h, valid_of_loaded (.ofJson h)⟩

end SiteManifest
