import SiteManifest.Proofs.Loading.Located
import SiteManifest.Proofs.Loading.Malformed

/-!
# What the variables have an influence on

The variables reach a site through three texts of its definition: they have no influence on whether a
text can be read, on the shape of its definition, on the theme, or on anything at all if none of the
three texts refers to a variable. What the runs of a text can do is said once, for all environments: they
fail before the variables are looked at, or they have a theme in common. Then a run fails with a variable
that is not set, or ends as the validation of a draft with this theme does.

Success and failure can cross. A variable that is not set, or that makes a title blank, hides what is
wrong with the theme; but it hides it behind one of the three texts.
-/

namespace SiteManifest

/-- The keys of the texts that are expanded. -/
def Expansion.keys : List String := ["title", "description", "basePath"]

namespace LoadError

/-- The errors that say that a text cannot be read. -/
inductive IsSyntax : LoadError → Prop where
  | toml : IsSyntax .badToml
  | yaml : IsSyntax .badYaml
  | json (report : Json.Report) : IsSyntax (.badJson report)

/-- An error is about one of the texts that are expanded. -/
def IsInExpanded (e : LoadError) : Prop := ∃ key ∈ Expansion.keys, e.field? = some (.top key)

/-- An error is about a part of the theme. -/
def IsInTheme (e : LoadError) : Prop :=
  ∃ p, e.field? = some p ∧ "theme.".toList <+: p.text.toList

theorem IsInTheme.not_isInExpanded {e : LoadError} (h : e.IsInTheme) : ¬e.IsInExpanded := by
  rintro ⟨key, hkey, hfield⟩
  obtain ⟨p, hp, htext⟩ := h
  obtain rfl : p = .top key := Option.some.inj (hp.symm.trans hfield)
  have hkeys : ∀ key ∈ Expansion.keys, ¬"theme.".toList <+: (FieldPath.top key).text.toList := by
    decide
  exact hkeys key hkey htext

end LoadError

/-! ## Drafts with the same theme -/

namespace Draft.Site

/-- What is wrong with a draft outside of its theme is wrong with one of the texts that are expanded. -/
theorem isInExpanded_of_mem {d : Draft.Site} {x : Violation}
    (hx : x ∈ textViolations (.top "title") d.title ++ basePathViolations d.basePath) :
    (LoadError.invalid x).IsInExpanded := by
  obtain hx | hx := List.mem_append.mp hx
  · exact ⟨"title", by decide, congrArg some ((isTextRule_text _).field_eq hx)⟩
  · exact ⟨"basePath", by decide, congrArg some (isTextRule_basePath.field_eq hx)⟩

/-- If what is wrong first with a draft is not one of its texts, then a draft with the same theme has
the same first violation, unless one of its texts is wrong. -/
theorem head?_violations_of_theme {d d' : Draft.Site} (htheme : d'.theme = d.theme) {x : Violation}
    (hx : d.violations.head? = some x) (htext : ¬(LoadError.invalid x).IsInExpanded) :
    ∃ y, d'.violations.head? = some y ∧ (y = x ∨ (LoadError.invalid y).IsInExpanded) := by
  unfold violations at hx ⊢
  rw [List.head?_append, Option.or_eq_some_iff] at hx
  obtain hx | ⟨-, hx⟩ := hx
  · exact absurd (isInExpanded_of_mem (List.mem_of_head? hx)) htext
  -- so the first violation is one of the theme, which stays first unless one of a text comes before it
  rw [List.head?_append, htheme, hx]
  cases hfirst : (textViolations (.top "title") d'.title ++ basePathViolations d'.basePath).head? with
  | none => exact ⟨x, rfl, Or.inl rfl⟩
  | some y => exact ⟨y, rfl, Or.inr (isInExpanded_of_mem (List.mem_of_head? hfirst))⟩

theorem FirstUnset.mem_keys {env : Environment} {d : Draft.Site} {key name : String}
    (h : d.FirstUnset env key name) : key ∈ Expansion.keys := by
  cases h <;> decide

/-- A draft describes the theme of at most one valid site. -/
theorem theme_eq_of_describes {d d' : Draft.Site} {s s' : SiteManifest.Site}
    (htheme : d'.theme = d.theme) (h : d.Describes s) (hs : s.Valid) (h' : d'.Describes s')
    (hs' : s'.Valid) : s'.theme = s.theme := by
  -- validation makes both themes of the same draft
  have hmade := (Validation.theme_eq_ok .root _ _).mpr ⟨h.theme, hs.theme⟩
  have hmade' := (Validation.theme_eq_ok .root _ _).mpr ⟨h'.theme, hs'.theme⟩
  rw [htheme, hmade] at hmade'
  exact (Except.ok.inj hmade').symm

end Draft.Site

/-- The three texts that a value gives a draft hold no reference. -/
def Json.HasPlainTexts (v : Json) : Prop :=
  ∀ key ∈ Expansion.keys, ∀ s, v.given Draft.Site.schema.keys key = some (.string s) →
    ¬['$', '\x7b'] <:+: s.toList

/-! ## Runs -/

theorem Format.isSyntax_of_definitions {format : Format} {text : String} {e : LoadError}
    (h : format.definitions text = .error e) : e.IsSyntax := by
  cases format with
  | toml =>
    unfold definitions at h
    dsimp only at h
    split at h <;> cases h
    exact .toml
  | yaml =>
    unfold definitions at h
    dsimp only at h
    split at h <;> cases h
    exact .yaml
  | json =>
    unfold definitions at h
    dsimp only at h
    split at h <;> cases h
    exact .json _

namespace Loading

variable {format : Format} {text : String} {env env' : Environment}

/-- A definition that holds a draft fails with a variable of one of the three texts that is not set, or
ends as a draft with the same theme does. -/
theorem ofDefinition_of_draft {v : Json} {d : Draft.Site} (hd : Draft.Site.ofJson v = .ok d)
    (env : Environment) :
    (∃ key ∈ Expansion.keys, ∃ name,
        (ofDefinition env v).result = .error (.unsetVariable (.top key) name))
      ∨ ∃ d' : Draft.Site, d'.theme = d.theme
        ∧ (ofDefinition env v).result = (ofDraft d').result := by
  obtain ⟨key, name, hunset⟩ | ⟨d', hexpand⟩ := d.firstUnset_or_expandsTo env
  · exact Or.inl ⟨key, hunset.mem_keys, name, ofDefinition_of_unset hd hunset⟩
  · exact Or.inr ⟨d', hexpand.theme, ofDefinition_of_expanded hd hexpand⟩

/-- **The runs of a text under all environments** fail with the same error before the variables are
looked at, or have a theme in common. -/
theorem ofText_cases (format : Format) (text : String) :
    (∃ e : LoadError, (e.IsSyntax ∨ e.IsMalformed)
        ∧ ∀ env, (ofText env format text).result = .error e)
      ∨ ∃ theme, ∀ env,
        (∃ key ∈ Expansion.keys, ∃ name,
            (ofText env format text).result = .error (.unsetVariable (.top key) name))
          ∨ ∃ d : Draft.Site, d.theme = theme
            ∧ (ofText env format text).result = (ofDraft d).result := by
  cases hread : format.definitions text with
  | error e =>
    refine Or.inl ⟨e, Or.inl (Format.isSyntax_of_definitions hread), fun env => ?_⟩
    unfold ofText
    rw [hread]
    exact Traced.result_bind_of_error rfl _
  | ok vs =>
    cases hlast : vs.getLast? with
    | none =>
      obtain rfl := List.getLast?_eq_none_iff.mp hlast
      refine Or.inl ⟨.noDefinition, Or.inr .noDefinition, fun env => ?_⟩
      unfold ofText
      rw [hread]
      rfl
    | some v =>
      cases hd : Draft.Site.ofJson v with
      | error m =>
        refine Or.inl ⟨.malformed m, Or.inr (.mismatch m), fun env => ?_⟩
        rw [ofText_of_effective hread hlast, ofDefinition_of_mismatch hd]
      | ok d =>
        refine Or.inr ⟨d.theme, fun env => ?_⟩
        rw [ofText_of_effective hread hlast]
        exact ofDefinition_of_draft hd env

/-- If the three texts hold no reference, then all environments make the same of a definition. -/
theorem ofDefinition_of_plain {v : Json} (h : v.HasPlainTexts) (env env' : Environment) :
    ofDefinition env v = ofDefinition env' v := by
  unfold ofDefinition
  cases hd : Draft.Site.ofJson v with
  | error m => rfl
  | ok d =>
    have hgiven := Draft.Site.givenBy_of_ofJson hd
    have hsite (env : Environment) : Expansion.site env d = .ok d := by
      refine Expansion.site_eq_ok.mpr ⟨?_, ?_, ?_, rfl⟩
      · refine Expansion.expands_self (fun s hs => h "title" (by decide) s ?_) env
        exact (hs ▸ hgiven.title).text_of_some
      · refine Expansion.expands_self (fun s hs => h "description" (by decide) s ?_) env
        exact (hs ▸ hgiven.description).text_of_some
      · refine Expansion.expands_self (fun s hs => h "basePath" (by decide) s ?_) env
        exact (hs ▸ hgiven.basePath).text_of_some
    dsimp only
    rw [hsite env, hsite env']

theorem ofText_of_plain (h : ∀ vs v, format.definitions text = .ok vs → vs.getLast? = some v →
      v.HasPlainTexts) (env env' : Environment) : ofText env format text = ofText env' format text := by
  refine Traced.bind_congr_of_ok fun vs hread => Traced.bind_congr_of_ok fun v hlast => ?_
  exact ofDefinition_of_plain (h vs v hread (effective_eq_ok.mp hlast)) env env'

theorem theme_eq_of_ofText {s s' : Site} (h : (ofText env format text).result = .ok s)
    (h' : (ofText env' format text).result = .ok s') : s'.theme = s.theme := by
  obtain ⟨e, -, he⟩ | ⟨theme, hruns⟩ := ofText_cases format text
  · rw [he env] at h
    cases h
  obtain ⟨_, -, _, hunset⟩ | ⟨d, htheme, hresult⟩ := hruns env
  · rw [hunset] at h
    cases h
  obtain ⟨_, -, _, hunset⟩ | ⟨d', htheme', hresult'⟩ := hruns env'
  · rw [hunset] at h'
    cases h'
  obtain ⟨hdescribes, hvalid⟩ := ofDraft_eq_ok.mp (hresult.symm.trans h)
  obtain ⟨hdescribes', hvalid'⟩ := ofDraft_eq_ok.mp (hresult'.symm.trans h')
  exact Draft.Site.theme_eq_of_describes (htheme'.trans htheme.symm) hdescribes hvalid hdescribes'
    hvalid'

theorem ofText_eq_of_isSyntax_or_isMalformed {e : LoadError}
    (h : (ofText env format text).result = .error e) (he : e.IsSyntax ∨ e.IsMalformed) :
    (ofText env' format text).result = .error e := by
  obtain ⟨e', -, he'⟩ | ⟨theme, hruns⟩ := ofText_cases format text
  · rw [he' env] at h
    rw [he' env', h]
  -- an error after this is neither of syntax nor of shape
  obtain ⟨_, -, _, hunset⟩ | ⟨d, -, hresult⟩ := hruns env
  · cases hunset.symm.trans h
    obtain ⟨⟨⟩⟩ | ⟨⟨⟩⟩ := he
  · obtain ⟨x, -, rfl⟩ := ofDraft_eq_error.mp (hresult.symm.trans h)
    obtain ⟨⟨⟩⟩ | ⟨⟨⟩⟩ := he

theorem ofText_of_isInTheme {e : LoadError} (h : (ofText env format text).result = .error e)
    (he : e.IsInTheme) :
    ∃ e', (ofText env' format text).result = .error e' ∧ (e' = e ∨ e'.IsInExpanded) := by
  obtain ⟨e', -, he'⟩ | ⟨theme, hruns⟩ := ofText_cases format text
  · rw [he' env] at h
    exact ⟨e', he' env', Or.inl (Except.error.inj h)⟩
  obtain ⟨key, hkey, _, hunset⟩ | ⟨d, htheme, hresult⟩ := hruns env
  · cases hunset.symm.trans h
    exact absurd ⟨key, hkey, rfl⟩ he.not_isInExpanded
  obtain ⟨x, hx, rfl⟩ := ofDraft_eq_error.mp (hresult.symm.trans h)
  obtain ⟨key, hkey, _, hunset⟩ | ⟨d', htheme', hresult'⟩ := hruns env'
  · exact ⟨_, hunset, Or.inr ⟨key, hkey, rfl⟩⟩
  obtain ⟨y, hy, hcases⟩ := Draft.Site.head?_violations_of_theme (htheme'.trans htheme.symm) hx
    he.not_isInExpanded
  refine ⟨.invalid y, hresult'.trans (ofDraft_eq_error.mpr ⟨y, hy, rfl⟩), ?_⟩
  exact hcases.imp (congrArg _) id

end Loading

/-- **The variables have an influence on three texts only.** Without references in these, they have none
at all. The theme of a site does not depend on them, nor does an error before they are looked at; and
what is wrong with the theme is hidden at most behind what is wrong with one of the three texts. -/
theorem variables_confined (format : Format) (text : String) (env env' : Environment) :
    ((∀ vs v, format.definitions text = .ok vs → vs.getLast? = some v → v.HasPlainTexts) →
        Loading.ofText env format text = Loading.ofText env' format text)
      ∧ (∀ s s', (Loading.ofText env format text).result = .ok s →
        (Loading.ofText env' format text).result = .ok s' → s'.theme = s.theme)
      ∧ (∀ e, (Loading.ofText env format text).result = .error e → e.IsSyntax ∨ e.IsMalformed →
        (Loading.ofText env' format text).result = .error e)
      ∧ ∀ e, (Loading.ofText env format text).result = .error e → e.IsInTheme →
        ∃ e', (Loading.ofText env' format text).result = .error e' ∧ (e' = e ∨ e'.IsInExpanded) :=
  ⟨fun h => Loading.ofText_of_plain h env env', fun _ _ => Loading.theme_eq_of_ofText,
    fun _ => Loading.ofText_eq_of_isSyntax_or_isMalformed, fun _ => Loading.ofText_of_isInTheme⟩

/-- A text without references, a title that is a variable with a fallback, a text that cannot be read,
and a link that is wrong behind a title that a variable makes blank. -/
theorem variables_confined_texts :
    let named := Environment.empty.set "NAME" "Docs"
    let blank := Environment.empty.set "NAME" " "
    let plain := "title = \"Docs\"\nbasePath = \"/\""
    let spare := "title = \"$\x7bNAME:-Site\x7d\"\nbasePath = \"/\""
    let wrong := "title = \"$\x7bNAME\x7d\"\nbasePath = \"/\"\ntheme.nav = [[\"Home\", \"home\"]]"
    Loading.ofText named .toml plain = Loading.ofText blank .toml plain
      ∧ (∃ s s', (Loading.ofText named .toml spare).result = .ok s
          ∧ (Loading.ofText .empty .toml spare).result = .ok s'
          ∧ s.title = "Docs" ∧ s'.title = "Site" ∧ s'.theme = s.theme)
      ∧ (Loading.ofText named .toml "title = ").result = .error .badToml
      ∧ ∃ e', (Loading.ofText blank .toml wrong).result = .error e' ∧ e'.IsInExpanded := by
  intro named blank plain spare wrong
  have hplain : Format.definitions .toml "title = \"Docs\"\nbasePath = \"/\""
      = .ok [.object [("title", .string "Docs"), ("basePath", .string "/")]] := by decide +kernel
  have hexpands {env : Environment} {title title' : String}
      (h : Expansion.expand env title = .ok title') (theme : Option Draft.Theme) :
      (⟨some title, none, some "/", theme⟩ : Draft.Site).ExpandsTo env
        ⟨some title', none, some "/", theme⟩ :=
    ⟨.some h, .none, .some (Expansion.expand_of_not_infix (by decide) env), rfl⟩
  refine ⟨(variables_confined .toml plain named blank).1 ?_, ?_, ?_, ?_⟩
  · intro vs v hread hlast
    cases hplain.symm.trans hread
    cases hlast
    intro key hkey s hs
    rw [← Expansion.mentions_iff]
    simp only [Expansion.keys, List.mem_cons, List.not_mem_nil, or_false] at hkey
    obtain rfl | rfl | rfl := hkey
    · cases hs
      decide
    · cases hs
    · cases hs
      decide
  · have hspare : Format.definitions .toml "title = \"$\x7bNAME:-Site\x7d\"\nbasePath = \"/\""
        = .ok [.object [("title", .string "$\x7bNAME:-Site\x7d"), ("basePath", .string "/")]] := by
      decide +kernel
    have hset : (Loading.ofText named .toml spare).result
        = .ok ⟨"Docs", "", "/", ⟨[], [], [], none⟩⟩ := by
      have htitle : Expansion.expand named "$\x7bNAME:-Site\x7d" = .ok "Docs" := by decide +kernel
      rw [Loading.ofText_of_effective hspare rfl,
        Loading.ofDefinition_of_expanded rfl (hexpands htitle none)]
      rfl
    have hunset : (Loading.ofText .empty .toml spare).result
        = .ok ⟨"Site", "", "/", ⟨[], [], [], none⟩⟩ := by
      have htitle : Expansion.expand .empty "$\x7bNAME:-Site\x7d" = .ok "Site" := by decide +kernel
      rw [Loading.ofText_of_effective hspare rfl,
        Loading.ofDefinition_of_expanded rfl (hexpands htitle none)]
      rfl
    exact ⟨_, _, hset, hunset, rfl, rfl,
      (variables_confined .toml spare named .empty).2.1 _ _ hset hunset⟩
  · have hbad : (Loading.ofText .empty .toml "title = ").result = .error .badToml := by decide +kernel
    exact (variables_confined .toml _ .empty named).2.2.1 _ hbad (Or.inl .toml)
  · have hread : Format.definitions .toml
        "title = \"$\x7bNAME\x7d\"\nbasePath = \"/\"\ntheme.nav = [[\"Home\", \"home\"]]"
        = .ok [.object [("title", .string "$\x7bNAME\x7d"), ("basePath", .string "/"),
          ("theme", .object [("nav", .array [.array [.string "Home", .string "home"]])])]] := by decide +kernel
    have hwrong : (Loading.ofText named .toml wrong).result
        = .error (.invalid (.invalidLink ((((FieldPath.top "theme").key "nav").item 0).key "link") "home"
          .notRooted)) := by
      have htitle : Expansion.expand named "$\x7bNAME\x7d" = .ok "Docs" := by decide +kernel
      rw [Loading.ofText_of_effective hread rfl,
        Loading.ofDefinition_of_expanded rfl (hexpands htitle _)]
      rfl
    have hblank : (Loading.ofText blank .toml wrong).result
        = .error (.invalid (.emptyText (.top "title"))) := by
      have htitle : Expansion.expand blank "$\x7bNAME\x7d" = .ok " " := by decide +kernel
      rw [Loading.ofText_of_effective hread rfl,
        Loading.ofDefinition_of_expanded rfl (hexpands htitle _)]
      rfl
    obtain ⟨e', he', rfl | hin⟩ := (variables_confined .toml wrong named blank).2.2.2 _ hwrong
      ⟨_, rfl, by decide⟩
    · cases hblank.symm.trans he'
    · exact ⟨e', he', hin⟩

end SiteManifest
