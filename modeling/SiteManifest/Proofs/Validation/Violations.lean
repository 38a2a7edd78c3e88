import SiteManifest.Proofs.Validation.Success

/-!
# The violations of a draft

All rules that a draft breaks, listed in one walk through the draft in the order in which it is
written. Validation stops at the first violation; the walk goes on. The main statement is that
validation fails exactly if the list has a first violation, and that it fails with this one.

## How a part is followed

`Reports x vs` says that a validation `x` ends the way a list `vs` begins. It is kept when steps are
put after each other and their lists are appended, so every part of the validation is taken through
it in its own order, and the lists of entries by induction.
-/

namespace SiteManifest

/-! ## The walk -/

/-- What is wrong with a text that must be given and must not be blank. -/
def textViolations (field : FieldPath) : Option String → List Violation
  | none => [.missing field]
  | some text => if Text.isBlank text then [.emptyText field] else []

/-- What is wrong with the link of a page. -/
def pageLinkViolations (field : FieldPath) : Option String → List Violation
  | none => [.missing field]
  | some link =>
    if Text.isBlank link then [.invalidLink field link .empty]
    else if ¬['/'] <+: link.toList then [.invalidLink field link .notRooted]
    else if ['/', '/'] <+: link.toList then [.invalidLink field link .protocolRelative]
    else []

/-- What is wrong with the icon of a social link. -/
def iconViolations (field : FieldPath) : Option String → List Violation
  | none => [.missing field]
  | some word => if word ∈ Icon.all.map Icon.name then [] else [.unknownIcon field word]

/-- What is wrong with the address of a social link. -/
def addressViolations (field : FieldPath) : Option String → List Violation
  | none => [.missing field]
  | some link =>
    if Text.isBlank link then [.invalidLink field link .empty]
    else if Text.isPadded link then [.invalidLink field link .padded]
    else if Url.isAbsolute link then []
    else [.invalidLink field link .notAbsolute]

/-- What is wrong with a base path. -/
def basePathViolations : Option String → List Violation
  | none => [.missing (.top "basePath")]
  | some path =>
    if ['/'] <+: path.toList ∧ ['/'] <:+ path.toList then [] else [.invalidBasePath path]

/-- What is wrong with the enabled entries of a list, each at its place in the whole list. -/
def enabledViolations {α : Type} (enabled : α → Bool) (check : FieldPath → α → List Violation)
    (field : FieldPath) (xs : Option (List α)) : List Violation :=
  (xs.getD []).zipIdx.flatMap fun (x, i) => if enabled x then check (field.item i) x else []

namespace Draft

/-- The violations of an entry: its text before its link. -/
def Entry.violations (field : FieldPath) (e : Entry) : List Violation :=
  textViolations (field.key "text") e.text ++ pageLinkViolations (field.key "link") e.link

/-- The violations of a group: its text, its list of items, the items in order. -/
def Group.violations (field : FieldPath) (g : Group) : List Violation :=
  textViolations (field.key "text") g.text
    ++ (if g.items.isNone then [.missing (field.key "items")] else [])
    ++ enabledViolations (·.enabled) Entry.violations (field.key "items") g.items

/-- The violations of a social link: its icon before its address. -/
def SocialLink.violations (field : FieldPath) (s : SocialLink) : List Violation :=
  iconViolations (field.key "icon") s.icon ++ addressViolations (field.key "link") s.link

/-- The violations of a theme: those of its three lists, and that of its label. -/
def Theme.violations (field : FieldPath) (t : Theme) : List Violation :=
  enabledViolations (·.enabled) Entry.violations (field.key "nav") t.nav
    ++ enabledViolations (·.enabled) Group.violations (field.key "sidebar") t.sidebar
    ++ enabledViolations (·.enabled) SocialLink.violations (field.key "socialLinks") t.socialLinks
    ++ t.lastUpdated.toList.flatMap fun l =>
      textViolations ((field.key "lastUpdated").key "text") l.text

/-- The violations of a draft, in the order in which it is written. -/
def Site.violations (d : Site) : List Violation :=
  textViolations (.top "title") d.title ++ basePathViolations d.basePath
    ++ d.theme.toList.flatMap (Theme.violations (.top "theme"))

end Draft

/-! ## Validations that end as a list begins -/

/-- A validation fails with the first violation of a list, and succeeds if the list is empty. -/
def Reports {α : Type} (x : Validation α) (vs : List Violation) : Prop :=
  x.failure? = vs.head?

namespace Reports

variable {α β : Type} {vs ws : List Violation}

theorem pure (a : α) : Reports (Pure.pure a : Validation α) [] := rfl

theorem throw (v : Violation) : Reports (MonadExcept.throw v : Validation α) [v] := rfl

theorem eq_nil {x : Validation α} {a : α} (h : Reports x vs) (ha : x.result = .ok a) : vs = [] := by
  unfold Reports at h
  rw [Traced.failure?_of_ok ha] at h
  exact List.head?_eq_none_iff.mp h.symm

/-- Two steps report what the first one reports, and then what the second one does. -/
theorem bind {x : Validation α} {f : α → Validation β} (hx : Reports x vs)
    (hf : ∀ a, x.result = .ok a → Reports (f a) ws) : Reports (x >>= f) (vs ++ ws) := by
  cases hr : x.result with
  | error v =>
    -- the list of the first step is not empty, so what is appended does not show
    have hv : vs.head? = some v := hx.symm.trans (Traced.failure?_eq_some.mpr hr)
    show (x >>= f).failure? = _
    rw [Traced.failure?_eq_some.mpr (Traced.result_bind_of_error hr f), List.head?_append, hv]
    rfl
  | ok a =>
    have hf' : (f a).failure? = ws.head? := hf a hr
    show (x >>= f).failure? = _
    rw [hx.eq_nil hr, List.nil_append, ← hf']
    unfold Traced.failure?
    rw [Traced.result_bind_of_ok hr f]

/-- A last step that cannot fail adds nothing. -/
theorem map {x : Validation α} (f : α → β) (hx : Reports x vs) :
    Reports (x >>= fun a => Pure.pure (f a)) vs := by
  have h := hx.bind (f := fun a => Pure.pure (f a)) fun a _ => Reports.pure (f a)
  rwa [List.append_nil] at h

/-- What is told before a step does not show. -/
theorem tell {x : Validation α} (event : Event) (hx : Reports x vs) :
    Reports (do Traced.tell event; x) vs := by
  have h : Reports (Traced.tell event : Validation Unit) [] := rfl
  exact h.bind fun _ _ => hx

end Reports

/-! ## Validation stops at the first violation -/

namespace Validation

theorem reports_present {α : Type} (field : FieldPath) :
    ∀ x : Option α, Reports (present field x) (if x.isNone then [.missing field] else [])
  | none => Reports.throw (.missing field)
  | some x => Reports.pure x

theorem reports_label (field : FieldPath) :
    ∀ text : Option String, Reports (label field text) (textViolations field text)
  | none => Reports.throw (.missing field)
  | some text => by
    show Reports (if Text.isBlank text then _ else _) (if Text.isBlank text then _ else _)
    split
    · exact Reports.throw (.emptyText field)
    · exact Reports.pure text

/-- A link is refused for its flaw. -/
theorem reports_goodLink (flaw? : String → Option LinkFlaw) (field : FieldPath) (link : String) :
    Reports (goodLink flaw? field (some link))
      ((flaw? link).toList.map (.invalidLink field link)) := by
  unfold goodLink
  refine (Reports.pure link).bind fun link' hlink => ?_
  cases hlink
  cases flaw? link with
  | none => exact Reports.pure link
  | some flaw => exact Reports.throw (.invalidLink field link flaw)

theorem pageLinkViolations_some (field : FieldPath) (link : String) :
    pageLinkViolations field (some link)
      = (pageLinkFlaw? link).toList.map (.invalidLink field link) := by
  unfold pageLinkViolations pageLinkFlaw?
  simp only [List.singleton_prefix_iff_head?_eq_some, List.isPrefixOf_iff_prefix, ne_eq]
  split
  · rfl
  · split
    · rfl
    · split
      · rfl
      · rfl

theorem reports_pageLink (field : FieldPath) :
    ∀ link : Option String,
      Reports (goodLink pageLinkFlaw? field link) (pageLinkViolations field link)
  | none => Reports.throw (.missing field)
  | some link => by
    rw [pageLinkViolations_some]
    exact reports_goodLink pageLinkFlaw? field link

theorem addressViolations_some (field : FieldPath) (link : String) :
    addressViolations field (some link)
      = (socialLinkFlaw? link).toList.map (.invalidLink field link) := by
  simp only [addressViolations, socialLinkFlaw?]
  split
  · rfl
  · split
    · rfl
    · cases Url.isAbsolute link with
      | false => rfl
      | true => rfl

theorem reports_address (field : FieldPath) :
    ∀ link : Option String,
      Reports (goodLink socialLinkFlaw? field link) (addressViolations field link)
  | none => Reports.throw (.missing field)
  | some link => by
    rw [addressViolations_some]
    exact reports_goodLink socialLinkFlaw? field link

/-! ## Lists of entries -/

section Entries

variable {α β : Type} {enabled : α → Bool} {check : FieldPath → α → Validation β}
  {violations : FieldPath → α → List Violation} {field : FieldPath}

/-- The induction is on the list, for all positions at which it may start. -/
theorem reports_entriesFrom (h : ∀ field x, Reports (check field x) (violations field x)) :
    ∀ (xs : List α) (i : Nat), Reports (entriesFrom enabled check field i xs)
      ((xs.zipIdx i).flatMap fun (x, i) => if enabled x then violations (field.item i) x else [])
  | [], _ => Reports.pure []
  | x :: xs, i => by
    have ih := reports_entriesFrom h xs (i + 1)
    rw [List.zipIdx_cons, List.flatMap_cons, entriesFrom]
    by_cases hx : enabled x = true
    · simp only [if_pos hx]
      exact (h (field.item i) x).bind fun y _ => ih.map (y :: ·)
    · simp only [if_neg hx, List.nil_append]
      exact ih.tell (.skipped (field.item i))

theorem reports_entries (h : ∀ field x, Reports (check field x) (violations field x))
    (xs : Option (List α)) :
    Reports (entries enabled check field xs) (enabledViolations enabled violations field xs) :=
  reports_entriesFrom h (xs.getD []) 0

end Entries

theorem reports_entry (field : FieldPath) (e : Draft.Entry) :
    Reports (entry field e) (e.violations field) :=
  (reports_label _ e.text).bind fun text _ => (reports_pageLink _ e.link).map (Entry.mk text)

theorem reports_group (field : FieldPath) (g : Draft.Group) :
    Reports (group field g) (g.violations field) := by
  unfold group Draft.Group.violations
  rw [List.append_assoc]
  refine (reports_label _ g.text).bind fun text _ => (reports_present _ g.items).bind ?_
  intro items hitems
  rw [present_eq_ok.mp hitems]
  exact (reports_entries reports_entry (some items)).map (Group.mk text · g.collapsed)

theorem ofName?_eq_none {word : String} :
    Icon.ofName? word = none ↔ word ∉ Icon.all.map Icon.name := by
  unfold Icon.ofName?
  rw [List.find?_eq_none, List.mem_map]
  constructor
  · rintro h ⟨icon, hicon, hname⟩
    exact h icon hicon (beq_iff_eq.mpr hname)
  · intro h icon hicon hname
    exact h ⟨icon, hicon, beq_iff_eq.mp hname⟩

theorem reports_socialLink (field : FieldPath) (s : Draft.SocialLink) :
    Reports (socialLink field s) (s.violations field) := by
  unfold socialLink Draft.SocialLink.violations
  cases s.icon with
  | none => exact Reports.throw _
  | some word =>
    refine (Reports.pure word).bind fun word' hword => ?_
    cases hword
    -- an unknown icon ends the validation here, so the address is looked at only in one case
    cases hicon : Icon.ofName? word with
    | none =>
      rw [iconViolations, if_neg (ofName?_eq_none.mp hicon)]
      exact Reports.throw _
    | some icon =>
      have hknown : word ∈ Icon.all.map Icon.name := by
        refine Decidable.of_not_not fun h => ?_
        rw [ofName?_eq_none.mpr h] at hicon
        cases hicon
      rw [iconViolations, if_pos hknown]
      exact (reports_address _ s.link).map (SocialLink.mk icon)

theorem reports_lastUpdated (field : FieldPath) (l : Draft.LastUpdated) :
    Reports (lastUpdated field l) (textViolations (field.key "text") l.text) :=
  (reports_label _ l.text).map (LastUpdated.mk · (labelFormat l.format))

theorem reports_theme (field : FieldPath) (t : Draft.Theme) :
    Reports (theme field t) (t.violations field) := by
  unfold theme Draft.Theme.violations
  simp only [List.append_assoc]
  refine (reports_entries reports_entry t.nav).bind fun nav _ => ?_
  refine (reports_entries reports_group t.sidebar).bind fun sidebar _ => ?_
  refine (reports_entries reports_socialLink t.socialLinks).bind fun links _ => ?_
  cases t.lastUpdated with
  | none => exact Reports.pure _
  | some l =>
    simp only [Option.toList_some, List.flatMap_cons, List.flatMap_nil, List.append_nil]
    exact (reports_lastUpdated _ l).map fun l => Theme.mk nav sidebar links (some l)

/-- A theme that is not given has no violations. -/
theorem reports_themeOf (field : FieldPath) :
    ∀ t : Option Draft.Theme,
      Reports (theme field (t.getD noTheme)) (t.toList.flatMap (Draft.Theme.violations field))
  | none => reports_theme field noTheme
  | some t => by
    simp only [Option.toList_some, List.flatMap_cons, List.flatMap_nil, List.append_nil]
    exact reports_theme field t

/-- What follows the base path is looked at only if the base path is good. -/
theorem reports_basePath {α : Type} {f : String → Validation α} {vs : List Violation}
    (hf : ∀ path, Reports (f path) vs) :
    ∀ path : Option String,
      Reports (do
        let path ← present (.top "basePath") path
        if !isBasePath path then throw (.invalidBasePath path)
        f path) (basePathViolations path ++ vs)
  | none => Reports.throw (.missing (.top "basePath"))
  | some path => by
    -- the guard has no result of its own, so the path goes on to what follows it
    show Reports (if !isBasePath path then _ else f path) _
    cases hpath : isBasePath path with
    | true =>
      have hgood := isBasePath_iff.mp hpath
      have hnone : basePathViolations (some path) = [] := if_pos ⟨hgood.start, hgood.finish⟩
      rw [hnone]
      exact hf path
    | false =>
      have hbad : ¬(['/'] <+: path.toList ∧ ['/'] <:+ path.toList) := by
        intro h
        rw [isBasePath_iff.mpr ⟨h.1, h.2⟩] at hpath
        cases hpath
      have hone : basePathViolations (some path) = [.invalidBasePath path] := if_neg hbad
      rw [hone]
      exact Reports.throw (.invalidBasePath path)

theorem reports_site (d : Draft.Site) : Reports (site d) d.violations := by
  unfold site Draft.Site.violations
  rw [List.append_assoc]
  refine (reports_label _ d.title).bind fun title _ => ?_
  exact reports_basePath (fun path => (reports_themeOf _ d.theme).map (Site.mk title _ path)) d.basePath

/-- **Validation stops at the first violation of the walk, and only there.** -/
theorem site_eq_first_violation (d : Draft.Site) :
    ((∃ s, (site d).result = .ok s) ↔ d.violations = [])
      ∧ ∀ v, (site d).result = .error v ↔ d.violations.head? = some v := by
  have h : (site d).failure? = d.violations.head? := reports_site d
  constructor
  · rw [← Traced.failure?_eq_none, h, List.head?_eq_none_iff]
  · intro v
    rw [← Traced.failure?_eq_some, h]

/-- The walk goes on after a violation, and passes over what is switched off. -/
example :
    Draft.Site.violations ⟨some " ", none, some "docs/",
      some ⟨some [⟨none, some "//", false⟩, ⟨none, some "//", true⟩], none, none, none⟩⟩
    = [.emptyText (.top "title"), .invalidBasePath "docs/",
      .missing ((((FieldPath.top "theme").key "nav").item 1).key "text"),
      .invalidLink ((((FieldPath.top "theme").key "nav").item 1).key "link") "//"
        .protocolRelative] := by
  decide

end Validation

end SiteManifest
