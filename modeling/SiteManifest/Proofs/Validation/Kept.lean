import SiteManifest.Proofs.Site.Draft

/-!
# What validation keeps

What is switched off in a draft can be deleted, and what is left out can be filled in. A draft describes
a site exactly if it then says what the site says: the entries that are left are those of the site, in
the same order and with the same texts, and nothing else is in the site. The main statement is that
this is what validation makes of a draft.
-/

namespace SiteManifest

namespace Draft

/-! ## Drafts without what is switched off -/

/-- A group without its disabled items. -/
def Group.pruned (g : Group) : Group := { g with items := g.items.map (·.filter (·.enabled)) }

/-- A theme without its disabled entries. In the groups that stay, the disabled items go. -/
def Theme.pruned (t : Theme) : Theme where
  nav := t.nav.map (·.filter (·.enabled))
  sidebar := t.sidebar.map fun gs => (gs.filter (·.enabled)).map Group.pruned
  socialLinks := t.socialLinks.map (·.filter (·.enabled))
  lastUpdated := t.lastUpdated

/-- A draft without its disabled entries. -/
def Site.pruned (d : Site) : Site := { d with theme := d.theme.map Theme.pruned }

/-! ## Drafts with nothing left out -/

/-- A label with both styles given: dates are full unless they say otherwise, and times are medium. -/
def LastUpdated.filled (l : LastUpdated) : LastUpdated where
  text := l.text
  format := some ⟨some ((l.format.bind (·.date)).getD .full),
    some ((l.format.bind (·.time)).getD .medium)⟩

/-- A theme with all three lists given. -/
def Theme.filled (t : Theme) : Theme where
  nav := some (t.nav.getD [])
  sidebar := some (t.sidebar.getD [])
  socialLinks := some (t.socialLinks.getD [])
  lastUpdated := t.lastUpdated.map LastUpdated.filled

/-- A draft with a description and a theme. -/
def Site.filled (d : Site) : Site where
  title := d.title
  description := some (d.description.getD "")
  basePath := d.basePath
  theme := some (d.theme.getD ⟨none, none, none, none⟩).filled

/-! ## Parts that say what a draft says -/

section Lists

variable {α β γ : Type} {D : α → β → Prop} {g : β → γ}

/-- The parts that describe the entries of a list are those that say what the entries say. -/
theorem forall₂_iff_map_eq {f : α → γ} : ∀ {xs : List α} {ys : List β},
    (∀ x ∈ xs, ∀ y, D x y ↔ g y = f x) → (List.Forall₂ D xs ys ↔ ys.map g = xs.map f)
  | [], ys, _ => by
    rw [List.forall₂_nil_left_iff, List.map_nil, List.map_eq_nil_iff]
  | x :: xs, [], _ => by
    rw [List.forall₂_nil_right_iff, List.map_nil, List.map_cons]
    exact ⟨nofun, nofun⟩
  | x :: xs, y :: ys, h => by
    obtain ⟨hx, hxs⟩ := List.forall_mem_cons.mp h
    rw [List.forall₂_cons, List.map_cons, List.map_cons, List.cons.injEq, hx y, forall₂_iff_map_eq hxs]

/-- Only what enabled entries say matters for the enabled entries of a list. -/
theorem forall₂_filter_iff {enabled : α → Bool} {f : α → γ}
    (h : ∀ x, enabled x = true → ∀ y, D x y ↔ g y = f x) (xs : List α) (ys : List β) :
    List.Forall₂ D (xs.filter enabled) ys ↔ ys.map g = (xs.filter enabled).map f :=
  forall₂_iff_map_eq fun x hx => h x (List.mem_filter.mp hx).2

/-- A list that is not given has no entries to keep. -/
theorem getD_map_of_nil {f : List α → List β} (hf : f [] = []) (xs : Option (List α)) :
    (xs.map f).getD [] = f (xs.getD []) := by
  cases xs with
  | none => exact hf.symm
  | some xs => rfl

end Lists

theorem Entry.describes_iff (d : Entry) (h : d.enabled = true) (e : SiteManifest.Entry) :
    d.Describes e ↔ e.draft = d := by
  obtain ⟨text, link, enabled⟩ := d
  cases h
  constructor
  · rintro ⟨ht, hl⟩
    cases ht
    cases hl
    rfl
  · rintro ⟨⟩
    exact e.draft_describes

theorem Entry.describe_iff (ds : List Entry) (es : List SiteManifest.Entry) :
    List.Forall₂ Describes (ds.filter (·.enabled)) es
      ↔ es.map SiteManifest.Entry.draft = ds.filter (·.enabled) := by
  rw [forall₂_filter_iff (f := id) Entry.describes_iff, List.map_id]

theorem Group.describes_iff (d : Group) (h : d.enabled = true) (g : SiteManifest.Group) :
    d.Describes g ↔ g.draft = d.pruned := by
  obtain ⟨text, items, collapsed, enabled⟩ := d
  cases h
  constructor
  · rintro ⟨ht, ⟨items', hi, hkept⟩, hc⟩
    cases ht
    cases hi
    cases hc
    rw [Entry.describe_iff] at hkept
    unfold SiteManifest.Group.draft pruned
    rw [hkept]
    rfl
  · intro h
    cases items with
    | none => cases h
    | some items =>
      unfold SiteManifest.Group.draft pruned at h
      simp only [Option.map_some, Group.mk.injEq, Option.some.injEq] at h
      obtain ⟨ht, hi, hc, -⟩ := h
      exact ⟨ht.symm, ⟨items, rfl, (Entry.describe_iff items g.items).mpr hi⟩, hc⟩

theorem SocialLink.describes_iff (d : SocialLink) (h : d.enabled = true)
    (s : SiteManifest.SocialLink) : d.Describes s ↔ s.draft = d := by
  obtain ⟨icon, link, enabled⟩ := d
  cases h
  constructor
  · rintro ⟨⟨word, hw, hicon⟩, hl⟩
    cases hw
    cases hl
    unfold SiteManifest.SocialLink.draft
    rw [Icon.name_of_ofName? hicon]
  · rintro ⟨⟩
    exact s.draft_describes

theorem LastUpdated.describes_iff (d : LastUpdated) (l : SiteManifest.LastUpdated) :
    d.Describes l ↔ l.draft = d.filled := by
  unfold SiteManifest.LastUpdated.draft SiteManifest.LabelFormat.draft filled
  simp only [LastUpdated.mk.injEq, Option.some.injEq, LabelFormat.mk.injEq]
  exact ⟨fun h => ⟨h.text.symm, h.date, h.time⟩, fun ⟨ht, hd, hm⟩ => ⟨ht.symm, hd, hm⟩⟩

/-- A label is described if the draft has one, and it says the same. -/
theorem LastUpdated.rel_describes_iff (d : Option LastUpdated) (l : Option SiteManifest.LastUpdated) :
    Option.Rel Describes d l ↔ l.map SiteManifest.LastUpdated.draft = d.map filled := by
  cases d with
  | none =>
    cases l with
    | none => exact ⟨fun _ => rfl, fun _ => .none⟩
    | some l => exact ⟨nofun, nofun⟩
  | some d =>
    cases l with
    | none => exact ⟨nofun, nofun⟩
    | some l =>
      rw [Option.rel_some_some, LastUpdated.describes_iff, Option.map_some, Option.map_some,
        Option.some.injEq]

theorem Theme.describes_iff (d : Theme) (t : SiteManifest.Theme) :
    d.Describes t ↔ t.draft = d.pruned.filled := by
  have hsidebar := forall₂_filter_iff Group.describes_iff (d.sidebar.getD []) t.sidebar
  have hlinks := forall₂_filter_iff (f := id) SocialLink.describes_iff (d.socialLinks.getD [])
    t.socialLinks
  rw [List.map_id] at hlinks
  have hlast := LastUpdated.rel_describes_iff d.lastUpdated t.lastUpdated
  unfold SiteManifest.Theme.draft pruned filled
  simp only [Theme.mk.injEq, Option.some.injEq]
  rw [getD_map_of_nil rfl, getD_map_of_nil rfl, getD_map_of_nil rfl, ← Entry.describe_iff, ← hsidebar,
    ← hlinks, ← hlast]
  exact ⟨fun h => ⟨h.nav, h.sidebar, h.socialLinks, h.lastUpdated⟩,
    fun ⟨hn, hs, hl, hu⟩ => ⟨hn, hs, hl, hu⟩⟩

theorem Site.describes_iff (d : Site) (s : SiteManifest.Site) :
    d.Describes s ↔ s.draft = d.pruned.filled := by
  have htheme : (d.theme.map Theme.pruned).getD ⟨none, none, none, none⟩
      = (d.theme.getD ⟨none, none, none, none⟩).pruned := by
    cases d.theme with
    | none => rfl
    | some t => rfl
  unfold SiteManifest.Site.draft pruned filled
  simp only [Site.mk.injEq, Option.some.injEq]
  rw [htheme, ← Theme.describes_iff]
  exact ⟨fun h => ⟨h.title.symm, h.description, h.basePath.symm, h.theme⟩,
    fun ⟨ht, hd, hb, hv⟩ => ⟨ht.symm, hd, hb.symm, hv⟩⟩

end Draft

/-- **Validation keeps what is switched on and fills in what is left out**, and it changes nothing
else: it ends with the valid site that says what the draft says without its disabled entries. -/
theorem kept_by_validation (d : Draft.Site) (s : Site) :
    (Validation.site d).result = .ok s ↔ s.draft = d.pruned.filled ∧ s.Valid := by
  rw [Validation.site_eq_ok, Draft.Site.describes_iff]

/-- The entry that is switched off goes; the description, two lists and the style of dates are filled
in. -/
example :
    (Draft.Site.pruned ⟨some "Docs", none, some "/",
      some ⟨some [⟨none, none, false⟩, ⟨some "Home", some "/", true⟩], none, none,
        some ⟨some "Changed", some ⟨none, some .short⟩⟩⟩⟩).filled
    = ⟨some "Docs", some "", some "/",
      some ⟨some [⟨some "Home", some "/", true⟩], some [], some [],
        some ⟨some "Changed", some ⟨some .full, some .short⟩⟩⟩⟩ := by rfl

end SiteManifest
