import SiteManifest.Proofs.Validation.Kept
import SiteManifest.Site.Navigation

/-!
# Groups of pages

Which group of the sidebar a page belongs to, said by the draft that the site is made of: the first
enabled group that has an enabled item with the path of the page for a link. Validation drops what is
switched off at both levels, so neither a group nor an item that is switched off has any influence.

The groups of the site are those of the draft that are enabled, without their disabled items. So looking
for a group in the site is looking for it in the draft (`groupFor_eq`).
-/

namespace SiteManifest

/-! ## Groups of a draft -/

namespace Draft

/-- The groups of a draft, with those that are switched off. -/
def Site.groups (d : Site) : List Group := (d.theme.bind (·.sidebar)).getD []

/-- A group links to a page: it is enabled, and so is one of its items with the path for a link. -/
def Group.LinksTo (g : Group) (path : String) : Prop :=
  g.enabled = true ∧ ∃ e ∈ g.items.getD [], e.enabled = true ∧ e.link = some path

instance (g : Group) (path : String) : Decidable (g.LinksTo path) :=
  inferInstanceAs
    (Decidable (g.enabled = true ∧ ∃ e ∈ g.items.getD [], e.enabled = true ∧ e.link = some path))

theorem Group.getD_items_pruned (g : Group) :
    g.pruned.items.getD [] = (g.items.getD []).filter (·.enabled) :=
  getD_map_of_nil rfl _

/-- Without its disabled items a group links to the same pages. -/
theorem Group.linksTo_pruned {g : Group} {path : String} :
    g.pruned.LinksTo path ↔ g.LinksTo path := by
  unfold LinksTo
  rw [g.getD_items_pruned]
  simp only [List.mem_filter, and_assoc, and_self_left]
  rfl

end Draft

/-- A group of a site has an item for the pages that its draft links to. -/
theorem Group.linksTo_draft {g : Group} {path : String} :
    g.draft.LinksTo path ↔ g.items.any (·.link == path) = true := by
  unfold Draft.Group.LinksTo Group.draft
  simp [Entry.draft]

/-! ## The group of a page -/

namespace Draft

variable {d : Site} {s : SiteManifest.Site}

/-- A list of a theme that is not given has no entries, and neither has one of a theme that is not given. -/
theorem Site.getD_list {α : Type} (d : Site) {f : Theme → Option (List α)}
    (hf : f ⟨none, none, none, none⟩ = none) :
    (f (d.theme.getD ⟨none, none, none, none⟩)).getD [] = (d.theme.bind f).getD [] := by
  cases d.theme with
  | none => rw [Option.getD_none, hf, Option.bind_none]
  | some t => rfl

/-- The groups of a site are the enabled ones of the draft, without their disabled items. -/
theorem Site.Describes.map_draft_sidebar (h : d.Describes s) :
    s.theme.sidebar.map SiteManifest.Group.draft
      = (d.groups.filter (·.enabled)).map Group.pruned := by
  have hgroups : (d.theme.getD ⟨none, none, none, none⟩).sidebar.getD [] = d.groups := d.getD_list rfl
  rw [← hgroups]
  exact (forall₂_filter_iff Group.describes_iff _ _).mp h.theme.sidebar

/-- **Looking for a group in the site is looking for it in the draft.** -/
theorem Site.Describes.groupFor_eq (h : d.Describes s) (path : String) :
    (s.theme.groupFor path).map SiteManifest.Group.draft
      = (d.groups.find? fun g => decide (g.LinksTo path)).map Group.pruned := by
  have hsite : (fun g : SiteManifest.Group => g.items.any (·.link == path))
      = (fun g => decide (Group.LinksTo g path)) ∘ SiteManifest.Group.draft := by
    funext g
    rw [Function.comp_apply, Bool.eq_iff_iff, decide_eq_true_iff, Group.linksTo_draft]
  unfold Theme.groupFor
  rw [hsite, ← List.find?_map, h.map_draft_sidebar, List.find?_map, List.find?_filter]
  refine congrArg (Option.map Group.pruned) (congrArg (List.find? · d.groups) (funext fun g => ?_))
  -- a group that links to a page is enabled, so the filter asks for nothing more
  rw [decide_eq_decide, Function.comp_apply, decide_eq_true_iff, Group.linksTo_pruned]
  exact and_iff_right_of_imp (·.1)

theorem Site.Describes.exists_groupFor_iff (h : d.Describes s) (path : String) :
    (∃ g, s.theme.groupFor path = some g) ↔ ∃ group ∈ d.groups, group.LinksTo path := by
  rw [← Option.isSome_iff_exists, ← Option.isSome_map, h.groupFor_eq path, Option.isSome_map,
    List.find?_isSome]
  simp only [decide_eq_true_iff]

/-- The group of a page is that of a draft before which no other one links to the page. -/
theorem Site.Describes.exists_first_of_groupFor (h : d.Describes s) {path : String}
    {g : SiteManifest.Group} (hg : s.theme.groupFor path = some g) :
    ∃ earlier group later, d.groups = earlier ++ group :: later ∧ group.LinksTo path
      ∧ (∀ other ∈ earlier, ¬other.LinksTo path) ∧ g.draft = group.pruned := by
  have hfound := h.groupFor_eq path
  rw [hg, Option.map_some, eq_comm, Option.map_eq_some_iff] at hfound
  obtain ⟨group, hfind, hpruned⟩ := hfound
  obtain ⟨hlinks, earlier, later, hgroups, hearlier⟩ := List.find?_eq_some_iff_append.mp hfind
  exact ⟨earlier, group, later, hgroups, by simpa using hlinks, by simpa using hearlier, hpruned.symm⟩

end Draft

/-- The page of an item has a group, which is the group of the item or stands before it. -/
theorem Theme.exists_groupFor_of_item {t : Theme} {i : Nat} {g : Group} {e : Entry}
    (hg : t.sidebar[i]? = some g) (he : e ∈ g.items) :
    ∃ j found, j ≤ i ∧ t.sidebar[j]? = some found ∧ t.groupFor e.link = some found := by
  have hany : g.items.any (·.link == e.link) = true :=
    List.any_eq_true.mpr ⟨e, he, beq_self_eq_true _⟩
  have hsome : (t.groupFor e.link).isSome = true :=
    List.find?_isSome.mpr ⟨g, List.mem_of_getElem? hg, hany⟩
  obtain ⟨found, hfound⟩ := Option.isSome_iff_exists.mp hsome
  obtain ⟨-, earlier, later, hsidebar, hearlier⟩ := List.find?_eq_some_iff_append.mp hfound
  refine ⟨earlier.length, found, ?_, by simp [hsidebar], hfound⟩
  -- a group before the one that is found has no such item
  by_contra hlt
  rw [hsidebar, List.getElem?_append_left (Nat.lt_of_not_le hlt)] at hg
  have hnone := hearlier g (List.mem_of_getElem? hg)
  rw [hany] at hnone
  cases hnone

/-- **A page belongs to the first group that links to it**, as the draft has them: there is one exactly if
an enabled item of an enabled group has the path of the page for a link, and of this group the enabled
items are left. What is switched off is not found, and the page of an item always has a group. -/
theorem group_of_page {d : Draft.Site} {s : Site} (h : (Validation.site d).result = .ok s)
    (path : String) :
    ((∃ g, s.theme.groupFor path = some g) ↔ ∃ group ∈ d.groups, group.LinksTo path)
      ∧ (∀ g, s.theme.groupFor path = some g →
        ∃ earlier group later, d.groups = earlier ++ group :: later ∧ group.LinksTo path
          ∧ (∀ other ∈ earlier, ¬other.LinksTo path) ∧ g.draft = group.pruned)
      ∧ ((∀ group ∈ d.groups, ∀ e ∈ group.items.getD [], e.link = some path →
          group.enabled = false ∨ e.enabled = false) →
        s.theme.groupFor path = none)
      ∧ ∀ (i : Nat) (g : Group) (e : Entry), s.theme.sidebar[i]? = some g → e ∈ g.items →
        ∃ j found, j ≤ i ∧ s.theme.sidebar[j]? = some found
          ∧ s.theme.groupFor e.link = some found := by
  have hdescribes := ((Validation.site_eq_ok d s).mp h).1
  refine ⟨hdescribes.exists_groupFor_iff path, fun g => hdescribes.exists_first_of_groupFor, ?_, ?_⟩
  · intro hoff
    rw [← Option.not_isSome_iff_eq_none, Option.isSome_iff_exists,
      hdescribes.exists_groupFor_iff path]
    rintro ⟨group, hgroup, hon, e, he, heon, hlink⟩
    rcases hoff group hgroup e he hlink with hoff | hoff
    · rw [hon] at hoff
      cases hoff
    · rw [heon] at hoff
      cases hoff
  · intro i g e hg he
    exact Theme.exists_groupFor_of_item hg he

/-- A page that is listed four times: in a group that is switched off, as an item that is switched off,
and in two groups that count. A page that is listed once, as an item that is switched off, has no group. -/
theorem group_of_page_listed :
    let item (link : String) (enabled : Bool) : Draft.Entry := ⟨some "Page", some link, enabled⟩
    let group (text : String) (items : List Draft.Entry) (enabled : Bool) : Draft.Group :=
      ⟨some text, some items, none, enabled⟩
    let groups := [group "Old" [item "/a" true] false, group "One" [item "/a" false, item "/b" true] true,
      group "Two" [item "/c" false, item "/a" true] true, group "Three" [item "/a" true] true]
    let d : Draft.Site := ⟨some "Docs", none, some "/", some ⟨none, some groups, none, none⟩⟩
    let s : Site := ⟨"Docs", "", "/", ⟨[], [⟨"One", [⟨"Page", "/b"⟩], none⟩,
      ⟨"Two", [⟨"Page", "/a"⟩], none⟩, ⟨"Three", [⟨"Page", "/a"⟩], none⟩], [], none⟩⟩
    (Validation.site d).result = .ok s
      ∧ (∃ g, s.theme.groupFor "/a" = some g ∧ g.text = "Two")
      ∧ s.theme.groupFor "/c" = none
      ∧ ∃ j found, j ≤ 2 ∧ s.theme.sidebar[j]? = some found ∧ s.theme.groupFor "/a" = some found := by
  intro item group groups d s
  have hsite : (Validation.site d).result = .ok s := rfl
  have hlinks : ∃ g ∈ d.groups, g.LinksTo "/a" := by decide
  refine ⟨hsite, ?_, ?_, ?_⟩
  · obtain ⟨g, hg⟩ := (group_of_page hsite "/a").1.mpr hlinks
    refine ⟨g, hg, ?_⟩
    cases hg
    rfl
  · exact (group_of_page hsite "/c").2.2.1 (by decide)
  · exact (group_of_page hsite "/a").2.2.2 2 ⟨"Three", [⟨"Page", "/a"⟩], none⟩ ⟨"Page", "/a"⟩ rfl
      (by decide)

end SiteManifest
