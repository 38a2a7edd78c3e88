import SiteManifest.Site.Basic
import SiteManifest.Site.Link

/-!
# Valid sites

What is true of every site that is had in any way: its texts show, its base path and the links of its
pages stay inside the site, and its social links are addresses by themselves. These are properties of
the texts alone; the tests that validation makes are shown to decide them.
-/

namespace SiteManifest

/-! ## Texts -/

/-- A text shows if it holds anything but white space. -/
def Text.Shows (s : String) : Prop := ∃ c ∈ s.toList, isBlankChar c = false

theorem Text.shows_iff {s : String} : Shows s ↔ isBlank s = false := by
  unfold Shows isBlank
  rw [List.all_eq_false]
  simp only [Bool.not_eq_true]

instance (s : String) : Decidable (Text.Shows s) :=
  decidable_of_iff (Text.isBlank s = false) Text.shows_iff.symm

/-- A text that starts with a character that is not blank shows. -/
theorem Text.shows_of_head {s : String} {c : Char} (h : s.toList.head? = some c)
    (hc : isBlankChar c = false) : Shows s :=
  ⟨c, List.mem_of_head? h, hc⟩

/-- The ends of a text are free of white space and controls. -/
structure Text.Unpadded (s : String) : Prop where
  first : ∀ c ∈ s.toList.head?, isBlankChar c = false ∧ isControlChar c = false
  last : ∀ c ∈ s.toList.getLast?, isBlankChar c = false ∧ isControlChar c = false

theorem Text.unpadded_iff {s : String} : Unpadded s ↔ isPadded s = false := by
  unfold isPadded
  rw [Bool.or_eq_false_iff, Option.any_eq_false, Option.any_eq_false]
  simp only [isPadding, Bool.or_eq_false_iff]
  exact ⟨fun h => ⟨h.first, h.last⟩, fun h => ⟨h.1, h.2⟩⟩

/-! ## Links -/

/-- A base path starts and ends with a slash. -/
structure IsBasePath (path : String) : Prop where
  start : ['/'] <+: path.toList
  finish : ['/'] <:+ path.toList

theorem isBasePath_iff {path : String} : isBasePath path = true ↔ IsBasePath path := by
  unfold isBasePath
  rw [Bool.and_eq_true, beq_iff_eq, beq_iff_eq, ← List.singleton_prefix_iff_head?_eq_some,
    ← List.singleton_suffix_iff_getLast?_eq_some]
  exact ⟨fun h => ⟨h.1, h.2⟩, fun h => ⟨h.start, h.finish⟩⟩

instance (path : String) : Decidable (IsBasePath path) := decidable_of_iff _ isBasePath_iff

/-- The link of a page starts with one slash, and with one only. -/
structure IsPageLink (link : String) : Prop where
  rooted : ['/'] <+: link.toList
  single : ¬['/', '/'] <+: link.toList

/-- The link of a page is never blank, since its slash shows. -/
theorem IsPageLink.shows {link : String} (h : IsPageLink link) : Text.Shows link :=
  Text.shows_of_head (List.singleton_prefix_iff_head?_eq_some.mp h.rooted) (by decide)

theorem pageLinkFlaw?_eq_none {link : String} : pageLinkFlaw? link = none ↔ IsPageLink link := by
  constructor
  · intro h
    unfold pageLinkFlaw? at h
    split at h
    · cases h
    · split at h
      · cases h
      · next hroot =>
        split at h
        · cases h
        · next hsingle =>
          rw [ne_eq, Decidable.not_not] at hroot
          rw [List.isPrefixOf_iff_prefix] at hsingle
          exact ⟨List.singleton_prefix_iff_head?_eq_some.mpr hroot, hsingle⟩
  · intro h
    unfold pageLinkFlaw?
    rw [if_neg (by rw [Text.shows_iff.mp h.shows]; exact Bool.false_ne_true),
      if_neg (Decidable.not_not.mpr (List.singleton_prefix_iff_head?_eq_some.mp h.rooted)),
      if_neg (by rw [List.isPrefixOf_iff_prefix]; exact h.single)]

instance (link : String) : Decidable (IsPageLink link) := decidable_of_iff _ pageLinkFlaw?_eq_none

/-- A social link is an address by itself, and stands alone in its text. -/
structure IsAddress (link : String) : Prop where
  shows : Text.Shows link
  unpadded : Text.Unpadded link
  absolute : Url.isAbsolute link = true

theorem socialLinkFlaw?_eq_none {link : String} :
    socialLinkFlaw? link = none ↔ IsAddress link := by
  constructor
  · intro h
    unfold socialLinkFlaw? at h
    split at h
    · cases h
    · next hshows =>
      split at h
      · cases h
      · next hpadded =>
        split at h
        · cases h
        · next habsolute =>
          exact ⟨Text.shows_iff.mpr (by simpa using hshows),
            Text.unpadded_iff.mpr (by simpa using hpadded), by simpa using habsolute⟩
  · intro h
    unfold socialLinkFlaw?
    rw [if_neg (by rw [Text.shows_iff.mp h.shows]; exact Bool.false_ne_true),
      if_neg (by rw [Text.unpadded_iff.mp h.unpadded]; exact Bool.false_ne_true),
      if_neg (by rw [h.absolute]; exact Bool.false_ne_true)]

instance (link : String) : Decidable (IsAddress link) := decidable_of_iff _ socialLinkFlaw?_eq_none

/-! ## Parts of a site -/

/-- A valid entry. -/
structure Entry.Valid (e : Entry) : Prop where
  text : Text.Shows e.text
  link : IsPageLink e.link

instance (e : Entry) : Decidable e.Valid :=
  decidable_of_iff (Text.Shows e.text ∧ IsPageLink e.link)
    ⟨fun ⟨ht, hl⟩ => ⟨ht, hl⟩, fun h => ⟨h.text, h.link⟩⟩

/-- A valid group, which may have no items. -/
structure Group.Valid (g : Group) : Prop where
  text : Text.Shows g.text
  items : ∀ e ∈ g.items, e.Valid

instance (g : Group) : Decidable g.Valid :=
  decidable_of_iff (Text.Shows g.text ∧ ∀ e ∈ g.items, e.Valid)
    ⟨fun ⟨ht, hi⟩ => ⟨ht, hi⟩, fun h => ⟨h.text, h.items⟩⟩

/-- A valid social link. Every icon is. -/
structure SocialLink.Valid (s : SocialLink) : Prop where
  link : IsAddress s.link

instance (s : SocialLink) : Decidable s.Valid :=
  decidable_of_iff (IsAddress s.link) ⟨fun h => ⟨h⟩, fun h => h.link⟩

/-- A valid label of changed pages. Every format is. -/
structure LastUpdated.Valid (l : LastUpdated) : Prop where
  text : Text.Shows l.text

instance (l : LastUpdated) : Decidable l.Valid :=
  decidable_of_iff (Text.Shows l.text) ⟨fun h => ⟨h⟩, fun h => h.text⟩

/-- A valid theme. -/
structure Theme.Valid (t : Theme) : Prop where
  nav : ∀ e ∈ t.nav, e.Valid
  sidebar : ∀ g ∈ t.sidebar, g.Valid
  socialLinks : ∀ s ∈ t.socialLinks, s.Valid
  lastUpdated : ∀ l ∈ t.lastUpdated, l.Valid

instance (t : Theme) : Decidable t.Valid :=
  decidable_of_iff
    ((∀ e ∈ t.nav, e.Valid) ∧ (∀ g ∈ t.sidebar, g.Valid) ∧ (∀ s ∈ t.socialLinks, s.Valid)
      ∧ ∀ l ∈ t.lastUpdated, l.Valid)
    ⟨fun ⟨hn, hs, hl, hu⟩ => ⟨hn, hs, hl, hu⟩,
      fun h => ⟨h.nav, h.sidebar, h.socialLinks, h.lastUpdated⟩⟩

/-- A valid site. Every description is. -/
structure Site.Valid (s : Site) : Prop where
  title : Text.Shows s.title
  basePath : IsBasePath s.basePath
  theme : s.theme.Valid

instance (s : Site) : Decidable s.Valid :=
  decidable_of_iff (Text.Shows s.title ∧ IsBasePath s.basePath ∧ s.theme.Valid)
    ⟨fun ⟨ht, hb, hv⟩ => ⟨ht, hb, hv⟩, fun h => ⟨h.title, h.basePath, h.theme⟩⟩

end SiteManifest
