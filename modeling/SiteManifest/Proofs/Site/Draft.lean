import SiteManifest.Proofs.Shape.Record
import SiteManifest.Proofs.Validation.Success

/-!
# The draft of a site

A site is the draft that gives all it can give and switches nothing off. What a site is written as has
the shape of a draft, and is read as this draft: the keys that are written are those that are read, and
what is left out is what may be absent. The draft of a site describes the site.
-/

namespace SiteManifest

/-! ## Drafts of parts -/

/-- The draft of an entry. -/
def Entry.draft (e : Entry) : Draft.Entry := ⟨some e.text, some e.link, true⟩

/-- The draft of a group. -/
def Group.draft (g : Group) : Draft.Group :=
  ⟨some g.text, some (g.items.map Entry.draft), g.collapsed, true⟩

/-- The draft of a social link. -/
def SocialLink.draft (s : SocialLink) : Draft.SocialLink :=
  ⟨some s.icon.name, some s.link, true⟩

/-- The draft of a format. -/
def LabelFormat.draft (f : LabelFormat) : Draft.LabelFormat := ⟨some f.date, some f.time⟩

/-- The draft of a label. -/
def LastUpdated.draft (l : LastUpdated) : Draft.LastUpdated := ⟨some l.text, some l.format.draft⟩

/-- The draft of a theme. -/
def Theme.draft (t : Theme) : Draft.Theme :=
  ⟨some (t.nav.map Entry.draft), some (t.sidebar.map Group.draft),
    some (t.socialLinks.map SocialLink.draft), t.lastUpdated.map LastUpdated.draft⟩

/-- The draft of a site. -/
def Site.draft (s : Site) : Draft.Site :=
  ⟨some s.title, some s.description, some s.basePath, some s.theme.draft⟩

/-! ## The draft of a site describes it -/

/-- A list of which every part is described by its draft is described by the drafts, since all of them
are enabled. -/
theorem describes_list {α β : Type} {D : β → α → Prop} {draft : α → β} {enabled : β → Bool}
    (hD : ∀ x, D (draft x) x) (he : ∀ x, enabled (draft x) = true) :
    ∀ xs : List α, List.Forall₂ D ((xs.map draft).filter enabled) xs
  | [] => .nil
  | x :: xs => by
    rw [List.map_cons, List.filter_cons_of_pos (he x)]
    exact .cons (hD x) (describes_list hD he xs)

theorem Entry.draft_describes (e : Entry) : e.draft.Describes e := ⟨rfl, rfl⟩

theorem Group.draft_describes (g : Group) : g.draft.Describes g :=
  ⟨rfl, ⟨_, rfl, describes_list Entry.draft_describes (fun _ => rfl) g.items⟩, rfl⟩

theorem Icon.name_of_ofName? {word : String} {i : Icon} (h : ofName? word = some i) :
    i.name = word := by
  have hname := List.find?_some h
  rwa [beq_iff_eq] at hname

theorem Icon.ofName?_name (i : Icon) : ofName? i.name = some i := by
  cases i <;> decide

theorem SocialLink.draft_describes (s : SocialLink) : s.draft.Describes s :=
  ⟨⟨_, rfl, Icon.ofName?_name s.icon⟩, rfl⟩

theorem LastUpdated.draft_describes (l : LastUpdated) : l.draft.Describes l := ⟨rfl, rfl, rfl⟩

theorem Theme.draft_describes (t : Theme) : t.draft.Describes t where
  nav := describes_list Entry.draft_describes (fun _ => rfl) t.nav
  sidebar := describes_list Group.draft_describes (fun _ => rfl) t.sidebar
  socialLinks := describes_list SocialLink.draft_describes (fun _ => rfl) t.socialLinks
  lastUpdated := by
    show Option.Rel _ (t.lastUpdated.map LastUpdated.draft) t.lastUpdated
    cases t.lastUpdated with
    | none => exact .none
    | some l => exact .some l.draft_describes

theorem Site.draft_describes (s : Site) : s.draft.Describes s :=
  ⟨rfl, rfl, rfl, s.theme.draft_describes⟩

/-! ## A written site is read as its draft -/

namespace Shape.Decoder

/-- What is written item by item is read item by item. -/
theorem ofJson_list_map {α β : Type} {d : Decoder α} {write : β → Json} {f : β → α}
    (h : ∀ x, d.ofJson (write x) = .ok (f x)) :
    ∀ xs : List β, d.list.ofJson (.array (xs.map write)) = .ok (xs.map f)
  | [] => rfl
  | x :: xs => by
    have ih : (xs.map write).mapM d.ofJson = .ok (xs.map f) := ofJson_list_map h xs
    show ((x :: xs).map write).mapM d.ofJson = _
    rw [List.map_cons, List.mapM_cons, h x, ih]
    rfl

end Shape.Decoder

namespace Draft

open Shape Record

theorem Entry.ofJson_toJson (e : SiteManifest.Entry) :
    Entry.record.decoder.ofJson e.toJson = .ok e.draft := rfl

theorem SocialLink.ofJson_toJson (s : SiteManifest.SocialLink) :
    SocialLink.record.decoder.ofJson s.toJson = .ok s.draft := rfl

theorem LabelFormat.ofJson_toJson (f : SiteManifest.LabelFormat) :
    LabelFormat.record.decoder.ofJson f.toJson = .ok f.draft := by
  obtain ⟨date, time⟩ := f
  cases date <;> cases time <;> rfl

/-- The fields that hold more than a text are stored by what is known about their values. -/
theorem LastUpdated.ofJson_toJson (l : SiteManifest.LastUpdated) :
    LastUpdated.record.decoder.ofJson l.toJson = .ok l.draft := by
  have hformat := LabelFormat.ofJson_toJson l.format
  refine ofMembers_eq_ok.mpr ?_
  exact .cons (storeMember_of_some rfl (Field.ofJson_ofOption rfl hformat) _) (.cons rfl .nil)

theorem Group.ofJson_toJson (g : SiteManifest.Group) :
    Group.record.decoder.ofJson g.toJson = .ok g.draft := by
  have hitems := Decoder.ofJson_list_map Entry.ofJson_toJson g.items
  obtain ⟨text, items, collapsed⟩ := g
  refine ofMembers_eq_ok.mpr ?_
  cases collapsed with
  | none =>
    exact .cons rfl (.cons rfl
      (.cons (storeMember_of_some rfl (Field.ofJson_ofOption rfl hitems) _) (.cons rfl .nil)))
  | some b =>
    exact .cons rfl (.cons rfl
      (.cons (storeMember_of_some rfl (Field.ofJson_ofOption rfl hitems) _) (.cons rfl .nil)))

theorem Theme.ofJson_toJson (t : SiteManifest.Theme) :
    Theme.record.decoder.ofJson t.toJson = .ok t.draft := by
  have hnav := Decoder.ofJson_list_map Entry.ofJson_toJson t.nav
  have hsidebar := Decoder.ofJson_list_map Group.ofJson_toJson t.sidebar
  have hlinks := Decoder.ofJson_list_map SocialLink.ofJson_toJson t.socialLinks
  obtain ⟨nav, sidebar, links, last⟩ := t
  refine ofMembers_eq_ok.mpr ?_
  cases last with
  | none =>
    exact .cons rfl
      (.cons (storeMember_of_some rfl (Field.ofJson_ofOption rfl hnav) _)
        (.cons (storeMember_of_some rfl (Field.ofJson_ofOption rfl hsidebar) _)
          (.cons (storeMember_of_some rfl (Field.ofJson_ofOption rfl hlinks) _) .nil)))
  | some l =>
    have hlast := LastUpdated.ofJson_toJson l
    exact .cons (storeMember_of_some rfl (Field.ofJson_ofOption rfl hlast) _)
      (.cons (storeMember_of_some rfl (Field.ofJson_ofOption rfl hnav) _)
        (.cons (storeMember_of_some rfl (Field.ofJson_ofOption rfl hsidebar) _)
          (.cons (storeMember_of_some rfl (Field.ofJson_ofOption rfl hlinks) _) .nil)))

/-- **A written site is read as its draft.** -/
theorem Site.ofJson_toJson (s : SiteManifest.Site) : Site.ofJson s.toJson = .ok s.draft := by
  have htheme := Theme.ofJson_toJson s.theme
  refine ofMembers_eq_ok.mpr ?_
  exact .cons rfl (.cons rfl
    (.cons (storeMember_of_some rfl (Field.ofJson_ofOption rfl htheme) _) (.cons rfl .nil)))

end Draft

end SiteManifest
