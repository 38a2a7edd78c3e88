import SiteManifest.CommandLine.Run
import SiteManifest.Proofs.Draft.Text
import SiteManifest.Proofs.Expansion
import SiteManifest.Proofs.Json.Printing
import SiteManifest.Proofs.Loading.Effective

/-!
# Printed sites

A loaded site that is printed is loaded again from its text, whatever its strings hold and in either
layout. As a text without expansion it gives the same site. As a text in a format its title, its
description and its base path are expanded once more, so it gives the same site if none of the three
holds the start of a reference.
-/

namespace SiteManifest

open Json (Layout Tidy)

/-! ## Written sites are tidy -/

theorem tidy_map {α : Type} {write : α → Json} {d : Nat} (h : ∀ x, Tidy d (write x))
    (xs : List α) : Tidy (d + 1) (.array (xs.map write)) := by
  refine .array ?_
  intro v hv
  obtain ⟨x, -, rfl⟩ := List.mem_map.mp hv
  exact h x

theorem Entry.tidy_toJson (d : Nat) (e : Entry) : Tidy (d + 1) e.toJson :=
  .object (by simp) (by simp [Tidy.string])

theorem Group.tidy_toJson (d : Nat) (g : Group) : Tidy (d + 3) g.toJson := by
  have hitems := tidy_map (Entry.tidy_toJson d) g.items
  obtain ⟨text, items, collapsed⟩ := g
  cases collapsed with
  | none => exact .object (by simp [optionalMember]) (by simp [optionalMember, Tidy.string, hitems])
  | some b =>
    exact .object (by simp [optionalMember])
      (by simp [optionalMember, Tidy.string, Tidy.bool, hitems])

theorem SocialLink.tidy_toJson (d : Nat) (s : SocialLink) : Tidy (d + 1) s.toJson :=
  .object (by simp) (by simp [Tidy.string])

theorem LabelFormat.tidy_toJson (d : Nat) (f : LabelFormat) : Tidy (d + 1) f.toJson :=
  .object (by simp) (by simp [Tidy.string])

theorem LastUpdated.tidy_toJson (d : Nat) (l : LastUpdated) : Tidy (d + 2) l.toJson :=
  .object (by simp) (by simp [Tidy.string, l.format.tidy_toJson d])

theorem Theme.tidy_toJson (d : Nat) (t : Theme) : Tidy (d + 5) t.toJson := by
  have hnav := tidy_map (Entry.tidy_toJson (d + 2)) t.nav
  have hsidebar := tidy_map (Group.tidy_toJson d) t.sidebar
  have hlinks := tidy_map (SocialLink.tidy_toJson (d + 2)) t.socialLinks
  obtain ⟨nav, sidebar, links, last⟩ := t
  cases last with
  | none =>
    exact .object (by simp [optionalMember]) (by simp [optionalMember, hnav, hsidebar, hlinks])
  | some l =>
    have hlast := l.tidy_toJson (d + 2)
    exact .object (by simp [optionalMember])
      (by simp [optionalMember, hnav, hsidebar, hlinks, hlast])

/-- A site is written without numbers and with six levels. -/
theorem Site.tidy_toJson (s : Site) : Tidy 6 s.toJson :=
  .object (by simp) (by simp [Tidy.string, s.theme.tidy_toJson 0])

/-! ## Printed texts -/

/-- A text that `dump` writes for a site, with or without its last line end. -/
inductive Site.Printed (s : Site) : String → Prop where
  | bare (layout : Layout) : Printed s (s.toJson.print layout)
  | line (layout : Layout) (colours : Bool) (now : Calendar.Moment) (path : FilePath) :
    Printed s ((Command.dump layout).write colours now path s).1

/-- A printed text spells what the site is written as, and nothing but a line end follows. -/
theorem Site.Printed.spells {s : Site} {text : String} (h : s.Printed text) :
    ∃ rest, Json.Spells text.toList s.toJson rest ∧ Json.Read.skipBlanks rest = [] := by
  cases h with
  | bare layout =>
    have hspells := s.tidy_toJson.spells_print layout ""
    rw [String.append_empty] at hspells
    exact ⟨_, hspells, rfl⟩
  | line layout => exact ⟨_, s.tidy_toJson.spells_print layout "\n", rfl⟩

/-- The value that a printed text holds. -/
theorem Site.Printed.ofText_eq_ok {s : Site} {text : String} (h : s.Printed text) :
    Json.ofText text = .ok s.toJson := by
  obtain ⟨rest, hspells, hend⟩ := h.spells
  have hdepth : s.toJson.depth ≤ Json.maxDepth := Nat.le_trans s.tidy_toJson.depth_le (by decide)
  exact Json.ofText_of_spells hspells hend hdepth

/-- The draft that a printed text holds, read without building the value first. -/
theorem Site.Printed.draft_eq_ok {s : Site} {text : String} (h : s.Printed text) :
    Draft.Site.ofText text = .ok s.draft := by
  obtain ⟨rest, hspells, hend⟩ := h.spells
  exact Draft.Site.ofText_eq_ok hspells hend s.tidy_toJson.keysDistinct
    (Draft.Site.ofJson_toJson s)

/-! ## Loading printed texts -/

theorem Loading.ofJsonText_printed {s : Site} {text : String} (h : s.Printed text)
    (hvalid : s.Valid) : (ofJsonText text).result = .ok s :=
  ofJsonText_eq_ok.mpr ⟨s.draft, h.draft_eq_ok, s.draft_describes, hvalid⟩

theorem Loading.ofDraft_draft {s : Site} (hvalid : s.Valid) :
    (ofDraft s.draft).result = .ok s :=
  ofDraft_eq_ok.mpr ⟨s.draft_describes, hvalid⟩

/-- The only definition of a printed text is expanded and validated. -/
theorem Loading.ofText_printed {s : Site} {text : String} (h : s.Printed text)
    (env : Environment) :
    (ofText env .json text).result = s.expand env >>= fun s' => (ofDraft s'.draft).result := by
  have hdefinitions : Format.definitions .json text = .ok [s.toJson] := by
    unfold Format.definitions
    rw [h.ofText_eq_ok]
  -- the list of definitions has one element, which is the last
  rw [ofText_of_effective (v := s.toJson) hdefinitions rfl]
  unfold ofDefinition
  rw [Draft.Site.ofJson_toJson]
  cases hexpand : s.expand env with
  | error e =>
    have hdraft : Expansion.site env s.draft = .error e := by
      rw [Site.expand_draft, hexpand]
      rfl
    exact Traced.result_bind_of_error hdraft _
  | ok s' =>
    have hdraft : Expansion.site env s.draft = .ok s'.draft := by
      rw [Site.expand_draft, hexpand]
      rfl
    exact Traced.result_bind_of_ok hdraft _

/-- **A printed site is loaded again.** As a text it gives the same site; as a text in a format it gives
what its expansion describes, which is the same site if nothing in it refers to a variable. -/
theorem loaded_from_printed {s : Site} {text : String} (h : s.Loaded) (ht : s.Printed text) :
    (Loading.ofJsonText text).result = .ok s
      ∧ (∀ env, (Loading.ofText env .json text).result
        = s.expand env >>= fun s' => (Loading.ofDraft s'.draft).result)
      ∧ (¬['$', '\x7b'] <:+: s.title.toList → ¬['$', '\x7b'] <:+: s.description.toList →
        ¬['$', '\x7b'] <:+: s.basePath.toList →
          ∀ env, (Loading.ofText env .json text).result = .ok s) := by
  obtain ⟨_, -, hvalid⟩ := h.exists_draft
  refine ⟨Loading.ofJsonText_printed ht hvalid, Loading.ofText_printed ht, ?_⟩
  intro htitle hdescription hbase env
  rw [Loading.ofText_printed ht, Site.expand_of_not_infix htitle hdescription hbase]
  exact Loading.ofDraft_draft hvalid

/-- A site with quotes, controls and dollars in its texts, and one that refers to a variable. -/
theorem loaded_from_printed_texts :
    let s : Site := ⟨"\"$HOME\" \\ $$", "\x00\n\x1f é 😀", "/$/",
      ⟨[⟨"Home", "/"⟩], [⟨"Empty", [], some true⟩], [⟨.x, "mailto:a@b"⟩],
        some ⟨"Changed", ⟨.long, .short⟩⟩⟩⟩
    let t : Site := ⟨"$\x7bNAME\x7d", "", "/", ⟨[], [], [], none⟩⟩
    (s.Loaded ∧ (Loading.ofJsonText (s.toJson.print .spread)).result = .ok s
        ∧ (Loading.ofText .empty .json (s.toJson.print .compact)).result = .ok s)
      ∧ t.Loaded ∧ (Loading.ofText .empty .json (t.toJson.print .compact)).result
        = .error (.unsetVariable (.top "title") "NAME") := by
  intro s t
  have hs : s.Loaded := .ofDraft (Loading.ofDraft_draft (by decide))
  have ht : t.Loaded := .ofDraft (Loading.ofDraft_draft (by decide))
  refine ⟨⟨hs, (loaded_from_printed hs (.bare .spread)).1, ?_⟩, ht, ?_⟩
  · -- whether a text holds a reference is decided by looking for one
    have hsame := (loaded_from_printed hs (.bare .compact)).2.2
    simp only [← Expansion.mentions_iff] at hsame
    exact hsame (by decide) (by decide) (by decide) .empty
  · rw [(loaded_from_printed ht (.bare .compact)).2.1]
    have hexpand : t.expand .empty = .error (.unsetVariable (.top "title") "NAME") := by decide +kernel
    rw [hexpand]
    rfl

end SiteManifest
