import Mathlib.Data.Option.Basic
import SiteManifest.Proofs.CommandLine.Agreement
import SiteManifest.Proofs.Site.Sidebar

/-!
# What a check reports

A check reports about the site that was loaded, but what it counts can be counted in the file: only what
is enabled, and of the items only those in enabled groups. It warns of a navigation without any enabled
entry and of every enabled group without any enabled item, whether the group has no items at all or all of
them are switched off.

The groups of the site are those of the draft that are enabled, without their disabled items
(`map_draft_sidebar`). So what is counted or picked in the sidebar of the site is counted or picked in the
draft.
-/

namespace SiteManifest

namespace Draft

/-! ## What a draft enables -/

/-- The entries of the navigation of a draft, with those that are switched off. -/
def Site.nav (d : Site) : List Entry := (d.theme.bind (·.nav)).getD []

/-- The social links of a draft, with those that are switched off. -/
def Site.socialLinks (d : Site) : List SocialLink := (d.theme.bind (·.socialLinks)).getD []

/-- The enabled items of a group. -/
def Group.enabledItems (g : Group) : List Entry := (g.items.getD []).filter (·.enabled)

/-- The enabled items of the enabled groups. -/
def Site.enabledItems (d : Site) : List Entry :=
  (d.groups.filter (·.enabled)).flatMap Group.enabledItems

/-- The enabled groups without an enabled item. -/
def Site.emptyGroups (d : Site) : List Group :=
  (d.groups.filter (·.enabled)).filter (·.enabledItems.isEmpty)

/-- What is counted in a draft, in lines of a report. -/
def Site.countLines (d : Site) : List String :=
  ["Nav entries: " ++ Decimal.natText (d.nav.countP (·.enabled)),
    "Sidebar: " ++ Decimal.natText (d.groups.countP (·.enabled)) ++ " groups, "
      ++ Decimal.natText d.enabledItems.length ++ " items",
    "Social links: " ++ Decimal.natText (d.socialLinks.countP (·.enabled))]

/-- The group that has only an item that is switched off is empty, the group that is switched off is not
looked at. -/
example :
    let off : Entry := ⟨none, none, false⟩
    let d : Site := ⟨none, none, none, some ⟨some [off], some [⟨some "A", some [off], none, true⟩,
      ⟨some "B", some [⟨none, none, true⟩], none, false⟩, ⟨some "C", some [], none, true⟩,
      ⟨some "D", some [off, ⟨none, none, true⟩], none, true⟩], none, none⟩⟩
    d.countLines = ["Nav entries: 0", "Sidebar: 3 groups, 1 items", "Social links: 0"]
      ∧ d.emptyGroups.map (·.text) = [some "A", some "C"] := by decide

/-! ## What is counted in a site -/

namespace Site.Describes

variable {d : Site} {s : SiteManifest.Site} (h : d.Describes s)

include h

theorem length_nav : s.theme.nav.length = d.nav.countP (·.enabled) := by
  rw [List.countP_eq_length_filter, ← h.theme.nav.length_eq, d.getD_list rfl]
  rfl

theorem length_sidebar : s.theme.sidebar.length = d.groups.countP (·.enabled) := by
  rw [List.countP_eq_length_filter, ← h.theme.sidebar.length_eq, d.getD_list rfl]
  rfl

theorem length_socialLinks : s.theme.socialLinks.length = d.socialLinks.countP (·.enabled) := by
  rw [List.countP_eq_length_filter, ← h.theme.socialLinks.length_eq, d.getD_list rfl]
  rfl

theorem itemCount_eq : s.theme.itemCount = d.enabledItems.length := by
  have hdraft (g : SiteManifest.Group) : g.items.length = (g.draft.items.getD []).length :=
    (List.length_map _).symm
  have hlengths : s.theme.sidebar.map (·.items.length)
      = (d.groups.filter (·.enabled)).map (·.enabledItems.length) := by
    calc s.theme.sidebar.map (·.items.length)
        = (s.theme.sidebar.map SiteManifest.Group.draft).map (·.items.getD [] |>.length) := by
          rw [List.map_map]
          exact List.map_congr_left fun g _ => hdraft g
      _ = (d.groups.filter (·.enabled)).map (·.enabledItems.length) := by
          rw [h.map_draft_sidebar, List.map_map]
          exact List.map_congr_left fun g _ => congrArg List.length g.getD_items_pruned
  unfold Theme.itemCount enabledItems
  rw [hlengths, List.length_flatMap, List.sum_eq_foldl_nat]

/-- The texts of the groups of a site that have no items are those of the empty groups of the draft. -/
theorem texts_of_empty :
    ((s.theme.sidebar.filter (·.items.isEmpty)).map (·.text)).map some
      = d.emptyGroups.map (·.text) := by
  have hempty : (fun g : SiteManifest.Group => g.items.isEmpty)
      = (fun g : Group => (g.items.getD []).isEmpty) ∘ SiteManifest.Group.draft := by
    funext g
    exact List.isEmpty_map.symm
  calc ((s.theme.sidebar.filter (·.items.isEmpty)).map (·.text)).map some
      = ((s.theme.sidebar.map SiteManifest.Group.draft).filter (·.items.getD [] |>.isEmpty)).map
          (·.text) := by
        rw [List.filter_map, List.map_map, List.map_map, hempty]
        rfl
    _ = (((d.groups.filter (·.enabled)).map Group.pruned).filter (·.items.getD [] |>.isEmpty)).map
          (·.text) := by rw [h.map_draft_sidebar]
    _ = d.emptyGroups.map (·.text) := by
        rw [List.filter_map, List.map_map]
        simp only [Function.comp_def, Group.getD_items_pruned]
        rfl

end Site.Describes

/-- What is counted and listed in a draft does not hang on its texts. -/
theorem Site.counted_congr {d d' : Site} (h : d'.theme = d.theme) :
    d'.nav = d.nav ∧ d'.emptyGroups = d.emptyGroups ∧ d'.countLines = d.countLines := by
  unfold countLines emptyGroups enabledItems nav groups socialLinks
  rw [h]
  exact ⟨rfl, rfl, rfl⟩

end Draft

/-! ## Reports -/

namespace Report

variable {d : Draft.Site} {s : Site}

/-- The lines of a summary between the texts of a site and its label are counted in the draft. -/
theorem summary_of_describes (h : d.Describes s) (now : Calendar.Moment) :
    summary now s
      = ["Base path: " ++ s.basePath]
        ++ (if s.description = "" then [] else ["Description: " ++ s.description])
        ++ d.countLines ++ [labelLine now s.theme.lastUpdated] := by
  unfold summary Draft.Site.countLines
  dsimp only
  rw [h.length_nav, h.length_sidebar, h.length_socialLinks, h.itemCount_eq]
  simp only [List.append_assoc, List.cons_append, List.nil_append]

/-- The warnings about a site are those that its draft deserves. -/
theorem warnings_of_describes (h : d.Describes s) :
    ∃ texts : List String, d.emptyGroups.map (·.text) = texts.map some
      ∧ warnings s = (if d.nav.any (·.enabled) then [] else [.noNavigation])
        ++ texts.map .emptyGroup := by
  refine ⟨_, h.texts_of_empty.symm, ?_⟩
  have hnav : s.theme.nav.isEmpty = !d.nav.any (·.enabled) := by
    rw [Bool.eq_iff_iff, List.isEmpty_iff_length_eq_zero, h.length_nav, List.countP_eq_zero]
    simp
  unfold warnings
  rw [hnav, List.map_map]
  cases d.nav.any (·.enabled) with
  | true => rfl
  | false => rfl

end Report

/-! ## The file that is checked -/

/-- A path leads to a file whose effective definition holds a draft. Nothing in the draft is expanded. -/
inductive Surroundings.HasDraft (w : Surroundings) (p : FilePath) (d : Draft.Site) : Prop where
  | mk {format : Format} {text : String} {vs : List Json} {v : Json}
    (hformat : Format.ofPath? p = some format) (htext : w.HasText p text)
    (hread : format.definitions text = .ok vs) (hlast : vs.getLast? = some v)
    (hdraft : Draft.Site.ofJson v = .ok d)

/-- A file has at most one draft. -/
theorem Surroundings.HasDraft.unique {w : Surroundings} {p : FilePath} {d d' : Draft.Site}
    (h : w.HasDraft p d) (h' : w.HasDraft p d') : d = d' := by
  obtain ⟨hformat, htext, hread, hlast, hdraft⟩ := h
  obtain ⟨hformat', htext', hread', hlast', hdraft'⟩ := h'
  cases hformat.symm.trans hformat'
  cases htext.read.symm.trans htext'.read
  cases hread.symm.trans hread'
  cases hlast.symm.trans hlast'
  cases hdraft.symm.trans hdraft'
  rfl

/-- A file that is loaded has a draft, and the site is described by a draft with the same theme. -/
theorem Surroundings.exists_hasDraft_of_load {w : Surroundings} {p : FilePath} {s : Site}
    (h : (w.load p).result = .ok s) :
    ∃ d d' : Draft.Site, w.HasDraft p d ∧ d'.theme = d.theme ∧ d'.Describes s := by
  obtain ⟨format, text, -, hformat, htext, hsite⟩ := load_eq_ok.mp h
  obtain ⟨vs, v, hread, hlast, hsite⟩ := Loading.ofText_eq_ok.mp hsite
  obtain ⟨d, d', hd, hexpand, hdescribes, -⟩ := Loading.ofDefinition_eq_ok.mp hsite
  exact ⟨d, d', ⟨hformat, hasText_of_read htext, hread, hlast, hd⟩,
    (Expansion.site_eq_ok.mp hexpand).theme, hdescribes⟩

/-- **A check reports what the file says.** The counts in the report are those of the draft that the
effective definition of the file holds: of its enabled entries, groups and social links, and of the enabled
items in enabled groups. There is a warning about the navigation exactly if none of its entries is enabled,
and after it one for each enabled group without an enabled item, in their order and with their texts. -/
theorem check_reports_file {w : Surroundings} {clock : Clock} {args : List String}
    {path : Option FilePath} {verbose : Bool} {p : FilePath} {s : Site}
    (hrequest : Request.ofArguments? w.environment args = some (.run .check path verbose))
    (hloaded : (w.loadOrDiscover path).result = .ok (p, s)) :
    ∃ d : Draft.Site, w.HasDraft p d ∧ ∃ texts : List String,
      d.emptyGroups.map (·.text) = texts.map some
        ∧ let colours := colouredReports w.environment
          let warnings : List Report.Warning :=
            (if d.nav.any (·.enabled) then [] else [.noNavigation]) ++ texts.map .emptyGroup
          let lines := [Paint.apply colours [.cyan, .bold] s.title, "Base path: " ++ s.basePath]
            ++ (if s.description = "" then [] else ["Description: " ++ s.description])
            ++ d.countLines ++ [Report.labelLine clock.now s.theme.lastUpdated]
            ++ warnings.map (fun x => Paint.apply colours [.yellow] x.message)
            ++ [Paint.apply colours [.green] ("Configuration is valid: " ++ p.text)]
          runLine w clock args = ⟨0, "", unlines (
            logLines w.environment verbose clock.stamp (w.loadOrDiscover path).events ++ lines)⟩ := by
  obtain ⟨-, hload⟩ := Surroundings.loadOrDiscover_eq_ok.mp hloaded
  obtain ⟨d, d', hd, htheme, hdescribes⟩ := Surroundings.exists_hasDraft_of_load hload
  obtain ⟨texts, htexts, hwarnings⟩ := Report.warnings_of_describes hdescribes
  obtain ⟨hnav, hgroups, hcounts⟩ := Draft.Site.counted_congr htheme
  refine ⟨d, hd, texts, hgroups ▸ htexts, ?_⟩
  dsimp only
  rw [runLine_of_request hrequest, Command.check_of_ok hloaded, Report.lines, hwarnings,
    Report.summary_of_describes hdescribes, hnav, hcounts]
  simp only [List.append_assoc, List.cons_append, List.nil_append]

/-- A file that a variable names, with its records as lists. An entry, a group and the only item of another
group are switched off, a third group has no items, and a fourth one has an enabled item. -/
theorem check_reports_file_named :
    let off : Json := .array [.null, .null, .bool false]
    let groups : Json := .array [.array [.string "A", .array [off], .null],
      .array [.string "B", .array [], .null, .bool false], .array [.string "C", .array [], .null],
      .array [.string "D", .array [off, .array [.string "Home", .string "/"]], .null]]
    let v : Json := .array [.string "Docs", .null, .string "/",
      .array [.array [off], groups, .null, .null]]
    let w : Surroundings := ⟨.directory [("docs.json", .file (v.print .compact).toUTF8)], [],
      ⟨[("DOCSITE_CONFIG", "docs.json")]⟩⟩
    runLine w ⟨⟨0, 0⟩, ""⟩ ["check"]
      = ⟨0, "", unlines (logLines w.environment false "" (w.loadOrDiscover (some ⟨"docs.json"⟩)).events
        ++ ["Docs", "Base path: /", "Nav entries: 0", "Sidebar: 3 groups, 1 items", "Social links: 0",
          "Last updated: disabled", "No navigation entries configured",
          "Sidebar group \"A\" has no items", "Sidebar group \"C\" has no items",
          "Configuration is valid: docs.json"])⟩ := by
  intro off groups v w
  let d : Draft.Site := ⟨some "Docs", none, some "/", some ⟨some [⟨none, none, false⟩],
    some [⟨some "A", some [⟨none, none, false⟩], none, true⟩, ⟨some "B", some [], none, false⟩,
      ⟨some "C", some [], none, true⟩,
      ⟨some "D", some [⟨none, none, false⟩, ⟨some "Home", some "/", true⟩], none, true⟩], none, none⟩⟩
  let s : Site := ⟨"Docs", "", "/", ⟨[], [⟨"A", [], none⟩, ⟨"C", [], none⟩,
    ⟨"D", [⟨"Home", "/"⟩], none⟩], [], none⟩⟩
  have hformat : Format.ofPath? ⟨"docs.json"⟩ = some .json := by decide
  have htext : w.HasText ⟨"docs.json"⟩ (v.print .compact) := Surroundings.hasText_of_toUTF8 rfl
  have hread : Format.definitions .json (v.print .compact) = .ok [v] := by decide +kernel
  have hdraft : Draft.Site.ofJson v = .ok d := by rfl
  have hexpand : d.ExpandsTo w.environment d := by
    refine ⟨Expansion.expands_self ?_ _, .none, Expansion.expands_self ?_ _, rfl⟩
    · simp only [← Expansion.mentions_iff]
      decide
    · simp only [← Expansion.mentions_iff]
      decide
  have hload : (w.load ⟨"docs.json"⟩).result = .ok s := by
    rw [Surroundings.load_of_hasText hformat htext, Loading.ofText_of_effective hread rfl]
    exact Loading.ofDefinition_of_expanded hdraft hexpand
  have hloaded : (w.loadOrDiscover (some ⟨"docs.json"⟩)).result = .ok (⟨"docs.json"⟩, s) :=
    Surroundings.loadOrDiscover_eq_ok.mpr ⟨rfl, hload⟩
  have hrequest : Request.ofArguments? w.environment ["check"]
      = some (.run .check (some ⟨"docs.json"⟩) false) := by decide
  obtain ⟨d', hd', texts, htexts, hrun⟩ :=
    @check_reports_file _ ⟨⟨0, 0⟩, ""⟩ _ _ _ _ _ hrequest hloaded
  have hd : w.HasDraft ⟨"docs.json"⟩ d := ⟨hformat, htext, hread, rfl, hdraft⟩
  have hsame : d' = d := hd'.unique hd
  have hempty : d.emptyGroups.map (·.text) = ["A", "C"].map some := by decide
  rw [hsame, hempty] at htexts
  have htexts' : ["A", "C"] = texts :=
    List.map_injective_iff.mpr (Option.some_injective String) htexts
  have hplain : colouredReports w.environment = false := by decide
  have hnav : d.nav.any (·.enabled) = false := by decide
  have hcounts : d.countLines
      = ["Nav entries: 0", "Sidebar: 3 groups, 1 items", "Social links: 0"] := by decide
  rw [hrun, hsame, ← htexts']
  dsimp only
  rw [hplain, hnav, hcounts]
  rfl

end SiteManifest
