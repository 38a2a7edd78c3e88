import Mathlib.Data.List.Lex
import Mathlib.Data.List.Nodup
import SiteManifest.Proofs.Validation.Violations

/-!
# What validation skips

The entries that are switched off are told one by one, each once, in the order of the document. If the
draft has a violation, then exactly those are told that stand before the first one.

## How a part is followed

A part of a document lies under a range of the steps that go on from one path, and its range comes before
that of the next part. `Skips base lo hi x ps` says what a validation `x` of such a part tells if the paths
`ps` are switched off in it, and that it fails inside the part. It is kept when steps are put after each
other, because all that is in one part comes before all that is in the next.
-/

namespace SiteManifest

/-! ## What is switched off -/

/-- The places of the entries of a list that are switched off, and those inside of the other entries. -/
def disabledFields {α : Type} (enabled : α → Bool) (inner : FieldPath → α → List FieldPath)
    (field : FieldPath) (xs : Option (List α)) : List FieldPath :=
  (xs.getD []).zipIdx.flatMap fun (x, i) =>
    if enabled x then inner (field.item i) x else [field.item i]

namespace Draft

/-- The places of the items of a group that are switched off. -/
def Group.disabled (field : FieldPath) (g : Group) : List FieldPath :=
  disabledFields (·.enabled) (fun _ _ => []) (field.key "items") g.items

/-- The places of the entries of a theme that are switched off. Behind a group stand its items, unless the
whole group is switched off. -/
def Theme.disabled (field : FieldPath) (t : Theme) : List FieldPath :=
  disabledFields (·.enabled) (fun _ _ => []) (field.key "nav") t.nav
    ++ disabledFields (·.enabled) Group.disabled (field.key "sidebar") t.sidebar
    ++ disabledFields (·.enabled) (fun _ _ => []) (field.key "socialLinks") t.socialLinks

/-- The places of the entries of a draft that are switched off, in the order in which it is written. -/
def Site.disabled (d : Site) : List FieldPath :=
  d.theme.toList.flatMap (Theme.disabled (.top "theme"))

end Draft

/-! ## The order of a document -/

namespace FieldPath

/-- The keys of a document. Those of one record stand in the order in which it declares them. -/
def keys : List String :=
  ["title", "description", "basePath", "theme", "nav", "sidebar", "socialLinks", "lastUpdated", "icon",
    "text", "link", "items", "collapsed", "enabled", "formatOptions", "dateStyle", "timeStyle"]

/-- The numbers of the steps of a path. A position is its own number. -/
def place : FieldPath → List Nat
  | .root => []
  | .key parent name => parent.place ++ [keys.idxOf name]
  | .item parent index => parent.place ++ [index]

/-- A path stands before another one in a document. -/
def Before (p q : FieldPath) : Prop := p.place < q.place

instance : DecidableRel Before := fun p q => inferInstanceAs (Decidable (p.place < q.place))

/-- Each record declares its keys in this order. -/
example :
    let declared {ρ : Type} (r : Shape.Record ρ) : Bool :=
      decide ((r.fields.map fun f => keys.idxOf f.key).Pairwise (· < ·))
    declared Draft.Site.record ∧ declared Draft.Theme.record ∧ declared Draft.Entry.record
      ∧ declared Draft.Group.record ∧ declared Draft.SocialLink.record
      ∧ declared Draft.LastUpdated.record ∧ declared Draft.LabelFormat.record := by decide

theorem Before.asymm {p q : FieldPath} (h : p.Before q) : ¬q.Before p := lt_asymm h

theorem Before.ne {p q : FieldPath} (h : p.Before q) : p ≠ q := by
  rintro rfl
  exact h.asymm h

/-- A path lies under one of the steps from a path that have a number in a range. -/
def Within (base : FieldPath) (lo hi : Nat) (p : FieldPath) : Prop :=
  ∃ i rest, lo ≤ i ∧ i < hi ∧ p.place = base.place ++ i :: rest

namespace Within

variable {base p q : FieldPath} {lo mid mid' hi i : Nat}

theorem key (base : FieldPath) (name : String) :
    base.Within (keys.idxOf name) (keys.idxOf name + 1) (base.key name) :=
  ⟨_, [], le_refl _, Nat.lt_succ_self _, rfl⟩

theorem item (base : FieldPath) (i : Nat) : base.Within i (i + 1) (base.item i) :=
  ⟨_, [], le_refl _, Nat.lt_succ_self _, rfl⟩

theorem of_key {name : String} (h : (base.key name).Within lo hi p) :
    base.Within (keys.idxOf name) (keys.idxOf name + 1) p := by
  obtain ⟨i, rest, -, -, hp⟩ := h
  refine ⟨_, i :: rest, le_refl _, Nat.lt_succ_self _, ?_⟩
  rw [hp, place, List.append_assoc, List.singleton_append]

theorem of_item (h : (base.item i).Within lo hi p) : base.Within i (i + 1) p := by
  obtain ⟨j, rest, -, -, hp⟩ := h
  refine ⟨_, j :: rest, le_refl _, Nat.lt_succ_self _, ?_⟩
  rw [hp, place, List.append_assoc, List.singleton_append]

theorem mono {lo' hi' : Nat} (h : base.Within lo hi p) (hlo : lo' ≤ lo) (hhi : hi ≤ hi') :
    base.Within lo' hi' p := by
  obtain ⟨i, rest, hlow, hhigh, hp⟩ := h
  exact ⟨i, rest, hlo.trans hlow, hhigh.trans_le hhi, hp⟩

/-- What lies in one range stands before what lies in a later one. -/
theorem before (hp : base.Within lo mid p) (hq : base.Within mid' hi q) (h : mid ≤ mid') :
    p.Before q := by
  obtain ⟨i, rest, -, hi, hp⟩ := hp
  obtain ⟨j, rest', hj, -, hq⟩ := hq
  unfold Before
  rw [hp, hq]
  exact List.append_left_lt (List.cons_lt_cons_iff.mpr (Or.inl (by omega)))

end Within

/-- Paths under one range of steps, each before the next. -/
structure InOrder (base : FieldPath) (lo hi : Nat) (ps : List FieldPath) : Prop where
  le : lo ≤ hi
  sorted : ps.Pairwise Before
  within : ∀ p ∈ ps, base.Within lo hi p

namespace InOrder

variable {base : FieldPath} {lo mid mid' hi i : Nat} {ps qs : List FieldPath}

theorem nil (h : lo ≤ hi) : base.InOrder lo hi [] :=
  ⟨h, .nil, fun _ hp => by cases hp⟩

/-- Paths under one range may be followed by paths under a later one. -/
theorem append (hps : base.InOrder lo mid ps) (hqs : base.InOrder mid' hi qs) (h : mid ≤ mid') :
    base.InOrder lo hi (ps ++ qs) := by
  have hlo : lo ≤ mid' := hps.le.trans h
  have hhi : mid ≤ hi := h.trans hqs.le
  refine ⟨hlo.trans hqs.le, List.pairwise_append.mpr ⟨hps.sorted, hqs.sorted, ?_⟩, ?_⟩
  · intro p hp q hq
    exact (hps.within p hp).before (hqs.within q hq) h
  · intro p hp
    rcases List.mem_append.mp hp with hp | hp
    · exact (hps.within p hp).mono (le_refl _) hhi
    · exact (hqs.within p hp).mono hlo (le_refl _)

theorem mono {lo' hi' : Nat} (h : base.InOrder lo hi ps) (hlo : lo' ≤ lo) (hhi : hi ≤ hi') :
    base.InOrder lo' hi' ps :=
  ⟨by have := h.le; omega, h.sorted, fun p hp => (h.within p hp).mono hlo hhi⟩

theorem of_key {name : String} (h : (base.key name).InOrder lo hi ps) :
    base.InOrder (keys.idxOf name) (keys.idxOf name + 1) ps :=
  ⟨Nat.le_succ _, h.sorted, fun p hp => (h.within p hp).of_key⟩

theorem of_item (h : (base.item i).InOrder lo hi ps) : base.InOrder i (i + 1) ps :=
  ⟨Nat.le_succ _, h.sorted, fun p hp => (h.within p hp).of_item⟩

theorem item (base : FieldPath) (i : Nat) : base.InOrder i (i + 1) [base.item i] := by
  refine ⟨Nat.le_succ _, List.pairwise_singleton _ _, fun p hp => ?_⟩
  rw [List.mem_singleton.mp hp]
  exact .item base i

end InOrder

end FieldPath

open FieldPath (InOrder Before keys)

/-! ## Validations that skip what is switched off -/

/-- A validation of the part of a document that lies under a range of steps from a path. It fails inside
the part, and it tells those of some paths that stand before its failure. -/
structure Skips {α : Type} (base : FieldPath) (lo hi : Nat) (x : Validation α)
    (ps : List FieldPath) : Prop where
  inOrder : base.InOrder lo hi ps
  ofOk : ∀ {a}, x.result = .ok a → x.events = ps.map .skipped
  ofError : ∀ {v}, x.result = .error v →
    base.Within lo hi v.field ∧ x.events = (ps.filter (Before · v.field)).map .skipped

namespace Skips

variable {α β : Type} {base : FieldPath} {lo mid mid' hi i : Nat} {x : Validation α}
  {ps qs : List FieldPath}

theorem pure (base : FieldPath) (h : lo ≤ hi) (a : α) :
    Skips base lo hi (Pure.pure a : Validation α) [] :=
  ⟨.nil h, fun _ => rfl, fun h => by cases h⟩

/-- Two steps skip what the first one skips, and then what the second one does. -/
theorem bind {f : α → Validation β} (hx : Skips base lo mid x ps)
    (hf : ∀ a, Skips base mid' hi (f a) qs) (hqs : base.InOrder mid' hi qs)
    (h : mid ≤ mid') : Skips base lo hi (x >>= f) (ps ++ qs) := by
  refine ⟨hx.inOrder.append hqs h, ?_, ?_⟩
  · intro b hb
    obtain ⟨a, ha, hb⟩ := Traced.result_bind_eq_ok.mp hb
    rw [Traced.events_bind_of_ok ha, hx.ofOk ha, (hf a).ofOk hb, List.map_append]
  · intro v hv
    cases hr : x.result with
    | error w =>
      rw [Traced.result_bind_of_error hr] at hv
      cases hv
      obtain ⟨hwithin, hevents⟩ := hx.ofError hr
      -- nothing of what follows stands before the failure
      have hlater : qs.filter (Before · v.field) = [] :=
        List.filter_eq_nil_iff.mpr fun q hq hbefore =>
          (hwithin.before (hqs.within q hq) h).asymm (of_decide_eq_true hbefore)
      refine ⟨hwithin.mono (le_refl _) (h.trans hqs.le), ?_⟩
      rw [Traced.events_bind_of_error hr, hevents, List.filter_append, hlater, List.append_nil]
    | ok a =>
      rw [Traced.result_bind_of_ok hr] at hv
      obtain ⟨hwithin, hevents⟩ := (hf a).ofError hv
      have hearlier : ps.filter (Before · v.field) = ps :=
        List.filter_eq_self.mpr fun p hp =>
          decide_eq_true ((hx.inOrder.within p hp).before hwithin h)
      refine ⟨hwithin.mono (hx.inOrder.le.trans h) (le_refl _), ?_⟩
      rw [Traced.events_bind_of_ok hr, hx.ofOk hr, hevents, List.filter_append, hearlier,
        List.map_append]

/-- A last step that neither fails nor tells anything adds nothing. -/
theorem map (f : α → β) (hx : Skips base lo hi x ps) :
    Skips base lo hi (x >>= fun a => Pure.pure (f a)) ps := by
  have h := hx.bind (fun a => .pure base (le_refl hi) (f a)) (.nil (le_refl hi)) (le_refl hi)
  rwa [List.append_nil] at h

theorem mono {lo' hi' : Nat} (h : Skips base lo hi x ps) (hlo : lo' ≤ lo) (hhi : hi ≤ hi') :
    Skips base lo' hi' x ps :=
  ⟨h.inOrder.mono hlo hhi, h.ofOk, fun hv => ⟨(h.ofError hv).1.mono hlo hhi, (h.ofError hv).2⟩⟩

theorem of_key {name : String} (h : Skips (base.key name) lo hi x ps) :
    Skips base (keys.idxOf name) (keys.idxOf name + 1) x ps :=
  ⟨h.inOrder.of_key, h.ofOk, fun hv => ⟨(h.ofError hv).1.of_key, (h.ofError hv).2⟩⟩

theorem of_item (h : Skips (base.item i) lo hi x ps) : Skips base i (i + 1) x ps :=
  ⟨h.inOrder.of_item, h.ofOk, fun hv => ⟨(h.ofError hv).1.of_item, (h.ofError hv).2⟩⟩

end Skips

namespace Validation

/-! ## Fields -/

/-- A validation of one field tells nothing, and the field is where it fails. -/
structure Quiet {α : Type} (field : FieldPath) (x : Validation α) : Prop where
  events : x.events = []
  field_eq : ∀ {v}, x.result = .error v → v.field = field

namespace Quiet

variable {α β : Type} {field base : FieldPath} {x : Validation α}

theorem pure (field : FieldPath) (a : α) : Quiet field (Pure.pure a : Validation α) :=
  ⟨rfl, fun h => by cases h⟩

theorem throw {v : Violation} (h : v.field = field) :
    Quiet field (MonadExcept.throw v : Validation α) := by
  refine ⟨rfl, fun hv => ?_⟩
  cases hv
  exact h

/-- A field has no entries to skip. -/
theorem skips {name : String} (h : Quiet (base.key name) x) :
    Skips base (keys.idxOf name) (keys.idxOf name + 1) x [] := by
  refine ⟨.nil (Nat.le_succ _), fun _ => h.events, fun hv => ⟨?_, h.events⟩⟩
  rw [h.field_eq hv]
  exact .key base name

end Quiet

theorem quiet_label (field : FieldPath) : ∀ text : Option String, Quiet field (label field text)
  | none => .throw rfl
  | some text => by
    show Quiet field (if Text.isBlank text then _ else _)
    split
    · exact .throw rfl
    · exact .pure field text

theorem quiet_goodLink (flaw? : String → Option LinkFlaw) (field : FieldPath) :
    ∀ link : Option String, Quiet field (goodLink flaw? field link)
  | none => .throw rfl
  | some link => by
    unfold goodLink
    simp only [present, pure_bind]
    cases flaw? link with
    | none => exact .pure field link
    | some flaw => exact .throw rfl

/-! ## Lists of entries -/

section Entries

variable {α β : Type} {enabled : α → Bool} {check : FieldPath → α → Validation β}
  {inner : FieldPath → α → List FieldPath} {lo hi : Nat}

/-- The induction is on the list, for all positions at which it may start. -/
theorem skips_entriesFrom (h : ∀ field x, Skips field lo hi (check field x) (inner field x))
    (field : FieldPath) :
    ∀ (xs : List α) (i : Nat),
      Skips field i (i + xs.length) (entriesFrom enabled check field i xs)
        ((xs.zipIdx i).flatMap fun (x, i) =>
          if enabled x then inner (field.item i) x else [field.item i])
  | [], i => .pure field (le_refl i) []
  | x :: xs, i => by
    have ih := skips_entriesFrom h field xs (i + 1)
    rw [List.zipIdx_cons, List.flatMap_cons, entriesFrom, List.length_cons, Nat.add_comm xs.length,
      ← Nat.add_assoc]
    by_cases hx : enabled x = true
    · simp only [if_pos hx]
      exact (h (field.item i) x).of_item.bind (fun y => ih.map (y :: ·)) ih.inOrder (le_refl _)
    · simp only [if_neg hx]
      have htell : Skips field i (i + 1)
          (Traced.tell (.skipped (field.item i)) : Validation Unit) [field.item i] :=
        ⟨.item field i, fun _ => rfl, fun h => by cases h⟩
      exact htell.bind (fun _ => ih) ih.inOrder (le_refl _)

theorem skips_entries (enabled : α → Bool)
    (h : ∀ field x, Skips field lo hi (check field x) (inner field x))
    (field : FieldPath) (xs : Option (List α)) :
    Skips field 0 (xs.getD []).length (entries enabled check field xs)
      (disabledFields enabled inner field xs) := by
  rw [← Nat.zero_add (xs.getD []).length]
  exact skips_entriesFrom h field (xs.getD []) 0

end Entries

/-! ## Parts of a draft -/

theorem skips_entry (field : FieldPath) (e : Draft.Entry) :
    Skips field (keys.idxOf "text") (keys.idxOf "link" + 1) (entry field e) [] :=
  (quiet_label _ e.text).skips.bind
    (fun text => (quiet_goodLink _ _ e.link).skips.map (Entry.mk text)) (.nil (by decide))
    (by decide)

theorem skips_group (field : FieldPath) :
    ∀ g : Draft.Group,
      Skips field (keys.idxOf "text") (keys.idxOf "items" + 1) (group field g) (g.disabled field)
  | ⟨text, none, collapsed, enabled⟩ => by
    have hmissing : Quiet (field.key "items")
        (throw (.missing (field.key "items")) : Validation Group) := .throw rfl
    exact (quiet_label _ text).skips.bind (fun _ => hmissing.skips) (.nil (Nat.le_succ _)) (by decide)
  | ⟨text, some items, collapsed, enabled⟩ => by
    have hitems :=
      (skips_entries (·.enabled) skips_entry (field.key "items") (some items)).of_key
    exact (quiet_label _ text).skips.bind (fun text => hitems.map (Group.mk text · collapsed))
      hitems.inOrder (by decide)

theorem skips_socialLink (field : FieldPath) (s : Draft.SocialLink) :
    Skips field (keys.idxOf "icon") (keys.idxOf "link" + 1) (socialLink field s) [] := by
  have hrefused {v : Violation} (hv : v.field = field.key "icon") :
      Skips field (keys.idxOf "icon") (keys.idxOf "link" + 1) (throw v : Validation SocialLink) [] :=
    (Quiet.throw hv).skips.mono (le_refl _) (by decide)
  unfold socialLink
  cases s.icon with
  | none => exact hrefused rfl
  | some word =>
    simp only [present, pure_bind]
    cases Icon.ofName? word with
    | none => exact hrefused rfl
    | some icon =>
      exact ((quiet_goodLink _ _ s.link).skips.map (SocialLink.mk icon)).mono (by decide) (le_refl _)

theorem skips_lastUpdated (field : FieldPath) (l : Draft.LastUpdated) :
    Skips field (keys.idxOf "text") (keys.idxOf "text" + 1) (lastUpdated field l) [] :=
  (quiet_label _ l.text).skips.map (LastUpdated.mk · (labelFormat l.format))

theorem skips_theme (field : FieldPath) (t : Draft.Theme) :
    Skips field (keys.idxOf "nav") (keys.idxOf "lastUpdated" + 1) (theme field t)
      (t.disabled field) := by
  have hnav := (skips_entries (·.enabled) skips_entry (field.key "nav") t.nav).of_key
  have hsidebar :=
    (skips_entries (·.enabled) skips_group (field.key "sidebar") t.sidebar).of_key
  have hsocial := (skips_entries (·.enabled) skips_socialLink (field.key "socialLinks")
    t.socialLinks).of_key
  have hend : field.InOrder (keys.idxOf "lastUpdated") (keys.idxOf "lastUpdated" + 1) [] :=
    .nil (Nat.le_succ _)
  have hrest := hsocial.inOrder.append hend (by decide)
  unfold theme Draft.Theme.disabled
  rw [List.append_assoc, ← List.append_nil (disabledFields _ _ (field.key "socialLinks") _)]
  refine hnav.bind (fun nav => ?_) (hsidebar.inOrder.append hrest (by decide)) (by decide)
  refine hsidebar.bind (fun sidebar => ?_) hrest (by decide)
  refine hsocial.bind (fun links => ?_) hend (by decide)
  cases t.lastUpdated with
  | none => exact .pure field (Nat.le_succ _) _
  | some l => exact (skips_lastUpdated _ l).of_key.map fun l => Theme.mk nav sidebar links (some l)

/-- A theme that is not given has nothing to skip. -/
theorem skips_themeOf (field : FieldPath) :
    ∀ t : Option Draft.Theme,
      Skips field (keys.idxOf "nav") (keys.idxOf "lastUpdated" + 1) (theme field (t.getD noTheme))
        (t.toList.flatMap (Draft.Theme.disabled field))
  | none => skips_theme field noTheme
  | some t => by
    simp only [Option.toList_some, List.flatMap_cons, List.flatMap_nil, List.append_nil]
    exact skips_theme field t

/-- A base path that must be given and must be good. -/
def goodBasePath (path : Option String) : Validation String := do
  let path ← present (.top "basePath") path
  if !isBasePath path then throw (.invalidBasePath path)
  return path

theorem quiet_goodBasePath : ∀ path : Option String, Quiet (.top "basePath") (goodBasePath path)
  | none => .throw rfl
  | some path => by
    show Quiet (.top "basePath") (if !isBasePath path then _ else pure path)
    cases isBasePath path with
    | true => exact .pure _ path
    | false => exact .throw rfl

/-- What follows the base path follows it as a whole. -/
theorem site_eq (d : Draft.Site) :
    site d = do
      let title ← label (.top "title") d.title
      let basePath ← goodBasePath d.basePath
      let theme ← theme (.top "theme") (d.theme.getD noTheme)
      return ⟨title, d.description.getD "", basePath, theme⟩ := by
  unfold site goodBasePath
  simp only [bind_assoc]
  cases d.basePath with
  | none => rfl
  | some path =>
    simp only [present, pure_bind]
    cases isBasePath path with
    | true => rfl
    | false => rfl

theorem skips_site (d : Draft.Site) :
    Skips .root (keys.idxOf "title") (keys.idxOf "theme" + 1) (site d) d.disabled := by
  have htheme := (skips_themeOf (.top "theme") d.theme).of_key
  have hlater := htheme.inOrder.mono (show keys.idxOf "basePath" ≤ _ by decide) (le_refl _)
  rw [site_eq]
  refine (quiet_label _ d.title).skips.bind (fun title => ?_) hlater (by decide)
  exact (quiet_goodBasePath d.basePath).skips.bind
    (fun path => htheme.map (Site.mk title _ path)) htheme.inOrder (by decide)

/-- **Validation tells what it skips, and stops telling where it fails**, which is at the first violation
of the walk. The entries that are switched off are told in the order of the document: all of them if there
is no violation, and otherwise those that stand before the first one. No entry is told twice. -/
theorem site_events (d : Draft.Site) :
    (site d).failure? = d.violations.head?
    ∧ (match d.violations.head? with
      | none => (site d).events = d.disabled.map .skipped
      | some v => (site d).events = (d.disabled.filter (Before · v.field)).map .skipped)
    ∧ d.disabled.Pairwise Before ∧ (site d).events.Nodup := by
  have h := skips_site d
  have hreports : (site d).failure? = d.violations.head? := reports_site d
  have hnodup : (d.disabled.map Event.skipped).Nodup :=
    List.Nodup.map (fun _ _ => Event.skipped.inj) (h.inOrder.sorted.imp Before.ne)
  cases hfirst : d.violations.head? with
  | none =>
    rw [hfirst, Traced.failure?_eq_none] at hreports
    obtain ⟨s, hs⟩ := hreports
    rw [h.ofOk hs]
    exact ⟨Traced.failure?_of_ok hs, rfl, h.inOrder.sorted, hnodup⟩
  | some v =>
    rw [hfirst, Traced.failure?_eq_some] at hreports
    rw [(h.ofError hreports).2]
    exact ⟨Traced.failure?_eq_some.mpr hreports, rfl, h.inOrder.sorted,
      hnodup.sublist (List.filter_sublist.map _)⟩

/-- The item of the group that is switched off is not told, and neither is what stands behind the item
without a text. -/
example :
    let off : Draft.Entry := ⟨none, none, false⟩
    let bad : Draft.Entry := ⟨none, none, true⟩
    let d : Draft.Site := ⟨some "Docs", none, some "/", some ⟨some [off],
      some [⟨none, some [off], none, false⟩, ⟨some "A", some [off, bad, off], none, true⟩],
      some [⟨none, none, false⟩], none⟩⟩
    d.disabled.map (·.text) = ["theme.nav[0]", "theme.sidebar[0]", "theme.sidebar[1].items[0]",
        "theme.sidebar[1].items[2]", "theme.socialLinks[0]"]
      ∧ (site d).events = (d.disabled.take 3).map .skipped := by decide

end Validation

end SiteManifest
