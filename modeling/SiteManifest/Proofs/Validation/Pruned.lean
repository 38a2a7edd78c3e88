import SiteManifest.Proofs.Validation.Kept
import SiteManifest.Proofs.Validation.Violations

/-!
# Drafts without their disabled entries

Deleting the disabled entries of a draft changes nothing in its validation but the numbers in reports:
an entry is then reported at the place that it has among the enabled ones. The main statement is about
the whole walk: the violations of the draft that is left are those of the whole draft, renumbered.

## Renumbering

The number of an entry among the enabled ones is the number of enabled entries before it. A path is
renumbered position by position, and the list that a position is in is looked up in the whole draft. The
keys of a path stay, so only the walk through lists has to be followed (`enabledViolations_pruned`).
-/

namespace SiteManifest

/-- A violation with its field moved to another place. -/
def Violation.moved (f : FieldPath → FieldPath) : Violation → Violation
  | .missing field => .missing (f field)
  | .emptyText field => .emptyText (f field)
  | .invalidLink field link flaw => .invalidLink (f field) link flaw
  | .unknownIcon field icon => .unknownIcon (f field) icon
  | .invalidBasePath path => .invalidBasePath path

namespace Draft

/-- The number of enabled entries before a place in a list. -/
def rank {α : Type} (enabled : α → Bool) (xs : Option (List α)) (i : Nat) : Nat :=
  ((xs.getD []).take i).countP enabled

/-- The number that the entry at a place of a list has among the enabled ones. The list is named by its
path: one of the three lists of the theme, or the items of a group. -/
def Theme.rankAt (t : Theme) : FieldPath → Nat → Nat
  | .key (.key .root "theme") "nav", i => rank (·.enabled) t.nav i
  | .key (.key .root "theme") "sidebar", i => rank (·.enabled) t.sidebar i
  | .key (.key .root "theme") "socialLinks", i => rank (·.enabled) t.socialLinks i
  | .key (.item (.key (.key .root "theme") "sidebar") g) "items", i =>
    rank (·.enabled) ((t.sidebar.getD [])[g]?.bind (·.items)) i
  | _, i => i

/-- The path that leads to an entry once the disabled entries of a theme are deleted: the keys stay, and
each position is the number among the enabled entries. -/
def Theme.renumber (t : Theme) : FieldPath → FieldPath
  | .root => .root
  | .key parent name => .key (t.renumber parent) name
  | .item parent i => .item (t.renumber parent) (t.rankAt parent i)

/-- The path that leads to an entry once the disabled entries of a draft are deleted. -/
def Site.renumber (d : Site) : FieldPath → FieldPath :=
  (d.theme.getD ⟨none, none, none, none⟩).renumber

/-! ## Fields that move -/

section Moved

variable {f : FieldPath → FieldPath}

theorem textViolations_moved (field : FieldPath) (text : Option String) :
    (textViolations field text).map (Violation.moved f) = textViolations (f field) text := by
  unfold textViolations
  cases text with
  | none => rfl
  | some text =>
    dsimp only
    split
    · rfl
    · rfl

theorem pageLinkViolations_moved (field : FieldPath) (link : Option String) :
    (pageLinkViolations field link).map (Violation.moved f) = pageLinkViolations (f field) link := by
  cases link with
  | none => rfl
  | some link =>
    rw [Validation.pageLinkViolations_some, Validation.pageLinkViolations_some, List.map_map]
    rfl

theorem iconViolations_moved (field : FieldPath) (icon : Option String) :
    (iconViolations field icon).map (Violation.moved f) = iconViolations (f field) icon := by
  unfold iconViolations
  cases icon with
  | none => rfl
  | some word =>
    dsimp only
    split
    · rfl
    · rfl

theorem addressViolations_moved (field : FieldPath) (link : Option String) :
    (addressViolations field link).map (Violation.moved f) = addressViolations (f field) link := by
  cases link with
  | none => rfl
  | some link =>
    rw [Validation.addressViolations_some, Validation.addressViolations_some, List.map_map]
    rfl

variable (hkey : ∀ field name, f (field.key name) = (f field).key name)
include hkey

theorem Entry.violations_moved (field : FieldPath) (e : Entry) :
    (e.violations field).map (Violation.moved f) = e.violations (f field) := by
  unfold violations
  rw [List.map_append, textViolations_moved, pageLinkViolations_moved, hkey, hkey]

theorem SocialLink.violations_moved (field : FieldPath) (s : SocialLink) :
    (s.violations field).map (Violation.moved f) = s.violations (f field) := by
  unfold violations
  rw [List.map_append, iconViolations_moved, addressViolations_moved, hkey, hkey]

end Moved

/-! ## Lists without their disabled entries -/

section Lists

variable {α : Type} {enabled : α → Bool} {prune : α → α} {check : FieldPath → α → List Violation}
  {f : FieldPath → FieldPath} {field field' : FieldPath}

/-- The induction is on the list, for all positions `i` at which the whole list may start and all
positions `k` at which the list that is left may start. -/
theorem zipIdx_flatMap_pruned (hprune : ∀ x, enabled (prune x) = enabled x) :
    ∀ (xs : List α) (i k : Nat),
      (∀ n x, xs[n]? = some x → enabled x = true →
        (check (field.item (i + n)) x).map (Violation.moved f)
          = check (field'.item (k + (xs.take n).countP enabled)) (prune x)) →
      (((xs.filter enabled).map prune).zipIdx k).flatMap
          (fun (x, k) => if enabled x then check (field'.item k) x else [])
        = ((xs.zipIdx i).flatMap fun (x, i) => if enabled x then check (field.item i) x else []).map
          (Violation.moved f)
  | [], _, _, _ => rfl
  | x :: xs, i, k, h => by
    have htail : ∀ n y, xs[n]? = some y → enabled y = true →
        (check (field.item (i + 1 + n)) y).map (Violation.moved f)
          = check (field'.item (k + [x].countP enabled + (xs.take n).countP enabled)) (prune y) := by
      intro n y hy hen
      have hn := h (n + 1) y hy hen
      rw [List.take_succ_cons, ← List.singleton_append, List.countP_append, ← Nat.add_assoc k] at hn
      rw [Nat.add_right_comm i 1 n]
      exact hn
    have ih := zipIdx_flatMap_pruned hprune xs (i + 1) (k + [x].countP enabled) htail
    by_cases hx : enabled x = true
    · have hhead : (check (field.item i) x).map (Violation.moved f)
          = check (field'.item k) (prune x) := h 0 x rfl hx
      rw [List.countP_singleton, if_pos hx] at ih
      rw [List.filter_cons_of_pos hx, List.map_cons, List.zipIdx_cons, List.zipIdx_cons,
        List.flatMap_cons, List.flatMap_cons, List.map_append, ih]
      simp only [hprune, if_pos hx]
      rw [hhead]
    · -- the entry is gone, so the next one takes its number
      rw [List.countP_singleton, if_neg hx, Nat.add_zero] at ih
      rw [List.filter_cons_of_neg hx, List.zipIdx_cons, List.flatMap_cons, ih]
      simp only [if_neg hx, List.nil_append]

/-- The violations in the list that is left are those in the whole list, renumbered. -/
theorem enabledViolations_pruned (hprune : ∀ x, enabled (prune x) = enabled x)
    (xs : Option (List α))
    (h : ∀ i x, (xs.getD [])[i]? = some x → enabled x = true →
      (check (field.item i) x).map (Violation.moved f)
        = check (field'.item (rank enabled xs i)) (prune x)) :
    enabledViolations enabled check field' (xs.map fun xs => (xs.filter enabled).map prune)
      = (enabledViolations enabled check field xs).map (Violation.moved f) := by
  have hlist : ∀ n x, (xs.getD [])[n]? = some x → enabled x = true →
      (check (field.item (0 + n)) x).map (Violation.moved f)
        = check (field'.item (0 + ((xs.getD []).take n).countP enabled)) (prune x) := by
    intro n x hx hen
    rw [Nat.zero_add, Nat.zero_add]
    exact h n x hx hen
  unfold enabledViolations
  rw [getD_map_of_nil rfl]
  exact zipIdx_flatMap_pruned hprune (xs.getD []) 0 0 hlist

/-- The same for entries in which there is nothing to delete. -/
theorem enabledViolations_filter (xs : Option (List α))
    (h : ∀ i x, (xs.getD [])[i]? = some x → enabled x = true →
      (check (field.item i) x).map (Violation.moved f) = check (field'.item (rank enabled xs i)) x) :
    enabledViolations enabled check field' (xs.map (·.filter enabled))
      = (enabledViolations enabled check field xs).map (Violation.moved f) := by
  have hpruned := enabledViolations_pruned (fun x => (rfl : enabled (id x) = enabled x)) xs h
  simpa only [List.map_id] using hpruned

end Lists

/-! ## Parts of a draft -/

section Parts

variable {f : FieldPath → FieldPath} (hkey : ∀ field name, f (field.key name) = (f field).key name)
  (field : FieldPath) {field' : FieldPath}
include hkey

theorem Entry.enabledViolations_filter (xs : Option (List Entry))
    (hitem : ∀ i, f (field.item i) = field'.item (rank (·.enabled) xs i)) :
    enabledViolations (·.enabled) violations field' (xs.map (·.filter (·.enabled)))
      = (enabledViolations (·.enabled) violations field xs).map (Violation.moved f) := by
  refine Draft.enabledViolations_filter xs ?_
  intro i e _ _
  rw [Entry.violations_moved hkey, hitem]

theorem SocialLink.enabledViolations_filter (xs : Option (List SocialLink))
    (hitem : ∀ i, f (field.item i) = field'.item (rank (·.enabled) xs i)) :
    enabledViolations (·.enabled) violations field' (xs.map (·.filter (·.enabled)))
      = (enabledViolations (·.enabled) violations field xs).map (Violation.moved f) := by
  refine Draft.enabledViolations_filter xs ?_
  intro i s _ _
  rw [SocialLink.violations_moved hkey, hitem]

/-- The items of a group are renumbered, wherever the group itself is moved. -/
theorem Group.violations_pruned (g : Group) (hmove : f field = field')
    (hitem : ∀ i, f ((field.key "items").item i)
      = (field'.key "items").item (rank (·.enabled) g.items i)) :
    g.pruned.violations field' = (g.violations field).map (Violation.moved f) := by
  have hitems := Entry.enabledViolations_filter hkey (field.key "items") g.items hitem
  have hmissing : (if g.pruned.items.isNone then [Violation.missing (field'.key "items")] else [])
      = (if g.items.isNone then [Violation.missing (field.key "items")] else []).map
        (Violation.moved f) := by
    unfold pruned
    rw [← hmove, ← hkey]
    cases g.items with
    | none => rfl
    | some items => rfl
  unfold violations
  rw [List.map_append, List.map_append, textViolations_moved, hkey, hmove, hmissing, ← hitems]
  rfl

end Parts

/-- The paths in the theme of a draft are renumbered list by list. -/
theorem Theme.violations_pruned (t : Theme) :
    t.pruned.violations (.top "theme")
      = (t.violations (.top "theme")).map (Violation.moved t.renumber) := by
  have hkey : ∀ field name, t.renumber (field.key name) = (t.renumber field).key name :=
    fun _ _ => rfl
  have hnav := Entry.enabledViolations_filter hkey ((FieldPath.top "theme").key "nav") t.nav
    fun _ => rfl
  have hlinks := SocialLink.enabledViolations_filter hkey ((FieldPath.top "theme").key "socialLinks")
    t.socialLinks fun _ => rfl
  have hsidebar : enabledViolations (·.enabled) Group.violations ((FieldPath.top "theme").key "sidebar")
      (t.sidebar.map fun gs => (gs.filter (·.enabled)).map Group.pruned)
        = (enabledViolations (·.enabled) Group.violations ((FieldPath.top "theme").key "sidebar")
          t.sidebar).map (Violation.moved t.renumber) := by
    have hswitch : ∀ g : Group, g.pruned.enabled = g.enabled := fun _ => rfl
    refine enabledViolations_pruned hswitch t.sidebar ?_
    intro i g hg _
    refine (Group.violations_pruned hkey _ g rfl ?_).symm
    intro j
    -- the list of items is looked up in the group at this place, which is `g`
    show FieldPath.item _ (rank (·.enabled) ((t.sidebar.getD [])[i]?.bind (·.items)) j) = _
    rw [hg]
    rfl
  have hlast : (t.lastUpdated.toList.flatMap fun l =>
      textViolations (((FieldPath.top "theme").key "lastUpdated").key "text") l.text).map
        (Violation.moved t.renumber)
      = t.lastUpdated.toList.flatMap fun l =>
        textViolations (((FieldPath.top "theme").key "lastUpdated").key "text") l.text := by
    rw [List.map_flatMap]
    simp only [textViolations_moved]
    rfl
  unfold violations
  rw [List.map_append, List.map_append, List.map_append, ← hnav, ← hsidebar, ← hlinks, hlast]
  rfl

/-- **The violations of a draft without its disabled entries are those of the whole draft**, each at
the path that its entry has among the enabled ones. -/
theorem Site.violations_pruned (d : Site) :
    d.pruned.violations = d.violations.map (Violation.moved d.renumber) := by
  have htheme : d.pruned.theme.toList.flatMap (Theme.violations (.top "theme"))
      = (d.theme.toList.flatMap (Theme.violations (.top "theme"))).map
        (Violation.moved d.renumber) := by
    unfold pruned renumber
    cases d.theme with
    | none => rfl
    | some t =>
      simp only [Option.map_some, Option.toList_some, List.flatMap_cons, List.flatMap_nil,
        List.append_nil, Option.getD_some]
      exact t.violations_pruned
  have hbase : (basePathViolations d.basePath).map (Violation.moved d.renumber)
      = basePathViolations d.basePath := by
    unfold basePathViolations
    cases d.basePath with
    | none => rfl
    | some path =>
      dsimp only
      split
      · rfl
      · rfl
  unfold violations
  rw [List.map_append, List.map_append, textViolations_moved, hbase, htheme]
  rfl

/-! ## Nothing is left to delete -/

theorem map_filter_filter {α : Type} (p : α → Bool) (xs : Option (List α)) :
    (xs.map (·.filter p)).map (·.filter p) = xs.map (·.filter p) := by
  cases xs with
  | none => rfl
  | some xs => simp only [Option.map_some, List.filter_filter, Bool.and_self]

theorem Group.pruned_pruned (g : Group) : g.pruned.pruned = g.pruned := by
  unfold pruned
  rw [map_filter_filter]

/-- Groups stay switched on when their items are deleted. -/
theorem Group.filter_map_pruned (gs : List Group) :
    ((gs.filter (·.enabled)).map pruned).filter (·.enabled) = (gs.filter (·.enabled)).map pruned := by
  have hswitch : ((fun g : Group => g.enabled) ∘ pruned) = fun g => g.enabled := rfl
  rw [List.filter_map, hswitch, List.filter_filter]
  simp only [Bool.and_self]

theorem Theme.pruned_pruned (t : Theme) : t.pruned.pruned = t.pruned := by
  have hsidebar : t.pruned.pruned.sidebar = t.pruned.sidebar := by
    unfold pruned
    cases t.sidebar with
    | none => rfl
    | some gs =>
      simp only [Option.map_some, Group.filter_map_pruned, List.map_map, Option.some.injEq]
      exact List.map_congr_left fun g _ => g.pruned_pruned
  have hnav : t.pruned.pruned.nav = t.pruned.nav := map_filter_filter _ t.nav
  have hlinks : t.pruned.pruned.socialLinks = t.pruned.socialLinks := map_filter_filter _ t.socialLinks
  show Theme.mk t.pruned.pruned.nav t.pruned.pruned.sidebar t.pruned.pruned.socialLinks _ = _
  rw [hnav, hsidebar, hlinks]

theorem Site.pruned_pruned (d : Site) : d.pruned.pruned = d.pruned := by
  unfold pruned
  cases d.theme with
  | none => rfl
  | some t => simp only [Option.map_some, t.pruned_pruned]

end Draft

/-- **Deleting the disabled entries of a draft changes nothing but the numbers in reports.** -/
theorem Validation.result_pruned (d : Draft.Site) :
    (site d.pruned).result = (site d).result.mapError (Violation.moved d.renumber) := by
  cases h : (site d).result with
  | ok s =>
    rw [site_eq_ok, Draft.Site.describes_iff, ← d.pruned_pruned, ← Draft.Site.describes_iff] at h
    exact (site_eq_ok d.pruned s).mpr h
  | error v =>
    have hfirst : d.violations.head? = some v :=
      (reports_site d).symm.trans (Traced.failure?_eq_some.mpr h)
    have hpruned : (site d.pruned).failure? = some (v.moved d.renumber) := by
      rw [reports_site d.pruned, d.violations_pruned, List.head?_map, hfirst]
      rfl
    exact Traced.failure?_eq_some.mp hpruned

end SiteManifest
