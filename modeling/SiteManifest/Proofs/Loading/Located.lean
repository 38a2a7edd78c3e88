import SiteManifest.Proofs.Draft.Given
import SiteManifest.Proofs.Loading.Effective
import SiteManifest.Proofs.Validation.Violations

/-!
# Where violations are found

The path of a violation leads from the whole value to what is wrong in it: its keys and positions are
followed through the value as it is written, entries that are switched off counted, and the field at
its end is the one that breaks the rule. As different places have different texts, the text of the path
names one place.

## How a part is followed

What is shown of a part of a draft is that all its violations are found in the whole value, if the part
was read from the value at the path of the part. A list hands this on to its enabled entries, a record
to its fields.
-/

namespace SiteManifest

open Shape

/-! ## What is found -/

namespace Violation

/-- What is given to the field that a violation blames. -/
def Blames : Violation → Option Json → Prop
  | .missing _, u => u = none ∨ u = some .null
  | .emptyText _, u => ∃ text, u = some (.string text) ∧ ¬Text.Shows text
  | .invalidLink _ link _, u => u = some (.string link)
  | .unknownIcon _ icon, u => u = some (.string icon)
  | .invalidBasePath path, u => u = some (.string path)

/-- The path of a violation leads to a field of a record in a value, and what the record gives the field
is to blame. -/
def FoundIn (root : Json) (x : Violation) : Prop :=
  ∃ parent name s v, x.field = .key parent name
    ∧ Draft.Site.schema.follow? root parent = some (s, v) ∧ v.IsRecord
    ∧ (s.field? name).isSome ∧ x.Blames (v.given s.keys name)

end Violation

variable {root v : Json} {p : FieldPath}

/-! ## Texts -/

/-- What may be wrong with a text: it is not given, or the text that is given is to blame. -/
structure IsTextRule (field : FieldPath) (violations : Option String → List Violation) : Prop where
  absent : violations none = [.missing field]
  given : ∀ text, ∀ x ∈ violations (some text), x.field = field ∧ x.Blames (some (.string text))

theorem isTextRule_text (field : FieldPath) : IsTextRule field (textViolations field) where
  absent := rfl
  given text x hx := by
    rw [textViolations] at hx
    split at hx
    · next hblank =>
      cases List.mem_singleton.mp hx
      exact ⟨rfl, text, rfl, by rw [Text.shows_iff, hblank]; decide⟩
    · cases hx

/-- The flaw that is found does not matter: the link is to blame. -/
theorem blames_of_mem_flaws {field : FieldPath} {link : String} {flaw? : Option LinkFlaw} :
    ∀ x ∈ flaw?.toList.map (Violation.invalidLink field link),
      x.field = field ∧ x.Blames (some (.string link)) := by
  intro x hx
  obtain ⟨flaw, -, rfl⟩ := List.mem_map.mp hx
  exact ⟨rfl, rfl⟩

theorem isTextRule_pageLink (field : FieldPath) : IsTextRule field (pageLinkViolations field) where
  absent := rfl
  given link := by
    rw [Validation.pageLinkViolations_some]
    exact blames_of_mem_flaws

theorem isTextRule_address (field : FieldPath) : IsTextRule field (addressViolations field) where
  absent := rfl
  given link := by
    rw [Validation.addressViolations_some]
    exact blames_of_mem_flaws

theorem isTextRule_icon (field : FieldPath) : IsTextRule field (iconViolations field) where
  absent := rfl
  given icon x hx := by
    rw [iconViolations] at hx
    split at hx
    · cases hx
    · cases List.mem_singleton.mp hx
      exact ⟨rfl, rfl⟩

theorem isTextRule_basePath : IsTextRule (.top "basePath") basePathViolations where
  absent := rfl
  given path x hx := by
    rw [basePathViolations] at hx
    split at hx
    · cases hx
    · cases List.mem_singleton.mp hx
      exact ⟨rfl, rfl⟩

/-- What is wrong with a text is wrong at its field. -/
theorem IsTextRule.field_eq {field : FieldPath} {violations : Option String → List Violation}
    (h : IsTextRule field violations) {text : Option String} {x : Violation}
    (hx : x ∈ violations text) : x.field = field := by
  cases text with
  | none =>
    rw [h.absent] at hx
    rw [List.mem_singleton.mp hx]
    rfl
  | some text => exact (h.given text x hx).1

/-- What is wrong with a text of a record is found where the record is. -/
theorem IsTextRule.foundIn {s : Schema} {name : String} {text : Option String}
    {violations : Option String → List Violation} (hrule : IsTextRule (p.key name) violations)
    (hp : Draft.Site.schema.follow? root p = some (s, v)) (hv : v.IsRecord)
    (hname : (s.field? name).isSome)
    (htext : Decoder.text.optional.Gives none (v.given s.keys name) text) :
    ∀ x ∈ violations text, x.FoundIn root := by
  intro x hx
  cases text with
  | none =>
    rw [hrule.absent] at hx
    cases List.mem_singleton.mp hx
    exact ⟨p, name, s, v, rfl, hp, hv, hname, htext.of_none⟩
  | some text =>
    obtain ⟨hfield, hblames⟩ := hrule.given text x hx
    rw [← htext.text_of_some] at hblames
    exact ⟨p, name, s, v, hfield, hp, hv, hname, hblames⟩

/-! ## Parts and lists of entries -/

/-- The violations of a part that may be absent are found where the part is. -/
theorem foundIn_of_optional {α : Type} {d : Decoder α} {check : α → List Violation}
    {s part : Schema} {name : String} {a : Option α}
    (hp : Draft.Site.schema.follow? root p = some (s, v)) (hpart : s.field? name = some part)
    (ha : d.optional.Gives none (v.given s.keys name) a)
    (h : ∀ w a, d.ofJson w = .ok a → Draft.Site.schema.follow? root (p.key name) = some (part, w) →
      ∀ x ∈ check a, x.FoundIn root) :
    ∀ x ∈ a.toList.flatMap check, x.FoundIn root := by
  intro x hx
  obtain ⟨a, hsome, hx⟩ := List.mem_flatMap.mp hx
  rw [Option.mem_toList.mp hsome] at ha
  obtain ⟨w, hgiven, hw⟩ := ha.of_some
  exact h w a hw (Schema.follow?_key hp hpart hgiven) x hx

theorem mem_enabledViolations {α : Type} {enabled : α → Bool}
    {check : FieldPath → α → List Violation} {field : FieldPath} {xs : List α} {x : Violation} :
    x ∈ enabledViolations enabled check field (some xs)
      ↔ ∃ (i : Nat) (e : α), xs[i]? = some e ∧ enabled e = true ∧ x ∈ check (field.item i) e := by
  unfold enabledViolations
  simp only [Option.getD_some, List.mem_flatMap, Prod.exists, List.mem_zipIdx_iff_getElem?]
  constructor
  · rintro ⟨e, i, hi, hx⟩
    split at hx
    · next hen => exact ⟨i, e, hi, hen, hx⟩
    · cases hx
  · rintro ⟨i, e, hi, hen, hx⟩
    exact ⟨e, i, hi, by rw [if_pos hen]; exact hx⟩

/-- The violations of a list are found where those of its enabled entries are. -/
theorem foundIn_of_enabledViolations {α : Type} {d : Decoder α} {enabled : α → Bool}
    {check : FieldPath → α → List Violation} {s item : Schema} {name : String}
    {xs : Option (List α)} (hp : Draft.Site.schema.follow? root p = some (s, v))
    (hitem : s.field? name = some (.list item))
    (hxs : d.list.optional.Gives none (v.given s.keys name) xs)
    (henabled : ∀ w e, d.ofJson w = .ok e → item.enables w = enabled e)
    (hentry : ∀ q w e, d.ofJson w = .ok e → Draft.Site.schema.follow? root q = some (item, w) →
      ∀ x ∈ check q e, x.FoundIn root) :
    ∀ x ∈ enabledViolations enabled check (p.key name) xs, x.FoundIn root := by
  intro x hx
  cases xs with
  | none => cases hx
  | some xs =>
    obtain ⟨items, hgiven, hitems⟩ := hxs.list_of_some
    obtain ⟨i, e, hi, hen, hx⟩ := mem_enabledViolations.mp hx
    obtain ⟨w, hw, he⟩ := hitems i e hi
    have hlist := Schema.follow?_key hp hitem hgiven
    exact hentry _ w e he (Schema.follow?_item hlist hw ((henabled w e he).trans hen)) x hx

namespace Draft

/-! ## Parts -/

theorem Entry.enables_eq {e : Entry} (h : Entry.record.decoder.ofJson v = .ok e) :
    Entry.schema.enables v = e.enabled :=
  Schema.enables_eq (Entry.givenBy_of_ofJson h).enabled

theorem Entry.foundIn {e : Entry} (h : Entry.record.decoder.ofJson v = .ok e)
    (hp : Site.schema.follow? root p = some (Entry.schema, v)) :
    ∀ x ∈ e.violations p, x.FoundIn root := by
  have hgiven := Entry.givenBy_of_ofJson h
  intro x hx
  obtain hx | hx := List.mem_append.mp hx
  · exact (isTextRule_text _).foundIn hp hgiven.shape rfl hgiven.text x hx
  · exact (isTextRule_pageLink _).foundIn hp hgiven.shape rfl hgiven.link x hx

theorem Group.enables_eq {g : Group} (h : Group.record.decoder.ofJson v = .ok g) :
    Group.schema.enables v = g.enabled :=
  Schema.enables_eq (Group.givenBy_of_ofJson h).enabled

theorem Group.foundIn {g : Group} (h : Group.record.decoder.ofJson v = .ok g)
    (hp : Site.schema.follow? root p = some (Group.schema, v)) :
    ∀ x ∈ g.violations p, x.FoundIn root := by
  have hgiven := Group.givenBy_of_ofJson h
  intro x hx
  obtain hx | hx := List.mem_append.mp hx
  · obtain hx | hx := List.mem_append.mp hx
    · exact (isTextRule_text _).foundIn hp hgiven.shape rfl hgiven.text x hx
    · split at hx
      · next hnone =>
        have hitems := hgiven.items
        rw [Option.isNone_iff_eq_none.mp hnone] at hitems
        cases List.mem_singleton.mp hx
        exact ⟨p, "items", _, _, rfl, hp, hgiven.shape, rfl, hitems.of_none⟩
      · cases hx
  · exact foundIn_of_enabledViolations hp rfl hgiven.items (fun _ _ => Entry.enables_eq)
      (fun _ _ _ => Entry.foundIn) x hx

theorem SocialLink.enables_eq {s : SocialLink} (h : SocialLink.record.decoder.ofJson v = .ok s) :
    SocialLink.schema.enables v = s.enabled :=
  Schema.enables_eq (SocialLink.givenBy_of_ofJson h).enabled

theorem SocialLink.foundIn {s : SocialLink} (h : SocialLink.record.decoder.ofJson v = .ok s)
    (hp : Site.schema.follow? root p = some (SocialLink.schema, v)) :
    ∀ x ∈ s.violations p, x.FoundIn root := by
  have hgiven := SocialLink.givenBy_of_ofJson h
  intro x hx
  obtain hx | hx := List.mem_append.mp hx
  · exact (isTextRule_icon _).foundIn hp hgiven.shape rfl hgiven.icon x hx
  · exact (isTextRule_address _).foundIn hp hgiven.shape rfl hgiven.link x hx

theorem LastUpdated.foundIn {l : LastUpdated} (h : LastUpdated.record.decoder.ofJson v = .ok l)
    (hp : Site.schema.follow? root p = some (LastUpdated.schema, v)) :
    ∀ x ∈ textViolations (p.key "text") l.text, x.FoundIn root := by
  have hgiven := LastUpdated.givenBy_of_ofJson h
  exact (isTextRule_text _).foundIn hp hgiven.shape rfl hgiven.text

theorem Theme.foundIn {t : Theme} (h : Theme.record.decoder.ofJson v = .ok t)
    (hp : Site.schema.follow? root p = some (Theme.schema, v)) :
    ∀ x ∈ t.violations p, x.FoundIn root := by
  have hgiven := Theme.givenBy_of_ofJson h
  intro x hx
  simp only [Theme.violations, List.mem_append] at hx
  obtain ((hx | hx) | hx) | hx := hx
  · exact foundIn_of_enabledViolations hp rfl hgiven.nav (fun _ _ => Entry.enables_eq)
      (fun _ _ _ => Entry.foundIn) x hx
  · exact foundIn_of_enabledViolations hp rfl hgiven.sidebar (fun _ _ => Group.enables_eq)
      (fun _ _ _ => Group.foundIn) x hx
  · exact foundIn_of_enabledViolations hp rfl hgiven.socialLinks (fun _ _ => SocialLink.enables_eq)
      (fun _ _ _ => SocialLink.foundIn) x hx
  · exact foundIn_of_optional hp rfl hgiven.lastUpdated (fun _ _ => LastUpdated.foundIn) x hx

/-- The violations of a draft are found in the value that it was read from. -/
theorem Site.foundIn {d : Site} (h : Site.ofJson v = .ok d) : ∀ x ∈ d.violations, x.FoundIn v := by
  have hgiven := Site.givenBy_of_ofJson h
  intro x hx
  simp only [Site.violations, List.mem_append] at hx
  obtain (hx | hx) | hx := hx
  · exact (isTextRule_text _).foundIn rfl hgiven.shape rfl hgiven.title x hx
  · exact isTextRule_basePath.foundIn rfl hgiven.shape rfl hgiven.basePath x hx
  · exact foundIn_of_optional rfl rfl hgiven.theme (fun _ _ => Theme.foundIn) x hx

end Draft

/-! ## Reported violations -/

/-- The field of a violation that is found somewhere is a place of a configuration. -/
theorem Violation.FoundIn.isSome_at? {x : Violation} (h : x.FoundIn root) :
    (Draft.Site.schema.at? x.field).isSome := by
  obtain ⟨parent, name, s, v, hfield, hparent, -, hname, -⟩ := h
  obtain ⟨part, hpart⟩ := Option.isSome_iff_exists.mp hname
  rw [hfield]
  exact Option.isSome_iff_exists.mpr
    ⟨part, Option.bind_eq_some_iff.mpr ⟨s, Schema.at?_of_follow? hparent, hpart⟩⟩

/-- What a failed validation reports is one of the violations. -/
theorem Loading.mem_violations_of_ofJson {x : Violation}
    (h : (Loading.ofJson v).result = .error (.invalid x)) :
    ∃ d, Draft.Site.ofJson v = .ok d ∧ x ∈ d.violations := by
  cases hd : Draft.Site.ofJson v with
  | error m =>
    rw [ofJson_of_mismatch hd] at h
    cases h
  | ok d =>
    rw [ofJson_of_draft hd] at h
    obtain ⟨_, hfirst, ⟨⟩⟩ := ofDraft_eq_error.mp h
    exact ⟨d, rfl, List.mem_of_head? hfirst⟩

/-- **A reported violation is found where its path leads**, and no other place of a configuration has
the text of this path. -/
theorem violation_at_field :
    (∀ v x, (Loading.ofJson v).result = .error (.invalid x) →
        x.FoundIn v ∧ (Draft.Site.schema.at? x.field).isSome)
      ∧ ∀ p q : FieldPath, (Draft.Site.schema.at? p).isSome → (Draft.Site.schema.at? q).isSome →
        p.text = q.text → p = q := by
  constructor
  · intro v x h
    obtain ⟨d, hd, hx⟩ := Loading.mem_violations_of_ofJson h
    have hfound := Draft.Site.foundIn hd x hx
    exact ⟨hfound, hfound.isSome_at?⟩
  · intro p q hp hq h
    exact Draft.Site.schema_plain.eq_of_text hp hq h

/-- The second entry of a navigation, behind one that is switched off and has the same bad link. The
theme and the first entry are written as lists. -/
theorem violation_at_field_behind :
    let nav := (FieldPath.top "theme").key "nav"
    let first : Json := .array [.null, .string "home", .bool false]
    let second : Json := .object [("link", .string "home"), ("text", .string "Home")]
    let v : Json := .object [("title", .string "Docs"), ("basePath", .string "/"),
      ("theme", .array [.array [first, second], .null, .null, .null])]
    let x := Violation.invalidLink ((nav.item 1).key "link") "home" .notRooted
    ((Loading.ofJson v).result = .error (.invalid x) ∧ x.field.text = "theme.nav[1].link"
        ∧ x.FoundIn v)
      ∧ ((nav.item 11).key "text").text ≠ ((nav.item 1).key "text").text := by
  intro nav first second v x
  have hreport : (Loading.ofJson v).result = .error (.invalid x) := by rfl
  refine ⟨⟨hreport, by rfl, (violation_at_field.1 v x hreport).1⟩, ?_⟩
  intro htext
  have hsame := violation_at_field.2 _ _ rfl rfl htext
  exact absurd hsame (by decide)

end SiteManifest
