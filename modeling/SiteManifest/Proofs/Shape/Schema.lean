import SiteManifest.Proofs.FieldPath
import SiteManifest.Proofs.Shape.Given

/-!
# Schemas

How data is nested, and which paths lead through it. A path names a place by the keys of records and
the positions in lists; what stands at the place is found by following the path through a value,
whichever way the records in it are written. Different places have different texts.
-/

namespace SiteManifest

/-- How data is nested: a list has entries, a record has fields under its keys, a leaf has no parts. -/
inductive Schema where
  | leaf
  | list (item : Schema)
  | record (fields : List (String × Schema))

namespace Schema

/-- The keys of a record. -/
def keys : Schema → List String
  | .record fields => fields.map Prod.fst
  | _ => []

/-- What stands under a key of a record. -/
def field? (name : String) : Schema → Option Schema
  | .record fields => fields.lookup name
  | _ => none

/-- What the entries of a list are. -/
def item? : Schema → Option Schema
  | .list item => some item
  | _ => none

/-- What stands at a path, if data of a schema has such a place. -/
def at? (s : Schema) : FieldPath → Option Schema
  | .root => some s
  | .key parent name => (s.at? parent).bind (field? name)
  | .item parent _ => (s.at? parent).bind item?

/-- An entry is enabled unless it says otherwise. -/
def enables (s : Schema) (v : Json) : Bool :=
  match v.given s.keys "enabled" with
  | some (.bool b) => b
  | _ => true

/-- The entry at a position of a list, if it is enabled. -/
def entry? (item : Schema) (index : Nat) : Json → Option Json
  | .array items => items[index]?.filter item.enables
  | _ => none

/-- Follows a path through a value, and finds what stands at its end. All entries on the way have to be
enabled; their positions are those in the whole lists. -/
def follow? (s : Schema) (v : Json) : FieldPath → Option (Schema × Json)
  | .root => some (s, v)
  | .key parent name => do
    let (t, w) ← follow? s v parent
    return (← field? name t, ← w.given t.keys name)
  | .item parent index => do
    let (t, w) ← follow? s v parent
    let item ← t.item?
    return (item, ← item.entry? index w)

variable {s t part item : Schema} {v w u : Json} {p : FieldPath}

theorem follow?_key {name : String} (h : s.follow? v p = some (t, w))
    (hpart : t.field? name = some part) (hu : w.given t.keys name = some u) :
    s.follow? v (.key p name) = some (part, u) := by
  simp [follow?, h, hpart, hu]

theorem follow?_item {items : List Json} {i : Nat}
    (h : s.follow? v p = some (.list item, .array items)) (hi : items[i]? = some u)
    (hu : item.enables u = true) : s.follow? v (.item p i) = some (item, u) := by
  have hentry : item.entry? i (.array items) = some u := by
    show items[i]?.filter item.enables = some u
    rw [hi, Option.filter_some, if_pos hu]
  simp [follow?, h, item?, hentry]

/-- An entry that is read as enabled is enabled. -/
theorem enables_eq {b : Bool}
    (h : Shape.Decoder.flag.Gives true (v.given s.keys "enabled") b) : s.enables v = b := by
  unfold enables
  cases hu : v.given s.keys "enabled" with
  | none =>
    rw [hu] at h
    cases h
    rfl
  | some u =>
    rw [hu] at h
    cases h with
    | value h =>
      cases u with
      | bool _ =>
        cases h
        rfl
      | _ => cases h

/-- A path that can be followed names a place. -/
theorem at?_of_follow? (h : s.follow? v p = some (t, w)) : s.at? p = some t := by
  induction p generalizing t w with
  | root =>
    cases h
    rfl
  | key parent name ih =>
    simp only [follow?, Option.bind_eq_bind, Option.bind_eq_some_iff] at h
    obtain ⟨⟨t', w'⟩, hparent, part, hpart, u, -, heq⟩ := h
    cases heq
    exact Option.bind_eq_some_iff.mpr ⟨t', ih hparent, hpart⟩
  | item parent index ih =>
    simp only [follow?, Option.bind_eq_bind, Option.bind_eq_some_iff] at h
    obtain ⟨⟨t', w'⟩, hparent, item, hitem, u, -, heq⟩ := h
    cases heq
    exact Option.bind_eq_some_iff.mpr ⟨t', ih hparent, hitem⟩

/-! ## Keys that can be told apart -/

/-- All keys that stand anywhere in a schema are plain. -/
inductive Plain : Schema → Prop where
  | leaf : Plain .leaf
  | list {item : Schema} (h : Plain item) : Plain (.list item)
  | record {fields : List (String × Schema)} (hkeys : ∀ f ∈ fields, FieldPath.PlainKey f.1)
    (h : ∀ f ∈ fields, Plain f.2) : Plain (.record fields)

theorem field?_eq_some {name : String} (h : t.field? name = some part) :
    ∃ fields, t = .record fields ∧ (name, part) ∈ fields := by
  cases t with
  | record fields =>
    obtain ⟨before, after, hfields, -⟩ := List.lookup_eq_some_iff.mp h
    exact ⟨fields, rfl, hfields ▸ List.mem_append_right before (List.mem_cons_self ..)⟩
  | leaf => cases h
  | list _ => cases h

theorem item?_eq_some (h : t.item? = some item) : t = .list item := by
  cases t with
  | list _ =>
    cases h
    rfl
  | leaf => cases h
  | record _ => cases h

/-- The places of a plain schema have plain paths. -/
theorem Plain.path (hs : s.Plain) (h : s.at? p = some t) : t.Plain ∧ p.Plain := by
  induction p generalizing t with
  | root =>
    cases h
    exact ⟨hs, .root⟩
  | key parent name ih =>
    obtain ⟨t', hparent, hpart⟩ := Option.bind_eq_some_iff.mp h
    obtain ⟨hplain, hpath⟩ := ih hparent
    obtain ⟨fields, rfl, hmem⟩ := field?_eq_some hpart
    cases hplain with
    | record hkeys hparts => exact ⟨hparts _ hmem, .key hpath (hkeys _ hmem)⟩
  | item parent index ih =>
    obtain ⟨t', hparent, hitem⟩ := Option.bind_eq_some_iff.mp h
    obtain ⟨hplain, hpath⟩ := ih hparent
    cases item?_eq_some hitem
    cases hplain with
    | list hitem => exact ⟨hitem, .item hpath⟩

/-- **Different places of a schema have different texts**, if its keys are plain. -/
theorem Plain.eq_of_text (hs : s.Plain) {q : FieldPath} (hp : (s.at? p).isSome)
    (hq : (s.at? q).isSome) (h : p.text = q.text) : p = q := by
  obtain ⟨t, ht⟩ := Option.isSome_iff_exists.mp hp
  obtain ⟨t', ht'⟩ := Option.isSome_iff_exists.mp hq
  exact FieldPath.text_injective (hs.path ht).2 (hs.path ht').2 h

end Schema

end SiteManifest
