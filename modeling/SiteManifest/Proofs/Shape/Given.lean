import SiteManifest.Proofs.Shape.Record

/-!
# What a value gives a record

A record is written as an object or as the list of its fields' values. In a list the values belong to
the keys of the record in order, so a list is read as the object with these members is. Whichever way a
value is written, a record that is read from it holds what the value gives its fields.
-/

namespace SiteManifest

namespace Json

/-- The values that records are written as. -/
inductive IsRecord : Json → Prop where
  | object (members : List (String × Json)) : IsRecord (.object members)
  | array (items : List Json) : IsRecord (.array items)

/-- The members that a value gives a record with some keys, in their order. -/
def membersFor (keys : List String) : Json → List (String × Json)
  | .object members => members
  | .array items => keys.zip items
  | _ => []

/-- What a value gives the field under a key of a record. -/
def given (keys : List String) (v : Json) (key : String) : Option Json :=
  lookup key (v.membersFor keys)

/-- In a list the last key may be given nothing; in an object the last member of a key counts. -/
example :
    (given ["text", "link", "enabled"] (.array [.null, .string "/"]) "link",
      given ["text", "link", "enabled"] (.array [.null, .string "/"]) "enabled",
      given ["text", "link", "enabled"] (.object [("text", .null), ("text", .string "")]) "text")
    = (some (.string "/"), none, some (.string "")) := by rfl

end Json

namespace Shape

variable {ρ α : Type}

/-! ## Values of fields -/

/-- A field holds what it is given, as a decoder reads it, or its blank value if nothing is given. -/
inductive Decoder.Gives (d : Decoder α) (blank : α) : Option Json → α → Prop where
  | absent : Gives d blank none blank
  | value {v : Json} {a : α} (h : d.ofJson v = .ok a) : Gives d blank (some v) a

/-- A field that may be `null` and holds nothing is given nothing. -/
theorem Decoder.Gives.of_none {d : Decoder α} {u : Option Json}
    (h : d.optional.Gives none u none) : u = none ∨ u = some .null := by
  cases h with
  | absent => exact Or.inl rfl
  | @value v _ h =>
    cases v with
    | null => exact Or.inr rfl
    | _ =>
      obtain ⟨a, -, ha⟩ := Except.map_eq_ok.mp h
      cases ha

theorem Decoder.Gives.of_some {d : Decoder α} {u : Option Json} {a : α}
    (h : d.optional.Gives none u (some a)) : ∃ v, u = some v ∧ d.ofJson v = .ok a := by
  cases h with
  | @value v _ h =>
    cases v with
    | null => cases h
    | _ =>
      obtain ⟨b, hb, hab⟩ := Except.map_eq_ok.mp h
      cases hab
      exact ⟨_, rfl, hb⟩

/-- A text that is held was given. -/
theorem Decoder.Gives.text_of_some {u : Option Json} {s : String}
    (h : text.optional.Gives none u (some s)) : u = some (.string s) := by
  obtain ⟨v, rfl, hv⟩ := h.of_some
  cases v with
  | string _ =>
    cases hv
    rfl
  | _ => cases hv

/-- The entries of a list that is held were given at the same positions. -/
theorem Decoder.Gives.list_of_some {d : Decoder α} {u : Option Json} {xs : List α}
    (h : d.list.optional.Gives none u (some xs)) :
    ∃ items, u = some (.array items)
      ∧ ∀ (i : Nat) x, xs[i]? = some x → ∃ w, items[i]? = some w ∧ d.ofJson w = .ok x := by
  obtain ⟨v, rfl, hv⟩ := h.of_some
  cases v with
  | array items => exact ⟨items, rfl, fun i x hi => Except.getElem?_of_mapM hv hi⟩
  | _ => cases hv

namespace Record

/-- The first field sets its part of a record to what it is given, if the part is blank so far. -/
theorem Stored.exists_gives {members : List (String × Json)} {f : Field ρ} {fs : List (Field ρ)}
    {d : Decoder α} {set : α → ρ → ρ} {blank : α} {x z : ρ} (h : Stored members (f :: fs) x z)
    (hf : f.store = d.map set) (hx : set blank x = x) :
    ∃ a, d.Gives blank (Json.lookup f.key members) a ∧ Stored members fs (set a x) z := by
  obtain ⟨y, hy, hrest⟩ := stored_cons.mp h
  obtain ⟨hnone, rfl⟩ | ⟨v, s, hv, hs, rfl⟩ := storeMember_eq_ok hy
  · rw [hnone]
    exact ⟨blank, .absent, hx.symm ▸ hrest⟩
  · rw [hf] at hs
    obtain ⟨a, ha, rfl⟩ := Except.map_eq_ok.mp hs
    rw [hv]
    exact ⟨a, .value ha, hrest⟩

/-! ## Both ways to write a record -/

/-- The items of a list are stored as the members that they are. -/
theorem stored_of_ofItems {r : Record ρ} {length : Nat} :
    ∀ {n : Nat} {fs : List (Field ρ)} {items : List Json} {x y : ρ}, (fs.map Field.key).Nodup →
      r.ofItems length n fs items x = .ok y → Stored ((fs.map Field.key).zip items) fs x y
  | _, [], [], _, _, _, h => by
    cases h
    exact .nil
  | _, [], _ :: _, _, _, _, h => by cases h
  | n, f :: fs, [], x, y, hkeys, h => by
    unfold ofItems at h
    split at h
    · -- all fields that are left may be left out, so nothing is stored
      have hrest := stored_of_ofItems (List.nodup_cons.mp hkeys).2 h
      rw [List.zip_nil_right] at hrest ⊢
      exact stored_nil.mpr (stored_nil.mp hrest)
    · cases h
  | n, f :: fs, v :: vs, x, y, hkeys, h => by
    obtain ⟨hf, hfs⟩ := List.nodup_cons.mp hkeys
    unfold ofItems at h
    split at h
    · cases h
    · next s hs =>
      have hrest := stored_of_ofItems hfs h
      have hvs : f.key ∉ ((fs.map Field.key).zip vs).map Prod.fst := by
        intro hmem
        obtain ⟨m, hm, hkey⟩ := List.mem_map.mp hmem
        exact hf (hkey ▸ (List.of_mem_zip hm).1)
      have hne : ∀ g ∈ fs, g.key ≠ f.key := by
        intro g hg heq
        exact hf (heq ▸ List.mem_map_of_mem hg)
      rw [List.map_cons, List.zip_cons_cons, stored_cons_member hvs rfl hne]
      exact ⟨s, hs, .cons (storeMember_of_none (lookup_of_not_mem hvs) _) hrest⟩

/-- **A record holds what its value gives it**, stored in the order in which the fields are declared. -/
theorem Orderly.stored_of_ofJson {r : Record ρ} (h : r.Orderly) {v : Json} {x : ρ}
    (hx : r.decoder.ofJson v = .ok x) :
    v.IsRecord ∧ Stored (v.membersFor (r.fields.map Field.key)) r.fields r.blank x := by
  cases v with
  | object members =>
    refine ⟨.object members, ?_⟩
    have hperm : r.fields.Perm r.fieldsByKey := (foldr_insertByKey_perm r.fields).symm
    exact (stored_perm hperm h.commutes).mpr (Record.ofMembers_eq_ok.mp hx)
  | array items => exact ⟨.array items, stored_of_ofItems h.keys hx⟩
  | _ => cases hx

end Record

end Shape

end SiteManifest
