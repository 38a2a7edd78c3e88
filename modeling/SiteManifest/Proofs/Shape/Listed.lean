import SiteManifest.Proofs.Shape.Overlooked

/-!
# Records that are written as lists

An object that is read as a record may be written as a list instead: the values of the fields in the order
in which they are declared. Where the object gives a field nothing, the list says so, unless the list ends
before. So every object has several lists, and in each of them other objects may be written as lists again.

## One object at a time

One step writes one object as a list, somewhere in a value. It is shown once for each way to make a decoder
that the same data is read before and after. Only what is read can be the same: an object is looked at in
the order of its keys and a list in its own order, so of several faults they may report different ones.
-/

namespace SiteManifest.Shape

variable {ρ α β : Type}

namespace Form

/-- What stands in a list for a field that is not given. It is `null`, and a flag that may not be `null`
is set. -/
def blank : Form → Json
  | .flag => .bool true
  | _ => .null

/-- What stands in a list for a field of an object. -/
def listedValue (members : List (String × Json)) (f : String × Form) : Json :=
  (Json.lookup f.1 members).getD f.2.blank

/-- The second value is the first one with an object written as a list. The object may stand anywhere
where a record is read. The list has at least the values that a record needs, and it may end before fields
that the object does not give. -/
inductive Lists : Form → Json → Json → Prop where
  | record {fields : List (String × Form)} {least count : Nat} {members : List (String × Json)}
    (hleast : least ≤ count) (hrest : ∀ f ∈ fields.drop count, Json.lookup f.1 members = none) :
    Lists (.record fields least) (.object members)
      (.array ((fields.take count).map (listedValue members)))
  | member {fields : List (String × Form)} {least : Nat} {before after : List (String × Json)}
    {k : String} {f : Form} {v w : Json} (hfield : (k, f) ∈ fields) (hk : k ∉ after.map Prod.fst)
    (h : Lists f v w) :
    Lists (.record fields least) (.object (before ++ (k, v) :: after))
      (.object (before ++ (k, w) :: after))
  | field {fields : List (String × Form)} {least : Nat} {before after : List Json} {k : String}
    {f : Form} {v w : Json} (hfield : fields[before.length]? = some (k, f)) (h : Lists f v w) :
    Lists (.record fields least) (.array (before ++ v :: after)) (.array (before ++ w :: after))
  | item {f : Form} {before after : List Json} {v w : Json} (h : Lists f v w) :
    Lists (.list f) (.array (before ++ v :: after)) (.array (before ++ w :: after))
  | something {f : Form} {v w : Json} (h : Lists f v w) : Lists (.optional f) v w

theorem Lists.ne_null {f : Form} {v w : Json} (h : f.Lists v w) : v ≠ .null ∧ w ≠ .null := by
  induction h with
  | something _ ih => exact ih
  | _ => exact ⟨nofun, nofun⟩

end Form

/-! ## Values -/

/-- A decoder reads the same data from a value with an object written as a list. -/
def Decoder.ReadsLists (d : Decoder α) (f : Form) : Prop :=
  ∀ ⦃v w : Json⦄, f.Lists v w → ∀ x, d.ofJson v = .ok x ↔ d.ofJson w = .ok x

namespace Decoder

theorem readsLists_text : text.ReadsLists .text := by
  intro v w h
  cases h

theorem readsLists_flag : flag.ReadsLists .flag := by
  intro v w h
  cases h

theorem readsLists_oneOf (words : List (String × α)) (names : List String) :
    (oneOf words).ReadsLists (.oneOf names) := by
  intro v w h
  cases h

theorem ReadsLists.map {d : Decoder α} {f : Form} (hd : d.ReadsLists f) (g : α → β) :
    (d.map g).ReadsLists f := by
  intro v w h x
  show (d.ofJson v).map g = .ok x ↔ (d.ofJson w).map g = .ok x
  simp only [Except.map_eq_ok, hd h]

theorem ReadsLists.optional {d : Decoder α} {f : Form} (hd : d.ReadsLists f) :
    d.optional.ReadsLists (.optional f) := by
  intro v w h x
  cases h with
  | something h =>
    rw [ofJson_optional h.ne_null.1, ofJson_optional h.ne_null.2]
    simp only [Except.map_eq_ok, hd h]

theorem ReadsLists.list {d : Decoder α} {f : Form} (hd : d.ReadsLists f) :
    d.list.ReadsLists (.list f) := by
  intro v w h x
  cases h with
  | @item _ before after v w h =>
    show (before ++ v :: after).mapM d.ofJson = .ok x ↔ (before ++ w :: after).mapM d.ofJson = .ok x
    simp only [List.mapM_append, List.mapM_cons, Except.bind_eq_ok, hd h]

end Decoder

/-! ## Fields -/

/-- What a list has for a field that is not given leaves the field of a record as it is. -/
def Field.Kept (f : Field ρ) (form : Form) (x : ρ) : Prop :=
  ∃ s, f.store.ofJson form.blank = .ok s ∧ s x = x

/-- Storing another field does not change this. -/
theorem Field.Kept.of_commutes {f g : Field ρ} {form : Form} {x : ρ} {v : Json} {s : ρ → ρ}
    (hg : g.Kept form x) (hc : f.Commutes g) (hs : f.store.ofJson v = .ok s) : g.Kept form (s x) := by
  rcases hg with ⟨t, ht, htx⟩
  refine ⟨t, ht, ?_⟩
  rw [← hc v _ s t hs ht x, htx]

/-- A field reads lists in its values, and what a list has for it if it is not given is what it holds in
the blank record. -/
structure Field.ReadsLists (f : Field ρ) (blank : ρ) (key : String) (form : Form) : Prop where
  key_eq : f.key = key
  values : f.store.ReadsLists form
  kept : f.Kept form blank

theorem Field.readsLists_ofOption {key : String} {d : Decoder α} {set : Option α → ρ → ρ} {blank : ρ}
    {form : Form} (hd : d.ReadsLists form) (hblank : set none blank = blank) :
    (Field.ofOption key d set).ReadsLists blank key (.optional form) where
  key_eq := rfl
  values := hd.optional.map set
  kept := ⟨set none, rfl, hblank⟩

theorem Field.readsLists_flag {key : String} {set : Bool → ρ → ρ} {blank : ρ}
    (hblank : set true blank = blank) :
    (Field.atEnd key .flag set).ReadsLists blank key .flag where
  key_eq := rfl
  values := Decoder.readsLists_flag.map set
  kept := ⟨set true, rfl, hblank⟩

/-! ## Records -/

namespace Record

theorem storeMember_of_some_eq_ok {members : List (String × Json)} {f : Field ρ} {v : Json}
    (h : Json.lookup f.key members = some v) {x y : ρ} :
    storeMember members x f = .ok y ↔ ∃ s, f.store.ofJson v = .ok s ∧ s x = y := by
  unfold storeMember
  rw [h]
  exact Except.map_eq_ok

theorem ofItems_cons_eq_ok {r : Record ρ} {length n : Nat} {f : Field ρ} {fs : List (Field ρ)}
    {v : Json} {vs : List Json} {x y : ρ} :
    r.ofItems length n (f :: fs) (v :: vs) x = .ok y
      ↔ ∃ s, f.store.ofJson v = .ok s ∧ r.ofItems length (n + 1) fs vs (s x) = .ok y := by
  conv_lhs => unfold ofItems
  cases f.store.ofJson v with
  | error m => simp
  | ok s => simp

/-- **The list of an object is stored as its members are.** The induction is on the fields that are left.
None of them has been stored, so a field that is not given may as well be stored as it is. -/
theorem ofItems_listedValue {r : Record ρ} {length : Nat} {members : List (String × Json)}
    {fs : List (Field ρ)} {fields : List (String × Form)} {count n : Nat} {x y : ρ}
    (hfs : List.Forall₂ (fun f g => f.key = g.1 ∧ f.Kept g.2 x) fs fields)
    (hc : fs.Pairwise Field.Commutes) (homit : ∀ f ∈ fs.drop count, f.omittable = true)
    (hrest : ∀ g ∈ fields.drop count, Json.lookup g.1 members = none) :
    r.ofItems length n fs ((fields.take count).map (Form.listedValue members)) x = .ok y
      ↔ Stored members fs x y := by
  induction fs generalizing fields count n x with
  | nil =>
    cases hfs
    rw [List.take_nil, List.map_nil, ofItems, Except.ok.injEq]
    constructor
    · rintro rfl
      exact .nil
    · intro h
      cases h
      rfl
  | cons f fs ih =>
    rcases List.pairwise_cons.mp hc with ⟨hcf, hcs⟩
    cases hfs with
    | @cons _ g _ fields hg hfs =>
    rcases hg with ⟨hkey, hkept⟩
    cases count with
    | zero =>
      have hnone : Json.lookup f.key members = none := hkey ▸ hrest g List.mem_cons_self
      have hleft := @ih fields 0 (n + 1) x hfs hcs (fun f hf => homit f (List.mem_cons_of_mem _ hf))
        fun g hg => hrest g (List.mem_cons_of_mem _ hg)
      rw [List.take_zero, List.map_nil] at hleft ⊢
      rw [ofItems, if_pos (homit f List.mem_cons_self), hleft, stored_cons]
      simp only [storeMember_of_none hnone, Except.ok.injEq, exists_eq_left']
    | succ count =>
      have hleft : ∀ {v s}, f.store.ofJson v = .ok s →
          (r.ofItems length (n + 1) fs ((fields.take count).map (Form.listedValue members)) (s x)
              = .ok y
            ↔ Stored members fs (s x) y) := by
        intro v s hs
        refine ih ?_ hcs homit hrest
        exact ((List.forall₂_and_left _ _).mpr ⟨hcf, hfs⟩).imp fun f' g' h =>
          ⟨h.2.1, h.2.2.of_commutes h.1 hs⟩
      have hvalue : Form.listedValue members g = (Json.lookup f.key members).getD g.2.blank := by
        rw [hkey]
        rfl
      rw [List.take_succ_cons, List.map_cons, ofItems_cons_eq_ok, stored_cons, hvalue]
      cases hv : Json.lookup f.key members with
      | none =>
        rcases hkept with ⟨t, ht, htx⟩
        simp only [Option.getD_none, ht, storeMember_of_none hv, Except.ok.injEq, exists_eq_left']
        rw [hleft ht, htx]
      | some v =>
        simp only [Option.getD_some, storeMember_of_some_eq_ok hv]
        constructor
        · rintro ⟨s, hs, hrest⟩
          exact ⟨s x, ⟨s, hs, rfl⟩, (hleft hs).mp hrest⟩
        · rintro ⟨_, ⟨s, hs, rfl⟩, hrest⟩
          exact ⟨s, hs, (hleft hs).mpr hrest⟩

/-- The fields of a record read lists in the forms that stand under their keys, and all fields behind the
first `least` may be left out of a list. -/
structure ReadsListsFields (r : Record ρ) (fields : List (String × Form)) (least : Nat) : Prop
    extends r.Orderly where
  reads : List.Forall₂ (fun f g => f.ReadsLists r.blank g.1 g.2) r.fields fields
  omittable : ∀ f ∈ r.fields.drop least, f.omittable = true

namespace ReadsListsFields

variable {r : Record ρ} {fields : List (String × Form)} {least : Nat}
  (h : r.ReadsListsFields fields least)

include h

theorem values_of_mem {f : Field ρ} {form : Form} (hf : f ∈ r.fields)
    (hform : (f.key, form) ∈ fields) : f.store.ReadsLists form := by
  rcases exists_mem_of_forall₂ h.reads hform with ⟨g, hg, hreads⟩
  have hfg : g = f := List.inj_on_of_nodup_map h.keys hg hf hreads.key_eq
  exact hfg ▸ hreads.values

/-- The record that members hold is stored in the order in which the fields are declared. -/
theorem ofMembers_eq_ok {members : List (String × Json)} {x : ρ} :
    r.ofMembers members = .ok x ↔ Stored members r.fields r.blank x := by
  have hperm : r.fieldsByKey.Perm r.fields := foldr_insertByKey_perm r.fields
  rw [Record.ofMembers_eq_ok, stored_perm hperm (h.commutes.perm hperm.symm Field.Commutes.symm)]

theorem ofItems_listed {members : List (String × Json)} {count length : Nat}
    (hleast : least ≤ count) (hrest : ∀ g ∈ fields.drop count, Json.lookup g.1 members = none) {x : ρ} :
    r.ofItems length 0 r.fields ((fields.take count).map (Form.listedValue members)) r.blank = .ok x
      ↔ Stored members r.fields r.blank x := by
  refine ofItems_listedValue (h.reads.imp fun _ _ hf => ⟨hf.key_eq, hf.kept⟩) h.commutes ?_ hrest
  exact fun f hf => h.omittable f (List.drop_subset_drop_left _ hleast hf)

theorem ofMembers_member {before after : List (String × Json)} {k : String} {form : Form} {v w : Json}
    (hform : (k, form) ∈ fields) (hk : k ∉ after.map Prod.fst) (hvw : form.Lists v w) {x : ρ} :
    r.ofMembers (before ++ (k, v) :: after) = .ok x
      ↔ r.ofMembers (before ++ (k, w) :: after) = .ok x := by
  rw [h.ofMembers_eq_ok, h.ofMembers_eq_ok]
  refine stored_iff_of_storeMember fun f hf x y => ?_
  by_cases hkey : k = f.key
  · rw [hkey] at hform hk ⊢
    rw [storeMember_of_some_eq_ok (lookup_append_cons_self hk _ _),
      storeMember_of_some_eq_ok (lookup_append_cons_self hk _ _)]
    simp only [h.values_of_mem hf hform hvw]
  · rw [storeMember_congr]
    rw [lookup_append_cons_of_ne hkey, lookup_append_cons_of_ne hkey]

end ReadsListsFields

/-- The item of a list is read by the field at its position. -/
theorem ofItems_of_lists {r : Record ρ} {blank : ρ} {after : List Json} {k : String} {form : Form}
    {v w : Json} (hvw : form.Lists v w) (length : Nat) :
    ∀ {before : List Json} {fs : List (Field ρ)} {fields : List (String × Form)} {n : Nat} {x y : ρ},
      List.Forall₂ (fun f g => f.ReadsLists blank g.1 g.2) fs fields →
      fields[before.length]? = some (k, form) →
      (r.ofItems length n fs (before ++ v :: after) x = .ok y
        ↔ r.ofItems length n fs (before ++ w :: after) x = .ok y)
  | _, [], _, _, _, _, .nil, hform => by cases hform
  | [], f :: fs, _ :: _, n, x, y, .cons hf _, hform => by
    cases hform
    simp only [List.nil_append, ofItems_cons_eq_ok, hf.values hvw]
  | u :: before, f :: fs, _ :: _, n, x, y, .cons _ hfs, hform => by
    simp only [List.cons_append, ofItems_cons_eq_ok, ofItems_of_lists hvw length hfs hform]

/-- **A record is read from a list as from an object**, in itself and in its fields. -/
theorem ReadsListsFields.decoder {r : Record ρ} {fields : List (String × Form)} {least : Nat}
    (h : r.ReadsListsFields fields least) : r.decoder.ReadsLists (.record fields least) := by
  intro v w hvw x
  cases hvw with
  | @record _ _ count members hleast hrest =>
    show r.ofMembers members = .ok x ↔ r.ofItems _ 0 r.fields _ r.blank = .ok x
    rw [h.ofMembers_eq_ok, h.ofItems_listed hleast hrest]
  | member hform hk hvw => exact h.ofMembers_member hform hk hvw
  | @field _ _ before after _ _ v w hform hvw =>
    show r.ofItems (before ++ v :: after).length 0 r.fields (before ++ v :: after) r.blank = .ok x
      ↔ r.ofItems (before ++ w :: after).length 0 r.fields (before ++ w :: after) r.blank = .ok x
    rw [List.length_append, List.length_append, List.length_cons, List.length_cons]
    exact ofItems_of_lists hvw _ h.reads hform

end Record

end SiteManifest.Shape
