import SiteManifest.Proofs.Json.Reordered
import SiteManifest.Proofs.Shape.Form

/-!
# Members that are overlooked

A record is asked for its own keys only, and a key under which nothing stands is as good as none. So a
member with another key, or one that is `null` where this means nothing, may be dropped from an object
that is read as a record, and may be put back. What is read stays the same, and so does the report if
nothing can be read.

## One member at a time

One step drops one member somewhere in a value. It is shown once for each way to make a decoder that
this changes nothing. In a record a field that may be `null` is still blank when its turn comes, since
the fields before it do not get in its way: so storing nothing leaves the record as it is.
-/

namespace SiteManifest.Shape

variable {ρ α β : Type}

namespace Form

/-- The second value is the first one without a member that is not asked for. The member may stand in
any object that is read as a record. -/
inductive Drops : Form → Json → Json → Prop where
  | unknown {fields : List (String × Form)} {least : Nat} {before after : List (String × Json)}
    {k : String} {u : Json} (hk : k ∉ fields.map Prod.fst) :
    Drops (.record fields least) (.object (before ++ (k, u) :: after)) (.object (before ++ after))
  | nothing {fields : List (String × Form)} {least : Nat} {before after : List (String × Json)}
    {k : String} {f : Form} (hfield : (k, .optional f) ∈ fields)
    (hk : k ∉ (before ++ after).map Prod.fst) :
    Drops (.record fields least) (.object (before ++ (k, .null) :: after)) (.object (before ++ after))
  | member {fields : List (String × Form)} {least : Nat} {before after : List (String × Json)}
    {k : String} {f : Form} {v w : Json} (hfield : (k, f) ∈ fields) (hk : k ∉ after.map Prod.fst)
    (h : Drops f v w) :
    Drops (.record fields least) (.object (before ++ (k, v) :: after))
      (.object (before ++ (k, w) :: after))
  | field {fields : List (String × Form)} {least : Nat} {before after : List Json} {k : String}
    {f : Form} {v w : Json} (hfield : fields[before.length]? = some (k, f)) (h : Drops f v w) :
    Drops (.record fields least) (.array (before ++ v :: after)) (.array (before ++ w :: after))
  | item {f : Form} {before after : List Json} {v w : Json} (h : Drops f v w) :
    Drops (.list f) (.array (before ++ v :: after)) (.array (before ++ w :: after))
  | something {f : Form} {v w : Json} (h : Drops f v w) : Drops (.optional f) v w

theorem Drops.ne_null {f : Form} {v w : Json} (h : f.Drops v w) : v ≠ .null ∧ w ≠ .null := by
  induction h with
  | something _ ih => exact ih
  | _ => exact ⟨nofun, nofun⟩

end Form

/-! ## Values -/

/-- A decoder makes the same of a value without a member that is not asked for. -/
def Decoder.Overlooks (d : Decoder α) (f : Form) : Prop :=
  ∀ ⦃v w : Json⦄, f.Drops v w → d.ofJson v = d.ofJson w

namespace Decoder

theorem overlooks_text : text.Overlooks .text := by
  intro v w h
  cases h

theorem overlooks_flag : flag.Overlooks .flag := by
  intro v w h
  cases h

theorem overlooks_oneOf (words : List (String × α)) (names : List String) :
    (oneOf words).Overlooks (.oneOf names) := by
  intro v w h
  cases h

theorem Overlooks.map {d : Decoder α} {f : Form} (hd : d.Overlooks f) (g : α → β) :
    (d.map g).Overlooks f :=
  fun _ _ h => congrArg (Except.map g) (hd h)

theorem Overlooks.optional {d : Decoder α} {f : Form} (hd : d.Overlooks f) :
    d.optional.Overlooks (.optional f) := by
  intro v w h
  cases h with
  | something h => rw [ofJson_optional h.ne_null.1, ofJson_optional h.ne_null.2, hd h]

theorem Overlooks.list {d : Decoder α} {f : Form} (hd : d.Overlooks f) :
    d.list.Overlooks (.list f) := by
  intro v w h
  cases h with
  | @item _ before after v w h =>
    show (before ++ v :: after).mapM d.ofJson = (before ++ w :: after).mapM d.ofJson
    rw [List.mapM_append, List.mapM_append, List.mapM_cons, List.mapM_cons, hd h]

end Decoder

/-! ## Fields -/

/-- A field that is left as it is by a member that is `null`. -/
def Field.Unset (f : Field ρ) (x : ρ) : Prop := ∀ s, f.store.ofJson .null = .ok s → s x = x

/-- Storing another field does not change this. -/
theorem Field.Unset.of_commutes {f g : Field ρ} {x : ρ} {v : Json} {s : ρ → ρ} (hg : g.Unset x)
    (hc : f.Commutes g) (hs : f.store.ofJson v = .ok s) : g.Unset (s x) := by
  intro t ht
  rw [← hc v .null s t hs ht x, hg t ht]

/-- A field overlooks what is not asked for in its values. If it may be `null`, then this is how it is in
the blank record. -/
structure Field.Overlooks (f : Field ρ) (blank : ρ) (key : String) (form : Form) : Prop where
  key_eq : f.key = key
  values : f.store.Overlooks form
  null : ∀ g, form = .optional g → ∃ s, f.store.ofJson .null = .ok s
  unset : f.Unset blank

theorem Field.overlooks_ofOption {key : String} {d : Decoder α} {set : Option α → ρ → ρ} {blank : ρ}
    {form : Form} (hd : d.Overlooks form) (hblank : set none blank = blank) :
    (Field.ofOption key d set).Overlooks blank key (.optional form) where
  key_eq := rfl
  values := hd.optional.map set
  null := fun _ _ => ⟨set none, rfl⟩
  unset := by
    intro s hs
    cases hs
    exact hblank

theorem Field.overlooks_flag {key : String} {set : Bool → ρ → ρ} {blank : ρ} :
    (Field.atEnd key .flag set).Overlooks blank key .flag where
  key_eq := rfl
  values := Decoder.overlooks_flag.map set
  null := nofun
  unset := by
    intro s hs
    cases hs

/-! ## Records -/

namespace Record

theorem lookup_append (k : String) (ms ns : List (String × Json)) :
    Json.lookup k (ms ++ ns) = (Json.lookup k ns).or (Json.lookup k ms) := by
  unfold Json.lookup
  rw [List.reverse_append, List.find?_append, Option.map_or]

/-- What stands under another key does not matter for a key. -/
theorem lookup_append_cons_of_ne {k k' : String} (h : k' ≠ k) (v : Json)
    (before after : List (String × Json)) :
    Json.lookup k (before ++ (k', v) :: after) = Json.lookup k (before ++ after) := by
  rw [lookup_append, lookup_append, lookup_cons_of_ne h]

theorem lookup_append_cons_self {k : String} {after : List (String × Json)}
    (h : k ∉ after.map Prod.fst) (v : Json) (before : List (String × Json)) :
    Json.lookup k (before ++ (k, v) :: after) = some v := by
  rw [lookup_append, lookup_cons_self h, Option.some_or]

/-- Members that give each field the same as long as it is unset give the whole record the same. -/
theorem foldlM_storeMember_of_unset {ms ns : List (String × Json)} :
    ∀ {fs : List (Field ρ)} {x : ρ}, fs.Pairwise Field.Commutes → (∀ f ∈ fs, f.Unset x) →
      (∀ f ∈ fs, ∀ y, f.Unset y → storeMember ms y f = storeMember ns y f) →
      fs.foldlM (storeMember ms) x = fs.foldlM (storeMember ns) x
  | [], _, _, _, _ => rfl
  | f :: fs, x, hc, hx, h => by
    rcases List.pairwise_cons.mp hc with ⟨hcf, hcs⟩
    rcases List.forall_mem_cons.mp hx with ⟨hxf, hxs⟩
    rcases List.forall_mem_cons.mp h with ⟨hf, hfs⟩
    rw [List.foldlM_cons, List.foldlM_cons, hf x hxf]
    cases hy : storeMember ns x f with
    | error m => rfl
    | ok y =>
      refine foldlM_storeMember_of_unset hcs ?_ hfs
      intro g hg
      rcases storeMember_eq_ok hy with ⟨-, rfl⟩ | ⟨v, s, -, hs, rfl⟩
      · exact hxs g hg
      · exact (hxs g hg).of_commutes (hcf g hg) hs

/-- The fields of a record overlook what is not asked for in the forms that stand under their keys. -/
structure OverlooksFields (r : Record ρ) (fields : List (String × Form)) : Prop extends r.Orderly where
  overlooks : List.Forall₂ (fun f g => f.Overlooks r.blank g.1 g.2) r.fields fields

namespace OverlooksFields

variable {r : Record ρ} {fields : List (String × Form)} (h : r.OverlooksFields fields)

include h

theorem exists_form {f : Field ρ} (hf : f ∈ r.fields) :
    ∃ form, (f.key, form) ∈ fields ∧ f.Overlooks r.blank f.key form := by
  rcases exists_mem_of_forall₂ h.overlooks.flip hf with ⟨⟨k, form⟩, hmem, hover⟩
  obtain rfl : f.key = k := hover.key_eq
  exact ⟨form, hmem, hover⟩

/-- Only one field has a key. -/
theorem overlooks_of_mem {f : Field ρ} {form : Form} (hf : f ∈ r.fields)
    (hform : (f.key, form) ∈ fields) : f.Overlooks r.blank f.key form := by
  rcases exists_mem_of_forall₂ h.overlooks hform with ⟨g, hg, hover⟩
  have hfg : g = f := List.inj_on_of_nodup_map h.keys hg hf hover.key_eq
  rw [← hfg] at hover ⊢
  exact hover.key_eq ▸ hover

/-- The fields of a record are unset at first, and each stays so until its turn comes. -/
theorem ofMembers_eq {ms ns : List (String × Json)}
    (hms : ∀ f ∈ r.fields, ∀ x, f.Unset x → storeMember ms x f = storeMember ns x f) :
    r.ofMembers ms = r.ofMembers ns := by
  have hperm : r.fieldsByKey.Perm r.fields := foldr_insertByKey_perm r.fields
  refine foldlM_storeMember_of_unset (h.commutes.perm hperm.symm Field.Commutes.symm) ?_ ?_
  · intro f hf
    rcases h.exists_form (hperm.mem_iff.mp hf) with ⟨form, -, hover⟩
    exact hover.unset
  · intro f hf
    exact hms f (hperm.mem_iff.mp hf)

variable {before after : List (String × Json)} {k : String}

theorem ofMembers_unknown {u : Json} (hk : k ∉ fields.map Prod.fst) :
    r.ofMembers (before ++ (k, u) :: after) = r.ofMembers (before ++ after) := by
  refine h.ofMembers_eq fun f hf x _ => storeMember_congr (lookup_append_cons_of_ne ?_ _ _ _) x
  rintro rfl
  rcases h.exists_form hf with ⟨form, hform, -⟩
  exact hk (List.mem_map_of_mem hform)

theorem ofMembers_nothing {form : Form} (hform : (k, .optional form) ∈ fields)
    (hk : k ∉ (before ++ after).map Prod.fst) :
    r.ofMembers (before ++ (k, .null) :: after) = r.ofMembers (before ++ after) := by
  refine h.ofMembers_eq fun f hf x hx => ?_
  by_cases hkey : k = f.key
  · -- storing `null` succeeds, and it changes nothing since the field is unset
    rw [hkey] at hform hk ⊢
    rcases (h.overlooks_of_mem hf hform).null form rfl with ⟨s, hs⟩
    have hafter : f.key ∉ after.map Prod.fst := by
      rw [List.map_append, List.mem_append] at hk
      exact fun hmem => hk (Or.inr hmem)
    rw [storeMember_of_some (lookup_append_cons_self hafter _ _) hs,
      storeMember_of_none (lookup_of_not_mem hk), hx s hs]
  · exact storeMember_congr (lookup_append_cons_of_ne hkey _ _ _) x

theorem ofMembers_member {form : Form} {v w : Json} (hform : (k, form) ∈ fields)
    (hk : k ∉ after.map Prod.fst) (hvw : form.Drops v w) :
    r.ofMembers (before ++ (k, v) :: after) = r.ofMembers (before ++ (k, w) :: after) := by
  refine h.ofMembers_eq fun f hf x _ => ?_
  by_cases hkey : k = f.key
  · rw [hkey] at hform hk ⊢
    unfold storeMember
    rw [lookup_append_cons_self hk, lookup_append_cons_self hk]
    exact congrArg (Except.map _) ((h.overlooks_of_mem hf hform).values hvw)
  · refine storeMember_congr ?_ x
    rw [lookup_append_cons_of_ne hkey, lookup_append_cons_of_ne hkey]

end OverlooksFields

/-- The item of a list is read by the field at its position. -/
theorem ofItems_of_drops {r : Record ρ} {blank : ρ} {after : List Json} {k : String} {form : Form}
    {v w : Json} (hvw : form.Drops v w) (length : Nat) :
    ∀ {before : List Json} {fs : List (Field ρ)} {fields : List (String × Form)} {n : Nat} {x : ρ},
      List.Forall₂ (fun f g => f.Overlooks blank g.1 g.2) fs fields →
      fields[before.length]? = some (k, form) →
      r.ofItems length n fs (before ++ v :: after) x = r.ofItems length n fs (before ++ w :: after) x
  | _, [], _, _, _, .nil, hform => by cases hform
  | [], f :: fs, _ :: _, n, x, .cons hf _, hform => by
    cases hform
    rw [List.nil_append, List.nil_append]
    unfold ofItems
    rw [hf.values hvw]
  | u :: before, f :: fs, _ :: _, n, x, .cons _ hfs, hform => by
    rw [List.cons_append, List.cons_append]
    unfold ofItems
    split
    · rfl
    · exact ofItems_of_drops hvw length hfs hform

/-- **A record overlooks the members that are not asked for**, in itself and in its fields. -/
theorem OverlooksFields.decoder {r : Record ρ} {fields : List (String × Form)}
    (h : r.OverlooksFields fields) (least : Nat) : r.decoder.Overlooks (.record fields least) := by
  intro v w hvw
  cases hvw with
  | unknown hk => exact h.ofMembers_unknown hk
  | nothing hform hk => exact h.ofMembers_nothing hform hk
  | member hform hk hvw => exact h.ofMembers_member hform hk hvw
  | @field _ _ before after _ _ v w hform hvw =>
    show r.ofItems (before ++ v :: after).length 0 r.fields (before ++ v :: after) r.blank
      = r.ofItems (before ++ w :: after).length 0 r.fields (before ++ w :: after) r.blank
    rw [List.length_append, List.length_append, List.length_cons, List.length_cons]
    exact ofItems_of_drops hvw _ h.overlooks hform

end Record

end SiteManifest.Shape
