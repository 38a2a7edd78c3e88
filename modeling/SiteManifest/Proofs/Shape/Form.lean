import Mathlib.Data.List.Forall2
import SiteManifest.FieldPath
import SiteManifest.Proofs.Shape.Record

/-!
# Forms

What a value has to look like to be read as data of some kind, said without reading it. A form is a
grammar of values: what fits a record is what fits its fields, whichever way the record is written, and
nothing is asked of the fields that a record does not have.

## Readers

A decoder reads a form if it succeeds on the values that fit the form and fails on all others. This is
shown once for each way to make a decoder, so that the decoder of a whole configuration follows part by
part.

## Places

A value that fits a form has a form at each of its places, and what stands there fits it. So one value
that fits nowhere spoils the whole.
-/

namespace SiteManifest.Shape

variable {ρ α β : Type}

/-- The form of a value. A record has a form under each of its keys; as a list it may end after a number
of fields, all others have to be given. -/
inductive Form where
  | text
  | flag
  | oneOf (words : List String)
  | optional (form : Form)
  | list (item : Form)
  | record (fields : List (String × Form)) (least : Nat)

namespace Form

/-- A value fits a form. The words of a form may also stand as the only key of an object whose value is
`null`. -/
inductive Fits : Form → Json → Prop where
  | text (s : String) : Fits .text (.string s)
  | flag (b : Bool) : Fits .flag (.bool b)
  | word {words : List String} {w : String} (h : w ∈ words) : Fits (.oneOf words) (.string w)
  | key {words : List String} {w : String} {members : List (String × Json)} (h : w ∈ words)
    (hkeys : ∀ m ∈ members, m.1 = w) (hnull : Json.lookup w members = some .null) :
    Fits (.oneOf words) (.object members)
  | nothing {f : Form} : Fits (.optional f) .null
  | something {f : Form} {v : Json} (h : Fits f v) : Fits (.optional f) v
  | list {f : Form} {items : List Json} (h : ∀ v ∈ items, Fits f v) : Fits (.list f) (.array items)
  | object {fields : List (String × Form)} {least : Nat} {members : List (String × Json)}
    (h : ∀ f ∈ fields, ∀ v, Json.lookup f.1 members = some v → Fits f.2 v) :
    Fits (.record fields least) (.object members)
  | array {fields : List (String × Form)} {least : Nat} {items : List Json}
    (hleast : least ≤ items.length) (hmost : items.length ≤ fields.length)
    (h : ∀ p ∈ fields.zip items, Fits p.1.2 p.2) : Fits (.record fields least) (.array items)

/-! ## What fits no form, or only records -/

/-- Whether a record fits a form. -/
def takesRecord : Form → Bool
  | .record .. => true
  | .optional f => f.takesRecord
  | _ => false

variable {f g : Form}

theorem fits_optional_iff {v : Json} : (Form.optional f).Fits v ↔ v = .null ∨ f.Fits v := by
  constructor
  · intro h
    cases h with
    | nothing => exact Or.inl rfl
    | something h => exact Or.inr h
  · rintro (rfl | h)
    · exact .nothing
    · exact .something h

/-- Nothing that is read is a number. -/
theorem not_fits_number {n : Json.Number} : ∀ {f : Form}, ¬f.Fits (.number n)
  | .optional _, .something h => not_fits_number h

/-- An object is read as a record, unless one of its keys holds nothing. -/
theorem not_fits_object {members : List (String × Json)}
    (hnull : ∀ w, Json.lookup w members ≠ some .null) :
    ∀ {f : Form}, f.takesRecord = false → ¬f.Fits (.object members)
  | .optional f, hrecord, .something h => not_fits_object hnull (f := f) hrecord h
  | .oneOf _, _, .key _ _ h => hnull _ h

/-! ## Places -/

/-- At a path of a value stands a value, for which a form is wanted. A value that may be `null` and is
not is wanted in the form behind this. -/
inductive Leads (f : Form) (v : Json) : FieldPath → Form → Json → Prop where
  | root : Leads f v .root f v
  | member {p : FieldPath} {fields : List (String × Form)} {least : Nat}
    {members : List (String × Json)} {name : String} {part : Form} {u : Json}
    (h : Leads f v p (.record fields least) (.object members)) (hpart : (name, part) ∈ fields)
    (hu : Json.lookup name members = some u) : Leads f v (.key p name) part u
  | value {p : FieldPath} {fields : List (String × Form)} {least : Nat} {items : List Json} {i : Nat}
    {name : String} {part : Form} {u : Json}
    (h : Leads f v p (.record fields least) (.array items)) (hpart : fields[i]? = some (name, part))
    (hu : items[i]? = some u) : Leads f v (.key p name) part u
  | item {p : FieldPath} {item : Form} {items : List Json} {i : Nat} {u : Json}
    (h : Leads f v p (.list item) (.array items)) (hu : items[i]? = some u) :
    Leads f v (.item p i) item u
  | something {p : FieldPath} {g : Form} {u : Json} (h : Leads f v p (.optional g) u)
    (hu : u ≠ .null) : Leads f v p g u

/-- **What stands at a place fits the form that is wanted there**, if the whole value fits. -/
theorem Leads.fits {v w : Json} {p : FieldPath} (h : f.Leads v p g w) (hv : f.Fits v) : g.Fits w := by
  induction h with
  | root => exact hv
  | member _ hpart hu ih =>
    cases ih with
    | object h => exact h _ hpart _ hu
  | @value _ fields _ items i name part u _ hpart hu ih =>
    cases ih with
    | array _ _ h =>
      have hzip : (fields.zip items)[i]? = some ((name, part), u) := by
        rw [List.getElem?_zip_eq_some]
        exact ⟨hpart, hu⟩
      exact h _ (List.mem_of_getElem? hzip)
  | item _ hu ih =>
    cases ih with
    | list h => exact h _ (List.mem_of_getElem? hu)
  | something _ hu ih =>
    obtain hnull | h := fits_optional_iff.mp ih
    · exact absurd hnull hu
    · exact h

end Form

/-! ## Readers -/

/-- A decoder reads the values that fit a form, and no others. -/
def Decoder.Reads (d : Decoder α) (f : Form) : Prop := ∀ v, (∃ a, d.ofJson v = .ok a) ↔ f.Fits v

namespace Decoder

theorem reads_text : text.Reads .text := by
  intro v
  constructor
  · rintro ⟨s, h⟩
    cases v with
    | string s => exact .text s
    | _ => cases h
  · rintro ⟨s⟩
    exact ⟨s, rfl⟩

theorem reads_flag : flag.Reads .flag := by
  intro v
  constructor
  · rintro ⟨_, h⟩
    cases v with
    | bool b => exact .flag b
    | _ => cases h
  · rintro ⟨⟩
    exact ⟨_, rfl⟩

/-! ### Words -/

theorem exists_meaning {words : List (String × α)} {w : String} :
    (∃ x, meaning words w = .ok x) ↔ w ∈ words.map Prod.fst := by
  have hmem : w ∈ words.map Prod.fst ↔ (words.lookup w).isSome = true := by
    simp [List.lookup_isSome_iff]
  rw [hmem]
  unfold meaning
  cases words.lookup w with
  | none => simp
  | some x => simp

/-- In an object with a single key, which may be repeated, the last member counts. -/
theorem lookup_of_single {w : String} {members : List (String × Json)}
    (h : ∀ m ∈ members, m.1 = w) : Json.lookup w members = members.getLast?.map Prod.snd := by
  unfold Json.lookup
  rw [← List.head?_reverse]
  cases hrev : members.reverse with
  | nil => rfl
  | cons m ms =>
    have hm : m.1 = w := h m (List.mem_reverse.mp (hrev ▸ List.mem_cons_self ..))
    rw [List.find?_cons_of_pos (by rw [beq_iff_eq]; exact hm)]
    rfl

theorem reads_oneOf (words : List (String × α)) :
    (oneOf words).Reads (.oneOf (words.map Prod.fst)) := by
  intro v
  cases v with
  | string w =>
    constructor
    · intro h
      exact .word (exists_meaning.mp h)
    · intro h
      cases h with
      | word h => exact exists_meaning.mpr h
  | object members =>
    constructor
    · rintro ⟨x, hx⟩
      unfold oneOf at hx
      dsimp only at hx
      split at hx
      · cases hx
      · next w u hlast =>
        split at hx
        · cases hx
        · next hany =>
          obtain ⟨y, hy, hx⟩ := Except.bind_eq_ok.mp hx
          split at hx
          · next hnull =>
            have hkeys : ∀ m ∈ members, m.1 = w := by simpa using hany
            refine .key (exists_meaning.mp ⟨y, hy⟩) hkeys ?_
            rw [lookup_of_single hkeys, hlast, Json.isNull_iff.mp hnull]
            rfl
          · cases hx
    · intro h
      cases h with
      | @key _ w _ h hkeys hnull =>
        rw [lookup_of_single hkeys, Option.map_eq_some_iff] at hnull
        obtain ⟨⟨w', u⟩, hlast, rfl⟩ := hnull
        obtain rfl : w' = w := hkeys _ (List.mem_of_getLast? hlast)
        obtain ⟨x, hx⟩ := exists_meaning.mpr h
        have hany : members.any (·.1 != w') = false := by simpa using hkeys
        refine ⟨x, ?_⟩
        unfold oneOf
        dsimp only
        rw [hlast]
        dsimp only
        rw [hany, hx]
        rfl
  | _ =>
    constructor
    · rintro ⟨_, h⟩
      cases h
    · intro h
      cases h

/-! ### Parts -/

theorem Reads.map {d : Decoder α} {f : Form} (h : d.Reads f) (g : α → β) : (d.map g).Reads f := by
  intro v
  rw [← h v]
  constructor
  · rintro ⟨b, hb⟩
    obtain ⟨a, ha, -⟩ := Except.map_eq_ok.mp hb
    exact ⟨a, ha⟩
  · rintro ⟨a, ha⟩
    exact ⟨g a, Except.map_eq_ok.mpr ⟨a, ha, rfl⟩⟩

theorem Reads.optional {d : Decoder α} {f : Form} (h : d.Reads f) :
    d.optional.Reads (.optional f) := by
  intro v
  rw [Form.fits_optional_iff, ← h v]
  cases v with
  | null => exact ⟨fun _ => Or.inl rfl, fun _ => ⟨none, rfl⟩⟩
  | _ =>
    constructor
    · rintro ⟨_, hx⟩
      obtain ⟨a, ha, -⟩ := Except.map_eq_ok.mp hx
      exact Or.inr ⟨a, ha⟩
    · rintro (hnull | ⟨a, ha⟩)
      · cases hnull
      · exact ⟨some a, Except.map_eq_ok.mpr ⟨a, ha, rfl⟩⟩

theorem Reads.list {d : Decoder α} {f : Form} (h : d.Reads f) : d.list.Reads (.list f) := by
  intro v
  cases v with
  | array items =>
    have hitems : (∃ xs, d.list.ofJson (.array items) = .ok xs) ↔ ∀ w ∈ items, f.Fits w := by
      simp only [← h _]
      exact Except.exists_mapM_eq_ok
    rw [hitems]
    constructor
    · exact .list
    · intro hfits
      cases hfits with
      | list hfits => exact hfits
  | _ =>
    constructor
    · rintro ⟨_, hx⟩
      cases hx
    · intro hfits
      cases hfits

theorem Reads.ofOption {d : Decoder α} {f : Form} (h : d.Reads f) {key : String}
    {set : Option α → ρ → ρ} : (Field.ofOption key d set).store.Reads (.optional f) :=
  h.optional.map set

theorem Reads.atEnd {d : Decoder α} {f : Form} (h : d.Reads f) {key : String} {set : α → ρ → ρ} :
    (Field.atEnd key d set).store.Reads f :=
  h.map set

end Decoder

/-! ## Records -/

namespace Record

/-- A record can be read from members if every field can be read from the member that it is given. -/
theorem exists_stored {members : List (String × Json)} : ∀ {fs : List (Field ρ)} {x : ρ},
    (∃ y, Stored members fs x y)
      ↔ ∀ f ∈ fs, ∀ v, Json.lookup f.key members = some v → ∃ s, f.store.ofJson v = .ok s
  | [], x => ⟨fun _ _ h => (nomatch h), fun _ => ⟨x, .nil⟩⟩
  | f :: fs, x => by
    rw [List.forall_mem_cons]
    constructor
    · rintro ⟨y, h⟩
      obtain ⟨z, hz, h⟩ := stored_cons.mp h
      refine ⟨?_, exists_stored.mp ⟨y, h⟩⟩
      intro v hv
      obtain ⟨hnone, -⟩ | ⟨w, s, hw, hs, -⟩ := storeMember_eq_ok hz
      · rw [hnone] at hv
        cases hv
      · rw [hw] at hv
        cases hv
        exact ⟨s, hs⟩
    · rintro ⟨hf, hfs⟩
      cases hv : Json.lookup f.key members with
      | none =>
        obtain ⟨y, hy⟩ := exists_stored.mpr hfs
        exact ⟨y, .cons (storeMember_of_none hv x) hy⟩
      | some v =>
        obtain ⟨s, hs⟩ := hf v hv
        obtain ⟨y, hy⟩ := exists_stored.mpr hfs
        exact ⟨y, .cons (storeMember_of_some hv hs x) hy⟩

/-- A record can be read from a list if the list is not too long, each of its items can be read, and the
fields that are left may be left out. -/
theorem exists_ofItems {r : Record ρ} {length : Nat} :
    ∀ {n : Nat} {fs : List (Field ρ)} {items : List Json} {x : ρ},
      (∃ y, r.ofItems length n fs items x = .ok y)
        ↔ items.length ≤ fs.length ∧ (∀ f ∈ fs.drop items.length, f.omittable = true)
          ∧ ∀ p ∈ fs.zip items, ∃ s, p.1.store.ofJson p.2 = .ok s
  | _, [], [], _ => by simp [ofItems]
  | _, [], _ :: _, _ => by simp [ofItems]
  | n, f :: fs, [], x => by
    unfold ofItems
    cases hf : f.omittable with
    | false => simp [hf]
    | true =>
      rw [if_pos rfl, exists_ofItems]
      simp [hf]
  | n, f :: fs, v :: vs, x => by
    rw [List.zip_cons_cons, List.forall_mem_cons, List.length_cons, List.length_cons,
      List.drop_succ_cons, Nat.add_le_add_iff_right]
    unfold ofItems
    cases hs : f.store.ofJson v with
    | error m => simp
    | ok s =>
      dsimp only
      rw [exists_ofItems]
      simp

/-- The fields of a record are read in the forms that stand under their keys, and all but the first
`least` may be left out of a list. -/
structure ReadsFields (r : Record ρ) (fields : List (String × Form)) (least : Nat) : Prop where
  reads : List.Forall₂ (fun f g => f.key = g.1 ∧ f.store.Reads g.2) r.fields fields
  omittable : ∃ more, r.fields.map Field.omittable = .replicate least false ++ .replicate more true

theorem ReadsFields.omittable_iff {r : Record ρ} {fields : List (String × Form)} {least : Nat}
    (h : r.ReadsFields fields least) (k : Nat) :
    (∀ f ∈ r.fields.drop k, f.omittable = true) ↔ least ≤ k := by
  obtain ⟨more, hmore⟩ := h.omittable
  have hmap : (∀ f ∈ r.fields.drop k, f.omittable = true)
      ↔ ∀ b ∈ (r.fields.map Field.omittable).drop k, b = true := by
    rw [← List.map_drop, List.forall_mem_map]
  rw [hmap, hmore, List.drop_append, List.drop_replicate, List.drop_replicate]
  constructor
  · intro hall
    refine Nat.le_of_not_lt fun hk => ?_
    have hfalse : false ∈ List.replicate (least - k) false :=
      List.mem_replicate.mpr ⟨Nat.sub_ne_zero_of_lt hk, rfl⟩
    exact absurd (hall false (List.mem_append_left _ hfalse)) Bool.false_ne_true
  · intro hk b hb
    rw [Nat.sub_eq_zero_of_le hk, List.replicate_zero, List.nil_append] at hb
    exact List.eq_of_mem_replicate hb

/-- What holds of the members of two lists pairwise holds of all members of one list if it does of all
members of the other. -/
theorem forall_mem_of_forall₂ {R : α → β → Prop} {P : α → Prop} {Q : β → Prop}
    (h : ∀ a b, R a b → (P a ↔ Q b)) {xs : List α} {ys : List β} (hxy : List.Forall₂ R xs ys) :
    (∀ x ∈ xs, P x) ↔ ∀ y ∈ ys, Q y := by
  induction hxy with
  | nil => simp
  | cons hab _ ih => rw [List.forall_mem_cons, List.forall_mem_cons, h _ _ hab, ih]

theorem forall₂_zip {R : α → β → Prop} {xs : List α} {ys : List β} (h : List.Forall₂ R xs ys) :
    ∀ zs : List ρ, List.Forall₂ (fun p q => R p.1 q.1 ∧ p.2 = q.2) (xs.zip zs) (ys.zip zs) := by
  induction h with
  | nil => simp
  | cons hab _ ih =>
    intro zs
    cases zs with
    | nil => exact .nil
    | cons z zs => exact .cons ⟨hab, rfl⟩ (ih zs)

/-- **A record is read from the values that fit its form**, whichever way they are written. -/
theorem ReadsFields.decoder {r : Record ρ} {fields : List (String × Form)} {least : Nat}
    (h : r.ReadsFields fields least) : r.decoder.Reads (.record fields least) := by
  intro v
  cases v with
  | object members =>
    have hmembers : (∃ x, r.decoder.ofJson (.object members) = .ok x)
        ↔ ∀ f ∈ fields, ∀ v, Json.lookup f.1 members = some v → f.2.Fits v := by
      show (∃ x, r.ofMembers members = .ok x) ↔ _
      simp only [ofMembers_eq_ok, exists_stored, fieldsByKey, (foldr_insertByKey_perm _).mem_iff]
      refine forall_mem_of_forall₂ ?_ h.reads
      rintro f g ⟨hkey, hreads⟩
      simp only [hkey, hreads _]
    rw [hmembers]
    constructor
    · exact .object
    · intro hfits
      cases hfits with
      | object hfits => exact hfits
  | array items =>
    have hitems : (∃ x, r.decoder.ofJson (.array items) = .ok x)
        ↔ items.length ≤ fields.length ∧ least ≤ items.length
          ∧ ∀ p ∈ fields.zip items, p.1.2.Fits p.2 := by
      show (∃ x, r.ofItems items.length 0 r.fields items r.blank = .ok x) ↔ _
      rw [exists_ofItems, h.omittable_iff, h.reads.length_eq]
      refine and_congr_right' (and_congr_right' (forall_mem_of_forall₂ ?_ (forall₂_zip h.reads items)))
      rintro ⟨f, u⟩ ⟨g, w⟩ ⟨⟨-, hreads⟩, rfl⟩
      exact hreads u
    rw [hitems]
    constructor
    · rintro ⟨hmost, hleast, hfits⟩
      exact .array hleast hmost hfits
    · intro hfits
      cases hfits with
      | array hleast hmost hfits => exact ⟨hmost, hleast, hfits⟩
  | _ =>
    constructor
    · rintro ⟨_, hx⟩
      cases hx
    · intro hfits
      cases hfits

end Record

end SiteManifest.Shape
