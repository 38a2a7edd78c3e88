import SiteManifest.Proofs.Except
import SiteManifest.Shape.Record

/-!
# Records from members

How a record is read from the members of an object: field by field, in the order of the keys. The
reader of texts stores the members in the order in which they are written instead. If the fields of a
record do not get in each other's way and no key is repeated, both orders give the same record.

## Order

The fields may be stored in any order (`stored_perm`). So the field of the first member can be stored
first, and the other members are left to the other fields: this is the step of the induction that
relates the two readers (`storeAll_eq_ok`).
-/

namespace SiteManifest.Shape

variable {ρ α β : Type}

/-! ## Values of fields -/

/-- What is not `null` is read as data. -/
theorem Decoder.ofJson_optional {d : Decoder α} {v : Json} (hv : v ≠ .null) :
    d.optional.ofJson v = (d.ofJson v).map some := by
  cases v with
  | null => exact absurd rfl hv
  | _ => rfl

/-- A field that may be `null` stores a value that is not. -/
theorem Field.ofJson_ofOption {key : String} {d : Decoder α} {set : Option α → ρ → ρ} {v : Json}
    {a : α} (hv : v.isNull = false) (h : d.ofJson v = .ok a) :
    (Field.ofOption key d set).store.ofJson v = .ok (set (some a)) := by
  have hne : v ≠ .null := by
    rintro rfl
    cases hv
  show (d.optional.ofJson v).map set = _
  rw [Decoder.ofJson_optional hne, h]
  rfl

namespace Record

theorem storeMember_of_none {members : List (String × Json)} {f : Field ρ}
    (h : Json.lookup f.key members = none) (x : ρ) : storeMember members x f = .ok x := by
  unfold storeMember
  rw [h]

theorem storeMember_of_some {members : List (String × Json)} {f : Field ρ} {v : Json} {s : ρ → ρ}
    (h : Json.lookup f.key members = some v) (hs : f.store.ofJson v = .ok s) (x : ρ) :
    storeMember members x f = .ok (s x) := by
  unfold storeMember
  rw [h]
  show (f.store.ofJson v).map (· x) = _
  rw [hs]
  rfl

/-- Only what the members give the field matters. -/
theorem storeMember_congr {members members' : List (String × Json)} {f : Field ρ}
    (h : Json.lookup f.key members = Json.lookup f.key members') (x : ρ) :
    storeMember members x f = storeMember members' x f := by
  unfold storeMember
  rw [h]

/-- What a member stores is either nothing or what the decoder of its field makes of its value. -/
theorem storeMember_eq_ok {members : List (String × Json)} {f : Field ρ} {x y : ρ}
    (h : storeMember members x f = .ok y) :
    (Json.lookup f.key members = none ∧ y = x)
      ∨ ∃ v s, Json.lookup f.key members = some v ∧ f.store.ofJson v = .ok s ∧ y = s x := by
  unfold storeMember at h
  split at h
  · next hnone =>
    cases h
    exact Or.inl ⟨hnone, rfl⟩
  · next v hsome =>
    cases hs : f.store.ofJson v with
    | error m =>
      rw [hs] at h
      cases h
    | ok s =>
      rw [hs] at h
      cases h
      exact Or.inr ⟨v, s, hsome, hs, rfl⟩

/-! ## Fields one after the other -/

/-- The fields of a list are stored one after the other, each with the member that it is given. -/
inductive Stored (members : List (String × Json)) : List (Field ρ) → ρ → ρ → Prop where
  | nil {x : ρ} : Stored members [] x x
  | cons {f : Field ρ} {fs : List (Field ρ)} {x y z : ρ} (h : storeMember members x f = .ok y)
      (hs : Stored members fs y z) : Stored members (f :: fs) x z

theorem foldlM_eq_ok {members : List (String × Json)} :
    ∀ {fs : List (Field ρ)} {x y : ρ},
      fs.foldlM (storeMember members) x = .ok y ↔ Stored members fs x y
  | [], x, y => by
    constructor
    · intro h
      cases h
      exact .nil
    · intro h
      cases h
      rfl
  | f :: fs, x, y => by
    rw [List.foldlM_cons]
    constructor
    · intro h
      cases hf : storeMember members x f with
      | error m =>
        rw [hf] at h
        cases h
      | ok z =>
        rw [hf] at h
        exact .cons hf (foldlM_eq_ok.mp h)
    · intro h
      cases h with
      | cons hf hs =>
        rw [hf]
        exact foldlM_eq_ok.mpr hs

/-- A record is read by storing its fields in the order of their keys. -/
theorem ofMembers_eq_ok {r : Record ρ} {members : List (String × Json)} {x : ρ} :
    r.ofMembers members = .ok x ↔ Stored members r.fieldsByKey r.blank x :=
  foldlM_eq_ok

theorem stored_cons {members : List (String × Json)} {f : Field ρ} {fs : List (Field ρ)} {x z : ρ} :
    Stored members (f :: fs) x z
      ↔ ∃ y, storeMember members x f = .ok y ∧ Stored members fs y z := by
  constructor
  · intro h
    cases h with
    | cons hf hs => exact ⟨_, hf, hs⟩
  · rintro ⟨y, hf, hs⟩
    exact .cons hf hs

/-- Members that store the same in every field give the same record. -/
theorem stored_iff_of_storeMember {members members' : List (String × Json)} :
    ∀ {fs : List (Field ρ)} {x y : ρ},
      (∀ f ∈ fs, ∀ x y, storeMember members x f = .ok y ↔ storeMember members' x f = .ok y) →
        (Stored members fs x y ↔ Stored members' fs x y)
  | [], x, y, _ => ⟨fun | .nil => .nil, fun | .nil => .nil⟩
  | f :: fs, x, y, h => by
    rcases List.forall_mem_cons.mp h with ⟨hf, hfs⟩
    simp only [stored_cons, hf, stored_iff_of_storeMember hfs]

theorem stored_congr {members members' : List (String × Json)} {fs : List (Field ρ)} {x y : ρ}
    (h : ∀ f ∈ fs, Json.lookup f.key members = Json.lookup f.key members') :
    Stored members fs x y ↔ Stored members' fs x y :=
  stored_iff_of_storeMember fun f hf x y => by rw [storeMember_congr (h f hf)]

end Record

/-! ## The order of the fields -/

/-- Two fields do not get in each other's way: it does not matter which one is stored first. -/
def Field.Commutes (f g : Field ρ) : Prop :=
  ∀ v w s t, f.store.ofJson v = .ok s → g.store.ofJson w = .ok t → ∀ x, s (t x) = t (s x)

theorem Field.Commutes.symm {f g : Field ρ} (h : f.Commutes g) : g.Commutes f :=
  fun v w s t hs ht x => (h w v t s ht hs x).symm

namespace Record

/-- Two fields that do not get in each other's way may be swapped. -/
theorem storeMember_swap {members : List (String × Json)} {f g : Field ρ} (hc : f.Commutes g)
    {x y z : ρ} (hf : storeMember members x f = .ok y) (hg : storeMember members y g = .ok z) :
    ∃ y', storeMember members x g = .ok y' ∧ storeMember members y' f = .ok z := by
  obtain ⟨hnone, rfl⟩ | ⟨v, s, hv, hs, rfl⟩ := storeMember_eq_ok hf
  · exact ⟨z, hg, storeMember_of_none hnone z⟩
  · obtain ⟨hnone, rfl⟩ | ⟨w, t, hw, ht, rfl⟩ := storeMember_eq_ok hg
    · exact ⟨x, storeMember_of_none hnone x, hf⟩
    · refine ⟨t x, storeMember_of_some hw ht x, ?_⟩
      rw [← hc v w s t hs ht x]
      exact storeMember_of_some hv hs (t x)

theorem Stored.perm {members : List (String × Json)} {fs gs : List (Field ρ)} (hp : fs.Perm gs)
    (hc : fs.Pairwise Field.Commutes) {x y : ρ} (h : Stored members fs x y) :
    Stored members gs x y := by
  induction hp generalizing x y with
  | nil => exact h
  | cons f _ ih =>
    obtain ⟨z, hf, hs⟩ := stored_cons.mp h
    exact .cons hf (ih (List.pairwise_cons.mp hc).2 hs)
  | swap f g fs =>
    -- only here a field is stored before one that it was stored after
    obtain ⟨u, hg, hrest⟩ := stored_cons.mp h
    obtain ⟨v, hf, hs⟩ := stored_cons.mp hrest
    have hcomm : g.Commutes f := (List.pairwise_cons.mp hc).1 f (List.mem_cons_self ..)
    obtain ⟨u', hf', hg'⟩ := storeMember_swap hcomm hg hf
    exact .cons hf' (.cons hg' hs)
  | trans hp₁ _ ih₁ ih₂ => exact ih₂ (hc.perm hp₁ Field.Commutes.symm) (ih₁ hc h)

/-- **The fields may be stored in any order.** -/
theorem stored_perm {members : List (String × Json)} {fs gs : List (Field ρ)} (hp : fs.Perm gs)
    (hc : fs.Pairwise Field.Commutes) {x y : ρ} :
    Stored members fs x y ↔ Stored members gs x y :=
  ⟨Stored.perm hp hc, Stored.perm hp.symm (hc.perm hp Field.Commutes.symm)⟩

theorem insertByKey_perm (f : Field ρ) : ∀ gs : List (Field ρ), (insertByKey f gs).Perm (f :: gs)
  | [] => .refl _
  | g :: gs => by
    unfold insertByKey
    split
    · exact .refl _
    · exact ((insertByKey_perm f gs).cons g).trans (.swap f g gs)

theorem foldr_insertByKey_perm : ∀ fs : List (Field ρ), (fs.foldr insertByKey []).Perm fs
  | [] => .refl _
  | f :: fs => (insertByKey_perm f _).trans ((foldr_insertByKey_perm fs).cons f)

/-! ## The order of the members -/

/-- Stores the members of an object in the order in which they are written. Unknown keys are passed
over. -/
def storeAll (fs : List (Field ρ)) : List (String × Json) → ρ → Except Mismatch ρ
  | [], x => .ok x
  | (k, v) :: members, x =>
    match fs.find? (·.key == k) with
    | none => storeAll fs members x
    | some f => f.store.ofJson v >>= fun s => storeAll fs members (s x)

theorem lookup_cons_of_ne {k k' : String} (h : k' ≠ k) (v : Json) (members : List (String × Json)) :
    Json.lookup k ((k', v) :: members) = Json.lookup k members := by
  unfold Json.lookup
  rw [List.reverse_cons, List.find?_append,
    List.find?_cons_of_neg (by rw [beq_iff_eq]; exact h), List.find?_nil, Option.or_none]

theorem lookup_of_not_mem {k : String} {members : List (String × Json)}
    (h : k ∉ members.map Prod.fst) : Json.lookup k members = none := by
  unfold Json.lookup
  rw [Option.map_eq_none_iff, List.find?_eq_none]
  intro m hm hk
  rw [beq_iff_eq] at hk
  exact h (hk ▸ List.mem_map_of_mem (List.mem_reverse.mp hm))

theorem lookup_cons_self {k : String} {members : List (String × Json)}
    (h : k ∉ members.map Prod.fst) (v : Json) :
    Json.lookup k ((k, v) :: members) = some v := by
  have hnone : members.reverse.find? (·.1 == k) = none :=
    Option.map_eq_none_iff.mp (lookup_of_not_mem h)
  unfold Json.lookup
  rw [List.reverse_cons, List.find?_append, hnone, Option.none_or,
    List.find?_cons_of_pos (by rw [beq_iff_eq])]
  rfl

theorem stored_nil : ∀ {fs : List (Field ρ)} {x y : ρ}, Stored [] fs x y ↔ x = y
  | [], x, y => ⟨fun | .nil => rfl, fun h => h ▸ .nil⟩
  | f :: fs, x, y => by
    rw [stored_cons]
    constructor
    · rintro ⟨z, hf, hs⟩
      cases hf
      exact stored_nil.mp hs
    · intro h
      exact ⟨x, rfl, stored_nil.mpr h⟩

/-- A field takes the first member if it has its key; the other members are left to all fields. -/
theorem stored_cons_member {k : String} {v : Json} {members : List (String × Json)}
    {f : Field ρ} {fs : List (Field ρ)} {x y : ρ} (hk : k ∉ members.map Prod.fst)
    (hf : f.key = k) (hfs : ∀ g ∈ fs, g.key ≠ k) :
    Stored ((k, v) :: members) (f :: fs) x y
      ↔ ∃ s, f.store.ofJson v = .ok s ∧ Stored members (f :: fs) (s x) y := by
  have hself : Json.lookup f.key ((k, v) :: members) = some v := by
    rw [hf]
    exact lookup_cons_self hk v
  have hnone : Json.lookup f.key members = none := by
    rw [hf]
    exact lookup_of_not_mem hk
  have hothers : ∀ {z}, Stored ((k, v) :: members) fs z y ↔ Stored members fs z y :=
    stored_congr fun g hg => lookup_cons_of_ne (hfs g hg).symm v members
  rw [stored_cons]
  constructor
  · rintro ⟨z, hstore, hs⟩
    obtain ⟨hno, -⟩ | ⟨w, s, hw, hws, rfl⟩ := storeMember_eq_ok hstore
    · rw [hself] at hno
      cases hno
    · rw [hself] at hw
      cases hw
      exact ⟨s, hws, .cons (storeMember_of_none hnone (s x)) (hothers.mp hs)⟩
  · rintro ⟨s, hs, hstored⟩
    obtain ⟨z, hstore, hrest⟩ := stored_cons.mp hstored
    rw [storeMember_of_none hnone] at hstore
    cases hstore
    exact ⟨s x, storeMember_of_some hself hs x, hothers.mpr hrest⟩

/-- **The members may be stored in the order in which they are written**, if no key is repeated. -/
theorem storeAll_eq_ok {fs : List (Field ρ)} (hkeys : (fs.map Field.key).Nodup)
    (hc : fs.Pairwise Field.Commutes) :
    ∀ {members : List (String × Json)} {x y : ρ}, (members.map Prod.fst).Nodup →
      (storeAll fs members x = .ok y ↔ Stored members fs x y)
  | [], x, y, _ => by
    rw [storeAll, stored_nil, Except.ok.injEq]
  | (k, v) :: members, x, y, hm => by
    obtain ⟨hk, hrest⟩ := List.nodup_cons.mp hm
    unfold storeAll
    split
    · next hnone =>
      rw [storeAll_eq_ok hkeys hc hrest]
      -- no field asks for this key, so all of them are given the same without the member
      refine stored_congr ?_
      intro f hf
      have hne := List.find?_eq_none.mp hnone f hf
      rw [beq_iff_eq] at hne
      exact (lookup_cons_of_ne (Ne.symm hne) v members).symm
    · next f hfound =>
      have hf := List.find?_some hfound
      simp only [beq_iff_eq] at hf
      -- the field of the first member is taken to the front, whatever stands before it
      obtain ⟨before, after, rfl⟩ := List.append_of_mem (List.mem_of_find?_eq_some hfound)
      have hperm : (before ++ f :: after).Perm (f :: (before ++ after)) := List.perm_middle
      have hfs : ∀ g ∈ before ++ after, g.key ≠ k := by
        intro g hg heq
        have hnodup := (hperm.map Field.key).nodup hkeys
        rw [List.map_cons, List.nodup_cons] at hnodup
        rw [← hf] at heq
        exact hnodup.1 (heq ▸ List.mem_map_of_mem hg)
      have ih : ∀ s : ρ → ρ, storeAll (before ++ f :: after) members (s x) = .ok y
          ↔ Stored members (f :: (before ++ after)) (s x) y := by
        intro s
        rw [storeAll_eq_ok hkeys hc hrest, stored_perm hperm hc]
      rw [stored_perm hperm hc, stored_cons_member hk hf hfs, Except.bind_eq_ok]
      simp only [ih]

/-- The fields of a record have different keys and do not get in each other's way. -/
structure Orderly (r : Record ρ) : Prop where
  keys : (r.fields.map Field.key).Nodup
  commutes : r.fields.Pairwise Field.Commutes

/-- Both orders give the same record, or none. -/
theorem Orderly.ofMembers_eq_ok {r : Record ρ} (h : r.Orderly) {members : List (String × Json)}
    (hm : (members.map Prod.fst).Nodup) {x : ρ} :
    r.ofMembers members = .ok x ↔ storeAll r.fields members r.blank = .ok x := by
  have hp : r.fieldsByKey.Perm r.fields := foldr_insertByKey_perm r.fields
  rw [Record.ofMembers_eq_ok, storeAll_eq_ok h.keys h.commutes hm]
  exact stored_perm hp (h.commutes.perm hp.symm Field.Commutes.symm)

end Record

end SiteManifest.Shape
