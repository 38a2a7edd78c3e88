import SiteManifest.Proofs.Json.Reordered
import SiteManifest.Proofs.Shape.Faithful
import SiteManifest.Proofs.Shape.Record

/-!
# Decoders that know no order of keys

What a decoder makes of a value does not hang on the order of the members in it: it ends with the same
data, or with the same report. This is so for the decoders of texts, flags, lists and words, and for a
record if it is so for its fields: what the fields are given is looked up by their keys.
-/

namespace SiteManifest.Shape

open Json (Reordered)

variable {α β : Type} {v w : Json}

theorem Found.ofJson_eq (h : v.Reordered w) : Found.ofJson v = Found.ofJson w := by
  cases h <;> rfl

theorem isNull_eq (h : v.Reordered w) : v.isNull = w.isNull := by
  cases h <;> rfl

namespace Decoder

/-- The order of the members of objects makes no difference. -/
def OrderFree (d : Decoder α) : Prop :=
  ∀ ⦃v w : Json⦄, v.Reordered w → v.KeysDistinct → d.ofJson v = d.ofJson w

theorem OrderFree.map {d : Decoder α} (hd : d.OrderFree) (f : α → β) : (d.map f).OrderFree :=
  fun _ _ h hk => congrArg (Except.map f) (hd h hk)

theorem orderFree_text : text.OrderFree := by
  intro v w h _
  cases h <;> rfl

theorem orderFree_flag : flag.OrderFree := by
  intro v w h _
  cases h <;> rfl

theorem OrderFree.optional {d : Decoder α} (hd : d.OrderFree) : d.optional.OrderFree := by
  intro v w h hk
  have hgiven := congrArg (Except.map some) (hd h hk)
  cases h with
  | null => rfl
  | _ => exact hgiven

/-! ## Lists -/

theorem OrderFree.mapM_eq {d : Decoder α} (hd : d.OrderFree) {vs ws : List Json}
    (h : List.Forall₂ Reordered vs ws) (hk : ∀ v ∈ vs, v.KeysDistinct) :
    vs.mapM d.ofJson = ws.mapM d.ofJson := by
  induction h with
  | nil => rfl
  | cons hv _ ih =>
    obtain ⟨hkv, hkvs⟩ := List.forall_mem_cons.mp hk
    rw [List.mapM_cons, List.mapM_cons, hd hv hkv, ih hkvs]

theorem OrderFree.list {d : Decoder α} (hd : d.OrderFree) : d.list.OrderFree := by
  intro v w h hk
  cases h with
  | array h =>
    cases hk with
    | array hk => exact hd.mapM_eq h hk
  | _ => rfl

/-! ## Words -/

/-- An object with several keys names no word, and one with a single key has no other order. -/
theorem orderFree_oneOf (words : List (String × α)) : (oneOf words).OrderFree := by
  intro v w h hk
  cases h with
  | @object ms ns hkeys h =>
    cases hk with
    | object hnodup _ =>
      match ms, ns, hkeys.length_eq with
      | [], [], _ => rfl
      | [(k, v)], [(k', w)], _ =>
        obtain rfl : k = k' := by simpa using hkeys
        have hvw : v.Reordered w := h _ List.mem_cons_self _ List.mem_cons_self rfl
        rw [ofJson_oneOf_single, ofJson_oneOf_single, isNull_eq hvw, Found.ofJson_eq hvw]
      | m :: m' :: ms, n :: n' :: ns, _ =>
        rw [ofJson_oneOf_several hnodup, ofJson_oneOf_several (hkeys.nodup hnodup)]
  | _ => rfl

end Decoder

/-! ## Records -/

namespace Record

variable {ρ : Type} {ms ns : List (String × Json)}

theorem mem_of_lookup {k : String} (h : Json.lookup k ms = some v) : (k, v) ∈ ms := by
  obtain ⟨m, hm, rfl⟩ := Option.map_eq_some_iff.mp h
  have hkey := List.find?_some hm
  rw [beq_iff_eq] at hkey
  rw [← hkey]
  exact List.mem_reverse.mp (List.mem_of_find?_eq_some hm)

theorem exists_lookup_of_mem {k : String} (h : k ∈ ms.map Prod.fst) :
    ∃ v, Json.lookup k ms = some v := by
  obtain ⟨m, hm, rfl⟩ := List.mem_map.mp h
  cases hfind : ms.reverse.find? (·.1 == m.1) with
  | none =>
    have hno := List.find?_eq_none.mp hfind m (List.mem_reverse.mpr hm)
    simp at hno
  | some n =>
    refine ⟨n.2, ?_⟩
    unfold Json.lookup
    rw [hfind]
    rfl

section

variable (hkeys : (ms.map Prod.fst).Perm (ns.map Prod.fst))
  (h : ∀ m ∈ ms, ∀ n ∈ ns, m.1 = n.1 → m.2.Reordered n.2) (hk : ∀ m ∈ ms, m.2.KeysDistinct)

include hkeys h hk

/-- A field is given the same, but for the order of members. -/
theorem storeMember_eq {f : Field ρ} (hf : f.store.OrderFree) (x : ρ) :
    storeMember ms x f = storeMember ns x f := by
  unfold storeMember
  by_cases hmem : f.key ∈ ms.map Prod.fst
  · obtain ⟨v, hv⟩ := exists_lookup_of_mem hmem
    obtain ⟨w, hw⟩ := exists_lookup_of_mem (hkeys.mem_iff.mp hmem)
    have hvw : v.Reordered w := h _ (mem_of_lookup hv) _ (mem_of_lookup hw) rfl
    rw [hv, hw]
    exact congrArg (Except.map _) (hf hvw (hk _ (mem_of_lookup hv)))
  · rw [lookup_of_not_mem hmem, lookup_of_not_mem (fun hn => hmem (hkeys.mem_iff.mpr hn))]

theorem foldlM_storeMember_eq {fs : List (Field ρ)} (hf : ∀ f ∈ fs, f.store.OrderFree) (x : ρ) :
    fs.foldlM (storeMember ms) x = fs.foldlM (storeMember ns) x := by
  induction fs generalizing x with
  | nil => rfl
  | cons f fs ih =>
    obtain ⟨hff, hfs⟩ := List.forall_mem_cons.mp hf
    rw [List.foldlM_cons, List.foldlM_cons, storeMember_eq hkeys h hk hff]
    exact bind_congr fun y => ih hfs y

end

theorem ofItems_eq {r : Record ρ} {fs : List (Field ρ)} (hf : ∀ f ∈ fs, f.store.OrderFree)
    {vs ws : List Json} (h : List.Forall₂ Reordered vs ws) (hk : ∀ v ∈ vs, v.KeysDistinct)
    (length given : Nat) (x : ρ) :
    r.ofItems length given fs vs x = r.ofItems length given fs ws x := by
  induction fs generalizing vs ws given x with
  | nil => cases h <;> rfl
  | cons f fs ih =>
    obtain ⟨hff, hfs⟩ := List.forall_mem_cons.mp hf
    cases h with
    | nil => rfl
    | cons hv hvs =>
      obtain ⟨hkv, hkvs⟩ := List.forall_mem_cons.mp hk
      unfold ofItems
      rw [hff hv hkv]
      split
      · rfl
      · exact ih hfs hvs hkvs _ _

/-- **A record knows no order of keys** if its fields do not. -/
theorem orderFree_decoder {r : Record ρ} (hf : ∀ f ∈ r.fields, f.store.OrderFree) :
    r.decoder.OrderFree := by
  intro v w h hk
  cases h with
  | object hkeys h =>
    cases hk with
    | object _ hk =>
      have hfields : ∀ f ∈ r.fieldsByKey, f.store.OrderFree := fun f hmem =>
        hf f ((foldr_insertByKey_perm r.fields).mem_iff.mp hmem)
      exact foldlM_storeMember_eq hkeys h hk hfields r.blank
  | @array vs ws h =>
    cases hk with
    | array hk =>
      show r.ofItems vs.length 0 r.fields vs r.blank = r.ofItems ws.length 0 r.fields ws r.blank
      rw [h.length_eq]
      exact ofItems_eq hf h hk _ _ _
  | _ => rfl

end Record

@[simp] theorem Field.orderFree_ofOption {ρ : Type} {key : String} {d : Decoder α}
    {set : Option α → ρ → ρ} (hd : d.OrderFree) : (Field.ofOption key d set).store.OrderFree :=
  hd.optional.map set

@[simp] theorem Field.orderFree_atEnd {ρ : Type} {key : String} {d : Decoder α} {set : α → ρ → ρ}
    (hd : d.OrderFree) : (Field.atEnd key d set).store.OrderFree :=
  hd.map set

end SiteManifest.Shape
