import Mathlib.Data.List.Nodup
import SiteManifest.Proofs.Json.Tidy

/-!
# Reordered values

Values that differ only in the order of the members of their objects, at any depth. If no object repeats
a key, then this is what the order of the keys in a text has an influence on, and nothing else.
-/

namespace SiteManifest

/-- A member of one of two lists that are related pairwise is related to a member of the other one. -/
theorem exists_mem_of_forall₂ {α β : Type} {R : α → β → Prop} {xs : List α} {ys : List β}
    (h : List.Forall₂ R xs ys) {y : β} (hy : y ∈ ys) : ∃ x ∈ xs, R x y := by
  induction h with
  | nil => cases hy
  | cons hxy _ ih =>
    rcases List.mem_cons.mp hy with rfl | hy
    · exact ⟨_, List.mem_cons_self, hxy⟩
    · rcases ih hy with ⟨x, hx, hxy⟩
      exact ⟨x, List.mem_cons_of_mem _ hx, hxy⟩

namespace Json

/-- A value is another one, but for the order of the members of its objects: both have the same keys,
and what is under each of them is reordered in turn. -/
inductive Reordered : Json → Json → Prop where
  | null : Reordered .null .null
  | bool {b : Bool} : Reordered (.bool b) (.bool b)
  | number {n : Number} : Reordered (.number n) (.number n)
  | string {s : String} : Reordered (.string s) (.string s)
  | array {vs ws : List Json} (h : List.Forall₂ Reordered vs ws) : Reordered (.array vs) (.array ws)
  | object {ms ns : List (String × Json)} (hkeys : (ms.map Prod.fst).Perm (ns.map Prod.fst))
      (h : ∀ m ∈ ms, ∀ n ∈ ns, m.1 = n.1 → Reordered m.2 n.2) : Reordered (.object ms) (.object ns)

/-- Members with the same key are the same, if no key is repeated. -/
theorem eq_of_key_eq {ms : List (String × Json)} (hkeys : (ms.map Prod.fst).Nodup)
    {m n : String × Json} (hm : m ∈ ms) (hn : n ∈ ms) (h : m.1 = n.1) : m = n :=
  List.inj_on_of_nodup_map hkeys hm hn h

theorem KeysDistinct.reordered_self {v : Json} (h : v.KeysDistinct) : v.Reordered v := by
  induction h with
  | null => exact .null
  | bool => exact .bool
  | number => exact .number
  | string => exact .string
  | array _ ih => exact .array (List.forall₂_same.mpr ih)
  | object hkeys _ ih =>
    refine .object (.refl _) fun m hm n hn h => ?_
    rw [← eq_of_key_eq hkeys hm hn h]
    exact ih m hm

/-- The members of an object may stand in any order. -/
theorem Reordered.of_perm {ms ns : List (String × Json)} (h : (Json.object ms).KeysDistinct)
    (hperm : ms.Perm ns) : (Json.object ms).Reordered (.object ns) := by
  cases h with
  | object hkeys hvalues =>
    refine .object (hperm.map _) fun m hm n hn h => ?_
    rw [← eq_of_key_eq hkeys hm (hperm.mem_iff.mpr hn) h]
    exact (hvalues m hm).reordered_self

/-- No key is repeated after reordering if none was before. -/
theorem Reordered.keysDistinct {v w : Json} (h : v.Reordered w) (hk : v.KeysDistinct) :
    w.KeysDistinct := by
  induction hk generalizing w with
  | null =>
    cases h
    exact .null
  | bool =>
    cases h
    exact .bool
  | number =>
    cases h
    exact .number
  | string =>
    cases h
    exact .string
  | array _ ih =>
    cases h with
    | array h =>
      refine .array fun w hw => ?_
      obtain ⟨v, hv, hvw⟩ := exists_mem_of_forall₂ h hw
      exact ih v hv hvw
  | @object ms hkeys _ ih =>
    cases h with
    | @object _ ns hperm h =>
      refine .object (hperm.nodup hkeys) fun n hn => ?_
      obtain ⟨m, hm, hmn⟩ := List.mem_map.mp (hperm.mem_iff.mpr (List.mem_map_of_mem hn))
      exact ih m hm (h m hm n hn hmn)

end Json

end SiteManifest
