import SiteManifest.Json.Basic

/-!
# Tidy values

How deep lists and objects are nested in a value, and whether its objects repeat a key. A tidy value
repeats none, is nested to a limited depth, and holds no number: this is what a site is written as.
-/

namespace SiteManifest.Json

/-! ## Depth -/

mutual

/-- How deep lists and objects are nested in a value. -/
def depth : Json → Nat
  | .array vs => depthOfItems vs + 1
  | .object ms => depthOfMembers ms + 1
  | _ => 0

/-- The greatest depth of the items of a list. -/
def depthOfItems : List Json → Nat
  | [] => 0
  | v :: vs => max (depth v) (depthOfItems vs)

/-- The greatest depth of the values of an object. -/
def depthOfMembers : List (String × Json) → Nat
  | [] => 0
  | (_, v) :: ms => max (depth v) (depthOfMembers ms)

end

theorem depthOfItems_le {d : Nat} : ∀ {vs : List Json}, (∀ v ∈ vs, v.depth ≤ d) →
    depthOfItems vs ≤ d
  | [], _ => Nat.zero_le d
  | _ :: _, h => by
    obtain ⟨hfirst, hothers⟩ := List.forall_mem_cons.mp h
    exact Nat.max_le.mpr ⟨hfirst, depthOfItems_le hothers⟩

theorem depthOfMembers_le {d : Nat} : ∀ {ms : List (String × Json)}, (∀ m ∈ ms, m.2.depth ≤ d) →
    depthOfMembers ms ≤ d
  | [], _ => Nat.zero_le d
  | (_, _) :: _, h => by
    obtain ⟨hfirst, hothers⟩ := List.forall_mem_cons.mp h
    exact Nat.max_le.mpr ⟨hfirst, depthOfMembers_le hothers⟩

/-! ## Keys -/

/-- No object in a value repeats a key. -/
inductive KeysDistinct : Json → Prop where
  | null : KeysDistinct .null
  | bool {b : Bool} : KeysDistinct (.bool b)
  | number {n : Number} : KeysDistinct (.number n)
  | string {s : String} : KeysDistinct (.string s)
  | array {vs : List Json} (h : ∀ v ∈ vs, KeysDistinct v) : KeysDistinct (.array vs)
  | object {ms : List (String × Json)} (hkeys : (ms.map Prod.fst).Nodup)
      (h : ∀ m ∈ ms, KeysDistinct m.2) : KeysDistinct (.object ms)

/-! ## Tidy values -/

/-- A value that holds no number, repeats no key, and is nested to a limited depth. -/
inductive Tidy : Nat → Json → Prop where
  | null {d : Nat} : Tidy d .null
  | bool {d : Nat} (b : Bool) : Tidy d (.bool b)
  | string {d : Nat} (s : String) : Tidy d (.string s)
  | array {d : Nat} {vs : List Json} (h : ∀ v ∈ vs, Tidy d v) : Tidy (d + 1) (.array vs)
  | object {d : Nat} {ms : List (String × Json)} (hkeys : (ms.map Prod.fst).Nodup)
      (h : ∀ m ∈ ms, Tidy d m.2) : Tidy (d + 1) (.object ms)

theorem Tidy.depth_le : ∀ {d : Nat} {v : Json}, Tidy d v → v.depth ≤ d
  | d, _, .null => Nat.zero_le d
  | d, _, .bool _ => Nat.zero_le d
  | d, _, .string _ => Nat.zero_le d
  | _, _, .array h => Nat.succ_le_succ (depthOfItems_le fun v hv => (h v hv).depth_le)
  | _, _, .object _ h => Nat.succ_le_succ (depthOfMembers_le fun m hm => (h m hm).depth_le)

theorem Tidy.keysDistinct : ∀ {d : Nat} {v : Json}, Tidy d v → v.KeysDistinct
  | _, _, .null => .null
  | _, _, .bool _ => .bool
  | _, _, .string _ => .string
  | _, _, .array h => .array fun v hv => (h v hv).keysDistinct
  | _, _, .object hkeys h => .object hkeys fun m hm => (h m hm).keysDistinct

end SiteManifest.Json
