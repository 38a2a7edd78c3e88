import SiteManifest.Proofs.Json.Skipping
import SiteManifest.Proofs.Shape.Faithful
import SiteManifest.Proofs.Shape.Record

/-!
# Faithful records

The decoder of a record is faithful if those of its fields are, and if the fields do not get in each
other's way. A text may give the record as an object, of which the members are stored in the order in
which they are written and unknown ones are skipped, or as a list of the values of its fields.
-/

namespace SiteManifest.Shape

open Json (SpellsItems SpellsMembers)
open Json.Read

namespace Record

variable {ρ : Type} {r : Record ρ} {steps : Nat}

/-! ## Members -/

theorem membersOfText_of_close {first : Bool} {cs bracket rest : List Char}
    (h : nextKey first cs = .ok (.close bracket)) (hclose : closeObject bracket = .ok rest)
    (more : Nat) (seen : List String) (x : ρ) :
    r.membersOfText steps (more + 1) first seen x cs = .ok (x, rest) := by
  refine (Except.bind_of_ok h _).trans ?_
  exact Except.bind_of_ok hclose _

section

variable {more : Nat} {first : Bool} {cs start afterKey value : List Char} {k : String}
  {seen : List String} {x : ρ} (h : nextKey first cs = .ok (.entry start))
  (hkey : key start = .ok (k, afterKey)) (hcolon : colon afterKey = .ok value)

include h hkey hcolon

/-- An unknown member is skipped. -/
theorem membersOfText_of_unknown {rest : List Char} (hfind : r.fields.find? (·.key == k) = none)
    (hskip : skipValue (2 * steps) value = .ok rest) :
    r.membersOfText steps (more + 1) first seen x cs
      = r.membersOfText steps more false seen x rest := by
  refine (Except.bind_of_ok h _).trans ?_
  refine (Except.bind_of_ok hkey _).trans ?_
  dsimp only
  rw [hfind]
  refine (Except.bind_of_ok hcolon _).trans ?_
  exact Except.bind_of_ok hskip _

/-- A known member is stored, unless it was given before. -/
theorem membersOfText_of_known {f : Field ρ} (hfind : r.fields.find? (·.key == k) = some f)
    (hseen : k ∉ seen) :
    r.membersOfText steps (more + 1) first seen x cs
      = f.store.ofText steps value >>= fun (store, rest) =>
        r.membersOfText steps more false (k :: seen) (store x) rest := by
  refine (Except.bind_of_ok h _).trans ?_
  refine (Except.bind_of_ok hkey _).trans ?_
  dsimp only
  rw [hfind]
  have hcontains : seen.contains k = false := by
    rw [List.contains_eq_mem, decide_eq_false_iff_not]
    exact hseen
  simp only [hcontains]
  exact Except.bind_of_ok hcolon _

end

/-- The members are stored one by one in the order of the text. -/
theorem agrees_membersOfText (hf : ∀ f ∈ r.fields, f.store.Faithful) :
    ∀ {ms : List (String × Json)} {first : Bool} {cs bracket rest : List Char} {more : Nat}
      {seen : List String} {x : ρ}, SpellsMembers first cs ms bracket →
        closeObject bracket = .ok rest → (ms.map Prod.fst).Nodup →
          (∀ k ∈ ms.map Prod.fst, k ∉ seen) → (∀ m ∈ ms, m.2.KeysDistinct) → cs.length < steps →
            ms.length < more →
              Agrees rest (storeAll r.fields ms x) (r.membersOfText steps more first seen x cs)
  | [], _, _, _, _, more + 1, _, x, .close h, hclose, _, _, _, _, _ => by
    rw [membersOfText_of_close h hclose]
    exact .ok
  | (k, v) :: ms, _, cs, _, rest, more + 1, seen, x,
      @SpellsMembers.entry _ _ start afterKey value after _ _ _ _ h hkey hcolon hv hms, hclose,
      hnodup, hseen, hk, hs, hmore => by
    obtain ⟨hnew, hnodup'⟩ := List.nodup_cons.mp hnodup
    obtain ⟨hunseen, hseen'⟩ := List.forall_mem_cons.mp hseen
    obtain ⟨hkv, hkms⟩ := List.forall_mem_cons.mp hk
    have hstart := Json.nextKey_entry_length h
    have hvalue := Nat.lt_trans (Json.colon_length hcolon) (Json.key_length hkey)
    have hsteps : value.length < steps := Nat.lt_trans hvalue (Nat.lt_of_le_of_lt hstart hs)
    have hsteps' : after.length < steps := Nat.lt_trans hv.length_lt hsteps
    have hmore' := Nat.lt_of_succ_lt_succ hmore
    unfold storeAll
    split
    · next hnone =>
      -- no field reads this value, but it is spelled, so it can be skipped
      rw [membersOfText_of_unknown h hkey hcolon hnone (hv.skipValue_eq_ok hsteps)]
      exact agrees_membersOfText hf hms hclose hnodup' hseen' hkms hsteps' hmore'
    · next f hfound =>
      have hfield := hf f (List.mem_of_find?_eq_some hfound) hv hkv hsteps
      have hseen'' : ∀ k' ∈ ms.map Prod.fst, k' ∉ k :: seen := by
        intro k' hk' hmem
        cases List.mem_cons.mp hmem with
        | inl heq => exact hnew (heq ▸ hk')
        | inr hold => exact hseen' k' hk' hold
      rw [membersOfText_of_known h hkey hcolon hfound hunseen]
      refine hfield.bind fun s => ?_
      exact agrees_membersOfText hf hms hclose hnodup' hseen'' hkms hsteps' hmore'

/-! ## Items -/

/-- A list that goes on is not closed. -/
theorem closeList_of_entry {first : Bool} {cs start : List Char}
    (h : nextItem first cs = .ok (.entry start)) : ∃ f, closeList cs = .error f := by
  obtain ⟨hat, c, tail, rfl, hc⟩ := Json.nextItem_eq_entry h
  cases hcs : skipBlanks cs with
  | nil =>
    unfold closeList
    rw [hcs]
    exact ⟨_, rfl⟩
  | cons d rest =>
    have hd : d ≠ ']' := by
      cases hat with
      | first h' =>
        rw [hcs] at h'
        cases h'
        exact hc
      | later h' _ =>
        rw [hcs] at h'
        cases h'
        decide
    unfold closeList
    rw [hcs]
    simp only [if_neg hd]
    split
    · split
      · exact ⟨_, rfl⟩
      · exact ⟨_, rfl⟩
    · exact ⟨_, rfl⟩

section

variable {first : Bool} {cs : List Char} {f : Field ρ} {fs : List (Field ρ)} {given : Nat} {x : ρ}

theorem itemsOfText_of_close {bracket : List Char} (h : nextItem first cs = .ok (.close bracket)) :
    r.itemsOfText steps given first (f :: fs) x cs
      = if f.omittable then r.itemsOfText steps (given + 1) first fs x bracket
        else .error (.here (.mismatch (.tooShort given r.name r.fields.length)) (listEnd bracket)) :=
  Except.bind_of_ok h _

theorem itemsOfText_of_entry {start : List Char} (h : nextItem first cs = .ok (.entry start)) :
    r.itemsOfText steps given first (f :: fs) x cs
      = f.store.ofText steps start >>= fun (store, rest) =>
        r.itemsOfText steps (given + 1) false fs (store x) rest :=
  Except.bind_of_ok h _

end

/-- The items are stored one by one, each in the field at its place. -/
theorem agrees_itemsOfText (length : Nat) :
    ∀ {fs : List (Field ρ)} {vs : List Json} {first : Bool} {cs bracket rest : List Char}
      {given : Nat} {x : ρ}, (∀ f ∈ fs, f.store.Faithful) → SpellsItems first cs vs bracket →
        closeList bracket = .ok rest → (∀ v ∈ vs, v.KeysDistinct) → cs.length < steps →
          Agrees rest (r.ofItems length given fs vs x) (r.itemsOfText steps given first fs x cs)
  | [], [], first, cs, _, rest, given, x, _, .close h, hclose, _, _ => by
    obtain ⟨tail, rfl, hcs⟩ := Json.nextItem_eq_close h
    cases hclose
    have hend : closeList cs = .ok rest := by
      unfold closeList
      rw [hcs]
      rfl
    have hread : r.itemsOfText steps given first [] x cs = .ok (x, rest) := Except.bind_of_ok hend _
    rw [hread]
    exact .ok
  | [], _ :: _, first, cs, _, _, given, x, _, .entry h _ _, _, _, _ => by
    obtain ⟨e, he⟩ := closeList_of_entry h
    have hread : r.itemsOfText steps given first [] x cs = .error e := by
      show (closeList cs >>= _) = _
      rw [he]
      rfl
    rw [hread]
    exact .error
  | f :: fs, [], first, cs, _, rest, given, x, hf, .close h, hclose, hk, hs => by
    obtain ⟨tail, rfl, hcs⟩ := Json.nextItem_eq_close h
    -- the closing bracket is looked at once for each field that is left
    have hagain : SpellsItems first (']' :: tail) [] (']' :: tail) :=
      .close (Json.nextItem_close rfl first)
    have hbracket := Json.nextItem_close_length h
    obtain ⟨-, hfs⟩ := List.forall_mem_cons.mp hf
    have hothers : Agrees rest (r.ofItems length (given + 1) fs [] x) _ :=
      agrees_itemsOfText length hfs hagain hclose hk (Nat.lt_of_le_of_lt hbracket hs)
    rw [itemsOfText_of_close h]
    unfold ofItems
    cases f.omittable with
    | false => exact .error
    | true => exact hothers
  | f :: fs, v :: vs, first, cs, bracket, rest, given, x, hf,
      @SpellsItems.entry _ _ start after _ _ _ h hv hvs, hclose, hk, hs => by
    obtain ⟨hff, hfs⟩ := List.forall_mem_cons.mp hf
    obtain ⟨hkv, hkvs⟩ := List.forall_mem_cons.mp hk
    have hstart := Json.nextItem_entry_length h
    have hsteps := Nat.lt_of_le_of_lt hstart hs
    have hfield := hff hv hkv hsteps
    rw [itemsOfText_of_entry h]
    unfold ofItems
    cases hstore : f.store.ofJson v with
    | error m =>
      rw [hstore] at hfield
      obtain ⟨e, he⟩ := hfield.exists_error
      rw [he]
      exact .error
    | ok store =>
      rw [hstore] at hfield
      rw [hfield.eq_ok]
      exact agrees_itemsOfText length hfs hvs hclose hkvs (Nat.lt_trans hv.length_lt hsteps)

/-! ## Records -/

theorem ofText_decoder_of_ne {cs tail : List Char} {c : Char} (h : skipBlanks cs = c :: tail)
    (hbrace : c ≠ '\x7b') (hbracket : c ≠ '[') :
    r.decoder.ofText steps cs = .error (wrongKind (.record r.name) (c :: tail)) := by
  unfold decoder
  dsimp only
  rw [h]
  split
  · next heq =>
    cases heq
    exact absurd rfl hbrace
  · next heq =>
    cases heq
    exact absurd rfl hbracket
  · rfl

/-- **A record is read from a text as it is read from a value.** -/
theorem faithful_decoder (hr : r.Orderly) (hf : ∀ f ∈ r.fields, f.store.Faithful) :
    r.decoder.Faithful := by
  intro cs rest v steps hv hk hs
  obtain ⟨c, tail, h, hkind⟩ := hv.exists_start
  cases v with
  | object ms =>
    cases hv with
    | @object _ body _ _ _ h hms hclose =>
      have hread : r.decoder.ofText steps cs = r.membersOfText steps steps true [] r.blank body := by
        unfold decoder
        dsimp only
        rw [h]
        rfl
      cases hk with
      | object hkeys hvalues =>
        have hbody := Nat.lt_trans (Json.length_lt_of_skipBlanks h) hs
        have hmore := Nat.lt_of_le_of_lt (Nat.le_of_add_right_le hms.length_le) hbody
        have hmembers : Agrees rest _ (r.membersOfText steps steps true [] r.blank body) :=
          agrees_membersOfText hf hms hclose hkeys (fun _ _ => List.not_mem_nil) hvalues hbody hmore
        have hsame : ∀ x, r.decoder.ofJson (.object ms) = .ok x
            ↔ storeAll r.fields ms r.blank = .ok x := fun x => hr.ofMembers_eq_ok hkeys
        rw [hread]
        exact hmembers.congr hsame
  | array vs =>
    cases hv with
    | @array _ body _ _ _ h hvs hclose =>
      have hread : r.decoder.ofText steps cs = r.itemsOfText steps 0 true r.fields r.blank body := by
        unfold decoder
        dsimp only
        rw [h]
        rfl
      cases hk with
      | array hvalues =>
        have hbody := Nat.lt_trans (Json.length_lt_of_skipBlanks h) hs
        rw [hread]
        exact agrees_itemsOfText vs.length hf hvs hclose hvalues hbody
  | _ =>
    have hbrace := Json.ne_of_kindOfStart? hkind (d := '\x7b') nofun
    have hbracket := Json.ne_of_kindOfStart? hkind (d := '[') nofun
    rw [ofText_decoder_of_ne h hbrace hbracket]
    exact .error

end Record

end SiteManifest.Shape
