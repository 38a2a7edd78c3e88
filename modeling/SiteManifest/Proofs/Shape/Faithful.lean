import SiteManifest.Proofs.Json.Reading
import SiteManifest.Shape.Decoder

/-!
# Faithful decoders

A decoder reads data either from a value or directly from a text. It is faithful if both ways agree on
every text that spells a value without repeated keys: they end with the same data, or both fail. The
decoders of texts, flags, lists and words are faithful, and so is what is made of faithful decoders.
-/

namespace SiteManifest.Shape

open Json (Fault Reader Spells SpellsItems SpellsMembers)
open Json.Read

variable {ε ε' α β : Type}

/-! ## Agreement -/

/-- A reading of a text ends as a reading of a value does: with the same data and a rest, or it fails. -/
inductive Agrees (rest : List Char) : Except ε α → Except ε' (α × List Char) → Prop where
  | ok {x : α} : Agrees rest (.ok x) (.ok (x, rest))
  | error {e : ε} {e' : ε'} : Agrees rest (.error e) (.error e')

namespace Agrees

variable {rest rest' : List Char} {r : Except ε α} {t : Except ε' (α × List Char)}

theorem eq_ok {x : α} (h : Agrees rest (.ok x : Except ε α) t) : t = .ok (x, rest) := by
  cases h
  rfl

theorem exists_error {e : ε} (h : Agrees rest (.error e : Except ε α) t) : ∃ e', t = .error e' := by
  cases h
  exact ⟨_, rfl⟩

/-- Only successes of the reading of a value matter. -/
theorem congr {r' : Except ε α} (h : Agrees rest r t) (hr : ∀ x, r' = .ok x ↔ r = .ok x) :
    Agrees rest r' t := by
  cases h with
  | @ok x =>
    rw [(hr x).mpr rfl]
    exact .ok
  | error =>
    cases r' with
    | error e => exact .error
    | ok x => cases (hr x).mp rfl

theorem bind (h : Agrees rest r t) {f : α → Except ε β} {g : α × List Char → Except ε' (β × List Char)}
    (hfg : ∀ x, Agrees rest' (f x) (g (x, rest))) : Agrees rest' (r >>= f) (t >>= g) := by
  cases h with
  | ok => exact hfg _
  | error => exact .error

theorem map (h : Agrees rest r t) (f : α → β) :
    Agrees rest (r.map f) (t.map fun (x, rest) => (f x, rest)) := by
  cases h with
  | ok => exact .ok
  | error => exact .error

end Agrees

namespace Decoder

/-- Both ways to read data agree. -/
def Faithful (d : Decoder α) : Prop :=
  ∀ ⦃cs rest : List Char⦄ ⦃v : Json⦄ ⦃steps : Nat⦄, Spells cs v rest → v.KeysDistinct →
    cs.length < steps → Agrees rest (d.ofJson v) (d.ofText steps cs)

theorem Faithful.map {d : Decoder α} (hd : d.Faithful) (f : α → β) : (d.map f).Faithful :=
  fun _ _ _ _ hv hk hs => (hd hv hk hs).map f

/-! ## Texts and flags -/

theorem ofText_text_of_ne {cs tail : List Char} {c : Char} (h : skipBlanks cs = c :: tail)
    (hc : c ≠ '"') (steps : Nat) :
    text.ofText steps cs = .error (wrongKind .text (c :: tail)) := by
  unfold text
  dsimp only
  rw [h]
  split
  · next heq =>
    cases heq
    exact absurd rfl hc
  · rfl

theorem faithful_text : text.Faithful := by
  intro cs rest v steps hv _ _
  obtain ⟨c, tail, h, hkind⟩ := hv.exists_start
  cases v with
  | string s =>
    cases hv with
    | string h hs =>
      unfold text
      dsimp only
      rw [h]
      show Agrees _ _ ((stringBody _).map _)
      rw [hs]
      exact .ok
  | _ =>
    rw [ofText_text_of_ne h (Json.ne_of_kindOfStart? hkind nofun)]
    exact .error

theorem ofText_flag_of_ne {cs tail : List Char} {c : Char} (h : skipBlanks cs = c :: tail)
    (ht : c ≠ 't') (hf : c ≠ 'f') (steps : Nat) :
    flag.ofText steps cs = .error (wrongKind .flag (c :: tail)) := by
  unfold flag
  dsimp only
  rw [h]
  split
  · next heq =>
    cases heq
    exact absurd rfl ht
  · next heq =>
    cases heq
    exact absurd rfl hf
  · rfl

theorem faithful_flag : flag.Faithful := by
  intro cs rest v steps hv _ _
  obtain ⟨c, tail, h, hkind⟩ := hv.exists_start
  cases v with
  | bool b =>
    cases hv with
    | yes h hw =>
      unfold flag
      dsimp only
      rw [h]
      show Agrees _ _ ((word ['r', 'u', 'e'] _).map _)
      rw [hw]
      exact .ok
    | no h hw =>
      unfold flag
      dsimp only
      rw [h]
      show Agrees _ _ ((word ['a', 'l', 's', 'e'] _).map _)
      rw [hw]
      exact .ok
  | _ =>
    have htrue := Json.ne_of_kindOfStart? hkind (d := 't') nofun
    have hfalse := Json.ne_of_kindOfStart? hkind (d := 'f') nofun
    rw [ofText_flag_of_ne h htrue hfalse]
    exact .error

/-! ## Optional data -/

theorem ofText_optional_of_ne {d : Decoder α} {cs tail : List Char} {c : Char}
    (h : skipBlanks cs = c :: tail) (hc : c ≠ 'n') (steps : Nat) :
    d.optional.ofText steps cs
      = (d.ofText steps (c :: tail)).map fun (x, rest) => (some x, rest) := by
  unfold optional
  dsimp only
  rw [h]
  split
  · next heq =>
    cases heq
    exact absurd rfl hc
  · rfl

theorem Faithful.optional {d : Decoder α} (hd : d.Faithful) : d.optional.Faithful := by
  intro cs rest v steps hv hk hs
  obtain ⟨c, tail, h, hkind⟩ := hv.exists_start
  have hlength := Json.skipBlanks_length cs
  have hgiven := (hd hv.past_blanks hk (Nat.lt_of_le_of_lt hlength hs)).map some
  cases v with
  | null =>
    cases hv with
    | null h hw =>
      unfold Decoder.optional
      dsimp only
      rw [h]
      show Agrees _ _ ((word ['u', 'l', 'l'] _).map _)
      rw [hw]
      exact .ok
  | _ =>
    rw [ofText_optional_of_ne h (Json.ne_of_kindOfStart? hkind nofun), ← h]
    exact hgiven

/-! ## Lists -/

/-- The items are read one by one. -/
theorem Faithful.agrees_items {d : Decoder α} (hd : d.Faithful) {steps : Nat} :
    ∀ {vs : List Json} {first : Bool} {cs bracket : List Char} {more : Nat},
      SpellsItems first cs vs bracket → (∀ v ∈ vs, v.KeysDistinct) → cs.length < steps →
        vs.length < more →
          Agrees bracket (vs.mapM d.ofJson) (items (d.ofText steps) more first cs)
  | [], _, _, _, more + 1, .close h, _, _, _ => by
    rw [List.mapM_nil, Json.items_of_close h]
    exact .ok
  | v :: vs, _, cs, bracket, more + 1, @SpellsItems.entry _ _ start rest _ _ _ h hv hvs, hk, hs,
      hmore => by
    obtain ⟨hkv, hkvs⟩ := List.forall_mem_cons.mp hk
    have hstart := Json.nextItem_entry_length h
    have hrest := hv.length_lt
    have hfirst := hd hv hkv (Nat.lt_of_le_of_lt hstart hs)
    have hothers := hd.agrees_items hvs hkvs (Nat.lt_trans hrest (Nat.lt_of_le_of_lt hstart hs))
      (Nat.lt_of_succ_lt_succ hmore)
    rw [List.mapM_cons, Json.items_of_entry h]
    exact hfirst.bind fun x => hothers.bind fun xs => .ok

theorem ofText_list_of_ne {d : Decoder α} {cs tail : List Char} {c : Char}
    (h : skipBlanks cs = c :: tail) (hc : c ≠ '[') (steps : Nat) :
    d.list.ofText steps cs = .error (wrongKind .list (c :: tail)) := by
  unfold list
  dsimp only
  rw [h]
  split
  · next heq =>
    cases heq
    exact absurd rfl hc
  · rfl

theorem ofText_list_of_bracket {d : Decoder α} {cs body : List Char}
    (h : skipBlanks cs = '[' :: body) (steps : Nat) :
    d.list.ofText steps cs = do
      let (xs, rest) ← items (d.ofText steps) steps true body
      return (xs, ← closeList rest) := by
  unfold list
  dsimp only
  rw [h]
  rfl

theorem Faithful.list {d : Decoder α} (hd : d.Faithful) : d.list.Faithful := by
  intro cs rest v steps hv hk hs
  obtain ⟨c, tail, h, hkind⟩ := hv.exists_start
  cases v with
  | array vs =>
    cases hv with
    | array h hvs hclose =>
      cases hk with
      | array hk =>
        have hbody := Nat.lt_trans (Json.length_lt_of_skipBlanks h) hs
        have hmore := Nat.lt_of_le_of_lt (Nat.le_of_add_right_le hvs.length_le) hbody
        have hitems := hd.agrees_items hvs hk hbody hmore
        have hsame : d.list.ofJson (.array vs) = vs.mapM d.ofJson >>= pure := (bind_pure _).symm
        rw [ofText_list_of_bracket h, hsame]
        refine hitems.bind fun xs => ?_
        dsimp only
        rw [hclose]
        exact .ok
  | _ =>
    rw [ofText_list_of_ne h (Json.ne_of_kindOfStart? hkind nofun)]
    exact .error

/-! ## Words -/

section

variable {words : List (String × α)}

theorem agrees_wordOfText {body s rest : List Char} (hs : stringBody body = .ok (s, rest)) :
    Agrees rest (meaning words (.ofList s)) (wordOfText words ('"' :: body)) := by
  have hread : wordOfText words ('"' :: body) = _ := Except.bind_of_ok hs _
  rw [hread]
  dsimp only
  cases meaning words (.ofList s) with
  | ok x => exact .ok
  | error m => exact .error

variable {cs body afterKey value : List Char} (hname : skipBlanks cs = '"' :: body)

include hname

theorem wordAsKey_of_error {f : Fault} (hword : wordOfText words ('"' :: body) = .error f) :
    wordAsKey words cs = .error f := by
  unfold wordAsKey
  rw [hname]
  show (wordOfText words ('"' :: body) >>= _) = _
  rw [hword]
  rfl

variable {x : α} (hword : wordOfText words ('"' :: body) = .ok (x, afterKey))
  (hcolon : colon afterKey = .ok value)

include hword hcolon

theorem wordAsKey_of_ne {c : Char} {tail : List Char} (h : skipBlanks value = c :: tail)
    (hc : c ≠ 'n') : wordAsKey words cs = .error (wrongKind .nothing (c :: tail)) := by
  unfold wordAsKey
  rw [hname]
  refine (Except.bind_of_ok hword _).trans ?_
  refine (Except.bind_of_ok hcolon _).trans ?_
  dsimp only
  rw [h]
  split
  · next heq =>
    cases heq
    exact absurd rfl hc
  · rfl

theorem wordAsKey_of_null {letters rest : List Char} (h : skipBlanks value = 'n' :: letters)
    (hw : word ['u', 'l', 'l'] letters = .ok rest) :
    wordAsKey words cs = match skipBlanks rest with
      | [] => .error (.here .endInObject [])
      | c :: rest => if c = '\x7d' then .ok (x, rest) else .error (.here .valueExpected (c :: rest)) := by
  unfold wordAsKey
  rw [hname]
  refine (Except.bind_of_ok hword _).trans ?_
  refine (Except.bind_of_ok hcolon _).trans ?_
  dsimp only
  rw [h]
  exact Except.bind_of_ok hw _

end

theorem ofJson_oneOf_single {words : List (String × α)} (w : String) (v : Json) :
    (oneOf words).ofJson (.object [(w, v)])
      = (meaning words w >>= fun x =>
          if v.isNull then .ok x else .error (.kind (.ofJson v) .nothing)) := by
  have hany : [(w, v)].any (·.1 != w) = false := by simp
  unfold oneOf
  simp only [List.getLast?_singleton, hany]
  rfl

/-- Two different keys name no single word. -/
theorem ofJson_oneOf_several {words : List (String × α)} {m m' : String × Json}
    {ms : List (String × Json)} (hk : ((m :: m' :: ms).map Prod.fst).Nodup) :
    (oneOf words).ofJson (.object (m :: m' :: ms)) = .error .notSingleKey := by
  unfold oneOf
  dsimp only
  rw [List.getLast?_cons_cons]
  split
  · rfl
  · next w v hlast =>
    -- the word is that of the last member, which is not the first one
    have hmem : w ∈ (m' :: ms).map Prod.fst := List.mem_map_of_mem (List.mem_of_getLast? hlast)
    have hne : m.1 ≠ w := fun heq => (List.nodup_cons.mp hk).1 (heq ▸ hmem)
    rw [List.any_cons, bne_iff_ne.mpr hne, Bool.true_or]
    rfl

theorem agrees_wordAsKey {words : List (String × α)} {cs bracket rest : List Char}
    {ms : List (String × Json)} (hms : SpellsMembers true cs ms bracket)
    (hclose : closeObject bracket = .ok rest) (hk : (ms.map Prod.fst).Nodup) :
    Agrees rest ((oneOf words).ofJson (.object ms)) (wordAsKey words cs) := by
  cases hms with
  | close h =>
    obtain ⟨tail, -, hcs⟩ := Json.nextKey_eq_close h
    have hread : wordAsKey words cs = .error (wrongKind .variantName ('\x7d' :: tail)) := by
      unfold wordAsKey
      rw [hcs]
      rfl
    rw [hread]
    exact .error
  | @entry _ _ start afterKey value after _ k v ms h hkey hcolon hv hothers =>
    obtain ⟨hat, body, rfl⟩ := Json.nextKey_eq_entry h
    obtain ⟨⟨s, afterQuote⟩, hbody, heq⟩ := Except.bind_eq_ok.mp hkey
    cases heq
    have hname : skipBlanks cs = '"' :: body := by
      cases hat with
      | first hcs => exact hcs
    have hword : Agrees _ _ (wordOfText words _) := agrees_wordOfText hbody
    cases hmeaning : meaning words (.ofList s) with
    | error m =>
      -- the text fails at the word, the value at the word or because of a second key
      rw [hmeaning] at hword
      obtain ⟨f, hf⟩ := hword.exists_error
      rw [wordAsKey_of_error hname hf]
      cases ms with
      | nil =>
        rw [ofJson_oneOf_single, hmeaning]
        exact .error
      | cons m' ms' =>
        rw [ofJson_oneOf_several hk]
        exact .error
    | ok x =>
      -- after a word that is known, `null` and the closing brace must follow
      rw [hmeaning] at hword
      obtain ⟨c, tail, hc, hkind⟩ := hv.exists_start
      cases hnull : v.isNull with
      | false =>
        have hne : c ≠ 'n' := by
          refine Json.ne_of_kindOfStart? hkind ?_
          cases v with
          | null => cases hnull
          | _ => nofun
        rw [wordAsKey_of_ne hname hword.eq_ok hcolon hc hne]
        cases ms with
        | nil =>
          rw [ofJson_oneOf_single, hmeaning, hnull]
          exact .error
        | cons m' ms' =>
          rw [ofJson_oneOf_several hk]
          exact .error
      | true =>
        cases hv with
        | null hstart hw =>
          rw [wordAsKey_of_null hname hword.eq_ok hcolon hstart hw]
          cases hothers with
          | close hnext =>
            obtain ⟨tail, rfl, hafter⟩ := Json.nextKey_eq_close hnext
            cases hclose
            rw [ofJson_oneOf_single, hmeaning, hafter]
            exact .ok
          | entry hnext =>
            obtain ⟨hlater, -⟩ := Json.nextKey_eq_entry hnext
            cases hlater with
            | later hafter =>
              rw [ofJson_oneOf_several hk, hafter]
              exact .error
        | _ => cases hnull

theorem ofText_oneOf_of_ne {words : List (String × α)} {cs tail : List Char} {c : Char}
    (h : skipBlanks cs = c :: tail) (hquote : c ≠ '"') (hbrace : c ≠ '\x7b') (steps : Nat) :
    (oneOf words).ofText steps cs = .error (.next .valueExpected (c :: tail)) := by
  unfold oneOf
  simp only [h, if_neg hquote, if_neg hbrace]

theorem faithful_oneOf (words : List (String × α)) : (oneOf words).Faithful := by
  intro cs rest v steps hv hk _
  obtain ⟨c, tail, h, hkind⟩ := hv.exists_start
  cases v with
  | string s =>
    cases hv with
    | @string _ body _ _ h hs =>
      have hread : (oneOf words).ofText steps cs = wordOfText words ('"' :: body) := by
        unfold oneOf
        simp only [h, if_true]
      rw [hread]
      exact agrees_wordOfText hs
  | object ms =>
    cases hv with
    | @object _ body _ _ _ h hms hclose =>
      have hread : (oneOf words).ofText steps cs = wordAsKey words body := by
        unfold oneOf
        simp only [h]
        rfl
      cases hk with
      | object hkeys =>
        rw [hread]
        exact agrees_wordAsKey hms hclose hkeys
  | _ =>
    have hquote := Json.ne_of_kindOfStart? hkind (d := '"') nofun
    have hbrace := Json.ne_of_kindOfStart? hkind (d := '\x7b') nofun
    rw [ofText_oneOf_of_ne h hquote hbrace]
    exact .error

end Decoder

end SiteManifest.Shape
