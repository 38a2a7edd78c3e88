import Mathlib.Data.List.Forall2
import SiteManifest.Proofs.Expansion.Parts

/-!
# Texts put together

A text is put together from pieces: texts without dollars, and references with braces. It is expanded
piece by piece. A text stays as it is, and a reference becomes the value of its variable, or its
fallback if the variable is not set. Neither is looked at again, whatever it looks like. The leftmost
reference without a value and a fallback ends the expansion.
-/

namespace SiteManifest

namespace Expansion

/-! ## References -/

namespace Reference

/-- What stands between the braces of a reference. -/
def body (r : Reference) : List Char :=
  match r.fallback with
  | none => r.name.toList
  | some fallback => r.name.toList ++ ':' :: '-' :: fallback.toList

/-- How a reference is written. -/
def text (r : Reference) : String :=
  match r.fallback with
  | none => "$\x7b" ++ r.name ++ "\x7d"
  | some fallback => "$\x7b" ++ r.name ++ ":-" ++ fallback ++ "\x7d"

/-- A reference that is written so that it can be told where its name and its fallback end. -/
structure WellFormed (r : Reference) : Prop where
  named : r.name ≠ ""
  name_closed : '\x7d' ∉ r.name.toList
  name_unmarked : ¬[':', '-'] <:+: r.name.toList
  fallback_closed : ∀ fallback ∈ r.fallback, '\x7d' ∉ fallback.toList

theorem toList_text (r : Reference) : r.text.toList = '$' :: '\x7b' :: (r.body ++ ['\x7d']) := by
  obtain ⟨name, fallback⟩ := r
  cases fallback with
  | none => simp [text, body]
  | some fallback => simp [text, body]

theorem WellFormed.not_mem_body {r : Reference} (h : r.WellFormed) : '\x7d' ∉ r.body := by
  obtain ⟨name, fallback⟩ := r
  have hname : '\x7d' ∉ name.toList := h.name_closed
  cases fallback with
  | none => exact hname
  | some fallback =>
    have hfallback : '\x7d' ∉ fallback.toList := h.fallback_closed fallback rfl
    simp [body, hname, hfallback]

/-- The mark of a fallback does not start inside of a name, nor at its end. -/
theorem splitAt?_mark {name : List Char} (h : ¬[':', '-'] <:+: name) (fallback : List Char) :
    splitAt? [':', '-'] (name ++ ':' :: '-' :: fallback) = some (name, fallback) := by
  have hbefore : ¬[':', '-'] <:+: name ++ [':'] := by
    rw [List.infix_concat_iff]
    rintro (⟨before, hend⟩ | hin)
    · have hlast := congrArg List.getLast? hend
      simp at hlast
    · exact h hin
  exact splitAt?_append hbefore

theorem WellFormed.ofBody_body {r : Reference} (h : r.WellFormed) : ofBody r.body = r := by
  obtain ⟨name, fallback⟩ := r
  have hunmarked : ¬[':', '-'] <:+: name.toList := h.name_unmarked
  cases fallback with
  | none =>
    have hnone : splitAt? [':', '-'] name.toList = none := by
      rw [← Option.not_isSome_iff_eq_none, isSome_splitAt? (List.cons_ne_nil _ _)]
      exact hunmarked
    unfold ofBody body
    rw [hnone]
    exact congrArg (Reference.mk · none) String.ofList_toList
  | some fallback =>
    have hne : name.toList ≠ [] := fun hnil => h.named (String.toList_eq_nil_iff.mp hnil)
    have hsplit := splitAt?_mark hunmarked fallback.toList
    obtain ⟨c, cs, hname⟩ := List.exists_cons_of_ne_nil hne
    unfold ofBody body
    dsimp only
    rw [hsplit, hname]
    dsimp only
    rw [← hname, String.ofList_toList, String.ofList_toList]

end Reference

/-! ## Pieces -/

/-- A piece of a text. -/
inductive Piece where
  | literal (text : String)
  | reference (r : Reference)
  deriving DecidableEq, Repr

namespace Piece

/-- How a piece is written. -/
def text : Piece → String
  | .literal text => text
  | .reference r => r.text

/-- A piece that ends where it is meant to end. -/
inductive WellFormed : Piece → Prop where
  | literal {text : String} (h : '$' ∉ text.toList) : WellFormed (.literal text)
  | reference {r : Reference} (h : r.WellFormed) : WellFormed (.reference r)

/-- The text that a piece becomes. -/
inductive Becomes (env : Environment) : Piece → String → Prop where
  | literal (text : String) : Becomes env (.literal text) text
  | value {name value : String} (fallback : Option String) (h : env.get? name = some value) :
    Becomes env (.reference ⟨name, fallback⟩) value
  | fallback {name : String} (fallback : String) (h : env.get? name = none) :
    Becomes env (.reference ⟨name, some fallback⟩) fallback

/-- The parts that a piece falls into. -/
def parts : Piece → List Part
  | .literal text => text.toList.map .plain
  | .reference r => [.braced r.body]

theorem not_unbraced_of_mem_parts {piece : Piece} {p : Part} (h : p ∈ piece.parts) : ¬p.Unbraced := by
  cases piece with
  | literal text =>
    obtain ⟨c, -, rfl⟩ := List.mem_map.mp h
    nofun
  | reference r =>
    rw [List.mem_singleton.mp h]
    nofun

end Piece

theorem Cut.append_plain {cs : List Char} {ps : List Part} (h : Cut cs ps) :
    ∀ {text : List Char}, '$' ∉ text → Cut (text ++ cs) (text.map .plain ++ ps)
  | [], _ => h
  | c :: text, htext => by
    obtain ⟨hc, htext⟩ := List.ne_and_not_mem_of_not_mem_cons htext
    exact .plain hc.symm (h.append_plain htext)

theorem Cut.append_piece {cs : List Char} {ps : List Part} (h : Cut cs ps) {piece : Piece}
    (hpiece : piece.WellFormed) : Cut (piece.text.toList ++ cs) (piece.parts ++ ps) := by
  cases hpiece with
  | literal htext => exact h.append_plain htext
  | @reference r hr =>
    have hcut := h.braced hr.not_mem_body
    rw [Piece.text, r.toList_text, List.cons_append, List.cons_append, List.append_assoc]
    exact hcut

/-- Pieces that are put together fall into their own parts. -/
theorem cut_pieces : ∀ {pieces : List Piece}, (∀ p ∈ pieces, p.WellFormed) →
    Cut (String.join (pieces.map Piece.text)).toList (pieces.flatMap Piece.parts)
  | [], _ => .done
  | piece :: pieces, h => by
    obtain ⟨hpiece, hpieces⟩ := List.forall_mem_cons.mp h
    have hcut := (cut_pieces hpieces).append_piece hpiece
    rw [String.toList_join] at hcut ⊢
    exact hcut

/-! ## Expansion -/

theorem joined_singleton (f : Part → Except String (List Char)) (p : Part) : joined f [p] = f p := by
  rw [joined_cons]
  cases f p with
  | error name => rfl
  | ok v => exact congrArg Except.ok (List.append_nil v)

theorem joined_append (f : Part → Except String (List Char)) (qs : List Part) :
    ∀ ps : List Part, joined f (ps ++ qs) = do
      let before ← joined f ps
      let after ← joined f qs
      return before ++ after
  | [] => by
    show joined f qs = (joined f qs >>= fun after => Except.ok after)
    cases joined f qs <;> rfl
  | p :: ps => by
    rw [List.cons_append, joined_cons, joined_cons, joined_append f qs ps]
    cases f p with
    | error name => rfl
    | ok v =>
      cases joined f ps with
      | error name => rfl
      | ok before =>
        cases joined f qs with
        | error name => rfl
        | ok after => exact congrArg Except.ok (List.append_assoc v before after).symm

section

variable {env : Environment}

theorem joined_reference {r : Reference} (h : r.WellFormed) :
    joined (Part.bracedValue env) (Piece.reference r).parts = (r.value env).map String.toList := by
  show joined (Part.bracedValue env) [.braced r.body] = _
  rw [joined_singleton]
  show ((Reference.ofBody r.body).value env).map String.toList = _
  rw [h.ofBody_body]

theorem joined_literal (text : String) :
    joined (Part.bracedValue env) (Piece.literal text).parts = .ok text.toList := by
  have hkept : ∀ p ∈ (Piece.literal text).parts, p.bracedValue env = .ok p.text := by
    intro p hp
    obtain ⟨c, -, rfl⟩ := List.mem_map.mp hp
    rfl
  rw [joined_of_kept hkept]
  simp [Piece.parts, List.flatMap_map, Part.text]

/-- What a piece becomes is what its parts are replaced by. -/
theorem Piece.Becomes.joined_parts {piece : Piece} {value : String} (h : piece.Becomes env value)
    (hpiece : piece.WellFormed) : joined (Part.bracedValue env) piece.parts = .ok value.toList := by
  cases hpiece with
  | literal _ =>
    cases h
    exact joined_literal value
  | reference hr =>
    rw [joined_reference hr]
    cases h with
    | value _ hset =>
      unfold Reference.value
      rw [hset]
      rfl
    | fallback _ hunset =>
      unfold Reference.value
      rw [hunset]
      rfl

theorem joined_unset {name : String} (h : (Reference.mk name none).WellFormed)
    (hunset : env.get? name = none) :
    joined (Part.bracedValue env) (Piece.reference ⟨name, none⟩).parts = .error name := by
  rw [joined_reference h]
  unfold Reference.value
  rw [hunset]
  rfl

theorem joined_pieces {pieces : List Piece} {values : List String}
    (h : List.Forall₂ (Piece.Becomes env) pieces values) (hpieces : ∀ p ∈ pieces, p.WellFormed) :
    joined (Part.bracedValue env) (pieces.flatMap Piece.parts) = .ok (String.join values).toList := by
  induction h with
  | nil => rfl
  | cons hvalue _ ih =>
    obtain ⟨hpiece, hpieces⟩ := List.forall_mem_cons.mp hpieces
    rw [List.flatMap_cons, joined_append, hvalue.joined_parts hpiece, ih hpieces, String.toList_join,
      String.toList_join]
    rfl

end

/-- Every piece becomes something, or there is a first one that refers to a variable that is not set,
without a fallback. -/
theorem becomes_or_unset (env : Environment) : ∀ pieces : List Piece,
    (∃ values, List.Forall₂ (Piece.Becomes env) pieces values)
      ∨ ∃ before name after values, pieces = before ++ .reference ⟨name, none⟩ :: after
        ∧ List.Forall₂ (Piece.Becomes env) before values ∧ env.get? name = none
  | [] => Or.inl ⟨[], .nil⟩
  | piece :: pieces => by
    have hpiece : (∃ value, piece.Becomes env value)
        ∨ ∃ name, piece = .reference ⟨name, none⟩ ∧ env.get? name = none := by
      cases piece with
      | literal text => exact Or.inl ⟨text, .literal text⟩
      | reference r =>
        obtain ⟨name, fallback⟩ := r
        cases hget : env.get? name with
        | some value => exact Or.inl ⟨value, .value fallback hget⟩
        | none =>
          cases fallback with
          | some fallback => exact Or.inl ⟨fallback, .fallback fallback hget⟩
          | none => exact Or.inr ⟨name, rfl, hget⟩
    obtain ⟨value, hvalue⟩ | ⟨name, rfl, hunset⟩ := hpiece
    · obtain ⟨values, hvalues⟩ | ⟨before, name, after, values, rfl, hvalues, hunset⟩ :=
        becomes_or_unset env pieces
      · exact Or.inl ⟨value :: values, .cons hvalue hvalues⟩
      · exact Or.inr ⟨piece :: before, name, after, value :: values, rfl, .cons hvalue hvalues, hunset⟩
    · exact Or.inr ⟨[], name, pieces, [], rfl, .nil, hunset⟩

theorem expand_pieces {pieces : List Piece} (h : ∀ p ∈ pieces, p.WellFormed) (env : Environment) :
    expand env (String.join (pieces.map Piece.text))
      = (joined (Part.bracedValue env) (pieces.flatMap Piece.parts)).map .ofList := by
  refine expand_of_kept (cut_pieces h) (Or.inr fun p hp => ?_) env
  obtain ⟨piece, -, hp⟩ := List.mem_flatMap.mp hp
  exact Piece.not_unbraced_of_mem_parts hp

theorem expand_of_becomes {env : Environment} {pieces : List Piece} {values : List String}
    (h : ∀ p ∈ pieces, p.WellFormed) (hvalues : List.Forall₂ (Piece.Becomes env) pieces values) :
    expand env (String.join (pieces.map Piece.text)) = .ok (String.join values) := by
  rw [expand_pieces h, joined_pieces hvalues h]
  exact congrArg Except.ok String.ofList_toList

theorem expand_of_unset {env : Environment} {before after : List Piece} {name : String}
    {values : List String} (h : ∀ p ∈ before ++ .reference ⟨name, none⟩ :: after, p.WellFormed)
    (hvalues : List.Forall₂ (Piece.Becomes env) before values) (hunset : env.get? name = none) :
    expand env (String.join ((before ++ .reference ⟨name, none⟩ :: after).map Piece.text))
      = .error name := by
  obtain ⟨hbefore, hafter⟩ := List.forall_mem_append.mp h
  obtain ⟨hr, -⟩ := List.forall_mem_cons.mp hafter
  cases hr with
  | reference hr =>
    rw [expand_pieces h, List.flatMap_append, List.flatMap_cons, joined_append,
      joined_pieces hvalues hbefore, joined_append, joined_unset hr hunset]
    rfl

/-- **A text is expanded piece by piece**: it becomes what its pieces become, one after the other, unless
one of them refers to a variable that is not set and has no fallback. Then the expansion fails, and it
tells the name of the leftmost such variable. -/
theorem expanded_by_pieces (env : Environment) (key : String) {pieces : List Piece}
    (h : ∀ p ∈ pieces, p.WellFormed) :
    (∃ values, List.Forall₂ (Piece.Becomes env) pieces values
        ∧ field env key (some (String.join (pieces.map Piece.text)))
          = .ok (some (String.join values)))
      ∨ ∃ before name after values, pieces = before ++ .reference ⟨name, none⟩ :: after
        ∧ List.Forall₂ (Piece.Becomes env) before values ∧ env.get? name = none
        ∧ field env key (some (String.join (pieces.map Piece.text)))
          = .error (.unsetVariable (.top key) name)
        ∧ (LoadError.unsetVariable (.top key) name).message
          = "Environment variable error in " ++ key ++ ": $\x7b" ++ name ++ "\x7d not set" := by
  obtain ⟨values, hvalues⟩ | ⟨before, name, after, values, rfl, hvalues, hunset⟩ :=
    becomes_or_unset env pieces
  · refine Or.inl ⟨values, hvalues, ?_⟩
    rw [field_some, expand_of_becomes h hvalues]
    rfl
  · refine Or.inr ⟨before, name, after, values, rfl, hvalues, hunset, ?_, rfl⟩
    rw [field_some, expand_of_unset h hvalues hunset]
    rfl

/-- A value and a fallback that look like references, and the first of two variables that are not set. -/
theorem expanded_by_pieces_texts :
    let env := Environment.empty.set "NAME" "$\x7bNAME\x7d"
    let spare : List Piece :=
      [.literal "a \x7d", .reference ⟨"NAME", none⟩, .reference ⟨"GONE", some "$\x7bNAME:-"⟩]
    let gone : List Piece :=
      [.reference ⟨"NAME", some ""⟩, .reference ⟨"GONE", none⟩, .reference ⟨"AWAY", none⟩]
    (∀ p ∈ spare, p.WellFormed)
      ∧ (∃ values, List.Forall₂ (Piece.Becomes env) spare values
        ∧ String.join values = "a \x7d$\x7bNAME\x7d$\x7bNAME:-")
      ∧ (∀ p ∈ gone, p.WellFormed)
      ∧ ∃ before after values, gone = before ++ .reference ⟨"GONE", none⟩ :: after
        ∧ List.Forall₂ (Piece.Becomes env) before values ∧ env.get? "GONE" = none := by
  intro env spare gone
  have hspare : ∀ p ∈ spare, p.WellFormed := by
    intro p hp
    simp only [spare, List.mem_cons, List.not_mem_nil, or_false] at hp
    obtain rfl | rfl | rfl := hp
    · exact .literal (by decide)
    · exact .reference ⟨by decide, by decide, by decide, nofun⟩
    · exact .reference ⟨by decide, by decide, by decide, by decide⟩
  have hgone : ∀ p ∈ gone, p.WellFormed := by
    intro p hp
    simp only [gone, List.mem_cons, List.not_mem_nil, or_false] at hp
    obtain rfl | rfl | rfl := hp
    · exact .reference ⟨by decide, by decide, by decide, by decide⟩
    · exact .reference ⟨by decide, by decide, by decide, nofun⟩
    · exact .reference ⟨by decide, by decide, by decide, nofun⟩
  refine ⟨hspare, ?_, hgone, ?_⟩
  · have hfield : field env "title" (some (String.join (spare.map Piece.text)))
        = .ok (some "a \x7d$\x7bNAME\x7d$\x7bNAME:-") := by decide +kernel
    obtain ⟨values, hvalues, h⟩ | ⟨_, _, _, _, _, _, _, h, _⟩ :=
      expanded_by_pieces env "title" hspare
    · exact ⟨values, hvalues, (Option.some.inj (Except.ok.inj (hfield.symm.trans h))).symm⟩
    · cases hfield.symm.trans h
  · have hfield : field env "title" (some (String.join (gone.map Piece.text)))
        = .error (.unsetVariable (.top "title") "GONE") := by decide +kernel
    obtain ⟨_, _, h⟩ | ⟨before, name, after, values, hsplit, hvalues, hunset, h, -⟩ :=
      expanded_by_pieces env "title" hgone
    · cases hfield.symm.trans h
    · cases hfield.symm.trans h
      exact ⟨before, after, values, hsplit, hvalues, hunset⟩

end Expansion

end SiteManifest
