import Mathlib.Data.List.Basic
import SiteManifest.Yaml.Document

/-!
# Streams of documents

How a text falls into documents, without any bound on their number. A document takes its tokens from the
front of those that are left, so as many steps as there are tokens are enough to read them all.

## How tokens are taken

`Advances x` says that what a reader `x` leaves is an end of what it was given. It is kept when readers
are put after each other, so every reader of a part of a node is taken through it once, and the readers
of whole nodes by induction on the depth of the nesting.
-/

namespace SiteManifest.Yaml

namespace Composer

variable {α β : Type}

/-- A reader takes tokens from the front only. -/
def Advances (x : Composer α) : Prop :=
  ∀ s a s', x.run s = some (a, s') → s'.tokens <:+ s.tokens

namespace Advances

/-! ## Steps -/

theorem pure (a : α) : Advances (Pure.pure a) := by
  intro s b s' h
  cases h
  exact List.suffix_refl _

theorem failure : Advances (Alternative.failure : Composer α) := nofun

theorem bind {x : Composer α} {f : α → Composer β} (hx : Advances x) (hf : ∀ a, Advances (f a)) :
    Advances (x >>= f) := by
  intro s b s' h
  rw [StateT.run_bind] at h
  obtain ⟨⟨a, t⟩, ha, hb⟩ := Option.bind_eq_some_iff.mp h
  exact (hf a t b s' hb).trans (hx s a t ha)

theorem ite {p : Prop} [Decidable p] {x y : Composer α} (hx : Advances x) (hy : Advances y) :
    Advances (if p then x else y) := by
  split
  · exact hx
  · exact hy

theorem get : Advances (MonadState.get : Composer Composition) := by
  intro s b s' h
  cases h
  exact List.suffix_refl _

/-! ## Tokens -/

theorem peek : Advances peek := get.bind fun _ => pure _

theorem skip : Advances skip := by
  intro s a s' h
  cases h
  exact List.drop_suffix 1 s.tokens

theorem pass (t : Token) : Advances (pass t) :=
  peek.bind fun _ => ite (skip.bind fun _ => pure _) (pure _)

theorem atOneOf (ts : List Token) : Advances (atOneOf ts) := peek.bind fun _ => pure _

theorem steps : Advances steps := get.bind fun _ => pure _

/-! ## Properties -/

theorem nameAnchor (name : String) : Advances (nameAnchor name) := by
  intro s a s' h
  cases h
  exact List.suffix_refl _

theorem anchor : Advances anchor := by
  refine peek.bind fun t => ?_
  split
  · exact skip.bind fun _ => (nameAnchor _).bind fun _ => pure _
  · exact pure _

theorem tagName (t : RawTag) : Advances (tagName t) := by
  refine ite (pure _) (get.bind fun s => ?_)
  split
  · exact pure _
  · exact failure

theorem tag : Advances tag := by
  refine peek.bind fun t => ?_
  split
  · exact skip.bind fun _ => (tagName _).bind fun _ => pure _
  · exact pure _

theorem properties : Advances properties := by
  refine anchor.bind fun before => tag.bind fun name => ?_
  cases before with
  | none => exact anchor.bind fun _ => pure _
  | some a => exact pure _

/-! ## Collections -/

theorem unlessAt (ends : List Token) {read : Composer Node} (h : Advances read) :
    Advances (unlessAt ends read) :=
  (atOneOf ends).bind fun _ => ite (pure _) h

theorem valueUnlessAt (ends : List Token) {read : Composer Node} (h : Advances read) :
    Advances (valueUnlessAt ends read) :=
  (pass .value).bind fun _ => ite (unlessAt ends h) (pure _)

theorem passComma (first : Bool) : Advances (passComma first) :=
  ite (pure _) <| (pass _).bind fun _ => ite (pure _) failure

section

variable {child : Child} (h : ∀ block aligned, Advances (child block aligned))
include h

theorem blockItems : ∀ n, Advances (blockItems child n)
  | 0 => failure
  | n + 1 =>
    (pass _).bind fun _ => ite (pure _) <| (pass _).bind fun _ =>
      ite ((unlessAt _ (h true false)).bind fun _ => (blockItems n).bind fun _ => pure _) failure

theorem alignedItems : ∀ n, Advances (alignedItems child n)
  | 0 => failure
  | n + 1 =>
    (pass _).bind fun _ =>
      ite ((unlessAt _ (h true false)).bind fun _ => (alignedItems n).bind fun _ => pure _) (pure _)

theorem blockEntries : ∀ n, Advances (blockEntries child n)
  | 0 => failure
  | n + 1 =>
    (pass _).bind fun _ => ite (pure _) <| (pass _).bind fun _ =>
      ite ((unlessAt _ (h true true)).bind fun _ => (valueUnlessAt _ (h true true)).bind fun _ =>
        (blockEntries n).bind fun _ => pure _) failure

theorem flowPair : Advances (flowPair child) := by
  have hvalue (k : Node) : Advances (do
      let v ← Composer.valueUnlessAt [.flowEntry, .flowSequenceEnd] (child false false)
      return Node.mapping .none [(k, v)]) :=
    (valueUnlessAt _ (h false false)).bind fun _ => pure _
  refine (atOneOf _).bind fun missing => ite ?_ ?_
  · exact skip.bind fun _ => (pure _).bind hvalue
  · exact (h false false).bind hvalue

theorem flowItems : ∀ first n, Advances (flowItems child first n)
  | _, 0 => failure
  | first, n + 1 => by
    have hrest (item : Node) : Advances (do return item :: (← Composer.flowItems child false n)) :=
      (flowItems false n).bind fun _ => pure _
    refine (pass _).bind fun _ => ite (pure _) <| (passComma first).bind fun _ =>
      (pass _).bind fun _ => ite (pure _) <| (pass _).bind fun _ => ite ?_ ?_
    · exact (flowPair h).bind hrest
    · exact (h false false).bind hrest

theorem flowEntries : ∀ first n, Advances (flowEntries child first n)
  | _, 0 => failure
  | first, n + 1 => by
    have hrest (entry : Node × Node) :
        Advances (do return entry :: (← Composer.flowEntries child false n)) :=
      (flowEntries false n).bind fun _ => pure _
    refine (pass _).bind fun _ => ite (pure _) <| (passComma first).bind fun _ =>
      (pass _).bind fun _ => ite (pure _) <| (pass _).bind fun _ => ite ?_ ?_
    · exact (unlessAt _ (h false false)).bind fun _ => (valueUnlessAt _ (h false false)).bind fun _ =>
        (pure _).bind hrest
    · exact (h false false).bind fun _ => (pure _).bind hrest

/-! ## Nodes -/

theorem collection {block aligned : Bool} {p : Properties} {t : Token}
    {read : Child → Composer Node} (hread : collection? block aligned p t = some read) :
    Advances (read child) := by
  unfold collection? at hread
  split at hread
  · cases hread
    exact skip.bind fun _ => steps.bind fun n => (flowItems h true n).bind fun _ => pure _
  · cases hread
    exact skip.bind fun _ => steps.bind fun n => (flowEntries h true n).bind fun _ => pure _
  · split at hread
    · cases hread
      exact skip.bind fun _ => steps.bind fun n => (blockItems h n).bind fun _ => pure _
    · cases hread
  · split at hread
    · cases hread
      exact skip.bind fun _ => steps.bind fun n => (blockEntries h n).bind fun _ => pure _
    · cases hread
  · split at hread
    · cases hread
      exact steps.bind fun n => (alignedItems h n).bind fun _ => pure _
    · cases hread
  · cases hread

end

theorem bare (p : Properties) : Advances (bare p) := ite failure (pure _)

theorem nodeWith {child? : Option Child}
    (h : ∀ child ∈ child?, ∀ block aligned, Advances (child block aligned)) (block aligned : Bool) :
    Advances (nodeWith child? block aligned) := by
  refine peek.bind fun t => ?_
  split
  · refine skip.bind fun _ => get.bind fun s => ?_
    split
    · exact pure _
    · exact failure
  · refine properties.bind fun p => peek.bind fun t => ?_
    split
    · exact bare p
    · exact skip.bind fun _ => pure _
    · split
      · exact bare p
      · exact failure
      · next read child hread => exact collection (h child rfl) hread

/-- The induction is on how deep collections may be nested. -/
theorem node : ∀ depth block aligned, Advances (node depth block aligned)
  | 0 => nodeWith nofun
  | depth + 1 => nodeWith fun _ hchild => Option.some.inj hchild ▸ node depth

end Advances

end Composer

/-! ## Documents -/

theorem splitDirectives_suffix : ∀ ts, (splitDirectives ts).2 <:+ ts
  | [] => List.suffix_refl _
  | t :: ts => by
    unfold splitDirectives
    split
    · next heq =>
      cases heq
      exact (splitDirectives_suffix _).trans (List.suffix_cons _ _)
    · exact List.suffix_refl _

variable {first : Bool} {ts rest : List Token} {n : Node}

theorem content_suffix {handles : List (String × String)}
    (h : content handles ts = some (n, rest)) : rest <:+ ts := by
  obtain ⟨⟨m, s⟩, hrun, h⟩ := Option.map_eq_some_iff.mp h
  cases h
  exact Composer.Advances.node _ _ _ _ _ _ hrun

/-- A document takes its tokens from the front, and at least the mark of its start unless it is the
first one. -/
theorem document_suffix (h : document first ts = some (n, rest)) :
    rest <:+ ts ∧ (first = false → rest.length < ts.length) := by
  unfold document at h
  split at h
  · next ds after hsplit =>
    have hts := splitDirectives_suffix ts
    rw [hsplit] at hts
    have hafter : rest <:+ after := by
      obtain ⟨handles, -, h⟩ := Option.bind_eq_some_iff.mp h
      split at h
      · cases h
        exact List.suffix_refl _
      · exact content_suffix h
    have hlength := hafter.length_le
    have hlength' := hts.length_le
    rw [List.length_cons] at hlength'
    exact ⟨(hafter.trans (List.suffix_cons _ _)).trans hts, fun _ => by omega⟩
  · split at h
    · next hfirst =>
      refine ⟨content_suffix h, fun hfalse => ?_⟩
      rw [hfalse] at hfirst
      cases hfirst
    · cases h

/-- The tokens from the next document on: marks of an end are left out after a document. -/
def upcoming (first : Bool) (ts : List Token) : List Token :=
  if first then ts else ts.dropWhile (· == .documentEnd)

/-- What a stream of tokens holds, document by document: the value of each, or nothing for one without a
value. Nothing can be told of what follows a document that is not well-formed. -/
inductive Stream : Bool → List Token → List (Option Json) → Prop where
  | done {first : Bool} {ts : List Token} (h : upcoming first ts = []) : Stream first ts []
  | broken {first : Bool} {ts : List Token} (hts : upcoming first ts ≠ [])
    (h : document first (upcoming first ts) = none) : Stream first ts [none]
  | document {first : Bool} {ts rest : List Token} {n : Node} {os : List (Option Json)}
    (hts : upcoming first ts ≠ []) (h : document first (upcoming first ts) = some (n, rest))
    (hrest : Stream false rest os) : Stream first ts (n.documentValue? :: os)

/-- A stream holds one list of documents. -/
theorem Stream.unique {os os' : List (Option Json)} (h : Stream first ts os) (h' : Stream first ts os') :
    os = os' := by
  induction h generalizing os' with
  | done h =>
    cases h' with
    | done => rfl
    | broken hts => exact absurd h hts
    | document hts => exact absurd h hts
  | broken hts h =>
    cases h' with
    | done h' => exact absurd h' hts
    | broken => rfl
    | document _ h' =>
      rw [h] at h'
      cases h'
  | document hts h _ ih =>
    cases h' with
    | done h' => exact absurd h' hts
    | broken _ h' =>
      rw [h] at h'
      cases h'
    | document _ h' hrest =>
      rw [h] at h'
      cases h'
      rw [ih hrest]

theorem upcoming_length_le (first : Bool) (ts : List Token) :
    (upcoming first ts).length ≤ ts.length := by
  unfold upcoming
  split
  · exact Nat.le_refl _
  · exact (List.dropWhile_suffix _).length_le

section

variable {steps : Nat}

theorem documents_of_done (h : upcoming first ts = []) : documents (steps + 1) first ts = [] := by
  unfold upcoming at h
  unfold documents
  dsimp only
  rw [h]
  rfl

theorem documents_of_broken (hts : upcoming first ts ≠ [])
    (h : document first (upcoming first ts) = none) : documents (steps + 1) first ts = [none] := by
  rw [ne_eq, ← List.isEmpty_iff] at hts
  unfold upcoming at hts h
  unfold documents
  dsimp only
  rw [if_neg hts, h]

theorem documents_of_document (hts : upcoming first ts ≠ [])
    (h : document first (upcoming first ts) = some (n, rest)) :
    documents (steps + 1) first ts = some n :: documents steps false rest := by
  rw [ne_eq, ← List.isEmpty_iff] at hts
  unfold upcoming at hts h
  conv_lhs => unfold documents
  dsimp only
  rw [if_neg hts, h]

end

/-- As many steps as there are tokens are enough, and one more if the first document may go without the
mark of its start. -/
theorem stream_documents : ∀ {steps : Nat} {first : Bool} {ts : List Token},
    ts.length + first.toNat ≤ steps →
      Stream first ts ((documents steps first ts).map fun n => n.bind Node.documentValue?)
  | 0, false, [], _ => .done rfl
  | steps + 1, first, ts, hsteps => by
    by_cases hts : upcoming first ts = []
    · rw [documents_of_done hts]
      exact .done hts
    cases hdocument : document first (upcoming first ts) with
    | none =>
      rw [documents_of_broken hts hdocument]
      exact .broken hts hdocument
    | some p =>
      obtain ⟨n, rest⟩ := p
      rw [documents_of_document hts hdocument]
      refine .document hts hdocument (stream_documents ?_)
      obtain ⟨hsuffix, hshorter⟩ := document_suffix hdocument
      have hlength := upcoming_length_le first ts
      have hrest := hsuffix.length_le
      cases first with
      | true =>
        -- the first document may take no token at all, which the step that is to spare pays for
        rw [Bool.toNat_true] at hsteps
        rw [Bool.toNat_false]
        omega
      | false =>
        have hlt := hshorter rfl
        rw [Bool.toNat_false] at hsteps ⊢
        omega

/-! ## Texts -/

/-- **The documents of a text are those of its stream of tokens.** -/
theorem stream_iff {text : String} {os : List (Option Json)} :
    Stream true (tokens text) os ↔ os = outcomes text := by
  have houtcomes : Stream true (tokens text) (outcomes text) := stream_documents (Nat.le_refl _)
  constructor
  · intro h
    exact h.unique houtcomes
  · rintro rfl
    exact houtcomes

theorem ofText?_of_none_mem {text : String} (h : none ∈ outcomes text) : ofText? text = none := by
  unfold ofText?
  generalize outcomes text = os at h
  induction os with
  | nil => cases h
  | cons o os ih =>
    rw [List.mapM_cons]
    cases o with
    | none => rfl
    | some v =>
      have hos : none ∈ os := by simpa using h
      rw [ih hos]
      rfl

/-- A text has values if each of its documents has one. -/
theorem ofText?_of_none_not_mem {text : String} (h : none ∉ outcomes text) :
    ofText? text = some ((outcomes text).filterMap id) := by
  unfold ofText?
  generalize outcomes text = os at h
  induction os with
  | nil => rfl
  | cons o os ih =>
    rw [List.mapM_cons]
    cases o with
    | none => exact absurd List.mem_cons_self h
    | some v =>
      rw [ih (List.not_mem_of_not_mem_cons h)]
      rfl

end SiteManifest.Yaml
