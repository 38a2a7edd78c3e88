import SiteManifest.Expansion
import SiteManifest.Proofs.Except
import SiteManifest.Proofs.Site.Draft

/-!
# Expanded sites

A text is expanded only if it holds the start of a reference with braces; any other text stays as it is.
Of a site the title, the description and the base path are expanded, in this order, and the first
variable that is not set ends the expansion.
-/

namespace SiteManifest

namespace Expansion

/-! ## References with braces -/

theorem isSome_isPrefixOf? : ∀ {pattern cs : List Char},
    (pattern.isPrefixOf? cs).isSome = true ↔ pattern <+: cs
  | [], _ => ⟨fun _ => List.nil_prefix, fun _ => rfl⟩
  | _ :: _, [] => ⟨nofun, fun h => nomatch List.prefix_nil.mp h⟩
  | p :: ps, c :: cs => by
    show (if p == c then ps.isPrefixOf? cs else none).isSome = true ↔ _
    rw [List.cons_prefix_cons]
    split
    · next h =>
      rw [beq_iff_eq] at h
      rw [isSome_isPrefixOf?]
      exact ⟨fun hp => ⟨h, hp⟩, fun hp => hp.2⟩
    · next h =>
      rw [beq_iff_eq] at h
      exact ⟨nofun, fun hp => absurd hp.1 h⟩

theorem isSome_splitAt? {pattern : List Char} (hp : pattern ≠ []) : ∀ {cs : List Char},
    (splitAt? pattern cs).isSome = true ↔ pattern <:+: cs
  | [] => by simp [splitAt?, hp]
  | c :: cs => by
    rw [splitAt?, List.infix_cons_iff, ← isSome_isPrefixOf?, ← isSome_splitAt? hp]
    cases pattern.isPrefixOf? (c :: cs) with
    | none => simp
    | some after => simp

/-- A text mentions variables if a dollar and a brace stand next to each other in it. -/
theorem mentions_iff {text : String} : mentions text = true ↔ ['$', '\x7b'] <:+: text.toList :=
  isSome_splitAt? (List.cons_ne_nil _ _)

/-- A text without references stays as it is, whatever the variables are. -/
theorem expand_of_not_infix {text : String} (h : ¬['$', '\x7b'] <:+: text.toList)
    (env : Environment) : expand env text = .ok text := by
  rw [← mentions_iff, Bool.not_eq_true] at h
  rw [expand, h]
  rfl

end Expansion

/-! ## Drafts -/

namespace Expansion

/-- A text that may be absent is expanded to another one; an absent text stays absent. -/
def Expands (env : Environment) : Option String → Option String → Prop :=
  Option.Rel fun text text' => expand env text = .ok text'

/-- A text that may be absent is given, and refers to a variable that is not set. -/
def Unset (env : Environment) (text : Option String) (name : String) : Prop :=
  ∃ s, text = some s ∧ expand env s = .error name

theorem field_eq_ok {env : Environment} {key : String} {text text' : Option String} :
    field env key text = .ok text' ↔ Expands env text text' := by
  unfold Expands field
  cases text with
  | none =>
    constructor
    · intro h
      cases h
      exact .none
    · rintro ⟨⟩
      rfl
  | some s =>
    dsimp only
    cases hs : expand env s with
    | error name =>
      constructor
      · intro h
        cases h
      · rintro (h | _)
        rw [hs] at h
        cases h
    | ok t =>
      constructor
      · intro h
        cases h
        exact .some hs
      · rintro (h | _)
        rw [hs] at h
        cases h
        rfl

theorem field_eq_error {env : Environment} {key : String} {text : Option String} {e : LoadError} :
    field env key text = .error e
      ↔ ∃ name, Unset env text name ∧ e = .unsetVariable (.top key) name := by
  unfold Unset field
  cases text with
  | none => simp
  | some s =>
    dsimp only
    cases hs : expand env s with
    | error name => simp [hs, eq_comm]
    | ok t => simp [hs]

end Expansion

/-- The first of the three texts of a draft that refers to a variable that is not set, and this
variable. Nothing is asked of the texts before it but that they can be expanded. -/
inductive Draft.Site.FirstUnset (env : Environment) (d : Draft.Site) : String → String → Prop where
  | title {name : String} (h : Expansion.Unset env d.title name) : FirstUnset env d "title" name
  | description {title : Option String} {name : String} (ht : Expansion.Expands env d.title title)
    (h : Expansion.Unset env d.description name) : FirstUnset env d "description" name
  | basePath {title description : Option String} {name : String}
    (ht : Expansion.Expands env d.title title)
    (hd : Expansion.Expands env d.description description)
    (h : Expansion.Unset env d.basePath name) : FirstUnset env d "basePath" name

/-- A draft with its three texts expanded, and with everything else as it was. -/
structure Draft.Site.ExpandsTo (env : Environment) (d d' : Draft.Site) : Prop where
  title : Expansion.Expands env d.title d'.title
  description : Expansion.Expands env d.description d'.description
  basePath : Expansion.Expands env d.basePath d'.basePath
  theme : d'.theme = d.theme

namespace Expansion

theorem site_eq_ok {env : Environment} {d d' : Draft.Site} :
    site env d = .ok d' ↔ d.ExpandsTo env d' := by
  unfold site
  simp only [Except.bind_eq_ok, field_eq_ok]
  constructor
  · rintro ⟨title, ht, description, hd, basePath, hb, h⟩
    cases h
    exact ⟨ht, hd, hb, rfl⟩
  · intro h
    refine ⟨d'.title, h.title, d'.description, h.description, d'.basePath, h.basePath, ?_⟩
    rw [← h.theme]
    rfl

/-- The expansion of a draft fails as that of its first text that cannot be expanded. -/
theorem site_eq_error {env : Environment} {d : Draft.Site} {e : LoadError} :
    site env d = .error e
      ↔ ∃ key name, d.FirstUnset env key name ∧ e = .unsetVariable (.top key) name := by
  unfold site
  simp only [Except.bind_eq_error, field_eq_ok, field_eq_error]
  constructor
  · rintro (⟨name, h, he⟩ | ⟨title, ht, ⟨name, h, he⟩ | ⟨description, hd, ⟨name, h, he⟩ | hb⟩⟩)
    · exact ⟨_, name, .title h, he⟩
    · exact ⟨_, name, .description ht h, he⟩
    · exact ⟨_, name, .basePath ht hd h, he⟩
    · obtain ⟨_, _, h⟩ := hb
      cases h
  · rintro ⟨key, name, h, he⟩
    cases h with
    | title h => exact Or.inl ⟨name, h, he⟩
    | description ht h => exact Or.inr ⟨_, ht, Or.inl ⟨name, h, he⟩⟩
    | basePath ht hd h => exact Or.inr ⟨_, ht, Or.inr ⟨_, hd, Or.inl ⟨name, h, he⟩⟩⟩

/-- A text without references is expanded to itself. -/
theorem expands_self {text : Option String} (h : ∀ s ∈ text, ¬['$', '\x7b'] <:+: s.toList)
    (env : Environment) : Expands env text text := by
  cases text with
  | none => exact .none
  | some s => exact .some <| expand_of_not_infix (h s rfl) env

end Expansion

/-! ## Sites -/

/-- A site with its texts expanded. -/
def Site.expand (env : Environment) (s : Site) : Except LoadError Site := do
  let title ← (Expansion.expand env s.title).mapError (.unsetVariable (.top "title"))
  let description ←
    (Expansion.expand env s.description).mapError (.unsetVariable (.top "description"))
  let basePath ← (Expansion.expand env s.basePath).mapError (.unsetVariable (.top "basePath"))
  return ⟨title, description, basePath, s.theme⟩

theorem Expansion.field_some (env : Environment) (name text : String) :
    field env name (some text)
      = ((expand env text).mapError (.unsetVariable (.top name))).map some := by
  dsimp only [field]
  cases expand env text with
  | error unset => rfl
  | ok text => rfl

/-- The draft of a site is expanded as the site is. -/
theorem Site.expand_draft (env : Environment) (s : Site) :
    Expansion.site env s.draft = (s.expand env).map Site.draft := by
  unfold Expansion.site expand
  dsimp only [draft]
  rw [Expansion.field_some, Expansion.field_some, Expansion.field_some]
  -- the first text that cannot be expanded ends both
  cases (Expansion.expand env s.title).mapError (LoadError.unsetVariable (.top "title")) with
  | error e => rfl
  | ok title =>
    cases (Expansion.expand env s.description).mapError
        (LoadError.unsetVariable (.top "description")) with
    | error e => rfl
    | ok description =>
      cases (Expansion.expand env s.basePath).mapError
          (LoadError.unsetVariable (.top "basePath")) with
      | error e => rfl
      | ok basePath => rfl

theorem Site.expand_of_not_infix {s : Site} (ht : ¬['$', '\x7b'] <:+: s.title.toList)
    (hd : ¬['$', '\x7b'] <:+: s.description.toList) (hb : ¬['$', '\x7b'] <:+: s.basePath.toList)
    (env : Environment) : s.expand env = .ok s := by
  unfold expand
  rw [Expansion.expand_of_not_infix ht, Expansion.expand_of_not_infix hd,
    Expansion.expand_of_not_infix hb]
  rfl

end SiteManifest
