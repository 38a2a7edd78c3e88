import SiteManifest.Proofs.Loading.Located
import SiteManifest.Proofs.Violation

/-!
# What is said about a violation

Every violation with which a loading fails is one of the violations of a draft, and these are at paths whose
keys are words. So what is said about it starts with its path, shows on one line, and tells which violation
it is.
-/

namespace SiteManifest

open FieldPath (Worded)

/-! ## Where the violations of a draft are -/

variable {p : FieldPath}

theorem worded_of_enabledViolations {α : Type} {enabled : α → Bool}
    {check : FieldPath → α → List Violation} (hp : p.Worded)
    (h : ∀ {q : FieldPath}, q.Worded → ∀ e, ∀ x ∈ check q e, x.field.Worded) (xs : Option (List α)) :
    ∀ x ∈ enabledViolations enabled check p xs, x.field.Worded := by
  intro x hx
  cases xs with
  | none => cases hx
  | some xs =>
    obtain ⟨i, e, -, -, hx⟩ := mem_enabledViolations.mp hx
    exact h hp.item e x hx

namespace Draft

theorem Entry.worded (hp : p.Worded) (e : Entry) : ∀ x ∈ e.violations p, x.field.Worded := by
  intro x hx
  rcases List.mem_append.mp hx with hx | hx
  · rw [(isTextRule_text _).field_eq hx]
    exact hp.key (by decide)
  · rw [(isTextRule_pageLink _).field_eq hx]
    exact hp.key (by decide)

theorem Group.worded (hp : p.Worded) (g : Group) : ∀ x ∈ g.violations p, x.field.Worded := by
  intro x hx
  have hitems : (p.key "items").Worded := hp.key (by decide)
  simp only [Group.violations, List.mem_append] at hx
  rcases hx with (hx | hx) | hx
  · rw [(isTextRule_text _).field_eq hx]
    exact hp.key (by decide)
  · split at hx
    · cases List.mem_singleton.mp hx
      exact hitems
    · cases hx
  · exact worded_of_enabledViolations hitems Entry.worded _ x hx

theorem SocialLink.worded (hp : p.Worded) (s : SocialLink) :
    ∀ x ∈ s.violations p, x.field.Worded := by
  intro x hx
  rcases List.mem_append.mp hx with hx | hx
  · rw [(isTextRule_icon _).field_eq hx]
    exact hp.key (by decide)
  · rw [(isTextRule_address _).field_eq hx]
    exact hp.key (by decide)

theorem Theme.worded (hp : p.Worded) (t : Theme) : ∀ x ∈ t.violations p, x.field.Worded := by
  intro x hx
  simp only [Theme.violations, List.mem_append] at hx
  rcases hx with ((hx | hx) | hx) | hx
  · exact worded_of_enabledViolations (hp.key (by decide)) Entry.worded _ x hx
  · exact worded_of_enabledViolations (hp.key (by decide)) Group.worded _ x hx
  · exact worded_of_enabledViolations (hp.key (by decide)) SocialLink.worded _ x hx
  · obtain ⟨l, -, hx⟩ := List.mem_flatMap.mp hx
    rw [(isTextRule_text _).field_eq hx]
    exact (hp.key (by decide)).key (by decide)

/-- All keys on the way to a violation are words. -/
theorem Site.worded (d : Site) : ∀ x ∈ d.violations, x.field.Worded := by
  intro x hx
  simp only [Site.violations, List.mem_append] at hx
  rcases hx with (hx | hx) | hx
  · rw [(isTextRule_text _).field_eq hx]
    exact Worded.root.key (by decide)
  · rw [isTextRule_basePath.field_eq hx]
    exact Worded.root.key (by decide)
  · obtain ⟨t, -, hx⟩ := List.mem_flatMap.mp hx
    exact Theme.worded (Worded.root.key (by decide)) t x hx

end Draft

/-! ## Violations that are reported -/

/-- If a loading fails for a violation, a draft has this violation. -/
def Loading.FailsByDraft {α : Type} (x : Loading α) : Prop :=
  ∀ v, x.result = .error (.invalid v) → ∃ d : Draft.Site, v ∈ d.violations

namespace Loading.FailsByDraft

variable {α β : Type}

/-- A step that fails for other reasons, or not at all, has no violation to report. -/
theorem of_ne {x : Loading α} (h : ∀ v, x.result ≠ .error (.invalid v)) : x.FailsByDraft :=
  fun v hv => absurd hv (h v)

theorem bind {x : Loading α} {f : α → Loading β} (hx : x.FailsByDraft)
    (hf : ∀ a, (f a).FailsByDraft) : Loading.FailsByDraft (x >>= f) := by
  intro v hv
  rcases Traced.result_bind_eq_error.mp hv with hv | ⟨a, -, hv⟩
  · exact hx v hv
  · exact hf a v hv

theorem ofDraft (d : Draft.Site) : (Loading.ofDraft d).FailsByDraft := by
  intro v hv
  obtain ⟨_, hfirst, ⟨⟩⟩ := Loading.ofDraft_eq_error.mp hv
  exact ⟨d, List.mem_of_head? hfirst⟩

theorem ofJson (v : Json) : (Loading.ofJson v).FailsByDraft := by
  unfold Loading.ofJson
  cases Draft.Site.ofJson v with
  | error m => exact of_ne fun _ h => by cases h
  | ok d => exact ofDraft d

theorem ofJsonText (text : String) : (Loading.ofJsonText text).FailsByDraft := by
  unfold Loading.ofJsonText
  cases Draft.Site.ofText text with
  | error fault => exact of_ne fun _ h => by cases h
  | ok d => exact ofDraft d

theorem ofDefinition (env : Environment) (v : Json) : (Loading.ofDefinition env v).FailsByDraft := by
  unfold Loading.ofDefinition
  cases Draft.Site.ofJson v with
  | error m => exact of_ne fun _ h => by cases h
  | ok d =>
    refine bind (of_ne fun x h => ?_) ofDraft
    obtain ⟨_, _, -, ⟨⟩⟩ := Expansion.site_eq_error.mp h

theorem effective (vs : List Json) : (Loading.effective vs).FailsByDraft := by
  refine of_ne fun x h => ?_
  rw [effective_eq] at h
  cases hlast : vs.getLast? with
  | none =>
    rw [hlast] at h
    cases h
  | some v =>
    rw [hlast] at h
    cases h

theorem definitions (format : Format) (text : String) :
    Loading.FailsByDraft (Traced.ofExcept (format.definitions text)) := by
  refine of_ne fun x h => ?_
  rw [Traced.result_ofExcept] at h
  unfold Format.definitions at h
  split at h
  · split at h
    · cases h
    · cases h
  · split at h
    · cases h
    · cases h
  · split at h
    · cases h
    · cases h

theorem ofText (env : Environment) (format : Format) (text : String) :
    (Loading.ofText env format text).FailsByDraft :=
  bind (definitions format text) fun vs => bind (effective vs) (ofDefinition env)

theorem read (w : Surroundings) (p : FilePath) :
    Loading.FailsByDraft (Traced.ofExcept (w.read p)) := by
  refine of_ne fun x h => ?_
  rw [Traced.result_ofExcept] at h
  unfold Surroundings.read at h
  split at h
  · cases h
  · cases h
  · cases h
  · split at h
    · cases h
    · cases h

theorem load (w : Surroundings) (p : FilePath) : (w.load p).FailsByDraft := by
  unfold Surroundings.load
  cases w.exists? p with
  | false => exact of_ne fun _ h => by cases h
  | true =>
    cases Format.ofPath? p with
    | none => exact of_ne fun _ h => by cases h
    | some format =>
      refine bind (read w p) fun text => bind (ofText _ format text) fun site => ?_
      exact of_ne fun _ h => by cases h

theorem loadOrDiscover (w : Surroundings) (path : Option FilePath) :
    (w.loadOrDiscover path).FailsByDraft := by
  have hpure {p : FilePath} (s : Site) : Loading.FailsByDraft (pure (p, s)) :=
    of_ne fun _ h => by cases h
  unfold Surroundings.loadOrDiscover
  cases path with
  | some p => exact bind (load w p) hpure
  | none =>
    cases w.discover with
    | none => exact of_ne fun _ h => by cases h
    | some p =>
      refine bind (of_ne fun _ h => by cases h) fun _ => ?_
      exact bind (load w p) hpure

end Loading.FailsByDraft

/-- The ways to have a violation reported. -/
inductive Violation.Reported (x : Violation) : Prop where
  | ofDraft {d : Draft.Site} (h : (Loading.ofDraft d).result = .error (.invalid x))
  | ofJson {v : Json} (h : (Loading.ofJson v).result = .error (.invalid x))
  | ofJsonText {text : String} (h : (Loading.ofJsonText text).result = .error (.invalid x))
  | ofText {env : Environment} {format : Format} {text : String}
      (h : (Loading.ofText env format text).result = .error (.invalid x))
  | ofFile {w : Surroundings} {p : FilePath} (h : (w.load p).result = .error (.invalid x))
  | found {w : Surroundings} {path : Option FilePath}
      (h : (w.loadOrDiscover path).result = .error (.invalid x))

/-- Behind every reported violation there is a draft that has it. -/
theorem Violation.Reported.exists_draft {x : Violation} (h : x.Reported) :
    ∃ d : Draft.Site, x ∈ d.violations := by
  cases h with
  | ofDraft h => exact Loading.FailsByDraft.ofDraft _ x h
  | ofJson h => exact Loading.FailsByDraft.ofJson _ x h
  | ofJsonText h => exact Loading.FailsByDraft.ofJsonText _ x h
  | ofText h => exact Loading.FailsByDraft.ofText _ _ _ x h
  | ofFile h => exact Loading.FailsByDraft.load _ _ x h
  | found h => exact Loading.FailsByDraft.loadOrDiscover _ _ x h

theorem Violation.Reported.worded {x : Violation} (h : x.Reported) : x.field.Worded := by
  obtain ⟨d, hx⟩ := h.exists_draft
  exact d.worded x hx

/-- **What is said about a violation tells it.** The message of a reported violation starts with the path of
its field. It is on one line: every character of it shows and none is a control, whatever the link, the icon
or the base path holds. And no other violation that is reported, be it for another configuration, has the
same message. -/
theorem message_tells_violation {x : Violation} (h : x.Reported) :
    x.field.text.toList <+: x.message.toList
      ∧ (∀ c ∈ x.message.toList, Text.isUnprintable c = false ∧ Text.isControlChar c = false)
      ∧ ∀ y : Violation, y.Reported → y.message = x.message → y = x := by
  have hshown : Text.Printable x.message := Violation.printable_message h.worded
  refine ⟨?_, fun c hc => ⟨hshown c hc, hshown.not_control hc⟩, ?_⟩
  · rw [Violation.toList_message]
    exact List.prefix_append _ _
  · intro y hy hsame
    exact Violation.message_inj hy.worded h.worded hsame

/-- A link that breaks the line, and that ends like a message about another link. -/
theorem message_tells_violation_imitated :
    let link := "x\": must start with '/'\n"
    let entry : Json := .object [("text", .string "Home"), ("link", .string link)]
    let v : Json := .object [("title", .string "Docs"), ("basePath", .string "/"),
      ("theme", .object [("nav", .array [entry])])]
    let p := (((FieldPath.top "theme").key "nav").item 0).key "link"
    let x := Violation.invalidLink p link .notRooted
    (Loading.ofJson v).result = .error (.invalid x)
      ∧ x.message = "theme.nav[0].link has invalid link \"x\\\": must start with '/'\\n\": must start with '/'"
      ∧ '\n' ∉ x.message.toList
      ∧ ∀ y : Violation, y.Reported → y.message = x.message → y = x := by
  intro link entry v p x
  let d : Draft.Site := ⟨some "Docs", none, some "/",
    some ⟨some [⟨some "Home", some link, true⟩], none, none, none⟩⟩
  have hdraft : Draft.Site.ofJson v = .ok d := by rfl
  have hreport : (Loading.ofJson v).result = .error (.invalid x) := by
    rw [Loading.ofJson_of_draft hdraft]
    exact Loading.ofDraft_eq_error.mpr ⟨x, by decide, rfl⟩
  obtain ⟨-, hline, htells⟩ := message_tells_violation (.ofJson hreport)
  refine ⟨hreport, by decide, fun hbreak => ?_, htells⟩
  exact absurd (hline '\n' hbreak).2 (by decide)

end SiteManifest
