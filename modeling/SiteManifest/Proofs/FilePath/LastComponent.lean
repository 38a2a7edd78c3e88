import SiteManifest.Proofs.FilePath

/-!
# What a path ends in

The last component of a path, told by the text alone: what stands behind the last slash, once the slashes
and single dots at the end are dropped. There is one rule for each way in which a text can end, so every
path ends in one component or in none (`exists_endsIn`, `EndsIn.unique`).

The steps of a path tell the same (`endsIn_iff`). Directories before a path are seen only if the path has
no component of its own (`EndsIn.behind`).
-/

namespace SiteManifest.FilePath

/-- A text between slashes that counts as a component: it is neither empty nor a single dot. -/
structure IsComponent (name : String) : Prop where
  slash : '/' ∉ name.toList
  nonempty : name ≠ ""
  notDot : name ≠ "."

/-- What a path ends in: its last component, or nothing if it has none. Slashes and single dots at the
end are dropped. -/
inductive EndsIn : FilePath → Option String → Prop where
  | empty : EndsIn ⟨""⟩ none
  | dot : EndsIn ⟨"."⟩ none
  | whole {name : String} (h : IsComponent name) : EndsIn ⟨name⟩ (some name)
  | under (above : String) {name : String} (h : IsComponent name) :
      EndsIn ⟨above ++ "/" ++ name⟩ (some name)
  | slash {p : FilePath} {last : Option String} (h : p.EndsIn last) : EndsIn ⟨p.text ++ "/"⟩ last
  | slashDot {p : FilePath} {last : Option String} (h : p.EndsIn last) :
      EndsIn ⟨p.text ++ "/."⟩ last

/-! ## The text of the last step -/

/-- The text between slashes that makes a step. The root and a dot at the start have none. -/
def Component.text? : Component → Option String
  | .name n => some n
  | .up => some ".."
  | .root | .here => none

/-- The text between slashes that makes the last step of a path. -/
def lastText? (p : FilePath) : Option String := p.components.getLast?.bind Component.text?

theorem lastText?_of_components {p : FilePath} {before : List Component} {x : Component}
    (h : p.components = before ++ [x]) : p.lastText? = x.text? := by
  unfold lastText?
  rw [h, List.getLast?_concat, Option.bind_some]

theorem lastText?_congr {p q : FilePath} (h : p.components = q.components) :
    p.lastText? = q.lastText? := by
  unfold lastText?
  rw [h]

theorem text?_of_ofText? {s : String} {x : Component} (h : Component.ofText? s = some x) :
    x.text? = some s := by
  rcases ofText?_eq_some h with ⟨rfl, rfl⟩ | rfl <;> rfl

theorem IsComponent.exists_step {name : String} (h : IsComponent name) :
    ∃ x, Component.ofText? name = some x ∧ x.text? = some name := by
  have hempty : name.toList ≠ [] := fun hnil => h.nonempty (String.toList_inj.mp hnil)
  have hdot : name.toList ≠ ['.'] := fun heq => h.notDot (String.toList_inj.mp heq)
  obtain ⟨x, hx⟩ := FilePath.exists_step hempty hdot
  rw [String.ofList_toList] at hx
  exact ⟨x, hx, text?_of_ofText? hx⟩

theorem lastText?_whole {name : String} (h : IsComponent name) : lastText? ⟨name⟩ = some name := by
  obtain ⟨x, hx, htext⟩ := h.exists_step
  have hsteps := components_text h.slash
  rw [if_neg h.notDot, hx, Option.toList_some, ← List.nil_append [x]] at hsteps
  rw [lastText?_of_components hsteps, htext]

theorem lastText?_under (above : String) {name : String} (h : IsComponent name) :
    lastText? ⟨above ++ "/" ++ name⟩ = some name := by
  obtain ⟨x, hx, htext⟩ := h.exists_step
  have hsteps := components_text_slash_text h.slash above
  rw [hx, Option.toList_some] at hsteps
  rw [lastText?_of_components hsteps, htext]

theorem lastText?_slash (text : String) : lastText? ⟨text ++ "/"⟩ = lastText? ⟨text⟩ := by
  by_cases hempty : text = ""
  · -- the slash makes the root of the empty path, and neither has a last component
    subst hempty
    decide
  · exact lastText?_congr (components_text_slash hempty)

theorem lastText?_slashDot (text : String) : lastText? ⟨text ++ "/."⟩ = lastText? ⟨text⟩ := by
  have hslash : '/' ∉ ".".toList := by decide
  have hskip : Component.ofText? "." = none := by decide
  have hsteps := components_text_slash_text hslash text
  rw [hskip, Option.toList_none, List.append_nil, String.append_assoc] at hsteps
  exact (lastText?_congr hsteps).trans (lastText?_slash text)

/-! ## Every path ends in one way -/

theorem EndsIn.lastText?_eq {p : FilePath} {last : Option String} (h : p.EndsIn last) :
    p.lastText? = last := by
  induction h with
  | empty => decide
  | dot => decide
  | whole h => exact lastText?_whole h
  | under above h => exact lastText?_under above h
  | slash _ ih => rw [lastText?_slash, ih]
  | slashDot _ ih => rw [lastText?_slashDot, ih]

theorem EndsIn.unique {p : FilePath} {last last' : Option String} (h : p.EndsIn last)
    (h' : p.EndsIn last') : last = last' :=
  h.lastText?_eq.symm.trans h'.lastText?_eq

theorem exists_last_text (text : String) :
    ∃ name, '/' ∉ name.toList ∧ (text = name ∨ ∃ above, text = above ++ "/" ++ name) := by
  obtain ⟨name, hslash, hsplit⟩ := exists_last_name text.toList
  refine ⟨.ofList name, by rwa [String.toList_ofList], ?_⟩
  rcases hsplit with hname | ⟨above, habove⟩
  · exact Or.inl (by rw [← hname, String.ofList_toList])
  · refine Or.inr ⟨.ofList above, ?_⟩
    rw [← String.toList_inj, habove]
    simp

/-- A text behind the last slash is a component, or the path ends in what the text before it ends in. -/
theorem exists_endsIn (text : String) : ∃ last, EndsIn ⟨text⟩ last := by
  induction hlength : text.length using Nat.strongRecOn generalizing text with
  | _ n ih =>
    obtain ⟨name, hslash, hwhole | ⟨above, habove⟩⟩ := exists_last_text text
    · subst hwhole
      by_cases hempty : text = ""
      · exact ⟨none, hempty ▸ .empty⟩
      by_cases hdot : text = "."
      · exact ⟨none, hdot ▸ .dot⟩
      exact ⟨some text, .whole ⟨hslash, hempty, hdot⟩⟩
    · subst habove
      have hshort : above.length < n := by
        have hone : "/".length = 1 := rfl
        rw [← hlength, String.length_append, String.length_append]
        omega
      obtain ⟨last, hlast⟩ := ih _ hshort above rfl
      by_cases hempty : name = ""
      · subst hempty
        rw [String.append_empty]
        exact ⟨last, .slash hlast⟩
      by_cases hdot : name = "."
      · subst hdot
        rw [String.append_assoc]
        exact ⟨last, .slashDot hlast⟩
      exact ⟨some name, .under above ⟨hslash, hempty, hdot⟩⟩

/-- **What a path ends in is told by its last step.** -/
theorem endsIn_iff {p : FilePath} {last : Option String} : p.EndsIn last ↔ p.lastText? = last := by
  constructor
  · exact EndsIn.lastText?_eq
  · rintro rfl
    obtain ⟨last, hlast⟩ := exists_endsIn p.text
    exact hlast.lastText?_eq.symm ▸ hlast

instance (p : FilePath) (last : Option String) : Decidable (p.EndsIn last) :=
  decidable_of_iff _ endsIn_iff.symm

-- a single dot behind a slash is dropped, two dots are not
example : (⟨"site/docs.toml//./"⟩ : FilePath).EndsIn (some "docs.toml")
    ∧ (⟨"site/.."⟩ : FilePath).EndsIn (some "..") := by decide

/-- Directories before a path are what it ends in only if it has no component of its own. -/
theorem EndsIn.behind {p d : FilePath} {last above : Option String} (h : p.EndsIn last)
    (hd : d.EndsIn above) : EndsIn ⟨d.text ++ "/" ++ p.text⟩ (last.or above) := by
  induction h with
  | empty =>
    rw [String.append_empty]
    exact .slash hd
  | dot =>
    rw [String.append_assoc]
    exact .slashDot hd
  | whole h => exact .under d.text h
  | under _ h =>
    rw [← String.append_assoc, ← String.append_assoc]
    exact .under _ h
  | slash _ ih =>
    rw [← String.append_assoc]
    exact .slash ih
  | slashDot _ ih =>
    rw [← String.append_assoc]
    exact .slashDot ih

/-! ## Names of files -/

theorem fileName?_eq_some {p : FilePath} {name : String} :
    p.fileName? = some name ↔ p.components.getLast? = some (.name name) := by
  unfold fileName?
  constructor
  · intro h
    split at h
    · next n hlast =>
      cases h
      exact hlast
    · cases h
  · intro h
    rw [h]

theorem endsIn_of_fileName? {p : FilePath} {name : String} (h : p.fileName? = some name) :
    p.EndsIn (some name) := by
  rw [endsIn_iff]
  unfold lastText?
  rw [fileName?_eq_some.mp h]
  rfl

/-- A path that does not end in two dots ends in its name. -/
theorem EndsIn.fileName?_eq {p : FilePath} {name : String} (h : p.EndsIn (some name))
    (hup : name ≠ "..") : p.fileName? = some name := by
  obtain ⟨x, hlast, htext⟩ := Option.bind_eq_some_iff.mp h.lastText?_eq
  rw [fileName?_eq_some, hlast]
  cases x with
  | root => cases htext
  | here => cases htext
  | up =>
    cases htext
    exact absurd rfl hup
  | name n =>
    cases htext
    rfl

end SiteManifest.FilePath
