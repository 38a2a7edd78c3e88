import Mathlib.Data.List.TakeDrop
import SiteManifest.Format
import SiteManifest.Proofs.FilePath.LastComponent

/-!
# The format of a file

The format of a file is told by the ending of its name: by what follows the last dot, if something stands
before this dot. The name is the last component of the path, so neither the directories before it count
nor the slashes and single dots behind it (`format_of_last_component`).

A path without a component of its own, such as a single dot, has no format. Behind directories it is the
last of these, and has the format of this one (`directories_tell_format`).
-/

namespace SiteManifest

/-! ## Endings of names -/

namespace FilePath

/-- A path has a name with an ending, and something stands before the ending. -/
def HasEnding (p : FilePath) (ending : String) : Prop :=
  ∃ stem : String, stem ≠ "" ∧ p.fileName? = some (stem ++ "." ++ ending)

theorem extensionOf?_append {stem ending : String} (hstem : stem ≠ "") (hdot : '.' ∉ ending.toList) :
    extensionOf? (stem ++ "." ++ ending) = some ending := by
  have hreverse : (stem ++ "." ++ ending).toList.reverse
      = ending.toList.reverse ++ '.' :: stem.toList.reverse := by simp
  have hafter : ∀ c ∈ ending.toList.reverse, (c != '.') = true := by
    intro c hc
    have hne : c ≠ '.' := fun heq => hdot (heq ▸ List.mem_reverse.mp hc)
    simpa using hne
  unfold extensionOf?
  rw [hreverse, List.span_eq_takeWhile_dropWhile, List.takeWhile_append_of_pos hafter,
    List.dropWhile_append_of_pos hafter]
  cases hbefore : stem.toList.reverse with
  | nil => exact absurd (by simpa using hbefore) hstem
  | cons c rest => simp

theorem exists_stem_of_extensionOf? {name ending : String} (h : extensionOf? name = some ending) :
    ∃ stem : String, stem ≠ "" ∧ name = stem ++ "." ++ ending := by
  unfold extensionOf? at h
  rw [List.span_eq_takeWhile_dropWhile] at h
  have hsplit := List.takeWhile_append_dropWhile (p := (· != '.')) (l := name.toList.reverse)
  have hhead := List.head?_dropWhile_not (· != '.') name.toList.reverse
  revert h
  cases hrest : name.toList.reverse.dropWhile (· != '.') with
  | nil =>
    intro h
    cases h
  | cons dot before =>
    rw [hrest] at hsplit hhead
    obtain rfl : dot = '.' := by simpa using hhead
    cases before with
    | nil =>
      intro h
      cases h
    | cons c rest =>
      intro h
      obtain rfl := Option.some.inj h
      refine ⟨.ofList (c :: rest).reverse, by simp, ?_⟩
      rw [← String.toList_inj, ← List.reverse_inj]
      exact hsplit.symm.trans (by simp)

end FilePath

/-! ## Formats of files -/

namespace Format

theorem lookup_endings {ending : String} {format : Format} :
    endings.lookup ending = some format ↔ (ending, format) ∈ endings := by
  constructor
  · intro h
    obtain ⟨before, after, hsplit, -⟩ := List.lookup_eq_some_iff.mp h
    rw [hsplit]
    exact List.mem_append_right _ List.mem_cons_self
  · intro h
    have hdistinct : ∀ e ∈ endings, endings.lookup e.1 = some e.2 := by decide
    exact hdistinct _ h

/-- A path has a format exactly if its name has the ending that tells it. -/
theorem ofPath?_eq_some {p : FilePath} {format : Format} :
    ofPath? p = some format ↔ ∃ ending, (ending, format) ∈ endings ∧ p.HasEnding ending := by
  have hdot : ∀ e ∈ endings, '.' ∉ e.1.toList := by decide
  unfold ofPath? FilePath.extension? FilePath.HasEnding
  simp only [Option.bind_eq_some_iff, lookup_endings]
  constructor
  · rintro ⟨ending, ⟨name, hname, hending⟩, hmem⟩
    obtain ⟨stem, hstem, rfl⟩ := FilePath.exists_stem_of_extensionOf? hending
    exact ⟨ending, hmem, stem, hstem, hname⟩
  · rintro ⟨ending, hmem, stem, hstem, hname⟩
    exact ⟨ending, ⟨_, hname, FilePath.extensionOf?_append hstem (hdot _ hmem)⟩, hmem⟩

theorem ofPath?_eq_none {p : FilePath} :
    ofPath? p = none ↔ ∀ e ∈ endings, ¬p.HasEnding e.1 := by
  rw [Option.eq_none_iff_forall_ne_some]
  constructor
  · intro h e he hending
    exact h e.2 (ofPath?_eq_some.mpr ⟨e.1, he, hending⟩)
  · intro h format hformat
    obtain ⟨ending, hmem, hending⟩ := ofPath?_eq_some.mp hformat
    exact h _ hmem hending

theorem exists_ofPath?_iff {p : FilePath} :
    (∃ format, ofPath? p = some format) ↔ ∃ e ∈ endings, p.HasEnding e.1 := by
  simp only [ofPath?_eq_some]
  constructor
  · rintro ⟨format, ending, hmem, hending⟩
    exact ⟨_, hmem, hending⟩
  · rintro ⟨e, hmem, hending⟩
    exact ⟨e.2, e.1, hmem, hending⟩

/-! ## The last component -/

/-- The endings that tell a format, as they are written. -/
inductive Tells : String → Format → Prop where
  | toml : Tells "toml" .toml
  | yaml : Tells "yaml" .yaml
  | yml : Tells "yml" .yaml
  | json : Tells "json" .json

theorem mem_endings_iff {ending : String} {format : Format} :
    (ending, format) ∈ endings ↔ Tells ending format := by
  constructor
  · intro h
    simp only [endings, List.mem_cons, Prod.mk.injEq, List.not_mem_nil, or_false] at h
    rcases h with ⟨rfl, rfl⟩ | ⟨rfl, rfl⟩ | ⟨rfl, rfl⟩ | ⟨rfl, rfl⟩
    · exact .toml
    · exact .yaml
    · exact .yml
    · exact .json
  · intro h
    cases h <;> decide

theorem Tells.dot_not_mem {ending : String} {format : Format} (h : Tells ending format) :
    '.' ∉ ending.toList := by
  cases h <;> decide

/-- A name whose ending tells a format is not two dots. -/
theorem Tells.ne_up {stem ending : String} {format : Format} (h : Tells ending format)
    (hstem : stem ≠ "") : stem ++ "." ++ ending ≠ ".." := by
  intro hname
  have hup : FilePath.extensionOf? ".." = some "" := by decide
  have hending := FilePath.extensionOf?_append hstem h.dot_not_mem
  rw [hname, hup, Option.some.injEq] at hending
  cases h <;> exact absurd hending (by decide)

/-- A dot at the start of a name is not before an ending. -/
theorem hidden_ne {stem ending rest : String} (hstem : stem ≠ "") (hrest : '.' ∉ rest.toList) :
    "." ++ rest ≠ stem ++ "." ++ ending := by
  intro hname
  have hchars : '.' :: rest.toList = stem.toList ++ '.' :: ending.toList := by
    simpa using congrArg String.toList hname
  cases hcs : stem.toList with
  | nil => exact hstem (String.toList_inj.mp hcs)
  | cons c cs =>
    rw [hcs, List.cons_append, List.cons.injEq] at hchars
    exact hrest (hchars.2 ▸ List.mem_append_right cs List.mem_cons_self)

/-- A path has a format exactly if the component that it ends in has the ending that tells it. -/
theorem ofPath?_eq_some_of_endsIn {p : FilePath} {last : Option String} (h : p.EndsIn last)
    {format : Format} : ofPath? p = some format
      ↔ ∃ stem ending, last = some (stem ++ "." ++ ending) ∧ stem ≠ "" ∧ Tells ending format := by
  rw [ofPath?_eq_some]
  constructor
  · rintro ⟨ending, hmem, stem, hstem, hname⟩
    have hlast := h.unique (FilePath.endsIn_of_fileName? hname)
    exact ⟨stem, ending, hlast, hstem, mem_endings_iff.mp hmem⟩
  · rintro ⟨stem, ending, rfl, hstem, htells⟩
    exact ⟨ending, mem_endings_iff.mpr htells, stem, hstem, h.fileName?_eq (htells.ne_up hstem)⟩

theorem ofPath?_eq_none_of_endsIn {p : FilePath} {last : Option String} (h : p.EndsIn last)
    (hlast : ∀ stem ending format, stem ≠ "" → Tells ending format →
      last ≠ some (stem ++ "." ++ ending)) : ofPath? p = none := by
  rw [Option.eq_none_iff_forall_ne_some]
  intro format hformat
  obtain ⟨stem, ending, hsplit, hstem, htells⟩ := (ofPath?_eq_some_of_endsIn h).mp hformat
  exact hlast stem ending format hstem htells hsplit

/-- Paths that end in the same component have the same format. -/
theorem ofPath?_congr {p q : FilePath} {last : Option String} (hp : p.EndsIn last)
    (hq : q.EndsIn last) : ofPath? q = ofPath? p := by
  refine Option.ext fun format => ?_
  rw [ofPath?_eq_some_of_endsIn hp, ofPath?_eq_some_of_endsIn hq]

/-- **The format of a file is told by the last component of its path.** There is none if the path has no
component or ends in two dots; otherwise the component has to be an ending that tells the format, behind a
dot and something before the dot. So directories before a path with a component change nothing, nor do
slashes and single dots behind any path; a path without a component has the format of the directories
before it. -/
theorem format_of_last_component (p : FilePath) :
    (∃ last, ∀ l, p.EndsIn l ↔ l = last)
      ∧ (∀ q last, p.EndsIn last → q.EndsIn last → ofPath? q = ofPath? p)
      ∧ (p.EndsIn none → ofPath? p = none)
      ∧ (p.EndsIn (some "..") → ofPath? p = none)
      ∧ (∀ name, p.EndsIn (some name) → ∀ format, ofPath? p = some format
        ↔ ∃ stem ending, name = stem ++ "." ++ ending ∧ stem ≠ "" ∧ '.' ∉ ending.toList
          ∧ Tells ending format)
      ∧ (∀ directories name, p.EndsIn (some name) →
        ofPath? ⟨directories ++ "/" ++ p.text⟩ = ofPath? p)
      ∧ (∀ directories, p.EndsIn none →
        ofPath? ⟨directories ++ "/" ++ p.text⟩ = ofPath? ⟨directories⟩)
      ∧ ofPath? ⟨p.text ++ "/"⟩ = ofPath? p
      ∧ ofPath? ⟨p.text ++ "/."⟩ = ofPath? p
      ∧ ∀ rest, '.' ∉ rest.toList → p.EndsIn (some ("." ++ rest)) → ofPath? p = none := by
  obtain ⟨last, hlast⟩ := FilePath.exists_endsIn p.text
  refine ⟨⟨last, fun l => ⟨fun hl => hl.unique hlast, fun hl => hl ▸ hlast⟩⟩,
    fun q l hp hq => ofPath?_congr hp hq, ?_, ?_, ?_, ?_, ?_,
    ofPath?_congr hlast (.slash hlast), ofPath?_congr hlast (.slashDot hlast), ?_⟩
  · intro hnothing
    exact ofPath?_eq_none_of_endsIn hnothing fun _ _ _ _ _ => Option.some_ne_none _ |>.symm
  · intro hup
    refine ofPath?_eq_none_of_endsIn hup fun stem ending format hstem htells hsplit => ?_
    exact htells.ne_up hstem (Option.some.inj hsplit).symm
  · intro name hname format
    rw [ofPath?_eq_some_of_endsIn hname]
    constructor
    · rintro ⟨stem, ending, hsplit, hstem, htells⟩
      exact ⟨stem, ending, Option.some.inj hsplit, hstem, htells.dot_not_mem, htells⟩
    · rintro ⟨stem, ending, rfl, hstem, -, htells⟩
      exact ⟨stem, ending, rfl, hstem, htells⟩
  · intro directories name hname
    obtain ⟨above, habove⟩ := FilePath.exists_endsIn directories
    exact ofPath?_congr hname (hname.behind habove)
  · intro directories hnothing
    obtain ⟨above, habove⟩ := FilePath.exists_endsIn directories
    exact ofPath?_congr habove (hnothing.behind habove)
  · intro rest hrest hhidden
    refine ofPath?_eq_none_of_endsIn hhidden fun stem ending _ hstem _ hsplit => ?_
    exact hidden_ne hstem hrest (Option.some.inj hsplit)

/-- A name with two dots in a directory, slashes and dots alone, the directory above, and a hidden file. -/
theorem format_of_last_component_paths :
    let file : FilePath := ⟨"site/docs.min.yml//./"⟩
    let nothing : FilePath := ⟨".//"⟩
    file.EndsIn (some "docs.min.yml")
      ∧ ofPath? file = some .yaml
      ∧ ofPath? ⟨"docs.min.yml"⟩ = ofPath? file
      ∧ ofPath? ⟨"a.toml/b" ++ "/" ++ file.text⟩ = ofPath? file
      ∧ ofPath? ⟨file.text ++ "/"⟩ = ofPath? file ∧ ofPath? ⟨file.text ++ "/."⟩ = ofPath? file
      ∧ nothing.EndsIn none ∧ ofPath? nothing = none
      ∧ ofPath? ⟨"a.toml" ++ "/" ++ nothing.text⟩ = ofPath? ⟨"a.toml"⟩
      ∧ (⟨"docs.toml/.."⟩ : FilePath).EndsIn (some "..") ∧ ofPath? ⟨"docs.toml/.."⟩ = none
      ∧ (⟨"site/.toml"⟩ : FilePath).EndsIn (some ("." ++ "toml")) ∧ ofPath? ⟨"site/.toml"⟩ = none := by
  intro file nothing
  have hfile : file.EndsIn (some "docs.min.yml") := by decide
  have hnothing : nothing.EndsIn none := by decide
  have hup : (⟨"docs.toml/.."⟩ : FilePath).EndsIn (some "..") := by decide
  have hhidden : (⟨"site/.toml"⟩ : FilePath).EndsIn (some ("." ++ "toml")) := by decide
  obtain ⟨-, hsame, -, -, hformat, hbehind, -, hslash, hdot, -⟩ := format_of_last_component file
  obtain ⟨-, -, hnone, -, -, -, habove, -⟩ := format_of_last_component nothing
  obtain ⟨-, -, -, hparent, -⟩ := format_of_last_component ⟨"docs.toml/.."⟩
  obtain ⟨-, -, -, -, -, -, -, -, -, hname⟩ := format_of_last_component ⟨"site/.toml"⟩
  have hyml : ofPath? file = some .yaml :=
    (hformat _ hfile _).mpr ⟨"docs.min", "yml", by decide, by decide, by decide, .yml⟩
  exact ⟨hfile, hyml, hsame _ _ hfile (by decide), hbehind _ _ hfile, hslash, hdot, hnothing,
    hnone hnothing, habove _ hnothing, hup, hparent hup, hhidden, hname _ (by decide) hhidden⟩

/-- A single dot has no format, but it has one behind a directory whose name has an ending: directories do
change the format of a path without a component. -/
theorem directories_tell_format :
    ofPath? ⟨"."⟩ = none ∧ ofPath? ⟨"docsite.toml" ++ "/" ++ "."⟩ = some .toml
      ∧ ¬∀ (p : FilePath) (directories : String),
        ofPath? ⟨directories ++ "/" ++ p.text⟩ = ofPath? p := by
  have hdot : ofPath? ⟨"."⟩ = none := by decide
  have hbehind : ofPath? ⟨"docsite.toml" ++ "/" ++ "."⟩ = some .toml := by decide
  refine ⟨hdot, hbehind, fun hsame => ?_⟩
  have hformat := hsame ⟨"."⟩ "docsite.toml"
  rw [hbehind, hdot] at hformat
  cases hformat

end Format

end SiteManifest
