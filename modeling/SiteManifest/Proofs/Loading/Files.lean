import SiteManifest.Proofs.Format
import SiteManifest.Proofs.Loading.Discovery
import SiteManifest.Proofs.Loading.Variables

/-!
# Files

What a path is loaded as: first something has to be there, then the ending has to tell a format, then
there has to be a text, and then only this text and its format count. Each failure of a file has one
reason, as what is made of the text fails in other ways.

A path that is named is the only one that is looked at. If none is named, then the file that is found is
the only one, and its name always tells a format.
-/

namespace SiteManifest

/-! ## Formats of the files that are looked for -/

namespace Format

/-- Each of the files that are looked for has a format, wherever it is. -/
theorem exists_ofPath?_join {name : String} (h : name ∈ Surroundings.fileNames) (d : FilePath) :
    ∃ format, ofPath? (d.join name) = some format := by
  have hnames : ∀ name ∈ Surroundings.fileNames, '/' ∉ name.toList
      ∧ FilePath.Component.ofText? name = some (.name name)
      ∧ ∃ e ∈ endings, name = "docsite" ++ "." ++ e.1 := by decide
  obtain ⟨hslash, hstep, e, he, hname⟩ := hnames name h
  refine ⟨e.2, ofPath?_eq_some.mpr ⟨e.1, he, "docsite", by decide, ?_⟩⟩
  rw [FilePath.fileName?_join ⟨hslash, hstep⟩, hname]

end Format

namespace LoadError

/-- The errors that say what is wrong with a file, before its text is looked at. -/
inductive IsOfFile : LoadError → Prop where
  | notFound (p : FilePath) : IsOfFile (.fileNotFound p)
  | unsupported (p : FilePath) : IsOfFile (.unsupportedFormat p)
  | unreadable (fault : ReadFault) : IsOfFile (.unreadable fault)

end LoadError

/-- What a text is refused for is no fault of a file. -/
theorem Loading.not_isOfFile_of_ofText {env : Environment} {format : Format} {text : String}
    {e : LoadError} (h : (ofText env format text).result = .error e) : ¬e.IsOfFile := by
  intro hfile
  obtain ⟨e', hkind, hruns⟩ | ⟨theme, hruns⟩ := ofText_cases format text
  · cases (hruns env).symm.trans h
    rcases hkind with hsyntax | hmalformed
    · cases hsyntax <;> cases hfile
    · cases hmalformed <;> cases hfile
  · rcases hruns env with ⟨_, -, _, hunset⟩ | ⟨d, -, hdraft⟩
    · cases hunset.symm.trans h
      cases hfile
    · obtain ⟨x, -, rfl⟩ := ofDraft_eq_error.mp (hdraft.symm.trans h)
      cases hfile

namespace Surroundings

variable {w w' : Surroundings} {p p' q : FilePath}

/-! ## What a file is loaded as -/

/-- A path leads to a file that holds a text. -/
def HasText (w : Surroundings) (p : FilePath) (text : String) : Prop :=
  ∃ content, w.files.open? w.working p = some (.file content) ∧ String.fromUTF8? content = some text

theorem HasText.exists {text : String} (h : w.HasText p text) : w.exists? p = true := by
  obtain ⟨content, hopen, -⟩ := h
  unfold exists?
  rw [hopen]
  rfl

theorem HasText.read {text : String} (h : w.HasText p text) : w.read p = .ok text := by
  obtain ⟨content, hopen, htext⟩ := h
  unfold Surroundings.read
  rw [hopen]
  dsimp only
  rw [htext]

/-- What is there holds a text, or cannot be read. -/
theorem hasText_or_unreadable (h : w.exists? p = true) :
    (∃ text, w.HasText p text)
      ∨ (∀ text, ¬w.HasText p text) ∧ ∃ fault, w.read p = .error (.unreadable fault) := by
  unfold exists? at h
  obtain ⟨t, hopen⟩ := Option.isSome_iff_exists.mp h
  unfold HasText read
  rw [hopen]
  cases t with
  | directory entries => exact Or.inr ⟨by simp, .isDirectory, rfl⟩
  | locked => exact Or.inr ⟨by simp, .isLocked, rfl⟩
  | file content =>
    cases htext : String.fromUTF8? content with
    | none => exact Or.inr ⟨by simp [htext], .notText, by simp [htext]⟩
    | some text => exact Or.inl ⟨text, content, rfl, htext⟩

/-- Once there is something with a format, it is read, and then its text is all that counts. -/
theorem load_of_format {format : Format} (h : w.exists? p = true)
    (hformat : Format.ofPath? p = some format) :
    (w.load p).result
      = (w.read p).bind fun text => (Loading.ofText w.environment format text).result := by
  unfold load
  rw [h, hformat]
  simp only [Bool.not_true, Bool.false_eq_true, if_false, Traced.result_bind, Traced.result_ofExcept,
    Traced.result_tell, Traced.result_pure]
  refine congrArg _ (funext fun text => ?_)
  cases (Loading.ofText w.environment format text).result <;> rfl

theorem load_of_hasText {format : Format} {text : String} (hformat : Format.ofPath? p = some format)
    (h : w.HasText p text) :
    (w.load p).result = (Loading.ofText w.environment format text).result := by
  rw [load_of_format h.exists hformat, h.read]
  rfl

/-- Why a file is refused before its text is looked at: the first of three things is missing. -/
inductive Refuses (w : Surroundings) (p : FilePath) : LoadError → Prop where
  | absent (h : w.exists? p = false) : Refuses w p (.fileNotFound p)
  | noFormat (h : w.exists? p = true) (hformat : Format.ofPath? p = none) :
      Refuses w p (.unsupportedFormat p)
  | noText {fault : ReadFault} (h : w.exists? p = true)
      (hformat : ∃ format, Format.ofPath? p = some format) (htext : ∀ text, ¬w.HasText p text)
      (hread : w.read p = .error (.unreadable fault)) : Refuses w p (.unreadable fault)

theorem Refuses.load_eq {e : LoadError} (h : w.Refuses p e) : (w.load p).result = .error e := by
  cases h with
  | absent h =>
    unfold load
    rw [h]
    exact Traced.result_bind_of_error rfl _
  | noFormat h hformat =>
    unfold load
    rw [h, hformat]
    rfl
  | noText h hformat _ hread =>
    obtain ⟨format, hformat⟩ := hformat
    rw [load_of_format h hformat, hread]
    rfl

/-- **What a path is loaded as**: it is refused, or it is what its text is. -/
theorem load_cases (w : Surroundings) (p : FilePath) :
    (∃ e, w.Refuses p e)
      ∨ ∃ format text, Format.ofPath? p = some format ∧ w.HasText p text
        ∧ (w.load p).result = (Loading.ofText w.environment format text).result := by
  cases hexists : w.exists? p with
  | false => exact Or.inl ⟨_, .absent hexists⟩
  | true =>
    cases hformat : Format.ofPath? p with
    | none => exact Or.inl ⟨_, .noFormat hexists hformat⟩
    | some format =>
      rcases hasText_or_unreadable hexists with ⟨text, htext⟩ | ⟨hnone, fault, hfault⟩
      · exact Or.inr ⟨format, text, rfl, htext, load_of_hasText hformat htext⟩
      · exact Or.inl ⟨_, .noText hexists ⟨format, hformat⟩ hnone hfault⟩

/-- A failure of a file has no other reason. -/
theorem refuses_iff {e : LoadError} (he : e.IsOfFile) :
    (w.load p).result = .error e ↔ w.Refuses p e := by
  constructor
  · intro h
    rcases w.load_cases p with ⟨e', hrefuses⟩ | ⟨format, text, -, -, hload⟩
    · cases hrefuses.load_eq.symm.trans h
      exact hrefuses
    · exact absurd he (Loading.not_isOfFile_of_ofText (hload.symm.trans h))
  · intro h
    exact h.load_eq

theorem load_fileNotFound_iff :
    (w.load p).result = .error (.fileNotFound q) ↔ q = p ∧ w.exists? p = false := by
  rw [refuses_iff (.notFound q)]
  constructor
  · intro h
    cases h with
    | absent h => exact ⟨rfl, h⟩
  · rintro ⟨rfl, h⟩
    exact .absent h

theorem load_unsupportedFormat_iff :
    (w.load p).result = .error (.unsupportedFormat q)
      ↔ q = p ∧ w.exists? p = true ∧ Format.ofPath? p = none := by
  rw [refuses_iff (.unsupported q)]
  constructor
  · intro h
    cases h with
    | noFormat h hformat => exact ⟨rfl, h, hformat⟩
  · rintro ⟨rfl, h, hformat⟩
    exact .noFormat h hformat

theorem load_unreadable_iff :
    (∃ fault, (w.load p).result = .error (.unreadable fault))
      ↔ w.exists? p = true ∧ (∃ format, Format.ofPath? p = some format)
        ∧ ∀ text, ¬w.HasText p text := by
  simp only [refuses_iff (.unreadable _)]
  constructor
  · rintro ⟨fault, h⟩
    cases h with
    | noText h hformat htext _ => exact ⟨h, hformat, htext⟩
  · rintro ⟨h, hformat, hnone⟩
    rcases hasText_or_unreadable h with ⟨text, htext⟩ | ⟨-, fault, hfault⟩
    · exact absurd htext (hnone text)
    · exact ⟨fault, .noText h hformat hnone hfault⟩

theorem exists?_congr (h : w'.files.open? w'.working p' = w.files.open? w.working p) :
    w'.exists? p' = w.exists? p := by
  unfold exists?
  rw [h]

/-- Files with the same bytes and the same format are loaded as the same. -/
theorem load_congr {content : ByteArray} (henv : w'.environment = w.environment)
    (hopen : w.files.open? w.working p = some (.file content))
    (hopen' : w'.files.open? w'.working p' = some (.file content))
    (hformat : Format.ofPath? p' = Format.ofPath? p) (hsome : (Format.ofPath? p).isSome) :
    (w'.load p').result = (w.load p).result := by
  obtain ⟨format, hp⟩ := Option.isSome_iff_exists.mp hsome
  have hexists : w.exists? p = true := by
    unfold exists?
    rw [hopen]
    rfl
  have hexists' : w'.exists? p' = true := (exists?_congr (hopen'.trans hopen.symm)).trans hexists
  have hread : w'.read p' = w.read p := by
    unfold read
    rw [hopen, hopen']
  rw [load_of_format hexists hp, load_of_format hexists' (hformat.trans hp), hread, henv]

/-! ## The file that is named, or the one that is found -/

/-- Nothing but the file that is named is looked at. -/
theorem loadOrDiscover_some (w : Surroundings) (p : FilePath) :
    w.loadOrDiscover (some p) = (p, ·) <$> w.load p := by
  unfold loadOrDiscover
  rw [map_eq_pure_bind]

theorem load_eq_of_open (henv : w'.environment = w.environment)
    (hopen : w'.files.open? w'.working p = w.files.open? w.working p) : w'.load p = w.load p := by
  have hread : w'.read p = w.read p := by
    unfold read
    rw [hopen]
  unfold load
  rw [exists?_congr hopen, hread, henv]

theorem loadOrDiscover_of_discover (h : w.discover = some p) :
    (w.loadOrDiscover none).result = (w.load p).result.map (p, ·) := by
  unfold loadOrDiscover
  rw [h]
  simp only [Traced.result_bind, Traced.result_tell, Traced.result_pure]
  cases (w.load p).result <;> rfl

theorem loadOrDiscover_of_none (h : w.discover = none) :
    (w.loadOrDiscover none).result = .error (.fileNotFound ⟨"docsite.toml"⟩) := by
  unfold loadOrDiscover
  rw [h]
  rfl

/-- The directories that are looked through: the working directory and those above it. A working
directory that is gone has no path, so there is none. -/
def Searches (w : Surroundings) (ds : List FilePath) : Prop :=
  if w.files.isDirectory w.working then w.workingPath.Climbs ds else ds = []

theorem exists_searches (w : Surroundings) : ∃ ds, w.Searches ds := by
  unfold Searches
  split
  · exact ⟨_, w.workingPath.climbs_ancestors⟩
  · exact ⟨[], rfl⟩

theorem Searches.cases {ds : List FilePath} (h : w.Searches ds) :
    (w.workingPath.Climbs ds ∧ w.discover = w.discoverFrom w.workingPath)
      ∨ (ds = [] ∧ w.discover = none) := by
  unfold Searches at h
  unfold discover
  by_cases hthere : w.files.isDirectory w.working = true
  · rw [if_pos hthere] at h ⊢
    exact Or.inl ⟨h, rfl⟩
  · rw [if_neg hthere] at h ⊢
    exact Or.inr ⟨h, rfl⟩

theorem discover_eq_some {ds : List FilePath} (h : w.Searches ds) :
    w.discover = some p
      ↔ ∃ nearer d preferred name, w.IsNearest ds nearer d preferred name ∧ p = d.join name := by
  rcases h.cases with ⟨hway, hdiscover⟩ | ⟨rfl, hdiscover⟩
  · rw [hdiscover]
    exact discoverFrom_eq_some hway
  · rw [hdiscover]
    simp [not_isNearest_of_nil]

theorem discover_eq_none {ds : List FilePath} (h : w.Searches ds) :
    w.discover = none ↔ ∀ d ∈ ds, ¬w.Holds d := by
  rcases h.cases with ⟨hway, hdiscover⟩ | ⟨rfl, hdiscover⟩
  · rw [hdiscover]
    exact discoverFrom_eq_none hway
  · rw [hdiscover]
    simp

/-- The file that is found is there, and its name tells a format. -/
theorem IsNearest.exists_format {ds nearer : List FilePath} {d : FilePath} {preferred : List String}
    {name : String} (h : w.IsNearest ds nearer d preferred name) :
    w.exists? (d.join name) = true ∧ ∃ format, Format.ofPath? (d.join name) = some format := by
  obtain ⟨later, hnames⟩ := h.first.names
  have hmem : name ∈ fileNames := by
    rw [hnames]
    exact List.mem_append_right _ List.mem_cons_self
  exact ⟨h.first.there, Format.exists_ofPath?_join hmem d⟩

/-- If no file is named, then there is none to be found, or the one that is found is loaded. -/
theorem loadOrDiscover_cases {ds : List FilePath} (h : w.Searches ds) :
    ((∀ d ∈ ds, ¬w.Holds d)
        ∧ (w.loadOrDiscover none).result = .error (.fileNotFound ⟨"docsite.toml"⟩))
      ∨ (∃ d ∈ ds, w.Holds d) ∧ ∃ p, w.exists? p = true ∧ (∃ format, Format.ofPath? p = some format)
        ∧ (w.loadOrDiscover none).result = (w.load p).result.map (p, ·) := by
  cases hfound : w.discover with
  | none => exact Or.inl ⟨(discover_eq_none h).mp hfound, loadOrDiscover_of_none hfound⟩
  | some p =>
    obtain ⟨nearer, d, preferred, name, hnearest, rfl⟩ := (discover_eq_some h).mp hfound
    obtain ⟨hexists, hformat⟩ := hnearest.exists_format
    obtain ⟨farther, rfl⟩ := hnearest.way
    exact Or.inr ⟨⟨d, by simp, hnearest.first.holds⟩, d.join name, hexists, hformat,
      loadOrDiscover_of_discover hfound⟩

theorem loadOrDiscover_fileNotFound_iff {ds : List FilePath} (h : w.Searches ds) :
    (w.loadOrDiscover none).result = .error (.fileNotFound q)
      ↔ q = ⟨"docsite.toml"⟩ ∧ ∀ d ∈ ds, ¬w.Holds d := by
  rcases loadOrDiscover_cases h with ⟨hnone, hresult⟩ | ⟨⟨d, hd, hholds⟩, p, hexists, -, hresult⟩
  · rw [hresult]
    constructor
    · intro hq
      cases hq
      exact ⟨rfl, hnone⟩
    · rintro ⟨rfl, -⟩
      rfl
  · constructor
    · intro hq
      -- the file that is found is there
      have hload := Except.map_eq_error.mp (hresult.symm.trans hq)
      obtain ⟨-, habsent⟩ := load_fileNotFound_iff.mp hload
      rw [hexists] at habsent
      cases habsent
    · rintro ⟨-, hnone⟩
      exact absurd hholds (hnone d hd)

theorem loadOrDiscover_ne_unsupportedFormat {ds : List FilePath} (h : w.Searches ds) (q : FilePath) :
    (w.loadOrDiscover none).result ≠ .error (.unsupportedFormat q) := by
  intro hq
  rcases loadOrDiscover_cases h with ⟨-, hresult⟩ | ⟨-, p, -, ⟨format, hformat⟩, hresult⟩
  · cases hresult.symm.trans hq
  · have hload := Except.map_eq_error.mp (hresult.symm.trans hq)
    obtain ⟨-, -, hnone⟩ := load_unsupportedFormat_iff.mp hload
    rw [hformat] at hnone
    cases hnone

/-- **One file counts, and of it the bytes and the format.** A path is refused if nothing is there, then
if its ending tells no format, then if there is no text, and for nothing else; otherwise it is loaded as
its text is. If a file is named, then it is the only one that is looked at. If none is, then the
nearest one is loaded, whatever comes of it; that there is no file is only said if there is none. -/
theorem one_file_counts (w : Surroundings) :
    (∀ p : FilePath,
      (∀ q, (w.load p).result = .error (.fileNotFound q) ↔ q = p ∧ w.exists? p = false)
      ∧ (∀ q, (w.load p).result = .error (.unsupportedFormat q)
        ↔ q = p ∧ w.exists? p = true ∧ ∀ e ∈ Format.endings, ¬p.HasEnding e.1)
      ∧ ((∃ fault, (w.load p).result = .error (.unreadable fault))
        ↔ w.exists? p = true ∧ (∃ e ∈ Format.endings, p.HasEnding e.1) ∧ ∀ text, ¬w.HasText p text)
      ∧ (∀ ending format text, (ending, format) ∈ Format.endings → p.HasEnding ending →
        w.HasText p text → (w.load p).result = (Loading.ofText w.environment format text).result)
      ∧ ∀ (w' : Surroundings) (p' : FilePath) content, w'.environment = w.environment →
        w.files.open? w.working p = some (.file content) →
        w'.files.open? w'.working p' = some (.file content) →
        Format.ofPath? p' = Format.ofPath? p → (Format.ofPath? p).isSome →
        (w'.load p').result = (w.load p).result)
    ∧ (∀ p, w.loadOrDiscover (some p) = (p, ·) <$> w.load p
      ∧ ∀ w' : Surroundings, w'.environment = w.environment →
        w'.files.open? w'.working p = w.files.open? w.working p →
        w'.loadOrDiscover (some p) = w.loadOrDiscover (some p))
    ∧ ∃ ds, w.Searches ds
      ∧ (∀ q, (w.loadOrDiscover none).result = .error (.fileNotFound q)
        ↔ q = ⟨"docsite.toml"⟩ ∧ ∀ d ∈ ds, ¬w.Holds d)
      ∧ (∀ q, (w.loadOrDiscover none).result ≠ .error (.unsupportedFormat q))
      ∧ ((∀ d ∈ ds, ¬w.Holds d)
        ∨ ∃ nearer d preferred name, w.IsNearest ds nearer d preferred name)
      ∧ ∀ nearer d preferred name, w.IsNearest ds nearer d preferred name →
        (w.loadOrDiscover none).result = (w.load (d.join name)).result.map (d.join name, ·) := by
  refine ⟨fun p => ⟨fun q => load_fileNotFound_iff, fun q => ?_, ?_, ?_, ?_⟩, fun p => ?_, ?_⟩
  · rw [load_unsupportedFormat_iff, Format.ofPath?_eq_none]
  · rw [load_unreadable_iff, Format.exists_ofPath?_iff]
  · intro ending format text hmem hending htext
    exact load_of_hasText (Format.ofPath?_eq_some.mpr ⟨ending, hmem, hending⟩) htext
  · intro w' p' content henv hopen hopen' hsame hsome
    exact load_congr henv hopen hopen' hsame hsome
  · refine ⟨loadOrDiscover_some w p, fun w' henv hopen => ?_⟩
    rw [loadOrDiscover_some, loadOrDiscover_some, load_eq_of_open henv hopen]
  · obtain ⟨ds, hds⟩ := w.exists_searches
    refine ⟨ds, hds, fun q => loadOrDiscover_fileNotFound_iff hds,
      loadOrDiscover_ne_unsupportedFormat hds, ?_, ?_⟩
    · cases hfound : w.discover with
      | none => exact Or.inl ((discover_eq_none hds).mp hfound)
      | some p =>
        obtain ⟨nearer, d, preferred, name, hnearest, -⟩ := (discover_eq_some hds).mp hfound
        exact Or.inr ⟨nearer, d, preferred, name, hnearest⟩
    · intro nearer d preferred name hnearest
      exact loadOrDiscover_of_discover
        ((discover_eq_some hds).mpr ⟨nearer, d, preferred, name, hnearest, rfl⟩)

/-- Paths that lead nowhere, to a directory with an unknown ending, to a directory with a known one, and
to a file; and a found file that holds no text, though a good one is farther up. -/
theorem one_file_counts_tree :
    let text := "title = \"Docs\"\nbasePath = \"/\""
    let w : Surroundings := ⟨.directory [("docsite.toml", .file text.toUTF8),
      ("site.mts", .directory []), ("docs.toml", .directory []),
      ("a", .directory [("docsite.yml", .file ⟨#[255]⟩), ("b", .directory [])])], ["a", "b"], .empty⟩
    (w.load ⟨"/none.mts"⟩).result = .error (.fileNotFound ⟨"/none.mts"⟩)
      ∧ (w.load ⟨"/site.mts"⟩).result = .error (.unsupportedFormat ⟨"/site.mts"⟩)
      ∧ (∃ fault, (w.load ⟨"/docs.toml"⟩).result = .error (.unreadable fault))
      ∧ (w.load ⟨"/docsite.toml"⟩).result = (Loading.ofText .empty .toml text).result
      ∧ ∃ fault, (w.loadOrDiscover none).result = .error (.unreadable fault) := by
  intro text w
  obtain ⟨hfile, -, ds, hway, -, -, -, hfound⟩ := one_file_counts w
  refine ⟨((hfile _).1 _).mpr ⟨rfl, by decide⟩, ((hfile _).2.1 _).mpr ⟨rfl, by decide, ?_⟩,
    (hfile _).2.2.1.mpr ⟨by decide, ?_, ?_⟩, ?_, ?_⟩
  · rw [← Format.ofPath?_eq_none]
    decide
  · exact ⟨("toml", .toml), by decide, "docs", by decide, by decide⟩
  · rintro _ ⟨content, hopen, -⟩
    cases hopen
  · have htext : w.HasText ⟨"/docsite.toml"⟩ text := by
      refine ⟨text.toUTF8, rfl, ?_⟩
      unfold String.fromUTF8?
      rw [String.toUTF8_eq_toByteArray, dif_pos text.isValidUTF8]
      rfl
    exact (hfile _).2.2.2.1 "toml" .toml text (by decide) ⟨"docsite", by decide, by decide⟩ htext
  · have hclimb : w.workingPath.Climbs [⟨"/a/b"⟩, ⟨"/a"⟩, ⟨"/"⟩] :=
      .above (FilePath.parent?_eq_some_iff.mp (by decide))
        (.above (FilePath.parent?_eq_some_iff.mp (by decide)) (.root (by decide)))
    obtain rfl : ds = [⟨"/a/b"⟩, ⟨"/a"⟩, ⟨"/"⟩] :=
      (FilePath.climbs_iff.mp hway).trans (FilePath.climbs_iff.mp hclimb).symm
    have hnearest : w.IsNearest [⟨"/a/b"⟩, ⟨"/a"⟩, ⟨"/"⟩] [⟨"/a/b"⟩] ⟨"/a"⟩
        ["docsite.toml", "docsite.yaml"] "docsite.yml" := by
      refine ⟨⟨[⟨"/"⟩], rfl⟩, ?_, ⟨["docsite.json"], rfl⟩, by decide, by decide⟩
      rw [List.forall_mem_singleton]
      unfold Holds
      decide
    have hending : (⟨"/a/docsite.yml"⟩ : FilePath).HasEnding "yml" := ⟨"docsite", by decide, by decide⟩
    have hnone : ∀ text, ¬w.HasText ⟨"/a/docsite.yml"⟩ text := by
      rintro text ⟨content, hopen, htext⟩
      cases hopen
      cases htext
    obtain ⟨fault, hload⟩ :=
      (hfile _).2.2.1.mpr ⟨by decide, ⟨("yml", .yaml), by decide, hending⟩, hnone⟩
    exact ⟨fault, (hfound _ _ _ _ hnearest).trans (congrArg _ hload)⟩

end Surroundings

end SiteManifest
