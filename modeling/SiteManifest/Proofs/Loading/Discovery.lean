import SiteManifest.Loading
import SiteManifest.Proofs.FilePath

/-!
# Discovery

Which file is found from a directory on: the nearest directory on the way up that has one of the names
counts, and in it the preferred name. What is farther away, or less preferred in the same directory, has
no influence.

The search is told by its steps: a directory is looked through, and if it has none of the names, then
the search goes on in the one above. Everything follows from this by induction on the way up.
-/

namespace SiteManifest.Surroundings

variable {w w' : Surroundings} {start d p : FilePath}

/-! ## One directory -/

/-- A directory has a file with one of the names. -/
def Holds (w : Surroundings) (d : FilePath) : Prop :=
  ∃ name ∈ fileNames, w.exists? (d.join name) = true

/-- A name is the first one that is there in a directory, after some that are not. -/
structure IsFirst (w : Surroundings) (d : FilePath) (preferred : List String) (name : String) :
    Prop where
  names : ∃ later, fileNames = preferred ++ name :: later
  absent : ∀ n ∈ preferred, w.exists? (d.join n) = false
  there : w.exists? (d.join name) = true

/-- The first file in a directory. -/
def firstIn? (w : Surroundings) (d : FilePath) : Option FilePath :=
  (fileNames.map d.join).find? w.exists?

theorem firstIn?_eq_some :
    w.firstIn? d = some p ↔ ∃ preferred name, w.IsFirst d preferred name ∧ p = d.join name := by
  unfold firstIn?
  rw [List.find?_map, Option.map_eq_some_iff]
  constructor
  · rintro ⟨name, hname, rfl⟩
    obtain ⟨hthere, preferred, later, hnames, habsent⟩ := List.find?_eq_some_iff_append.mp hname
    exact ⟨preferred, name, ⟨⟨later, hnames⟩, by simpa using habsent, hthere⟩, rfl⟩
  · rintro ⟨preferred, name, ⟨⟨later, hnames⟩, habsent, hthere⟩, rfl⟩
    refine ⟨name, List.find?_eq_some_iff_append.mpr ⟨hthere, preferred, later, hnames, ?_⟩, rfl⟩
    simpa using habsent

theorem firstIn?_eq_none : w.firstIn? d = none ↔ ¬w.Holds d := by
  unfold firstIn? Holds
  simp

theorem IsFirst.holds {preferred : List String} {name : String} (h : w.IsFirst d preferred name) :
    w.Holds d := by
  obtain ⟨later, hnames⟩ := h.names
  refine ⟨name, ?_, h.there⟩
  rw [hnames]
  exact List.mem_append_right _ List.mem_cons_self

/-! ## The way up -/

theorem candidates_of_none (h : start.parent? = none) :
    candidates start = fileNames.map start.join := by
  unfold candidates
  rw [FilePath.ancestors_of_none h, List.flatMap_singleton]

theorem candidates_of_some (h : start.parent? = some d) :
    candidates start = fileNames.map start.join ++ candidates d := by
  unfold candidates
  rw [FilePath.ancestors_of_some h, List.flatMap_cons]

/-- One step of the search: a directory is looked through before the one above it. -/
theorem discoverFrom_step (w : Surroundings) (start : FilePath) :
    w.discoverFrom start = (w.firstIn? start).or (start.parent?.bind w.discoverFrom) := by
  unfold discoverFrom firstIn?
  cases h : start.parent? with
  | none => rw [candidates_of_none h, Option.bind_none, Option.or_none]
  | some d => rw [candidates_of_some h, List.find?_append, Option.bind_some]

/-- A name in a directory is the nearest one on a way up: no nearer directory has any of the names. -/
structure IsNearest (w : Surroundings) (ds nearer : List FilePath) (d : FilePath)
    (preferred : List String) (name : String) : Prop where
  way : ∃ farther, ds = nearer ++ d :: farther
  absent : ∀ e ∈ nearer, ¬w.Holds e
  first : w.IsFirst d preferred name

/-- In the first directory there is nothing nearer. -/
theorem isNearest_nil {ds : List FilePath} {preferred : List String} {name : String} :
    w.IsNearest (start :: ds) [] d preferred name ↔ d = start ∧ w.IsFirst d preferred name := by
  constructor
  · rintro ⟨⟨farther, hway⟩, -, hfirst⟩
    cases hway
    exact ⟨rfl, hfirst⟩
  · rintro ⟨rfl, hfirst⟩
    exact ⟨⟨ds, rfl⟩, by simp, hfirst⟩

/-- Farther up it is the nearest one if the first directory has none. -/
theorem isNearest_cons {e : FilePath} {ds nearer : List FilePath} {preferred : List String}
    {name : String} :
    w.IsNearest (start :: ds) (e :: nearer) d preferred name
      ↔ e = start ∧ ¬w.Holds start ∧ w.IsNearest ds nearer d preferred name := by
  constructor
  · rintro ⟨⟨farther, hway⟩, habsent, hfirst⟩
    cases hway
    obtain ⟨hstart, habsent⟩ := List.forall_mem_cons.mp habsent
    exact ⟨rfl, hstart, ⟨farther, rfl⟩, habsent, hfirst⟩
  · rintro ⟨rfl, hstart, ⟨farther, rfl⟩, habsent, hfirst⟩
    exact ⟨⟨farther, rfl⟩, List.forall_mem_cons.mpr ⟨hstart, habsent⟩, hfirst⟩

/-- The search goes on above a directory that has none of the names. -/
theorem exists_isNearest_cons {ds : List FilePath} :
    (∃ nearer d preferred name,
        w.IsNearest (start :: ds) nearer d preferred name ∧ p = d.join name)
      ↔ w.firstIn? start = some p ∨ (w.firstIn? start = none
        ∧ ∃ nearer d preferred name, w.IsNearest ds nearer d preferred name ∧ p = d.join name) := by
  rw [firstIn?_eq_some, firstIn?_eq_none]
  constructor
  · rintro ⟨nearer, d, preferred, name, hnearest, rfl⟩
    cases nearer with
    | nil =>
      obtain ⟨rfl, hfirst⟩ := isNearest_nil.mp hnearest
      exact Or.inl ⟨preferred, name, hfirst, rfl⟩
    | cons e nearer =>
      obtain ⟨-, hstart, hnearest⟩ := isNearest_cons.mp hnearest
      exact Or.inr ⟨hstart, nearer, d, preferred, name, hnearest, rfl⟩
  · rintro (⟨preferred, name, hfirst, rfl⟩ | ⟨hstart, nearer, d, preferred, name, hnearest, rfl⟩)
    · exact ⟨[], start, preferred, name, isNearest_nil.mpr ⟨rfl, hfirst⟩, rfl⟩
    · exact ⟨start :: nearer, d, preferred, name, isNearest_cons.mpr ⟨rfl, hstart, hnearest⟩, rfl⟩

theorem not_isNearest_of_nil {nearer : List FilePath} {preferred : List String} {name : String} :
    ¬w.IsNearest [] nearer d preferred name := by
  rintro ⟨⟨farther, hway⟩, -, -⟩
  simp at hway

/-- The file that is found is the nearest one on the way up. -/
theorem discoverFrom_eq_some {ds : List FilePath} (h : start.Climbs ds) :
    w.discoverFrom start = some p
      ↔ ∃ nearer d preferred name, w.IsNearest ds nearer d preferred name ∧ p = d.join name := by
  -- at the top nothing is left to look through
  have htop {top : FilePath} (hnone : top.parent? = none) : w.discoverFrom top = some p
      ↔ ∃ nearer d preferred name, w.IsNearest [top] nearer d preferred name ∧ p = d.join name := by
    rw [discoverFrom_step, hnone, Option.bind_none, Option.or_none, exists_isNearest_cons]
    simp [not_isNearest_of_nil]
  induction h with
  | root hroot => exact htop (FilePath.parent?_eq_none_iff.mpr (Or.inr hroot))
  | empty => exact htop (FilePath.parent?_eq_none_iff.mpr (Or.inl rfl))
  | above habove hds ih =>
    rw [discoverFrom_step, FilePath.parent?_eq_some_iff.mpr habove, Option.bind_some,
      Option.or_eq_some_iff, exists_isNearest_cons]
    exact or_congr_right (and_congr_right fun _ => ih)

theorem discoverFrom_eq_none {ds : List FilePath} (h : start.Climbs ds) :
    w.discoverFrom start = none ↔ ∀ d ∈ ds, ¬w.Holds d := by
  have htop {top : FilePath} (hnone : top.parent? = none) :
      w.discoverFrom top = none ↔ ∀ d ∈ [top], ¬w.Holds d := by
    rw [discoverFrom_step, hnone, Option.bind_none, Option.or_none, firstIn?_eq_none,
      List.forall_mem_singleton]
  induction h with
  | root hroot => exact htop (FilePath.parent?_eq_none_iff.mpr (Or.inr hroot))
  | empty => exact htop (FilePath.parent?_eq_none_iff.mpr (Or.inl rfl))
  | above habove hds ih =>
    rw [discoverFrom_step, FilePath.parent?_eq_some_iff.mpr habove, Option.bind_some,
      Option.or_eq_none_iff, firstIn?_eq_none, List.forall_mem_cons]
    exact and_congr_right fun _ => ih

/-! ## What has no influence -/

theorem holds_congr (h : ∀ name ∈ fileNames, w'.exists? (d.join name) = w.exists? (d.join name)) :
    w'.Holds d ↔ w.Holds d := by
  unfold Holds
  refine exists_congr fun name => and_congr_right fun hname => ?_
  rw [h name hname]

theorem IsFirst.congr {preferred : List String} {name : String} (h : w.IsFirst d preferred name)
    (hsame : ∀ n ∈ preferred ++ [name], w'.exists? (d.join n) = w.exists? (d.join n)) :
    w'.IsFirst d preferred name where
  names := h.names
  absent n hn := by
    rw [hsame n (List.mem_append_left _ hn)]
    exact h.absent n hn
  there := by
    rw [hsame name (by simp)]
    exact h.there

/-- A name stays the nearest one if nothing changes in nearer directories and nothing before it in its
own. -/
theorem IsNearest.congr {ds nearer : List FilePath} {preferred : List String} {name : String}
    (h : w.IsNearest ds nearer d preferred name)
    (hnearer : ∀ e ∈ nearer, ∀ n ∈ fileNames, w'.exists? (e.join n) = w.exists? (e.join n))
    (hsame : ∀ n ∈ preferred ++ [name], w'.exists? (d.join n) = w.exists? (d.join n)) :
    w'.IsNearest ds nearer d preferred name where
  way := h.way
  absent e he := by
    rw [holds_congr (hnearer e he)]
    exact h.absent e he
  first := h.first.congr hsame

/-- **The nearest directory counts, and in it the preferred name.** From every path there is one way
up, which ends at the root or at the empty path. The file that is found is the first one in the nearest
directory on this way that has any, and none is found exactly if no directory on it has one. Whatever
changes farther up, or behind the file that is found in its own directory, it is found again. -/
theorem nearest_discovered (w : Surroundings) (start : FilePath) :
    ∃ ds, start.Climbs ds ∧ (∀ ds', start.Climbs ds' → ds' = ds)
      ∧ (∃ top, ds.getLast? = some top
        ∧ if start.isAbsolute then top.components = [.root] else top.text = "")
      ∧ (∀ p, w.discoverFrom start = some p ↔ ∃ nearer d preferred name,
        w.IsNearest ds nearer d preferred name ∧ p = d.join name)
      ∧ (w.discoverFrom start = none ↔ ∀ d ∈ ds, ¬w.Holds d)
      ∧ ∀ (w' : Surroundings) nearer d preferred name, w.IsNearest ds nearer d preferred name →
        (∀ e ∈ nearer, ∀ n ∈ fileNames, w'.exists? (e.join n) = w.exists? (e.join n)) →
        (∀ n ∈ preferred ++ [name], w'.exists? (d.join n) = w.exists? (d.join n)) →
        w'.discoverFrom start = some (d.join name) := by
  have hway := start.climbs_ancestors
  refine ⟨start.ancestors, hway, fun ds' h => FilePath.climbs_iff.mp h, hway.getLast?,
    fun p => discoverFrom_eq_some hway, discoverFrom_eq_none hway, ?_⟩
  intro w' nearer d preferred name hnearest hnearer hsame
  exact (discoverFrom_eq_some hway).mpr
    ⟨nearer, d, preferred, name, hnearest.congr hnearer hsame, rfl⟩

/-- A file in the directory above, in which a less preferred one stands beside it, and a preferred one
farther up. It is found without these two as well. -/
theorem nearest_discovered_above :
    let file : FileTree := .file .empty
    let start : FilePath := ⟨"/a/b"⟩
    let w : Surroundings := ⟨.directory [("docsite.toml", file), ("a", .directory
      [("docsite.json", file), ("docsite.yaml", file), ("b", .directory [])])], [], .empty⟩
    let w' : Surroundings := ⟨.directory [("a", .directory [("docsite.yaml", file)])], [], .empty⟩
    start.Climbs [start, ⟨"/a"⟩, ⟨"/"⟩] ∧ w.discoverFrom start = some ⟨"/a/docsite.yaml"⟩
      ∧ w'.discoverFrom start = some ⟨"/a/docsite.yaml"⟩ := by
  intro file start w w'
  have hway : start.Climbs [start, ⟨"/a"⟩, ⟨"/"⟩] :=
    .above (FilePath.parent?_eq_some_iff.mp (by decide))
      (.above (FilePath.parent?_eq_some_iff.mp (by decide)) (.root (by decide)))
  obtain ⟨ds, -, hunique, -, hfound, -, hsame⟩ := nearest_discovered w start
  obtain rfl := hunique _ hway
  have hnearest :
      w.IsNearest [start, ⟨"/a"⟩, ⟨"/"⟩] [start] ⟨"/a"⟩ ["docsite.toml"] "docsite.yaml" := by
    refine ⟨⟨[⟨"/"⟩], rfl⟩, ?_, ⟨["docsite.yml", "docsite.json"], rfl⟩, ?_, ?_⟩
    · rw [List.forall_mem_singleton]
      unfold Holds
      decide
    · decide
    · decide
  refine ⟨hway, (hfound _).mpr ⟨_, _, _, _, hnearest, rfl⟩, ?_⟩
  exact hsame w' _ _ _ _ hnearest (by decide) (by decide)

end SiteManifest.Surroundings
