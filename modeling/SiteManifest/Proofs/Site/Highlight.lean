import Mathlib.Data.List.Infix
import SiteManifest.Site.Navigation

/-!
# Highlighted entries

On which pages an entry is highlighted. Its link is compared with the path of the page character by
character, with a look at the slash where the link ends; what is meant is a comparison of the segments
between the slashes.

## Directories

All pages below a link start with the link and a slash, which may be the last one of the link. With this
directory of a link there are only two ways to be highlighted (`isActive_iff`): on the page of the link
itself, and on what starts with its directory. Both main statements go through this.
-/

namespace SiteManifest

/-! ## Segments -/

/-- The texts between the slashes of a path, empty ones included. -/
def pathSegments (path : String) : List (List Char) := path.toList.splitOn '/'

theorem intercalate_append_cons (q : List Char) (qs : List (List Char)) :
    ∀ {ps : List (List Char)}, ps ≠ [] →
      ['/'].intercalate (ps ++ q :: qs) = ['/'].intercalate ps ++ '/' :: ['/'].intercalate (q :: qs)
  | [], h => absurd rfl h
  | [p], _ => by simp
  | p :: p' :: ps, _ => by
    have ih := intercalate_append_cons q qs (List.cons_ne_nil p' ps)
    rw [List.cons_append] at ih
    simp only [List.cons_append, List.intercalate_cons_cons, ih, List.append_assoc]

/-- A path has its segments at the start of another one if it is that one, or if a slash follows it
there. -/
theorem splitOn_prefix_iff {a b : List Char} :
    a.splitOn '/' <+: b.splitOn '/' ↔ b = a ∨ a ++ ['/'] <+: b := by
  constructor
  · rintro ⟨rest, hrest⟩
    have ha : ['/'].intercalate (a.splitOn '/') = a := List.intercalate_splitOn '/'
    have hb : ['/'].intercalate (b.splitOn '/') = b := List.intercalate_splitOn '/'
    rw [← hrest] at hb
    cases rest with
    | nil =>
      rw [List.append_nil, ha] at hb
      exact Or.inl hb.symm
    | cons q qs =>
      rw [intercalate_append_cons q qs (List.splitOn_ne_nil _ _), ha] at hb
      exact Or.inr ⟨['/'].intercalate (q :: qs), by rw [List.append_assoc]; exact hb⟩
  · rintro (rfl | ⟨rest, rfl⟩)
    · exact List.prefix_rfl
    · rw [List.append_assoc, List.singleton_append, List.splitOn_append_cons_self]
      exact List.prefix_append _ _

theorem splitOn_inj {a b : List Char} : a.splitOn '/' = b.splitOn '/' ↔ a = b := by
  constructor
  · intro h
    have ha : ['/'].intercalate (a.splitOn '/') = a := List.intercalate_splitOn '/'
    rw [← ha, h, List.intercalate_splitOn]
  · rintro rfl
    rfl

/-! ## Directories -/

/-- What all pages below a link start with: the link, with a slash at its end. -/
def directory (link : String) : List Char :=
  if ['/'] <:+ link.toList then link.toList else link.toList ++ ['/']

theorem directory_of_slash {link : String} (h : ['/'] <:+ link.toList) :
    directory link = link.toList := if_pos h

theorem directory_of_no_slash {link : String} (h : ¬['/'] <:+ link.toList) :
    directory link = link.toList ++ ['/'] := if_neg h

theorem prefix_directory (link : String) : link.toList <+: directory link := by
  by_cases h : ['/'] <:+ link.toList
  · rw [directory_of_slash h]
  · rw [directory_of_no_slash h]
    exact List.prefix_append _ _

namespace Entry

variable {e : Entry} {path : String}

/-- The comparison of characters: the path goes on after the link in one of three ways. -/
theorem isActive_iff_rest (hroot : e.link ≠ "/") :
    e.isActive path = true
      ↔ ∃ rest, e.link.toList ++ rest = path.toList
        ∧ (rest = [] ∨ ['/'] <:+ e.link.toList ∨ ['/'] <+: rest) := by
  simp only [List.singleton_suffix_iff_getLast?_eq_some, List.singleton_prefix_iff_head?_eq_some]
  unfold isActive
  rw [if_neg hroot]
  cases hrest : e.link.toList.isPrefixOf? path.toList with
  | none =>
    constructor
    · intro h
      cases h
    · rintro ⟨rest, happend, -⟩
      rw [List.isPrefixOf?_eq_some_iff_append_eq.mpr happend] at hrest
      cases hrest
  | some rest =>
    have happend := List.isPrefixOf?_eq_some_iff_append_eq.mp hrest
    simp only [Bool.or_eq_true, List.isEmpty_iff, beq_iff_eq, or_assoc]
    constructor
    · intro h
      exact ⟨rest, happend, h⟩
    · rintro ⟨rest', happend', h⟩
      rw [← happend, List.append_cancel_left_eq] at happend'
      rw [← happend']
      exact h

/-- **An entry is highlighted on its own page and on all pages in its directory**, but for the link of
the whole site. -/
theorem isActive_iff :
    e.isActive path = true
      ↔ path = e.link ∨ (e.link ≠ "/" ∧ directory e.link <+: path.toList) := by
  by_cases hroot : e.link = "/"
  · unfold isActive
    rw [if_pos hroot, beq_iff_eq, hroot]
    simp
  rw [isActive_iff_rest hroot]
  by_cases hslash : ['/'] <:+ e.link.toList
  · rw [directory_of_slash hslash]
    constructor
    · rintro ⟨rest, happend, -⟩
      exact Or.inr ⟨hroot, rest, happend⟩
    · rintro (rfl | ⟨-, rest, happend⟩)
      · exact ⟨[], List.append_nil _, Or.inl rfl⟩
      · exact ⟨rest, happend, Or.inr (Or.inl hslash)⟩
  · rw [directory_of_no_slash hslash]
    constructor
    · rintro ⟨rest, happend, rfl | hends | ⟨rest', rfl⟩⟩
      · rw [List.append_nil] at happend
        exact Or.inl (String.toList_inj.mp happend.symm)
      · exact absurd hends hslash
      · exact Or.inr ⟨hroot, rest', by rw [List.append_assoc]; exact happend⟩
    · rintro (rfl | ⟨-, rest, happend⟩)
      · exact ⟨[], List.append_nil _, Or.inl rfl⟩
      · rw [List.append_assoc] at happend
        exact ⟨['/'] ++ rest, happend, Or.inr (Or.inr (List.prefix_append _ _))⟩

end Entry

/-! ## Segment by segment -/

/-- A link that does not end with a slash is compared by all of its segments. -/
theorem Entry.isActive_of_no_slash {e : Entry} {path : String} (h : ¬['/'] <:+ e.link.toList) :
    e.isActive path = true ↔ pathSegments e.link <+: pathSegments path := by
  have hroot : e.link ≠ "/" := by
    intro hlink
    rw [hlink] at h
    exact h (by decide)
  unfold pathSegments
  rw [isActive_iff, directory_of_no_slash h, splitOn_prefix_iff, String.toList_inj]
  simp [hroot]

/-- A link that ends with a slash is compared by the segments before this slash, and something has to
follow them. -/
theorem Entry.isActive_of_slash {e : Entry} {path : String} (h : ['/'] <:+ e.link.toList)
    (hroot : e.link ≠ "/") :
    e.isActive path = true
      ↔ (pathSegments e.link).dropLast <+: pathSegments path
        ∧ (pathSegments e.link).dropLast ≠ pathSegments path := by
  obtain ⟨stem, hstem⟩ := h
  have hsegments : (pathSegments e.link).dropLast = stem.splitOn '/' := by
    unfold pathSegments
    rw [← hstem, List.splitOn_append_cons_self, List.splitOn_nil, List.dropLast_concat]
  have hdirectory : directory e.link = stem ++ ['/'] := by
    rw [directory_of_slash ⟨stem, hstem⟩, hstem]
  rw [isActive_iff, hdirectory, hsegments]
  unfold pathSegments
  rw [splitOn_prefix_iff, splitOn_inj.ne]
  constructor
  · intro hactive
    have hprefix : stem ++ ['/'] <+: path.toList := by
      rcases hactive with rfl | ⟨-, hprefix⟩
      · rw [hstem]
      · exact hprefix
    refine ⟨Or.inr hprefix, ?_⟩
    rintro rfl
    have hlength := hprefix.length_le
    rw [List.length_append] at hlength
    exact absurd hlength (Nat.not_succ_le_self _)
  · rintro ⟨rfl | hprefix, hne⟩
    · exact absurd rfl hne
    · exact Or.inr ⟨hroot, hprefix⟩

/-- A page whose path shares the characters of a link, but goes on with something else than a slash, is
not below the link. -/
theorem Entry.isActive_of_sibling {e : Entry} {path : String} {stem rest : List Char} {c : Char}
    (hstem : ¬['/'] <:+ stem) (hlink : e.link.toList = stem ∨ e.link.toList = stem ++ ['/'])
    (hpath : path.toList = stem ++ c :: rest) (hc : c ≠ '/') : e.isActive path = false := by
  have hdirectory : directory e.link = stem ++ ['/'] := by
    rcases hlink with hlink | hlink
    · rw [directory_of_no_slash (by rw [hlink]; exact hstem), hlink]
    · rw [directory_of_slash ⟨stem, hlink.symm⟩, hlink]
  rw [← Bool.not_eq_true, isActive_iff, hdirectory, hpath, List.prefix_append_right_inj]
  rintro (rfl | ⟨-, rest', h⟩)
  · rw [hpath] at hlink
    simp [hc] at hlink
  · exact hc (List.cons.inj h).1.symm

/-- **An entry is highlighted by whole segments**: the link of the whole site on the first page only, a
link without a slash at its end on all paths that start with its segments, and a link with one on those
that go on after its segments. So characters that a path shares with a link do not count if the
segments differ. -/
theorem highlighted_by_segments (e : Entry) (path : String) :
    (e.link = "/" → (e.isActive path = true ↔ path = "/"))
      ∧ (¬['/'] <:+ e.link.toList →
        (e.isActive path = true ↔ pathSegments e.link <+: pathSegments path))
      ∧ (['/'] <:+ e.link.toList → e.link ≠ "/" →
        (e.isActive path = true
          ↔ (pathSegments e.link).dropLast <+: pathSegments path
            ∧ (pathSegments e.link).dropLast ≠ pathSegments path))
      ∧ ∀ stem c rest, ¬['/'] <:+ stem →
        e.link.toList = stem ∨ e.link.toList = stem ++ ['/'] →
        path.toList = stem ++ c :: rest → c ≠ '/' → e.isActive path = false := by
  refine ⟨?_, Entry.isActive_of_no_slash, Entry.isActive_of_slash, ?_⟩
  · intro hroot
    rw [Entry.isActive_iff, hroot]
    simp
  · intro stem c rest hstem hlink hpath hc
    exact Entry.isActive_of_sibling hstem hlink hpath hc

/-- A link without a slash at its end and one with it, on a page below, on a page of a like name, and on
the page without the slash. -/
theorem highlighted_by_segments_links :
    let page : Entry := ⟨"Guide", "/guide"⟩
    let folder : Entry := ⟨"Guide", "/guide/"⟩
    page.isActive "/guide/setup" = true ∧ folder.isActive "/guide/setup" = true
      ∧ page.isActive "/guides" = false ∧ folder.isActive "/guides" = false
      ∧ page.isActive "/guide" = true ∧ folder.isActive "/guide" = false := by
  intro page folder
  have hpage : ¬['/'] <:+ page.link.toList := by decide
  have hfolder : ['/'] <:+ folder.link.toList := by decide
  have hroot : folder.link ≠ "/" := by decide
  have hlike (e : Entry)
      (h : e.link.toList = page.link.toList ∨ e.link.toList = page.link.toList ++ ['/']) :
      e.isActive "/guides" = false :=
    (highlighted_by_segments e "/guides").2.2.2 page.link.toList 's' [] hpage h (by decide) (by decide)
  refine ⟨((highlighted_by_segments page _).2.1 hpage).mpr (by decide),
    ((highlighted_by_segments folder _).2.2.1 hfolder hroot).mpr (by decide),
    hlike page (Or.inl rfl), hlike folder (Or.inr (by decide)),
    ((highlighted_by_segments page _).2.1 hpage).mpr (by decide), ?_⟩
  rw [← Bool.not_eq_true, (highlighted_by_segments folder _).2.2.1 hfolder hroot]
  decide

/-! ## Nested directories -/

namespace Entry

variable {a b : Entry} {path : String}

/-- An entry with the same link is highlighted on the same pages. -/
theorem isActive_congr (h : a.link = b.link) : a.isActive path = b.isActive path := by
  unfold isActive
  rw [h]

theorem isActive_self (e : Entry) : e.isActive e.link = true := isActive_iff.mpr (Or.inl rfl)

theorem isActive_trans (ha : a.isActive b.link = true) (hb : b.isActive path = true) :
    a.isActive path = true := by
  rcases isActive_iff.mp ha with hlink | ⟨hroot, hab⟩
  · rw [isActive_congr hlink.symm]
    exact hb
  · refine isActive_iff.mpr (Or.inr ⟨hroot, ?_⟩)
    rcases isActive_iff.mp hb with rfl | ⟨-, hbp⟩
    · exact hab
    · exact (hab.trans (prefix_directory b.link)).trans hbp

theorem isActive_antisymm (ha : a.isActive b.link = true) (hb : b.isActive a.link = true) :
    a.link = b.link := by
  rcases isActive_iff.mp ha with hlink | ⟨-, hab⟩
  · exact hlink.symm
  · rcases isActive_iff.mp hb with hlink | ⟨-, hba⟩
    · exact hlink
    · have hab := (prefix_directory a.link).trans hab
      have hba := (prefix_directory b.link).trans hba
      exact String.toList_inj.mp (hab.eq_of_length_le hba.length_le)

/-- Of two links whose directories are nested, one is highlighted on the page of the other. They may
have the same directory, and then differ by a slash at the end at most. -/
theorem isActive_or_isActive_of_directory (ha : a.link ≠ "/") (hb : b.link ≠ "/")
    (h : directory a.link <+: directory b.link) :
    a.isActive b.link = true ∨ b.isActive a.link = true := by
  by_cases hslash : ['/'] <:+ b.link.toList
  · rw [directory_of_slash hslash] at h
    exact Or.inl (isActive_iff.mpr (Or.inr ⟨ha, h⟩))
  have hdirectory := directory_of_no_slash hslash
  rw [hdirectory] at h
  rcases List.prefix_concat_iff.mp h with hsame | hbefore
  · by_cases hslash' : ['/'] <:+ a.link.toList
    · rw [directory_of_slash hslash'] at hsame
      exact Or.inr (isActive_iff.mpr (Or.inr ⟨hb, by rw [hdirectory, hsame]⟩))
    · rw [directory_of_no_slash hslash', List.append_cancel_right_eq, String.toList_inj] at hsame
      exact Or.inl (isActive_iff.mpr (Or.inl hsame.symm))
  · exact Or.inl (isActive_iff.mpr (Or.inr ⟨ha, hbefore⟩))

theorem isActive_or_isActive (ha : a.isActive path = true) (hb : b.isActive path = true) :
    a.isActive b.link = true ∨ b.isActive a.link = true := by
  rcases isActive_iff.mp ha with rfl | ⟨hroot, hap⟩
  · exact Or.inr hb
  · rcases isActive_iff.mp hb with rfl | ⟨hroot', hbp⟩
    · exact Or.inl ha
    · rcases List.prefix_or_prefix_of_prefix hap hbp with h | h
      · exact isActive_or_isActive_of_directory hroot hroot' h
      · exact (isActive_or_isActive_of_directory hroot' hroot h).symm

end Entry

/-- **Highlighted entries are nested.** That an entry is highlighted on the page of another one is a
partial order of their links, an entry is highlighted wherever one below it is, and of two entries that
are highlighted on the same page one lies below the other. -/
theorem highlighting_nests (a b : Entry) (path : String) :
    a.isActive a.link = true
      ∧ (a.isActive b.link = true → b.isActive path = true → a.isActive path = true)
      ∧ (a.isActive b.link = true → b.isActive a.link = true → a.link = b.link)
      ∧ (a.isActive path = true → b.isActive path = true →
        a.isActive b.link = true ∨ b.isActive a.link = true) :=
  ⟨a.isActive_self, Entry.isActive_trans, Entry.isActive_antisymm, Entry.isActive_or_isActive⟩

/-- Two links with the same directory, and a page in it. -/
theorem highlighting_nests_links :
    let page : Entry := ⟨"Guide", "/guide"⟩
    let folder : Entry := ⟨"Guide", "/guide/"⟩
    page.isActive "/guide/" = true ∧ folder.isActive "/guide/setup" = true
      ∧ page.isActive "/guide/setup" = true ∧ folder.isActive "/guide" = false := by
  intro page folder
  have hbelow : page.isActive "/guide/" = true := by decide
  have hsetup : folder.isActive "/guide/setup" = true := by decide
  refine ⟨hbelow, hsetup, (highlighting_nests page folder _).2.1 hbelow hsetup, ?_⟩
  rw [← Bool.not_eq_true]
  intro habove
  exact absurd ((highlighting_nests page folder "/guide").2.2.1 hbelow habove) (by decide)

end SiteManifest
