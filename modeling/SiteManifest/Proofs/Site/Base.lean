import SiteManifest.Proofs.Loading.Loaded
import SiteManifest.Site.Navigation

/-!
# Links under the base path

The address of a page is the base path without the slashes at its end, followed by the link. So the link
of a page makes an address in the site only if this part of the base path does not lead to another host
by itself: two slashes at its start are enough for that.

Validation tells the links of pages from social links by different tests than the making of addresses does.
The tests agree on all links of a site: those of pages are put under the base path, and social links stay
as they are.
-/

namespace SiteManifest

/-! ## Slashes at the end -/

/-- What is left of a path is a part of it, which does not end with a slash, and slashes follow. -/
theorem exists_trimSlashes (path : String) :
    ∃ slashes, path.toList = (trimSlashes path).toList ++ slashes ∧ (∀ c ∈ slashes, c = '/')
      ∧ ∀ c ∈ (trimSlashes path).toList.getLast?, c ≠ '/' := by
  obtain ⟨r, hr⟩ : ∃ r, r = path.toList.reverse := ⟨_, rfl⟩
  have htrim : (trimSlashes path).toList = (r.dropWhile (· == '/')).reverse := by
    rw [hr, trimSlashes, String.toList_ofList]
  refine ⟨(r.takeWhile (· == '/')).reverse, ?_, ?_, ?_⟩
  · rw [htrim, ← List.reverse_append, List.takeWhile_append_dropWhile, hr, List.reverse_reverse]
  · intro c hc
    exact beq_iff_eq.mp (List.all_eq_true.mp List.all_takeWhile c (List.mem_reverse.mp hc))
  · intro c hc hslash
    rw [htrim, List.getLast?_reverse] at hc
    have hhead := List.head?_dropWhile_not (· == '/') r
    rw [hc, hslash] at hhead
    cases hhead

/-- Nothing is left of a path exactly if it has nothing but slashes. -/
theorem trimSlashes_eq_nil {path : String} :
    (trimSlashes path).toList = [] ↔ ∀ c ∈ path.toList, c = '/' := by
  obtain ⟨slashes, hsplit, hslashes, hlast⟩ := exists_trimSlashes path
  rw [hsplit]
  constructor
  · intro h
    rw [h, List.nil_append]
    exact hslashes
  · intro h
    by_contra hne
    have hmem := List.getLast_mem hne
    exact hlast _ (List.getLast?_eq_some_getLast hne) (h _ (List.mem_append_left _ hmem))

/-- If anything is left of a path, then it starts with slashes exactly if the path does, whatever comes
behind it. -/
theorem replicate_prefix_trimSlashes {path : String} {n : Nat} (h : (trimSlashes path).toList ≠ [])
    (rest : List Char) :
    List.replicate n '/' <+: (trimSlashes path).toList ++ rest
      ↔ List.replicate n '/' <+: path.toList := by
  obtain ⟨slashes, hsplit, -, hlast⟩ := exists_trimSlashes path
  -- what is left is not made of slashes alone, as its last character is none
  have hlong : ¬(trimSlashes path).toList <+: List.replicate n '/' := by
    intro hstart
    have hmem := hstart.subset (List.getLast_mem h)
    exact hlast _ (List.getLast?_eq_some_getLast h) (List.eq_of_mem_replicate hmem)
  have hpart {tail : List Char} : List.replicate n '/' <+: (trimSlashes path).toList ++ tail
      ↔ List.replicate n '/' <+: (trimSlashes path).toList := by
    constructor
    · intro hstart
      exact (List.prefix_or_prefix_of_prefix hstart (List.prefix_append _ _)).resolve_right hlong
    · intro hstart
      exact hstart.trans (List.prefix_append _ _)
  rw [hpart, hsplit, hpart]

/-! ## Addresses -/

/-- A path is no URL by itself: its slash comes before any scheme, and it is not trimmed away. -/
theorem Url.isAbsolute_of_rooted {link : String} (h : ['/'] <+: link.toList) :
    isAbsolute link = false := by
  obtain ⟨rest, hlink⟩ := h
  have hclean : ∃ cs, (clean link).toList = '/' :: cs := by
    unfold clean trimEdges
    rw [← hlink, List.singleton_append, List.dropWhile_cons_of_neg (by decide), List.reverse_cons,
      List.dropWhile_append]
    split
    · exact ⟨[], by decide⟩
    · exact ⟨(rest.reverse.dropWhile isEdge).reverse.filter fun c => !isBreak c, by
        rw [String.toList_ofList, List.reverse_append]
        rfl⟩
  obtain ⟨cs, hcs⟩ := hclean
  have hscheme : splitScheme? ('/' :: cs) = none := rfl
  unfold isAbsolute
  rw [hcs, hscheme]

/-- What is left of a base path without the slashes at its end. -/
structure IsRoot (path root : String) : Prop where
  slashes : ∃ slashes, path.toList = root.toList ++ slashes ∧ ∀ c ∈ slashes, c = '/'
  finish : ¬['/'] <:+ root.toList

theorem isRoot_trimSlashes (path : String) : IsRoot path (trimSlashes path) := by
  obtain ⟨slashes, hsplit, hslashes, hlast⟩ := exists_trimSlashes path
  refine ⟨⟨slashes, hsplit, hslashes⟩, ?_⟩
  intro hslash
  exact hlast '/' (List.singleton_suffix_iff_getLast?_eq_some.mp hslash) rfl

/-- The link of a page is a slash, and no slash follows. -/
theorem IsPageLink.exists_rest {link : String} (h : IsPageLink link) :
    ∃ rest, link.toList = '/' :: rest ∧ ¬['/'] <+: rest := by
  obtain ⟨rest, hrest⟩ := h.rooted
  refine ⟨rest, hrest.symm, ?_⟩
  rintro ⟨rest', rfl⟩
  exact h.single ⟨rest', hrest⟩

namespace Site

variable {s : Site} {link : String}

/-- A path is put behind the base path. -/
theorem withBase_of_rooted (s : Site) (h : ['/'] <+: link.toList) :
    s.withBase link = trimSlashes s.basePath ++ link := by
  unfold withBase
  rw [Url.isAbsolute_of_rooted h, if_neg Bool.false_ne_true,
    if_pos (List.singleton_prefix_iff_head?_eq_some.mp h)]

/-- A URL is not put under the base path. -/
theorem withBase_of_isAbsolute (s : Site) (h : Url.isAbsolute link = true) :
    s.withBase link = link := by
  unfold withBase
  rw [if_pos h]

/-- A text that is neither a URL nor a path is taken for a path without its slash. -/
theorem withBase_of_not_rooted (s : Site) (habsolute : Url.isAbsolute link = false)
    (hrooted : ¬['/'] <+: link.toList) : s.withBase link = s.withBase ("/" ++ link) := by
  have hslash : ['/'] <+: ("/" ++ link).toList := by
    rw [String.toList_append]
    exact List.prefix_append _ _
  rw [withBase_of_rooted s hslash]
  unfold withBase
  rw [habsolute, if_neg Bool.false_ne_true,
    if_neg (mt List.singleton_prefix_iff_head?_eq_some.mpr hrooted), String.append_assoc]

/-- What is before the link of a page is all that counts for how its address starts. -/
theorem withBase_pageLink (hbase : IsBasePath s.basePath) (h : IsPageLink link) :
    ['/'] <+: (s.withBase link).toList
      ∧ (['/', '/'] <+: (s.withBase link).toList
        ↔ ['/', '/'] <+: s.basePath.toList ∧ ∃ c ∈ s.basePath.toList, c ≠ '/') := by
  rw [withBase_of_rooted s h.rooted, String.toList_append]
  by_cases hnil : (trimSlashes s.basePath).toList = []
  · rw [hnil, List.nil_append]
    refine ⟨h.rooted, fun hdouble => absurd hdouble h.single, ?_⟩
    rintro ⟨-, c, hc, hne⟩
    exact absurd (trimSlashes_eq_nil.mp hnil c hc) hne
  · refine ⟨(replicate_prefix_trimSlashes (n := 1) hnil _).mpr hbase.start,
      (replicate_prefix_trimSlashes (n := 2) hnil _).trans ?_⟩
    rw [trimSlashes_eq_nil] at hnil
    simp only [not_forall] at hnil
    obtain ⟨c, hc, hne⟩ := hnil
    exact (and_iff_left ⟨c, hc, hne⟩).symm

/-- The entries of a site: those of the navigation bar and those of the groups. -/
def entries (s : Site) : List Entry := s.theme.nav ++ s.theme.sidebar.flatMap (·.items)

theorem Valid.of_mem_entries (h : s.Valid) {e : Entry} (he : e ∈ s.entries) : e.Valid := by
  rcases List.mem_append.mp he with hnav | hitem
  · exact h.theme.nav e hnav
  · obtain ⟨g, hg, he⟩ := List.mem_flatMap.mp hitem
    exact (h.theme.sidebar g hg).items e he

end Site

/-- **The address of a page starts with a slash, and with two only if the base path does**, and is not
made of slashes alone. -/
theorem address_of_loaded {s : Site} (h : s.Loaded) {e : Entry} (he : e ∈ s.entries) :
    ['/'] <+: (s.withBase e.link).toList
      ∧ (['/', '/'] <+: (s.withBase e.link).toList
        ↔ ['/', '/'] <+: s.basePath.toList ∧ ∃ c ∈ s.basePath.toList, c ≠ '/') := by
  obtain ⟨d, -, hvalid⟩ := h.exists_draft
  exact Site.withBase_pageLink hvalid.basePath (hvalid.of_mem_entries he).link

/-- An ordinary base path, and one of slashes alone, of which nothing is left. -/
theorem address_of_loaded_values :
    let v (basePath : String) : Json := .object [("title", .string "Docs"),
      ("basePath", .string basePath),
      ("theme", .object [("nav", .array [.array [.string "Guide", .string "/guide/"]])])]
    let s (basePath : String) : Site := ⟨"Docs", "", basePath, ⟨[⟨"Guide", "/guide/"⟩], [], [], none⟩⟩
    (Loading.ofJson (v "/docs/")).result = .ok (s "/docs/")
      ∧ (Loading.ofJson (v "//")).result = .ok (s "//")
      ∧ ¬['/', '/'] <+: ((s "/docs/").withBase "/guide/").toList
      ∧ ¬['/', '/'] <+: ((s "//").withBase "/guide/").toList := by
  intro v s
  have hdocs : (Loading.ofJson (v "/docs/")).result = .ok (s "/docs/") := rfl
  have hslashes : (Loading.ofJson (v "//")).result = .ok (s "//") := rfl
  have hmem (basePath : String) : ⟨"Guide", "/guide/"⟩ ∈ (s basePath).entries :=
    List.mem_singleton.mpr rfl
  refine ⟨hdocs, hslashes, fun hdouble => ?_, fun hdouble => ?_⟩
  · obtain ⟨hstart, -⟩ := (address_of_loaded (.ofJson hdocs) (hmem _)).2.mp hdouble
    revert hstart
    decide
  · obtain ⟨-, c, hc, hne⟩ := (address_of_loaded (.ofJson hslashes) (hmem _)).2.mp hdouble
    have hall : ∀ c ∈ "//".toList, c = '/' := by simp
    exact hne (hall c hc)

/-- A base path that starts with two slashes is accepted, and leads the links of the pages to another
host. -/
theorem address_off_site :
    let v : Json := .object [("title", .string "Docs"), ("basePath", .string "//evil.example/"),
      ("theme", .object [("nav", .array [.array [.string "Guide", .string "/guide/"]])])]
    let s : Site := ⟨"Docs", "", "//evil.example/", ⟨[⟨"Guide", "/guide/"⟩], [], [], none⟩⟩
    (Loading.ofJson v).result = .ok s ∧ ⟨"Guide", "/guide/"⟩ ∈ s.entries
      ∧ s.withBase "/guide/" = "//evil.example/guide/"
      ∧ ['/', '/'] <+: (s.withBase "/guide/").toList := by
  intro v s
  have hrooted : ['/'] <+: "/guide/".toList := by decide
  have haddress : s.withBase "/guide/" = "//evil.example/guide/" := by
    rw [Site.withBase_of_rooted s hrooted]
    decide
  refine ⟨rfl, List.mem_singleton.mpr rfl, haddress, ?_⟩
  rw [haddress]
  decide

/-- **Links of pages are put under the base path, and social links stay as they are.** One slash stands
between the base path and the link of a page, so different links have different addresses; a text that is
neither a URL nor a path is taken for a path without its slash. -/
theorem based_links {s : Site} (h : s.Loaded) :
    IsRoot s.basePath (trimSlashes s.basePath)
      ∧ (∀ e ∈ s.entries, s.withBase e.link = trimSlashes s.basePath ++ e.link
        ∧ ∃ rest, e.link.toList = '/' :: rest ∧ ¬['/'] <+: rest)
      ∧ (∀ e ∈ s.entries, ∀ e' ∈ s.entries, s.withBase e.link = s.withBase e'.link → e.link = e'.link)
      ∧ (∀ l ∈ s.theme.socialLinks, s.withBase l.link = l.link)
      ∧ ∀ text, Url.isAbsolute text = false → ¬['/'] <+: text.toList →
        s.withBase text = s.withBase ("/" ++ text) := by
  obtain ⟨-, -, hvalid⟩ := h.exists_draft
  have hpage {e : Entry} (he : e ∈ s.entries) : IsPageLink e.link := (hvalid.of_mem_entries he).link
  have hunder {e : Entry} (he : e ∈ s.entries) :
      s.withBase e.link = trimSlashes s.basePath ++ e.link :=
    Site.withBase_of_rooted s (hpage he).rooted
  refine ⟨isRoot_trimSlashes s.basePath, ?_, ?_, ?_, ?_⟩
  · intro e he
    exact ⟨hunder he, (hpage he).exists_rest⟩
  · intro e he e' he' hsame
    rw [hunder he, hunder he'] at hsame
    exact (String.append_right_inj _).mp hsame
  · intro l hl
    exact Site.withBase_of_isAbsolute s (hvalid.theme.socialLinks l hl).link.absolute
  · intro text habsolute hrooted
    exact Site.withBase_of_not_rooted s habsolute hrooted

/-- A base path that ends with two slashes, a page, a social link, and a text that is neither. -/
theorem based_links_value :
    let v : Json := .object [("title", .string "Docs"), ("basePath", .string "/a//"),
      ("theme", .object [("nav", .array [.array [.string "Guide", .string "/guide/"]]),
        ("socialLinks", .array [.array [.string "x", .string "mailto:a@b"]])])]
    let s : Site := ⟨"Docs", "", "/a//", ⟨[⟨"Guide", "/guide/"⟩], [], [⟨.x, "mailto:a@b"⟩], none⟩⟩
    (Loading.ofJson v).result = .ok s ∧ s.withBase "/guide/" = "/a/guide/"
      ∧ s.withBase "mailto:a@b" = "mailto:a@b" ∧ Url.isAbsolute "guide/" = false
      ∧ s.withBase "guide/" = s.withBase "/guide/" := by
  intro v s
  have hloaded : (Loading.ofJson v).result = .ok s := rfl
  have hentry : ⟨"Guide", "/guide/"⟩ ∈ s.entries := List.mem_singleton.mpr rfl
  have hsocial : ⟨.x, "mailto:a@b"⟩ ∈ s.theme.socialLinks := List.mem_singleton.mpr rfl
  have habsolute : Url.isAbsolute "guide/" = false := by decide
  have hslash : "/" ++ "guide/" = "/guide/" := by decide
  have hroot : trimSlashes "/a//" ++ "/guide/" = "/a/guide/" := by decide
  obtain ⟨-, hpages, -, hsocials, htexts⟩ := based_links (.ofJson hloaded)
  have hpage := (hpages _ hentry).1
  have hsame := hsocials _ hsocial
  have htext := htexts "guide/" habsolute (by decide)
  rw [hslash] at htext
  exact ⟨hloaded, hpage.trans hroot, hsame, habsolute, htext⟩

end SiteManifest
