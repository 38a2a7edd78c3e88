import Mathlib.Data.List.DropRight
import SiteManifest.Proofs.Loading.Loaded

/-!
# Social links as they are checked

A text is cleaned before it is checked to be a URL, and what is stored is the text as it was written. So a
stored link is the URL that was checked exactly if the cleaning leaves it alone. Validation sees to it at
the ends of a link: whatever is cut there counts as padding. Inside of a link it does not, where tabs and
line breaks are dropped.
-/

namespace SiteManifest

/-! ## Cleaning -/

namespace Url

theorem isEdge_of_isBreak {c : Char} (h : isBreak c = true) : isEdge c = true := by
  simp only [isBreak, Bool.or_eq_true, beq_iff_eq] at h
  obtain (rfl | rfl) | rfl := h
  all_goals decide

theorem trimEdges_eq (cs : List Char) :
    trimEdges cs = (cs.dropWhile isEdge).rdropWhile isEdge := rfl

/-- Nothing is cut from a text whose ends are no edges. -/
theorem trimEdges_of_ends {cs : List Char} (hfirst : ∀ c ∈ cs.head?, isEdge c = false)
    (hlast : ∀ c ∈ cs.getLast?, isEdge c = false) : trimEdges cs = cs := by
  have hdrop : cs.dropWhile isEdge = cs := by
    cases cs with
    | nil => rfl
    | cons c rest => exact List.dropWhile_cons_of_neg (by rw [hfirst c rfl]; decide)
  rw [trimEdges_eq, hdrop, List.rdropWhile_eq_self_iff]
  intro hne
  rw [hlast _ (List.getLast?_eq_some_getLast hne)]
  decide

/-- The ends of what is left of a text are no edges. -/
theorem ends_trimEdges (cs : List Char) :
    (∀ c ∈ (trimEdges cs).head?, isEdge c = false)
      ∧ ∀ c ∈ (trimEdges cs).getLast?, isEdge c = false := by
  rw [trimEdges_eq]
  constructor
  · intro c hc
    -- what is cut at the end leaves the first character in place
    obtain ⟨rest, hrest⟩ := List.rdropWhile_prefix isEdge (l := cs.dropWhile isEdge)
    have hhead : (cs.dropWhile isEdge).head? = some c := by
      rw [← hrest, List.head?_append, hc]
      rfl
    have hnot := List.head?_dropWhile_not isEdge cs
    rw [hhead] at hnot
    simpa using hnot
  · intro c hc
    have hne : (cs.dropWhile isEdge).rdropWhile isEdge ≠ [] := by
      intro hnil
      rw [hnil] at hc
      cases hc
    rw [List.getLast?_eq_some_getLast hne] at hc
    cases hc
    simpa using List.rdropWhile_last_not isEdge _ hne

/-- The ends of a text that are no edges stay its ends if only edges are left out of it. -/
theorem trimEdges_filter {p : Char → Bool} (hp : ∀ c, isEdge c = false → p c = true)
    {cs : List Char} (hfirst : ∀ c ∈ cs.head?, isEdge c = false)
    (hlast : ∀ c ∈ cs.getLast?, isEdge c = false) : trimEdges (cs.filter p) = cs.filter p := by
  apply trimEdges_of_ends
  · cases cs with
    | nil => exact hfirst
    | cons c rest =>
      rw [List.filter_cons_of_pos (hp c (hfirst c rfl))]
      exact hfirst
  · obtain rfl | ⟨front, c, rfl⟩ := cs.eq_nil_or_concat'
    · exact hlast
    · have hc := hlast c List.getLast?_concat
      rw [List.filter_append, List.filter_cons_of_pos (hp c hc), List.filter_nil,
        List.getLast?_concat]
      rintro _ ⟨⟩
      exact hc

/-- A text that was cleaned is clean. -/
theorem clean_clean (s : String) : clean (clean s) = clean s := by
  obtain ⟨hfirst, hlast⟩ := ends_trimEdges s.toList
  have hkept (c : Char) (hc : isEdge c = false) : (!isBreak c) = true := by
    rw [Bool.not_eq_true', ← Bool.not_eq_true]
    intro hbreak
    rw [isEdge_of_isBreak hbreak] at hc
    cases hc
  have htrim := trimEdges_filter hkept hfirst hlast
  unfold clean
  rw [String.toList_ofList, htrim, List.filter_filter]
  simp only [Bool.and_self]

theorem isAbsolute_clean (s : String) : isAbsolute (clean s) = isAbsolute s := by
  unfold isAbsolute
  rw [clean_clean]

end Url

/-! ## Stored links -/

/-- All that the cleaning cuts from an end counts as padding. -/
theorem Text.isEdge_eq_false {c : Char} (h : isBlankChar c = false ∧ isControlChar c = false) :
    Url.isEdge c = false := by
  obtain ⟨hblank, hcontrol⟩ := h
  simp only [isControlChar, Bool.or_eq_false_iff, decide_eq_false_iff_not] at hcontrol
  simp only [Url.isEdge, decide_eq_false_iff_not]
  intro hedge
  have hspace : c = ' ' := Char.toNat_inj.mp (show c.toNat = 0x20 by omega)
  rw [hspace] at hblank
  revert hblank
  decide

/-- An address is cleaned by leaving out its tabs and line breaks, none of which stands at an end. -/
theorem IsAddress.toList_clean {link : String} (h : IsAddress link) :
    Url.trimEdges link.toList = link.toList
      ∧ (Url.clean link).toList = link.toList.filter (· ∉ ['\t', '\n', '\r']) := by
  have htrim : Url.trimEdges link.toList = link.toList :=
    Url.trimEdges_of_ends (fun c hc => Text.isEdge_eq_false (h.unpadded.first c hc))
      (fun c hc => Text.isEdge_eq_false (h.unpadded.last c hc))
  refine ⟨htrim, ?_⟩
  unfold Url.clean
  rw [htrim, String.toList_ofList]
  refine List.filter_congr fun c _ => ?_
  simp only [Url.isBreak, List.mem_cons, List.not_mem_nil, or_false, decide_not, Bool.decide_or,
    beq_eq_decide, Bool.or_assoc]

/-- **A stored social link is checked without its tabs and line breaks**, which can only stand inside of
it. So it is the very text that was checked exactly if it has none of them. -/
theorem checked_of_stored {s : Site} (h : s.Loaded) {l : SocialLink}
    (hl : l ∈ s.theme.socialLinks) :
    Url.isAbsolute (Url.clean l.link) = true
      ∧ Url.trimEdges l.link.toList = l.link.toList
      ∧ (Url.clean l.link).toList = l.link.toList.filter (· ∉ ['\t', '\n', '\r'])
      ∧ (Url.clean l.link = l.link ↔ ∀ c ∈ ['\t', '\n', '\r'], c ∉ l.link.toList) := by
  obtain ⟨-, -, hvalid⟩ := h.exists_draft
  have haddress := (hvalid.theme.socialLinks l hl).link
  obtain ⟨htrim, hclean⟩ := haddress.toList_clean
  refine ⟨by rw [Url.isAbsolute_clean, haddress.absolute], htrim, hclean, ?_⟩
  rw [← String.toList_inj, hclean, List.filter_eq_self]
  constructor
  · intro hall c hbreak hc
    exact of_decide_eq_true (hall c hc) hbreak
  · intro hnone c hc
    exact decide_eq_true fun hbreak => hnone c hbreak hc

/-- A link with blanks inside of it, which are kept. -/
theorem checked_of_stored_blanks :
    let v : Json := .object [("title", .string "Docs"), ("basePath", .string "/"),
      ("theme", .object [("socialLinks", .array [.array [.string "x", .string "mailto:a b@c"]])])]
    let s : Site := ⟨"Docs", "", "/", ⟨[], [], [⟨.x, "mailto:a b@c"⟩], none⟩⟩
    (Loading.ofJson v).result = .ok s ∧ Url.clean "mailto:a b@c" = "mailto:a b@c" := by
  intro v s
  have hloaded : (Loading.ofJson v).result = .ok s := rfl
  have hmem : ⟨.x, "mailto:a b@c"⟩ ∈ s.theme.socialLinks := List.mem_singleton.mpr rfl
  obtain ⟨-, -, -, hclean⟩ := checked_of_stored (.ofJson hloaded) hmem
  exact ⟨hloaded, hclean.mpr (by simp)⟩

/-- A link with a tab inside of it is accepted, stored with the tab, and was checked without it. -/
theorem stored_with_tab :
    let v : Json := .object [("title", .string "Docs"), ("basePath", .string "/"),
      ("theme", .object [("socialLinks", .array [.array [.string "x", .string "mailto:a\t@b"]])])]
    let s : Site := ⟨"Docs", "", "/", ⟨[], [], [⟨.x, "mailto:a\t@b"⟩], none⟩⟩
    (Loading.ofJson v).result = .ok s ∧ ⟨.x, "mailto:a\t@b"⟩ ∈ s.theme.socialLinks
      ∧ Url.clean "mailto:a\t@b" = "mailto:a@b"
      ∧ Url.clean "mailto:a\t@b" ≠ "mailto:a\t@b" := by
  intro v s
  have hclean : Url.clean "mailto:a\t@b" = "mailto:a@b" := by decide
  refine ⟨rfl, List.mem_singleton.mpr rfl, hclean, ?_⟩
  rw [hclean]
  decide

end SiteManifest
