import SiteManifest.Proofs.Loading.Loaded
import SiteManifest.Proofs.Site.Draft

/-!
# Written sites

A site that is written as a JSON value is loaded from it again, if it is valid. Nothing else matters:
neither the description, nor how long the lists are, nor what the groups say about collapsing, nor the
icons and the styles. Since every loaded site is valid, writing and loading once more changes nothing.
-/

namespace SiteManifest

/-- The draft of a valid site passes the validation, and it is what its written form is read as. -/
theorem Loading.ofJson_toJson {s : Site} (h : s.Valid) : (ofJson s.toJson).result = .ok s := by
  have hread := Draft.Site.ofJson_toJson s
  exact ofJson_eq_ok.mpr ⟨s.draft, hread, s.draft_describes, h⟩

/-- **A valid site is loaded from what it is written as**, and so is every site that a value holds. -/
theorem loaded_from_written :
    (∀ s : Site, s.Valid → (Loading.ofJson s.toJson).result = .ok s)
      ∧ ∀ (v : Json) (s : Site), (Loading.ofJson v).result = .ok s →
        (Loading.ofJson s.toJson).result = .ok s := by
  constructor
  · intro s hvalid
    exact Loading.ofJson_toJson hvalid
  · intro v s hload
    obtain ⟨d, -, -, hvalid⟩ := Loading.ofJson_eq_ok.mp hload
    exact Loading.ofJson_toJson hvalid

/-- A site with everything that may be left out, and a value with an entry that is switched off. -/
theorem loaded_from_written_full :
    let s : Site := ⟨"Docs", "All about \"docs\"", "/docs/",
      ⟨[⟨"Home", "/"⟩], [⟨"Guide", [⟨"Start", "/start"⟩], some false⟩, ⟨"Empty", [], none⟩],
        [⟨.x, "mailto:a@b"⟩], some ⟨"Changed", ⟨.long, .short⟩⟩⟩⟩
    let v : Json := .object [("title", .string "Docs"), ("basePath", .string "/"),
      ("theme", .object [("nav", .array [.object [("enabled", .bool false)]])])]
    let t : Site := ⟨"Docs", "", "/", ⟨[], [], [], none⟩⟩
    (s.Valid ∧ (Loading.ofJson s.toJson).result = .ok s)
      ∧ (Loading.ofJson v).result = .ok t ∧ (Loading.ofJson t.toJson).result = .ok t := by
  intro s v t
  have hs : s.Valid := by decide
  have hv : (Loading.ofJson v).result = .ok t := rfl
  exact ⟨⟨hs, loaded_from_written.1 s hs⟩, hv, loaded_from_written.2 v t hv⟩

end SiteManifest
