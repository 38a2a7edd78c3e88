import SiteManifest.Proofs.Loading.Files
import SiteManifest.Proofs.Loading.Printed
import SiteManifest.Proofs.Loading.Referred

/-!
# Files with printed sites

A printed site that is written to a file is loaded from it again, if the name of the file tells the
format, and if no text that is expanded holds the start of a reference. The variables do not matter.
-/

namespace SiteManifest.Surroundings

variable {w : Surroundings} {p : FilePath}

/-- A text is written to a file as its bytes. -/
theorem hasText_of_toUTF8 {text : String}
    (h : w.files.open? w.working p = some (.file text.toUTF8)) : w.HasText p text := by
  refine ⟨text.toUTF8, h, ?_⟩
  unfold String.fromUTF8?
  rw [String.toUTF8_eq_toByteArray, dif_pos text.isValidUTF8]
  rfl

section

variable {s : Site} {text : String} (hprinted : s.Printed text)
  (htitle : ¬['$', '\x7b'] <:+: s.title.toList)
  (hdescription : ¬['$', '\x7b'] <:+: s.description.toList)
  (hbase : ¬['$', '\x7b'] <:+: s.basePath.toList) (hending : p.HasEnding "json")
  (hopen : w.files.open? w.working p = some (.file text.toUTF8))

include hprinted htitle hdescription hbase hending hopen

theorem load_of_printed (hvalid : s.Valid) : (w.load p).result = .ok s := by
  have hformat : Format.ofPath? p = some .json :=
    Format.ofPath?_eq_some.mpr ⟨"json", by decide, hending⟩
  rw [load_of_hasText hformat (hasText_of_toUTF8 hopen), Loading.ofText_printed hprinted,
    Site.expand_of_not_infix htitle hdescription hbase]
  exact Loading.ofDraft_draft hvalid

theorem not_refers_of_printed (name : String) : ¬w.Refers p name := by
  have hformat : Format.ofPath? p = some .json :=
    Format.ofPath?_eq_some.mpr ⟨"json", by decide, hending⟩
  have hdefinitions : Format.definitions .json text = .ok [s.toJson] := by
    unfold Format.definitions
    rw [hprinted.ofText_eq_ok]
  rintro ⟨_, _, hformat', htext, _, _, _, hread, hlast, hdraft, _, hmem, hmention, -⟩
  -- the format, the text, its definition and the draft are those of the site
  cases hformat.symm.trans hformat'
  cases (hasText_of_toUTF8 hopen).read.symm.trans htext.read
  cases hdefinitions.symm.trans hread
  cases hlast
  cases (Draft.Site.ofJson_toJson s).symm.trans hdraft
  rcases hmem with hmem | hmem | hmem <;> cases hmem
  · exact htitle hmention
  · exact hdescription hmention
  · exact hbase hmention

end

end SiteManifest.Surroundings
