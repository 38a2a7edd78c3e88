import SiteManifest.Draft
import SiteManifest.Proofs.Shape.Form

/-!
# Forms of drafts

The grammar of configurations: which values are drafts, whatever they say. It asks the same of entries
that are switched off as of all others. The main statement is that a draft is read from these values and
from no others.
-/

namespace SiteManifest.Draft

open Shape

/-! ## Forms -/

/-- An entry. Whether it is enabled may be left out, but it is not `null`. -/
def Entry.form : Form :=
  .record [("text", .optional .text), ("link", .optional .text), ("enabled", .flag)] 2

@[inherit_doc Entry.form]
def Group.form : Form :=
  .record [("text", .optional .text), ("items", .optional (.list Entry.form)),
    ("collapsed", .optional .flag), ("enabled", .flag)] 3

@[inherit_doc Entry.form]
def SocialLink.form : Form :=
  .record [("icon", .optional .text), ("link", .optional .text), ("enabled", .flag)] 2

/-- The words for the styles. -/
def styleForm : Form := .oneOf ["full", "long", "medium", "short"]

/-- The styles of a label. -/
def LabelFormat.form : Form :=
  .record [("dateStyle", .optional styleForm), ("timeStyle", .optional styleForm)] 2

/-- The label. -/
def LastUpdated.form : Form :=
  .record [("text", .optional .text), ("formatOptions", .optional LabelFormat.form)] 2

/-- A theme. The lists hold entries only. -/
def Theme.form : Form :=
  .record [("nav", .optional (.list Entry.form)), ("sidebar", .optional (.list Group.form)),
    ("socialLinks", .optional (.list SocialLink.form)),
    ("lastUpdated", .optional LastUpdated.form)] 4

/-- A whole configuration. -/
def Site.form : Form :=
  .record [("title", .optional .text), ("description", .optional .text),
    ("basePath", .optional .text), ("theme", .optional Theme.form)] 4

/-! ## Readers -/

open Decoder

theorem Entry.reads : Entry.record.decoder.Reads Entry.form :=
  Record.ReadsFields.decoder {
    reads := .cons ⟨rfl, reads_text.ofOption⟩ <| .cons ⟨rfl, reads_text.ofOption⟩ <|
      .cons ⟨rfl, reads_flag.atEnd⟩ .nil
    omittable := ⟨1, rfl⟩ }

theorem Group.reads : Group.record.decoder.Reads Group.form :=
  Record.ReadsFields.decoder {
    reads := .cons ⟨rfl, reads_text.ofOption⟩ <| .cons ⟨rfl, Entry.reads.list.ofOption⟩ <|
      .cons ⟨rfl, reads_flag.ofOption⟩ <| .cons ⟨rfl, reads_flag.atEnd⟩ .nil
    omittable := ⟨1, rfl⟩ }

theorem SocialLink.reads : SocialLink.record.decoder.Reads SocialLink.form :=
  Record.ReadsFields.decoder {
    reads := .cons ⟨rfl, reads_text.ofOption⟩ <| .cons ⟨rfl, reads_text.ofOption⟩ <|
      .cons ⟨rfl, reads_flag.atEnd⟩ .nil
    omittable := ⟨1, rfl⟩ }

theorem reads_style : (oneOf Style.words).Reads styleForm := reads_oneOf Style.words

theorem LabelFormat.reads : LabelFormat.record.decoder.Reads LabelFormat.form :=
  Record.ReadsFields.decoder {
    reads := .cons ⟨rfl, reads_style.ofOption⟩ <| .cons ⟨rfl, reads_style.ofOption⟩ .nil
    omittable := ⟨0, rfl⟩ }

theorem LastUpdated.reads : LastUpdated.record.decoder.Reads LastUpdated.form :=
  Record.ReadsFields.decoder {
    reads := .cons ⟨rfl, reads_text.ofOption⟩ <| .cons ⟨rfl, LabelFormat.reads.ofOption⟩ .nil
    omittable := ⟨0, rfl⟩ }

theorem Theme.reads : Theme.record.decoder.Reads Theme.form :=
  Record.ReadsFields.decoder {
    reads := .cons ⟨rfl, Entry.reads.list.ofOption⟩ <| .cons ⟨rfl, Group.reads.list.ofOption⟩ <|
      .cons ⟨rfl, SocialLink.reads.list.ofOption⟩ <| .cons ⟨rfl, LastUpdated.reads.ofOption⟩ .nil
    omittable := ⟨0, rfl⟩ }

/-- **A draft is read from the values that fit its form, and from no others.** -/
theorem Site.reads : Site.record.decoder.Reads Site.form :=
  Record.ReadsFields.decoder {
    reads := .cons ⟨rfl, reads_text.ofOption⟩ <| .cons ⟨rfl, reads_text.ofOption⟩ <|
      .cons ⟨rfl, reads_text.ofOption⟩ <| .cons ⟨rfl, Theme.reads.ofOption⟩ .nil
    omittable := ⟨0, rfl⟩ }

end SiteManifest.Draft
