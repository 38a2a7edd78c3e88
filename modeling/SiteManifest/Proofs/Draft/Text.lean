import SiteManifest.Draft
import SiteManifest.Proofs.Shape.FaithfulRecord

/-!
# Drafts from texts

The fields of each record of a draft are stored independently of each other, and all of them are made
of faithful decoders. So a draft is read from a text as it is read from the value of this text.
-/

namespace SiteManifest

namespace Shape

variable {ρ α β : Type}

/-! ## Fields that are set -/

/-- A field stores a value by setting what it holds. -/
def Field.Sets (f : Field ρ) (set : α → ρ → ρ) : Prop :=
  ∀ v s, f.store.ofJson v = .ok s → ∃ a, s = set a

theorem Field.sets_ofOption (key : String) (d : Decoder α) (set : Option α → ρ → ρ) :
    (Field.ofOption key d set).Sets set := by
  intro v s h
  obtain ⟨a, -, ha⟩ := Except.map_eq_ok.mp h
  exact ⟨a, ha.symm⟩

theorem Field.sets_atEnd (key : String) (d : Decoder α) (set : α → ρ → ρ) :
    (Field.atEnd key d set).Sets set := by
  intro v s h
  obtain ⟨a, -, ha⟩ := Except.map_eq_ok.mp h
  exact ⟨a, ha.symm⟩

/-- Fields that set different parts of a record do not get in each other's way. -/
theorem Field.Sets.commutes {f g : Field ρ} {set : α → ρ → ρ} {set' : β → ρ → ρ} (hf : f.Sets set)
    (hg : g.Sets set') (h : ∀ a b x, set a (set' b x) = set' b (set a x)) : f.Commutes g := by
  intro v w s t hs ht x
  obtain ⟨a, rfl⟩ := hf v s hs
  obtain ⟨b, rfl⟩ := hg w t ht
  exact h a b x

@[simp] theorem Field.ofOption_commutes_ofOption {key key' : String} {d : Decoder α} {d' : Decoder β}
    {set : Option α → ρ → ρ} {set' : Option β → ρ → ρ}
    (h : ∀ a b x, set a (set' b x) = set' b (set a x)) :
    (Field.ofOption key d set).Commutes (Field.ofOption key' d' set') :=
  (sets_ofOption key d set).commutes (sets_ofOption key' d' set') h

@[simp] theorem Field.ofOption_commutes_atEnd {key key' : String} {d : Decoder α} {d' : Decoder β}
    {set : Option α → ρ → ρ} {set' : β → ρ → ρ}
    (h : ∀ a b x, set a (set' b x) = set' b (set a x)) :
    (Field.ofOption key d set).Commutes (Field.atEnd key' d' set') :=
  (sets_ofOption key d set).commutes (sets_atEnd key' d' set') h

@[simp] theorem Field.faithful_ofOption {key : String} {d : Decoder α} {set : Option α → ρ → ρ}
    (hd : d.Faithful) : (Field.ofOption key d set).store.Faithful :=
  hd.optional.map set

@[simp] theorem Field.faithful_atEnd {key : String} {d : Decoder α} {set : α → ρ → ρ}
    (hd : d.Faithful) : (Field.atEnd key d set).store.Faithful :=
  hd.map set

end Shape

namespace Draft

open Shape Record

/-! ## Records -/

theorem Entry.record_orderly : Entry.record.Orderly where
  keys := by decide
  commutes := by simp [Entry.record]

theorem Entry.faithful : Entry.record.decoder.Faithful :=
  faithful_decoder record_orderly (by simp [record, Decoder.faithful_text, Decoder.faithful_flag])

theorem Group.record_orderly : Group.record.Orderly where
  keys := by decide
  commutes := by simp [Group.record]

theorem Group.faithful : Group.record.decoder.Faithful :=
  faithful_decoder record_orderly (by
    simp [record, Decoder.faithful_text, Decoder.faithful_flag, Entry.faithful.list])

theorem SocialLink.record_orderly : SocialLink.record.Orderly where
  keys := by decide
  commutes := by simp [SocialLink.record]

theorem SocialLink.faithful : SocialLink.record.decoder.Faithful :=
  faithful_decoder record_orderly (by simp [record, Decoder.faithful_text, Decoder.faithful_flag])

theorem LabelFormat.record_orderly : LabelFormat.record.Orderly where
  keys := by decide
  commutes := by simp [LabelFormat.record]

theorem LabelFormat.faithful : LabelFormat.record.decoder.Faithful :=
  faithful_decoder record_orderly (by simp [record, Decoder.faithful_oneOf])

theorem LastUpdated.record_orderly : LastUpdated.record.Orderly where
  keys := by decide
  commutes := by simp [LastUpdated.record]

theorem LastUpdated.faithful : LastUpdated.record.decoder.Faithful :=
  faithful_decoder record_orderly (by
    simp [record, Decoder.faithful_text, LabelFormat.faithful])

theorem Theme.record_orderly : Theme.record.Orderly where
  keys := by decide
  commutes := by simp [Theme.record]

theorem Theme.faithful : Theme.record.decoder.Faithful :=
  faithful_decoder record_orderly (by
    simp [record, Entry.faithful.list, Group.faithful.list, SocialLink.faithful.list,
      LastUpdated.faithful])

theorem Site.record_orderly : Site.record.Orderly where
  keys := by decide
  commutes := by simp [Site.record]

/-- **A draft is read from a text as it is read from the value of the text.** -/
theorem Site.faithful : Site.record.decoder.Faithful :=
  faithful_decoder record_orderly (by simp [record, Decoder.faithful_text, Theme.faithful])

/-- A text that spells a value without repeated keys holds the draft that the value holds. -/
theorem Site.ofText_eq_ok {text : String} {v : Json} {rest : List Char} {d : Site}
    (h : Json.Spells text.toList v rest) (hend : Json.Read.skipBlanks rest = [])
    (hk : v.KeysDistinct) (hd : Site.ofJson v = .ok d) : Site.ofText text = .ok d := by
  have hread := Site.faithful h hk (Nat.lt_succ_self text.toList.length)
  have hjson : Site.record.decoder.ofJson v = .ok d := hd
  rw [hjson] at hread
  exact Json.whole_of_ok hread.eq_ok hend

end Draft

end SiteManifest
