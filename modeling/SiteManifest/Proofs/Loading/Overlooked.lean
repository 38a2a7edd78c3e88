import Mathlib.Logic.Relation
import SiteManifest.Loading
import SiteManifest.Proofs.Draft.Form
import SiteManifest.Proofs.Draft.Text
import SiteManifest.Proofs.Shape.Overlooked

/-!
# What makes no difference to a configuration

A configuration may say more than it is asked for: unknown keys in its records, and keys that are
`null`. The main statement is that members of this kind, in as many records and at as many levels as one
likes, do not change what is loaded from a value, nor the report if nothing is.
-/

namespace SiteManifest

/-! ## Drafts -/

namespace Draft

open Shape Decoder Field Record

theorem Entry.overlooks : Entry.record.decoder.Overlooks Entry.form :=
  OverlooksFields.decoder {
    toOrderly := record_orderly
    overlooks := .cons (overlooks_ofOption overlooks_text rfl) <|
      .cons (overlooks_ofOption overlooks_text rfl) <| .cons overlooks_flag .nil } 2

theorem Group.overlooks : Group.record.decoder.Overlooks Group.form :=
  OverlooksFields.decoder {
    toOrderly := record_orderly
    overlooks := .cons (overlooks_ofOption overlooks_text rfl) <|
      .cons (overlooks_ofOption Entry.overlooks.list rfl) <|
      .cons (overlooks_ofOption Decoder.overlooks_flag rfl) <| .cons overlooks_flag .nil } 3

theorem SocialLink.overlooks : SocialLink.record.decoder.Overlooks SocialLink.form :=
  OverlooksFields.decoder {
    toOrderly := record_orderly
    overlooks := .cons (overlooks_ofOption overlooks_text rfl) <|
      .cons (overlooks_ofOption overlooks_text rfl) <| .cons overlooks_flag .nil } 2

theorem LabelFormat.overlooks : LabelFormat.record.decoder.Overlooks LabelFormat.form :=
  OverlooksFields.decoder {
    toOrderly := record_orderly
    overlooks := .cons (overlooks_ofOption (overlooks_oneOf _ _) rfl) <|
      .cons (overlooks_ofOption (overlooks_oneOf _ _) rfl) .nil } 2

theorem LastUpdated.overlooks : LastUpdated.record.decoder.Overlooks LastUpdated.form :=
  OverlooksFields.decoder {
    toOrderly := record_orderly
    overlooks := .cons (overlooks_ofOption overlooks_text rfl) <|
      .cons (overlooks_ofOption LabelFormat.overlooks rfl) .nil } 2

theorem Theme.overlooks : Theme.record.decoder.Overlooks Theme.form :=
  OverlooksFields.decoder {
    toOrderly := record_orderly
    overlooks := .cons (overlooks_ofOption Entry.overlooks.list rfl) <|
      .cons (overlooks_ofOption Group.overlooks.list rfl) <|
      .cons (overlooks_ofOption SocialLink.overlooks.list rfl) <|
      .cons (overlooks_ofOption LastUpdated.overlooks rfl) .nil } 4

/-- **The draft of a value does not hang on members that are not asked for.** -/
theorem Site.overlooks : Site.record.decoder.Overlooks Site.form :=
  OverlooksFields.decoder {
    toOrderly := record_orderly
    overlooks := .cons (overlooks_ofOption overlooks_text rfl) <|
      .cons (overlooks_ofOption overlooks_text rfl) <|
      .cons (overlooks_ofOption overlooks_text rfl) <|
      .cons (overlooks_ofOption Theme.overlooks rfl) .nil } 4

end Draft

/-! ## Sites -/

/-- A single member that is not asked for makes no difference. -/
theorem Loading.ofJson_of_drops {v w : Json} (h : Draft.Site.form.Drops v w) :
    ofJson v = ofJson w := by
  have hdraft : Draft.Site.ofJson v = Draft.Site.ofJson w := Draft.Site.overlooks h
  unfold ofJson
  rw [hdraft]

/-- **What is not asked for makes no difference.** Members with unknown keys, and members that are `null`
where this means nothing, may be dropped and put back one after the other, in any records of a value:
the same is loaded from it, with the same events, or it is refused with the same report. -/
theorem unasked_overlooked {v w : Json} (h : Relation.EqvGen Draft.Site.form.Drops v w) :
    Loading.ofJson v = Loading.ofJson w := by
  induction h with
  | rel v w h => exact Loading.ofJson_of_drops h
  | refl v => rfl
  | symm v w _ ih => exact ih.symm
  | trans u v w _ _ ihu ihv => exact ihu.trans ihv

/-- An unknown key in an entry and a description that is `null`, in a value that is loaded; and a value that
is refused for its title, first with a theme that is `null`, then with an unknown key. -/
theorem unasked_overlooked_values :
    let entry : List (String × Json) := [("text", .string "Home"), ("link", .string "/")]
    let theme (e : List (String × Json)) : Json := .object [("nav", .array [.object e])]
    let v : Json := .object [("title", .string "Docs"), ("description", .null), ("basePath", .string "/"),
      ("theme", theme (("icon", .bool true) :: entry))]
    let w : Json := .object [("title", .string "Docs"), ("basePath", .string "/"), ("theme", theme entry)]
    let v' : Json := .object [("title", .bool true), ("theme", .null)]
    let w' : Json := .object [("a", .null), ("title", .bool true)]
    (Loading.ofJson v).result = .ok ⟨"Docs", "", "/", ⟨[⟨"Home", "/"⟩], [], [], none⟩⟩
      ∧ Loading.ofJson v = Loading.ofJson w
      ∧ (Loading.ofJson v').result = .error (.malformed (.kind (.bool true) .text))
      ∧ Loading.ofJson v' = Loading.ofJson w' := by
  intro entry theme v w v' w'
  refine ⟨rfl, unasked_overlooked ?_, rfl, unasked_overlooked ?_⟩
  · have hentry : Draft.Entry.form.Drops (.object (("icon", .bool true) :: entry)) (.object entry) :=
      @Shape.Form.Drops.unknown _ _ [] entry "icon" _ (by decide)
    have hnav : Draft.Theme.form.Drops (theme (("icon", .bool true) :: entry)) (theme entry) :=
      @Shape.Form.Drops.member _ _ [] [] "nav" _ _ _ List.mem_cons_self (by decide)
        (.something (@Shape.Form.Drops.item _ [] [] _ _ hentry))
    let before : List (String × Json) := [("title", .string "Docs"), ("basePath", .string "/")]
    have hdescription : Draft.Site.form.Drops v
        (.object (before ++ [("theme", theme (("icon", .bool true) :: entry))])) :=
      @Shape.Form.Drops.nothing _ _ [("title", .string "Docs")] _ "description" .text (by simp)
        (by decide)
    have htheme : Draft.Site.form.Drops
        (.object (before ++ [("theme", theme (("icon", .bool true) :: entry))])) w :=
      @Shape.Form.Drops.member _ _ before [] "theme" _ _ _ (by simp) (by decide) (.something hnav)
    exact .trans _ _ _ (.rel _ _ hdescription) (.rel _ _ htheme)
  · have hnull : Draft.Site.form.Drops v' (.object [("title", .bool true)]) :=
      @Shape.Form.Drops.nothing _ _ [("title", .bool true)] [] "theme" Draft.Theme.form (by simp)
        (by decide)
    have hunknown : Draft.Site.form.Drops w' (.object [("title", .bool true)]) :=
      @Shape.Form.Drops.unknown _ _ [] [("title", .bool true)] "a" .null (by decide)
    exact .trans _ _ _ (.rel _ _ hnull) (.symm _ _ (.rel _ _ hunknown))

end SiteManifest
