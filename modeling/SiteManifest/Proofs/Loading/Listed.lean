import Mathlib.Logic.Relation
import SiteManifest.Loading
import SiteManifest.Proofs.Draft.Form
import SiteManifest.Proofs.Draft.Text
import SiteManifest.Proofs.Loading.Effective
import SiteManifest.Proofs.Shape.Listed

/-!
# Configurations with records as lists

Every record of a configuration may be written as the list of its values. The main statement is that this
makes no difference, whichever records are chosen: the same site is loaded, or the same violation is
reported at the same place, as long as the configuration has the right shape. If it does not, then neither
way to write it has.
-/

namespace SiteManifest

/-! ## Drafts -/

namespace Draft

open Shape Decoder Field Record

theorem Entry.readsLists : Entry.record.decoder.ReadsLists Entry.form :=
  ReadsListsFields.decoder {
    toOrderly := record_orderly
    reads := .cons (readsLists_ofOption readsLists_text rfl) <|
      .cons (readsLists_ofOption readsLists_text rfl) <| .cons (readsLists_flag rfl) .nil
    omittable := List.forall_mem_singleton.mpr rfl }

theorem Group.readsLists : Group.record.decoder.ReadsLists Group.form :=
  ReadsListsFields.decoder {
    toOrderly := record_orderly
    reads := .cons (readsLists_ofOption readsLists_text rfl) <|
      .cons (readsLists_ofOption Entry.readsLists.list rfl) <|
      .cons (readsLists_ofOption Decoder.readsLists_flag rfl) <| .cons (readsLists_flag rfl) .nil
    omittable := List.forall_mem_singleton.mpr rfl }

theorem SocialLink.readsLists : SocialLink.record.decoder.ReadsLists SocialLink.form :=
  ReadsListsFields.decoder {
    toOrderly := record_orderly
    reads := .cons (readsLists_ofOption readsLists_text rfl) <|
      .cons (readsLists_ofOption readsLists_text rfl) <| .cons (readsLists_flag rfl) .nil
    omittable := List.forall_mem_singleton.mpr rfl }

theorem LabelFormat.readsLists : LabelFormat.record.decoder.ReadsLists LabelFormat.form :=
  ReadsListsFields.decoder {
    toOrderly := record_orderly
    reads := .cons (readsLists_ofOption (readsLists_oneOf _ _) rfl) <|
      .cons (readsLists_ofOption (readsLists_oneOf _ _) rfl) .nil
    omittable := nofun }

theorem LastUpdated.readsLists : LastUpdated.record.decoder.ReadsLists LastUpdated.form :=
  ReadsListsFields.decoder {
    toOrderly := record_orderly
    reads := .cons (readsLists_ofOption readsLists_text rfl) <|
      .cons (readsLists_ofOption LabelFormat.readsLists rfl) .nil
    omittable := nofun }

theorem Theme.readsLists : Theme.record.decoder.ReadsLists Theme.form :=
  ReadsListsFields.decoder {
    toOrderly := record_orderly
    reads := .cons (readsLists_ofOption Entry.readsLists.list rfl) <|
      .cons (readsLists_ofOption Group.readsLists.list rfl) <|
      .cons (readsLists_ofOption SocialLink.readsLists.list rfl) <|
      .cons (readsLists_ofOption LastUpdated.readsLists rfl) .nil
    omittable := nofun }

/-- **The same draft is read from a value with an object written as a list.** -/
theorem Site.readsLists : Site.record.decoder.ReadsLists Site.form :=
  ReadsListsFields.decoder {
    toOrderly := record_orderly
    reads := .cons (readsLists_ofOption readsLists_text rfl) <|
      .cons (readsLists_ofOption readsLists_text rfl) <|
      .cons (readsLists_ofOption readsLists_text rfl) <|
      .cons (readsLists_ofOption Theme.readsLists rfl) .nil
    omittable := nofun }

/-- Any number of objects may be written as lists, one after the other, or be written as objects again. -/
theorem Site.ofJson_eq_ok_of_lists {v w : Json} (h : Relation.EqvGen form.Lists v w) (d : Site) :
    Site.ofJson v = .ok d ↔ Site.ofJson w = .ok d := by
  induction h with
  | rel v w h => exact Site.readsLists h d
  | refl v => rfl
  | symm v w _ ih => exact ih.symm
  | trans u v w _ _ ihu ihv => exact ihu.trans ihv

end Draft

/-! ## Sites -/

/-- **It makes no difference which records are written as lists.** Objects may be written as lists one
after the other, in any records of a value: neither value has the right shape, or the same is loaded from
both, with the same events, or both are refused for the same violation. -/
theorem listed_as_object {v w : Json} (h : Relation.EqvGen Draft.Site.form.Lists v w) :
    ((∃ m, (Loading.ofJson v).result = .error (.malformed m))
        ∧ ∃ m, (Loading.ofJson w).result = .error (.malformed m))
      ∨ Loading.ofJson v = Loading.ofJson w := by
  have hdraft := Draft.Site.ofJson_eq_ok_of_lists h
  cases hv : Draft.Site.ofJson v with
  | ok d =>
    have hw : Draft.Site.ofJson w = .ok d := (hdraft d).mp hv
    refine Or.inr ?_
    unfold Loading.ofJson
    rw [hv, hw]
  | error m =>
    cases hw : Draft.Site.ofJson w with
    | ok d =>
      rw [(hdraft d).mpr hw] at hv
      cases hv
    | error m' =>
      exact Or.inl ⟨⟨m, Loading.ofJson_of_mismatch hv⟩, m', Loading.ofJson_of_mismatch hw⟩

/-- A site with its theme and an entry of the navigation as lists, of which the last one leaves out whether
it is enabled; a blank title in front of a theme that is given as a list; and two texts of a wrong kind, of
which the object reports the second one and the list the first. -/
theorem listed_as_object_values :
    let entry : Json := .object [("text", .string "Home"), ("icon", .null), ("link", .string "/")]
    let theme : Json := .object [("nav", .array [entry])]
    let v : Json := .object [("title", .string "Docs"), ("basePath", .string "/"), ("theme", theme)]
    let w : Json := .array [.string "Docs", .null, .string "/",
      .array [.array [.array [.string "Home", .string "/"]], .null, .null, .null]]
    let v' : Json := .object [("title", .string " "), ("theme", theme)]
    let w' : Json := .object [("title", .string " "),
      ("theme", .array [.array [entry], .null, .null, .null])]
    let v'' : Json := .object [("title", .bool true), ("basePath", .bool false)]
    let w'' : Json := .array [.bool true, .null, .bool false, .null]
    ((Loading.ofJson v).result = .ok ⟨"Docs", "", "/", ⟨[⟨"Home", "/"⟩], [], [], none⟩⟩
        ∧ Loading.ofJson v = Loading.ofJson w)
      ∧ ((Loading.ofJson v').result = .error (.invalid (.emptyText (.top "title")))
        ∧ Loading.ofJson v' = Loading.ofJson w')
      ∧ (Loading.ofJson v'').result = .error (.malformed (.kind (.bool false) .text))
      ∧ ∃ m, (Loading.ofJson w'').result = .error (.malformed m) := by
  intro entry theme v w v' w' v'' w''
  have hentry : Draft.Entry.form.Lists entry (.array [.string "Home", .string "/"]) :=
    @Shape.Form.Lists.record _ 2 2 _ (by decide) (by decide)
  have htheme : Draft.Theme.form.Lists theme (.array [.array [entry], .null, .null, .null]) :=
    @Shape.Form.Lists.record _ 4 4 _ (by decide) (by decide)
  refine ⟨⟨rfl, ?_⟩, ⟨rfl, ?_⟩, rfl, ?_⟩
  · have hsite : Draft.Site.form.Lists v (.array [.string "Docs", .null, .string "/", theme]) :=
      @Shape.Form.Lists.record _ 4 4 _ (by decide) (by decide)
    have hinner : Draft.Theme.form.Lists (.array [.array [entry], .null, .null, .null])
        (.array [.array [.array [.string "Home", .string "/"]], .null, .null, .null]) :=
      @Shape.Form.Lists.field _ _ [] _ _ _ _ _ rfl
        (.something (@Shape.Form.Lists.item _ [] [] _ _ hentry))
    have houter {t t' : Json} (h : Draft.Theme.form.Lists t t') :
        Draft.Site.form.Lists (.array [.string "Docs", .null, .string "/", t])
          (.array [.string "Docs", .null, .string "/", t']) :=
      @Shape.Form.Lists.field _ _ [.string "Docs", .null, .string "/"] [] _ _ _ _ rfl (.something h)
    rcases listed_as_object (.trans _ _ _ (.rel _ _ hsite) (.trans _ _ _ (.rel _ _ (houter htheme))
      (.rel _ _ (houter hinner)))) with ⟨⟨m, hm⟩, -⟩ | hsame
    · cases hm
    · exact hsame
  · have hsite : Draft.Site.form.Lists v' w' :=
      @Shape.Form.Lists.member _ _ [("title", .string " ")] [] "theme" _ _ _ (by simp) (by decide)
        (.something htheme)
    rcases listed_as_object (.rel _ _ hsite) with ⟨⟨m, hm⟩, -⟩ | hsame
    · cases hm
    · exact hsame
  · have hsite : Draft.Site.form.Lists v'' w'' :=
      @Shape.Form.Lists.record _ 4 4 _ (by decide) (by decide)
    rcases listed_as_object (.rel _ _ hsite) with ⟨-, hm⟩ | hsame
    · exact hm
    · exact ⟨_, (congrArg Traced.result hsame).symm⟩

end SiteManifest
