import SiteManifest.Proofs.Draft.Text
import SiteManifest.Proofs.Loading.Effective
import SiteManifest.Proofs.Shape.OrderFree

/-!
# Directly from a text, or by way of its value

A site is had from a JSON text in two ways: the draft is read directly, member by member as they are
written, or it is read from the value of the text, field by field in the order of the keys. If no object
repeats a key, then both ways have the same draft, or both fail, though not with the same report.

As the second way looks the fields up, it does not matter in which order the keys are written; so it
does not matter to the first way either, unless there is no draft.
-/

namespace SiteManifest

/-! ## Drafts -/

namespace Draft

open Shape Record

theorem Entry.orderFree : Entry.record.decoder.OrderFree :=
  orderFree_decoder (by simp [record, Decoder.orderFree_text, Decoder.orderFree_flag])

theorem Group.orderFree : Group.record.decoder.OrderFree :=
  orderFree_decoder (by
    simp [record, Decoder.orderFree_text, Decoder.orderFree_flag, Entry.orderFree.list])

theorem SocialLink.orderFree : SocialLink.record.decoder.OrderFree :=
  orderFree_decoder (by simp [record, Decoder.orderFree_text, Decoder.orderFree_flag])

theorem LabelFormat.orderFree : LabelFormat.record.decoder.OrderFree :=
  orderFree_decoder (by simp [record, Decoder.orderFree_oneOf])

theorem LastUpdated.orderFree : LastUpdated.record.decoder.OrderFree :=
  orderFree_decoder (by simp [record, Decoder.orderFree_text, LabelFormat.orderFree])

theorem Theme.orderFree : Theme.record.decoder.OrderFree :=
  orderFree_decoder (by
    simp [record, Entry.orderFree.list, Group.orderFree.list, SocialLink.orderFree.list,
      LastUpdated.orderFree])

/-- The draft of a value does not hang on the order of its keys. -/
theorem Site.orderFree : Site.record.decoder.OrderFree :=
  orderFree_decoder (by simp [record, Decoder.orderFree_text, Theme.orderFree])

/-- **Both ways have the same draft, or none.** -/
theorem Site.ofText_agrees {text : String} {v : Json} (h : Json.ofText text = .ok v)
    (hk : v.KeysDistinct) :
    (∃ d, Site.ofText text = .ok d ∧ Site.ofJson v = .ok d)
      ∨ ∃ fault m, Site.ofText text = .error fault ∧ Site.ofJson v = .error m := by
  obtain ⟨rest, hspells, hend⟩ := Json.exists_spells_of_ofText h
  cases hjson : Site.ofJson v with
  | ok d => exact Or.inl ⟨d, Site.ofText_eq_ok hspells hend hk hjson, rfl⟩
  | error m =>
    have hread := Site.faithful hspells hk (Nat.lt_succ_self text.toList.length)
    have hmismatch : Site.record.decoder.ofJson v = .error m := hjson
    rw [hmismatch] at hread
    obtain ⟨fault, hfault⟩ := hread.exists_error
    exact Or.inr ⟨fault, m, Except.bind_eq_error.mpr (Or.inl hfault), rfl⟩

end Draft

/-! ## Sites -/

namespace Loading

theorem ofJson_of_reordered {v w : Json} (h : v.Reordered w) (hk : v.KeysDistinct) :
    ofJson w = ofJson v := by
  have hdraft : Draft.Site.ofJson v = Draft.Site.ofJson w := Draft.Site.orderFree h hk
  unfold ofJson
  rw [hdraft]

theorem ofJsonText_of_fault {text : String} {fault : Json.Fault}
    (h : Draft.Site.ofText text = .error fault) :
    (ofJsonText text).result = .error (.badJson (fault.report text)) := by
  unfold ofJsonText
  rw [h]
  rfl

theorem ofJsonText_eq_ofJson {text : String} {v : Json} {d : Draft.Site}
    (h : Draft.Site.ofText text = .ok d) (hd : Draft.Site.ofJson v = .ok d) :
    ofJsonText text = ofJson v := by
  unfold ofJsonText ofJson
  rw [h, hd]

/-- Texts whose values differ in the order of keys only are loaded as the same, if not both are
refused for their shape. -/
theorem ofJsonText_of_reordered {text text' : String} {v v' : Json} (h : Json.ofText text = .ok v)
    (hk : v.KeysDistinct) (h' : Json.ofText text' = .ok v') (hreordered : v.Reordered v') :
    ((∃ report, (ofJsonText text).result = .error (.badJson report))
        ∧ ∃ report, (ofJsonText text').result = .error (.badJson report))
      ∨ ofJsonText text' = ofJsonText text := by
  have hdraft : Draft.Site.ofJson v = Draft.Site.ofJson v' := Draft.Site.orderFree hreordered hk
  rcases Draft.Site.ofText_agrees h' (hreordered.keysDistinct hk) with
    ⟨d', hd', hjson'⟩ | ⟨fault', m', hfault', hjson'⟩
  · rcases Draft.Site.ofText_agrees h hk with ⟨d, hd, hjson⟩ | ⟨fault, m, hfault, hjson⟩
    · refine Or.inr ?_
      rw [ofJsonText_eq_ofJson hd hjson, ofJsonText_eq_ofJson hd' hjson']
      exact ofJson_of_reordered hreordered hk
    · cases hjson.symm.trans (hdraft.trans hjson')
  · rcases Draft.Site.ofText_agrees h hk with ⟨d, hd, hjson⟩ | ⟨fault, m, hfault, hjson⟩
    · cases hjson.symm.trans (hdraft.trans hjson')
    · exact Or.inl ⟨⟨_, ofJsonText_of_fault hfault⟩, _, ofJsonText_of_fault hfault'⟩

end Loading

/-- **Both ways from a text have the same site or break the same rule**, if no key is repeated: they
have the same draft, or the text is refused by the one and its value by the other. In a text with its
keys in another order both ways find the same as before; only the report of the first one may change. -/
theorem direct_as_by_value {text : String} {v : Json} (h : Json.ofText text = .ok v)
    (hk : v.KeysDistinct) :
    ((∃ d, Draft.Site.ofText text = .ok d ∧ Draft.Site.ofJson v = .ok d
        ∧ Loading.ofJsonText text = Loading.ofDraft d ∧ Loading.ofJson v = Loading.ofDraft d)
      ∨ ∃ fault m, Draft.Site.ofText text = .error fault ∧ Draft.Site.ofJson v = .error m
        ∧ (Loading.ofJsonText text).result = .error (.badJson (fault.report text))
        ∧ (Loading.ofJson v).result = .error (.malformed m))
      ∧ ∀ text' v', Json.ofText text' = .ok v' → v.Reordered v' →
        Loading.ofJson v' = Loading.ofJson v
          ∧ (((∃ report, (Loading.ofJsonText text).result = .error (.badJson report))
              ∧ ∃ report, (Loading.ofJsonText text').result = .error (.badJson report))
            ∨ Loading.ofJsonText text' = Loading.ofJsonText text) := by
  refine ⟨?_, fun text' v' h' hreordered => ⟨Loading.ofJson_of_reordered hreordered hk,
    Loading.ofJsonText_of_reordered h hk h' hreordered⟩⟩
  rcases Draft.Site.ofText_agrees h hk with ⟨d, hd, hjson⟩ | ⟨fault, m, hfault, hjson⟩
  · refine Or.inl ⟨d, hd, hjson, ?_, ?_⟩
    · unfold Loading.ofJsonText
      rw [hd]
    · unfold Loading.ofJson
      rw [hjson]
  · exact Or.inr ⟨fault, m, hfault, hjson, Loading.ofJsonText_of_fault hfault,
      Loading.ofJson_of_mismatch hjson⟩

/-- A text whose keys are written in another order the second time, at both levels, and one with a list
for a title. -/
theorem direct_as_by_value_texts :
    let text := "\x7b\"title\": \"Docs\", \"basePath\": \"/\", \"x\": \x7b\"a\": null, \"b\": []\x7d\x7d"
    let text' := "\x7b\"x\": \x7b\"b\": [], \"a\": null\x7d,\n\"basePath\": \"/\",\n\"title\": \"Docs\"\x7d"
    let wrong := "\x7b\"title\": []\x7d"
    let s : Site := ⟨"Docs", "", "/", ⟨[], [], [], none⟩⟩
    (Loading.ofJsonText text).result = .ok s ∧ (Loading.ofJsonText text').result = .ok s
      ∧ ∃ report, (Loading.ofJsonText wrong).result = .error (.badJson report) := by
  intro text text' wrong s
  let inner : Json := .object [("a", .null), ("b", .array [])]
  let inner' : Json := .object [("b", .array []), ("a", .null)]
  let v : Json := .object [("title", .string "Docs"), ("basePath", .string "/"), ("x", inner)]
  let v' : Json := .object [("x", inner'), ("basePath", .string "/"), ("title", .string "Docs")]
  have hread : Json.ofText text = .ok v := by decide +kernel
  have hread' : Json.ofText text' = .ok v' := by decide +kernel
  have hwrong : Json.ofText wrong = .ok (.object [("title", .array [])]) := by decide +kernel
  have hinner : inner.KeysDistinct := .object (by decide) (by simpa using ⟨.null, .array (by simp)⟩)
  have hk : v.KeysDistinct := .object (by decide) (by simpa using ⟨.string, .string, hinner⟩)
  have hswap : inner.Reordered inner' := .of_perm hinner (.swap _ _ _)
  have hreordered : v.Reordered v' := .object (by decide) (by simpa using ⟨.string, .string, hswap⟩)
  have hjson : (Loading.ofJson v).result = .ok s := rfl
  have hno : ¬∃ m, (Loading.ofJson v).result = .error (.malformed m) := by
    rintro ⟨m, hm⟩
    cases hjson.symm.trans hm
  obtain ⟨⟨d, -, -, htext, hvalue⟩ | ⟨_, m, -, -, -, hm⟩, hother⟩ := direct_as_by_value hread hk
  · have hdirect : (Loading.ofJsonText text).result = .ok s :=
      (congrArg Traced.result (htext.trans hvalue.symm)).trans hjson
    obtain ⟨-, ⟨⟨report, hreport⟩, -⟩ | hsame⟩ := hother text' v' hread' hreordered
    · cases hdirect.symm.trans hreport
    refine ⟨hdirect, (congrArg Traced.result hsame).trans hdirect, ?_⟩
    have hk' : (Json.object [("title", .array [])]).KeysDistinct :=
      .object (by decide) (by simpa using .array (by simp))
    obtain ⟨⟨d, -, hd, -⟩ | ⟨fault, _, -, -, hfault, -⟩, -⟩ := direct_as_by_value hwrong hk'
    · cases hd
    · exact ⟨_, hfault⟩
  · exact absurd ⟨m, hm⟩ hno

end SiteManifest
