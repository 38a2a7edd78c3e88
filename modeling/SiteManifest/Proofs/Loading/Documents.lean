import Mathlib.Data.Option.Basic
import SiteManifest.Proofs.Loading.Loaded
import SiteManifest.Proofs.Yaml.Stream

/-!
# Texts with several documents

A YAML text may hold any number of documents. All of them have to be read before one is chosen, so one
that has no value spoils the text wherever it stands. Of the others the last one that is not `null` is
loaded as if it stood alone: the documents before it are neither validated nor expanded, and leave no
trace but the notice of how many definitions there are.
-/

namespace SiteManifest

/-! ## The definitions of a text -/

namespace Yaml

/-- The documents that are not `null`. One that has no value is kept. -/
def defining (os : List (Option Json)) : List (Option Json) := os.filter fun o => !o.any Json.isNull

theorem none_mem_defining {os : List (Option Json)} : none ∈ defining os ↔ none ∈ os := by
  simp [defining]

theorem defining_eq_nil_iff {os : List (Option Json)} :
    defining os = [] ↔ ∀ o ∈ os, o = some .null := by
  unfold defining
  rw [List.filter_eq_nil_iff]
  refine forall₂_congr fun o _ => ?_
  cases o with
  | none => simp
  | some v => simp [Json.isNull_iff]

/-- A document has no value, or a last one that is not `null` counts, or all are `null`. -/
theorem defining_cases (os : List (Option Json)) :
    none ∈ os ∨ (none ∉ os ∧ ∃ v, (defining os).getLast? = some (some v))
      ∨ ∀ o ∈ os, o = some .null := by
  by_cases hnone : none ∈ os
  · exact Or.inl hnone
  right
  cases hlast : (defining os).getLast? with
  | none => exact Or.inr (defining_eq_nil_iff.mp (List.getLast?_eq_none_iff.mp hlast))
  | some o =>
    cases o with
    | none => exact absurd (none_mem_defining.mp (List.mem_of_getLast? hlast)) hnone
    | some v => exact Or.inl ⟨hnone, v, rfl⟩

/-- If all documents have values, these are the definitions, less those that are `null`. -/
theorem map_some_filter {os : List (Option Json)} (h : none ∉ os) :
    ((os.filterMap id).filter fun v => !v.isNull).map some = defining os := by
  induction os with
  | nil => rfl
  | cons o os ih =>
    have ih := ih (List.not_mem_of_not_mem_cons h)
    cases o with
    | none => exact absurd List.mem_cons_self h
    | some v =>
      unfold defining at ih ⊢
      cases hv : v.isNull with
      | false => simpa [hv] using ih
      | true => simpa [hv] using ih

end Yaml

namespace Format

variable {text : String}

theorem definitions_yaml_of_mem (h : none ∈ Yaml.outcomes text) :
    definitions .yaml text = .error .badYaml := by
  unfold definitions
  dsimp only
  rw [Yaml.ofText?_of_none_mem h]

theorem exists_definitions_yaml (h : none ∉ Yaml.outcomes text) :
    ∃ vs, definitions .yaml text = .ok vs ∧ vs.map some = Yaml.defining (Yaml.outcomes text) := by
  refine ⟨_, ?_, Yaml.map_some_filter h⟩
  unfold definitions
  dsimp only
  rw [Yaml.ofText?_of_none_not_mem h]

/-- What is `null` adds nothing to the definitions of a text. -/
theorem definitions_yaml_congr {other : String}
    (h : Yaml.defining (Yaml.outcomes other) = Yaml.defining (Yaml.outcomes text)) :
    definitions .yaml other = definitions .yaml text := by
  have hmem : none ∈ Yaml.outcomes other ↔ none ∈ Yaml.outcomes text := by
    rw [← Yaml.none_mem_defining, h, Yaml.none_mem_defining]
  by_cases hnone : none ∈ Yaml.outcomes text
  · rw [definitions_yaml_of_mem hnone, definitions_yaml_of_mem (hmem.mpr hnone)]
  · obtain ⟨vs, hread, hvs⟩ := exists_definitions_yaml hnone
    obtain ⟨us, hother, hus⟩ := exists_definitions_yaml (mt hmem.mp hnone)
    have huv : us = vs :=
      List.map_injective_iff.mpr (Option.some_injective _) (hus.trans (h.trans hvs.symm))
    rw [hread, hother, huv]

end Format

/-! ## The definition that counts -/

namespace Loading

variable {env : Environment} {format : Format} {text : String} {vs : List Json} {v : Json}

/-- Of all definitions of a text only the last one is looked at. -/
theorem ofText_of_last (hread : format.definitions text = .ok vs) (hlast : vs.getLast? = some v) :
    ofText env format text
      = ⟨notice vs.length ++ (ofDefinition env v).events, (ofDefinition env v).result⟩ := by
  unfold ofText
  rw [hread]
  show Traced.andThen (effective vs) (ofDefinition env) = _
  rw [effective_eq, hlast]
  rfl

/-- A text with a single definition is loaded as this is. -/
theorem ofText_of_single (hread : format.definitions text = .ok [v]) :
    ofText env format text = ofDefinition env v :=
  ofText_of_last hread rfl

theorem ofText_of_badYaml (h : none ∈ Yaml.outcomes text) :
    (ofText env .yaml text).result = .error .badYaml := by
  unfold ofText
  rw [Format.definitions_yaml_of_mem h]
  rfl

theorem ofText_of_nulls (h : ∀ o ∈ Yaml.outcomes text, o = some .null) :
    (ofText env .yaml text).result = .error .noDefinition := by
  have hnone : none ∉ Yaml.outcomes text := fun hmem => nomatch h _ hmem
  obtain ⟨vs, hread, hvs⟩ := Format.exists_definitions_yaml hnone
  rw [Yaml.defining_eq_nil_iff.mpr h, List.map_eq_nil_iff] at hvs
  unfold ofText
  rw [hread, hvs]
  rfl

theorem ofText_of_defining (h : none ∉ Yaml.outcomes text)
    (hlast : (Yaml.defining (Yaml.outcomes text)).getLast? = some (some v)) :
    ofText env .yaml text
      = ⟨notice (Yaml.defining (Yaml.outcomes text)).length ++ (ofDefinition env v).events,
          (ofDefinition env v).result⟩ := by
  obtain ⟨vs, hread, hvs⟩ := Format.exists_definitions_yaml h
  rw [← hvs, List.getLast?_map] at hlast
  obtain ⟨u, hu, huv⟩ := Option.map_eq_some_iff.mp hlast
  cases huv
  rw [← hvs, List.length_map]
  exact ofText_of_last hread hu

end Loading

/-- **The last document that is not `null` counts**, and all documents have to be read. -/
theorem last_document_counts (env : Environment) (text : String) :
    (∀ os, Yaml.Stream true (Yaml.tokens text) os ↔ os = Yaml.outcomes text)
      ∧ (none ∈ Yaml.outcomes text → (Loading.ofText env .yaml text).result = .error .badYaml)
      ∧ (∀ v, none ∉ Yaml.outcomes text →
          (Yaml.defining (Yaml.outcomes text)).getLast? = some (some v) →
          Loading.ofText env .yaml text
              = ⟨Loading.notice (Yaml.defining (Yaml.outcomes text)).length
                  ++ (Loading.ofDefinition env v).events, (Loading.ofDefinition env v).result⟩
            ∧ ∀ (format : Format) (alone : String), format.definitions alone = .ok [v] →
              Loading.ofText env format alone = Loading.ofDefinition env v)
      ∧ ((∀ o ∈ Yaml.outcomes text, o = some .null) →
          (Loading.ofText env .yaml text).result = .error .noDefinition)
      ∧ (none ∈ Yaml.outcomes text
          ∨ (none ∉ Yaml.outcomes text
            ∧ ∃ v, (Yaml.defining (Yaml.outcomes text)).getLast? = some (some v))
          ∨ ∀ o ∈ Yaml.outcomes text, o = some .null)
      ∧ ∀ other, Yaml.defining (Yaml.outcomes other) = Yaml.defining (Yaml.outcomes text) →
          Loading.ofText env .yaml other = Loading.ofText env .yaml text := by
  refine ⟨fun os => Yaml.stream_iff, Loading.ofText_of_badYaml, ?_, Loading.ofText_of_nulls,
    Yaml.defining_cases _, ?_⟩
  · intro v hnone hlast
    exact ⟨Loading.ofText_of_defining hnone hlast, fun _ _ => Loading.ofText_of_single⟩
  · intro other hsame
    unfold Loading.ofText
    rw [Format.definitions_yaml_congr hsame]

/-- A definition behind a document of another shape and before an empty one; a document that is not
well-formed behind one that is; empty documents only; and the first text without its last document. -/
theorem last_document_counts_texts :
    Loading.ofText .empty .yaml "--- true\n---\ntitle: T\nbasePath: /\n---\n"
        = ⟨[.severalDefinitions 2], .ok ⟨"T", "", "/", ⟨[], [], [], none⟩⟩⟩
      ∧ (Loading.ofText .empty .yaml "--- true\n--- ]").result = .error .badYaml
      ∧ (Loading.ofText .empty .yaml "---\n---").result = .error .noDefinition
      ∧ Loading.ofText .empty .yaml "--- true\n---\ntitle: T\nbasePath: /"
        = Loading.ofText .empty .yaml "--- true\n---\ntitle: T\nbasePath: /\n---\n" := by
  obtain ⟨htext, hshort, hbad, hnulls⟩ :
      Yaml.outcomes "--- true\n---\ntitle: T\nbasePath: /\n---\n"
          = [some (.bool true), some (.object [("title", .string "T"), ("basePath", .string "/")]),
            some .null]
        ∧ Yaml.outcomes "--- true\n---\ntitle: T\nbasePath: /"
          = [some (.bool true), some (.object [("title", .string "T"), ("basePath", .string "/")])]
        ∧ Yaml.outcomes "--- true\n--- ]" = [some (.bool true), none]
        ∧ Yaml.outcomes "---\n---" = [some .null, some .null] :=
    ⟨by decide +kernel, by decide +kernel, by decide +kernel, by decide +kernel⟩
  refine ⟨?_, ?_, ?_, ?_⟩
  · have hlast := (last_document_counts .empty "--- true\n---\ntitle: T\nbasePath: /\n---\n").2.2.1
      (.object [("title", .string "T"), ("basePath", .string "/")]) (by rw [htext]; simp)
      (by rw [htext]; rfl)
    rw [hlast.1, htext]
    rfl
  · exact (last_document_counts .empty "--- true\n--- ]").2.1 (by rw [hbad]; simp)
  · exact (last_document_counts .empty "---\n---").2.2.2.1 (by rw [hnulls]; simp)
  · exact (last_document_counts .empty "--- true\n---\ntitle: T\nbasePath: /\n---\n").2.2.2.2.2
      "--- true\n---\ntitle: T\nbasePath: /" (by rw [hshort, htext]; rfl)

end SiteManifest
