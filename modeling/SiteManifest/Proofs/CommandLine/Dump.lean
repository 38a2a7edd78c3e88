import SiteManifest.Proofs.CommandLine.Agreement

/-!
# Dumps

The output of a dump is the site that was loaded, as a printed value and a line end. It holds nothing
else, so it can be loaded again: as a file, a dump gives the same dump, unless one of the texts that are
expanded holds the start of a reference.
-/

namespace SiteManifest

open Arguments (Asks)

variable {w : Surroundings} {clock : Clock} {args : List String} {layout : Json.Layout}
  {path : Option FilePath} {verbose : Bool}

/-- A dump that ends without a failure has loaded a site. -/
theorem exists_loaded_of_code
    (h : Request.ofArguments? w.environment args = some (.run (.dump layout) path verbose))
    (hcode : (runLine w clock args).code = 0) :
    ∃ p s, (w.loadOrDiscover path).result = .ok (p, s) := by
  rw [runLine_of_request h] at hcode
  cases hresult : (w.loadOrDiscover path).result with
  | ok found => exact ⟨found.1, found.2, rfl⟩
  | error e =>
    rw [Command.run_of_error hresult] at hcode
    cases hcode

/-- The output of a dump is decided by the site that is loaded. -/
theorem dump_of_loaded {p : FilePath} {s : Site}
    (h : Request.ofArguments? w.environment args = some (.run (.dump layout) path verbose))
    (hresult : (w.loadOrDiscover path).result = .ok (p, s)) :
    (runLine w clock args).code = 0
      ∧ (runLine w clock args).output = s.toJson.print layout ++ "\n" := by
  rw [runLine_of_request h, Command.dump_of_ok hresult]
  exact ⟨rfl, rfl⟩

/-- **A dump is the site that was loaded, and can be dumped again.** The output of a dump that ends
without a failure is the site and a line end. It is the same in all runs that load this site, whatever
is shown beside it, and the site is loaded again as long as the variables that the file refers to keep
their values. If the title, the description and the base path hold no start of a reference, then the
output can be written to a file, and a dump of this file in the same layout is the same, in all
surroundings. -/
theorem dump_of_dump
    (h : Request.ofArguments? w.environment args = some (.run (.dump layout) path verbose))
    (hcode : (runLine w clock args).code = 0) :
    ∃ p s, path.or w.discover = some p ∧ (w.load p).result = .ok s
      ∧ (runLine w clock args).output = s.toJson.print layout ++ "\n"
      ∧ (∀ (w' : Surroundings) clock' args' path' p' verbose',
        Request.ofArguments? w'.environment args' = some (.run (.dump layout) path' verbose') →
        (w'.loadOrDiscover path').result = .ok (p', s) →
        (runLine w' clock' args').code = 0
          ∧ (runLine w' clock' args').output = (runLine w clock args).output)
      ∧ (∀ env clock' args' verbose',
        (∀ name, w.Refers p name → env.get? name = w.environment.get? name) →
        Request.ofArguments? env args' = some (.run (.dump layout) path verbose') →
        (runLine { w with environment := env } clock' args').code = 0
          ∧ (runLine { w with environment := env } clock' args').output
            = (runLine w clock args).output)
      ∧ (¬['$', '\x7b'] <:+: s.title.toList → ¬['$', '\x7b'] <:+: s.description.toList →
        ¬['$', '\x7b'] <:+: s.basePath.toList →
        ∀ (w' : Surroundings) clock' args' verbose' q, q.HasEnding "json" →
          w'.files.open? w'.working q = some (.file (runLine w clock args).output.toUTF8) →
          Asks args' (.dump layout) (some q) verbose' →
          (runLine w' clock' args').code = 0
            ∧ (runLine w' clock' args').output = (runLine w clock args).output) := by
  obtain ⟨p, s, hresult⟩ := exists_loaded_of_code h hcode
  obtain ⟨hpath, hload⟩ := Surroundings.loadOrDiscover_eq_ok.mp hresult
  have hdump : _ ∧ (runLine w clock args).output = _ := dump_of_loaded h hresult
  rw [hdump.2]
  refine ⟨p, s, hpath, hload, rfl, ?_, ?_, ?_⟩
  · intro w' clock' args' path' p' verbose' hrequest hresult'
    exact dump_of_loaded hrequest hresult'
  · intro env clock' args' verbose' henv hrequest
    have hsame : Surroundings.load { w with environment := env } p = w.load p :=
      Surroundings.load_eq_of_refers rfl henv
    have hload' := (congrArg Traced.result hsame).trans hload
    exact dump_of_loaded hrequest (Surroundings.loadOrDiscover_eq_ok.mpr ⟨hpath, hload'⟩)
  · intro htitle hdescription hbase w' clock' args' verbose' q hending hopen hasks
    obtain ⟨-, -, hvalid⟩ := (Site.Loaded.ofFile hload).exists_draft
    have hagain : (w'.load q).result = .ok s :=
      Surroundings.load_of_printed (.line layout false clock.now p) htitle hdescription hbase hending
        hopen hvalid
    exact dump_of_loaded (hasks.ofArguments?_eq nofun)
      (Surroundings.loadOrDiscover_eq_ok.mpr ⟨rfl, hagain⟩)

/-- A site with quotes and dollars in a file that a variable names. It is dumped once more with more
talk and with colours, and from a file with its dump in another tree. -/
theorem dump_of_dump_file :
    let s : Site := ⟨"\"$5\" $$", "", "/", ⟨[⟨"Home", "/"⟩], [], [], none⟩⟩
    let output := s.toJson.print .spread ++ "\n"
    let w : Surroundings := ⟨.directory [("docs.json", .file (s.toJson.print .compact).toUTF8)], [],
      ⟨[("DOCSITE_CONFIG", "docs.json")]⟩⟩
    let coloured : Environment := ⟨[("DOCSITE_CONFIG", "docs.json"), ("CLICOLOR_FORCE", "1")]⟩
    let w' : Surroundings :=
      ⟨.directory [("a", .directory [("site.json", .file output.toUTF8)])], ["a"], .empty⟩
    let clock : Clock := ⟨⟨0, 0⟩, ""⟩
    (runLine w clock ["dump"]).output = output
      ∧ (runLine { w with environment := coloured } clock ["-v", "dump"]).output = output
      ∧ (runLine w' clock ["dump", "--config=site.json"]).output = output := by
  intro s output w coloured w' clock
  have hplain : ∀ text ∈ [s.title, s.description, s.basePath], ¬['$', '\x7b'] <:+: text.toList := by
    simp only [← Expansion.mentions_iff]
    decide
  obtain ⟨htitle, hplain⟩ := List.forall_mem_cons.mp hplain
  obtain ⟨hdescription, hplain⟩ := List.forall_mem_cons.mp hplain
  have hbase := List.forall_mem_singleton.mp hplain
  have hending : (⟨"docs.json"⟩ : FilePath).HasEnding "json" := ⟨"docs", by decide, by decide⟩
  have hload : (w.load ⟨"docs.json"⟩).result = .ok s :=
    Surroundings.load_of_printed (.bare .compact) htitle hdescription hbase hending rfl (by decide)
  have hrequest : Request.ofArguments? w.environment ["dump"]
      = some (.run (.dump .spread) (some ⟨"docs.json"⟩) false) := by decide
  have hcode : (runLine w clock ["dump"]).code = 0 :=
    (dump_of_loaded hrequest (Surroundings.loadOrDiscover_eq_ok.mpr ⟨rfl, hload⟩)).1
  obtain ⟨p, t, hpath, hsite, houtput, -, hshown, hagain⟩ := dump_of_dump hrequest hcode
  cases hpath
  cases hload.symm.trans hsite
  refine ⟨houtput, ?_, ?_⟩
  · refine (hshown coloured clock _ true (fun name hname => ?_) (by decide)).2.trans houtput
    exact absurd hname (Surroundings.not_refers_of_printed (.bare .compact) htitle hdescription hbase
      hending rfl name)
  · have hopen : w'.files.open? w'.working ⟨"site.json"⟩
        = some (.file (runLine w clock ["dump"]).output.toUTF8) := by
      rw [houtput]
      rfl
    have hasks : Asks ["dump", "--config=site.json"] (.dump .spread) (some ⟨"site.json"⟩) false :=
      @Asks.of_writesPath "dump" .dump _ ⟨"site.json"⟩ (by decide) rfl (by decide) .equals
    exact (hagain htitle hdescription hbase w' clock _ false ⟨"site.json"⟩
      ⟨"site", by decide, by decide⟩ hopen hasks).2.trans houtput

end SiteManifest
