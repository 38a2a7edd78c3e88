import SiteManifest.CommandLine.Run
import SiteManifest.Proofs.CommandLine.Arguments
import SiteManifest.Proofs.Loading.PrintedFile
import SiteManifest.Proofs.Loading.Referred

/-!
# Runs of the commands

Every command starts with the same step: the file that is named is loaded, or else the one that is
found. If this fails, then all commands end in the same way. If it succeeds, then none of them fails, and
they differ only in what they write about the site.
-/

namespace SiteManifest

open Arguments (Asks configVariable)

/-! ## The file that counts -/

namespace Surroundings

variable {w : Surroundings} {path : Option FilePath} {p : FilePath}

/-- The file that is named is loaded, or else the one that is found. -/
theorem loadOrDiscover_of_or (h : path.or w.discover = some p) :
    (w.loadOrDiscover path).result = (w.load p).result.map (p, ·) := by
  cases path with
  | none => exact loadOrDiscover_of_discover h
  | some q =>
    cases h
    rw [loadOrDiscover_some, map_eq_pure_bind, Traced.result_bind]
    cases (w.load p).result <;> rfl

end Surroundings

/-! ## Runs -/

section

variable {w w' : Surroundings} {clock : Clock} {args : List String} {command : Command}
  {path : Option FilePath} {verbose : Bool}

theorem runLine_of_request
    (h : Request.ofArguments? w.environment args = some (.run command path verbose)) :
    runLine w clock args = command.run w clock path verbose := by
  unfold runLine
  rw [h]

/-- A check of a site that is loaded writes its report. -/
theorem Command.check_of_ok {p : FilePath} {s : Site}
    (h : (w.loadOrDiscover path).result = .ok (p, s)) :
    Command.check.run w clock path verbose
      = ⟨0, "", unlines (logLines w.environment verbose clock.stamp (w.loadOrDiscover path).events
        ++ Report.lines (colouredReports w.environment) clock.now p s)⟩ := by
  unfold run
  dsimp only
  rw [h]
  rfl

/-- A dump of a site that is loaded writes the site, and nothing else but what is told on the way. -/
theorem Command.dump_of_ok {p : FilePath} {s : Site} {layout : Json.Layout}
    (h : (w.loadOrDiscover path).result = .ok (p, s)) :
    (Command.dump layout).run w clock path verbose
      = ⟨0, s.toJson.print layout ++ "\n",
        unlines (logLines w.environment verbose clock.stamp (w.loadOrDiscover path).events)⟩ := by
  unfold run
  dsimp only
  rw [h]
  simp only [write, List.append_nil]

/-- A failure is all that is written, whatever was asked for. -/
theorem Command.run_of_error {e : LoadError} (h : (w.loadOrDiscover path).result = .error e) :
    command.run w clock path verbose
      = ⟨1, "", unlines (logLines w.environment verbose clock.stamp (w.loadOrDiscover path).events
        ++ [Paint.apply (colouredReports w.environment) [.red] ("Error: " ++ e.message)])⟩ := by
  unfold run
  dsimp only
  rw [h]
  rfl

/-- The variables that decide what is shown, and how. -/
def displayVariables : List String := ["RUST_LOG", "NO_COLOR", "CLICOLOR_FORCE"]

/-- A run depends on what is loaded and told, and on how it is shown. -/
theorem Command.run_congr (hload : w'.loadOrDiscover path = w.loadOrDiscover path)
    (h : ∀ name ∈ displayVariables, w'.environment.get? name = w.environment.get? name) :
    command.run w' clock path verbose = command.run w clock path verbose := by
  have hlogs (es : List Event) : logLines w'.environment verbose clock.stamp es
      = logLines w.environment verbose clock.stamp es := by
    unfold logLines logFilter colouredLogs
    rw [h "RUST_LOG" (by decide), h "NO_COLOR" (by decide)]
  have hcolours : colouredReports w'.environment = colouredReports w.environment := by
    unfold colouredReports
    rw [h "CLICOLOR_FORCE" (by decide)]
  unfold run
  dsimp only
  rw [hload, hlogs, hcolours]

end

/-- **The commands agree.** A path that an option gives is taken, or else the one of the variable, or
else the file that is found. It is loaded in the same way by all commands: all of them succeed, or all of
them fail and write nothing but what is told on the way and the error, in red if colours are forced. If
an option gives the path, then it is taken in all surroundings, and only this file, the variables that it
refers to and those that decide what is shown matter. A check has no output. -/
theorem commands_agree (w : Surroundings) (clock : Clock) :
    (∀ args command option verbose, Asks args command option verbose →
      (option = none → w.environment.get? configVariable ≠ some "") →
      Request.ofArguments? w.environment args = some (.run command
        (option.or ((w.environment.get? configVariable).map FilePath.mk)) verbose))
    ∧ (∀ path,
      let colours := colouredReports w.environment
      let logs verbose :=
        logLines w.environment verbose clock.stamp (w.loadOrDiscover path).events
      (∃ p s, path.or w.discover = some p ∧ (w.load p).result = .ok s ∧ ∀ args verbose,
        (Request.ofArguments? w.environment args = some (.run .check path verbose) →
          runLine w clock args
            = ⟨0, "", unlines (logs verbose ++ Report.lines colours clock.now p s)⟩)
        ∧ ∀ layout,
          Request.ofArguments? w.environment args = some (.run (.dump layout) path verbose) →
          runLine w clock args = ⟨0, s.toJson.print layout ++ "\n", unlines (logs verbose)⟩)
      ∨ ∃ e, (w.loadOrDiscover path).result = .error e
        ∧ (∀ p, path.or w.discover = some p → (w.load p).result = .error e)
        ∧ ∀ args command verbose,
          Request.ofArguments? w.environment args = some (.run command path verbose) →
          runLine w clock args = ⟨1, "", unlines (logs verbose
            ++ [Paint.apply colours [.red] ("Error: " ++ e.message)])⟩)
    ∧ (∀ args command p verbose, Asks args command (some p) verbose → ∀ w' : Surroundings,
      Request.ofArguments? w'.environment args = some (.run command (some p) verbose)
      ∧ (w'.files.open? w'.working p = w.files.open? w.working p →
        (∀ name, name ∈ displayVariables ∨ w.Refers p name →
          w'.environment.get? name = w.environment.get? name) →
        runLine w' clock args = runLine w clock args))
    ∧ ∀ args path verbose,
      Request.ofArguments? w.environment args = some (.run .check path verbose) →
      (runLine w clock args).output = "" := by
  refine ⟨fun args command option verbose hasks hvariable => hasks.ofArguments?_eq hvariable,
    fun path => ?_, ?_, ?_⟩
  · cases hresult : (w.loadOrDiscover path).result with
    | ok found =>
      obtain ⟨p, s⟩ := found
      obtain ⟨hpath, hload⟩ := Surroundings.loadOrDiscover_eq_ok.mp hresult
      refine Or.inl ⟨p, s, hpath, hload, fun args verbose => ⟨fun hrequest => ?_, ?_⟩⟩
      · rw [runLine_of_request hrequest, Command.check_of_ok hresult]
      · intro layout hrequest
        rw [runLine_of_request hrequest, Command.dump_of_ok hresult]
    | error e =>
      refine Or.inr ⟨e, rfl, fun p hpath => ?_, fun args command verbose hrequest => ?_⟩
      · rw [Surroundings.loadOrDiscover_of_or hpath] at hresult
        exact Except.map_eq_error.mp hresult
      · rw [runLine_of_request hrequest, Command.run_of_error hresult]
  · intro args command p verbose hasks w'
    have hrequest (env : Environment) :
        Request.ofArguments? env args = some (.run command (some p) verbose) :=
      hasks.ofArguments?_eq nofun
    refine ⟨hrequest _, fun hopen henv => ?_⟩
    have hload : w'.load p = w.load p :=
      Surroundings.load_eq_of_refers hopen fun name hname => henv name (Or.inr hname)
    rw [runLine_of_request (hrequest _), runLine_of_request (hrequest _)]
    refine Command.run_congr ?_ fun name hname => henv name (Or.inl hname)
    rw [Surroundings.loadOrDiscover_some, Surroundings.loadOrDiscover_some, hload]
  · intro args path verbose hrequest
    rw [runLine_of_request hrequest]
    cases hresult : (w.loadOrDiscover path).result with
    | ok found => rw [Command.check_of_ok hresult]
    | error e => rw [Command.run_of_error hresult]

/-- A variable with a path that leads nowhere, and a file that is named beside one that could be found. -/
theorem commands_agree_tree :
    let s : Site := ⟨"Docs", "", "/", ⟨[], [], [], none⟩⟩
    let files : FileTree := .directory [("docsite.toml", .file ⟨#[255]⟩),
      ("site.json", .file (s.toJson.print .compact).toUTF8)]
    let w : Surroundings := ⟨files, [], ⟨[("DOCSITE_CONFIG", "/none.toml")]⟩⟩
    let clock : Clock := ⟨⟨0, 0⟩, ""⟩
    let failed : Outcome := ⟨1, "", "Error: Configuration file not found: /none.toml\n"⟩
    (runLine w clock ["check"] = failed ∧ runLine w clock ["dump", "--compact", "-v"] = failed)
      ∧ (runLine w clock ["dump", "-c", "/site.json"]).output = s.toJson.print .spread ++ "\n"
      ∧ runLine ⟨.directory [], [], .empty⟩ clock ["dump", "--config=/site.toml"]
        = runLine w clock ["dump", "--config=/site.toml"]
      ∧ (runLine w clock ["check"]).output = "" := by
  intro s files w clock failed
  obtain ⟨hasked, hruns, halone, hcheck⟩ := commands_agree w clock
  have hvariable : w.environment.get? configVariable = some "/none.toml" := by decide
  have hfailed : (w.loadOrDiscover (some ⟨"/none.toml"⟩)).result
      = .error (.fileNotFound ⟨"/none.toml"⟩) := rfl
  have hfound : (w.load ⟨"/site.json"⟩).result = .ok s := by
    have hplain : ∀ text ∈ [s.title, s.description, s.basePath], ¬['$', '\x7b'] <:+: text.toList := by
      simp only [← Expansion.mentions_iff]
      decide
    exact Surroundings.load_of_printed (.bare .compact) (hplain _ (by simp)) (hplain _ (by simp))
      (hplain _ (by simp)) ⟨"site", by decide, by decide⟩ rfl (by decide)
  have hcheckAsked : Asks ["check"] .check none false :=
    @Asks.of_gives "check" .check [] .initial (by decide) (.none _)
  have hdumpAsked : Asks ["dump", "--compact", "-v"] (.dump .compact) none true :=
    @Asks.of_gives "dump" .dump _ ⟨true, true, none⟩ (by decide)
      (.compact rfl rfl (.verbose (Or.inl rfl) rfl (.none _)))
  have hnamedAsked : Asks ["dump", "-c", "/site.json"] (.dump .spread) (some ⟨"/site.json"⟩) false :=
    @Asks.of_writesPath "dump" .dump _ ⟨"/site.json"⟩ (by decide) rfl (by decide)
      (.short (.apart (by decide)))
  have habsentAsked : Asks ["dump", "--config=/site.toml"] (.dump .spread) (some ⟨"/site.toml"⟩)
      false :=
    @Asks.of_writesPath "dump" .dump _ ⟨"/site.toml"⟩ (by decide) rfl (by decide) .equals
  have hcheckRequest := hasked _ _ _ _ hcheckAsked fun _ => by rw [hvariable]; decide
  have hdumpRequest := hasked _ _ _ _ hdumpAsked fun _ => by rw [hvariable]; decide
  have hnamedRequest := hasked _ _ _ _ hnamedAsked nofun
  refine ⟨?_, ?_, ?_, ?_⟩
  · rw [hvariable] at hcheckRequest hdumpRequest
    obtain ⟨p, _, hp, hload, -⟩ | ⟨e, he, -, hfail⟩ := hruns (some ⟨"/none.toml"⟩)
    · cases hp
      cases hload
    · cases hfailed.symm.trans he
      exact ⟨hfail _ _ _ hcheckRequest, hfail _ _ _ hdumpRequest⟩
  · obtain ⟨p, s', hp, hload, hsuccess⟩ | ⟨e, -, he, -⟩ := hruns (some ⟨"/site.json"⟩)
    · cases hp
      cases hfound.symm.trans hload
      rw [(hsuccess _ _).2 _ hnamedRequest]
    · cases hfound.symm.trans (he _ rfl)
  · refine (halone _ _ _ _ habsentAsked ⟨.directory [], [], .empty⟩).2 rfl ?_
    rintro name (hname | ⟨_, _, -, ⟨_, hopen, -⟩, -⟩)
    · revert name
      decide
    · cases hopen
  · exact hcheck _ _ _ hcheckRequest

end SiteManifest
