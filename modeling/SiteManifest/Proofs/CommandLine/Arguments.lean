import Mathlib.Data.List.TakeDrop
import Mathlib.Data.List.TakeWhile
import SiteManifest.CommandLine.Arguments
import SiteManifest.Proofs.Except

/-!
# Written command lines

How a command is asked for: options before it, its name, options after it, and maybe two dashes. The path
of a configuration may be written in six ways, three of them together with the letter of another option.
What is written is what is read. A path that an option gives is taken whatever the environment says, and
the environment is asked only if there is none.
-/

namespace SiteManifest

namespace Arguments

/-! ## Writing options -/

/-- The words that give the path of a configuration by a letter, after a dash and maybe other letters. -/
inductive WritesShort (p : FilePath) (dash : String) : List String → Prop where
  | joined (h : p.text.toList.head? ≠ some '=') : WritesShort p dash [dash ++ "c" ++ p.text]
  | equals : WritesShort p dash [dash ++ "c=" ++ p.text]
  | apart (h : isOption p.text = false) : WritesShort p dash [dash ++ "c", p.text]

/-- The words that give the path of a configuration. -/
inductive WritesPath (p : FilePath) : List String → Prop where
  | short {words : List String} (h : WritesShort p "-" words) : WritesPath p words
  | equals : WritesPath p ["--config=" ++ p.text]
  | apart (h : isOption p.text = false) : WritesPath p ["--config", p.text]

/-- What the options become that are given before some words. Each may be given once. -/
inductive Gives (place : Place) : Options → List String → Options → Prop where
  | none (o : Options) : Gives place o [] o
  | verbose {o o' : Options} {word : String} {words : List String}
    (hword : word = "-v" ∨ word = "--verbose") (hset : o.verbose = false)
    (h : Gives place { o with verbose := true } words o') : Gives place o (word :: words) o'
  | compact {o o' : Options} {words : List String} (hplace : place = .dump) (hset : o.compact = false)
    (h : Gives place { o with compact := true } words o') : Gives place o ("--compact" :: words) o'
  | config {o o' : Options} {p : FilePath} {first words : List String}
    (hplace : place.takesConfig = true) (hset : o.config = none) (hp : p.text ≠ "")
    (hfirst : WritesPath p first) (h : Gives place { o with config := some p } words o') :
    Gives place o (first ++ words) o'
  | verboseConfig {o o' : Options} {p : FilePath} {first words : List String}
    (hplace : place.takesConfig = true) (hverbose : o.verbose = false) (hset : o.config = none)
    (hp : p.text ≠ "") (hfirst : WritesShort p "-v" first)
    (h : Gives place { o with verbose := true, config := some p } words o') :
    Gives place o (first ++ words) o'

/-- The command lines that ask for a command, with the path that an option gives. -/
inductive Asks : List String → Command → Option FilePath → Bool → Prop where
  | line {front words tail : List String} {o o' : Options} {name : String} {place : Place}
    (hfront : Gives .front .initial front o) (hname : (name, place) ∈ places)
    (hwords : Gives place .initial words o') (htail : tail = [] ∨ tail = ["--"]) :
    Asks (front ++ name :: (words ++ tail)) (place.command o') o'.config (o.verbose || o'.verbose)

/-- Options may be left out before a command, and dashes behind it. -/
theorem Asks.of_gives {name : String} {place : Place} {words : List String} {o : Options}
    (hname : (name, place) ∈ places) (h : Gives place .initial words o) :
    Asks (name :: words) (place.command o) o.config o.verbose := by
  have hasks := Asks.line (.none _) hname h (Or.inl rfl)
  rw [List.append_nil] at hasks
  exact hasks

/-- The path may be all that is given. -/
theorem Asks.of_writesPath {name : String} {place : Place} {words : List String} {p : FilePath}
    (hname : (name, place) ∈ places) (hplace : place.takesConfig = true) (hp : p.text ≠ "")
    (h : WritesPath p words) :
    Asks (name :: words) (place.command { Options.initial with config := some p }) (some p) false := by
  have hgives := Gives.config hplace (o := .initial) rfl hp h (.none _)
  rw [List.append_nil] at hgives
  exact .of_gives hname hgives

/-! ## Reading words -/

section

variable {place : Place} {o : Options} {word : String} {rest : List String}

theorem isOption_of_toList {c : Char} {cs : List Char} (h : word.toList = '-' :: c :: cs) :
    isOption word = true := by
  have hne : word ≠ "-" := by
    rintro rfl
    cases h
  unfold isOption
  rw [h]
  simpa using hne

theorem readOptions_long {c : Char} {cs : List Char} (h : word.toList = '-' :: '-' :: c :: cs) :
    readOptions place false o (word :: rest)
      = (readLong place o (c :: cs)).bind fun (o, awaiting) => readOptions place awaiting o rest := by
  have hne : word ≠ "--" := by
    rintro rfl
    cases h
  rw [readOptions, isOption_of_toList h, h]
  simp [hne]

theorem readOptions_short {c : Char} {cs : List Char} (h : word.toList = '-' :: c :: cs)
    (hc : c ≠ '-') :
    readOptions place false o (word :: rest)
      = (readShort place o (c :: cs)).bind fun (o, awaiting) => readOptions place awaiting o rest := by
  have hne : word ≠ "--" := by
    rintro rfl
    cases h
    exact hc rfl
  rw [readOptions, isOption_of_toList h, h]
  simp [hne]
  split
  · next heq =>
    cases heq
    exact absurd rfl hc
  · rfl

theorem setConfig_eq {p : FilePath} (hset : o.config = none) (hp : p.text ≠ "") :
    o.setConfig p.text = .ok { o with config := some p } := by
  unfold Options.setConfig
  rw [hset]
  simp [hp]

theorem readOptions_awaiting {p : FilePath} (hset : o.config = none) (hp : p.text ≠ "")
    (h : isOption p.text = false) :
    readOptions place true o (p.text :: rest)
      = readOptions place false { o with config := some p } rest := by
  rw [readOptions, h, setConfig_eq hset hp]
  rfl

theorem readLong_flag {name : String} {flag : Flag} (hname : '=' ∉ name.toList)
    (hconfig : name ≠ "config") (hflag : longFlag? place name = some flag) :
    readLong place o name.toList = (o.set flag).map fun o => (o, false) := by
  have hchars : ∀ c ∈ name.toList, (c != '=') = true := by
    intro c hc
    have hne : c ≠ '=' := fun heq => hname (heq ▸ hc)
    simpa using hne
  have hspan : name.toList.span (· != '=') = (name.toList, []) := by
    rw [List.span_eq_takeWhile_dropWhile, List.takeWhile_eq_self_iff.mpr hchars,
      List.dropWhile_eq_nil_iff.mpr hchars]
  have hother : ¬(name.toList = "config".toList ∧ place.takesConfig = true) :=
    fun h => hconfig (String.toList_inj.mp h.1)
  unfold readLong
  rw [hspan]
  dsimp only
  rw [if_neg hother, String.ofList_toList, hflag]

theorem readLong_config {p : FilePath} (hplace : place.takesConfig = true) (hset : o.config = none)
    (hp : p.text ≠ "") :
    readLong place o ("config=".toList ++ p.text.toList) = .ok ({ o with config := some p }, false) := by
  have hspan : ("config=".toList ++ p.text.toList).span (· != '=')
      = ("config".toList, '=' :: p.text.toList) := by
    rw [List.span_eq_takeWhile_dropWhile]
    simp
  unfold readLong
  rw [hspan]
  simp only [hplace, and_self, if_true, List.isEmpty_cons, Bool.false_eq_true, if_false,
    List.drop_succ_cons, List.drop_zero, String.ofList_toList, setConfig_eq hset hp]
  rfl

theorem readLong_config_awaiting (hplace : place.takesConfig = true) :
    readLong place o "config".toList = .ok (o, true) := by
  have hspan : "config".toList.span (· != '=') = ("config".toList, []) := by decide
  unfold readLong
  rw [hspan]
  simp only [hplace, and_self, if_true, List.isEmpty_nil]

theorem readShort_config {p : FilePath} (hplace : place.takesConfig = true) (hset : o.config = none)
    (hp : p.text ≠ "") {cs : List Char}
    (hcs : cs = '=' :: p.text.toList ∨ cs = p.text.toList ∧ cs.head? ≠ some '=') :
    readShort place o ('c' :: cs) = .ok ({ o with config := some p }, false) := by
  have hne : cs.isEmpty = false := by
    obtain rfl | ⟨rfl, -⟩ := hcs
    · rfl
    · simpa using hp
  have hpath : (if cs.head? = some '=' then cs.drop 1 else cs) = p.text.toList := by
    obtain rfl | ⟨rfl, hhead⟩ := hcs
    · rfl
    · exact if_neg hhead
  unfold readShort
  simp only [hplace, and_self, if_true, hne, Bool.false_eq_true, if_false, hpath,
    String.ofList_toList, setConfig_eq hset hp]
  rfl

theorem readShort_config_awaiting (hplace : place.takesConfig = true) :
    readShort place o ['c'] = .ok (o, true) := by
  unfold readShort
  simp only [hplace, and_self, if_true, List.isEmpty_nil]

theorem readShort_verbose (hset : o.verbose = false) (cs : List Char) :
    readShort place o ('v' :: cs) = readShort place { o with verbose := true } cs := by
  have hflag : shortFlag? place 'v' = some .verbose := rfl
  rw [readShort, if_neg (fun h => absurd h.1 (by decide)), hflag]
  dsimp only [Options.set]
  rw [hset]
  rfl

/-! ## Reading what is written -/

theorem readOptions_verbose (hword : word = "-v" ∨ word = "--verbose") (hset : o.verbose = false) :
    readOptions place false o (word :: rest)
      = readOptions place false { o with verbose := true } rest := by
  obtain rfl | rfl := hword
  · have hread : readShort place o ['v'] = .ok ({ o with verbose := true }, false) :=
      readShort_verbose hset []
    exact (readOptions_short rfl (by decide)).trans (congrArg (Except.bind · _) hread)
  · have hflag : longFlag? place "verbose" = some .verbose := rfl
    have hread : readLong place o "verbose".toList = .ok ({ o with verbose := true }, false) := by
      rw [readLong_flag (by decide) (by decide) hflag, Options.set, hset]
      rfl
    exact (readOptions_long rfl).trans (congrArg (Except.bind · _) hread)

theorem readOptions_compact (hset : o.compact = false) :
    readOptions .dump false o ("--compact" :: rest)
      = readOptions .dump false { o with compact := true } rest := by
  have hflag : longFlag? .dump "compact" = some .compact := rfl
  have hread : readLong .dump o "compact".toList = .ok ({ o with compact := true }, false) := by
    rw [readLong_flag (by decide) (by decide) hflag, Options.set, hset]
    rfl
  exact (readOptions_long rfl).trans (congrArg (Except.bind · _) hread)

/-- The path is set by the letter of its option, once the letters before it are read. -/
theorem WritesShort.readOptions_eq {p : FilePath} {dash : String} {o' : Options} {first : List String}
    (hdash : ∀ (word : String) cs (rest : List String), word.toList = dash.toList ++ 'c' :: cs →
      readOptions place false o (word :: rest) = (readShort place o' ('c' :: cs)).bind
        fun (o, awaiting) => readOptions place awaiting o rest)
    (hplace : place.takesConfig = true) (hset : o'.config = none) (hp : p.text ≠ "")
    (h : WritesShort p dash first) :
    readOptions place false o (first ++ rest)
      = readOptions place false { o' with config := some p } rest := by
  cases h with
  | joined hhead =>
    have hread := readShort_config hplace hset hp (Or.inr ⟨rfl, hhead⟩)
    refine (hdash _ p.text.toList rest (by simp)).trans ?_
    rw [hread]
    rfl
  | equals =>
    have hread := readShort_config hplace hset hp (Or.inl rfl)
    refine (hdash _ ('=' :: p.text.toList) rest (by simp)).trans ?_
    rw [hread]
    rfl
  | apart hvalue =>
    refine (hdash _ [] (p.text :: rest) (by simp)).trans ?_
    rw [readShort_config_awaiting hplace]
    exact readOptions_awaiting hset hp hvalue

theorem WritesPath.readOptions_eq {p : FilePath} {first : List String}
    (hplace : place.takesConfig = true) (hset : o.config = none) (hp : p.text ≠ "")
    (h : WritesPath p first) :
    readOptions place false o (first ++ rest)
      = readOptions place false { o with config := some p } rest := by
  cases h with
  | short h =>
    refine h.readOptions_eq (fun word cs rest hword => ?_) hplace hset hp
    exact readOptions_short hword (by decide)
  | equals =>
    have hread := readLong_config hplace hset hp
    have hword : ("--config=" ++ p.text).toList
        = '-' :: '-' :: 'c' :: ("onfig=".toList ++ p.text.toList) := by simp
    exact (readOptions_long hword).trans (congrArg (Except.bind · _) hread)
  | apart hvalue =>
    refine (readOptions_long rfl).trans ?_
    refine (congrArg (Except.bind · _) (readLong_config_awaiting hplace)).trans ?_
    exact readOptions_awaiting hset hp hvalue

end

/-- Options are read as they are given. -/
theorem Gives.readOptions_eq {place : Place} {o o' : Options} {words : List String}
    (h : Gives place o words o') (rest : List String) :
    readOptions place false o (words ++ rest) = readOptions place false o' rest := by
  induction h with
  | none => rfl
  | verbose hword hset _ ih => exact (readOptions_verbose hword hset).trans ih
  | compact hplace hset _ ih =>
    subst hplace
    exact (readOptions_compact hset).trans ih
  | config hplace hset hp hfirst _ ih =>
    rw [List.append_assoc, hfirst.readOptions_eq hplace hset hp, ih]
  | @verboseConfig o o' p first words hplace hverbose hset hp hfirst _ ih =>
    have hdash (word : String) (cs : List Char) (rest : List String)
        (hword : word.toList = "-v".toList ++ 'c' :: cs) :
        readOptions place false o (word :: rest)
          = (readShort place { o with verbose := true } ('c' :: cs)).bind
            fun (o, awaiting) => readOptions place awaiting o rest := by
      refine (readOptions_short hword (by decide)).trans ?_
      exact congrArg (Except.bind · _) (readShort_verbose hverbose ('c' :: cs))
    rw [List.append_assoc, hfirst.readOptions_eq hdash hplace hset hp]
    exact ih

theorem Gives.readOptions_eq_ok {place : Place} {o o' : Options} {words rest : List String}
    (h : Gives place o words o') (hrest : ∀ a ∈ rest.head?, isOption a = false ∨ a = "--") :
    readOptions place false o (words ++ rest) = .ok (o', rest) := by
  rw [h.readOptions_eq]
  cases rest with
  | nil => rfl
  | cons a rest =>
    obtain hoption | rfl := hrest a rfl
    · rw [readOptions, hoption]
      rfl
    · rfl

theorem Options.complete_eq {env : Environment} {o : Options}
    (h : o.config = none → env.get? configVariable ≠ some "") :
    o.complete env
      = .ok { o with config := o.config.or ((env.get? configVariable).map FilePath.mk) } := by
  obtain ⟨verbose, compact, config⟩ := o
  unfold Options.complete
  cases config with
  | some p => rfl
  | none =>
    cases hget : env.get? configVariable with
    | none => rfl
    | some path =>
      have hp : (FilePath.mk path).text ≠ "" := fun heq => h rfl (heq ▸ hget)
      exact setConfig_eq rfl hp

/-- **What a command line asks for.** The path of an option is taken as it is; without such an option
the environment is asked for a path, which must not be empty. -/
theorem Asks.ofArguments?_eq {args : List String} {command : Command} {option : Option FilePath}
    {verbose : Bool} (h : Asks args command option verbose) {env : Environment}
    (hvariable : option = none → env.get? configVariable ≠ some "") :
    Request.ofArguments? env args
      = some (.run command (option.or ((env.get? configVariable).map FilePath.mk)) verbose) := by
  cases h with
  | @line front words tail o o' name place hfront hname hwords htail =>
    have hplaces : ∀ e ∈ places, isOption e.1 = false ∧ places.lookup e.1 = some e.2 := by decide
    obtain ⟨hoption, hlookup⟩ := hplaces _ hname
    have hafter : ∀ a ∈ (name :: (words ++ tail)).head?, isOption a = false ∨ a = "--" := by
      rintro a ⟨⟩
      exact Or.inl hoption
    have hend : ∀ a ∈ tail.head?, isOption a = false ∨ a = "--" := by
      obtain rfl | rfl := htail
      · nofun
      · rintro a ⟨⟩
        exact Or.inr rfl
    have hnothing : ¬(tail ≠ [] ∧ tail ≠ ["--"]) := fun h => htail.elim h.1 h.2
    have hcommand : readCommand env place o.verbose (words ++ tail)
        = .ok (.run (place.command o') (o'.config.or ((env.get? configVariable).map FilePath.mk))
          (o.verbose || o'.verbose)) := by
      unfold readCommand
      rw [Except.bind_of_ok (hwords.readOptions_eq_ok hend)]
      dsimp only
      rw [if_neg hnothing, Except.bind_of_ok (Options.complete_eq hvariable)]
      rfl
    have hline : readLine env (front ++ name :: (words ++ tail))
        = readCommand env place o.verbose (words ++ tail) := by
      unfold readLine
      rw [Except.bind_of_ok (hfront.readOptions_eq_ok hafter)]
      dsimp only
      rw [hlookup]
    unfold Request.ofArguments?
    rw [hline, hcommand]

end Arguments

end SiteManifest
