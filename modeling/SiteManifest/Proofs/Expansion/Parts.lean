import Mathlib.Data.List.Infix
import Mathlib.Data.List.TakeWhile
import SiteManifest.Proofs.Expansion

/-!
# Parts of a text

A text falls into parts, from left to right: characters that stand for themselves, references with
braces, names that follow a dollar, and pairs of dollars. A dollar that starts none of these stands for
itself, and so does the start of a reference whose end is missing.

In a text that holds the start of a reference with braces, every part is replaced by its value. So what
stands outside of the references is kept only if it holds neither a name after a dollar nor a pair of
dollars: a name is looked up like one between braces, and of a pair one dollar is left.
-/

namespace SiteManifest

namespace Expansion

/-! ## First places of a pattern -/

theorem isPrefixOf?_append (pattern after : List Char) :
    pattern.isPrefixOf? (pattern ++ after) = some after := by
  induction pattern with
  | nil => rfl
  | cons c cs ih =>
    show (if c == c then cs.isPrefixOf? (cs ++ after) else none) = some after
    rw [if_pos (beq_self_eq_true c), ih]

/-- A text is split at a pattern that starts nowhere before. -/
theorem splitAt?_append {pattern after : List Char} :
    ∀ {before : List Char}, ¬pattern <:+: before ++ pattern.dropLast →
      splitAt? pattern (before ++ (pattern ++ after)) = some (before, after)
  | [], h => by
    cases pattern with
    | nil => exact absurd List.nil_infix h
    | cons c cs =>
      show splitAt? (c :: cs) (c :: (cs ++ after)) = _
      rw [splitAt?, ← List.cons_append, isPrefixOf?_append]
  | b :: before, h => by
    have hnone : pattern.isPrefixOf? (b :: (before ++ (pattern ++ after))) = none := by
      rw [← Option.not_isSome_iff_eq_none, isSome_isPrefixOf?]
      intro hp
      -- the place is too far before the pattern to reach its last character
      have hinit : pattern.dropLast <+: pattern := List.dropLast_prefix pattern
      have hshort : b :: before ++ pattern.dropLast <+: b :: (before ++ (pattern ++ after)) := by
        rw [List.cons_append, List.cons_prefix_cons, List.prefix_append_right_inj]
        exact ⟨rfl, hinit.trans (List.prefix_append pattern after)⟩
      refine h (List.prefix_of_prefix_length_le hp hshort ?_).isInfix
      simp only [List.length_append, List.length_cons, List.length_dropLast]
      omega
    have hrest : ¬pattern <:+: before ++ pattern.dropLast :=
      fun hin => h (List.infix_cons_iff.mpr (Or.inr hin))
    rw [List.cons_append, splitAt?, hnone, splitAt?_append hrest]
    rfl

theorem splitAt?_brace {body after : List Char} (h : '\x7d' ∉ body) :
    splitAt? ['\x7d'] (body ++ '\x7d' :: after) = some (body, after) := by
  have hbefore : ¬['\x7d'] <:+: body ++ ['\x7d'].dropLast := by
    rw [List.dropLast_singleton, List.append_nil, List.singleton_infix_iff]
    exact h
  exact splitAt?_append hbefore

theorem splitAt?_brace_eq_some {cs body after : List Char}
    (h : splitAt? ['\x7d'] cs = some (body, after)) :
    '\x7d' ∉ body ∧ cs = body ++ '\x7d' :: after := by
  have hmem : '\x7d' ∈ cs := by
    rw [← List.singleton_infix_iff, ← isSome_splitAt? (List.cons_ne_nil _ _), h]
    rfl
  obtain ⟨before, rest, rfl, hbefore⟩ := List.eq_append_cons_of_mem hmem
  rw [splitAt?_brace hbefore] at h
  cases h
  exact ⟨hbefore, rfl⟩

theorem splitAt?_brace_eq_none {cs : List Char} : splitAt? ['\x7d'] cs = none ↔ '\x7d' ∉ cs := by
  rw [← Option.not_isSome_iff_eq_none, isSome_splitAt? (List.cons_ne_nil _ _),
    List.singleton_infix_iff]

/-! ## Parts -/

/-- A part of a text. -/
inductive Part where
  /-- A character that stands for itself. -/
  | plain (c : Char)
  /-- A reference with braces, and what stands between them. -/
  | braced (body : List Char)
  /-- A name that follows a dollar. -/
  | bare (name : List Char)
  /-- Two dollars. -/
  | doubled
  deriving DecidableEq, Repr

namespace Part

/-- How a part is written. -/
def text : Part → List Char
  | .plain c => [c]
  | .braced body => '$' :: '\x7b' :: (body ++ ['\x7d'])
  | .bare name => '$' :: name
  | .doubled => ['$', '$']

/-- What a part is replaced by, or the name of the variable that is not set. -/
def value (env : Environment) : Part → Except String (List Char)
  | .plain c => .ok [c]
  | .braced body => ((Reference.ofBody body).value env).map String.toList
  | .bare name => ((Reference.mk (.ofList name) none).value env).map String.toList
  | .doubled => .ok ['$']

/-- What a part would be replaced by if nothing but references with braces were looked at. -/
def bracedValue (env : Environment) : Part → Except String (List Char)
  | .braced body => value env (.braced body)
  | p => .ok p.text

/-- A part stands for something else than itself, and has no braces. -/
inductive Unbraced : Part → Prop where
  | bare (name : List Char) : Unbraced (.bare name)
  | doubled : Unbraced .doubled

/-- The variable that a part refers to. -/
def name? : Part → Option String
  | .braced body => some (Reference.ofBody body).name
  | .bare name => some (.ofList name)
  | .plain _ => none
  | .doubled => none

end Part

/-- The parts that a text falls into. -/
inductive Cut : List Char → List Part → Prop where
  | done : Cut [] []
  | braced {body cs : List Char} {ps : List Part} (hbody : '\x7d' ∉ body) (h : Cut cs ps) :
    Cut ('$' :: '\x7b' :: (body ++ '\x7d' :: cs)) (.braced body :: ps)
  | unclosed {cs : List Char} {ps : List Part} (hcs : '\x7d' ∉ cs) (h : Cut cs ps) :
    Cut ('$' :: '\x7b' :: cs) (.plain '$' :: .plain '\x7b' :: ps)
  | doubled {cs : List Char} {ps : List Part} (h : Cut cs ps) : Cut ('$' :: '$' :: cs) (.doubled :: ps)
  | bare {name cs : List Char} {ps : List Part} (hname : name ≠ [])
    (hchars : ∀ c ∈ name, isNameChar c = true) (hend : ∀ c ∈ cs.head?, isNameChar c = false)
    (h : Cut cs ps) : Cut ('$' :: (name ++ cs)) (.bare name :: ps)
  | dollar {cs : List Char} {ps : List Part}
    (hnext : ∀ c ∈ cs.head?, c ≠ '\x7b' ∧ c ≠ '$' ∧ isNameChar c = false) (h : Cut cs ps) :
    Cut ('$' :: cs) (.plain '$' :: ps)
  | plain {c : Char} {cs : List Char} {ps : List Part} (hc : c ≠ '$') (h : Cut cs ps) :
    Cut (c :: cs) (.plain c :: ps)

/-- Every text falls into parts. -/
theorem exists_cut (cs : List Char) : ∃ ps, Cut cs ps := by
  fun_induction expandChars .empty cs with
  | case1 => exact ⟨_, .done⟩
  | case2 cs hnone ih =>
    obtain ⟨ps, h⟩ := ih
    exact ⟨_, .unclosed (splitAt?_brace_eq_none.mp hnone) h⟩
  | case3 cs body after hsome ih =>
    obtain ⟨ps, h⟩ := ih
    obtain ⟨hbody, rfl⟩ := splitAt?_brace_eq_some hsome
    exact ⟨_, .braced hbody h⟩
  | case4 cs ih =>
    obtain ⟨ps, h⟩ := ih
    exact ⟨_, .doubled h⟩
  | case5 c cs _ _ hc ih =>
    obtain ⟨ps, h⟩ := ih
    have hchars : ∀ d ∈ c :: cs.takeWhile isNameChar, isNameChar d = true :=
      List.forall_mem_cons.mpr ⟨hc, fun d hd => List.mem_takeWhile_imp hd⟩
    have hend : ∀ d ∈ (cs.dropWhile isNameChar).head?, isNameChar d = false := by
      intro d hd
      have hnot := List.head?_dropWhile_not isNameChar cs
      rw [hd] at hnot
      exact hnot
    have hcut := Cut.bare (List.cons_ne_nil _ _) hchars hend h
    rw [List.cons_append, List.takeWhile_append_dropWhile] at hcut
    exact ⟨_, hcut⟩
  | case6 c cs hbrace hdollar hc ih =>
    obtain ⟨ps, h⟩ := ih
    refine ⟨_, .dollar ?_ h⟩
    rintro d ⟨⟩
    exact ⟨hbrace, hdollar, Bool.not_eq_true _ ▸ hc⟩
  | case7 c cs _ _ hlast ih =>
    obtain ⟨ps, h⟩ := ih
    by_cases hc : c = '$'
    · subst hc
      cases cs with
      | nil => exact ⟨_, .dollar (fun _ hd => nomatch hd) h⟩
      | cons d cs => exact absurd rfl fun hd => hlast d cs rfl hd
    · exact ⟨_, .plain hc h⟩

/-- The parts of a text are all of it. -/
theorem Cut.flatMap_text {cs : List Char} {ps : List Part} (h : Cut cs ps) :
    ps.flatMap Part.text = cs := by
  induction h with
  | done => rfl
  | braced _ _ ih => simp [Part.text, ih]
  | unclosed _ _ ih => simp [Part.text, ih]
  | doubled _ ih => simp [Part.text, ih]
  | bare _ _ _ _ ih => simp [Part.text, ih]
  | dollar _ _ ih => simp [Part.text, ih]
  | plain _ _ ih => simp [Part.text, ih]

/-! ## Expansion -/

/-- What parts are replaced by, one after the other. -/
def joined (f : Part → Except String (List Char)) (ps : List Part) : Except String (List Char) :=
  (ps.mapM f).map List.flatten

theorem joined_cons (f : Part → Except String (List Char)) (p : Part) (ps : List Part) :
    joined f (p :: ps) = do
      let v ← f p
      let tail ← joined f ps
      return v ++ tail := by
  unfold joined
  rw [List.mapM_cons]
  cases f p with
  | error name => rfl
  | ok v =>
    cases ps.mapM f with
    | error name => rfl
    | ok vs => rfl

theorem joined_plain (env : Environment) (c : Char) (ps : List Part) :
    joined (Part.value env) (.plain c :: ps) = (joined (Part.value env) ps).map (c :: ·) := by
  rw [joined_cons]
  cases joined (Part.value env) ps <;> rfl

section

variable (env : Environment) {cs : List Char}

theorem expandChars_braced {body : List Char} (hbody : '\x7d' ∉ body) :
    expandChars env ('$' :: '\x7b' :: (body ++ '\x7d' :: cs)) = do
      let v ← Part.value env (.braced body)
      let tail ← expandChars env cs
      return v ++ tail := by
  rw [expandChars]
  split
  · next hnone =>
    rw [splitAt?_brace hbody] at hnone
    cases hnone
  · next hsome =>
    rw [splitAt?_brace hbody] at hsome
    cases hsome
    dsimp only [Part.value]
    cases (Reference.ofBody body).value env <;> rfl

theorem expandChars_unclosed (hcs : '\x7d' ∉ cs) :
    expandChars env ('$' :: '\x7b' :: cs)
      = (expandChars env cs).map fun tail => '$' :: '\x7b' :: tail := by
  rw [expandChars]
  split
  · rfl
  · next hsome =>
    rw [splitAt?_brace_eq_none.mpr hcs] at hsome
    cases hsome

theorem expandChars_bare {name : List Char} (hname : name ≠ [])
    (hchars : ∀ c ∈ name, isNameChar c = true) (hend : ∀ c ∈ cs.head?, isNameChar c = false) :
    expandChars env ('$' :: (name ++ cs)) = do
      let v ← Part.value env (.bare name)
      let tail ← expandChars env cs
      return v ++ tail := by
  obtain ⟨c, name, rfl⟩ := List.exists_cons_of_ne_nil hname
  obtain ⟨hc, hname⟩ := List.forall_mem_cons.mp hchars
  have htake : cs.takeWhile isNameChar = [] := by
    cases cs with
    | nil => rfl
    | cons d cs => exact List.takeWhile_cons_of_neg (by simp [hend d rfl])
  have hdrop : cs.dropWhile isNameChar = cs := by
    cases cs with
    | nil => rfl
    | cons d cs => exact List.dropWhile_cons_of_neg (by simp [hend d rfl])
  rw [List.cons_append, expandChars, if_pos hc, List.takeWhile_append_of_pos hname,
    List.dropWhile_append_of_pos hname, htake, hdrop, List.append_nil]
  · dsimp only [Part.value]
    cases (Reference.mk (.ofList (c :: name)) none).value env <;> rfl
  · rintro rfl
    revert hc
    decide
  · rintro rfl
    revert hc
    decide

/-- A dollar that starts nothing stands for itself. -/
theorem expandChars_dollar (hnext : ∀ c ∈ cs.head?, c ≠ '\x7b' ∧ c ≠ '$' ∧ isNameChar c = false) :
    expandChars env ('$' :: cs) = (expandChars env cs).map ('$' :: ·) := by
  cases cs with
  | nil => simp [expandChars]
  | cons c cs =>
    obtain ⟨hbrace, hdollar, hc⟩ := hnext c rfl
    rw [expandChars, if_neg (Bool.not_eq_true _ ▸ hc)]
    · exact hbrace
    · exact hdollar

theorem expandChars_plain {c : Char} (hc : c ≠ '$') :
    expandChars env (c :: cs) = (expandChars env cs).map (c :: ·) := by
  rw [expandChars]
  · exact fun _ h => absurd h hc
  · exact fun _ h => absurd h hc
  · exact fun _ _ h => absurd h hc

end

/-- A text is expanded part by part. -/
theorem Cut.expandChars_eq {cs : List Char} {ps : List Part} (h : Cut cs ps) (env : Environment) :
    expandChars env cs = joined (Part.value env) ps := by
  induction h with
  | done =>
    rw [expandChars]
    rfl
  | braced hbody _ ih => rw [expandChars_braced env hbody, joined_cons, ih]
  | unclosed hcs _ ih =>
    rw [expandChars_unclosed env hcs, joined_plain, joined_plain, ih]
    cases joined _ _ <;> rfl
  | doubled _ ih =>
    rw [expandChars, joined_cons, ih]
    cases joined _ _ <;> rfl
  | bare hname hchars hend _ ih => rw [expandChars_bare env hname hchars hend, joined_cons, ih]
  | dollar hnext _ ih => rw [expandChars_dollar env hnext, joined_plain, ih]
  | plain hc _ ih => rw [expandChars_plain env hc, joined_plain, ih]

/-! ## Parts that are kept -/

theorem joined_congr {f g : Part → Except String (List Char)} :
    ∀ {ps : List Part}, (∀ p ∈ ps, f p = g p) → joined f ps = joined g ps
  | [], _ => rfl
  | p :: ps, h => by
    obtain ⟨hp, hps⟩ := List.forall_mem_cons.mp h
    rw [joined_cons, joined_cons, hp, joined_congr hps]

theorem joined_of_kept {f : Part → Except String (List Char)} :
    ∀ {ps : List Part}, (∀ p ∈ ps, f p = .ok p.text) → joined f ps = .ok (ps.flatMap Part.text)
  | [], _ => rfl
  | p :: ps, h => by
    obtain ⟨hp, hps⟩ := List.forall_mem_cons.mp h
    rw [joined_cons, hp, joined_of_kept hps]
    rfl

theorem Part.bracedValue_eq_value {p : Part} (h : ¬p.Unbraced) (env : Environment) :
    p.bracedValue env = p.value env := by
  cases p with
  | plain c => rfl
  | braced body => rfl
  | bare name => exact absurd (.bare name) h
  | doubled => exact absurd .doubled h

/-- Without the start of a reference there is none, so every part is kept. -/
theorem Cut.bracedValue_of_not_infix {cs : List Char} {ps : List Part} (h : Cut cs ps)
    (hcs : ¬['$', '\x7b'] <:+: cs) (env : Environment) {p : Part} (hp : p ∈ ps) :
    p.bracedValue env = .ok p.text := by
  cases p with
  | plain c => rfl
  | bare name => rfl
  | doubled => rfl
  | braced body =>
    refine absurd ?_ hcs
    obtain ⟨before, after, rfl⟩ := List.append_of_mem hp
    rw [← h.flatMap_text, List.flatMap_append, List.flatMap_cons]
    refine List.infix_append_of_infix_right (List.infix_append_of_infix_left ?_)
    exact (List.prefix_append ['$', '\x7b'] (body ++ ['\x7d'])).isInfix

theorem expand_of_mention {text : String} {ps : List Part} (h : Cut text.toList ps)
    (hmention : ['$', '\x7b'] <:+: text.toList) (env : Environment) :
    expand env text = (joined (Part.value env) ps).map .ofList := by
  rw [expand, if_pos (mentions_iff.mpr hmention), h.expandChars_eq]

theorem expand_of_kept {text : String} {ps : List Part} (h : Cut text.toList ps)
    (hkept : ¬['$', '\x7b'] <:+: text.toList ∨ ∀ p ∈ ps, ¬p.Unbraced) (env : Environment) :
    expand env text = (joined (Part.bracedValue env) ps).map .ofList := by
  by_cases hmention : ['$', '\x7b'] <:+: text.toList
  · have hps := hkept.resolve_left (not_not_intro hmention)
    rw [expand_of_mention h hmention]
    exact congrArg _ (joined_congr fun p hp => (Part.bracedValue_eq_value (hps p hp) env).symm)
  · rw [Expansion.expand_of_not_infix hmention,
      joined_of_kept fun p hp => h.bracedValue_of_not_infix hmention env hp, h.flatMap_text]
    exact congrArg _ (String.ofList_toList).symm

/-- **What stands outside of references** is kept in a text that holds no start of a reference with
braces, and in one that holds neither a name after a dollar nor a pair of dollars. In all other texts
the names are looked up as well, and pairs become single dollars. -/
theorem expanded_by_parts (env : Environment) (text : String) :
    (∃ ps, Cut text.toList ps)
      ∧ ∀ ps, Cut text.toList ps →
        ps.flatMap Part.text = text.toList
        ∧ (¬['$', '\x7b'] <:+: text.toList ∨ (∀ p ∈ ps, ¬p.Unbraced) →
          expand env text = (joined (Part.bracedValue env) ps).map .ofList)
        ∧ (['$', '\x7b'] <:+: text.toList →
          expand env text = (joined (Part.value env) ps).map .ofList) :=
  ⟨exists_cut text.toList, fun _ h => ⟨h.flatMap_text, fun hkept => expand_of_kept h hkept env,
    fun hmention => expand_of_mention h hmention env⟩⟩

/-- A price in a text without references, dollars beside a reference, and a pair of dollars before
one. -/
theorem expanded_by_parts_texts :
    expand .empty "$5" = .ok "$5" ∧ expand .empty "$ $\x7bA:-b\x7d$" = .ok "$ b$"
      ∧ expand .empty "$$$\x7bA:-b\x7d" = .ok "$b" := by
  have hprice : Cut ['$', '5'] [.bare ['5']] :=
    @Cut.bare ['5'] [] [] (by decide) (List.forall_mem_singleton.mpr rfl) nofun .done
  have hreference {cs : List Char} {ps : List Part} (h : Cut cs ps) :
      Cut ('$' :: '\x7b' :: 'A' :: ':' :: '-' :: 'b' :: '\x7d' :: cs) (.braced "A:-b".toList :: ps) :=
    @Cut.braced ['A', ':', '-', 'b'] cs ps (by decide) h
  have hdollars := Cut.dollar (by rintro c ⟨⟩; decide) (.plain (by decide : ' ' ≠ '$')
    (hreference (@Cut.dollar [] [] nofun .done)))
  have hpair := Cut.doubled (hreference .done)
  refine ⟨?_, ?_, ?_⟩
  · obtain ⟨-, hkept, -⟩ := (expanded_by_parts .empty "$5").2 _ hprice
    refine hkept (Or.inl ?_)
    rw [← mentions_iff]
    decide
  · obtain ⟨-, hkept, -⟩ := (expanded_by_parts .empty "$ $\x7bA:-b\x7d$").2 _ hdollars
    refine (hkept (Or.inr ?_)).trans (by decide +kernel)
    rintro p hp (_ | _) <;> simp at hp
  · obtain ⟨-, -, hvalues⟩ := (expanded_by_parts .empty "$$$\x7bA:-b\x7d").2 _ hpair
    refine (hvalues ?_).trans (by decide +kernel)
    rw [← mentions_iff]
    decide

/-- A price is a variable that is not set, one of two dollars is lost, and a name is looked up, if only a
reference stands beside them. -/
theorem dollars_beside_reference :
    let price : List Part := [.bare ['5'], .plain ' ', .braced ['A', ':', '-', 'b']]
    let pair : List Part := [.doubled, .plain ' ', .braced ['A', ':', '-', 'b']]
    let name : List Part := [.bare "DT_A".toList, .plain ' ', .braced "DT_A".toList]
    let alpha : Environment := ⟨[("DT_A", "alpha")]⟩
    (Cut "$5 $\x7bA:-b\x7d".toList price
        ∧ joined (Part.bracedValue .empty) price = .ok "$5 b".toList
        ∧ expand .empty "$5 $\x7bA:-b\x7d" = .error "5")
      ∧ (Cut "$$ $\x7bA:-b\x7d".toList pair
        ∧ joined (Part.bracedValue .empty) pair = .ok "$$ b".toList
        ∧ expand .empty "$$ $\x7bA:-b\x7d" = .ok "$ b")
      ∧ Cut "$DT_A $\x7bDT_A\x7d".toList name
        ∧ joined (Part.bracedValue alpha) name = .ok "$DT_A alpha".toList
        ∧ expand alpha "$DT_A $\x7bDT_A\x7d" = .ok "alpha alpha" := by
  intro price pair name alpha
  -- a blank and a reference, and what stands before the blank ends there
  have hrest {body : List Char} (hbody : '\x7d' ∉ body) :
      Cut (' ' :: '$' :: '\x7b' :: (body ++ ['\x7d'])) [.plain ' ', .braced body] :=
    .plain (by decide) (@Cut.braced body [] [] hbody .done)
  have hend {cs : List Char} : ∀ c ∈ (' ' :: cs).head?, isNameChar c = false := by
    rintro c ⟨⟩
    rfl
  have hfallback := @hrest ['A', ':', '-', 'b'] (by decide)
  have hprice := @Cut.bare ['5'] _ _ (by decide) (List.forall_mem_singleton.mpr rfl) hend hfallback
  have hletters : "DT_A".toList.all isNameChar = true := by decide +kernel
  have hname := @Cut.bare "DT_A".toList _ _ (by decide) (List.all_eq_true.mp hletters) hend
    (@hrest "DT_A".toList (by decide))
  exact ⟨⟨hprice, by decide +kernel, by decide +kernel⟩,
    ⟨.doubled hfallback, by decide +kernel, by decide +kernel⟩,
    hname, by decide +kernel, by decide +kernel⟩

/-! ## Variables that a text refers to -/

/-- A text refers to a variable: one of its parts does, and there is the start of a reference with
braces. -/
def Refers (text : String) (name : String) : Prop :=
  ['$', '\x7b'] <:+: text.toList ∧ ∃ ps, Cut text.toList ps ∧ ∃ p ∈ ps, p.name? = some name

theorem Reference.value_congr {env env' : Environment} (r : Reference)
    (h : env'.get? r.name = env.get? r.name) : r.value env' = r.value env := by
  unfold Reference.value
  rw [h]

theorem Part.value_congr {env env' : Environment} {p : Part}
    (h : ∀ name, p.name? = some name → env'.get? name = env.get? name) :
    p.value env' = p.value env := by
  cases p with
  | plain c => rfl
  | doubled => rfl
  | braced body =>
    exact congrArg (Except.map String.toList) (Reference.value_congr (.ofBody body) (h _ rfl))
  | bare name =>
    exact congrArg (Except.map String.toList) (Reference.value_congr ⟨.ofList name, none⟩ (h _ rfl))

/-- The variables that a text does not refer to have no influence on it. -/
theorem expand_congr {env env' : Environment} {text : String}
    (h : ∀ name, Refers text name → env'.get? name = env.get? name) :
    expand env' text = expand env text := by
  by_cases hmention : ['$', '\x7b'] <:+: text.toList
  · obtain ⟨ps, hcut⟩ := exists_cut text.toList
    rw [expand_of_mention hcut hmention, expand_of_mention hcut hmention]
    refine congrArg _ (joined_congr fun p hp => Part.value_congr fun name hname => ?_)
    exact h name ⟨hmention, ps, hcut, p, hp, hname⟩
  · rw [Expansion.expand_of_not_infix hmention, Expansion.expand_of_not_infix hmention]

end Expansion

end SiteManifest
