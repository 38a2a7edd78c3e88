import SiteManifest.FilePath

/-!
# Directories above a path

What the directory above a path is, told by the steps of the path: all of them but the last one. The
root and the empty path have none above them. The text of the directory is a part of the text of the
path, less what does not count at its end, so the directory is found by looking at the text alone.

## Texts and steps

Slashes and single dots at the end of a path add no step (`components_trimFromEnd`), and what stands
after the last slash adds one (`components_append_slash`). Everything here follows from these two.
-/

namespace SiteManifest.FilePath

/-- The path with the given characters. -/
def ofChars (cs : List Char) : FilePath := ⟨.ofList cs⟩

@[simp] theorem toList_text_ofChars (cs : List Char) : (ofChars cs).text.toList = cs :=
  String.toList_ofList

theorem ofChars_toList (p : FilePath) : ofChars p.text.toList = p := by
  unfold ofChars
  rw [String.ofList_toList]

/-! ## The steps of a text -/

/-- The steps between the slashes of a text. -/
def steps (cs : List Char) : List Component := (ofChars cs).segments.filterMap Component.ofText?

theorem components_ofChars (cs : List Char) :
    (ofChars cs).components = (ofChars cs).start ++ steps cs := rfl

theorem segments_append_slash (a b : List Char) :
    (ofChars (a ++ '/' :: b)).segments = (ofChars a).segments ++ (ofChars b).segments := by
  unfold segments
  simp [List.splitOn_append_cons_self]

theorem segments_of_not_mem {cs : List Char} (h : '/' ∉ cs) :
    (ofChars cs).segments = [.ofList cs] := by
  unfold segments
  simp [List.splitOn_eq_singleton h]

theorem segments_ne_nil (p : FilePath) : p.segments ≠ [] := by
  unfold segments
  simp [List.splitOn_ne_nil]

theorem steps_append_slash (a b : List Char) : steps (a ++ '/' :: b) = steps a ++ steps b := by
  unfold steps
  rw [segments_append_slash, List.filterMap_append]

theorem steps_of_not_mem {cs : List Char} (h : '/' ∉ cs) :
    steps cs = (Component.ofText? (.ofList cs)).toList := by
  unfold steps
  rw [segments_of_not_mem h, List.filterMap_cons, List.filterMap_nil]
  cases Component.ofText? (.ofList cs) <;> rfl

theorem ofText?_dot : Component.ofText? (.ofList ['.']) = none := by decide

/-- The step of a text between slashes is neither the root nor a single dot. -/
theorem ofText?_eq_some {s : String} {x : Component} (h : Component.ofText? s = some x) :
    (x = .up ∧ s = "..") ∨ x = .name s := by
  unfold Component.ofText? at h
  split at h
  · cases h
  · split at h
    · next hup =>
      cases h
      exact Or.inl ⟨rfl, hup⟩
    · cases h
      exact Or.inr rfl

theorem ofText?_inj {s t : String} {x : Component} (hs : Component.ofText? s = some x)
    (ht : Component.ofText? t = some x) : s = t := by
  rcases ofText?_eq_some hs with ⟨rfl, rfl⟩ | rfl
  · rcases ofText?_eq_some ht with ⟨-, rfl⟩ | h
    · rfl
    · cases h
  · rcases ofText?_eq_some ht with ⟨h, -⟩ | h
    · cases h
    · cases h
      rfl

theorem ne_root_of_ofText? {s : String} {x : Component} (h : Component.ofText? s = some x) :
    x ≠ .root := by
  rcases ofText?_eq_some h with ⟨rfl, -⟩ | rfl <;> simp

theorem root_not_mem_steps (cs : List Char) : .root ∉ steps cs := by
  intro h
  obtain ⟨s, -, hs⟩ := List.mem_filterMap.mp h
  exact ne_root_of_ofText? hs rfl

/-- Where a path starts does not hang on what follows its first slash. -/
theorem start_append_slash (a b : List Char) :
    (ofChars (a ++ '/' :: b)).start = (ofChars (a ++ ['/'])).start := by
  have hhead : (ofChars (a ++ '/' :: b)).segments.head? = (ofChars (a ++ ['/'])).segments.head? := by
    rw [segments_append_slash, segments_append_slash, List.head?_append, List.head?_append]
    cases hs : (ofChars a).segments with
    | nil => exact absurd hs (segments_ne_nil _)
    | cons s ss => rfl
  have habs : (ofChars (a ++ '/' :: b)).isAbsolute = (ofChars (a ++ ['/'])).isAbsolute := by
    unfold isAbsolute
    cases a <;> simp
  unfold start
  rw [hhead, habs]

/-- A slash at the end of a path changes nothing, unless it is the path. -/
theorem start_append_singleton {a : List Char} (h : a ≠ []) :
    (ofChars (a ++ ['/'])).start = (ofChars a).start := by
  have hhead : (ofChars (a ++ ['/'])).segments.head? = (ofChars a).segments.head? := by
    rw [segments_append_slash, List.head?_append]
    cases hs : (ofChars a).segments with
    | nil => exact absurd hs (segments_ne_nil _)
    | cons s ss => rfl
  have habs : (ofChars (a ++ ['/'])).isAbsolute = (ofChars a).isAbsolute := by
    unfold isAbsolute
    cases a with
    | nil => exact absurd rfl h
    | cons c cs => simp
  unfold start
  rw [hhead, habs]

/-- What follows the last slash adds its step. -/
theorem components_append_slash {name : List Char} (h : '/' ∉ name) (a : List Char) :
    (ofChars (a ++ '/' :: name)).components
      = (ofChars (a ++ ['/'])).components ++ (Component.ofText? (.ofList name)).toList := by
  have hempty : steps [] = [] := rfl
  rw [components_ofChars, components_ofChars, start_append_slash, steps_append_slash,
    steps_append_slash, steps_of_not_mem h, hempty, List.append_nil, List.append_assoc]

theorem components_append_singleton {a : List Char} (h : a ≠ []) :
    (ofChars (a ++ ['/'])).components = (ofChars a).components := by
  have hempty : steps [] = [] := rfl
  rw [components_ofChars, components_ofChars, start_append_singleton h, steps_append_slash, hempty,
    List.append_nil]

/-! ## What does not count at the end -/

/-- A text, given from its end, at whose end everything counts. -/
structure Trimmed (r : List Char) : Prop where
  slash : ∀ c rest, r ≠ '/' :: c :: rest
  dot : ∀ rest, r ≠ '.' :: '/' :: rest

theorem trimmed_trimFromEnd (r : List Char) : Trimmed (trimFromEnd r) := by
  fun_induction trimFromEnd r with
  | case1 c rest ih => exact ih
  | case2 rest ih => exact ih
  | case3 r hslash hdot => exact ⟨fun c rest h => hslash c rest h, fun rest h => hdot rest h⟩

theorem trimFromEnd_suffix (r : List Char) : trimFromEnd r <:+ r := by
  fun_induction trimFromEnd r with
  | case1 c rest ih => exact ih.trans (List.suffix_cons _ _)
  | case2 rest ih => exact ih.trans (List.suffix_cons _ _)
  | case3 r => exact List.suffix_refl r

/-- What does not count at the end adds no step. -/
theorem components_trimFromEnd (r : List Char) :
    (ofChars (trimFromEnd r).reverse).components = (ofChars r.reverse).components := by
  fun_induction trimFromEnd r with
  | case1 c rest ih =>
    rw [ih, List.reverse_cons (a := '/'), components_append_singleton (by simp)]
  | case2 rest ih =>
    have hslash : '/' ∉ ['.'] := by decide
    have hdot := components_append_slash hslash rest.reverse
    rw [ofText?_dot, Option.toList_none, List.append_nil] at hdot
    rw [ih, List.reverse_cons, List.reverse_cons, List.reverse_cons, List.append_assoc]
    exact hdot.symm
  | case3 r => rfl

theorem trimFromEnd_eq_nil {r : List Char} (h : trimFromEnd r = []) : r = [] := by
  fun_induction trimFromEnd r with
  | case1 c rest ih => cases ih h
  | case2 rest ih => cases ih h
  | case3 r => exact h

/-! ## The last step -/

/-- A text without slashes is one step at most. A single dot is one only if it is the whole path. -/
theorem components_of_not_mem {name : List Char} (h : '/' ∉ name) :
    (ofChars name).components
      = if name = ['.'] then [.here] else (Component.ofText? (.ofList name)).toList := by
  have habs : (ofChars name).isAbsolute = false := by
    unfold isAbsolute
    cases name with
    | nil => rfl
    | cons c cs =>
      have hc : c ≠ '/' := fun hc => h (hc ▸ List.mem_cons_self ..)
      simp [hc]
  have hdot : String.ofList name = "." ↔ name = ['.'] := by
    rw [← String.toList_inj, String.toList_ofList]
    rfl
  rw [components_ofChars, steps_of_not_mem h]
  unfold start
  rw [habs, segments_of_not_mem h]
  by_cases hname : name = ['.']
  · subst hname
    rfl
  · simp [hname, hdot]

/-- A text that is neither empty nor a single dot is a step. -/
theorem exists_step {name : List Char} (hempty : name ≠ []) (hdot : name ≠ ['.']) :
    ∃ x, Component.ofText? (.ofList name) = some x := by
  have hskip : ¬(String.ofList name = "" ∨ String.ofList name = ".") := by
    rw [← String.toList_inj, ← String.toList_inj, String.toList_ofList]
    exact not_or.mpr ⟨hempty, hdot⟩
  unfold Component.ofText?
  rw [if_neg hskip]
  split
  · exact ⟨_, rfl⟩
  · exact ⟨_, rfl⟩

/-- A text is a name, or a name after a slash. -/
theorem exists_last_name (cs : List Char) :
    ∃ name, '/' ∉ name ∧ (cs = name ∨ ∃ above, cs = above ++ '/' :: name) := by
  induction cs with
  | nil => exact ⟨[], by simp, Or.inl rfl⟩
  | cons c cs ih =>
    obtain ⟨name, hslash, hname | ⟨above, rfl⟩⟩ := ih
    · subst hname
      by_cases hc : c = '/'
      · exact ⟨cs, hslash, Or.inr ⟨[], by rw [hc]; rfl⟩⟩
      · exact ⟨c :: cs, by simpa using ⟨fun heq => hc heq.symm, hslash⟩, Or.inl rfl⟩
    · exact ⟨name, hslash, Or.inr ⟨c :: above, rfl⟩⟩

theorem concat_ne_dot {name : List Char} (h : name ≠ []) (c : Char) : name ++ [c] ≠ ['.'] := by
  cases name with
  | nil => exact absurd rfl h
  | cons d name => simp

/-- A text that goes on has no fewer steps. -/
theorem length_components_concat (cs : List Char) (c : Char) :
    (ofChars cs).components.length ≤ (ofChars (cs ++ [c])).components.length := by
  by_cases hcs : cs = []
  · subst hcs
    exact Nat.zero_le _
  by_cases hc : c = '/'
  · subst hc
    have hsame := components_append_singleton hcs
    exact Nat.le_of_eq (congrArg List.length hsame.symm)
  -- only the last name changes, and it stays a step if it was one
  obtain ⟨name, hslash, hsplit⟩ := exists_last_name cs
  have hslash' : '/' ∉ name ++ [c] := by simpa using ⟨hslash, fun heq => hc heq.symm⟩
  rcases hsplit with rfl | ⟨above, rfl⟩
  · have hdot := concat_ne_dot hcs c
    obtain ⟨x, hx⟩ := exists_step (by simp) hdot
    rw [components_of_not_mem hslash, components_of_not_mem hslash', if_neg hdot, hx]
    split
    · simp
    · cases Component.ofText? (.ofList cs) <;> simp
  · rw [List.append_assoc, List.cons_append, components_append_slash hslash,
      components_append_slash hslash', List.length_append, List.length_append]
    refine Nat.add_le_add_left ?_ _
    by_cases hname : name = []
    · subst hname
      exact Nat.zero_le _
    · obtain ⟨x, hx⟩ := exists_step (by simp) (concat_ne_dot hname c)
      rw [hx]
      cases Component.ofText? (.ofList name) <;> simp

theorem length_components_le {a b : List Char} (h : a <+: b) :
    (ofChars a).components.length ≤ (ofChars b).components.length := by
  obtain ⟨rest, rfl⟩ := h
  induction rest generalizing a with
  | nil =>
    have hsame := List.append_nil a
    exact Nat.le_of_eq (by rw [hsame])
  | cons c rest ih =>
    have hrest := ih (a := a ++ [c])
    rw [List.append_assoc, List.singleton_append] at hrest
    exact Nat.le_trans (length_components_concat a c) hrest

/-- What stands before the first slash holds none. -/
theorem exists_before_slash (cs : List Char) : ∃ name, '/' ∉ name ∧
    cs = name ++ cs.dropWhile (· != '/') ∧ (cs.dropWhile (· != '/')).head? ∈ [none, some '/'] := by
  induction cs with
  | nil => exact ⟨[], by simp, rfl, by simp⟩
  | cons c cs ih =>
    by_cases hc : c = '/'
    · subst hc
      exact ⟨[], by simp, by simp, by simp⟩
    · obtain ⟨name, hslash, hsplit, hhead⟩ := ih
      rw [List.dropWhile_cons_of_pos (by simpa using hc)]
      refine ⟨c :: name, ?_, ?_, hhead⟩
      · simpa using ⟨fun heq => hc heq.symm, hslash⟩
      · rw [List.cons_append, ← hsplit]

/-- The last step of a text at whose end everything counts, if it does not end with a slash. -/
theorem components_of_trimmed {c : Char} {rest : List Char} (ht : Trimmed (c :: rest)) (hc : c ≠ '/') :
    ∃ x, x ≠ .root ∧ (ofChars (c :: rest).reverse).components
      = (ofChars (rest.dropWhile (· != '/')).reverse).components ++ [x] := by
  obtain ⟨tail, htail, hsplit, hhead⟩ := exists_before_slash rest
  -- the characters after the last slash, in the order of the text
  obtain ⟨name, hname⟩ : ∃ name, name = (c :: tail).reverse := ⟨_, rfl⟩
  have hslash : '/' ∉ name := by simpa [hname] using ⟨htail, fun heq => hc heq.symm⟩
  cases hbefore : rest.dropWhile (· != '/') with
  | nil =>
    rw [hbefore, List.append_nil] at hsplit
    subst hsplit
    rw [← hname, components_of_not_mem hslash]
    by_cases hdot : name = ['.']
    · exact ⟨.here, by simp, if_pos hdot⟩
    · obtain ⟨x, hstep⟩ := exists_step (by simp [hname]) hdot
      exact ⟨x, ne_root_of_ofText? hstep, by rw [if_neg hdot, hstep]; rfl⟩
  | cons d above =>
    rw [hbefore] at hsplit hhead
    obtain rfl : d = '/' := by simpa using hhead
    have hall : (c :: rest).reverse = above.reverse ++ '/' :: name := by
      rw [hsplit, hname]
      simp
    -- the step does not vanish: a single dot after a slash would not count
    have hdot : name ≠ ['.'] := by
      intro heq
      have hcons : c :: tail = ['.'] := by simpa [hname] using congrArg List.reverse heq
      rw [hsplit, ← List.cons_append, hcons] at ht
      exact ht.dot above rfl
    obtain ⟨x, hstep⟩ := exists_step (by simp [hname]) hdot
    refine ⟨x, ne_root_of_ofText? hstep, ?_⟩
    rw [hall, components_append_slash hslash, hstep, List.reverse_cons]
    rfl

/-- A name is all there is of the step that it makes. -/
theorem eq_of_toList_ofText? {a b : List Char} {x : Component}
    (ha : (Component.ofText? (.ofList a)).toList = [x]) (hb : Component.ofText? (.ofList b) = some x) :
    a = b := by
  have hstep : Component.ofText? (.ofList a) = some x := by
    cases hs : Component.ofText? (.ofList a) with
    | none =>
      rw [hs] at ha
      cases ha
    | some y =>
      rw [hs] at ha
      cases ha
      rfl
  simpa using congrArg String.toList (ofText?_inj hstep hb)

/-- No shorter part of a text without slashes has the same steps. -/
theorem eq_of_prefix_of_not_mem {a b : List Char} (hslash : '/' ∉ b) (h : a <+: b)
    (hsame : (ofChars a).components = (ofChars b).components) : a = b := by
  have hslash' : '/' ∉ a := fun hmem => hslash (h.subset hmem)
  rw [components_of_not_mem hslash', components_of_not_mem hslash] at hsame
  by_cases hempty : b = []
  · subst hempty
    exact List.prefix_nil.mp h
  by_cases hdot : b = ['.']
  · subst hdot
    cases a with
    | nil => exact absurd hsame (by decide)
    | cons c cs => simpa using h
  obtain ⟨x, hx⟩ := exists_step hempty hdot
  rw [if_neg hdot, hx] at hsame
  by_cases hdot' : a = ['.']
  · subst hdot'
    cases hsame
    rcases ofText?_eq_some hx with ⟨h, -⟩ | h <;> cases h
  · rw [if_neg hdot'] at hsame
    exact eq_of_toList_ofText? hsame hx

/-- No shorter part of a text that ends with a step after a slash has the same steps. -/
theorem eq_of_prefix_of_step {a above name : List Char} {x : Component} (hslash : '/' ∉ name)
    (hx : Component.ofText? (.ofList name) = some x) (h : a <+: above ++ '/' :: name)
    (hsame : (ofChars a).components = (ofChars (above ++ '/' :: name)).components) :
    a = above ++ '/' :: name := by
  have hsplit : above ++ '/' :: name = above ++ ['/'] ++ name := by simp
  rw [components_append_slash hslash, hx] at hsame
  rw [hsplit] at h ⊢
  rcases List.prefix_or_prefix_of_prefix h (List.prefix_append _ _) with hshort | ⟨name', rfl⟩
  · -- then the last step is missing
    have hlength := length_components_le hshort
    rw [hsame, List.length_append] at hlength
    exact absurd hlength (Nat.not_succ_le_self _)
  · have hpart := (List.prefix_append_right_inj _).mp h
    have hslash' : '/' ∉ name' := fun hmem => hslash (hpart.subset hmem)
    rw [List.append_assoc, List.singleton_append, components_append_slash hslash',
      List.append_cancel_left_eq] at hsame
    rw [eq_of_toList_ofText? hsame hx]

/-- If everything at the end of a text counts, then no shorter part of it has the same steps. -/
theorem Trimmed.eq_of_prefix {a b : List Char} (ht : Trimmed b.reverse) (h : a <+: b)
    (hsame : (ofChars a).components = (ofChars b).components) : a = b := by
  obtain ⟨name, hslash, rfl | ⟨above, rfl⟩⟩ := exists_last_name b
  · exact eq_of_prefix_of_not_mem hslash h hsame
  rw [List.reverse_append] at ht
  by_cases hname : name = []
  · -- a slash at the end counts only if it is the whole text
    subst hname
    cases habove : above.reverse with
    | nil =>
      obtain rfl : above = [] := by simpa using habove
      cases a with
      | nil => exact absurd hsame (by decide)
      | cons c cs => simpa using h
    | cons c rest => exact absurd (congrArg ('/' :: ·) habove) (ht.slash c rest)
  · have hdot : name ≠ ['.'] := by
      rintro rfl
      exact ht.dot above.reverse rfl
    obtain ⟨x, hx⟩ := exists_step hname hdot
    exact eq_of_prefix_of_step hslash hx h hsame

/-! ## The directory above -/

/-- A path is the directory above another one: it has all steps of this but the last, and no shorter
part of the text of this has them. -/
structure IsAbove (q p : FilePath) : Prop where
  components : ∃ x, x ≠ .root ∧ p.components = q.components ++ [x]
  text : q.text.toList <+: p.text.toList
  shortest : ∀ r : FilePath, r.text.toList <+: p.text.toList → r.components = q.components →
    q.text.toList.length ≤ r.text.toList.length

theorem components_of_trimFromEnd {p : FilePath} {r : List Char}
    (h : trimFromEnd p.text.toList.reverse = r) : (ofChars r.reverse).components = p.components := by
  rw [← h, components_trimFromEnd, List.reverse_reverse, ofChars_toList]

/-- What is left of a path without its last name is the directory above. -/
theorem isAbove_of_trimFromEnd {p : FilePath} {c : Char} {rest : List Char}
    (h : trimFromEnd p.text.toList.reverse = c :: rest) (hc : c ≠ '/') :
    (ofChars (trimFromEnd (rest.dropWhile (· != '/'))).reverse).IsAbove p := by
  have htrimmed := trimmed_trimFromEnd p.text.toList.reverse
  have hsuffix := trimFromEnd_suffix p.text.toList.reverse
  rw [h] at htrimmed hsuffix
  obtain ⟨x, hx, hstep⟩ := components_of_trimmed htrimmed hc
  have htext := trimmed_trimFromEnd (rest.dropWhile (· != '/'))
  have hpart : (trimFromEnd (rest.dropWhile (· != '/'))).reverse <+: p.text.toList := by
    rw [← List.reverse_suffix, List.reverse_reverse]
    exact (trimFromEnd_suffix _).trans
      ((List.dropWhile_suffix _).trans ((List.suffix_cons c rest).trans hsuffix))
  refine ⟨⟨x, hx, ?_⟩, ?_, ?_⟩
  · rw [components_trimFromEnd, ← hstep, components_of_trimFromEnd h]
  · rw [toList_text_ofChars]
    exact hpart
  · intro r hr hsame
    rw [toList_text_ofChars]
    refine Nat.le_of_not_lt fun hlt => ?_
    have hshort := List.prefix_of_prefix_length_le hr hpart (Nat.le_of_lt hlt)
    rw [← ofChars_toList r] at hsame
    rw [Trimmed.eq_of_prefix (by rwa [List.reverse_reverse]) hshort hsame] at hlt
    exact Nat.lt_irrefl _ hlt

/-- What the directory above a path is, if there is one. -/
theorem parent?_cases (p : FilePath) :
    (p.parent? = none ∧ (p.text = "" ∨ p.components = [.root]))
      ∨ ∃ q : FilePath, p.parent? = some q ∧ q.IsAbove p := by
  unfold parent?
  cases hr : trimFromEnd p.text.toList.reverse with
  | nil =>
    refine Or.inl ⟨rfl, Or.inl ?_⟩
    have hempty := trimFromEnd_eq_nil hr
    simpa using hempty
  | cons c rest =>
    dsimp only
    by_cases hc : c = '/'
    · subst hc
      rw [if_pos rfl]
      refine Or.inl ⟨rfl, Or.inr ?_⟩
      have htrimmed := trimmed_trimFromEnd p.text.toList.reverse
      rw [hr] at htrimmed
      cases rest with
      | nil => exact (components_of_trimFromEnd hr).symm.trans (by decide)
      | cons d rest => exact absurd rfl (htrimmed.slash d rest)
    · rw [if_neg hc]
      exact Or.inr ⟨_, rfl, isAbove_of_trimFromEnd hr hc⟩

/-- There is one directory above a path at most. -/
theorem IsAbove.unique {p q q' : FilePath} (h : q.IsAbove p) (h' : q'.IsAbove p) : q = q' := by
  obtain ⟨x, -, hx⟩ := h.components
  obtain ⟨x', -, hx'⟩ := h'.components
  obtain ⟨hsame, -⟩ := List.append_inj' (hx.symm.trans hx') rfl
  have hlength := Nat.le_antisymm (h.shortest q' h'.text hsame.symm) (h'.shortest q h.text hsame)
  have hpart := List.prefix_of_prefix_length_le h.text h'.text (Nat.le_of_eq hlength)
  have htext := String.toList_inj.mp (hpart.eq_of_length hlength)
  cases q
  cases q'
  exact congrArg _ htext

/-- Nothing is above the empty path or the root. -/
theorem IsAbove.not_top {p q : FilePath} (h : q.IsAbove p) :
    ¬(p.text = "" ∨ p.components = [.root]) := by
  obtain ⟨x, hx, hcomponents⟩ := h.components
  rintro (hempty | hroot)
  · have hnil : p.components = [] := by
      obtain ⟨text⟩ := p
      subst hempty
      rfl
    simp [hnil] at hcomponents
  · rw [hroot] at hcomponents
    rcases List.append_eq_singleton_iff.mp hcomponents.symm with ⟨-, hsame⟩ | ⟨-, hnil⟩
    · cases hsame
      exact hx rfl
    · cases hnil

theorem parent?_eq_some_iff {p q : FilePath} : p.parent? = some q ↔ q.IsAbove p := by
  rcases p.parent?_cases with ⟨hnone, htop⟩ | ⟨q', hq', habove⟩
  · rw [hnone]
    constructor
    · intro h
      cases h
    · intro h
      exact absurd htop h.not_top
  · rw [hq', Option.some.injEq]
    exact ⟨fun h => h ▸ habove, fun h => habove.unique h⟩

-- neither the dot between the slashes counts, nor the slashes at the end
example : (⟨"a/./b//"⟩ : FilePath).parent? = some ⟨"a"⟩ := by decide

theorem parent?_eq_none_iff {p : FilePath} :
    p.parent? = none ↔ p.text = "" ∨ p.components = [.root] := by
  rcases p.parent?_cases with ⟨hnone, htop⟩ | ⟨q, hq, habove⟩
  · exact ⟨fun _ => htop, fun _ => hnone⟩
  · rw [hq]
    constructor
    · intro h
      cases h
    · intro h
      exact absurd h habove.not_top

/-! ## The way up -/

/-- A path and the directories above it, the nearest first, up to the root or to the empty path. -/
inductive Climbs : FilePath → List FilePath → Prop where
  | root {p : FilePath} (h : p.components = [.root]) : Climbs p [p]
  | empty : Climbs ⟨""⟩ [⟨""⟩]
  | above {p q : FilePath} {ps : List FilePath} (h : q.IsAbove p) (hs : Climbs q ps) :
      Climbs p (p :: ps)

theorem ancestors_of_none {p : FilePath} (h : p.parent? = none) : p.ancestors = [p] := by
  rw [ancestors]
  split
  · rfl
  · next q hq =>
    rw [h] at hq
    cases hq

theorem ancestors_of_some {p q : FilePath} (h : p.parent? = some q) :
    p.ancestors = p :: q.ancestors := by
  rw [ancestors]
  split
  · next hq =>
    rw [h] at hq
    cases hq
  · next q' hq' =>
    rw [h] at hq'
    cases hq'
    rfl

theorem climbs_ancestors (p : FilePath) : p.Climbs p.ancestors := by
  fun_induction ancestors p with
  | case1 p h =>
    rcases parent?_eq_none_iff.mp h with hempty | hroot
    · obtain ⟨text⟩ := p
      subst hempty
      exact .empty
    · exact .root hroot
  | case2 p q h ih => exact .above (parent?_eq_some_iff.mp h) ih

/-- **The ancestors of a path are the way up from it**, and there is no other. -/
theorem climbs_iff {p : FilePath} {ps : List FilePath} : p.Climbs ps ↔ ps = p.ancestors := by
  constructor
  · intro h
    induction h with
    | root hroot => rw [ancestors_of_none (parent?_eq_none_iff.mpr (Or.inr hroot))]
    | empty => rw [ancestors_of_none (parent?_eq_none_iff.mpr (Or.inl rfl))]
    | above habove hs ih => rw [ancestors_of_some (parent?_eq_some_iff.mpr habove), ih]
  · rintro rfl
    exact p.climbs_ancestors

theorem root_mem_components {p : FilePath} : .root ∈ p.components ↔ p.isAbsolute = true := by
  have hsteps := root_not_mem_steps p.text.toList
  rw [← ofChars_toList p, components_ofChars, List.mem_append, or_iff_left hsteps, ofChars_toList]
  unfold start
  by_cases habs : p.isAbsolute = true
  · simp [habs]
  · rw [if_neg habs]
    split <;> simp [habs]

theorem IsAbove.isAbsolute_eq {p q : FilePath} (h : q.IsAbove p) : q.isAbsolute = p.isAbsolute := by
  obtain ⟨x, hx, hcomponents⟩ := h.components
  rw [Bool.eq_iff_iff, ← root_mem_components, ← root_mem_components, hcomponents, List.mem_append,
    List.mem_singleton, or_iff_left hx.symm]

/-- The way up from an absolute path ends at the root, any other at the empty path. -/
theorem Climbs.getLast? {p : FilePath} {ps : List FilePath} (h : p.Climbs ps) :
    ∃ top, ps.getLast? = some top
      ∧ if p.isAbsolute then top.components = [.root] else top.text = "" := by
  induction h with
  | @root p hroot =>
    have habs : p.isAbsolute = true := root_mem_components.mp (by simp [hroot])
    exact ⟨p, rfl, by rw [if_pos habs]; exact hroot⟩
  | empty => exact ⟨⟨""⟩, rfl, rfl⟩
  | @above p q ps habove hs ih =>
    obtain ⟨top, hlast, htop⟩ := ih
    refine ⟨top, ?_, by rw [← habove.isAbsolute_eq]; exact htop⟩
    cases hs <;> exact hlast

/-! ## Names behind a slash -/

theorem components_text {name : String} (h : '/' ∉ name.toList) :
    (⟨name⟩ : FilePath).components
      = if name = "." then [.here] else (Component.ofText? name).toList := by
  have hname := components_of_not_mem h
  have hdot : name.toList = ['.'] ↔ name = "." := by
    rw [← String.toList_inj]
    rfl
  rw [ofChars_toList ⟨name⟩, String.ofList_toList] at hname
  simpa only [hdot] using hname

theorem components_text_slash {above : String} (h : above ≠ "") :
    (⟨above ++ "/"⟩ : FilePath).components = (⟨above⟩ : FilePath).components := by
  have hne : above.toList ≠ [] := fun hnil => h (String.toList_inj.mp hnil)
  have hsame := components_append_singleton hne
  rw [← ofChars_toList ⟨above ++ "/"⟩, ← ofChars_toList ⟨above⟩]
  simpa using hsame

theorem components_text_slash_text {name : String} (h : '/' ∉ name.toList) (above : String) :
    (⟨above ++ "/" ++ name⟩ : FilePath).components
      = (⟨above ++ "/"⟩ : FilePath).components ++ (Component.ofText? name).toList := by
  have hname := components_append_slash h above.toList
  rw [String.ofList_toList] at hname
  rw [← ofChars_toList ⟨above ++ "/" ++ name⟩, ← ofChars_toList ⟨above ++ "/"⟩]
  simpa using hname

/-! ## Names in a directory -/

/-- A text that is one step, whatever stands before it. -/
structure IsName (name : String) : Prop where
  slash : '/' ∉ name.toList
  step : Component.ofText? name = some (.name name)

/-- A name in a directory adds its step to those of the directory. -/
theorem components_join {name : String} (h : IsName name) (d : FilePath) :
    (d.join name).components = d.components ++ [.name name] := by
  obtain ⟨text⟩ := d
  unfold join
  split
  · next hempty =>
    obtain rfl : text = "" := by simpa using List.getLast?_eq_none_iff.mp hempty
    have hdot : name ≠ "." := by
      rintro rfl
      exact absurd h.step (by decide)
    rw [components_text h.slash, if_neg hdot, h.step]
    rfl
  · next hlast =>
    obtain ⟨before, hbefore⟩ := List.getLast?_eq_some_iff.mp hlast
    obtain rfl : text = .ofList before ++ "/" := by
      rw [← String.toList_inj, hbefore]
      simp
    rw [components_text_slash_text h.slash, h.step]
    rfl
  · next c _ hlast =>
    have hne : text ≠ "" := by
      rintro rfl
      cases hlast
    rw [components_text_slash_text h.slash, components_text_slash hne, h.step]
    rfl

theorem fileName?_join {name : String} (h : IsName name) (d : FilePath) :
    (d.join name).fileName? = some name := by
  unfold fileName?
  rw [components_join h, List.getLast?_concat]

end SiteManifest.FilePath
