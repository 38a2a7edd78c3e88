import Mathlib.Algebra.Group.Nat.Defs
import Mathlib.Data.List.TakeWhile
import SiteManifest.Decimal.Notation

/-!
# Numerals

What it means for digits to be a decimal number of at least some width, said without the writing of it. There
is one numeral for each number and width, and it is the one that is written. A numeral can be told from what
follows it unless a digit follows, and so can a sign from the numeral.
-/

namespace SiteManifest.Decimal

/-- Digits that spell a number: zeros stand in front only as far as the width asks for them. -/
structure IsNumeral (width n : Nat) (ds : List Char) : Prop where
  digits : ∀ c ∈ ds, c.isDigit = true
  value : Nat.ofDigitChars 10 ds 0 = n
  long : width ≤ ds.length
  short : ds.length = width ∨ ds.head? ≠ some '0'

/-! ## Writing -/

theorem isDigit_of_mem_digitsOf {n : Nat} {c : Char} (h : c ∈ digitsOf n) : c.isDigit = true :=
  Nat.isDigit_of_mem_toDigits (by decide) (by decide) h

/-- The digits of a number other than zero do not start with a zero. The induction takes the last digit
off. -/
theorem head?_digitsOf {n : Nat} (h : 0 < n) : (digitsOf n).head? ≠ some '0' := by
  induction n using Nat.strongRecOn with
  | ind n ih =>
    unfold digitsOf at ih ⊢
    rw [Nat.toDigits_eq_if (by decide)]
    split
    · next hsmall =>
      have hdigits : ∀ d < 10, 0 < d → [Nat.digitChar d].head? ≠ some '0' := by decide
      exact hdigits n hsmall h
    · next hlarge =>
      rw [List.head?_append, Option.or_of_isSome (List.isSome_head?.mpr Nat.toDigits_ne_nil)]
      exact ih (n / 10) (by omega) (by omega)

/-- A number is written with as few zeros in front as a width allows. -/
theorem isNumeral_leftpad {width : Nat} (h : 0 < width) (n : Nat) :
    IsNumeral width n ((digitsOf n).leftpad width '0') := by
  have hvalue : Nat.ofDigitChars 10 (digitsOf n) 0 = n := Nat.ofDigitChars_ten_toDigits
  rw [List.leftpad]
  refine ⟨?_, ?_, ?_, ?_⟩
  · intro c hc
    obtain hzero | hdigit := List.mem_append.mp hc
    · rw [List.eq_of_mem_replicate hzero]
      decide
    · exact isDigit_of_mem_digitsOf hdigit
  · rw [Nat.ofDigitChars_append, Nat.ofDigitChars_replicate_zero, Nat.mul_zero, hvalue]
  · rw [List.length_append, List.length_replicate]
    omega
  · by_cases hwide : (digitsOf n).length ≤ width
    · left
      rw [List.length_append, List.length_replicate]
      omega
    · right
      rw [show width - (digitsOf n).length = 0 by omega, List.replicate_zero, List.nil_append]
      refine head?_digitsOf (Nat.pos_of_ne_zero ?_)
      rintro rfl
      have hone : (digitsOf 0).length = 1 := rfl
      omega

theorem isNumeral_digitsOf (n : Nat) : IsNumeral 1 n (digitsOf n) := by
  have h := isNumeral_leftpad Nat.one_pos n
  have hlength : 0 < (digitsOf n).length := Nat.length_toDigits_pos
  rwa [List.leftpad, show 1 - (digitsOf n).length = 0 by omega, List.replicate_zero,
    List.nil_append] at h

/-! ## One numeral for each number -/

/-- The first digit counts the units of its place. -/
theorem ofDigitChars_cons (c : Char) (ds : List Char) :
    Nat.ofDigitChars 10 (c :: ds) 0
      = 10 ^ ds.length * (c.toNat - '0'.toNat) + Nat.ofDigitChars 10 ds 0 := by
  rw [Nat.ofDigitChars_cons, Nat.ofDigitChars_eq_ofDigitChars_zero, Nat.mul_zero, Nat.zero_add]

theorem ofDigitChars_lt {ds : List Char} (h : ∀ c ∈ ds, c.isDigit = true) :
    Nat.ofDigitChars 10 ds 0 < 10 ^ ds.length := by
  induction ds with
  | nil => decide
  | cons c ds ih =>
    have hdigit := (Char.isDigit_iff_toNat.mp (h c (List.mem_cons_self ..))).2
    have hplace : c.toNat - '0'.toNat + 1 ≤ 10 := by
      have hzero : '0'.toNat = 48 := rfl
      have hnine : '9'.toNat = 57 := rfl
      omega
    calc Nat.ofDigitChars 10 (c :: ds) 0
        = 10 ^ ds.length * (c.toNat - '0'.toNat) + Nat.ofDigitChars 10 ds 0 := ofDigitChars_cons c ds
      _ < 10 ^ ds.length * (c.toNat - '0'.toNat) + 10 ^ ds.length :=
        Nat.add_lt_add_left (ih fun d hd => h d (List.mem_cons_of_mem _ hd)) _
      _ = 10 ^ ds.length * (c.toNat - '0'.toNat + 1) := (Nat.mul_succ ..).symm
      _ ≤ 10 ^ (c :: ds).length := Nat.mul_le_mul_left _ hplace

/-- Digits that do not start with a zero spell a number that fewer digits cannot spell. -/
theorem pow_le_ofDigitChars {c : Char} {ds : List Char} (hdigit : c.isDigit = true) (hc : c ≠ '0') :
    10 ^ ds.length ≤ Nat.ofDigitChars 10 (c :: ds) 0 := by
  have hfirst := (Char.isDigit_iff_toNat.mp hdigit).1
  have hplace : 0 < c.toNat - '0'.toNat := by
    have hne := mt Char.toNat_inj.mp hc
    omega
  rw [ofDigitChars_cons]
  exact (Nat.le_mul_of_pos_right _ hplace).trans (Nat.le_add_right _ _)

/-- As many digits that spell the same number are the same. The induction is on the first digit, which is the
quotient by its place. -/
theorem eq_of_ofDigitChars {ds ds' : List Char} (h : ∀ c ∈ ds, c.isDigit = true)
    (h' : ∀ c ∈ ds', c.isDigit = true) (hlength : ds.length = ds'.length)
    (hvalue : Nat.ofDigitChars 10 ds 0 = Nat.ofDigitChars 10 ds' 0) : ds = ds' := by
  induction ds generalizing ds' with
  | nil => exact (List.length_eq_zero_iff.mp hlength.symm).symm
  | cons c ds ih =>
    cases ds' with
    | nil => cases hlength
    | cons c' ds' =>
      have hrest (d : Char) (hd : d ∈ ds) := h d (List.mem_cons_of_mem _ hd)
      have hrest' (d : Char) (hd : d ∈ ds') := h' d (List.mem_cons_of_mem _ hd)
      have hlengths : ds.length = ds'.length := Nat.succ.inj hlength
      rw [ofDigitChars_cons, ofDigitChars_cons, hlengths] at hvalue
      have hlt := ofDigitChars_lt hrest
      rw [hlengths] at hlt
      have hplace : c.toNat - '0'.toNat = c'.toNat - '0'.toNat := by
        have hquotient := congrArg (· / 10 ^ ds'.length) hvalue
        simpa only [Nat.mul_add_div (Nat.pow_pos (by decide : 0 < 10)), Nat.div_eq_of_lt hlt,
          Nat.div_eq_of_lt (ofDigitChars_lt hrest'), Nat.add_zero] using hquotient
      have hc : c = c' := by
        have hfirst := (Char.isDigit_iff_toNat.mp (h c (List.mem_cons_self ..))).1
        have hfirst' := (Char.isDigit_iff_toNat.mp (h' c' (List.mem_cons_self ..))).1
        exact Char.toNat_inj.mp (by omega)
      rw [hplace] at hvalue
      rw [hc, ih hrest hrest' hlengths (Nat.add_left_cancel hvalue)]

namespace IsNumeral

variable {width n : Nat} {ds ds' : List Char}

/-- A numeral that is wider than asked for has no zero in front, so it is the shortest one. -/
theorem length_le (h : IsNumeral width n ds) (h' : IsNumeral width n ds') :
    ds.length ≤ ds'.length := by
  have hlong' := h'.long
  obtain hwidth | hhead := h.short
  · omega
  · cases ds with
    | nil => exact Nat.zero_le _
    | cons c ds =>
      have hdigit := h.digits c (List.mem_cons_self ..)
      have hc : c ≠ '0' := fun hzero => hhead (congrArg some hzero)
      have hpow : 10 ^ ds.length < 10 ^ ds'.length := by
        calc 10 ^ ds.length ≤ Nat.ofDigitChars 10 (c :: ds) 0 := pow_le_ofDigitChars hdigit hc
          _ = Nat.ofDigitChars 10 ds' 0 := h.value.trans h'.value.symm
          _ < 10 ^ ds'.length := ofDigitChars_lt h'.digits
      exact (Nat.pow_lt_pow_iff_right (by decide)).mp hpow

/-- **There is one numeral for each number and width.** -/
theorem unique (h : IsNumeral width n ds) (h' : IsNumeral width n ds') : ds = ds' :=
  eq_of_ofDigitChars h.digits h'.digits (Nat.le_antisymm (h.length_le h') (h'.length_le h))
    (h.value.trans h'.value.symm)

end IsNumeral

/-! ## Reading -/

/-- Nothing that would continue a numeral. -/
def Stops (cs : List Char) : Prop := ∀ c ∈ cs.head?, c.isDigit = false

namespace IsNumeral

variable {width width' n n' : Nat} {ds ds' rest rest' : List Char}

theorem takeWhile_append (h : IsNumeral width n ds) (hrest : Stops rest) :
    (ds ++ rest).takeWhile Char.isDigit = ds := by
  rw [List.takeWhile_append_of_pos h.digits]
  cases rest with
  | nil => rw [List.takeWhile_nil, List.append_nil]
  | cons c _ =>
    rw [List.takeWhile_cons_of_neg (by rw [hrest c rfl]; decide), List.append_nil]

/-- **A numeral can be told from what follows it.** -/
theorem cancel (h : IsNumeral width n ds) (h' : IsNumeral width' n' ds') (hrest : Stops rest)
    (hrest' : Stops rest') (heq : ds ++ rest = ds' ++ rest') : n = n' ∧ rest = rest' := by
  have hdigits : ds = ds' := by
    rw [← h.takeWhile_append hrest, heq, h'.takeWhile_append hrest']
  rw [hdigits] at heq h
  exact ⟨h.value.symm.trans h'.value, List.append_cancel_left heq⟩

/-- The digits of a numeral end its sign. -/
theorem takeWhile_sign_append {sign : List Char} (hsign : ∀ c ∈ sign, c.isDigit = false)
    (h : IsNumeral width n ds) (hwidth : 0 < width) (rest : List Char) :
    (sign ++ (ds ++ rest)).takeWhile (fun c => !c.isDigit) = sign := by
  rw [List.takeWhile_append_of_pos fun c hc => by rw [hsign c hc]; decide]
  cases ds with
  | nil => exact absurd h.long (by rw [List.length_nil]; omega)
  | cons c _ =>
    have hdigit := h.digits c (List.mem_cons_self ..)
    rw [List.cons_append, List.takeWhile_cons_of_neg (by rw [hdigit]; decide), List.append_nil]

/-- **A sign can be told from the numeral behind it.** -/
theorem sign_cancel {sign sign' : List Char} (hsign : ∀ c ∈ sign, c.isDigit = false)
    (hsign' : ∀ c ∈ sign', c.isDigit = false) (h : IsNumeral width n ds)
    (h' : IsNumeral width' n' ds') (hwidth : 0 < width) (hwidth' : 0 < width')
    (heq : sign ++ (ds ++ rest) = sign' ++ (ds' ++ rest')) :
    sign = sign' ∧ ds ++ rest = ds' ++ rest' := by
  have hsame : sign = sign' := by
    rw [← h.takeWhile_sign_append hsign hwidth rest, heq,
      h'.takeWhile_sign_append hsign' hwidth' rest']
  rw [hsame] at heq
  exact ⟨hsame, List.append_cancel_left heq⟩

end IsNumeral

end SiteManifest.Decimal
