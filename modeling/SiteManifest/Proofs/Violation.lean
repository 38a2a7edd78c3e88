import SiteManifest.Proofs.FieldPath
import SiteManifest.Proofs.Text.Quoted
import SiteManifest.Violation

/-!
# What the message of a violation tells

A message starts with the path of the field. Behind it, after a space, stands what is wrong there. If no
key of the path holds a space, the first space of the message ends the path, and so the message tells both.
What is wrong is told from its first words: those of no kind of violation start as those of another one.
-/

namespace SiteManifest

/-! ## Paths without spaces -/

namespace FieldPath

/-- A key that shows in a message, and that ends before the space behind it. -/
structure WordKey (name : String) : Prop extends PlainKey name where
  space : ' ' ∉ name.toList
  printable : Text.Printable name

instance (name : String) : Decidable (WordKey name) :=
  decidable_of_iff (PlainKey name ∧ ' ' ∉ name.toList ∧ Text.Printable name)
    ⟨fun h => ⟨h.1, h.2.1, h.2.2⟩, fun h => ⟨h.toPlainKey, h.space, h.printable⟩⟩

/-- All keys of a path are words. -/
inductive Worded : FieldPath → Prop where
  | root : Worded .root
  | key {parent : FieldPath} {name : String} (h : Worded parent) (hname : WordKey name) :
    Worded (.key parent name)
  | item {parent : FieldPath} {index : Nat} (h : Worded parent) : Worded (.item parent index)

namespace Worded

variable {p : FieldPath}

theorem plain (h : p.Worded) : p.Plain := by
  induction h with
  | root => exact .root
  | key _ hname ih => exact .key ih hname.toPlainKey
  | item _ ih => exact .item ih

/-- What a text of a path puts between its keys shows, and is no space. -/
theorem of_mem_text (h : p.Worded) {c : Char} (hc : c ∈ p.text.toList) :
    c ≠ ' ' ∧ Text.isUnprintable c = false := by
  have hdigit {n : Nat} (hc : c ∈ Decimal.digitsOf n) : c ≠ ' ' ∧ Text.isUnprintable c = false := by
    have hc := Nat.isDigit_of_mem_toDigits (by decide) (by decide) hc
    have hrange : 48 ≤ c.toNat ∧ c.toNat ≤ 57 := Char.isDigit_iff_toNat.mp hc
    refine ⟨?_, Text.isUnprintable_of_ascii (by omega) (by omega)⟩
    rintro rfl
    cases hc
  induction h with
  | root => cases hc
  | @key parent name _ hname ih =>
    have hword (hc : c ∈ name.toList) : c ≠ ' ' ∧ Text.isUnprintable c = false :=
      ⟨fun h => hname.space (h ▸ hc), hname.printable c hc⟩
    by_cases hroot : parent = .root
    · subst hroot
      exact hword hc
    · rw [toList_text_key hroot, List.mem_append, List.mem_cons] at hc
      rcases hc with hc | rfl | hc
      · exact ih hc
      · exact ⟨by decide, by decide⟩
      · exact hword hc
  | item _ ih =>
    rw [toList_text_item, List.mem_append, List.mem_cons, List.mem_append, List.mem_singleton] at hc
    rcases hc with hc | rfl | hc | rfl
    · exact ih hc
    · exact ⟨by decide, by decide⟩
    · exact hdigit hc
    · exact ⟨by decide, by decide⟩

end Worded

end FieldPath

/-! ## The parts of a message -/

/-- All flaws. -/
def LinkFlaw.all : List LinkFlaw := [.empty, .notRooted, .protocolRelative, .padded, .notAbsolute]

theorem LinkFlaw.mem_all (f : LinkFlaw) : f ∈ all := by
  cases f with
  | _ => decide

theorem LinkFlaw.message_injective {f g : LinkFlaw} (h : f.message = g.message) : f = g := by
  have hall : ∀ f ∈ all, ∀ g ∈ all, f.message = g.message → f = g := by decide
  exact hall f f.mem_all g g.mem_all h

namespace Violation

/-- The first words of a message behind the path. They tell the kind of a violation. -/
def opening : Violation → String
  | .missing _ => "is required"
  | .emptyText _ => "cannot be empty"
  | .invalidLink _ _ _ => "has invalid link "
  | .unknownIcon _ _ => "has unknown icon "
  | .invalidBasePath _ => "\""

/-- What a message says behind these words. -/
def details : Violation → List Char
  | .missing _ => []
  | .emptyText _ => []
  | .invalidLink _ link flaw => (Text.quote link).toList ++ (": ".toList ++ flaw.message.toList)
  | .unknownIcon _ icon => (Text.quote icon).toList
  | .invalidBasePath path =>
    path.toList.flatMap Text.quoteChar ++ '"' :: " must start and end with '/'".toList

/-- A message is made of the path, the first words, and the details. -/
theorem toList_message (x : Violation) :
    x.message.toList = x.field.text.toList ++ ' ' :: (x.opening.toList ++ x.details) := by
  cases x with
  | missing p =>
    have hspace : " is required".toList = ' ' :: "is required".toList := by decide
    unfold message opening details
    rw [String.toList_append, hspace, List.append_nil]
    rfl
  | emptyText p =>
    have hspace : " cannot be empty".toList = ' ' :: "cannot be empty".toList := by decide
    unfold message opening details
    rw [String.toList_append, hspace, List.append_nil]
    rfl
  | invalidLink p link flaw =>
    have hspace : " has invalid link ".toList = ' ' :: "has invalid link ".toList := by decide
    unfold message opening details
    rw [String.toList_append, String.toList_append, String.toList_append, String.toList_append, hspace,
      List.append_assoc, List.append_assoc, List.append_assoc, List.cons_append]
    rfl
  | unknownIcon p icon =>
    have hspace : " has unknown icon ".toList = ' ' :: "has unknown icon ".toList := by decide
    unfold message opening details
    rw [String.toList_append, String.toList_append, hspace, List.append_assoc, List.cons_append]
    rfl
  | invalidBasePath path =>
    have hpath : "basePath ".toList = (FieldPath.top "basePath").text.toList ++ [' '] := by decide
    have hquote : (invalidBasePath path).opening.toList = ['"'] := by
      show "\"".toList = ['"']
      decide
    unfold message
    rw [hquote, String.toList_append, String.toList_append, List.append_assoc,
      Text.toList_quote_append, hpath, List.append_assoc]
    rfl

/-- The first words of all kinds. -/
def openings : List String :=
  ["is required", "cannot be empty", "has invalid link ", "has unknown icon ", "\""]

theorem opening_mem (x : Violation) : x.opening ∈ openings := by
  cases x with
  | _ => simp [opening, openings]

/-! ## What a message holds -/

theorem printable_details (x : Violation) : ∀ c ∈ x.details, Text.isUnprintable c = false := by
  intro c hc
  cases x with
  | missing p => cases hc
  | emptyText p => cases hc
  | invalidLink p link flaw =>
    have hcolon : Text.Printable ": " := by decide
    have hflaws : ∀ f ∈ LinkFlaw.all, Text.Printable f.message := by decide
    rcases List.mem_append.mp hc with hc | hc
    · exact Text.printable_quote link c hc
    · rcases List.mem_append.mp hc with hc | hc
      · exact hcolon c hc
      · exact hflaws flaw flaw.mem_all c hc
  | unknownIcon p icon => exact Text.printable_quote icon c hc
  | invalidBasePath path =>
    have hrule : Text.Printable " must start and end with '/'" := by decide
    rcases List.mem_append.mp hc with hc | hc
    · obtain ⟨d, -, hc⟩ := List.mem_flatMap.mp hc
      exact Text.isUnprintable_of_mem_quoteChar hc
    · rcases List.mem_cons.mp hc with rfl | hc
      · decide
      · exact hrule c hc

/-- The message of a violation shows, whatever the value holds that is to blame. -/
theorem printable_message {x : Violation} (h : x.field.Worded) : Text.Printable x.message := by
  have hopenings : ∀ s ∈ openings, Text.Printable s := by decide
  intro c hc
  rw [toList_message, List.mem_append, List.mem_cons, List.mem_append] at hc
  rcases hc with hc | rfl | hc | hc
  · exact (h.of_mem_text hc).2
  · decide
  · exact hopenings _ x.opening_mem c hc
  · exact x.printable_details c hc

/-! ## What a message tells -/

/-- No kind starts as another one goes on, so the first words are told from what follows them. -/
theorem opening_append_inj {x y : Violation} {xs ys : List Char}
    (h : x.opening.toList ++ xs = y.opening.toList ++ ys) : x.opening = y.opening ∧ xs = ys := by
  have hfree : ∀ s ∈ openings, ∀ t ∈ openings, s.toList <+: t.toList → s = t := by decide
  have hsame : x.opening = y.opening := by
    have hx : x.opening.toList <+: y.opening.toList ++ ys := ⟨xs, h⟩
    rcases List.prefix_or_prefix_of_prefix hx (List.prefix_append _ _) with hprefix | hprefix
    · exact hfree _ x.opening_mem _ y.opening_mem hprefix
    · exact (hfree _ y.opening_mem _ x.opening_mem hprefix).symm
  rw [hsame] at h
  exact ⟨hsame, List.append_cancel_left h⟩

/-- A violation is told by its field, its kind and its details. -/
theorem eq_of_details {x y : Violation} (hfield : x.field = y.field) (hkind : x.opening = y.opening)
    (h : x.details = y.details) : x = y := by
  cases x with
  | missing p =>
    cases y with
    | missing q => exact congrArg missing hfield
    | _ => exact absurd hkind (by simp [opening])
  | emptyText p =>
    cases y with
    | emptyText q => exact congrArg emptyText hfield
    | _ => exact absurd hkind (by simp [opening])
  | invalidLink p link flaw =>
    cases y with
    | invalidLink q link' flaw' =>
      obtain ⟨rfl, hrest⟩ := Text.quote_append_inj h
      have hflaw : flaw.message = flaw'.message := String.toList_inj.mp (List.append_cancel_left hrest)
      rw [show p = q from hfield, LinkFlaw.message_injective hflaw]
    | _ => exact absurd hkind (by simp [opening])
  | unknownIcon p icon =>
    cases y with
    | unknownIcon q icon' =>
      have hquote : (Text.quote icon).toList ++ [] = (Text.quote icon').toList ++ [] := by
        rw [show (Text.quote icon).toList = (Text.quote icon').toList from h]
      rw [show p = q from hfield, (Text.quote_append_inj hquote).1]
    | _ => exact absurd hkind (by simp [opening])
  | invalidBasePath path =>
    cases y with
    | invalidBasePath path' =>
      obtain ⟨hpath, -⟩ := Text.flatMap_quoteChar_append_inj h
      rw [String.toList_inj.mp hpath]
    | _ => exact absurd hkind (by simp [opening])

/-- Among the violations at paths without spaces, the message tells which it is. -/
theorem message_inj {x y : Violation} (hx : x.field.Worded) (hy : y.field.Worded)
    (h : x.message = y.message) : x = y := by
  have hlist := congrArg String.toList h
  rw [toList_message, toList_message] at hlist
  obtain ⟨htext, hrest⟩ := append_cons_inj_of_not_mem_front (fun hc => (hx.of_mem_text hc).1 rfl)
    (fun hc => (hy.of_mem_text hc).1 rfl) hlist
  have hfield : x.field = y.field :=
    FieldPath.text_injective hx.plain hy.plain (String.toList_inj.mp htext)
  obtain ⟨hkind, hdetails⟩ := opening_append_inj hrest
  exact eq_of_details hfield hkind hdetails

end Violation

end SiteManifest
