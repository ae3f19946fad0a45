import EclairWallet.Library.JavaNumber
import Mathlib.Data.List.Count

/-!
# Formatting without arguments

`String.format` with a format string alone.  A specifier starts with a percent
sign, and may have an index, flags and a width before its conversion.  Only
the percent sign and the line separator need no argument; every other
conversion, and what is no specifier, throws.  Each specifier uses up a
percent sign, so the texts that stay as they are are those without one.
-/

namespace EclairWallet.JavaFormat

open JavaNumber (asciiDigit parseInt)

/-- An argument index, which `%` and `n` ignore. -/
def skipIndex (text : List Char) : List Char :=
  match text.takeWhile Char.isDigit, text.dropWhile Char.isDigit with
  | _ :: _, '$' :: rest => rest
  | _, _ => text

/-- The only flag the percent sign has. -/
def leftJustify : List Char → Bool
  | '-' :: _ => true
  | _ => false

def skipFlag (text : List Char) : List Char :=
  if leftJustify text then text.drop 1 else text

/-- A width that is no `int` counts as none. -/
def width (digits : List Char) : Option Nat :=
  (parseInt asciiDigit digits).map Int.toNat

def justify (left : Bool) (width : Nat) : List Char :=
  if left then '%' :: List.replicate (width - 1) ' '
  else List.replicate (width - 1) ' ' ++ ['%']

/-- What a conversion writes, and the text behind it. -/
def convert (left : Bool) (width : Option Nat) :
    List Char → Option (List Char × List Char)
  | '%' :: rest =>
      match width with
      | some width => some (justify left width, rest)
      | none => if left then none else some (['%'], rest)
  | 'n' :: rest =>
      if left ∨ width ≠ none then none else some (['\n'], rest)
  | _ => none

/-- A specifier behind its percent sign.  A zero before the width is a flag,
which neither conversion has. -/
def specifier (text : List Char) : Option (List Char × List Char) :=
  let flags := skipIndex text
  let digits := (skipFlag flags).takeWhile Char.isDigit
  if digits.head? = some '0' then none
  else
    convert (leftJustify flags) (width digits)
      ((skipFlag flags).dropWhile Char.isDigit)

/-! ## A specifier ends -/

theorem skipIndex_sublist (text : List Char) :
    (skipIndex text).Sublist text := by
  unfold skipIndex
  split
  next rest behind =>
    have suffix := @List.dropWhile_sublist _ text Char.isDigit
    rw [behind] at suffix
    exact (List.sublist_cons_self _ _).trans suffix
  next => exact List.Sublist.refl _

theorem skipFlag_sublist (text : List Char) :
    (skipFlag text).Sublist text := by
  unfold skipFlag
  split
  · exact List.drop_sublist 1 text
  · exact List.Sublist.refl _

/-- A percent sign is written for one that is read. -/
theorem convert_shrinks {left : Bool} {width : Option Nat}
    {text written rest : List Char}
    (converted : convert left width text = some (written, rest)) :
    rest.length < text.length ∧
      written.count '%' + rest.count '%' ≤ text.count '%' := by
  unfold convert at converted
  split at converted
  · split at converted
    · cases converted
      have one : ∀ left width, (justify left width).count '%' = 1 := by
        intro left width
        cases left <;> simp [justify, List.count_replicate]
      simp [one, Nat.add_comm]
    · split at converted
      · cases converted
      · cases converted
        simp [Nat.add_comm]
  · split at converted
    · cases converted
    · cases converted
      simp
  · cases converted

theorem specifier_shrinks {text written rest : List Char}
    (parsed : specifier text = some (written, rest)) :
    rest.length < text.length ∧
      written.count '%' + rest.count '%' ≤ text.count '%' := by
  unfold specifier at parsed
  dsimp only at parsed
  split at parsed
  · cases parsed
  · obtain ⟨shorter, fewer⟩ := convert_shrinks parsed
    have inText := (@List.dropWhile_sublist _ (skipFlag (skipIndex text))
      Char.isDigit).trans ((skipFlag_sublist _).trans (skipIndex_sublist text))
    exact ⟨shorter.trans_le inText.length_le,
      fewer.trans (inText.count_le '%')⟩

/-- `String.format(text)`. -/
def format (text : List Char) : Option (List Char) :=
  match text with
  | [] => some []
  | char :: rest =>
      if char = '%' then
        match _ : specifier rest with
        | none => none
        | some (written, behind) => (format behind).map (written ++ ·)
      else (format rest).map (char :: ·)
termination_by text.length
decreasing_by
  · have shorter := (specifier_shrinks ‹_›).1
    rw [List.length_cons]
    omega
  · simp

@[simp] theorem format_nil : format [] = some [] := by
  rw [format]

theorem format_cons_of_ne {char : Char} (other : char ≠ '%')
    (rest : List Char) :
    format (char :: rest) = (format rest).map (char :: ·) := by
  rw [format, if_neg other]

theorem format_percent (rest : List Char) :
    format ('%' :: rest) =
      (specifier rest).bind (fun parsed =>
        (format parsed.2).map (parsed.1 ++ ·)) := by
  rw [format, if_pos rfl]
  split
  next parsed => rw [parsed, Option.bind_none]
  next written behind parsed => rw [parsed, Option.bind_some]

/-! ## Texts that stay as they are -/

theorem format_of_not_mem {text : List Char} (plain : '%' ∉ text) :
    format text = some text := by
  induction text with
  | nil => exact format_nil
  | cons char text induction =>
      rw [List.mem_cons, not_or] at plain
      rw [format_cons_of_ne (Ne.symm plain.1), induction plain.2]
      rfl

/-- Percent signs get fewer, if there are any. -/
theorem count_format {text written : List Char}
    (formatted : format text = some written) :
    written.count '%' ≤ text.count '%' - 1 := by
  induction size : text.length using Nat.strong_induction_on
    generalizing text written with
  | h length induction =>
      match text with
      | [] =>
          rw [format_nil, Option.some.injEq] at formatted
          simp [← formatted]
      | char :: rest =>
          rw [List.length_cons] at size
          by_cases percent : char = '%'
          · subst char
            rw [format_percent] at formatted
            obtain ⟨entry, parsed, mapped⟩ := Option.bind_eq_some_iff.mp
              formatted
            obtain ⟨behind, ends, rfl⟩ := Option.map_eq_some_iff.mp mapped
            obtain ⟨shorter, fewer⟩ := specifier_shrinks parsed
            have inRest := induction _ (by omega) ends rfl
            rw [List.count_append, List.count_cons_self]
            omega
          · rw [format_cons_of_ne percent] at formatted
            obtain ⟨behind, ends, rfl⟩ := Option.map_eq_some_iff.mp formatted
            have inRest := induction _ (by omega) ends rfl
            rw [List.count_cons_of_ne percent, List.count_cons_of_ne percent]
            exact inRest

/-! ## Formatting twice -/

/-- `String.format(String.format(text))`. -/
def formatTwice (text : String) : Option String :=
  ((format text.toList).bind format).map String.ofList

theorem formatTwice_of_not_mem {text : String} (plain : '%' ∉ text.toList) :
    formatTwice text = some text := by
  simp [formatTwice, format_of_not_mem plain]

theorem formatTwice_eq_self_iff {text : String} :
    formatTwice text = some text ↔ '%' ∉ text.toList := by
  constructor
  · intro same percent
    obtain ⟨twice, formatted, same⟩ := Option.map_eq_some_iff.mp same
    obtain ⟨once, first, second⟩ := Option.bind_eq_some_iff.mp formatted
    have fewer := count_format first
    have stillFewer := count_format second
    have kept := congrArg String.toList same
    rw [String.toList_ofList] at kept
    rw [kept] at stillFewer
    have some := List.count_pos_iff.mpr percent
    omega
  · exact formatTwice_of_not_mem

end EclairWallet.JavaFormat
