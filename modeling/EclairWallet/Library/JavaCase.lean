import Mathlib.Data.List.Basic

/-!
# Letter case

`String.toLowerCase()` depends on the locale of the device: the Turkish one has
no dotted lower case of `I`.  In every locale the ASCII characters that are no
capital letters are kept, and no two ASCII characters are the lower case of
one.  `String.equalsIgnoreCase()` depends on no locale.
-/

namespace EclairWallet

namespace JavaCase

/-- An ASCII character that is no capital letter. -/
def isLower (char : Char) : Bool :=
  char.toNat < 128 && !char.isUpper

structure DefaultLocale where
  toLowerCase : List Char → List Char
  keeps : ∀ front rest : List Char, front.all isLower →
    front <+: toLowerCase (front ++ rest)
  length_le : ∀ front text : List Char, front.all isLower →
    front <+: toLowerCase text → front.length ≤ text.length

theorem map_keeps {lower : Char → Char}
    (kept : ∀ char, isLower char = true → lower char = char)
    (front rest : List Char) (plain : front.all isLower) :
    front <+: (front ++ rest).map lower := by
  have same : front.map lower = front := by
    calc
      front.map lower = front.map id := by
        apply List.map_congr_left
        intro char member
        exact kept char (List.all_eq_true.mp plain char member)
      _ = front := List.map_id front
  rw [List.map_append, same]
  exact List.prefix_append _ _

/-- A locale that lowers one character at a time. -/
def DefaultLocale.ofChars (lower : Char → Char)
    (kept : ∀ char, isLower char = true → lower char = char) :
    DefaultLocale where
  toLowerCase := List.map lower
  keeps := map_keeps kept
  length_le _ _ _ starts := by
    have bound := starts.length_le
    rwa [List.length_map] at bound

theorem toLower_of_isLower {char : Char} (plain : isLower char = true) :
    char.toLower = char := by
  rw [isLower, Bool.and_eq_true, Bool.not_eq_true'] at plain
  unfold Char.toLower
  split
  next capital =>
    have isUpper : char.isUpper = true := decide_eq_true capital
    rw [plain.2] at isUpper
    cases isUpper
  next => rfl

/-- The locales without letters of their own, on ASCII texts. -/
def DefaultLocale.ascii : DefaultLocale :=
  .ofChars Char.toLower (fun _ plain => toLower_of_isLower plain)

/-- The two letters `I` of Turkish. -/
def turkishLower (char : Char) : Char :=
  if char = 'I' then 'ı' else if char = 'İ' then 'i' else char.toLower

def DefaultLocale.turkish : DefaultLocale :=
  .ofChars turkishLower (by
    intro char plain
    have notDotless : char ≠ 'I' := by
      rintro rfl
      cases plain
    have notDotted : char ≠ 'İ' := by
      rintro rfl
      cases plain
    rw [turkishLower, if_neg notDotless, if_neg notDotted]
    exact toLower_of_isLower plain)

/-- What `equalsIgnoreCase` compares of a character, where the other one is
ASCII: the case mappings lead four other letters to an ASCII letter. -/
def foldCase (char : Char) : Char :=
  if char = 'ı' ∨ char = 'İ' then 'i'
  else if char = 'ſ' then 's'
  else if char = '\u212a' then 'k'
  else char.toLower

def equalsIgnoreCase (first second : String) : Bool :=
  first.toList.map foldCase = second.toList.map foldCase

end JavaCase

end EclairWallet
