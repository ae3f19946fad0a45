import Mathlib.Data.List.DropRight

/-!
# Java's text functions

`String.split` with a one-character separator drops the trailing empty
pieces, so a text made of separators only has no piece at all.  `trim` removes
what is not above the space at both ends, and so works on the two sides of a
text that is joined by another character.
-/

namespace EclairWallet.JavaText

/-- `text.split(separator)`.  A text without the separator is its only
piece, also when it is empty. -/
def split (separator : Char) (text : List Char) : List (List Char) :=
  if separator ∈ text then
    (text.splitOn separator).rdropWhile List.isEmpty
  else [text]

/-- The pieces of a string as strings. -/
def splitString (separator : Char) (text : String) : List String :=
  (split separator text.toList).map String.ofList

private theorem pieces_empty_iff (separator : Char) (text : List Char) :
    (∀ piece ∈ text.splitOn separator, piece = []) ↔
      ∀ char ∈ text, char = separator := by
  induction text with
  | nil => simp
  | cons head text induction =>
      rw [List.splitOn_cons_eq_if_modifyHead]
      by_cases same : head = separator
      · subst head
        simpa using induction
      · obtain ⟨first, rest, pieces⟩ :=
          List.exists_cons_of_ne_nil (List.splitOn_ne_nil separator text)
        simp [same, pieces]

/-- A text has no piece exactly when it is a nonempty run of separators. -/
theorem split_eq_nil_iff {separator : Char} {text : List Char} :
    split separator text = [] ↔
      text ≠ [] ∧ ∀ char ∈ text, char = separator := by
  unfold split
  by_cases separated : separator ∈ text
  · have nonempty : text ≠ [] := List.ne_nil_of_mem separated
    simp only [separated, if_true, List.rdropWhile_eq_nil_iff,
      List.isEmpty_iff, pieces_empty_iff, nonempty, ne_eq,
      not_false_eq_true, true_and]
  · simp only [separated, if_false, List.cons_ne_nil, false_iff, not_and,
      not_forall]
    intro nonempty
    obtain ⟨char, rest, rfl⟩ := List.exists_cons_of_ne_nil nonempty
    refine ⟨char, by simp, ?_⟩
    intro same
    exact separated (by simp [same])

theorem split_ne_nil {separator char : Char} {text : List Char}
    (member : char ∈ text) (apart : char ≠ separator) :
    split separator text ≠ [] := by
  intro none
  exact apart ((split_eq_nil_iff.mp none).2 char member)

/-- `text.split(separator, 2)`: what stands before the first separator, and
what stands after it if there is one. -/
def splitFirst (separator : Char) : List Char → List Char × Option (List Char)
  | [] => ([], none)
  | char :: text =>
      if char = separator then ([], some text)
      else
        let pieces := splitFirst separator text
        (char :: pieces.1, pieces.2)

theorem splitFirst_of_not_mem {separator : Char} {text : List Char}
    (apart : separator ∉ text) : splitFirst separator text = (text, none) := by
  induction text with
  | nil => rfl
  | cons head text induction =>
      rw [List.mem_cons, not_or] at apart
      rw [splitFirst, if_neg (Ne.symm apart.1), induction apart.2]

theorem splitFirst_append_of_not_mem {separator : Char} {first : List Char}
    (apart : separator ∉ first) (second : List Char) :
    splitFirst separator (first ++ second) =
      (first ++ (splitFirst separator second).1,
        (splitFirst separator second).2) := by
  induction first with
  | nil => rfl
  | cons head first induction =>
      rw [List.mem_cons, not_or] at apart
      rw [List.cons_append, splitFirst, if_neg (Ne.symm apart.1),
        induction apart.2]
      rfl

theorem splitFirst_append {separator : Char} {first : List Char}
    (apart : separator ∉ first) (second : List Char) :
    splitFirst separator (first ++ separator :: second) =
      (first, some second) := by
  rw [splitFirst_append_of_not_mem apart]
  simp [splitFirst]

/-- `split` leaves out empty pieces only, at the end. -/
theorem exists_split_append (separator : Char) (text : List Char) :
    ∃ dropped, split separator text ++ dropped = text.splitOn separator ∧
      ∀ piece ∈ dropped, piece = [] := by
  unfold split
  by_cases separated : separator ∈ text
  · rw [if_pos separated]
    refine ⟨_, List.rdropWhile_append_rtakeWhile, ?_⟩
    intro piece member
    exact List.isEmpty_iff.mp (List.mem_rtakeWhile_imp member)
  · rw [if_neg separated, List.splitOn_eq_singleton separated]
    exact ⟨[], by simp, by simp⟩

/-- A text is read piece by piece: what holds of a piece with a separator
behind it and of the rest holds of both together. -/
theorem splitOn_induction (separator : Char) {motive : List Char → Prop}
    (single : ∀ text, separator ∉ text → motive text)
    (joined : ∀ piece text, separator ∉ piece → motive text →
      motive (piece ++ separator :: text)) (text : List Char) :
    motive text := by
  induction size : text.length using Nat.strong_induction_on
    generalizing text with
  | h length induction =>
      by_cases separated : separator ∈ text
      · obtain ⟨piece, rest, rfl, apart⟩ := List.eq_append_cons_of_mem separated
        apply joined piece rest apart
        apply induction rest.length _ rest rfl
        simp only [List.length_append, List.length_cons] at size
        omega
      · exact single text separated

/-! ## Trimmed and joined texts -/

/-- What `trim` removes at both ends of a text. -/
def isTrimmed (char : Char) : Bool :=
  char ≤ ' '

def trimStart (text : String) : String :=
  String.ofList (text.toList.dropWhile isTrimmed)

def trimEnd (text : String) : String :=
  String.ofList (text.toList.rdropWhile isTrimmed)

/-- `text.trim()`. -/
def trim (text : String) : String :=
  trimEnd (trimStart text)

/-- `text.split(separator, -1)`, which keeps the trailing empty pieces. -/
def splitAll (separator : Char) (text : String) : List String :=
  (text.toList.splitOn separator).map String.ofList

variable {separator : Char}

theorem dropWhile_append_cons {kept : Char} (first second : List Char)
    (stays : isTrimmed kept = false) :
    (first ++ kept :: second).dropWhile isTrimmed =
      first.dropWhile isTrimmed ++ kept :: second := by
  induction first with
  | nil => simp [stays]
  | cons char first induction =>
      by_cases trimmed : isTrimmed char = true
      · simp [trimmed, induction]
      · simp [trimmed]

theorem rdropWhile_append_cons {kept : Char} (first second : List Char)
    (stays : isTrimmed kept = false) :
    (first ++ kept :: second).rdropWhile isTrimmed =
      first ++ kept :: second.rdropWhile isTrimmed := by
  have reversed := dropWhile_append_cons second.reverse first.reverse stays
  simp [List.rdropWhile, reversed]

theorem trim_append {kept : Char} (first second : String)
    (stays : isTrimmed kept = false) :
    trim (first ++ String.singleton kept ++ second) =
      trimStart first ++ String.singleton kept ++ trimEnd second := by
  apply String.toList_inj.mp
  simp [trim, trimStart, trimEnd, dropWhile_append_cons _ _ stays,
    rdropWhile_append_cons _ _ stays]

theorem trimEnd_append {first : String} (nonempty : first ≠ "")
    (stay : ∀ char ∈ first.toList, isTrimmed char = false) (second : String) :
    trimEnd (first ++ second) = first ++ trimEnd second := by
  have chars : first.toList ≠ [] := by simpa using nonempty
  obtain ⟨front, last, split⟩ : ∃ front last, first.toList = front ++ [last] :=
    ⟨_, _, (List.dropLast_append_getLast chars).symm⟩
  have lastStays : isTrimmed last = false := stay last (by simp [split])
  apply String.toList_inj.mp
  simp [trimEnd, split, rdropWhile_append_cons front second.toList lastStays]

theorem trim_append_of_stay {first : String} (nonempty : first ≠ "")
    (stay : ∀ char ∈ first.toList, isTrimmed char = false) (second : String) :
    trim (first ++ second) = first ++ trimEnd second := by
  have start : trimStart (first ++ second) = first ++ second := by
    apply String.toList_inj.mp
    have some : first.toList ≠ [] := by simpa using nonempty
    obtain ⟨head, tail, chars⟩ := List.exists_cons_of_ne_nil some
    have headStays : isTrimmed head = false := stay head (by simp [chars])
    simp [trimStart, chars, headStays]
  rw [trim, start, trimEnd_append nonempty stay]

theorem trimEnd_trimEnd (text : String) :
    trimEnd (trimEnd text) = trimEnd text := by
  apply String.toList_inj.mp
  simp [trimEnd, List.rdropWhile_idempotent]

theorem length_trim_le (text : String) :
    (trim text).toList.length ≤ text.toList.length := by
  have start := (List.dropWhile_suffix isTrimmed (l := text.toList)).length_le
  have finish := (List.rdropWhile_prefix isTrimmed
    (text.toList.dropWhile isTrimmed)).length_le
  simp only [trim, trimEnd, trimStart, String.toList_ofList]
  omega

theorem splitAll_append (first second : String) :
    splitAll separator (first ++ String.singleton separator ++ second) =
      splitAll separator first ++ splitAll separator second := by
  simp [splitAll, List.splitOn_append_cons_self]

theorem splitAll_of_not_mem {text : String}
    (apart : separator ∉ text.toList) : splitAll separator text = [text] := by
  simp [splitAll, List.splitOn_eq_singleton apart]

theorem splitAll_ne_nil (separator : Char) (text : String) :
    splitAll separator text ≠ [] := by
  simp [splitAll, List.splitOn_ne_nil]

theorem splitString_append (first second : String) :
    splitString separator (first ++ String.singleton separator ++ second) =
      (splitAll separator first ++ splitAll separator second).rdropWhile
        (fun piece => piece = "") := by
  have separated : separator ∈
      (first ++ String.singleton separator ++ second).toList := by
    simp
  have empty : (fun piece => decide (piece = "")) ∘ String.ofList =
      List.isEmpty := by
    funext piece
    cases piece with
    | nil => rfl
    | cons char piece => simp
  rw [← splitAll_append, splitString, split, if_pos separated, splitAll,
    List.rdropWhile, List.rdropWhile, ← List.map_reverse, List.dropWhile_map,
    empty, List.map_reverse]

theorem not_mem_of_mem_splitOn {text piece : List Char}
    (member : piece ∈ text.splitOn separator) : separator ∉ piece := by
  induction text generalizing piece with
  | nil =>
      rw [List.splitOn_nil, List.mem_singleton] at member
      simp [member]
  | cons char text induction =>
      obtain ⟨first, rest, pieces⟩ :=
        List.exists_cons_of_ne_nil (List.splitOn_ne_nil separator text)
      rw [List.splitOn_cons_eq_if_modifyHead, pieces] at member
      rw [pieces] at induction
      by_cases same : char = separator
      · simp only [same, beq_self_eq_true, if_true, List.mem_cons] at member
        rcases member with rfl | later
        · simp
        · exact induction (List.mem_cons.mpr later)
      · simp only [beq_iff_eq, same, if_false, List.modifyHead_cons,
          List.mem_cons] at member
        rcases member with rfl | later
        · have apart := induction List.mem_cons_self
          simp [apart, Ne.symm same]
        · exact induction (List.mem_cons_of_mem first later)

theorem not_mem_of_mem_splitAll {text piece : String}
    (member : piece ∈ splitAll separator text) : separator ∉ piece.toList := by
  obtain ⟨chars, inText, rfl⟩ := List.mem_map.mp member
  rw [String.toList_ofList]
  exact not_mem_of_mem_splitOn inText

theorem not_mem_of_length_splitAll {text : String}
    (single : (splitAll separator text).length = 1) :
    separator ∉ text.toList := by
  intro member
  obtain ⟨first, second, split⟩ := List.append_of_mem member
  rw [splitAll, split, List.splitOn_append_cons_self, List.map_append,
    List.length_append] at single
  have firstPiece := List.length_pos_of_ne_nil
    (List.splitOn_ne_nil separator first)
  have secondPiece := List.length_pos_of_ne_nil
    (List.splitOn_ne_nil separator second)
  simp only [List.length_map] at single
  omega

/-! ## First words -/

theorem exists_splitOn_cons (separator : Char) (text : List Char) :
    ∃ rest, text.splitOn separator =
      text.takeWhile (fun char => char ≠ separator) :: rest := by
  induction text with
  | nil => exact ⟨[], by simp⟩
  | cons head text induction =>
      obtain ⟨rest, pieces⟩ := induction
      rw [List.splitOn_cons_eq_if_modifyHead, pieces]
      by_cases same : head = separator
      · simp [same]
      · simp [same]

theorem exists_split_cons {text : List Char}
    (starts : text.takeWhile (fun char => char ≠ separator) ≠ []) :
    ∃ rest, split separator text =
      text.takeWhile (fun char => char ≠ separator) :: rest := by
  obtain ⟨rest, pieces⟩ := exists_splitOn_cons separator text
  unfold split
  by_cases separated : separator ∈ text
  · rw [if_pos separated, pieces]
    obtain ⟨dropped, kept⟩ := List.rdropWhile_prefix List.isEmpty
      (text.takeWhile (fun char => char ≠ separator) :: rest)
    cases left : (text.takeWhile (fun char => char ≠ separator) ::
        rest).rdropWhile List.isEmpty with
    | nil =>
        have empty := List.rdropWhile_eq_nil_iff.mp left _
          List.mem_cons_self
        exact absurd (List.isEmpty_iff.mp empty) starts
    | cons first others =>
        rw [left, List.cons_append] at kept
        exact ⟨others, by rw [(List.cons.inj kept).1]⟩
  · rw [if_neg separated]
    refine ⟨[], ?_⟩
    have whole : text.takeWhile (fun char => char ≠ separator) = text := by
      apply List.takeWhile_eq_self_iff.mpr
      intro char member
      simp only [ne_eq, decide_eq_true_eq]
      rintro rfl
      exact separated member
    rw [whole]

/-- The characters of a text up to the first space behind its start. -/
def firstWord (text : String) : List Char :=
  (text.toList.dropWhile isTrimmed).takeWhile (fun char => char ≠ ' ')

theorem isTrimmed_space : isTrimmed ' ' = true := by decide

theorem isTrimmed_of_isDigit {char : Char} (isDigit : char.isDigit = true) :
    isTrimmed char = false := by
  have low : '0'.val ≤ char.val := by
    simp only [Char.isDigit, Bool.and_eq_true, decide_eq_true_eq] at isDigit
    exact isDigit.1
  apply decide_eq_false
  intro bound
  have impossible : '0'.val ≤ ' '.val := UInt32.le_trans low bound
  exact absurd impossible (by decide)

theorem firstWord_of_stay {text : List Char}
    (stay : ∀ char ∈ text, isTrimmed char = false) :
    firstWord (String.ofList text) = text := by
  have kept : text.dropWhile isTrimmed = text := by
    cases text with
    | nil => rfl
    | cons head text =>
        apply List.dropWhile_cons_of_neg
        simp [stay head (by simp)]
  rw [firstWord, String.toList_ofList, kept]
  apply List.takeWhile_eq_self_iff.mpr
  intro char member
  have stays := stay char member
  simp only [ne_eq, decide_eq_true_eq]
  rintro rfl
  rw [isTrimmed_space] at stays
  cases stays

theorem takeWhile_rdropWhile_space (text : List Char) :
    ((' ' :: text).rdropWhile isTrimmed).takeWhile (fun char => char ≠ ' ') =
      [] := by
  cases left : (' ' :: text).rdropWhile isTrimmed with
  | nil => rfl
  | cons first rest =>
      obtain ⟨dropped, kept⟩ :=
        List.rdropWhile_prefix isTrimmed (' ' :: text)
      rw [left, List.cons_append] at kept
      simp [(List.cons.inj kept).1]

theorem takeWhile_append_space (first second : List Char) :
    (first ++ ' ' :: second).takeWhile (fun char => char ≠ ' ') =
      first.takeWhile (fun char => char ≠ ' ') := by
  induction first with
  | nil => simp
  | cons head first induction =>
      by_cases space : head = ' '
      · simp [space]
      · simpa [space] using induction

theorem firstWord_eq_nil_iff {text : String} :
    firstWord text = [] ↔ text.toList.dropWhile isTrimmed = [] := by
  unfold firstWord
  cases left : text.toList.dropWhile isTrimmed with
  | nil => simp
  | cons first rest =>
      have stays : ¬ isTrimmed first = true := by
        have := List.head_dropWhile_not isTrimmed
          (l := text.toList) (by simp [left])
        simpa [left] using this
      have apart : first ≠ ' ' := by
        rintro rfl
        exact stays isTrimmed_space
      simp [apart]

/-- The trimmed characters of a text to which a word and more is joined. -/
theorem takeWhile_trim_joined (text tail : List Char) {head : Char}
    {word : List Char}
    (stay : ∀ char ∈ head :: word, isTrimmed char = false) :
    (((text ++ ' ' :: (head :: word) ++ ' ' :: tail).dropWhile
        isTrimmed).rdropWhile isTrimmed).takeWhile (fun char => char ≠ ' ') =
      if text.dropWhile isTrimmed = [] then head :: word
      else (text.dropWhile isTrimmed).takeWhile (fun char => char ≠ ' ') := by
  have headStays : isTrimmed head = false := stay head (by simp)
  have noSpace : ∀ char ∈ head :: word, decide (char ≠ ' ') = true := by
    intro char member
    have stays := stay char member
    simp only [ne_eq, decide_eq_true_eq]
    rintro rfl
    rw [isTrimmed_space] at stays
    cases stays
  rw [List.append_assoc, List.dropWhile_append]
  by_cases blank : text.dropWhile isTrimmed = []
  · have ends := @trimEnd_append (String.ofList (head :: word))
      (by simp) (by simpa using stay) (String.ofList (' ' :: tail))
    have chars := congrArg String.toList ends
    simp only [trimEnd, String.toList_append, String.toList_ofList] at chars
    rw [if_pos (by simp [blank]), if_pos blank, List.cons_append,
      List.dropWhile_cons_of_pos isTrimmed_space, List.cons_append,
      List.dropWhile_cons_of_neg (by simp [headStays]), ← List.cons_append,
      chars, List.takeWhile_append_of_pos noSpace,
      takeWhile_rdropWhile_space, List.append_nil]
  · have ends := rdropWhile_append_cons
      (text.dropWhile isTrimmed ++ [' ']) (word ++ ' ' :: tail) headStays
    rw [if_neg (by simpa using blank), if_neg blank]
    simp only [List.append_assoc, List.cons_append, List.nil_append] at ends ⊢
    rw [ends, takeWhile_append_space]

theorem exists_splitString_joined (text tail : String) {head : Char}
    {word : List Char}
    (stay : ∀ char ∈ head :: word, isTrimmed char = false) :
    ∃ rest, splitString ' ' (trim (text ++
        String.ofList (' ' :: (head :: word) ++ ' ' :: tail.toList))) =
      String.ofList (if firstWord text = [] then head :: word
        else firstWord text) :: rest := by
  have first : (trim (text ++ String.ofList (' ' :: (head :: word) ++
        ' ' :: tail.toList))).toList.takeWhile (fun char => char ≠ ' ') =
      if firstWord text = [] then head :: word else firstWord text := by
    simp only [trim, trimEnd, trimStart, String.toList_ofList,
      String.toList_append, firstWord_eq_nil_iff]
    rw [← List.append_assoc, takeWhile_trim_joined _ _ stay]
    rfl
  have nonempty : (trim (text ++ String.ofList (' ' :: (head :: word) ++
        ' ' :: tail.toList))).toList.takeWhile (fun char => char ≠ ' ') ≠
      [] := by
    rw [first]
    split
    · exact List.cons_ne_nil _ _
    · assumption
  obtain ⟨rest, pieces⟩ := exists_split_cons nonempty
  refine ⟨rest.map String.ofList, ?_⟩
  rw [splitString, pieces, List.map_cons, first]

/-! ## Counting pieces -/

theorem splitOn_append_singleton {last : Char} (apart : last ≠ separator)
    (text : List Char) :
    ∃ pieces piece, (text ++ [last]).splitOn separator =
      pieces ++ [piece ++ [last]] := by
  induction text with
  | nil =>
      refine ⟨[], [], ?_⟩
      have absent : separator ∉ [last] := by simpa using apart.symm
      rw [List.nil_append, List.splitOn_eq_singleton absent]
      rfl
  | cons head text induction =>
      obtain ⟨pieces, piece, split⟩ := induction
      rw [List.cons_append, List.splitOn_cons_eq_if_modifyHead, split]
      by_cases same : head = separator
      · exact ⟨[] :: pieces, piece, by simp [same]⟩
      · cases pieces with
        | nil => exact ⟨[], head :: piece, by simp [same]⟩
        | cons first pieces =>
            exact ⟨(head :: first) :: pieces, piece, by simp [same]⟩

theorem length_splitOn (text : List Char) :
    (text.splitOn separator).length = text.count separator + 1 := by
  induction text with
  | nil => simp
  | cons head text induction =>
      rw [List.splitOn_cons_eq_if_modifyHead]
      by_cases same : head = separator
      · simp [same, induction]
      · simp [same, induction]

theorem length_split_append_singleton {last : Char}
    (apart : last ≠ separator) (text : List Char) :
    (split separator (text ++ [last])).length =
      text.count separator + 1 := by
  have counted : (text ++ [last]).count separator = text.count separator := by
    simp [apart]
  unfold split
  split
  · obtain ⟨pieces, piece, split⟩ := splitOn_append_singleton apart text
    have kept : ((text ++ [last]).splitOn separator).rdropWhile
        List.isEmpty = (text ++ [last]).splitOn separator := by
      rw [split]
      exact List.rdropWhile_concat_neg _ _ _ (by simp)
    rw [kept, length_splitOn, counted]
  · rename_i absent
    rw [List.length_singleton, ← counted, List.count_eq_zero.mpr absent]

/-- The words of a text to which "of" and more is joined: those of the day,
each behind a space, and those joined. -/
theorem length_splitString_joined (text : String) (tail : List Char)
    {head last : Char} {word : List Char}
    (stay : ∀ char ∈ head :: word, isTrimmed char = false)
    (ends : isTrimmed last = false) :
    (splitString ' ' (trim (text ++ String.ofList
        (' ' :: (head :: word) ++ ' ' :: (tail ++ [last]))))).length =
      tail.count ' ' + 2 +
        (if firstWord text = [] then 0
          else (text.toList.dropWhile isTrimmed).count ' ' + 1) := by
  have apart : last ≠ ' ' := by
    rintro rfl
    rw [isTrimmed_space] at ends
    cases ends
  have noSpace : (head :: word).count ' ' = 0 := by
    apply List.count_eq_zero.mpr
    intro member
    have stays := stay ' ' member
    rw [isTrimmed_space] at stays
    cases stays
  have start : (text.toList ++ (' ' :: (head :: word) ++
        ' ' :: (tail ++ [last]))).dropWhile isTrimmed =
      ((if firstWord text = [] then []
          else text.toList.dropWhile isTrimmed ++ [' ']) ++ (head :: word) ++
        ' ' :: tail) ++ [last] := by
    rw [List.dropWhile_append]
    by_cases blank : text.toList.dropWhile isTrimmed = []
    · rw [if_pos (by simp [blank]), if_pos (firstWord_eq_nil_iff.mpr blank),
        List.cons_append, List.dropWhile_cons_of_pos isTrimmed_space,
        List.cons_append,
        List.dropWhile_cons_of_neg (by simp [stay head (by simp)])]
      simp
    · rw [if_neg (by simpa using blank),
        if_neg (mt firstWord_eq_nil_iff.mp blank)]
      simp
  have trimmed : (trim (text ++ String.ofList (' ' :: (head :: word) ++
        ' ' :: (tail ++ [last])))).toList =
      ((if firstWord text = [] then []
          else text.toList.dropWhile isTrimmed ++ [' ']) ++ (head :: word) ++
        ' ' :: tail) ++ [last] := by
    simp only [trim, trimEnd, trimStart, String.toList_ofList,
      String.toList_append]
    rw [start]
    exact List.rdropWhile_concat_neg _ _ _ (by simp [ends])
  rw [splitString, List.length_map, trimmed,
    length_split_append_singleton apart]
  simp only [List.count_append, noSpace, List.count_cons_self]
  split
  · simp
  · simp only [List.count_append, List.count_singleton_self]
    omega

end EclairWallet.JavaText
