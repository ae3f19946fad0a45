import Mathlib.Algebra.BigOperators.Group.List.Basic
import Mathlib.Algebra.Ring.Nat
import EclairWallet.Library.JavaText

/-!
# The syntax check of `java.net.URI`

The constructor of one argument.  Text behind an optional scheme is opaque
unless it starts with a slash; a fragment may follow.  Escapes are pairs of
hexadecimal digits behind a percent sign.
-/

namespace EclairWallet.JavaUri

open JavaText

/-- What the check asks about other texts than the ASCII ones: which other
characters are neither control nor space characters, and which authorities
with brackets name a server. -/
structure Charset where
  printable (char : Char) : Bool
  serverBased (authority : List Char) : Bool

variable (charset : Charset)

def isHex (char : Char) : Bool :=
  char.isDigit || char ∈ "abcdefABCDEF".toList

def isUnreserved (char : Char) : Bool :=
  char.isAlphanum || char ∈ "-_.!~*'()".toList

def isUric (char : Char) : Bool :=
  isUnreserved char || char ∈ ";/?:@&=+$,[]".toList

def isPath (char : Char) : Bool :=
  isUnreserved char || char ∈ ":@&=+$,;/".toList

def isRegName (char : Char) : Bool :=
  isUnreserved char || char ∈ "$,;:@&=+".toList

def isSchemeChar (char : Char) : Bool :=
  char.isAlphanum || char ∈ "+-.".toList

/-- `checkChars`; `pending` counts the digits an escape still lacks. -/
def checkFrom (allowed : Char → Bool) (pending : Nat) : List Char → Bool
  | [] => pending = 0
  | char :: text =>
      match pending with
      | pending + 1 => isHex char && checkFrom allowed pending text
      | 0 =>
          if char = '%' then checkFrom allowed 2 text
          else
            (allowed char || 128 < char.toNat && charset.printable char) &&
              checkFrom allowed 0 text

def checkChars (allowed : Char → Bool) (text : List Char) : Bool :=
  checkFrom charset allowed 0 text

def checkFragment (fragment : Option (List Char)) : Bool :=
  fragment.all (checkChars charset isUric)

def checkAuthority (authority : List Char) : Bool :=
  checkChars charset isRegName authority || charset.serverBased authority

/-- The path and the query. -/
def checkPath (text : List Char) : Bool :=
  let (path, query) := splitFirst '?' text
  checkChars charset isPath path && query.all (checkChars charset isUric)

/-- `parseHierarchical`, before the fragment.  An authority may be empty when
something follows it. -/
def checkHierarchical (text : List Char) (followed : Bool) : Bool :=
  match text with
  | '/' :: '/' :: text =>
      let authority := text.takeWhile (fun char => char ∉ "/?".toList)
      let rest := text.dropWhile (fun char => char ∉ "/?".toList)
      (if authority = [] then rest ≠ [] || followed
        else checkAuthority charset authority) && checkPath charset rest
  | text => checkPath charset text

/-- What follows the scheme. -/
def checkSchemeSpecific (text : List Char) : Bool :=
  let (part, fragment) := splitFirst '#' text
  (if part.head? = some '/' then
      checkHierarchical charset part fragment.isSome
    else part ≠ [] && checkChars charset isUric part) &&
    checkFragment charset fragment

def isScheme : List Char → Bool
  | [] => false
  | char :: text => char.isAlpha && text.all isSchemeChar

/-- The scheme of a correct text, which may be null. -/
def new (input : List Char) : Option (Option String) :=
  let scheme := input.takeWhile (fun char => char ∉ ":/?#".toList)
  match input.dropWhile (fun char => char ∉ ":/?#".toList) with
  | ':' :: text =>
      if isScheme scheme && checkSchemeSpecific charset text then
        some (some (String.ofList scheme))
      else none
  | _ =>
      let (part, fragment) := splitFirst '#' input
      if checkHierarchical charset part fragment.isSome &&
          checkFragment charset fragment then
        some none
      else none

/-! ## Pieces -/

variable {charset} {allowed : Char → Bool} {char : Char}
  {first second text : List Char}

@[simp] theorem checkChars_nil : checkChars charset allowed [] = true :=
  rfl

/-- No escape reaches over a character that is no hexadecimal digit. -/
theorem checkFrom_append_cons {pending : Nat} (notHex : isHex char = false)
    (notEscape : char ≠ '%') (isAllowed : allowed char = true) :
    checkFrom charset allowed pending (first ++ char :: second) =
      (checkFrom charset allowed pending first &&
        checkFrom charset allowed 0 second) := by
  induction first generalizing pending with
  | nil =>
      cases pending with
      | zero => simp [checkFrom, notEscape, isAllowed]
      | succ pending => simp [checkFrom, notHex]
  | cons head first induction =>
      cases pending with
      | zero =>
          by_cases escape : head = '%'
          · simp [checkFrom, escape, induction]
          · simp [checkFrom, escape, induction, Bool.and_assoc]
      | succ pending => simp [checkFrom, induction, Bool.and_assoc]

theorem checkChars_append (allAllowed : ∀ char ∈ first,
    allowed char = true ∧ char ≠ '%') :
    checkChars charset allowed (first ++ second) =
      checkChars charset allowed second := by
  unfold checkChars
  induction first with
  | nil => rfl
  | cons head first induction =>
      obtain ⟨isAllowed, notEscape⟩ := allAllowed head (by simp)
      rw [List.cons_append, checkFrom, if_neg notEscape, isAllowed,
        Bool.true_or, Bool.true_and]
      exact induction (fun char member =>
        allAllowed char (List.mem_cons_of_mem _ member))

theorem not_mem_of_checkFrom {pending : Nat}
    (refused : allowed char = false) (ascii : char.toNat ≤ 128)
    (notHex : isHex char = false) (notEscape : char ≠ '%')
    (legal : checkFrom charset allowed pending text = true) :
    char ∉ text := by
  induction text generalizing pending with
  | nil => simp
  | cons head text induction =>
      rw [List.mem_cons, not_or]
      cases pending with
      | zero =>
          by_cases escape : head = '%'
          · rw [checkFrom, if_pos escape] at legal
            exact ⟨fun same => notEscape (same.trans escape), induction legal⟩
          · rw [checkFrom, if_neg escape, Bool.and_eq_true] at legal
            refine ⟨?_, induction legal.2⟩
            rintro rfl
            have wide : ¬ 128 < char.toNat := Nat.not_lt.mpr ascii
            simp [refused, wide] at legal
      | succ pending =>
          rw [checkFrom, Bool.and_eq_true] at legal
          refine ⟨?_, induction legal.2⟩
          rintro rfl
          simp [notHex] at legal

theorem checkFrom_congr {other : Char → Bool} {pending : Nat}
    (same : ∀ char ∈ text, allowed char = other char) :
    checkFrom charset allowed pending text =
      checkFrom charset other pending text := by
  induction text generalizing pending with
  | nil => rfl
  | cons head text induction =>
      have rest : ∀ pending, checkFrom charset allowed pending text =
          checkFrom charset other pending text := by
        intro pending
        exact induction (fun char member =>
          same char (List.mem_cons_of_mem _ member))
      cases pending with
      | zero => simp only [checkFrom, rest, same head List.mem_cons_self]
      | succ pending => simp only [checkFrom, rest]

/-! ## A part with its fragment -/

/-- The text is correct up to a fragment behind the first hash. -/
def checkReference (charset : Charset) (text : List Char) : Bool :=
  let (part, fragment) := splitFirst '#' text
  checkChars charset isUric part && checkFragment charset fragment

def isReferenceChar (char : Char) : Bool :=
  isUric char || char = '#'

theorem isUric_hash : isUric '#' = false := by
  decide

theorem checkChars_uric_iff :
    checkChars charset isUric text = true ↔
      checkChars charset isReferenceChar text = true ∧ '#' ∉ text := by
  have agree : '#' ∉ text → checkChars charset isUric text =
      checkChars charset isReferenceChar text := by
    intro apart
    apply checkFrom_congr
    intro char member
    have different : char ≠ '#' := fun same => apart (same ▸ member)
    simp [isReferenceChar, different]
  constructor
  · intro legal
    have apart : '#' ∉ text :=
      not_mem_of_checkFrom isUric_hash (by decide) (by decide) (by decide) legal
    rw [← agree apart]
    exact ⟨legal, apart⟩
  · intro given
    obtain ⟨legal, apart⟩ := given
    rw [agree apart]
    exact legal

/-- Hashes are counted: one fragment at most. -/
theorem checkReference_iff :
    checkReference charset text = true ↔
      checkChars charset isReferenceChar text = true ∧
        text.count '#' ≤ 1 := by
  unfold checkReference
  by_cases hash : '#' ∈ text
  · obtain ⟨part, fragment, rfl, apart⟩ := List.eq_append_cons_of_mem hash
    have joined : checkChars charset isReferenceChar (part ++ '#' :: fragment) =
        (checkChars charset isReferenceChar part &&
          checkChars charset isReferenceChar fragment) :=
      checkFrom_append_cons (by decide) (by decide) (by decide)
    have counted : (part ++ '#' :: fragment).count '#' ≤ 1 ↔
        '#' ∉ fragment := by
      rw [List.count_append, List.count_cons_self,
        List.count_eq_zero_of_not_mem apart, ← List.count_eq_zero]
      omega
    rw [splitFirst_append apart, joined, counted, Bool.and_eq_true,
      Bool.and_eq_true, checkChars_uric_iff, checkFragment, Option.all_some,
      checkChars_uric_iff]
    simp only [apart, not_false_eq_true, and_true, and_assoc]
  · rw [splitFirst_of_not_mem hash, Bool.and_eq_true, checkChars_uric_iff,
      List.count_eq_zero_of_not_mem hash]
    simp [hash, checkFragment]

/-- Pieces between ampersands are correct each on its own. -/
theorem checkChars_pieces_iff :
    checkChars charset isReferenceChar text = true ↔
      ∀ piece ∈ text.splitOn '&',
        checkChars charset isReferenceChar piece = true := by
  induction text using splitOn_induction '&' with
  | single text apart => simp [List.splitOn_eq_singleton apart]
  | joined piece text apart induction =>
      have separated : checkChars charset isReferenceChar
          (piece ++ '&' :: text) =
            (checkChars charset isReferenceChar piece &&
              checkChars charset isReferenceChar text) :=
        checkFrom_append_cons (by decide) (by decide) (by decide)
      rw [separated, Bool.and_eq_true, induction,
        List.splitOn_append_cons_self, List.splitOn_eq_singleton apart]
      simp

theorem count_pieces :
    text.count '#' = ((text.splitOn '&').map (List.count '#')).sum := by
  induction text using splitOn_induction '&' with
  | single text apart => simp [List.splitOn_eq_singleton apart]
  | joined piece text apart induction =>
      rw [List.count_append, List.count_cons, induction,
        List.splitOn_append_cons_self, List.splitOn_eq_singleton apart]
      simp

/-- The pieces that `split` keeps decide, in whatever order they stand. -/
def CheckPieces (charset : Charset) (pieces : List (List Char)) : Prop :=
  (∀ piece ∈ pieces, checkChars charset isReferenceChar piece = true) ∧
    (pieces.map (List.count '#')).sum ≤ 1

theorem CheckPieces.perm {pieces other : List (List Char)}
    (check : CheckPieces charset pieces) (permuted : pieces.Perm other) :
    CheckPieces charset other := by
  refine ⟨fun piece member => check.1 piece (permuted.mem_iff.mpr member), ?_⟩
  rw [← (permuted.map (List.count '#')).sum_eq]
  exact check.2

theorem checkReference_split_iff :
    checkReference charset text = true ↔
      CheckPieces charset (split '&' text) := by
  obtain ⟨dropped, pieces, empty⟩ := exists_split_append '&' text
  have droppedCount : (dropped.map (List.count '#')).sum = 0 := by
    apply List.sum_eq_zero
    intro count member
    obtain ⟨piece, inDropped, rfl⟩ := List.mem_map.mp member
    simp [empty piece inDropped]
  have droppedCheck : ∀ piece ∈ dropped,
      checkChars charset isReferenceChar piece = true := by
    intro piece member
    rw [empty piece member]
    rfl
  rw [checkReference_iff, checkChars_pieces_iff, count_pieces, ← pieces,
    List.map_append, List.sum_append, droppedCount, add_zero]
  apply and_congr_left
  intro _
  constructor
  · intro all piece member
    exact all piece (List.mem_append_left _ member)
  · intro kept piece member
    rcases List.mem_append.mp member with inSplit | inDropped
    · exact kept piece inSplit
    · exact droppedCheck piece inDropped

/-! ## Texts with a query -/

/-- A name with a query behind it, if there is one. -/
def withQuery (name : List Char) (query : Option (List Char)) : List Char :=
  name ++ query.elim [] (fun query => '?' :: query)

/-- Letters and digits. -/
def IsPlain (name : List Char) : Prop :=
  ∀ char ∈ name, char.isAlphanum = true

variable {name : List Char} {query : Option (List Char)}

theorem IsPlain.not_mem (plain : IsPlain name)
    (other : char.isAlphanum = false) : char ∉ name := by
  intro member
  rw [plain char member] at other
  cases other

theorem IsPlain.checkChars_append (plain : IsPlain name)
    (allows : ∀ char, isUnreserved char = true → allowed char = true) :
    checkChars charset allowed (name ++ text) =
      checkChars charset allowed text := by
  apply JavaUri.checkChars_append
  intro char member
  have alphanum := plain char member
  refine ⟨allows char (by simp [isUnreserved, alphanum]), ?_⟩
  rintro rfl
  exact absurd alphanum (by decide)

theorem IsPlain.checkAuthority (plain : IsPlain name) :
    checkAuthority charset name = true := by
  have legal : checkChars charset isRegName (name ++ []) =
      checkChars charset isRegName [] := by
    apply plain.checkChars_append
    intro char unreserved
    simp [isRegName, unreserved]
  rw [List.append_nil] at legal
  rw [JavaUri.checkAuthority, legal]
  rfl

theorem checkSchemeSpecific_withQuery (plain : IsPlain name)
    (something : name ≠ [] ∨ query ≠ none) :
    checkSchemeSpecific charset (withQuery name query) =
      checkReference charset (query.getD []) := by
  have noHash : '#' ∉ name := plain.not_mem (by decide)
  have noSlash : name.head? ≠ some '/' := by
    intro head
    exact plain.not_mem (by decide) (List.mem_of_mem_head? head)
  have legal : ∀ text, checkChars charset isUric (name ++ text) =
      checkChars charset isUric text := fun text =>
    plain.checkChars_append (fun char unreserved => by
      simp [isUric, unreserved])
  cases query with
  | none =>
      have nonempty : name ≠ [] := by simpa using something
      have legalName := legal []
      rw [List.append_nil, checkChars_nil] at legalName
      simp [withQuery, checkSchemeSpecific, splitFirst_of_not_mem noHash,
        noSlash, nonempty, legalName, checkReference, checkFragment,
        splitFirst]
  | some query =>
      have split : splitFirst '#' (name ++ '?' :: query) =
          (name ++ '?' :: (splitFirst '#' query).1,
            (splitFirst '#' query).2) := by
        rw [splitFirst_append_of_not_mem noHash]
        rfl
      have opaquePart : (name ++ '?' :: (splitFirst '#' query).1).head? ≠
          some '/' := by
        cases name with
        | nil => simp
        | cons char name => simpa using noSlash
      have question : checkChars charset isUric
          (['?'] ++ (splitFirst '#' query).1) =
            checkChars charset isUric (splitFirst '#' query).1 :=
        JavaUri.checkChars_append
          (List.forall_mem_singleton.mpr ⟨by decide, by decide⟩)
      rw [List.singleton_append] at question
      simp only [withQuery, checkSchemeSpecific, Option.elim_some, split,
        if_neg opaquePart, legal, question, checkReference, Option.getD_some]
      simp

theorem checkSchemeSpecific_authority (plain : IsPlain name)
    (something : name ≠ [] ∨ query ≠ none) :
    checkSchemeSpecific charset ('/' :: '/' :: withQuery name query) =
      checkReference charset (query.getD []) := by
  have noHash : '#' ∉ '/' :: '/' :: name := by
    simpa using plain.not_mem (by decide)
  have inName : ∀ char ∈ name, decide (char ∉ "/?".toList) = true := by
    intro char member
    have noSlash : char ≠ '/' := fun same =>
      plain.not_mem (by decide) (same ▸ member)
    have noQuestion : char ≠ '?' := fun same =>
      plain.not_mem (by decide) (same ▸ member)
    simp [noSlash, noQuestion]
  have authority : ∀ rest : List Char,
      (name ++ rest).takeWhile (fun char => char ∉ "/?".toList) =
        name ++ rest.takeWhile (fun char => char ∉ "/?".toList) :=
    fun _ => List.takeWhile_append_of_pos inName
  have behind : ∀ rest : List Char,
      (name ++ rest).dropWhile (fun char => char ∉ "/?".toList) =
        rest.dropWhile (fun char => char ∉ "/?".toList) :=
    fun _ => List.dropWhile_append_of_pos inName
  cases query with
  | none =>
      have nonempty : name ≠ [] := by simpa using something
      have authority := authority []
      have rest := behind []
      rw [List.append_nil] at authority rest
      simp only [withQuery, Option.elim_none, List.append_nil,
        checkSchemeSpecific, splitFirst_of_not_mem noHash, List.head?_cons,
        if_true, checkHierarchical, authority, rest]
      simp [nonempty, plain.checkAuthority, checkPath, checkReference,
        checkFragment, splitFirst]
  | some query =>
      have split : splitFirst '#' ('/' :: '/' :: (name ++ '?' :: query)) =
          ('/' :: '/' :: (name ++ '?' :: (splitFirst '#' query).1),
            (splitFirst '#' query).2) := by
        have hash := splitFirst_append_of_not_mem noHash ('?' :: query)
        exact hash
      have question : splitFirst '?' ('?' :: (splitFirst '#' query).1) =
          ([], some (splitFirst '#' query).1) := rfl
      simp only [withQuery, Option.elim_some, checkSchemeSpecific, split,
        List.head?_cons, if_true, checkHierarchical, authority, behind]
      by_cases empty : name = []
      · simp [empty, checkPath, question, checkReference]
      · simp [empty, plain.checkAuthority, checkPath, question,
          checkReference]

theorem new_scheme {scheme : List Char} (letters : ∀ char ∈ scheme,
    char.isAlpha = true) (nonempty : scheme ≠ []) :
    new charset (scheme ++ ':' :: text) =
      if checkSchemeSpecific charset text then
        some (some (String.ofList scheme))
      else none := by
  have before : ∀ char ∈ scheme,
      decide (char ∉ ":/?#".toList) = true := by
    intro char member
    have letter := letters char member
    rw [decide_eq_true_eq]
    intro separator
    simp only [String.reduceToList, List.mem_cons, List.not_mem_nil,
      or_false] at separator
    rcases separator with rfl | rfl | rfl | rfl <;>
      exact absurd letter (by decide)
  have isSchemeText : isScheme scheme = true := by
    cases scheme with
    | nil => exact (nonempty rfl).elim
    | cons char rest =>
        simp only [isScheme, Bool.and_eq_true, List.all_eq_true]
        refine ⟨letters char (by simp), ?_⟩
        intro other member
        have letter := letters other (List.mem_cons_of_mem _ member)
        simp [isSchemeChar, Char.isAlphanum, letter]
  have taken : (scheme ++ ':' :: text).takeWhile
      (fun char => char ∉ ":/?#".toList) = scheme ++ _ :=
    List.takeWhile_append_of_pos before
  have dropped : (scheme ++ ':' :: text).dropWhile
      (fun char => char ∉ ":/?#".toList) = _ :=
    List.dropWhile_append_of_pos before
  simp only [new, taken, dropped]
  simp [isSchemeText]

end EclairWallet.JavaUri
