import EclairWallet.Payment.InvoiceId

/-!
# Stripping the prefix of an invoice

The send screen removes the first listed prefix that the trimmed text starts
with, once the locale of the device has lower-cased it.  The shorter prefix is
listed first, so the longer one is never removed.
-/

namespace EclairWallet

open JavaCase (DefaultLocale isLower toLower_of_isLower)
open JavaText

namespace SendPaymentActivity

/-- The text `onCreate` hands to `LNInvoiceReaderTask`. -/
def invoiceToRead (locale : DefaultLocale) (extras : SendPaymentExtras) :
    String :=
  removePrefix locale (trim extras.invoice)

def lowerCase (text : String) : List Char :=
  text.toList.map Char.toLower

/-- The text is one of the prefixes, in any case. -/
def IsPrefix (scheme : String) : Prop :=
  ∃ listed ∈ lightningPrefixes, lowerCase scheme = listed.toList

/-- The text starts with none of the prefixes, in any case. -/
def Bare (text : String) : Prop :=
  ∀ listed ∈ lightningPrefixes, ¬ listed.toList <+: lowerCase text

instance (scheme : String) : Decidable (IsPrefix scheme) :=
  inferInstanceAs (Decidable
    (∃ listed ∈ lightningPrefixes, lowerCase scheme = listed.toList))

instance (text : String) : Decidable (Bare text) :=
  inferInstanceAs (Decidable
    (∀ listed ∈ lightningPrefixes, ¬ listed.toList <+: lowerCase text))

/-- In the locale of the device the text starts with a prefix. -/
def Recognised (locale : DefaultLocale) (text : String) : Prop :=
  "lightning:".toList <+: locale.toLowerCase text.toList

instance (locale : DefaultLocale) (text : String) :
    Decidable (Recognised locale text) :=
  inferInstanceAs (Decidable (_ <+: _))

variable {locale : DefaultLocale} {scheme text : String}

theorem length_removePrefix_lt (recognised : Recognised locale text) :
    (removePrefix locale text).toList.length < text.toList.length := by
  have bound := locale.length_le _ _ (by decide) recognised
  have split : text.toList = text.toList.take 10 ++ text.toList.drop 10 :=
    (List.take_append_drop 10 _).symm
  have ten : "lightning:".toList.length = 10 := by decide
  have size : (text.toList.take 10).length = "lightning:".length := by
    rw [List.length_take, ← String.length_toList, ten]
    omega
  rw [removePrefix_of_colon split size recognised, String.toList_ofList,
    List.length_drop]
  omega

/-! ## Trimming -/

theorem isTrimmed_toLower {char : Char} (trimmed : isTrimmed char = true) :
    isTrimmed char.toLower = true := by
  have bound : char ≤ ' ' := of_decide_eq_true trimmed
  have code : char.toNat ≤ 32 := bound
  have small : char.isUpper = false := by
    apply decide_eq_false
    intro capital
    have low : 'A' ≤ ' ' := Char.le_trans capital.1 bound
    exact absurd low (by decide)
  have lower : isLower char = true := by
    rw [isLower, small, Bool.not_false, Bool.and_true, decide_eq_true_eq]
    omega
  rw [toLower_of_isLower lower]
  exact trimmed

theorem IsPrefix.stay (isPrefix : IsPrefix scheme) :
    ∀ char ∈ scheme.toList, isTrimmed char = false := by
  obtain ⟨listed, member, same⟩ := isPrefix
  have listedStay : lightningPrefixes.all (fun listed =>
      listed.toList.all (fun char => !isTrimmed char)) = true := by
    decide
  intro char inScheme
  have lower : char.toLower ∈ listed.toList := by
    rw [← same]
    exact List.mem_map_of_mem inScheme
  cases trimmed : isTrimmed char with
  | false => rfl
  | true =>
      have stays := List.all_eq_true.mp
        (List.all_eq_true.mp listedStay listed member) _ lower
      rw [isTrimmed_toLower trimmed] at stays
      cases stays

theorem IsPrefix.ne_empty (isPrefix : IsPrefix scheme) : scheme ≠ "" := by
  rintro rfl
  obtain ⟨listed, member, same⟩ := isPrefix
  have nonempty : ∀ listed ∈ lightningPrefixes, listed.toList ≠ [] := by
    decide
  exact nonempty listed member same.symm

theorem trim_prefixed (isPrefix : IsPrefix scheme) (text : String) :
    trim (scheme ++ text) = scheme ++ trimEnd text :=
  trim_append_of_stay isPrefix.ne_empty isPrefix.stay text

theorem append_trimEnd_ne {front : String} (nonempty : front ≠ "")
    (stay : ∀ char ∈ front.toList, isTrimmed char = false) (text : String) :
    front ++ trimEnd text ≠ text := by
  intro same
  have kept : trimEnd text = front ++ trimEnd text := by
    calc
      trimEnd text = trimEnd (front ++ trimEnd text) := by rw [same]
      _ = front ++ trimEnd (trimEnd text) := trimEnd_append nonempty stay _
      _ = front ++ trimEnd text := by rw [trimEnd_trimEnd]
  have chars := congrArg String.toList kept
  rw [String.toList_append, List.self_eq_append_left] at chars
  exact nonempty (String.toList_eq_nil_iff.mp chars)

/-! ## What is handed to the reader -/

theorem invoiceToRead_plain (extras : SendPaymentExtras) :
    invoiceToRead locale { extras with invoice := text } = text ↔
      trim text = text ∧ ¬ Recognised locale text := by
  constructor
  · intro read
    have apart : ¬ Recognised locale (trim text) := by
      intro recognised
      have shorter := length_removePrefix_lt recognised
      have bound := length_trim_le text
      simp only [invoiceToRead] at read
      rw [read] at shorter
      omega
    simp only [invoiceToRead, removePrefix_of_no_colon apart] at read
    rw [read] at apart
    exact ⟨read, apart⟩
  · intro given
    obtain ⟨trimmed, apart⟩ := given
    rw [invoiceToRead, trimmed, removePrefix_of_no_colon apart]

theorem invoiceToRead_unrecognised_ne (isPrefix : IsPrefix scheme)
    (other : ¬ Recognised locale (scheme ++ trimEnd text))
    (extras : SendPaymentExtras) :
    invoiceToRead locale { extras with invoice := scheme ++ text } ≠ text := by
  rw [invoiceToRead, trim_prefixed isPrefix, removePrefix_of_no_colon other]
  exact append_trimEnd_ne isPrefix.ne_empty isPrefix.stay text

theorem invoiceToRead_shorter (isPrefix : IsPrefix scheme)
    (shorter : lowerCase scheme = "lightning:".toList)
    (recognised : Recognised locale (scheme ++ trimEnd text))
    (extras : SendPaymentExtras) :
    invoiceToRead locale { extras with invoice := scheme ++ text } =
      trimEnd text := by
  have size : scheme.toList.length = "lightning:".length := by
    exact (List.length_map Char.toLower).symm.trans
      (congrArg List.length shorter)
  rw [invoiceToRead, trim_prefixed isPrefix,
    removePrefix_of_colon String.toList_append size recognised,
    String.ofList_toList]

/-- Of the longer prefix two slashes stay before the text. -/
theorem invoiceToRead_longer_ne (isPrefix : IsPrefix scheme)
    (longer : lowerCase scheme = "lightning://".toList)
    (extras : SendPaymentExtras) :
    invoiceToRead locale { extras with invoice := scheme ++ text } ≠ text := by
  by_cases recognised : Recognised locale (scheme ++ trimEnd text)
  · have split : (scheme ++ trimEnd text).toList =
        scheme.toList.take 10 ++
          (scheme.toList.drop 10 ++ (trimEnd text).toList) := by
      simp [← List.append_assoc]
    have size : scheme.toList.length = 12 := by
      exact (List.length_map Char.toLower).symm.trans
        (congrArg List.length longer)
    have ten : (scheme.toList.take 10).length = "lightning:".length := by
      rw [List.length_take, size]
      decide
    have left : String.ofList (scheme.toList.drop 10) ≠ "" := by
      intro empty
      have none := congrArg String.toList empty
      rw [String.toList_ofList, String.toList_empty,
        List.drop_eq_nil_iff] at none
      omega
    have stay : ∀ char ∈ (String.ofList (scheme.toList.drop 10)).toList,
        isTrimmed char = false := by
      intro char inRest
      rw [String.toList_ofList] at inRest
      exact isPrefix.stay char (List.mem_of_mem_drop inRest)
    rw [invoiceToRead, trim_prefixed isPrefix,
      removePrefix_of_colon split ten recognised, String.ofList_append,
      String.ofList_toList]
    exact append_trimEnd_ne left stay text
  · exact invoiceToRead_unrecognised_ne isPrefix recognised extras

/-- A text reaches the invoice reader behind a prefix, or behind none, exactly
when that is not the longer prefix, the screen's `trim` removes nothing, and
the locale of the device recognises a prefix where there is one. -/
theorem prefix_stripped_iff (written : scheme = "" ∨ IsPrefix scheme)
    (extras : SendPaymentExtras) :
    invoiceToRead locale { extras with invoice := scheme ++ text } = text ↔
      lowerCase scheme ≠ "lightning://".toList ∧
        trim (scheme ++ text) = scheme ++ text ∧
        (Recognised locale (scheme ++ text) ↔ scheme ≠ "") := by
  rcases written with rfl | isPrefix
  · have other : lowerCase "" ≠ "lightning://".toList := by decide
    rw [String.empty_append, invoiceToRead_plain, and_iff_right other]
    simp
  · have nonempty := isPrefix.ne_empty
    obtain ⟨listed, member, same⟩ := id isPrefix
    simp only [lightningPrefixes, List.mem_cons, List.not_mem_nil,
      or_false] at member
    rw [iff_true_right nonempty, trim_prefixed isPrefix,
      String.append_right_inj]
    rcases member with rfl | rfl
    · have other : lowerCase scheme ≠ "lightning://".toList := by
        rw [same]
        decide
      rw [and_iff_right other]
      by_cases recognised : Recognised locale (scheme ++ trimEnd text)
      · rw [invoiceToRead_shorter isPrefix same recognised]
        constructor
        · intro trimmed
          rw [trimmed] at recognised
          exact ⟨trimmed, recognised⟩
        · exact fun given => given.1
      · apply iff_of_false
        · exact invoiceToRead_unrecognised_ne isPrefix recognised extras
        · intro given
          rw [given.1] at recognised
          exact recognised given.2
    · apply iff_of_false
      · exact invoiceToRead_longer_ne isPrefix same extras
      · exact fun given => given.1 same

/-- Where the ASCII letters are lower-cased as in English, a prefix is
recognised in any case, and only a prefix. -/
theorem recognised_ascii_iff (bare : Bare text)
    (written : scheme = "" ∨ IsPrefix scheme) :
    Recognised .ascii (scheme ++ text) ↔ scheme ≠ "" := by
  rcases written with rfl | isPrefix
  · rw [String.empty_append]
    apply iff_of_false
    · exact bare "lightning:" (by decide)
    · exact fun nonempty => nonempty rfl
  · apply iff_of_true _ isPrefix.ne_empty
    obtain ⟨listed, member, same⟩ := isPrefix
    have colonFirst : ∀ listed ∈ lightningPrefixes,
        "lightning:".toList <+: listed.toList := by
      decide
    have starts : listed.toList <+: lowerCase (scheme ++ text) := by
      rw [lowerCase, String.toList_append, List.map_append, ← same]
      exact List.prefix_append _ _
    exact (colonFirst listed member).trans starts

/-- The Turkish lower case of a capital `I` has no dot. -/
example : invoiceToRead .turkish { invoice := "LIGHTNING:" ++ "lnbc1" } =
    "LIGHTNING:lnbc1" := by
  decide

theorem prefix_stripped_of_shorter :
    invoiceToRead .ascii { invoice := "Lightning:" ++ "lnbc1" } =
      "lnbc1" := by
  have written : "Lightning:" = "" ∨ IsPrefix "Lightning:" :=
    .inr (by decide)
  have bare : Bare "lnbc1" := by decide
  apply (prefix_stripped_iff written { invoice := "" }).mpr
  exact ⟨by decide, by decide, recognised_ascii_iff bare written⟩

/-- A link in the longer form keeps its slashes. -/
theorem slashes_handed_to_reader :
    ¬ ∀ (locale : DefaultLocale) (scheme text : String)
        (extras : SendPaymentExtras),
      Bare text → (scheme = "" ∨ IsPrefix scheme) →
      invoiceToRead locale { extras with invoice := scheme ++ text } =
        text := by
  intro claim
  have bare : Bare "lnbc1" := by decide
  have isPrefix : IsPrefix "lightning://" := by decide
  have read := claim .ascii "lightning://" "lnbc1" { invoice := "" } bare
    (.inr isPrefix)
  exact absurd read (by decide)

end SendPaymentActivity

end EclairWallet
