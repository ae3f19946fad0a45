import Mathlib
import EclairWallet.Library.JavaUri
import EclairWallet.Uri.ParameterMap

/-!
# The order of the parameters of a URI

Each token stores at most one entry, whatever was stored before, and no key is
stored twice.  The syntax check looks at the tokens one by one, too, and
counts the hashes.  So the order of the tokens does not matter.
-/

namespace EclairWallet

open JavaText

namespace BitcoinURI

variable {PaymentRequest : Type} {env : UriEnvironment PaymentRequest}
  {charset : JavaUri.Charset} {input token part : Text}
  {map next other parsed : ParameterMap PaymentRequest}
  {tokens others : List Text}

/-- What is documented of the parts the constructor calls: the syntax check is
that of `java.net.URI`, the prefix of required names is lower-cased to itself,
and addresses are base58 or bech32. -/
structure Documented (env : UriEnvironment PaymentRequest)
    (charset : JavaUri.Charset) : Prop where
  newURI : env.newURI = JavaUri.new charset
  required : ∀ name, "req-".toList <+: name →
    "req-".toList <+: env.toLowerCaseEnglish name
  addresses : ∀ address, env.addressToPublicKeyScript address = true →
    JavaUri.IsPlain address

/-- The scheme the input starts with is written in ASCII letters; a Turkish
locale lower-cases another letter to `i`, too. -/
def AsciiScheme (env : UriEnvironment PaymentRequest) (input : Text) : Prop :=
  ∀ scheme ∈ [correctScheme, blockchainInfoScheme],
    scheme <+: env.toLowerCase input → scheme <+: input.map Char.toLower

/-- The input has a supported scheme, this address part and these tokens. -/
def HasParts (env : UriEnvironment PaymentRequest) (input address : Text)
    (tokens : List Text) : Prop :=
  AsciiScheme env input ∧ ∃ part, schemeSpecificPart env input = some part ∧
    addressToken part = address ∧ nameValuePairTokens part = tokens

def Accepted (env : UriEnvironment PaymentRequest) (input : Text) : Prop :=
  ∃ map, new env input = .ok map

/-- All getters return the same. -/
structure Agree (first second : ParameterMap PaymentRequest) : Prop where
  address : getAddress first = getAddress second
  amount : getAmount first = getAmount second
  label : getLabel first = getLabel second
  message : getMessage first = getMessage second
  lightning : getLightningPaymentRequest first =
    getLightningPaymentRequest second
  url : getPaymentRequestUrl first = getPaymentRequestUrl second
  parameter : ∀ name,
    getParameterByName first name = getParameterByName second name

/-- No two tokens give values to names that are equal up to letter case, and
no name is required. -/
structure Distinct (env : UriEnvironment PaymentRequest)
    (tokens : List Text) : Prop where
  names : tokens.Pairwise (fun first second =>
    ∀ name value other otherValue,
      splitFirst '=' first = (name, some value) → value ≠ [] →
      splitFirst '=' second = (other, some otherValue) → otherValue ≠ [] →
        env.toLowerCaseEnglish name ≠ env.toLowerCaseEnglish other)
  required : ∀ token ∈ tokens,
    ¬"req-".toList <+: (splitFirst '=' token).1 ∧
      ¬"req-".toList <+: env.toLowerCaseEnglish (splitFirst '=' token).1

/-! ## Entries -/

theorem lookup_eq_some_iff_mem {key : Text} {value : UriValue PaymentRequest}
    (nodup : (map.map Prod.fst).Nodup) :
    map.lookup key = some value ↔ (key, value) ∈ map := by
  constructor
  · exact mem_of_lookup
  · intro member
    obtain ⟨before, after, rfl⟩ := List.append_of_mem member
    rw [List.map_append, List.nodup_append] at nodup
    have apart : before.lookup key = none := by
      rw [List.lookup_eq_none_iff]
      intro entry inBefore
      rw [bne_iff_ne]
      intro same
      exact nodup.2.2 entry.1 (List.mem_map_of_mem inBefore) key
        (by simp) same.symm
    rw [List.lookup_append, apart]
    simp

theorem lookup_of_perm (nodup : (map.map Prod.fst).Nodup)
    (permuted : map.Perm other) (key : Text) :
    map.lookup key = other.lookup key := by
  have otherNodup := (permuted.map Prod.fst).nodup_iff.mp nodup
  apply Option.ext
  intro value
  rw [lookup_eq_some_iff_mem nodup, lookup_eq_some_iff_mem otherNodup]
  exact permuted.mem_iff

theorem reduceOption_cons (stored : Option (Text × UriValue PaymentRequest))
    (rest : List (Option (Text × UriValue PaymentRequest))) :
    (stored :: rest).reduceOption = stored.toList ++ rest.reduceOption := by
  cases stored <;> rfl

theorem free_iff_nodup {stored : Option (Text × UriValue PaymentRequest)}
    (nodup : (map.map Prod.fst).Nodup) :
    (∀ entry ∈ stored, map.lookup entry.1 = none) ↔
      ((map ++ stored.toList).map Prod.fst).Nodup := by
  cases stored with
  | none => simpa using nodup
  | some entry =>
      simp only [Option.mem_some_iff, forall_eq', Option.toList_some,
        List.map_append, List.nodup_append, nodup, true_and,
        List.lookup_eq_none_iff, bne_iff_ne]
      constructor
      · intro free
        refine ⟨by simp, ?_⟩
        intro key inMap newKey isNew
        obtain ⟨old, member, rfl⟩ := List.mem_map.mp inMap
        rw [List.map_singleton, List.mem_singleton] at isNew
        subst newKey
        exact Ne.symm (free old member)
      · intro given old member
        obtain ⟨_, apart⟩ := given
        exact Ne.symm (apart old.1 (List.mem_map_of_mem member) entry.1
          (by simp))

/-- The tokens are parsed when each stores its entry and no key is there
twice. -/
theorem parseParameters_eq_ok_iff (nodup : (map.map Prod.fst).Nodup) :
    parseParameters env map tokens = .ok next ↔
      ∃ stored, List.Forall₂ (Stores env) tokens stored ∧
        next = map ++ stored.reduceOption ∧ (next.map Prod.fst).Nodup := by
  induction tokens generalizing map with
  | nil =>
      simp only [parseParameters, Except.ok.injEq, List.forall₂_nil_left_iff,
        exists_eq_left, List.reduceOption_nil, List.append_nil]
      constructor
      · rintro rfl
        exact ⟨rfl, nodup⟩
      · intro given
        obtain ⟨rfl, _⟩ := given
        rfl
  | cons token tokens induction =>
      constructor
      · intro result
        simp only [parseParameters] at result
        cases first : parseParameter env map token with
        | error thrown => simp [first] at result
        | ok middle =>
            simp only [first] at result
            obtain ⟨entry, stores, rfl, free⟩ :=
              parseParameter_eq_ok_iff.mp first
            obtain ⟨stored, all, rfl, final⟩ :=
              (induction ((free_iff_nodup nodup).mp free)).mp result
            refine ⟨entry :: stored, .cons stores all, ?_, final⟩
            rw [reduceOption_cons, List.append_assoc]
      · intro given
        obtain ⟨_, all, rfl, final⟩ := given
        cases all with
        | @cons _ entry _ stored stores all =>
            have split : map ++ (entry :: stored).reduceOption =
                map ++ entry.toList ++ stored.reduceOption := by
              rw [reduceOption_cons, List.append_assoc]
            have middle : ((map ++ entry.toList).map Prod.fst).Nodup := by
              rw [split, List.map_append] at final
              exact (List.nodup_append.mp final).1
            have first : parseParameter env map token =
                .ok (map ++ entry.toList) :=
              parseParameter_eq_ok_iff.mpr
                ⟨entry, stores, rfl, (free_iff_nodup nodup).mpr middle⟩
            rw [parseParameters, first]
            exact (induction middle).mpr ⟨stored, all, split, final⟩

theorem exists_parsed_of_perm (permuted : tokens.Perm others)
    (result : parseParameters env [] tokens = .ok parsed) :
    ∃ later, parseParameters env [] others = .ok later ∧
      ∀ key, parsed.lookup key = later.lookup key := by
  have empty : (([] : ParameterMap PaymentRequest).map Prod.fst).Nodup :=
    List.nodup_nil
  obtain ⟨stored, all, rfl, nodup⟩ :=
    (parseParameters_eq_ok_iff empty).mp result
  obtain ⟨reordered, allOthers, sameStored⟩ :=
    List.perm_comp_forall₂ permuted.symm all
  have sameEntries : ([] ++ stored.reduceOption).Perm
      ([] ++ reordered.reduceOption) :=
    (sameStored.symm.filterMap id).append_left []
  refine ⟨[] ++ reordered.reduceOption, ?_, ?_⟩
  · apply (parseParameters_eq_ok_iff empty).mpr
    exact ⟨reordered, allOthers, rfl,
      (sameEntries.map Prod.fst).nodup_iff.mp nodup⟩
  · exact lookup_of_perm nodup sameEntries

theorem exists_putAddress {address : Text}
    {first second : ParameterMap PaymentRequest}
    (same : ∀ key, first.lookup key = second.lookup key)
    (result : putAddress env address first = .ok map) :
    ∃ other, putAddress env address second = .ok other ∧
      ∀ key, map.lookup key = other.lookup key := by
  unfold putAddress at result ⊢
  by_cases nonempty : address ≠ []
  · rw [if_pos nonempty] at result ⊢
    split at result
    next valid =>
      obtain ⟨free, rfl⟩ := putWithValidation_eq_ok_iff.mp result
      rw [if_pos valid]
      refine ⟨second ++ [(fieldAddress, .text address)], ?_, ?_⟩
      · apply putWithValidation_eq_ok_iff.mpr
        exact ⟨same fieldAddress ▸ free, rfl⟩
      · intro key
        simp only [List.lookup_append, same]
    · cases result
  · rw [if_neg nonempty] at result ⊢
    have sameUrl : getPaymentRequestUrl second = getPaymentRequestUrl first := by
      simp only [getPaymentRequestUrl, getText, same]
    rw [sameUrl]
    split at result
    · cases result
    · cases result
    next url isUrl =>
      cases result
      exact ⟨second, rfl, same⟩

theorem Agree.of_lookup {first second : ParameterMap PaymentRequest}
    (same : ∀ key, first.lookup key = second.lookup key) :
    Agree first second := by
  constructor
  all_goals
    simp only [getAddress, getAmount, getLabel, getMessage,
      getLightningPaymentRequest, getPaymentRequestUrl, getText,
      getParameterByName, same, implies_true]

/-! ## Distinct names -/

theorem parameterValue_ne_none {key valueToken : Text}
    (nonempty : valueToken ≠ []) :
    parameterValue env key valueToken ≠ .ok none := by
  unfold parameterValue
  split
  · split
    · simp
    · split
      · simp
      · simp
  · split
    · split
      · simp
      · simp
    · split
      · simp
      · split
        · simp
        · simp

theorem not_required_of_parameterValue {key valueToken : Text}
    {value : Option (UriValue PaymentRequest)}
    (result : parameterValue env key valueToken = .ok value) :
    ¬"req-".toList <+: key := by
  have notAmount : ¬"req-".toList <+: fieldAmount := by decide
  have notLightning : ¬"req-".toList <+: fieldLightning := by decide
  intro required
  have apart : key ≠ fieldAmount := fun same => notAmount (same ▸ required)
  have apartToo : key ≠ fieldLightning := fun same =>
    notLightning (same ▸ required)
  rw [parameterValue, if_neg apart, if_neg apartToo, if_pos required] at result
  cases result

theorem Stores.of_value {name value : Text}
    {stored : Option (Text × UriValue PaymentRequest)}
    (stores : Stores env token stored)
    (pieces : splitFirst '=' token = (name, some value))
    (nonempty : value ≠ []) :
    ∃ entry, stored = some entry ∧ entry.1 = env.toLowerCaseEnglish name := by
  obtain ⟨_, _, value?, _, same, read, rfl⟩ := stores
  rw [pieces] at same
  cases same
  cases value? with
  | none => exact (parameterValue_ne_none nonempty read).elim
  | some value => exact ⟨_, rfl, rfl⟩

theorem exists_stored_of_mem
    {stored : List (Option (Text × UriValue PaymentRequest))}
    (all : List.Forall₂ (Stores env) tokens stored)
    (member : token ∈ tokens) :
    ∃ entry ∈ stored, Stores env token entry := by
  induction all with
  | nil => cases member
  | @cons head entry tokens stored stores all induction =>
      rcases List.mem_cons.mp member with rfl | later
      · exact ⟨entry, by simp, stores⟩
      · obtain ⟨other, inStored, otherStores⟩ := induction later
        exact ⟨other, List.mem_cons_of_mem _ inStored, otherStores⟩

theorem pairwise_names
    {stored : List (Option (Text × UriValue PaymentRequest))}
    (all : List.Forall₂ (Stores env) tokens stored)
    (nodup : (stored.reduceOption.map Prod.fst).Nodup) :
    tokens.Pairwise (fun first second =>
      ∀ name value other otherValue,
        splitFirst '=' first = (name, some value) → value ≠ [] →
        splitFirst '=' second = (other, some otherValue) → otherValue ≠ [] →
          env.toLowerCaseEnglish name ≠ env.toLowerCaseEnglish other) := by
  induction all with
  | nil => exact .nil
  | @cons token entry tokens stored stores all induction =>
      rw [reduceOption_cons, List.map_append, List.nodup_append] at nodup
      refine .cons ?_ (induction nodup.2.1)
      intro second member name value other otherValue pieces nonempty
        otherPieces otherNonempty same
      obtain ⟨first, rfl, firstKey⟩ := stores.of_value pieces nonempty
      obtain ⟨later, inStored, laterStores⟩ := exists_stored_of_mem all member
      obtain ⟨last, rfl, lastKey⟩ :=
        laterStores.of_value otherPieces otherNonempty
      apply nodup.2.2 first.1 (by simp) last.1 _
      · rw [firstKey, lastKey, same]
      · exact List.mem_map_of_mem (List.reduceOption_mem_iff.mpr inStored)

theorem distinct_of_accepted (documented : Documented env charset)
    (accepted : new env input = .ok map) :
    Distinct env (parameterTokens env input) := by
  have empty : (([] : ParameterMap PaymentRequest).map Prod.fst).Nodup :=
    List.nodup_nil
  obtain ⟨parsed, parses, _⟩ := new_eq_ok accepted
  obtain ⟨stored, all, rfl, nodup⟩ :=
    (parseParameters_eq_ok_iff empty).mp parses
  refine ⟨pairwise_names all nodup, ?_⟩
  intro token member
  obtain ⟨entry, _, name, valueToken, value, _, pieces, read, _⟩ :=
    exists_stored_of_mem all member
  rw [pieces]
  have notRequired := not_required_of_parameterValue read
  exact ⟨fun required => notRequired (documented.required name required),
    notRequired⟩

/-! ## The syntax check -/

theorem eq_of_toLower {char lower : Char} (same : char.toLower = lower)
    (other : lower.isAlpha = false) : char = lower := by
  rw [← same, Char.isAlpha_toLower_eq_isAlpha] at other
  have notUpper : ¬char.isUpper = true := by
    intro upper
    simp [Char.isAlpha, upper] at other
  rw [← same, Char.toLower_eq_of_not_isUpper notUpper]

/-- A scheme of letters, in whatever case, stands before its colon. -/
theorem exists_scheme (lower rest : Text)
    (letters : lower.all Char.isAlpha = true) (nonempty : lower ≠ [])
    (others : rest.all (fun char => !char.isAlpha) = true)
    (isPrefix : lower ++ rest <+: input.map Char.toLower) :
    ∃ scheme, scheme ≠ [] ∧ (∀ char ∈ scheme, char.isAlpha = true) ∧
      input = scheme ++ rest ++ input.drop (lower ++ rest).length := by
  obtain ⟨later, split⟩ := isPrefix
  rw [List.append_assoc] at split
  obtain ⟨scheme, behind, rfl, lowered, behindLowered⟩ :=
    List.map_eq_append_iff.mp split.symm
  obtain ⟨kept, part, rfl, keptLowered, _⟩ :=
    List.map_eq_append_iff.mp behindLowered
  have keptSame : kept = rest := by
    have fixed : kept.map Char.toLower = kept.map id := by
      apply List.map_congr_left
      intro char member
      have inRest : char.toLower ∈ rest := by
        rw [← keptLowered]
        exact List.mem_map_of_mem member
      have other := List.all_eq_true.mp others _ inRest
      rw [Bool.not_eq_true'] at other
      exact (eq_of_toLower rfl other).symm
    rw [← keptLowered, fixed, List.map_id]
  subst kept
  refine ⟨scheme, ?_, ?_, ?_⟩
  · rintro rfl
    exact nonempty lowered.symm
  · intro char member
    have inLower : char.toLower ∈ lower := by
      rw [← lowered]
      exact List.mem_map_of_mem member
    rw [← Char.isAlpha_toLower_eq_isAlpha]
    exact List.all_eq_true.mp letters _ inLower
  · have size : (lower ++ rest).length = (scheme ++ rest).length := by
      rw [List.length_append, ← lowered, List.length_map, List.length_append]
    rw [size, ← List.append_assoc, List.drop_left]

theorem eq_splitFirst (separator : Char) (text : Text) :
    text = (splitFirst separator text).1 ++
      (splitFirst separator text).2.elim [] (separator :: ·) := by
  by_cases separated : separator ∈ text
  · obtain ⟨first, second, rfl, apart⟩ := List.eq_append_cons_of_mem separated
    rw [splitFirst_append apart]
    rfl
  · rw [splitFirst_of_not_mem separated]
    simp

theorem eq_withQuery (part : Text) :
    part = JavaUri.withQuery (addressToken part) (splitFirst '?' part).2 :=
  eq_splitFirst '?' part

theorem checkReference_query_iff :
    JavaUri.checkReference charset ((splitFirst '?' part).2.getD []) = true ↔
      JavaUri.CheckPieces charset (nameValuePairTokens part) := by
  rw [JavaUri.checkReference_split_iff, nameValuePairTokens]
  cases (splitFirst '?' part).2 with
  | none => simp [split, JavaUri.CheckPieces]
  | some query => rfl

theorem newURI_correct (documented : Documented env charset)
    (ascii : AsciiScheme env input)
    (isPart : schemeSpecificPart env input = some part)
    (plain : JavaUri.IsPlain (addressToken part))
    (something : addressToken part ≠ [] ∨ (splitFirst '?' part).2 ≠ none) :
    env.newURI input ≠ none ↔
      JavaUri.CheckPieces charset (nameValuePairTokens part) := by
  rw [documented.newURI, ← checkReference_query_iff]
  unfold schemeSpecificPart at isPart
  split at isPart
  next slashes =>
    obtain ⟨scheme, nonempty, letters, split⟩ :=
      exists_scheme "bitcoin".toList "://".toList (by decide) (by decide)
        (by decide)
        (ascii blockchainInfoScheme (by simp) slashes)
    have isDrop : input.drop blockchainInfoScheme.length = part :=
      Option.some.inj isPart
    have size : ("bitcoin".toList ++ "://".toList).length =
        blockchainInfoScheme.length := by decide
    have whole : input = scheme ++ ':' :: '/' :: '/' ::
        JavaUri.withQuery (addressToken part) (splitFirst '?' part).2 := by
      rw [← eq_withQuery, ← isDrop, ← size]
      simpa using split
    rw [whole, JavaUri.new_scheme letters nonempty,
      JavaUri.checkSchemeSpecific_authority plain something]
    simp
  next =>
    split at isPart
    next colon =>
      obtain ⟨scheme, nonempty, letters, split⟩ :=
        exists_scheme "bitcoin".toList ":".toList (by decide) (by decide)
          (by decide)
          (ascii correctScheme (by simp) colon)
      have isDrop : input.drop correctScheme.length = part :=
        Option.some.inj isPart
      have size : ("bitcoin".toList ++ ":".toList).length =
          correctScheme.length := by decide
      have whole : input = scheme ++ ':' ::
          JavaUri.withQuery (addressToken part) (splitFirst '?' part).2 := by
        rw [← eq_withQuery, ← isDrop, ← size]
        simpa using split
      rw [whole, JavaUri.new_scheme letters nonempty,
        JavaUri.checkSchemeSpecific_withQuery plain something]
      simp
    · cases isPart

/-! ## Permuted tokens -/

theorem new_eq_ok_iff (isPart : schemeSpecificPart env input = some part) :
    new env input = .ok map ↔
      env.newURI input ≠ none ∧ ∃ parsed,
        parseParameters env [] (nameValuePairTokens part) = .ok parsed ∧
          putAddress env (addressToken part) parsed = .ok map := by
  unfold new
  cases env.newURI input with
  | none => simp
  | some scheme =>
      simp only [isPart, ne_eq, reduceCtorEq, not_false_eq_true, true_and]
      cases parseParameters env [] (nameValuePairTokens part) with
      | error thrown => simp
      | ok parsed => simp

theorem nameValuePairTokens_ne_nil (tokens : nameValuePairTokens part ≠ []) :
    (splitFirst '?' part).2 ≠ none := by
  intro noQuery
  rw [nameValuePairTokens, noQuery] at tokens
  exact tokens rfl

/-- What is accepted has an address of letters and digits, or tokens. -/
theorem plain_of_putAddress (documented : Documented env charset)
    {address : Text}
    (parses : parseParameters env [] tokens = .ok parsed)
    (puts : putAddress env address parsed = .ok map) :
    JavaUri.IsPlain address ∧ (address ≠ [] ∨ tokens ≠ []) := by
  by_cases nonempty : address ≠ []
  · have valid := (putAddress_of_nonempty nonempty puts).1
    exact ⟨documented.addresses address valid, .inl nonempty⟩
  · rw [ne_eq, not_not] at nonempty
    subst address
    refine ⟨by simp [JavaUri.IsPlain], .inr ?_⟩
    rintro rfl
    cases parses
    cases puts

/-- The constructor accepts the same parts with permuted tokens, and fills a
map that agrees. -/
theorem accepted_of_perm (documented : Documented env charset)
    {first second address : Text}
    (firstParts : HasParts env first address tokens)
    (secondParts : HasParts env second address others)
    (permuted : tokens.Perm others)
    (accepted : new env first = .ok map) :
    ∃ other, new env second = .ok other ∧ Agree map other := by
  obtain ⟨ascii, part, isPart, rfl, rfl⟩ := firstParts
  obtain ⟨otherAscii, otherPart, isOther, sameAddress, rfl⟩ := secondParts
  obtain ⟨correct, parsed, parses, puts⟩ := (new_eq_ok_iff isPart).mp accepted
  obtain ⟨plain, something⟩ := plain_of_putAddress documented parses puts
  have hasQuery : addressToken part ≠ [] ∨ (splitFirst '?' part).2 ≠ none :=
    something.imp_right nameValuePairTokens_ne_nil
  have otherQuery : addressToken otherPart ≠ [] ∨
      (splitFirst '?' otherPart).2 ≠ none := by
    rw [sameAddress]
    apply something.imp_right
    intro nonempty
    apply nameValuePairTokens_ne_nil
    intro none
    rw [none] at permuted
    exact nonempty permuted.eq_nil
  have otherCorrect : env.newURI second ≠ none := by
    apply (newURI_correct documented otherAscii isOther (sameAddress ▸ plain)
      otherQuery).mpr
    exact ((newURI_correct documented ascii isPart plain hasQuery).mp
      correct).perm permuted
  obtain ⟨later, parsesOther, sameLookup⟩ :=
    exists_parsed_of_perm permuted parses
  obtain ⟨other, putsOther, agree⟩ := exists_putAddress sameLookup puts
  refine ⟨other, ?_, Agree.of_lookup agree⟩
  apply (new_eq_ok_iff isOther).mpr
  refine ⟨otherCorrect, later, parsesOther, ?_⟩
  rw [sameAddress]
  exact putsOther

/-- Inputs with the same address part and permuted tokens are rejected both,
or accepted both with the same values; and an accepted input has no two values
for one name and no required parameter. -/
theorem order_independent (documented : Documented env charset) :
    (∀ first second address tokens others,
      HasParts env first address tokens →
      HasParts env second address others → tokens.Perm others →
      (Accepted env first ↔ Accepted env second) ∧
        ∀ map other, new env first = .ok map → new env second = .ok other →
          Agree map other) ∧
    ∀ input map, new env input = .ok map →
      Distinct env (parameterTokens env input) := by
  refine ⟨?_, fun input map => distinct_of_accepted documented⟩
  intro first second address tokens others firstParts secondParts permuted
  refine ⟨⟨?_, ?_⟩, ?_⟩
  · intro given
    obtain ⟨map, accepted⟩ := given
    obtain ⟨other, acceptedOther, _⟩ :=
      accepted_of_perm documented firstParts secondParts permuted accepted
    exact ⟨other, acceptedOther⟩
  · intro given
    obtain ⟨map, accepted⟩ := given
    obtain ⟨other, acceptedOther, _⟩ := accepted_of_perm documented
      secondParts firstParts permuted.symm accepted
    exact ⟨other, acceptedOther⟩
  · intro map other accepted acceptedOther
    obtain ⟨found, acceptedFound, agree⟩ :=
      accepted_of_perm documented firstParts secondParts permuted accepted
    rw [acceptedOther, Except.ok.injEq] at acceptedFound
    rw [acceptedFound]
    exact agree

/-! ## Empty tokens -/

/-- ASCII texts, checked as `java.net.URI` does. -/
def asciiCharset : JavaUri.Charset where
  printable _ := false
  serverBased _ := false

def asciiEnvironment : UriEnvironment Unit :=
  { sampleEnvironment with newURI := JavaUri.new asciiCharset }

theorem asciiEnvironment_schemes (input : Text) :
    AsciiScheme asciiEnvironment input :=
  fun _ _ starts => starts

theorem asciiEnvironment_documented :
    Documented asciiEnvironment asciiCharset where
  newURI := rfl
  required name isPrefix := by
    have lowered := isPrefix.map Char.toLower
    exact lowered
  addresses address valid := by
    have isAddress : address = "mipcBbFg9gMiCh81Kj8tqqdgoZub1ZJRfn".toList :=
      of_decide_eq_true valid
    have plain : "mipcBbFg9gMiCh81Kj8tqqdgoZub1ZJRfn".toList.all
        Char.isAlphanum = true := by decide
    rw [isAddress]
    exact List.all_eq_true.mp plain

/-- The same parameters in another order, behind another spelling of the
scheme. -/
theorem accepted_in_any_order :
    Accepted asciiEnvironment "BITCOIN://?label=b&r=a".toList := by
  have firstParts : HasParts asciiEnvironment "bitcoin:?r=a&label=b".toList []
      ["r=a".toList, "label=b".toList] :=
    ⟨asciiEnvironment_schemes _, "?r=a&label=b".toList, by decide, by decide,
      by decide⟩
  have secondParts : HasParts asciiEnvironment
      "BITCOIN://?label=b&r=a".toList [] ["label=b".toList, "r=a".toList] :=
    ⟨asciiEnvironment_schemes _, "?label=b&r=a".toList, by decide, by decide,
      by decide⟩
  apply ((order_independent asciiEnvironment_documented).1 _ _ _ _ _
    firstParts secondParts (.swap _ _ _)).1.mp
  exact ⟨[("r".toList, .text "a".toList), ("label".toList, .text "b".toList)],
    by decide⟩

/-- A token without an equals sign is refused even when it is empty. -/
theorem empty_token_refused :
    ¬∀ (env : UriEnvironment Unit) (charset : JavaUri.Charset)
        (first second address : Text) (tokens others : List Text),
      Documented env charset → HasParts env first address tokens →
      HasParts env second address others →
      (tokens.filter (· ≠ [])).Perm (others.filter (· ≠ [])) →
      (Accepted env first ↔ Accepted env second) := by
  intro claim
  have firstParts : HasParts asciiEnvironment "bitcoin:?r=a".toList []
      ["r=a".toList] :=
    ⟨asciiEnvironment_schemes _, "?r=a".toList, by decide, by decide,
      by decide⟩
  have secondParts : HasParts asciiEnvironment "bitcoin:?&r=a".toList []
      [[], "r=a".toList] :=
    ⟨asciiEnvironment_schemes _, "?&r=a".toList, by decide, by decide,
      by decide⟩
  have both := claim asciiEnvironment asciiCharset _ _ _ _ _
    asciiEnvironment_documented firstParts secondParts (.refl _)
  have accepted : Accepted asciiEnvironment "bitcoin:?r=a".toList :=
    ⟨[("r".toList, .text "a".toList)], by decide⟩
  obtain ⟨map, acceptedToo⟩ := both.mp accepted
  have refused : new asciiEnvironment "bitcoin:?&r=a".toList =
      .error (.parse "Malformed Bitcoin URI - no separator in ''") := by
    decide
  rw [refused] at acceptedToo
  cases acceptedToo

end BitcoinURI

end EclairWallet
