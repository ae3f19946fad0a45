import EclairWallet.Uri.PayeeSoundness

/-!
# What the map of a URI holds

Every entry of the map comes from one token, or is the address part.  Its type
is decided by its key, so the casts of the getters succeed.
-/

namespace EclairWallet

open JavaText

namespace BitcoinURI

variable {PaymentRequest : Type} {env : UriEnvironment PaymentRequest}
  {input token : Text} {map next : ParameterMap PaymentRequest}

/-- The token stores the entry, or nothing: a parameter that may be left out
has no value. -/
def Stores (env : UriEnvironment PaymentRequest) (token : Text)
    (stored : Option (Text × UriValue PaymentRequest)) : Prop :=
  ∃ name valueToken value, name ≠ [] ∧
    splitFirst '=' token = (name, some valueToken) ∧
    parameterValue env (env.toLowerCaseEnglish name) valueToken =
      .ok value ∧
    stored = value.map (Prod.mk (env.toLowerCaseEnglish name))

theorem parseParameter_eq_ok_iff :
    parseParameter env map token = .ok next ↔
      ∃ stored, Stores env token stored ∧ next = map ++ stored.toList ∧
        ∀ entry ∈ stored, map.lookup entry.1 = none := by
  constructor
  · intro result
    unfold parseParameter at result
    split at result
    · cases result
    · cases result
    next name valueToken nonempty pieces =>
      have named : name ≠ [] := by
        rintro rfl
        exact nonempty rfl
      cases read : parameterValue env (env.toLowerCaseEnglish name)
          valueToken with
      | error thrown => simp [read] at result
      | ok value =>
          simp only [read] at result
          refine ⟨value.map (Prod.mk (env.toLowerCaseEnglish name)),
            ⟨name, valueToken, value, named, pieces, read, rfl⟩, ?_⟩
          cases value with
          | none =>
              cases result
              simp
          | some value =>
              obtain ⟨free, rfl⟩ := putWithValidation_eq_ok_iff.mp result
              simpa using free
  · intro given
    obtain ⟨_, ⟨name, valueToken, value, nonempty, pieces, read, rfl⟩, rfl,
      free⟩ := given
    obtain ⟨char, rest, rfl⟩ := List.exists_cons_of_ne_nil nonempty
    simp only [parseParameter, pieces, read]
    cases value with
    | none => simp
    | some value =>
        exact putWithValidation_eq_ok_iff.mpr ⟨free _ rfl, rfl⟩

/-! ## Types -/

/-- The key decides the type. -/
def Typed (key : Text) : UriValue PaymentRequest → Prop
  | .satoshi amount => key = fieldAmount ∧ 0 ≤ amount
  | .paymentRequest _ => key = fieldLightning
  | .text _ => key ≠ fieldAmount ∧ key ≠ fieldLightning

/-- The text of a parameter reads as the value. -/
def Reads (env : UriEnvironment PaymentRequest) (valueToken : Text) :
    UriValue PaymentRequest → Prop
  | .satoshi amount => env.convertStringAmountToSat valueToken = some amount
  | .paymentRequest request => env.readPaymentRequest valueToken = some request
  | .text value => decode env valueToken = some value

/-- The input gives the key this value: as its address part, or in a parameter
that has this name up to letter case. -/
def Given (env : UriEnvironment PaymentRequest) (input key : Text)
    (value : UriValue PaymentRequest) : Prop :=
  (key = fieldAddress ∧ addressPart env input ≠ [] ∧
      value = .text (addressPart env input)) ∨
    ∃ token ∈ parameterTokens env input, ∃ name valueToken,
      splitFirst '=' token = (name, some valueToken) ∧
      env.toLowerCaseEnglish name = key ∧ Reads env valueToken value

/-- The map binds the amount to a nonnegative number of satoshi, the lightning
invoice to a payment request, and everything else to a text. -/
structure Represented (map : ParameterMap PaymentRequest) : Prop where
  amount : ∀ value, (fieldAmount, value) ∈ map →
    ∃ amount, value = .satoshi amount ∧ 0 ≤ amount
  lightning : ∀ value, (fieldLightning, value) ∈ map →
    ∃ request, value = .paymentRequest request
  others : ∀ key value, (key, value) ∈ map → key ≠ fieldAmount →
    key ≠ fieldLightning → ∃ text, value = .text text

/-- No getter fails, and each returns null or what the input gives its own
key. -/
structure GettersReturn (env : UriEnvironment PaymentRequest) (input : Text)
    (map : ParameterMap PaymentRequest) : Prop where
  address : ∃ address, getAddress map = .ok address ∧
    ∀ text ∈ address, Given env input fieldAddress (.text text)
  amount : ∃ amount, getAmount map = .ok amount ∧
    ∀ satoshi ∈ amount, Given env input fieldAmount (.satoshi satoshi)
  label : ∃ label, getLabel map = .ok label ∧
    ∀ text ∈ label, Given env input fieldLabel (.text text)
  message : ∃ message, getMessage map = .ok message ∧
    ∀ text ∈ message, Given env input fieldMessage (.text text)
  lightning : ∃ request, getLightningPaymentRequest map = .ok request ∧
    ∀ invoice ∈ request,
      Given env input fieldLightning (.paymentRequest invoice)

/-- The invariant of the map while it is filled. -/
def Sound (env : UriEnvironment PaymentRequest) (input : Text)
    (map : ParameterMap PaymentRequest) : Prop :=
  ∀ key value, (key, value) ∈ map → Typed key value ∧ Given env input key value

theorem typed_of_parameterValue {key valueToken : Text}
    {value : UriValue PaymentRequest}
    (result : parameterValue env key valueToken = .ok (some value)) :
    Typed key value ∧ Reads env valueToken value := by
  unfold parameterValue at result
  split at result
  next isAmount =>
    split at result
    · cases result
    next amount read =>
      split at result
      · cases result
      next nonneg =>
        cases result
        exact ⟨⟨isAmount, Int.not_lt.mp nonneg⟩, read⟩
  next notAmount =>
    split at result
    next isLightning =>
      split at result
      · cases result
      next request read =>
        cases result
        exact ⟨isLightning, read⟩
    next notLightning =>
      split at result
      · cases result
      · split at result
        · cases result
        · split at result
          · cases result
          next decoded decodes =>
            cases result
            exact ⟨⟨notAmount, notLightning⟩, decodes⟩

theorem Sound.parseParameter (sound : Sound env input map)
    (member : token ∈ parameterTokens env input)
    (result : BitcoinURI.parseParameter env map token = .ok next) :
    Sound env input next := by
  obtain ⟨stored, stores, rfl, _⟩ := parseParameter_eq_ok_iff.mp result
  intro key value inNext
  rcases List.mem_append.mp inNext with old | new
  · exact sound key value old
  · obtain ⟨name, valueToken, value?, _, pieces, read, rfl⟩ := stores
    obtain ⟨read?, isSome, same⟩ :=
      Option.map_eq_some_iff.mp (Option.mem_toList.mp new)
    cases same
    subst value?
    obtain ⟨typed, reads⟩ := typed_of_parameterValue read
    exact ⟨typed, .inr ⟨token, member, name, valueToken, pieces, rfl, reads⟩⟩

theorem Sound.parseParameters {tokens : List Text}
    (sound : Sound env input map)
    (members : ∀ token ∈ tokens, token ∈ parameterTokens env input)
    (result : BitcoinURI.parseParameters env map tokens = .ok next) :
    Sound env input next := by
  induction tokens generalizing map with
  | nil =>
      cases result
      exact sound
  | cons token tokens induction =>
      simp only [BitcoinURI.parseParameters] at result
      cases first : BitcoinURI.parseParameter env map token with
      | error thrown => simp [first] at result
      | ok middle =>
          simp only [first] at result
          apply induction
          · exact sound.parseParameter (members token (by simp)) first
          · intro later member
            exact members later (List.mem_cons_of_mem _ member)
          · exact result

theorem Sound.putAddress (sound : Sound env input map)
    (result : BitcoinURI.putAddress env (addressPart env input) map =
      .ok next) :
    Sound env input next := by
  by_cases noPart : addressPart env input = []
  · rw [noPart] at result
    rw [← putAddress_of_empty result]
    exact sound
  · rw [BitcoinURI.putAddress, if_pos noPart] at result
    split at result
    · obtain ⟨_, rfl⟩ := putWithValidation_eq_ok_iff.mp result
      intro key value inNext
      rcases List.mem_append.mp inNext with old | new
      · exact sound key value old
      · cases List.mem_singleton.mp new
        refine ⟨⟨by decide, by decide⟩, .inl ⟨rfl, noPart, rfl⟩⟩
    · cases result

theorem Sound.new (accepted : BitcoinURI.new env input = .ok map) :
    Sound env input map := by
  obtain ⟨parsed, parses, puts⟩ := new_eq_ok accepted
  have parsedSound : Sound env input parsed := by
    apply Sound.parseParameters _ (fun _ member => member) parses
    intro key value inEmpty
    cases inEmpty
  exact parsedSound.putAddress puts

/-! ## Getters -/

theorem mem_of_lookup {key : Text} {value : UriValue PaymentRequest}
    (found : map.lookup key = some value) : (key, value) ∈ map := by
  obtain ⟨before, after, split, _⟩ := List.lookup_eq_some_iff.mp found
  simp [split]

theorem Sound.getText (sound : Sound env input map) {key : Text}
    (notAmount : key ≠ fieldAmount) (notLightning : key ≠ fieldLightning) :
    ∃ text, BitcoinURI.getText map key = .ok text ∧
      ∀ value ∈ text, Given env input key (.text value) := by
  unfold BitcoinURI.getText
  cases found : map.lookup key with
  | none => exact ⟨none, rfl, by simp⟩
  | some value =>
      obtain ⟨typed, given⟩ := sound key value (mem_of_lookup found)
      cases value with
      | satoshi amount => exact (notAmount typed.1).elim
      | paymentRequest request => exact (notLightning typed).elim
      | text value => exact ⟨some value, rfl, by simpa using given⟩

theorem Sound.getAmount (sound : Sound env input map) :
    ∃ amount, BitcoinURI.getAmount map = .ok amount ∧
      ∀ satoshi ∈ amount, Given env input fieldAmount (.satoshi satoshi) := by
  unfold BitcoinURI.getAmount
  cases found : map.lookup fieldAmount with
  | none => exact ⟨none, rfl, by simp⟩
  | some value =>
      obtain ⟨typed, given⟩ := sound fieldAmount value (mem_of_lookup found)
      cases value with
      | satoshi amount => exact ⟨some amount, rfl, by simpa using given⟩
      | paymentRequest request =>
          have apart : fieldAmount ≠ fieldLightning := by decide
          exact (apart typed).elim
      | text value => exact (typed.1 rfl).elim

theorem Sound.getLightningPaymentRequest (sound : Sound env input map) :
    ∃ request, BitcoinURI.getLightningPaymentRequest map = .ok request ∧
      ∀ invoice ∈ request,
        Given env input fieldLightning (.paymentRequest invoice) := by
  unfold BitcoinURI.getLightningPaymentRequest
  cases found : map.lookup fieldLightning with
  | none => exact ⟨none, rfl, by simp⟩
  | some value =>
      obtain ⟨typed, given⟩ := sound fieldLightning value (mem_of_lookup found)
      cases value with
      | satoshi amount => exact absurd typed.1 (by decide)
      | paymentRequest request =>
          exact ⟨some request, rfl, by simpa using given⟩
      | text value => exact (typed.2 rfl).elim

theorem Sound.represented (sound : Sound env input map) : Represented map := by
  constructor
  · intro value bound
    have typed := (sound fieldAmount value bound).1
    cases value with
    | satoshi amount => exact ⟨amount, rfl, typed.2⟩
    | paymentRequest request =>
        have apart : fieldAmount ≠ fieldLightning := by decide
        exact (apart typed).elim
    | text value => exact (typed.1 rfl).elim
  · intro value bound
    have typed := (sound fieldLightning value bound).1
    cases value with
    | satoshi amount => exact absurd typed.1 (by decide)
    | paymentRequest request => exact ⟨request, rfl⟩
    | text value => exact (typed.2 rfl).elim
  · intro key value bound notAmount notLightning
    have typed := (sound key value bound).1
    cases value with
    | satoshi amount => exact (notAmount typed.1).elim
    | paymentRequest request => exact (notLightning typed).elim
    | text value => exact ⟨value, rfl⟩

/-- Whatever input is accepted, its map is typed by its keys, and the getters
return what the input gives these keys. -/
theorem map_represented (accepted : new env input = .ok map) :
    Represented map ∧ GettersReturn env input map := by
  have sound := Sound.new accepted
  refine ⟨sound.represented, ?_⟩
  constructor
  · exact sound.getText (by decide) (by decide)
  · exact sound.getAmount
  · exact sound.getText (by decide) (by decide)
  · exact sound.getText (by decide) (by decide)
  · exact sound.getLightningPaymentRequest

theorem label_represented :
    @Represented Unit
        [("label".toList, .text "x".toList),
          ("address".toList,
            .text "mipcBbFg9gMiCh81Kj8tqqdgoZub1ZJRfn".toList)] ∧
      GettersReturn sampleEnvironment
        "bitcoin:mipcBbFg9gMiCh81Kj8tqqdgoZub1ZJRfn?label=x".toList
        [("label".toList, .text "x".toList),
          ("address".toList,
            .text "mipcBbFg9gMiCh81Kj8tqqdgoZub1ZJRfn".toList)] := by
  apply map_represented
  decide

end BitcoinURI

end EclairWallet
