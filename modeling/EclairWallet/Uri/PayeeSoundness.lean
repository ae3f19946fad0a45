import EclairWallet.Uri.BitcoinURI

/-!
# Where the address of a URI comes from

The entry of the map under `address` is written by the constructor from the
address part, and by the parser from a parameter of that name.  The check for
duplicates keeps the two apart only when the constructor writes.
-/

namespace EclairWallet

open JavaText

namespace BitcoinURI

variable {PaymentRequest : Type} {env : UriEnvironment PaymentRequest}

/-- The address component of the input. -/
def addressPart (env : UriEnvironment PaymentRequest) (input : Text) : Text :=
  addressToken ((schemeSpecificPart env input).getD input)

def parameterTokens (env : UriEnvironment PaymentRequest) (input : Text) :
    List Text :=
  nameValuePairTokens ((schemeSpecificPart env input).getD input)

/-- The token gives a nonempty value to a parameter called `address` up to
letter case. -/
def NamesAddress (env : UriEnvironment PaymentRequest) (token : Text) : Prop :=
  env.toLowerCaseEnglish (splitFirst '=' token).1 = fieldAddress ∧
    ∃ value, (splitFirst '=' token).2 = some value ∧ value ≠ []

/-- The address of the URI is null, or it is the address component and was
accepted for the wallet's chain. -/
def PayeeSound (env : UriEnvironment PaymentRequest) (input : Text)
    (map : ParameterMap PaymentRequest) : Prop :=
  getAddress map = .ok none ∨
    getAddress map = .ok (some (addressPart env input)) ∧
      env.addressToPublicKeyScript (addressPart env input) = true

/-- Decoding at least one byte gives at least one character. -/
def DecodesToText (env : UriEnvironment PaymentRequest) : Prop :=
  ∀ bytes, bytes ≠ [] → env.newStringUtf8 bytes ≠ []

/-! ## Decoding -/

theorem flush_ne_nil (decodes : DecodesToText env) {bytes : ByteString.Bytes}
    (pending : bytes ≠ []) : flush env bytes ≠ [] := by
  rw [flush, if_neg pending]
  exact decodes bytes pending

/-- The induction is on the text; `bytes` are the escapes read so far. -/
theorem decodeFrom_ne_nil (decodes : DecodesToText env)
    {bytes : ByteString.Bytes} {text decoded : Text}
    (something : bytes ≠ [] ∨ text ≠ [])
    (result : decodeFrom env bytes text = some decoded) : decoded ≠ [] := by
  induction bytes, text using decodeFrom.induct generalizing decoded with
  | case1 bytes =>
      cases result
      rcases something with pending | impossible
      · exact flush_ne_nil decodes pending
      · exact (impossible rfl).elim
  | case2 bytes high low text induction =>
      obtain ⟨byte, _, rest⟩ := Option.bind_eq_some_iff.mp result
      apply induction byte _ rest
      left
      simp
  | case3 bytes text malformed =>
      rw [decodeFrom] at result
      · cases result
      · exact malformed
  | case4 bytes text _ =>
      obtain ⟨rest, _, joined⟩ := Option.map_eq_some_iff.mp result
      subst joined
      simp
  | case5 bytes char text notEscape notEscapes notPlus _ =>
      rw [decodeFrom] at result
      · obtain ⟨rest, _, joined⟩ := Option.map_eq_some_iff.mp result
        subst joined
        simp
      · exact notEscape
      · exact notEscapes
      · exact notPlus

theorem decode_ne_nil (decodes : DecodesToText env) {text decoded : Text}
    (nonempty : text ≠ []) (result : decode env text = some decoded) :
    decoded ≠ [] :=
  decodeFrom_ne_nil decodes (.inr nonempty) result

/-! ## The entry under `address` -/

theorem putWithValidation_eq_ok_iff {map next : ParameterMap PaymentRequest}
    {key : Text} {value : UriValue PaymentRequest} :
    putWithValidation map key value = .ok next ↔
      map.lookup key = none ∧ map ++ [(key, value)] = next := by
  unfold putWithValidation
  cases found : map.lookup key with
  | none => simp
  | some stored => simp

theorem lookup_put (map : ParameterMap PaymentRequest) (key : Text)
    (value : UriValue PaymentRequest) (free : map.lookup key = none) :
    (map ++ [(key, value)]).lookup key = some value := by
  rw [List.lookup_append, free]
  simp

theorem lookup_put_of_ne (map : ParameterMap PaymentRequest)
    {key other : Text} (value : UriValue PaymentRequest)
    (different : other ≠ key) :
    (map ++ [(key, value)]).lookup other = map.lookup other := by
  have apart : (other == key) = false := beq_eq_false_iff_ne.mpr different
  rw [List.lookup_append, List.lookup_cons, apart]
  simp

theorem parameterValue_address (decodes : DecodesToText env)
    {valueToken : Text} {stored : Option (UriValue PaymentRequest)}
    (result : parameterValue env fieldAddress valueToken = .ok stored) :
    stored = none ∧ valueToken = [] ∨
      valueToken ≠ [] ∧ ∃ decoded, decoded ≠ [] ∧
        stored = some (.text decoded) := by
  have notAmount : fieldAddress ≠ fieldAmount := by decide
  have notLightning : fieldAddress ≠ fieldLightning := by decide
  have notRequired : ¬"req-".toList <+: fieldAddress := by decide
  rw [parameterValue, if_neg notAmount, if_neg notLightning,
    if_neg notRequired] at result
  by_cases empty : valueToken = []
  · rw [if_pos empty] at result
    left
    cases result
    exact ⟨rfl, empty⟩
  · rw [if_neg empty] at result
    cases decoding : decode env valueToken with
    | none =>
        rw [decoding] at result
        cases result
    | some decoded =>
        rw [decoding] at result
        right
        cases result
        exact ⟨empty, decoded, decode_ne_nil decodes empty decoding, rfl⟩

theorem parseParameter_address (decodes : DecodesToText env)
    {map next : ParameterMap PaymentRequest} {token : Text}
    (result : parseParameter env map token = .ok next) :
    ¬NamesAddress env token ∧
        next.lookup fieldAddress = map.lookup fieldAddress ∨
      NamesAddress env token ∧ map.lookup fieldAddress = none ∧
        ∃ decoded, decoded ≠ [] ∧
          next.lookup fieldAddress = some (.text decoded) := by
  unfold parseParameter at result
  split at result
  · cases result
  · cases result
  next name valueToken _ pieces =>
    cases stored : parameterValue env (env.toLowerCaseEnglish name)
        valueToken with
    | error thrown => simp [stored] at result
    | ok stored? =>
        simp only [stored] at result
        by_cases named : env.toLowerCaseEnglish name = fieldAddress
        · rw [named] at stored
          rcases parameterValue_address decodes stored with
            ⟨rfl, empty⟩ | ⟨nonempty, decoded, decodedNonempty, rfl⟩
          · left
            cases result
            refine ⟨?_, rfl⟩
            intro ⟨_, value, isValue, valueNonempty⟩
            rw [pieces, Option.some.injEq] at isValue
            exact valueNonempty (isValue ▸ empty)
          · right
            obtain ⟨free, rfl⟩ := putWithValidation_eq_ok_iff.mp result
            rw [named] at free
            refine ⟨⟨?_, valueToken, ?_, nonempty⟩, free, decoded,
              decodedNonempty, ?_⟩
            · rw [pieces]
              exact named
            · rw [pieces]
            · rw [named]
              exact lookup_put map fieldAddress _ free
        · left
          constructor
          · intro ⟨isNamed, _⟩
            rw [pieces] at isNamed
            exact named isNamed
          · cases stored? with
            | none =>
                cases result
                rfl
            | some value =>
                obtain ⟨_, rfl⟩ := putWithValidation_eq_ok_iff.mp result
                exact lookup_put_of_ne map value (Ne.symm named)

/-- The tokens store an address exactly when one of them names one.  The
induction is on the tokens; the map grows. -/
theorem parseParameters_address (decodes : DecodesToText env)
    {map final : ParameterMap PaymentRequest} {tokens : List Text}
    (result : parseParameters env map tokens = .ok final) :
    (∀ token ∈ tokens, ¬NamesAddress env token) ∧
        final.lookup fieldAddress = map.lookup fieldAddress ∨
      (∃ token ∈ tokens, NamesAddress env token) ∧
        map.lookup fieldAddress = none ∧ ∃ decoded, decoded ≠ [] ∧
          final.lookup fieldAddress = some (.text decoded) := by
  induction tokens generalizing map with
  | nil =>
      left
      cases result
      exact ⟨by simp, rfl⟩
  | cons token tokens induction =>
      simp only [parseParameters] at result
      cases first : parseParameter env map token with
      | error thrown => simp [first] at result
      | ok next =>
          simp only [first] at result
          rcases parseParameter_address decodes first with
            ⟨notNamed, same⟩ | ⟨named, free, decoded, nonempty, stored⟩
          · rcases induction result with
              ⟨noneNamed, sameLater⟩ | ⟨⟨later, member, isNamed⟩, free, stored⟩
            · left
              refine ⟨?_, sameLater.trans same⟩
              intro other member
              rcases List.mem_cons.mp member with rfl | member
              · exact notNamed
              · exact noneNamed other member
            · right
              refine ⟨⟨later, List.mem_cons_of_mem _ member, isNamed⟩, ?_,
                stored⟩
              rw [← same]
              exact free
          · right
            refine ⟨⟨token, List.mem_cons_self, named⟩, free, decoded,
              nonempty, ?_⟩
            rcases induction result with
              ⟨_, sameLater⟩ | ⟨_, impossible, _⟩
            · rw [sameLater]
              exact stored
            · rw [stored] at impossible
              cases impossible

/-! ## The constructor -/

theorem new_eq_ok {input : Text} {map : ParameterMap PaymentRequest}
    (accepted : new env input = .ok map) :
    ∃ parsed, parseParameters env [] (parameterTokens env input) = .ok parsed ∧
      putAddress env (addressPart env input) parsed = .ok map := by
  unfold new at accepted
  split at accepted
  · cases accepted
  · split at accepted
    · cases accepted
    next part isPart =>
      split at accepted
      · cases accepted
      next parsed parses =>
        refine ⟨parsed, ?_, ?_⟩
        · rw [parameterTokens, isPart]
          exact parses
        · rw [addressPart, isPart]
          exact accepted

theorem getAddress_of_lookup_none {map : ParameterMap PaymentRequest}
    (missing : map.lookup fieldAddress = none) : getAddress map = .ok none := by
  rw [getAddress, getText, missing]

theorem getAddress_of_lookup_text {map : ParameterMap PaymentRequest}
    {value : Text} (stored : map.lookup fieldAddress = some (.text value)) :
    getAddress map = .ok (some value) := by
  rw [getAddress, getText, stored]

theorem putAddress_of_nonempty {parsed map : ParameterMap PaymentRequest}
    {address : Text} (nonempty : address ≠ [])
    (result : putAddress env address parsed = .ok map) :
    env.addressToPublicKeyScript address = true ∧
      getAddress map = .ok (some address) := by
  rw [putAddress, if_pos nonempty] at result
  split at result
  next valid =>
    obtain ⟨free, rfl⟩ := putWithValidation_eq_ok_iff.mp result
    exact ⟨valid, getAddress_of_lookup_text (lookup_put _ _ _ free)⟩
  · cases result

theorem putAddress_of_empty {parsed map : ParameterMap PaymentRequest}
    (result : putAddress env [] parsed = .ok map) : parsed = map := by
  have empty : ¬(([] : Text) ≠ []) := not_not.mpr rfl
  rw [putAddress, if_neg empty] at result
  split at result
  · cases result
  · cases result
  · exact Except.ok.inj result

theorem payeeSound_of_part {input : Text} {map : ParameterMap PaymentRequest}
    (accepted : new env input = .ok map)
    (hasPart : addressPart env input ≠ []) : PayeeSound env input map := by
  obtain ⟨parsed, _, puts⟩ := new_eq_ok accepted
  obtain ⟨valid, address⟩ := putAddress_of_nonempty hasPart puts
  exact .inr ⟨address, valid⟩

theorem parsed_of_no_part {input : Text} {map : ParameterMap PaymentRequest}
    (accepted : new env input = .ok map)
    (noPart : addressPart env input = []) :
    parseParameters env [] (parameterTokens env input) = .ok map := by
  obtain ⟨parsed, parses, puts⟩ := new_eq_ok accepted
  rw [noPart] at puts
  rw [putAddress_of_empty puts] at parses
  exact parses

theorem payeeSound_of_unnamed (decodes : DecodesToText env) {input : Text}
    {map : ParameterMap PaymentRequest} (accepted : new env input = .ok map)
    (unnamed : ∀ token ∈ parameterTokens env input, ¬NamesAddress env token) :
    PayeeSound env input map := by
  by_cases noPart : addressPart env input = []
  · rcases parseParameters_address decodes (parsed_of_no_part accepted noPart)
      with ⟨_, missing⟩ | ⟨⟨token, member, named⟩, _⟩
    · left
      exact getAddress_of_lookup_none (missing.trans List.lookup_nil)
    · exact (unnamed token member named).elim
  · exact payeeSound_of_part accepted noPart

/-- A parameter supplies an address that is neither null nor the empty address
part. -/
theorem not_payeeSound (decodes : DecodesToText env) {input token : Text}
    {map : ParameterMap PaymentRequest} (accepted : new env input = .ok map)
    (noPart : addressPart env input = [])
    (member : token ∈ parameterTokens env input)
    (named : NamesAddress env token) : ¬PayeeSound env input map := by
  intro sound
  rcases parseParameters_address decodes (parsed_of_no_part accepted noPart)
    with ⟨unnamed, _⟩ | ⟨_, _, decoded, nonempty, stored⟩
  · exact unnamed token member named
  · have address := getAddress_of_lookup_text stored
    rcases sound with isNull | ⟨isPart, _⟩
    · rw [address] at isNull
      cases isNull
    · rw [address, noPart] at isPart
      cases isPart
      exact nonempty rfl

/-- An accepted URI names the payee of its address part, or none, exactly when
it has an address part or no parameter that names an address. -/
theorem payee_sound_iff (decodes : DecodesToText env) {input : Text}
    {map : ParameterMap PaymentRequest} (accepted : new env input = .ok map) :
    PayeeSound env input map ↔
      addressPart env input ≠ [] ∨
        ∀ token ∈ parameterTokens env input, ¬NamesAddress env token := by
  constructor
  · intro sound
    by_cases noPart : addressPart env input = []
    · right
      intro token member named
      exact not_payeeSound decodes accepted noPart member named sound
    · exact .inl noPart
  · intro condition
    rcases condition with hasPart | unnamed
    · exact payeeSound_of_part accepted hasPart
    · exact payeeSound_of_unnamed decodes accepted unnamed

/-! ## An address among the parameters -/

/-- ASCII texts and one address of the chain. -/
def sampleEnvironment : UriEnvironment Unit where
  newURI input :=
    if input.all (fun char =>
        char.isAlphanum || char ∈ ";/?:@&=+$,[]-_.!~*'()".toList) then
      some (some (String.ofList (splitFirst ':' input).1))
    else none
  toLowerCase := List.map Char.toLower
  toLowerCaseEnglish := List.map Char.toLower
  convertStringAmountToSat _ := none
  readPaymentRequest _ := none
  newStringUtf8 := List.map (fun byte => Char.ofNat byte.toNat)
  addressToPublicKeyScript address :=
    address = "mipcBbFg9gMiCh81Kj8tqqdgoZub1ZJRfn".toList

theorem parameter_supplies_payee :
    processBitcoinInvoiceFinish (readBitcoinInvoice sampleEnvironment
      "bitcoin:?address=EVIL&r=x".toList) = some "EVIL".toList ∧
    ¬∀ input map, new sampleEnvironment input = .ok map →
      PayeeSound sampleEnvironment input map := by
  constructor
  · decide
  · intro always
    have accepted : new sampleEnvironment "bitcoin:?address=EVIL&r=x".toList =
        .ok [("address".toList, .text "EVIL".toList),
          ("r".toList, .text "x".toList)] := by
      decide
    rcases always _ _ accepted with isNull | ⟨isPart, _⟩
    · cases isNull
    · exact absurd isPart (by decide)

theorem payee_is_address_part :
    PayeeSound sampleEnvironment
      "bitcoin:mipcBbFg9gMiCh81Kj8tqqdgoZub1ZJRfn?label=x".toList
      [("label".toList, .text "x".toList),
        ("address".toList,
          .text "mipcBbFg9gMiCh81Kj8tqqdgoZub1ZJRfn".toList)] := by
  have decodes : DecodesToText sampleEnvironment := by
    intro bytes nonempty isEmpty
    exact nonempty (List.map_eq_nil_iff.mp isEmpty)
  have accepted : new sampleEnvironment
      "bitcoin:mipcBbFg9gMiCh81Kj8tqqdgoZub1ZJRfn?label=x".toList =
        .ok [("label".toList, .text "x".toList),
          ("address".toList,
            .text "mipcBbFg9gMiCh81Kj8tqqdgoZub1ZJRfn".toList)] := by
    decide
  apply (payee_sound_iff decodes accepted).mpr
  left
  decide

end BitcoinURI

end EclairWallet
