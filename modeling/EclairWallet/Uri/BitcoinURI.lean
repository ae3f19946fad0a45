import EclairWallet.Library.Bytes
import EclairWallet.Library.JavaText

/-!
# Bitcoin URIs

`BitcoinURI`, the task that reads one from a scanned text, and the screen that
takes the recipient from it.  The address and the parameters share a map.
-/

namespace EclairWallet

open ByteString JavaText

abbrev Text := List Char

/-- What the constructor calls: the syntax check of `java.net.URI` (the scheme
of a correct URI, possibly null), the two ways of lower-casing, the readers of
an amount and of a payment request, which may throw, the decoding of UTF-8, and
whether an address is one of the wallet's chain. -/
structure UriEnvironment (PaymentRequest : Type) where
  newURI (input : Text) : Option (Option String)
  toLowerCase (text : Text) : Text
  toLowerCaseEnglish (text : Text) : Text
  convertStringAmountToSat (amount : Text) : Option Int
  readPaymentRequest (text : Text) : Option PaymentRequest
  newStringUtf8 (bytes : Bytes) : Text
  addressToPublicKeyScript (address : Text) : Bool

inductive UriError where
  | parse (message : String)
  | arithmetic (message : String)
  | illegalArgument (message : String)
  | unreadableAmount
  | unreadablePaymentRequest
  | invalidAddress
  | classCast
  deriving DecidableEq, Repr

inductive UriValue (PaymentRequest : Type) where
  | satoshi (amount : Int)
  | paymentRequest (request : PaymentRequest)
  | text (value : Text)
  deriving DecidableEq, Repr

/-- The parameters in the order in which they were processed. -/
abbrev ParameterMap (PaymentRequest : Type) :=
  List (Text × UriValue PaymentRequest)

namespace BitcoinURI

def fieldMessage : Text := "message".toList

def fieldLabel : Text := "label".toList

def fieldAmount : Text := "amount".toList

def fieldAddress : Text := "address".toList

def fieldLightning : Text := "lightning".toList

def fieldPaymentRequestUrl : Text := "r".toList

def blockchainInfoScheme : Text := "bitcoin://".toList

def correctScheme : Text := "bitcoin:".toList

variable {PaymentRequest : Type}

/-! ## URL decoding -/

def hexByte (high low : Char) : Option UInt8 :=
  (hexValue high).bind (fun high =>
    (hexValue low).map (fun low => UInt8.ofNat (16 * high + low)))

/-- The text of the escapes read so far. -/
def flush (env : UriEnvironment PaymentRequest) (bytes : Bytes) : Text :=
  if bytes = [] then [] else env.newStringUtf8 bytes

/-- Consecutive escapes are decoded together. -/
def decodeFrom (env : UriEnvironment PaymentRequest) (bytes : Bytes) :
    Text → Option Text
  | [] => some (flush env bytes)
  | '%' :: high :: low :: text =>
      (hexByte high low).bind (fun byte =>
        decodeFrom env (bytes ++ [byte]) text)
  | '%' :: _ => none
  | '+' :: text =>
      (decodeFrom env [] text).map (fun decoded =>
        flush env bytes ++ ' ' :: decoded)
  | char :: text =>
      (decodeFrom env [] text).map (fun decoded =>
        flush env bytes ++ char :: decoded)

/-- `URLDecoder.decode`. -/
def decode (env : UriEnvironment PaymentRequest) (text : Text) : Option Text :=
  decodeFrom env [] text

/-! ## The constructor -/

def putWithValidation (map : ParameterMap PaymentRequest) (key : Text)
    (value : UriValue PaymentRequest) :
    Except UriError (ParameterMap PaymentRequest) :=
  if (map.lookup key).isSome then
    .error (.parse
      ("'" ++ String.ofList key ++ "' is duplicated, URI is invalid"))
  else .ok (map ++ [(key, value)])

/-- What is stored under a parameter; null for an optional parameter without
value. -/
def parameterValue (env : UriEnvironment PaymentRequest)
    (nameToken valueToken : Text) :
    Except UriError (Option (UriValue PaymentRequest)) :=
  if nameToken = fieldAmount then
    match env.convertStringAmountToSat valueToken with
    | none => .error .unreadableAmount
    | some amount =>
        if amount < 0 then .error (.arithmetic "Negative coins specified")
        else .ok (some (.satoshi amount))
  else if nameToken = fieldLightning then
    match env.readPaymentRequest valueToken with
    | none => .error .unreadablePaymentRequest
    | some request => .ok (some (.paymentRequest request))
  else if "req-".toList <+: nameToken then
    .error (.illegalArgument ("'" ++ String.ofList nameToken ++
      "' is required but not known, this URI is not valid"))
  else if valueToken = [] then .ok none
  else
    match decode env valueToken with
    | none => .error (.illegalArgument "Illegal hex characters in escape")
    | some decoded => .ok (some (.text decoded))

def parseParameter (env : UriEnvironment PaymentRequest)
    (map : ParameterMap PaymentRequest) (nameValuePairToken : Text) :
    Except UriError (ParameterMap PaymentRequest) :=
  match splitFirst '=' nameValuePairToken with
  | (_, none) =>
      .error (.parse ("Malformed Bitcoin URI - no separator in '" ++
        String.ofList nameValuePairToken ++ "'"))
  | ([], some _) =>
      .error (.parse ("Malformed Bitcoin URI - empty name '" ++
        String.ofList nameValuePairToken ++ "'"))
  | (name, some valueToken) =>
      let nameToken := env.toLowerCaseEnglish name
      match parameterValue env nameToken valueToken with
      | .error thrown => .error thrown
      | .ok none => .ok map
      | .ok (some value) => putWithValidation map nameToken value

def parseParameters (env : UriEnvironment PaymentRequest) :
    ParameterMap PaymentRequest → List Text →
      Except UriError (ParameterMap PaymentRequest)
  | map, [] => .ok map
  | map, token :: tokens =>
      match parseParameter env map token with
      | .error thrown => .error thrown
      | .ok next => parseParameters env next tokens

def schemeSpecificPart (env : UriEnvironment PaymentRequest) (input : Text) :
    Option Text :=
  if blockchainInfoScheme <+: env.toLowerCase input then
    some (input.drop blockchainInfoScheme.length)
  else if correctScheme <+: env.toLowerCase input then
    some (input.drop correctScheme.length)
  else none

/-- What stands between the scheme and the first question mark. -/
def addressToken (part : Text) : Text :=
  (splitFirst '?' part).1

/-- The `name=value` tokens behind the first question mark. -/
def nameValuePairTokens (part : Text) : List Text :=
  match (splitFirst '?' part).2 with
  | none => []
  | some query => split '&' query

def getText (map : ParameterMap PaymentRequest) (key : Text) :
    Except UriError (Option Text) :=
  match map.lookup key with
  | none => .ok none
  | some (.text value) => .ok (some value)
  | some _ => .error .classCast

def getAddress (map : ParameterMap PaymentRequest) :
    Except UriError (Option Text) :=
  getText map fieldAddress

def getLabel (map : ParameterMap PaymentRequest) :
    Except UriError (Option Text) :=
  getText map fieldLabel

def getMessage (map : ParameterMap PaymentRequest) :
    Except UriError (Option Text) :=
  getText map fieldMessage

def getPaymentRequestUrl (map : ParameterMap PaymentRequest) :
    Except UriError (Option Text) :=
  getText map fieldPaymentRequestUrl

def getAmount (map : ParameterMap PaymentRequest) :
    Except UriError (Option Int) :=
  match map.lookup fieldAmount with
  | none => .ok none
  | some (.satoshi amount) => .ok (some amount)
  | some _ => .error .classCast

def getLightningPaymentRequest (map : ParameterMap PaymentRequest) :
    Except UriError (Option PaymentRequest) :=
  match map.lookup fieldLightning with
  | none => .ok none
  | some (.paymentRequest request) => .ok (some request)
  | some _ => .error .classCast

def getParameterByName (map : ParameterMap PaymentRequest) (name : Text) :
    Option (UriValue PaymentRequest) :=
  map.lookup name

/-- The end of the constructor, after the parameters are parsed. -/
def putAddress (env : UriEnvironment PaymentRequest) (addressToken : Text)
    (map : ParameterMap PaymentRequest) :
    Except UriError (ParameterMap PaymentRequest) :=
  if addressToken ≠ [] then
    if env.addressToPublicKeyScript addressToken then
      putWithValidation map fieldAddress (.text addressToken)
    else .error .invalidAddress
  else
    match getPaymentRequestUrl map with
    | .error thrown => .error thrown
    | .ok none => .error (.parse "No address and no r= parameter found")
    | .ok (some _) => .ok map

def new (env : UriEnvironment PaymentRequest) (input : Text) :
    Except UriError (ParameterMap PaymentRequest) :=
  match env.newURI input with
  | none => .error (.parse "Bad URI syntax")
  | some scheme =>
      match schemeSpecificPart env input with
      | none =>
          .error (.parse ("Unsupported URI scheme: " ++ scheme.getD "null"))
      | some part =>
          match parseParameters env [] (nameValuePairTokens part) with
          | .error thrown => .error thrown
          | .ok map => putAddress env (addressToken part) map

end BitcoinURI

variable {PaymentRequest : Type}

/-- The input of the constructor: the scheme is added to a raw address. -/
def bitcoinInput (env : UriEnvironment PaymentRequest) (invoice : Text) :
    Text :=
  if BitcoinURI.correctScheme <+: env.toLowerCase invoice then invoice
  else BitcoinURI.correctScheme ++ invoice

/-- `BitcoinInvoiceReaderTask.doInBackground`. -/
def readBitcoinInvoice (env : UriEnvironment PaymentRequest) (invoice : Text) :
    Option (ParameterMap PaymentRequest) :=
  (BitcoinURI.new env (bitcoinInput env invoice)).toOption

/-- `processBitcoinInvoiceFinish`: the address the on-chain form pays to, null
when the payment can not be handled. -/
def processBitcoinInvoiceFinish :
    Option (ParameterMap PaymentRequest) → Option Text
  | none => none
  | some bitcoinURI => (BitcoinURI.getAddress bitcoinURI).toOption.join

end EclairWallet
