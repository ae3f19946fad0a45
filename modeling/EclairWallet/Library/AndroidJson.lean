import EclairWallet.Library.JavaLong
import EclairWallet.Library.JavaNumber
import Mathlib.Data.Rat.Defs

/-!
# Values of `org.json`

The getters of `JSONObject` coerce: a text is read where a number is asked
for, and anything is written out where a text is asked for.  A getter that
cannot coerce throws a `JSONException`, here `none`.
-/

namespace EclairWallet.AndroidJson

/-- A `double`.  A finite one is given by its value. -/
inductive JavaDouble where
  | finite (value : Rat)
  | infinite (negative : Bool)
  | nan
  deriving DecidableEq

namespace JavaDouble

def IsFinite : JavaDouble → Prop
  | .finite _ => True
  | .infinite _ => False
  | .nan => False

instance : DecidablePred IsFinite
  | .finite _ => .isTrue trivial
  | .infinite _ => .isFalse id
  | .nan => .isFalse id

/-- The cast `(int)`: towards zero, and the nearest `int` outside its range. -/
def toInt : JavaDouble → Int
  | .finite value =>
      max (-(2 ^ 31)) (min (2 ^ 31 - 1) (value.num.tdiv value.den))
  | .infinite true => -(2 ^ 31)
  | .infinite false => 2 ^ 31 - 1
  | .nan => 0

end JavaDouble

/-- A parsed value.  An integer is an `Integer` or a `Long`, and the members
of an object have different names. -/
inductive Json where
  | null
  | bool (value : Bool)
  | integer (value : Int)
  | double (value : JavaDouble)
  | string (value : String)
  | array (elements : List Json)
  | object (members : List (String × Json))

abbrev JSONObject := List (String × Json)

/-- What the getters take from the Java library. -/
structure Coercions where
  /-- `Double.parseDouble`. -/
  parseDouble : String → Option JavaDouble
  /-- The `double` nearest to a `long`. -/
  nearest : Int → Rat
  /-- `String.valueOf` for a `double`. -/
  doubleText : JavaDouble → String
  /-- `String.valueOf` for an array or an object. -/
  nestedText : Json → String
  equalsIgnoreCase : String → String → Bool

/-- Coercions that know whole numbers only. -/
def Coercions.wholeNumbers : Coercions where
  parseDouble text :=
    (JavaNumber.parseLong JavaNumber.asciiDigit text.toList).map
      (fun value => .finite value)
  nearest value := value
  doubleText _ := ""
  nestedText _ := ""
  equalsIgnoreCase first second := first.toLower = second.toLower

variable (coercions : Coercions)

namespace Json

/-- What `getString` makes of a value. -/
def toText : Json → String
  | .string value => value
  | .null => "null"
  | .bool true => "true"
  | .bool false => "false"
  | .integer value => String.ofList (JavaNumber.valueOf value)
  | .double value => coercions.doubleText value
  | .array elements => coercions.nestedText (.array elements)
  | .object members => coercions.nestedText (.object members)

def toDouble : Json → Option JavaDouble
  | .double value => some value
  | .integer value => some (.finite (coercions.nearest value))
  | .string value => coercions.parseDouble value
  | _ => none

def toInteger : Json → Option Int
  | .integer value => some (JavaLong.toInt value)
  | .double value => some value.toInt
  | .string value => (coercions.parseDouble value).map JavaDouble.toInt
  | _ => none

def toBoolean : Json → Option Bool
  | .bool value => some value
  | .string value =>
      if coercions.equalsIgnoreCase value "true" then some true
      else if coercions.equalsIgnoreCase value "false" then some false
      else none
  | _ => none

/-- The element of an array as an object, as `getJSONObject` gives it. -/
def toObject : Json → Option JSONObject
  | .object members => some members
  | _ => none

def toArray : Json → Option (List Json)
  | .array elements => some elements
  | _ => none

end Json

namespace JSONObject

/-- `opt`: the member of a name. -/
def opt (json : JSONObject) (key : String) : Option Json :=
  (json.find? (fun member => member.1 = key)).map Prod.snd

def has (json : JSONObject) (key : String) : Bool :=
  (json.opt key).isSome

def isNull (json : JSONObject) (key : String) : Bool :=
  match json.opt key with
  | none => true
  | some .null => true
  | some _ => false

def getString (json : JSONObject) (key : String) : Option String :=
  (json.opt key).map (Json.toText coercions)

def getDouble (json : JSONObject) (key : String) : Option JavaDouble :=
  (json.opt key).bind (Json.toDouble coercions)

def getInt (json : JSONObject) (key : String) : Option Int :=
  (json.opt key).bind (Json.toInteger coercions)

def getBoolean (json : JSONObject) (key : String) : Option Bool :=
  (json.opt key).bind (Json.toBoolean coercions)

def getJSONArray (json : JSONObject) (key : String) : Option (List Json) :=
  (json.opt key).bind Json.toArray

def getJSONObject (json : JSONObject) (key : String) : Option JSONObject :=
  (json.opt key).bind Json.toObject

theorem isSome_getString (json : JSONObject) (key : String) :
    (json.getString coercions key).isSome = json.has key := by
  simp [getString, has]

theorem getString_of_has {json : JSONObject} {key : String}
    (has : json.has key = true) :
    ∃ text, json.getString coercions key = some text := by
  rw [← Option.isSome_iff_exists, isSome_getString]
  exact has

theorem getString_of_not_has {json : JSONObject} {key : String}
    (missing : ¬ json.has key = true) :
    json.getString coercions key = none := by
  rw [← Option.not_isSome_iff_eq_none, isSome_getString]
  exact missing

end JSONObject

end EclairWallet.AndroidJson
