import Mathlib.Data.List.Basic

/-!
# Parcels

A parcel is written at its end and read from its front.  The reader names no
field: what it reads is decided by the order of its reads, and a read of
another type than was written fails.
-/

namespace EclairWallet

/-- What one primitive write adds. -/
inductive ParcelItem where
  | int (value : Int)
  | string (value : Option String)
  deriving DecidableEq, Repr

abbrev Parcel := List ParcelItem

namespace Parcel

/-- The tag of a string among the values of a list. -/
def valString : Int := 0

/-! ## Writing -/

def writeInt (parcel : Parcel) (value : Int) : Parcel :=
  parcel ++ [.int value]

def writeString (parcel : Parcel) (value : Option String) : Parcel :=
  parcel ++ [.string value]

def writeValue (parcel : Parcel) (value : String) : Parcel :=
  (parcel.writeInt valString).writeString (some value)

/-- A null list has the length -1. -/
def writeList (parcel : Parcel) : Option (List String) → Parcel
  | none => parcel.writeInt (-1)
  | some values => values.foldl writeValue (parcel.writeInt values.length)

/-! ## Reading -/

/-- What a read returns, and what is left to read. -/
abbrev Reader (Value : Type) := StateT Parcel Option Value

def readInt : Reader Int
  | .int value :: rest => some (value, rest)
  | _ => none

def readString : Reader (Option String)
  | .string value :: rest => some (value, rest)
  | _ => none

def readValue : Reader String := do
  let tag ← readInt
  let value ← readString
  match tag, value with
  | 0, some value => pure value
  | _, _ => failure

def readValues : Nat → Reader (List String)
  | 0 => pure []
  | count + 1 => do
      let value ← readValue
      let values ← readValues count
      pure (value :: values)

/-- `readList` adds to the list what it reads, nothing for a null list. -/
def readList (values : List String) : Reader (List String) := do
  let count ← readInt
  let added ← readValues count.toNat
  pure (values ++ added)

/-! ## What is written is read -/

variable {Value Other : Type} {parcel later : Parcel}

theorem bind_of_read {reader : Reader Value} {next : Value → Reader Other}
    {value : Value} (read : reader parcel = some (value, later)) :
    (reader >>= next) parcel = next value later := by
  change (reader parcel).bind (fun result => next result.1 result.2) = _
  rw [read, Option.bind_some]

@[simp] theorem bind_readString (value : Option String)
    (next : Option String → Reader Other) :
    (readString >>= next) (.string value :: later) = next value later :=
  bind_of_read rfl

/-- The items of a value. -/
def valueItems (value : String) : Parcel :=
  [.int valString, .string (some value)]

/-- The items of a list. -/
def listItems : Option (List String) → Parcel
  | none => [.int (-1)]
  | some values => .int values.length :: values.flatMap valueItems

theorem foldl_writeValue (values : List String) :
    values.foldl writeValue parcel =
      parcel ++ values.flatMap valueItems := by
  induction values generalizing parcel with
  | nil => simp
  | cons value values induction =>
      rw [List.foldl_cons, induction]
      simp [writeValue, writeInt, writeString, valueItems]

theorem writeList_eq (values : Option (List String)) :
    parcel.writeList values = parcel ++ listItems values := by
  cases values with
  | none => rfl
  | some values =>
      rw [writeList, foldl_writeValue]
      simp [writeInt, listItems]

theorem readValue_items (value : String) (later : Parcel) :
    readValue (valueItems value ++ later) = some (value, later) :=
  rfl

theorem readValues_items (values : List String) (later : Parcel) :
    readValues values.length (values.flatMap valueItems ++ later) =
      some (values, later) := by
  induction values with
  | nil => rfl
  | cons value values induction =>
      have head := readValue_items value (values.flatMap valueItems ++ later)
      rw [List.length_cons, List.flatMap_cons, List.append_assoc, readValues,
        bind_of_read head, bind_of_read induction]
      rfl

/-- A list is read back, a null list as an empty one. -/
theorem readList_items (values : Option (List String)) (later : Parcel) :
    readList [] (listItems values ++ later) =
      some (values.getD [], later) := by
  cases values with
  | none => rfl
  | some values =>
      have count : readInt (listItems (some values) ++ later) =
          some ((values.length : Int),
            values.flatMap valueItems ++ later) := rfl
      rw [readList, bind_of_read count, Int.toNat_natCast,
        bind_of_read (readValues_items values later)]
      rfl

end Parcel

end EclairWallet
