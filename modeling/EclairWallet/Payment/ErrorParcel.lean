import EclairWallet.Library.Parcel
import EclairWallet.Payment.LightningPaymentError

/-!
# Payment errors in parcels

`writeToParcel` writes the five fields of an error.  The constructor that
reads a parcel reads all of them, but leaves the hops in a local list.
-/

namespace EclairWallet

open Parcel

namespace LightningPaymentError

def writeToParcel (error : LightningPaymentError) (parcel : Parcel) : Parcel :=
  let parcel := parcel.writeString error.type
  let parcel := parcel.writeString error.cause
  let parcel := parcel.writeString error.origin
  let parcel := parcel.writeString error.originChannelId
  parcel.writeList error.hops

/-- `LightningPaymentError(Parcel)`. -/
def createFromParcel : Reader LightningPaymentError := do
  let type ← readString
  let cause ← readString
  let origin ← readString
  let originChannelId ← readString
  let _h ← readList []
  pure { type, cause, origin, originChannelId, hops := none }

/-- Reading consumes exactly what was written, and returns it without the
hops. -/
theorem createFromParcel_writeToParcel (error : LightningPaymentError)
    (later : Parcel) :
    createFromParcel (error.writeToParcel [] ++ later) =
      some ({ error with hops := none }, later) := by
  have items : error.writeToParcel [] ++ later =
      .string error.type :: .string error.cause :: .string error.origin ::
        .string error.originChannelId :: (listItems error.hops ++ later) := by
    simp [writeToParcel, writeList_eq, writeString]
  rw [items, createFromParcel, bind_readString, bind_readString,
    bind_readString, bind_readString,
    bind_of_read (readList_items error.hops later)]
  rfl

end LightningPaymentError

namespace LightningErrorHolder

/-- `bindErrorItem` shows the route when there are hops. -/
def showsRoute (error : LightningPaymentError) : Bool :=
  match error.hops with
  | none => false
  | some hops => ! hops.isEmpty

end LightningErrorHolder

namespace LightningPaymentError

/-- An error comes back from a parcel as it was exactly when its hops were
null, and the failure screen never shows the route of one that comes back. -/
theorem parcel_round_trip_iff (error : LightningPaymentError)
    (later : Parcel) :
    (createFromParcel (error.writeToParcel [] ++ later) =
        some (error, later) ↔ error.hops = none) ∧
      ∃ read, createFromParcel (error.writeToParcel [] ++ later) =
          some (read, later) ∧
        LightningErrorHolder.showsRoute read = false := by
  rw [createFromParcel_writeToParcel]
  refine ⟨?_, _, rfl, rfl⟩
  obtain ⟨type, cause, origin, originChannelId, hops⟩ := error
  simp [eq_comm]

/-- What the constructor built has hops, and they are lost. -/
theorem hops_lost_in_parcel :
    ¬ ∀ error : LightningPaymentError,
      createFromParcel (error.writeToParcel []) = some (error, []) := by
  intro claim
  have back := claim (new (some "RemoteFailure") (some "cause") (some "origin")
    none (some ["node", "next"]))
  exact absurd back (by decide)

end LightningPaymentError

end EclairWallet
