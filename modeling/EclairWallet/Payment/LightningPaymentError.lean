/-!
# Lightning payment errors

The failures the node reports for a payment attempt, and the error the wallet
shows for each of them.
-/

namespace EclairWallet

/-- One hop of a payment route; `shortChannelId` is that of its last
update. -/
structure Hop where
  nodeId : String
  nextNodeId : String
  shortChannelId : String
  deriving DecidableEq, Repr

/-- The throwable of a local failure, by the classes the source tells
apart. -/
inductive LocalThrowable where
  | routeNotFound
  | routeTooExpensive
  | channelException (message : Option String) (channelId : String)
  | other (simpleName : String)
  deriving DecidableEq, Repr

inductive PaymentFailure where
  | remoteFailure (originNode message : String) (route : List Hop)
  | localFailure (t : LocalThrowable)
  | unreadableRemoteFailure (route : List Hop)
  | other (simpleName : String)
  deriving DecidableEq, Repr

/-- `hops` is null in an error that was read from a parcel. -/
structure LightningPaymentError where
  type : Option String
  cause : Option String
  origin : Option String
  originChannelId : Option String
  hops : Option (List String)
  deriving DecidableEq, Repr

namespace LightningPaymentError

/-- The constructor replaces missing hops by an empty list. -/
def new (type cause origin originChannelId : Option String)
    (hops : Option (List String)) : LightningPaymentError :=
  { type, cause, origin, originChannelId, hops := some (hops.getD []) }

/-- The body of the loop over the hops of a remote failure: the first hop
also adds its own node, and a hop starting at the origin node sets the origin
channel. -/
def remoteHop (origin : String) (acc : List String × Option String)
    (hop : Hop × Nat) : List String × Option String :=
  let (h, hi) := hop
  let nodes := if hi = 0 then acc.1 ++ [h.nodeId] else acc.1
  let channel := if origin = h.nodeId then some h.shortChannelId else acc.2
  (nodes ++ [h.nextNodeId], channel)

/-- The body of the loop over the hops of an unreadable failure. -/
def unreadableHop (acc : List String) (hop : Hop × Nat) : List String :=
  let (h, hi) := hop
  let nodes := if hi = 0 then acc ++ [h.nodeId] else acc
  nodes ++ [h.nextNodeId]

def generateDetailedErrorCause : PaymentFailure → LightningPaymentError
  | .remoteFailure originNode message route =>
      let (hopsNodesPK, originChannelId) :=
        route.zipIdx.foldl (remoteHop originNode) ([], none)
      new (some "RemoteFailure") (some message) (some originNode)
        originChannelId (some hopsNodesPK)
  | .localFailure t =>
      let (cause, originChannelId) := match t with
        | .routeNotFound =>
            (some "The wallet could not find a path to the payee.", none)
        | .routeTooExpensive =>
            (some "Routing fees exceed 3% and are deemed too expensive. This check can be disabled in the application's preferences.",
              none)
        | .channelException message channelId => (message, some channelId)
        | .other simpleName => (some simpleName, none)
      new (some "LocalFailure") cause none originChannelId none
  | .unreadableRemoteFailure route =>
      new (some "UnreadableRemoteFailure")
        (some "A peer on the route failed the payment with an non readable cause")
        none none (some (route.zipIdx.foldl unreadableHop []))
  | .other simpleName =>
      new (some ("Unknown Error:" ++ simpleName)) (some "Unknown Cause")
        none none none

end LightningPaymentError

end EclairWallet
