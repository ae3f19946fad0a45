import EclairWallet.Payment.LightningPaymentError

/-!
# Routes of failed payments

The two loops of `generateDetailedErrorCause` collect the nodes of a route in
the order in which the payment passes them.  The loop of a remote failure also
looks for the last hop that starts at the origin node.
-/

namespace EclairWallet

namespace LightningPaymentError

/-- The node of the first hop, and the node each hop leads to. -/
def routeNodes (route : List Hop) : List String :=
  (route.head?.map Hop.nodeId).toList ++ route.map Hop.nextNodeId

/-- The last hop that starts at the node. -/
def lastFrom (origin : String) (route : List Hop) : Option Hop :=
  route.reverse.find? (fun h => h.nodeId = origin)

variable {origin : String} {route : List Hop}

theorem lastFrom_eq_some_iff {hop : Hop} :
    lastFrom origin route = some hop ↔
      hop.nodeId = origin ∧ ∃ before after,
        route = before ++ hop :: after ∧
          ∀ later ∈ after, later.nodeId ≠ origin := by
  rw [lastFrom, List.find?_eq_some_iff_append]
  apply and_congr
  · simp
  constructor
  · intro given
    obtain ⟨first, rest, split, apart⟩ := given
    refine ⟨rest.reverse, first.reverse, ?_, ?_⟩
    · simpa using congrArg List.reverse split
    · simpa using apart
  · intro given
    obtain ⟨before, after, split, apart⟩ := given
    refine ⟨after.reverse, before.reverse, ?_, ?_⟩
    · simp [split]
    · simpa using apart

theorem lastFrom_eq_none_iff :
    lastFrom origin route = none ↔ ∀ hop ∈ route, hop.nodeId ≠ origin := by
  simp [lastFrom]

theorem lastFrom_cons (hop : Hop) :
    lastFrom origin (hop :: route) =
      (lastFrom origin route).or
        (if hop.nodeId = origin then some hop else none) := by
  rw [lastFrom, List.reverse_cons, List.find?_append, ← lastFrom]
  by_cases starts : hop.nodeId = origin
  · simp [starts]
  · simp [starts]

/-! ## The loops -/

/-- Behind the first hop every hop adds the node it leads to. -/
theorem foldl_unreadableHop (nodes : List String) (hi : Nat) (later : hi ≠ 0) :
    (route.zipIdx hi).foldl unreadableHop nodes =
      nodes ++ route.map Hop.nextNodeId := by
  induction route generalizing nodes hi with
  | nil => simp
  | cons hop route induction =>
      rw [List.zipIdx_cons, List.foldl_cons, induction _ _ (Nat.succ_ne_zero hi)]
      simp [unreadableHop, later]

theorem foldl_remoteHop (acc : List String × Option String) (hi : Nat)
    (later : hi ≠ 0) :
    (route.zipIdx hi).foldl (remoteHop origin) acc =
      (acc.1 ++ route.map Hop.nextNodeId,
        ((lastFrom origin route).map Hop.shortChannelId).or acc.2) := by
  induction route generalizing acc hi with
  | nil => simp [lastFrom]
  | cons hop route induction =>
      rw [List.zipIdx_cons, List.foldl_cons, induction _ _ (Nat.succ_ne_zero hi),
        lastFrom_cons]
      by_cases starts : hop.nodeId = origin
      · cases lastFrom origin route <;>
          simp [remoteHop, later, starts]
      · cases lastFrom origin route <;>
          simp [remoteHop, later, starts, Ne.symm starts]

variable (origin route) in
theorem foldl_remoteHop_start :
    route.zipIdx.foldl (remoteHop origin) ([], none) =
      (routeNodes route,
        (lastFrom origin route).map Hop.shortChannelId) := by
  cases route with
  | nil => rfl
  | cons hop route =>
      rw [List.zipIdx_cons, List.foldl_cons,
        foldl_remoteHop _ _ (Nat.succ_ne_zero 0), lastFrom_cons]
      by_cases starts : hop.nodeId = origin
      · cases lastFrom origin route <;>
          simp [remoteHop, routeNodes, starts]
      · cases lastFrom origin route <;>
          simp [remoteHop, routeNodes, starts, Ne.symm starts]

variable (route) in
theorem foldl_unreadableHop_start :
    route.zipIdx.foldl unreadableHop [] = routeNodes route := by
  cases route with
  | nil => rfl
  | cons hop route =>
      rw [List.zipIdx_cons, List.foldl_cons,
        foldl_unreadableHop _ _ (Nat.succ_ne_zero 0)]
      simp [unreadableHop, routeNodes]

theorem length_routeNodes :
    (routeNodes route).length =
      if route = [] then 0 else route.length + 1 := by
  cases route with
  | nil => rfl
  | cons hop route => simp [routeNodes]

/-- Both kinds of failure show the nodes of their route, and a remote failure
names the channel of the last hop that starts at its origin. -/
theorem route_reconstructed (originNode message : String)
    (route : List Hop) :
    let remote :=
      generateDetailedErrorCause (.remoteFailure originNode message route)
    let unreadable :=
      generateDetailedErrorCause (.unreadableRemoteFailure route)
    remote.hops = some (routeNodes route) ∧
      unreadable.hops = some (routeNodes route) ∧
      (routeNodes route).length =
        (if route = [] then 0 else route.length + 1) ∧
      (∀ channel, remote.originChannelId = some channel ↔
        ∃ before hop after, route = before ++ hop :: after ∧
          hop.nodeId = originNode ∧ hop.shortChannelId = channel ∧
          ∀ later ∈ after, later.nodeId ≠ originNode) ∧
      (remote.originChannelId = none ↔
        ∀ hop ∈ route, hop.nodeId ≠ originNode) := by
  intro remote unreadable
  have remoteShown : remote =
      new (some "RemoteFailure") (some message) (some originNode)
        ((lastFrom originNode route).map Hop.shortChannelId)
        (some (routeNodes route)) := by
    simp only [remote, generateDetailedErrorCause, foldl_remoteHop_start]
  have unreadableHops : unreadable.hops = some (routeNodes route) := by
    simp only [unreadable, generateDetailedErrorCause,
      foldl_unreadableHop_start]
    rfl
  rw [remoteShown]
  refine ⟨rfl, unreadableHops, length_routeNodes, ?_, ?_⟩
  · intro channel
    simp only [new, Option.map_eq_some_iff, lastFrom_eq_some_iff]
    constructor
    · intro given
      obtain ⟨hop, ⟨starts, before, after, split, apart⟩, same⟩ := given
      exact ⟨before, hop, after, split, starts, same, apart⟩
    · intro given
      obtain ⟨before, hop, after, split, starts, same, apart⟩ := given
      exact ⟨hop, ⟨starts, before, after, split, apart⟩, same⟩
  · simp only [new, Option.map_eq_none_iff, lastFrom_eq_none_iff]

end LightningPaymentError

end EclairWallet
