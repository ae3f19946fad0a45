import EclairWallet.Payment.HtlcsTracked

/-!
# HTLCs offered to us

The handler of `ChannelSignatureSent` does not look at the direction of an
HTLC.  One that was offered to us is passed over only when its payment hash
already has a row that is not `INIT`.
-/

namespace EclairWallet

namespace NodeSupervisor

variable {payments : Table Payment} {h : DirectedHtlc} {now : Nat}
  {htlcs first rest : List DirectedHtlc} {paymentHash : String}

/-- The payment hash has a row that is not `INIT`. -/
def Known (payments : Table Payment) (paymentHash : String) : Prop :=
  ∃ p, DBHelper.getPayment payments paymentHash .btcLn = some p ∧
    p.status ≠ some .init

/-- The rows of direction `SENT` that were created or changed belong to HTLCs
we offered, and the body of the loop leaves the table as it was at each HTLC
that was offered to us. -/
structure IncomingIgnored (payments : Table Payment)
    (htlcs : List DirectedHtlc) (now : Nat) : Prop where
  sent : ∀ p ∈ (onChannelSignatureSent payments (some htlcs) now).state.rows,
    p.direction = .sent → p ∉ payments.rows →
      p.type = .btcLn ∧ p.reference ∈ offered htlcs
  incoming : ∀ first h rest, htlcs = first ++ h :: rest →
    h.direction = .outwards →
      (handleHtlc (handleHtlcs payments now first).1 h now).1 =
        (handleHtlcs payments now first).1

/-- The payment hash of every HTLC offered to us has a row that is not `INIT`,
or the loop has met an HTLC we offered with that payment hash before. -/
def IncomingKnown (payments : Table Payment) (htlcs : List DirectedHtlc) :
    Prop :=
  ∀ first h rest, htlcs = first ++ h :: rest → h.direction = .outwards →
    Known payments h.paymentHash ∨ h.paymentHash ∈ offered first

/-- One HTLC leaves the table alone exactly when its hash is known. -/
theorem handleHtlc_eq_self_iff :
    (handleHtlc payments h now).1 = payments ↔
      Known payments h.paymentHash := by
  constructor
  · intro same
    by_contra unknown
    have unhandled : ∀ p,
        DBHelper.getPayment payments h.paymentHash .btcLn = some p →
        p.status = some .init := by
      intro p found
      by_contra settled
      exact unknown ⟨p, found, settled⟩
    obtain ⟨q, found, pending⟩ := getPayment_handleHtlc_self now unhandled
    rw [same] at found
    have init := unhandled q found
    simp [pending] at init
  · intro given
    obtain ⟨p, found, settled⟩ := given
    exact handleHtlc_of_status_ne_init found settled

theorem Known.handleHtlcs (known : Known payments paymentHash) (now : Nat)
    (htlcs : List DirectedHtlc) :
    Known (handleHtlcs payments now htlcs).1 paymentHash := by
  obtain ⟨p, found, settled⟩ := known
  exact ⟨p,
    getPayment_handleHtlcs_of_status_ne_init now htlcs found settled, settled⟩

theorem known_handleHtlcs_of_mem (payments : Table Payment) (now : Nat)
    (member : h ∈ htlcs) :
    Known (handleHtlcs payments now htlcs).1 h.paymentHash := by
  by_cases known : Known payments h.paymentHash
  · exact known.handleHtlcs now htlcs
  · obtain ⟨q, found, pending⟩ :=
      getPayment_handleHtlcs_of_open now member (fun p found =>
        by_contra (fun settled => known ⟨p, found, settled⟩))
    exact ⟨q, found, by simp [pending]⟩

theorem known_handleHtlcs_iff :
    Known (handleHtlcs payments now htlcs).1 paymentHash ↔
      Known payments paymentHash ∨
        ∃ h ∈ htlcs, h.paymentHash = paymentHash := by
  constructor
  · intro known
    by_cases met : ∃ h ∈ htlcs, h.paymentHash = paymentHash
    · exact .inr met
    · left
      obtain ⟨p, found, settled⟩ := known
      rw [getPayment_handleHtlcs_of_ne] at found
      · exact ⟨p, found, settled⟩
      · intro h member same
        simp only [Prod.mk.injEq, true_and] at same
        exact met ⟨h, member, same.symm⟩
  · intro given
    rcases given with known | ⟨h, member, rfl⟩
    · exact known.handleHtlcs now htlcs
    · exact known_handleHtlcs_of_mem payments now member

theorem mem_offered_of_inwards (member : h ∈ htlcs)
    (direction : h.direction = .inwards) :
    h.paymentHash ∈ offered htlcs := by
  refine List.mem_map.mpr ⟨h, List.mem_filter.mpr ⟨member, ?_⟩, rfl⟩
  exact decide_eq_true direction

theorem offered_append (first rest : List DirectedHtlc) :
    offered (first ++ rest) = offered first ++ offered rest := by
  simp [offered]

theorem exists_first_of_hash
    (met : ∃ h ∈ htlcs, h.paymentHash = paymentHash) :
    ∃ first h rest, htlcs = first ++ h :: rest ∧
      h.paymentHash = paymentHash ∧
      ∀ earlier ∈ first, earlier.paymentHash ≠ paymentHash := by
  have isFound :
      (htlcs.find? (fun h => h.paymentHash = paymentHash)).isSome = true := by
    simpa using met
  obtain ⟨h, found⟩ := Option.isSome_iff_exists.mp isFound
  obtain ⟨same, first, rest, split, apart⟩ :=
    List.find?_eq_some_iff_append.mp found
  exact ⟨first, h, rest, split, by simpa using same, by simpa using apart⟩

/-- An HTLC offered to us is passed over exactly when its hash is known, or
when we offered an HTLC of that hash that comes before it. -/
theorem incoming_iff_incomingKnown :
    (∀ first h rest, htlcs = first ++ h :: rest → h.direction = .outwards →
      (handleHtlc (handleHtlcs payments now first).1 h now).1 =
        (handleHtlcs payments now first).1) ↔
      IncomingKnown payments htlcs := by
  simp only [handleHtlc_eq_self_iff, known_handleHtlcs_iff]
  constructor
  · intro passed first h rest split incoming
    rcases passed first h rest split incoming with known | met
    · exact .inl known
    · by_cases known : Known payments h.paymentHash
      · exact .inl known
      · right
        obtain ⟨before, head, after, rfl, sameHash, apart⟩ :=
          exists_first_of_hash met
        -- were this one offered to us, nothing would have made its hash known
        have outgoing : head.direction = .inwards := by
          cases direction : head.direction with
          | inwards => rfl
          | outwards =>
              have headSplit : htlcs =
                  before ++ head :: (after ++ h :: rest) := by
                simp [split]
              rcases passed before head _ headSplit direction with
                early | ⟨earlier, member, same⟩
              · exact (known (sameHash ▸ early)).elim
              · exact (apart earlier member (same.trans sameHash)).elim
        rw [← sameHash]
        exact mem_offered_of_inwards (by simp) outgoing
  · intro known first h rest split incoming
    rcases known first h rest split incoming with settled | member
    · exact .inl settled
    · exact .inr (exists_htlc_of_offered member)

theorem getPayment_of_incomingKnown (known : IncomingKnown payments htlcs)
    (now : Nat) {type : PaymentType} {reference : String}
    (apart : type = .btcLn → reference ∉ offered htlcs) :
    DBHelper.getPayment (handleHtlcs payments now htlcs).1 reference type =
      DBHelper.getPayment payments reference type := by
  by_cases present : type = .btcLn ∧ ∃ h ∈ htlcs, h.paymentHash = reference
  · obtain ⟨rfl, h, member, rfl⟩ := present
    have incoming : h.direction = .outwards := by
      cases direction : h.direction with
      | inwards =>
          exact (apart rfl (mem_offered_of_inwards member direction)).elim
      | outwards => rfl
    obtain ⟨first, rest, rfl⟩ := List.append_of_mem member
    rcases known first h rest rfl incoming with settled | earlier
    · obtain ⟨p, found, status⟩ := settled
      rw [found]
      exact getPayment_handleHtlcs_of_status_ne_init now _ found status
    · rw [offered_append] at apart
      exact (apart rfl (List.mem_append_left _ earlier)).elim
  · apply getPayment_handleHtlcs_of_ne
    intro h member same
    simp only [Prod.mk.injEq] at same
    exact present ⟨same.1, h, member, same.2.symm⟩

/-- Handling `ChannelSignatureSent` ignores the HTLCs offered to us exactly
when each of their payment hashes has a row that is not `INIT`, or belongs
also to an HTLC we offered that the loop meets first. -/
theorem incoming_ignored_iff (payments : Table Payment)
    (htlcs : List DirectedHtlc) (now : Nat) :
    IncomingIgnored payments htlcs now ↔ IncomingKnown payments htlcs := by
  constructor
  · intro ignored
    exact incoming_iff_incomingKnown.mp ignored.incoming
  · intro known
    refine ⟨?_, incoming_iff_incomingKnown.mpr known⟩
    intro p member _ new
    by_contra apart
    rw [not_and] at apart
    have found : DBHelper.getPayment (handleHtlcs payments now htlcs).1
        p.reference p.type = some p :=
      DBHelper.getPayment_eq_some_iff.mpr ⟨member, rfl, rfl⟩
    rw [getPayment_of_incomingKnown known now apart] at found
    exact new (DBHelper.getPayment_eq_some_iff.mp found).1

/-- An HTLC offered to us, of an unknown hash, is stored as a payment we
sent. -/
theorem incoming_stored_as_sent :
    ¬ ∀ (payments : Table Payment) (htlcs : List DirectedHtlc) (now : Nat),
      IncomingIgnored payments htlcs now := by
  intro claim
  have ignored := claim Table.empty
    [{ direction := .outwards, paymentHash := "hash", amountMsat := 1000 }] 1
  have offeredByUs := ignored.sent
    { unknownHtlcPayment
        { direction := .outwards, paymentHash := "hash", amountMsat := 1000 }
        1 with id := some 1 }
    (by decide) rfl (by decide)
  exact absurd offeredByUs.2 (by decide)

end NodeSupervisor

end EclairWallet
