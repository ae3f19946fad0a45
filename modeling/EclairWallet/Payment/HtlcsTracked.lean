import EclairWallet.Payment.Supervisor

/-!
# Tracking the HTLCs of the next remote commitment

`ChannelSignatureSent` runs over all HTLCs of the next remote commitment,
whichever side offered them, creates the rows that are missing and promotes
those with status `INIT`.  A row with another status stays as it is.
-/

namespace EclairWallet

namespace NodeSupervisor

variable {payments : Table Payment} {h : DirectedHtlc} {now : Nat}
  {htlcs : List DirectedHtlc} {reference paymentHash : String}
  {type : PaymentType} {p : Payment}

theorem handleHtlc_of_status_ne_init
    (found : DBHelper.getPayment payments h.paymentHash .btcLn = some p)
    (settled : p.status ≠ some .init) :
    (handleHtlc payments h now).1 = payments := by
  simp [handleHtlc, found, settled]

theorem getPayment_handleHtlc_self (now : Nat)
    (unhandled : ∀ p, DBHelper.getPayment payments h.paymentHash .btcLn = some p →
      p.status = some .init) :
    ∃ q, DBHelper.getPayment (handleHtlc payments h now).1 h.paymentHash
        .btcLn = some q ∧ q.status = some .pending := by
  cases found : DBHelper.getPayment payments h.paymentHash .btcLn with
  | none =>
      simp only [handleHtlc, found]
      exact ⟨_, DBHelper.getPayment_insertOrUpdate_self payments
        (unknownHtlcPayment h now), rfl⟩
  | some p =>
      have status := unhandled p found
      simp only [handleHtlc, found, status, if_true,
        DBHelper.updatePaymentPending]
      exact ⟨_, DBHelper.getPayment_writeBack found rfl rfl rfl, rfl⟩

theorem getPayment_handleHtlc_of_ne (payments : Table Payment) (now : Nat)
    (other : (type, reference) ≠ (.btcLn, h.paymentHash)) :
    DBHelper.getPayment (handleHtlc payments h now).1 reference type =
      DBHelper.getPayment payments reference type := by
  cases found : DBHelper.getPayment payments h.paymentHash .btcLn with
  | none =>
      simp only [handleHtlc, found]
      exact Table.find?_insertOrReplace_new rfl other
  | some p =>
      by_cases promoted : p.status = some .init
      · simp only [handleHtlc, found, promoted, if_true,
          DBHelper.updatePaymentPending]
        exact DBHelper.getPayment_writeBack_of_ne found rfl rfl rfl other
      · rw [handleHtlc_of_status_ne_init found promoted]

/-! ## The loop -/

theorem handleHtlcs_cons (payments : Table Payment) (now : Nat)
    (h : DirectedHtlc) (htlcs : List DirectedHtlc) :
    (handleHtlcs payments now (h :: htlcs)).1 =
      (handleHtlcs (handleHtlc payments h now).1 now htlcs).1 :=
  rfl

theorem getPayment_handleHtlcs_of_ne
    (other : ∀ h ∈ htlcs, (type, reference) ≠ (.btcLn, h.paymentHash)) :
    DBHelper.getPayment (handleHtlcs payments now htlcs).1 reference type =
      DBHelper.getPayment payments reference type := by
  induction htlcs generalizing payments with
  | nil => rfl
  | cons h htlcs induction =>
      have later : ∀ next ∈ htlcs,
          (type, reference) ≠ (.btcLn, next.paymentHash) := by
        intro next member
        exact other next (by simp [member])
      rw [handleHtlcs_cons, induction later]
      exact getPayment_handleHtlc_of_ne payments now (other h (by simp))

theorem getPayment_handleHtlcs_of_status_ne_init (now : Nat)
    (htlcs : List DirectedHtlc)
    (found : DBHelper.getPayment payments paymentHash .btcLn = some p)
    (settled : p.status ≠ some .init) :
    DBHelper.getPayment (handleHtlcs payments now htlcs).1 paymentHash
        .btcLn = some p := by
  induction htlcs generalizing payments with
  | nil => exact found
  | cons h htlcs induction =>
      rw [handleHtlcs_cons]
      apply induction
      by_cases same : h.paymentHash = paymentHash
      · subst paymentHash
        rw [handleHtlc_of_status_ne_init found settled]
        exact found
      · rw [getPayment_handleHtlc_of_ne]
        · exact found
        · simpa using Ne.symm same

/-- A row that is missing or `INIT` is pending after the first of its HTLCs,
and stays so. -/
theorem getPayment_handleHtlcs_of_open (now : Nat) (member : h ∈ htlcs)
    (pending : ∀ p, DBHelper.getPayment payments h.paymentHash .btcLn = some p →
      p.status = some .init) :
    ∃ q, DBHelper.getPayment (handleHtlcs payments now htlcs).1 h.paymentHash
        .btcLn = some q ∧ q.status = some .pending := by
  induction htlcs generalizing payments with
  | nil => cases member
  | cons head htlcs induction =>
      rw [handleHtlcs_cons]
      by_cases same : head.paymentHash = h.paymentHash
      · rw [← same] at pending
        obtain ⟨q, found, status⟩ :=
          getPayment_handleHtlc_self now pending
        refine ⟨q, ?_, status⟩
        rw [← same]
        apply getPayment_handleHtlcs_of_status_ne_init now htlcs found
        simp [status]
      · have later : h ∈ htlcs := by
          rcases List.mem_cons.mp member with rfl | later
          · exact (same rfl).elim
          · exact later
        apply induction later
        intro p found
        rw [getPayment_handleHtlc_of_ne payments now
          (by simpa using Ne.symm same)] at found
        exact pending p found

/-! ## The handler -/

/-- The payment hashes of the HTLCs we offered: the spec is the remote's, so
they are the incoming ones. -/
def offered (htlcs : List DirectedHtlc) : List String :=
  (htlcs.filter (fun h => h.direction = .inwards)).map DirectedHtlc.paymentHash

/-- The lightning rows of a payment hash. -/
def lightningRows (payments : Table Payment) (paymentHash : String) :
    List Payment :=
  payments.rows.filter (fun p => p.type = .btcLn ∧ p.reference = paymentHash)

/-- Each offered HTLC has one row, pending or paid, and no other row is
touched. -/
def Tracked (payments : Table Payment) (htlcs : List DirectedHtlc)
    (finish : Table Payment) : Prop :=
  (∀ paymentHash ∈ offered htlcs, ∃ p,
      lightningRows finish paymentHash = [p] ∧
      (p.status = some .pending ∨ p.status = some .paid)) ∧
    ∀ type reference, (type = .btcLn → reference ∉ offered htlcs) →
      DBHelper.getPayment finish reference type =
        DBHelper.getPayment payments reference type

/-- The rows of offered HTLCs have not failed, and those of the other HTLCs
are there and not `INIT`. -/
def Trackable (payments : Table Payment) (htlcs : List DirectedHtlc) : Prop :=
  (∀ paymentHash ∈ offered htlcs, ∀ p,
      DBHelper.getPayment payments paymentHash .btcLn = some p →
      p.status = some .init ∨ p.status = some .pending ∨
        p.status = some .paid) ∧
    ∀ h ∈ htlcs, h.paymentHash ∉ offered htlcs → ∃ p,
      DBHelper.getPayment payments h.paymentHash .btcLn = some p ∧
        p.status ≠ some .init

theorem lightningRows_eq_singleton_iff :
    lightningRows payments paymentHash = [p] ↔
      DBHelper.getPayment payments paymentHash .btcLn = some p := by
  rw [lightningRows, DBHelper.filter_rows_eq]
  cases DBHelper.getPayment payments paymentHash .btcLn with
  | none => simp
  | some q => simp

theorem exists_htlc_of_offered (member : paymentHash ∈ offered htlcs) :
    ∃ h ∈ htlcs, h.paymentHash = paymentHash := by
  obtain ⟨h, kept, same⟩ := List.mem_map.mp member
  exact ⟨h, (List.mem_filter.mp kept).1, same⟩

theorem tracked_of_trackable (trackable : Trackable payments htlcs) :
    Tracked payments htlcs (handleHtlcs payments now htlcs).1 := by
  obtain ⟨statuses, others⟩ := trackable
  constructor
  · intro paymentHash member
    obtain ⟨h, inHtlcs, rfl⟩ := exists_htlc_of_offered member
    by_cases settled : ∃ p, DBHelper.getPayment payments h.paymentHash .btcLn =
        some p ∧ p.status ≠ some .init
    · obtain ⟨p, found, notInit⟩ := settled
      have kept :=
        getPayment_handleHtlcs_of_status_ne_init now htlcs found notInit
      refine ⟨p, lightningRows_eq_singleton_iff.mpr kept, ?_⟩
      exact (statuses _ member p found).resolve_left notInit
    · obtain ⟨q, found, status⟩ := getPayment_handleHtlcs_of_open now inHtlcs
        (fun p found => by_contra (fun notInit =>
          settled ⟨p, found, notInit⟩))
      exact ⟨q, lightningRows_eq_singleton_iff.mpr found, Or.inl status⟩
  · intro type reference apart
    by_cases present : type = .btcLn ∧
        ∃ h ∈ htlcs, h.paymentHash = reference
    · obtain ⟨rfl, h, member, rfl⟩ := present
      obtain ⟨p, found, notInit⟩ := others h member (apart rfl)
      rw [found]
      exact getPayment_handleHtlcs_of_status_ne_init _ _ found notInit
    · apply getPayment_handleHtlcs_of_ne
      intro h member same
      simp only [Prod.mk.injEq] at same
      exact present ⟨same.1, h, member, same.2.symm⟩

theorem trackable_of_tracked (now : Nat)
    (tracked : Tracked payments htlcs (handleHtlcs payments now htlcs).1) :
    Trackable payments htlcs := by
  obtain ⟨rows, kept⟩ := tracked
  constructor
  · intro paymentHash member p found
    by_contra untracked
    simp only [not_or] at untracked
    obtain ⟨q, single, status⟩ := rows paymentHash member
    have final :=
      getPayment_handleHtlcs_of_status_ne_init now htlcs found untracked.1
    rw [lightningRows_eq_singleton_iff, final, Option.some.injEq] at single
    subst q
    exact status.elim untracked.2.1 untracked.2.2
  · intro h member apart
    by_contra unsettled
    -- the handler creates or promotes the row of an HTLC we did not offer
    have pending : ∀ p,
        DBHelper.getPayment payments h.paymentHash .btcLn = some p →
        p.status = some .init := by
      intro p found
      by_contra notInit
      exact unsettled ⟨p, found, notInit⟩
    obtain ⟨q, found, status⟩ :=
      getPayment_handleHtlcs_of_open now member pending
    have same := kept .btcLn h.paymentHash (fun _ => apart)
    rw [found] at same
    have init := pending q same.symm
    simp [status] at init

/-- After `ChannelSignatureSent` the offered HTLCs are tracked, and nothing
else is touched, exactly when none of their rows has failed and every other
HTLC of the spec has a row that is not `INIT`. -/
theorem htlcs_tracked_iff (payments : Table Payment)
    (htlcs : List DirectedHtlc) (now : Nat) :
    Tracked payments htlcs
        (onChannelSignatureSent payments (some htlcs) now).state ↔
      Trackable payments htlcs := by
  constructor
  · exact trackable_of_tracked now
  · exact tracked_of_trackable

/-- The row of an attempt that failed. -/
def failedAttempt : Payment :=
  { type := .btcLn
    direction := .sent
    reference := "hash"
    status := some .failed
    created := 1 }

theorem retried_htlc_not_tracked :
    ¬ ∀ (payments : Table Payment) (htlcs : List DirectedHtlc) (now : Nat),
      Tracked payments htlcs
        (onChannelSignatureSent payments (some htlcs) now).state := by
  intro claim
  have trackable := trackable_of_tracked 2
    (claim (Table.empty.insertOrReplace failedAttempt)
      [{ direction := .inwards, paymentHash := "hash", amountMsat := 1000 }] 2)
  have status := trackable.1 "hash" (by decide)
    { failedAttempt with id := some 1 } rfl
  simp [failedAttempt] at status

end NodeSupervisor

end EclairWallet
