import EclairWallet.Payment.OnchainBalance

/-!
# The timestamps of a known transaction

The electrum supervisor looks a transaction up together with its direction,
and the table is unique without it.  A transaction that is reported in the
other direction is not found, and its row is replaced by a new one.
-/

namespace EclairWallet

namespace ElectrumSupervisor

/-- Every on-chain row keeps its two dates. -/
def DatesKept (before after : Table Payment) : Prop :=
  ∀ txid p, DBHelper.getPayment before txid .btcOnchain = some p →
    ∃ q, DBHelper.getPayment after txid .btcOnchain = some q ∧
      q.created = p.created ∧ q.updated = p.updated

/-- A transaction that has a row is reported in the direction of the row, or
at the time of both its dates. -/
def ReportedAlike (payments : Table Payment)
    (received : ElectrumMessage × Nat) : Prop :=
  match received.1 with
  | .transactionReceived event =>
      ∀ p, DBHelper.getPayment payments event.txid .btcOnchain = some p →
        p.direction = directionOf event ∨
          (p.created = received.2 ∧ p.updated = some received.2)
  | .transactionConfidenceChanged _ => True

namespace DatesKept

theorem refl (payments : Table Payment) : DatesKept payments payments :=
  fun _ p found => ⟨p, found, rfl, rfl⟩

theorem trans {first second third : Table Payment}
    (left : DatesKept first second) (right : DatesKept second third) :
    DatesKept first third := by
  intro txid p found
  obtain ⟨q, middle, created, updated⟩ := left txid p found
  obtain ⟨r, last, laterCreated, laterUpdated⟩ := right txid q middle
  exact ⟨r, last, laterCreated.trans created, laterUpdated.trans updated⟩

end DatesKept

variable {payments next : Table Payment} {txid : String}

theorem getPaymentWithDirection_eq_some_iff {direction : PaymentDirection}
    {p : Payment} :
    DBHelper.getPaymentWithDirection payments txid .btcOnchain direction =
        some p ↔
      DBHelper.getPayment payments txid .btcOnchain = some p ∧
        p.direction = direction := by
  constructor
  · intro found
    have keys : p.reference = txid ∧ p.direction = direction ∧
        p.type = .btcOnchain := by
      simpa using List.find?_some found
    exact ⟨getPayment_of_getPaymentWithDirection found, keys.2.1⟩
  · intro given
    obtain ⟨found, rfl⟩ := given
    obtain ⟨member, type, reference⟩ :=
      DBHelper.getPayment_eq_some_iff.mp found
    cases other : DBHelper.getPaymentWithDirection payments txid .btcOnchain
        p.direction with
    | none =>
        have absent := List.find?_eq_none.mp other p member
        simp [type, reference] at absent
    | some q =>
        rw [← found]
        exact (getPayment_of_getPaymentWithDirection other).symm

theorem dates_onTransactionReceived {event : TransactionReceived} {p : Payment}
    (found : DBHelper.getPayment payments event.txid .btcOnchain = some p)
    (now : Nat) :
    ∃ q, DBHelper.getPayment (onTransactionReceived payments event now).1
        event.txid .btcOnchain = some q ∧
      (q.created, q.updated) =
        if p.direction = directionOf event then (p.created, p.updated)
        else (now, some now) := by
  by_cases same : p.direction = directionOf event
  · have known := getPaymentWithDirection_eq_some_iff.mpr ⟨found, same⟩
    obtain ⟨_, type, reference⟩ := DBHelper.getPayment_eq_some_iff.mp found
    simp only [onTransactionReceived, known, if_pos same]
    refine ⟨setReceived p event, ?_, rfl⟩
    apply DBHelper.getPayment_writeBack found
    · rfl
    · exact type.symm
    · exact reference.symm
  · have unknown : DBHelper.getPaymentWithDirection payments event.txid
        .btcOnchain (directionOf event) = none := by
      apply Option.eq_none_iff_forall_ne_some.mpr
      intro q read
      obtain ⟨other, direction⟩ :=
        getPaymentWithDirection_eq_some_iff.mp read
      obtain rfl : p = q := by simpa [found] using other
      exact same direction
    simp only [onTransactionReceived, unknown, if_neg same]
    exact ⟨_, DBHelper.getPayment_insertOrUpdate_self payments _, rfl⟩

theorem reportedAlike_iff_received (event : TransactionReceived) (now : Nat) :
    ReportedAlike payments (.transactionReceived event, now) ↔
      DatesKept payments (onTransactionReceived payments event now).1 := by
  obtain ⟨_, _, _, _, others⟩ :=
    getPayment_onTransactionReceived payments event now
  constructor
  · intro alike txid p found
    by_cases same : txid = event.txid
    · subst txid
      obtain ⟨q, after, dates⟩ := dates_onTransactionReceived found now
      refine ⟨q, after, Prod.mk.inj (dates.trans ?_)⟩
      rcases alike p found with direction | ⟨created, updated⟩
      · rw [if_pos direction]
      · rw [created, updated, ite_self]
    · exact ⟨p, (others txid same).trans found, rfl, rfl⟩
  · intro kept p found
    by_cases direction : p.direction = directionOf event
    · exact .inl direction
    · right
      obtain ⟨q, after, created, updated⟩ := kept event.txid p found
      obtain ⟨r, sameAfter, dates⟩ := dates_onTransactionReceived found now
      obtain rfl : q = r := by simpa [after] using sameAfter
      rw [if_neg direction, Prod.mk.injEq] at dates
      exact ⟨created.symm.trans dates.1, updated.symm.trans dates.2⟩

theorem datesKept_confidenceChanged {event : TransactionConfidenceChanged}
    {handled : Table Payment × List ElectrumEffect}
    (result : onTransactionConfidenceChanged payments event = some handled) :
    DatesKept payments handled.1 := by
  obtain ⟨other, sameResult, rows⟩ :=
    getPayment_onTransactionConfidenceChanged payments event
  obtain rfl : handled = other := by simpa [result] using sameResult
  intro txid p found
  rw [rows, found, Option.map_some]
  refine ⟨_, rfl, ?_, ?_⟩
  · split <;> rfl
  · split <;> rfl

theorem reportedAlike_iff_datesKept {received : ElectrumMessage × Nat}
    (result : step payments received = some next) :
    ReportedAlike payments received ↔ DatesKept payments next := by
  obtain ⟨message, now⟩ := received
  cases message with
  | transactionReceived event =>
      obtain rfl := Option.some.inj result
      exact reportedAlike_iff_received event now
  | transactionConfidenceChanged event =>
      obtain ⟨handled, isHandled, rfl⟩ := Option.map_eq_some_iff.mp result
      exact iff_of_true trivial (datesKept_confidenceChanged isHandled)

/-- Throughout a run every on-chain row keeps its dates exactly when each
report of a transaction that has a row comes in the direction of the row, or
at the time of both its dates. -/
theorem timestamps_kept_iff (payments : Table Payment)
    (messages : List (ElectrumMessage × Nat)) :
    Runs.Throughout step DatesKept payments messages ↔
      Runs.StepsMeet step ReportedAlike payments messages := by
  have preserved : ∀ state received next, True →
      step state received = some next → True :=
    fun _ _ _ _ _ => trivial
  apply Runs.throughout_iff_stepsMeet DatesKept.refl
    (fun _ _ _ left right => left.trans right) preserved
  · intro state received next _ result
    exact reportedAlike_iff_datesKept result
  · intro state received impossible
    obtain ⟨message, now⟩ := received
    cases message with
    | transactionReceived event => cases impossible
    | transactionConfidenceChanged event => trivial
  · trivial

/-- A transaction that is first reported as received, and then as sent. -/
theorem timestamp_replaced :
    ¬ ∀ (payments : Table Payment) (messages : List (ElectrumMessage × Nat)),
      Runs.Throughout step DatesKept payments messages := by
  intro claim
  let first : ElectrumMessage × Nat := (.transactionReceived
    { txid := "tx", payload := "", depth := 0, received := 5, sent := 2
      feeOpt := none }, 1)
  let second : ElectrumMessage × Nat := (.transactionReceived
    { txid := "tx", payload := "", depth := 1, received := 5, sent := 9
      feeOpt := some 1 }, 2)
  have kept := claim Table.empty [first, second] [first] [second] [] _ _ rfl
    rfl rfl
  obtain ⟨q, found, created, _⟩ := kept "tx" _ rfl
  cases found
  cases created

end ElectrumSupervisor

end EclairWallet
