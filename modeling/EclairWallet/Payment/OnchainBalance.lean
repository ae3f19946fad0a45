import Mathlib.Algebra.BigOperators.Ring.List
import Mathlib.Algebra.Order.Group.Int
import Mathlib.Algebra.Ring.Int.Defs
import Mathlib.Data.List.Dedup
import Mathlib.Data.List.Induction
import EclairWallet.Payment.ElectrumSupervisor

/-!
# The on-chain balance is the ledger's sum

The ledger keeps, for each transaction, what was last reported received less
what was last reported sent.  Every message leaves the table with one row for
each transaction of the ledger, whose direction and amount are the sign and
the size of its entry; the two SQL sums then add up to the ledger's sum.
-/

namespace EclairWallet

open JavaLong

namespace ElectrumSupervisor

/-! ## The ledger -/

/-- The transactions reported, in order and with repetitions. -/
def reported (messages : List (ElectrumMessage × Nat)) : List String :=
  messages.filterMap (fun message =>
    match message.1 with
    | .transactionReceived event => some event.txid
    | .transactionConfidenceChanged _ => none)

/-- What the message reports for the transaction: received less sent. -/
def report (txid : String) (message : ElectrumMessage) : Option Int :=
  match message with
  | .transactionReceived event =>
      if event.txid = txid then some ((event.received : Int) - event.sent)
      else none
  | .transactionConfidenceChanged _ => none

/-- The last report of the transaction. -/
def latest (messages : List (ElectrumMessage × Nat)) (txid : String) :
    Option Int :=
  messages.foldl (fun known message => (report txid message.1).or known) none

/-- The ledger's entry of the transaction. -/
def entry (messages : List (ElectrumMessage × Nat)) (txid : String) : Int :=
  (latest messages txid).getD 0

/-- The part of an entry that counts for a direction. -/
def partOf (direction : PaymentDirection) (entry : Int) : Int :=
  match direction with
  | .received => max entry 0
  | .sent => max (-entry) 0
  | .forwarded => 0

/-- The sum of a part of the entries over the distinct transactions. -/
def ledgerSum (messages : List (ElectrumMessage × Nat)) (part : Int → Int) :
    Int :=
  ((reported messages).dedup.map (fun txid => part (entry messages txid))).sum

section Ledger

variable {messages : List (ElectrumMessage × Nat)} {txid : String}

@[simp] theorem latest_append (message : ElectrumMessage × Nat) :
    latest (messages ++ [message]) txid =
      (report txid message.1).or (latest messages txid) := by
  simp [latest]

theorem mem_reported_iff :
    txid ∈ reported messages ↔ latest messages txid ≠ none := by
  induction messages using List.reverseRecOn with
  | nil => simp [reported, latest]
  | append_singleton messages message induction =>
      rw [latest_append, reported, List.filterMap_append, List.mem_append,
        ← reported, induction]
      obtain ⟨message, now⟩ := message
      cases message with
      | transactionReceived event =>
          by_cases same : event.txid = txid
          · simp [report, same]
          · simp [report, same, Ne.symm same]
      | transactionConfidenceChanged event => simp [report]

end Ledger

/-! ## The table mirrors the ledger -/

def directionOfEntry (entry : Int) : PaymentDirection :=
  if 0 ≤ entry then .received else .sent

/-- The row of each transaction shows the direction and the size of its last
report; transactions without a report have no row. -/
def Mirrors (payments : Table Payment)
    (messages : List (ElectrumMessage × Nat)) : Prop :=
  ∀ txid,
    (DBHelper.getPayment payments txid .btcOnchain).map
        (fun p => (p.direction, p.amountPaidMsat)) =
      (latest messages txid).map (fun entry =>
        (directionOfEntry entry, satoshi2millisatoshi entry.natAbs))

variable {payments next : Table Payment}
  {messages : List (ElectrumMessage × Nat)} {txid : String}

theorem directionOf_eq (event : TransactionReceived) :
    directionOf event =
      directionOfEntry ((event.received : Int) - event.sent) := by
  unfold directionOf directionOfEntry
  by_cases more : event.received ≥ event.sent
  · rw [if_pos more, if_pos (by omega)]
  · rw [if_neg more, if_neg (by omega)]

theorem amountOf_eq (event : TransactionReceived) :
    amountOf event = ((event.received : Int) - event.sent).natAbs := by
  unfold amountOf
  by_cases more : event.received ≥ event.sent
  · rw [if_pos more]
    omega
  · rw [if_neg more]
    omega

theorem getPayment_of_getPaymentWithDirection {direction : PaymentDirection}
    {p : Payment}
    (found : DBHelper.getPaymentWithDirection payments txid .btcOnchain
      direction = some p) :
    DBHelper.getPayment payments txid .btcOnchain = some p := by
  have keys : p.reference = txid ∧ p.direction = direction ∧
      p.type = .btcOnchain := by
    simpa using List.find?_some found
  apply DBHelper.getPayment_eq_some_iff.mpr
  exact ⟨List.mem_of_find?_eq_some found, keys.2.2, keys.1⟩

/-- Whatever row the transaction had, one row is left for it, and the other
transactions keep theirs. -/
theorem getPayment_onTransactionReceived (payments : Table Payment)
    (event : TransactionReceived) (now : Nat) :
    ∃ p, DBHelper.getPayment (onTransactionReceived payments event now).1
        event.txid .btcOnchain = some p ∧
      p.direction = directionOf event ∧
      p.amountPaidMsat = satoshi2millisatoshi (amountOf event) ∧
      ∀ other, other ≠ event.txid →
        DBHelper.getPayment (onTransactionReceived payments event now).1 other
            .btcOnchain =
          DBHelper.getPayment payments other .btcOnchain := by
  cases found : DBHelper.getPaymentWithDirection payments event.txid
      .btcOnchain (directionOf event) with
  | some p =>
      have known := getPayment_of_getPaymentWithDirection found
      obtain ⟨_, type, reference⟩ := DBHelper.getPayment_eq_some_iff.mp known
      simp only [onTransactionReceived, found]
      refine ⟨setReceived p event, ?_, setReceived_direction p event,
        setReceived_amountPaidMsat p event, ?_⟩
      · apply DBHelper.getPayment_writeBack known
        · rfl
        · exact type.symm
        · exact reference.symm
      · intro other different
        apply DBHelper.getPayment_writeBack_of_ne known
        · rfl
        · exact type.symm
        · exact reference.symm
        · simpa using different
  | none =>
      simp only [onTransactionReceived, found]
      refine ⟨_, DBHelper.getPayment_insertOrUpdate_self payments _, ?_, ?_,
        ?_⟩
      · simp only [setReceived_direction]
      · simp only [setReceived_amountPaidMsat]
      · intro other different
        apply Table.find?_insertOrReplace_new rfl
        simpa [setReceived] using different

theorem Mirrors.received (mirrors : Mirrors payments messages)
    (event : TransactionReceived) (now : Nat) :
    Mirrors (onTransactionReceived payments event now).1
      (messages ++ [(.transactionReceived event, now)]) := by
  obtain ⟨p, found, direction, amount, others⟩ :=
    getPayment_onTransactionReceived payments event now
  intro txid
  rw [latest_append]
  by_cases same : txid = event.txid
  · subst txid
    rw [found]
    simp [report, direction, amount, directionOf_eq, amountOf_eq]
  · rw [others txid same, mirrors txid]
    simp [report, Ne.symm same]

theorem getPayment_onTransactionConfidenceChanged (payments : Table Payment)
    (event : TransactionConfidenceChanged) :
    ∃ handled, onTransactionConfidenceChanged payments event = some handled ∧
      ∀ txid, DBHelper.getPayment handled.1 txid .btcOnchain =
        (DBHelper.getPayment payments txid .btcOnchain).map (fun p =>
          if txid = event.txid then
            { p with confidenceBlocks := toInt event.depth }
          else p) := by
  cases found : DBHelper.getPayment payments event.txid .btcOnchain with
  | none =>
      simp only [onTransactionConfidenceChanged, found, Option.map_some]
      refine ⟨_, rfl, ?_⟩
      intro txid
      by_cases key : txid = event.txid
      · rw [key, found, Option.map_none]
      · simp [key]
  | some p =>
      obtain ⟨member, type, reference⟩ :=
        DBHelper.getPayment_eq_some_iff.mp found
      obtain ⟨next, updated, self, others⟩ :=
        Table.exists_update { p with confidenceBlocks := toInt event.depth }
          member rfl rfl
      simp only [onTransactionConfidenceChanged, found,
        DBHelper.updatePayment, updated, Option.map_some]
      refine ⟨_, rfl, ?_⟩
      intro txid
      by_cases key : txid = event.txid
      · rw [key, found, Option.map_some, if_pos rfl, ← reference, ← type]
        exact self
      · have read : DBHelper.getPayment next txid .btcOnchain =
            DBHelper.getPayment payments txid .btcOnchain := by
          apply others
          simpa [type, reference] using key
        simp [read, key]

theorem Mirrors.confidenceChanged (mirrors : Mirrors payments messages)
    (event : TransactionConfidenceChanged) (now : Nat) :
    ∃ handled, onTransactionConfidenceChanged payments event = some handled ∧
      Mirrors handled.1
        (messages ++ [(.transactionConfidenceChanged event, now)]) := by
  obtain ⟨handled, result, rows⟩ :=
    getPayment_onTransactionConfidenceChanged payments event
  refine ⟨handled, result, ?_⟩
  intro txid
  have same : latest
      (messages ++ [(.transactionConfidenceChanged event, now)]) txid =
        latest messages txid := by
    simp [report]
  rw [same, ← mirrors txid, rows, Option.map_map]
  congr 1
  funext p
  simp only [Function.comp_apply]
  split <;> rfl

/-- Run lemma: the handlers never fail, and the table mirrors the ledger. -/
theorem Mirrors.run (mirrors : Mirrors payments messages)
    (later : List (ElectrumMessage × Nat)) :
    ∃ finish, Runs.exec step payments later = some finish ∧
      Mirrors finish (messages ++ later) := by
  induction later generalizing payments messages with
  | nil => exact ⟨payments, rfl, by simpa using mirrors⟩
  | cons message later induction =>
      obtain ⟨message, now⟩ := message
      obtain ⟨next, result, mirrors⟩ : ∃ next,
          step payments (message, now) = some next ∧
            Mirrors next (messages ++ [(message, now)]) := by
        cases message with
        | transactionReceived event =>
            exact ⟨_, rfl, mirrors.received event now⟩
        | transactionConfidenceChanged event =>
            obtain ⟨handled, result, mirrors⟩ :=
              mirrors.confidenceChanged event now
            refine ⟨handled.1, ?_, mirrors⟩
            simp [step, onReceive, result]
      obtain ⟨finish, run, mirrors⟩ := induction mirrors
      refine ⟨finish, ?_, by simpa using mirrors⟩
      exact Runs.exec_cons_eq_some_iff.mpr ⟨next, result, run⟩

/-! ## The rows and their sums -/

def onchainRows (payments : Table Payment) : List Payment :=
  payments.rows.filter (fun p => p.type = .btcOnchain)

def onchainRowsOf (payments : Table Payment) (txid : String) : List Payment :=
  payments.rows.filter (fun p => p.type = .btcOnchain ∧ p.reference = txid)

theorem Mirrors.length_onchainRowsOf (mirrors : Mirrors payments messages)
    (txid : String) :
    (onchainRowsOf payments txid).length =
      if txid ∈ reported messages then 1 else 0 := by
  have same := mirrors txid
  rw [onchainRowsOf, DBHelper.filter_rows_eq]
  cases known : latest messages txid with
  | none =>
      have none : DBHelper.getPayment payments txid .btcOnchain = none := by
        simpa [known] using same
      have absent : txid ∉ reported messages := by
        simp [mem_reported_iff, known]
      simp [none, absent]
  | some value =>
      have present : txid ∈ reported messages := by
        simp [mem_reported_iff, known]
      rw [known, Option.map_some, Option.map_eq_some_iff] at same
      obtain ⟨p, found, _⟩ := same
      simp [found, present]

theorem Mirrors.row {p : Payment} (mirrors : Mirrors payments messages)
    (member : p ∈ onchainRows payments) :
    p.reference ∈ reported messages ∧
      p.direction = directionOfEntry (entry messages p.reference) ∧
      p.amountPaidMsat =
        satoshi2millisatoshi (entry messages p.reference).natAbs := by
  obtain ⟨inTable, type⟩ := List.mem_filter.mp member
  have found : DBHelper.getPayment payments p.reference .btcOnchain =
      some p :=
    DBHelper.getPayment_eq_some_iff.mpr
      ⟨inTable, of_decide_eq_true type, rfl⟩
  have same := mirrors p.reference
  rw [found, Option.map_some, eq_comm, Option.map_eq_some_iff] at same
  obtain ⟨value, known, shown⟩ := same
  rw [Prod.mk.injEq] at shown
  have read : entry messages p.reference = value := by
    rw [entry, known, Option.getD_some]
  refine ⟨mem_reported_iff.mpr (by simp [known]), ?_, ?_⟩
  · rw [read]
    exact shown.1.symm
  · rw [read]
    exact shown.2.symm

/-- The rows carry the distinct transactions of the ledger. -/
theorem Mirrors.references_perm (mirrors : Mirrors payments messages) :
    ((onchainRows payments).map Payment.reference).Perm
      (reported messages).dedup := by
  have apart : ((onchainRows payments).map Payment.reference).Nodup := by
    have keys : ((onchainRows payments).map Keyed.unique).Nodup :=
      payments.uniques.sublist (List.filter_sublist.map _)
    apply List.Nodup.of_map (fun reference => (PaymentType.btcOnchain, reference))
    rw [List.map_map]
    have sameKeys : (onchainRows payments).map
        ((fun reference => (PaymentType.btcOnchain, reference)) ∘
          Payment.reference) =
        (onchainRows payments).map Keyed.unique := by
      apply List.map_congr_left
      intro p member
      have type := of_decide_eq_true (List.mem_filter.mp member).2
      simp [type]
    rw [sameKeys]
    exact keys
  apply (List.perm_ext_iff_of_nodup apart (List.nodup_dedup _)).mpr
  intro txid
  rw [List.mem_dedup]
  constructor
  · intro member
    obtain ⟨p, inRows, rfl⟩ := List.mem_map.mp member
    exact (mirrors.row inRows).1
  · intro isReported
    have single := mirrors.length_onchainRowsOf txid
    rw [if_pos isReported] at single
    obtain ⟨p, row⟩ := List.length_eq_one_iff.mp single
    have member : p ∈ onchainRowsOf payments txid := by simp [row]
    obtain ⟨inTable, keys⟩ := List.mem_filter.mp member
    have both : p.type = .btcOnchain ∧ p.reference = txid := by
      simpa using keys
    refine List.mem_map.mpr ⟨p, List.mem_filter.mpr ⟨inTable, ?_⟩, both.2⟩
    exact decide_eq_true both.1

theorem partOf_nonneg (direction : PaymentDirection) (value : Int) :
    0 ≤ partOf direction value := by
  cases direction with
  | received => exact le_max_right _ _
  | sent => exact le_max_right _ _
  | forwarded => exact Int.le_refl 0

theorem partOf_le_ledgerSum (direction : PaymentDirection)
    (member : txid ∈ reported messages) :
    partOf direction (entry messages txid) ≤
      ledgerSum messages (partOf direction) := by
  apply List.single_le_sum
  · intro value inParts
    obtain ⟨other, _, rfl⟩ := List.mem_map.mp inParts
    exact partOf_nonneg direction _
  · exact List.mem_map.mpr ⟨txid, List.mem_dedup.mpr member, rfl⟩

/-- The totals of what came in and of what went out are `long` values. -/
def TotalsFit (messages : List (ElectrumMessage × Nat)) : Prop :=
  1000 * ledgerSum messages (partOf .received) ≤ maxValue ∧
    1000 * ledgerSum messages (partOf .sent) ≤ maxValue

instance (messages : List (ElectrumMessage × Nat)) :
    Decidable (TotalsFit messages) :=
  inferInstanceAs (Decidable (_ ∧ _))

theorem satoshi2millisatoshi_entry (fit : TotalsFit messages)
    (member : txid ∈ reported messages) :
    satoshi2millisatoshi (entry messages txid).natAbs =
      1000 * (entry messages txid).natAbs := by
  have incoming := partOf_le_ledgerSum .received member
  have outgoing := partOf_le_ledgerSum .sent member
  obtain ⟨incomingFits, outgoingFits⟩ := fit
  simp only [partOf] at incoming outgoing
  rw [satoshi2millisatoshi, toLong_of_fits]
  · exact Int.mul_comm _ _
  · constructor
    · simp only [minValue]
      omega
    · omega

/-- The size of an entry counts for its own direction only. -/
theorem size_of_direction (direction : PaymentDirection) (value : Int) :
    (if directionOfEntry value = direction then 1000 * (value.natAbs : Int)
      else 0) =
      1000 * partOf direction value := by
  by_cases incoming : 0 ≤ value
  · rw [directionOfEntry, if_pos incoming]
    cases direction with
    | received =>
        simp only [partOf, if_true]
        omega
    | sent =>
        simp only [partOf, reduceCtorEq, if_false]
        omega
    | forwarded => rfl
  · rw [directionOfEntry, if_neg incoming]
    cases direction with
    | received =>
        simp only [partOf, reduceCtorEq, if_false]
        omega
    | sent =>
        simp only [partOf, if_true]
        omega
    | forwarded => rfl

theorem Mirrors.contribution {p : Payment} (mirrors : Mirrors payments messages)
    (fit : TotalsFit messages) (member : p ∈ onchainRows payments)
    (direction : PaymentDirection) :
    (if p.direction = direction then p.amountPaidMsat else 0) =
      1000 * partOf direction (entry messages p.reference) := by
  obtain ⟨isReported, shown, amount⟩ := mirrors.row member
  rw [satoshi2millisatoshi_entry fit isReported] at amount
  rw [shown, amount]
  exact size_of_direction direction _

/-- One SQL sum gives one part of the ledger. -/
theorem Mirrors.rawQueryOnchain (mirrors : Mirrors payments messages)
    (fit : TotalsFit messages) (direction : PaymentDirection)
    (bound : 1000 * ledgerSum messages (partOf direction) ≤ maxValue) :
    DBHelper.rawQueryOnchain payments direction =
      some (1000 * ledgerSum messages (partOf direction)) := by
  have rows : payments.rows.filter (fun p =>
      p.type = .btcOnchain ∧ p.direction = direction) =
      (onchainRows payments).filter (fun p => p.direction = direction) := by
    rw [onchainRows, List.filter_filter]
    simp [and_comm]
  have total : (((onchainRows payments).filter (fun p =>
      p.direction = direction)).map Payment.amountPaidMsat).sum =
      1000 * ledgerSum messages (partOf direction) := by
    calc
      (((onchainRows payments).filter (fun p =>
          p.direction = direction)).map Payment.amountPaidMsat).sum =
        ((onchainRows payments).map (fun p =>
          1000 * partOf direction (entry messages p.reference))).sum := by
            rw [sum_map_filter]
            congr 1
            apply List.map_congr_left
            intro p member
            rw [← mirrors.contribution fit member direction]
            simp
      _ = (((onchainRows payments).map Payment.reference).map (fun txid =>
          1000 * partOf direction (entry messages txid))).sum := by
            rw [List.map_map]
            rfl
      _ = ((reported messages).dedup.map (fun txid =>
          1000 * partOf direction (entry messages txid))).sum :=
            (mirrors.references_perm.map _).sum_eq
      _ = 1000 * ledgerSum messages (partOf direction) := by
            rw [List.sum_map_mul_left, ledgerSum]
  rw [DBHelper.rawQueryOnchain, rows, ← total]
  apply sum_of_nonneg
  · intro value member
    obtain ⟨p, kept, rfl⟩ := List.mem_map.mp member
    obtain ⟨inRows, shown⟩ := List.mem_filter.mp kept
    have contribution := mirrors.contribution fit inRows direction
    rw [if_pos (of_decide_eq_true shown)] at contribution
    have nonneg := partOf_nonneg direction (entry messages p.reference)
    omega
  · rw [total]
    exact bound

theorem ledgerSum_parts (messages : List (ElectrumMessage × Nat)) :
    ledgerSum messages (partOf .received) - ledgerSum messages (partOf .sent) =
      ledgerSum messages (fun value => value) := by
  unfold ledgerSum
  induction (reported messages).dedup with
  | nil => rfl
  | cons txid txids induction =>
      simp only [List.map_cons, List.sum_cons, partOf] at induction ⊢
      omega

theorem Mirrors.getOnchainBalanceMsat (mirrors : Mirrors payments messages)
    (fit : TotalsFit messages) :
    DBHelper.getOnchainBalanceMsat payments =
      some (max 0 (1000 * ledgerSum messages (fun value => value))) := by
  have nonneg : ∀ direction,
      0 ≤ ledgerSum messages (partOf direction) := by
    intro direction
    apply List.sum_nonneg
    intro value member
    obtain ⟨txid, _, rfl⟩ := List.mem_map.mp member
    exact partOf_nonneg direction _
  have incoming := nonneg .received
  have outgoing := nonneg .sent
  have difference := ledgerSum_parts messages
  obtain ⟨incomingFits, outgoingFits⟩ := fit
  have exactly : toLong
      (1000 * ledgerSum messages (partOf .received) -
        1000 * ledgerSum messages (partOf .sent)) =
      1000 * ledgerSum messages (fun value => value) := by
    rw [toLong_of_fits]
    · omega
    · simp only [maxValue] at incomingFits outgoingFits
      constructor
      · simp only [minValue]
        omega
      · simp only [maxValue]
        omega
  rw [DBHelper.getOnchainBalanceMsat,
    mirrors.rawQueryOnchain ⟨incomingFits, outgoingFits⟩ .received
      incomingFits,
    mirrors.rawQueryOnchain ⟨incomingFits, outgoingFits⟩ .sent outgoingFits,
    Option.bind_some, Option.map_some, exactly, max_comm]

theorem Mirrors.of_fresh
    (fresh : ∀ p ∈ payments.rows, p.type ≠ .btcOnchain) :
    Mirrors payments [] := by
  intro txid
  have none : DBHelper.getPayment payments txid .btcOnchain = none := by
    apply Table.find?_eq_none_iff.mpr
    intro p member same
    simp only [Payment.unique_eq, Prod.mk.injEq] at same
    exact fresh p member same.1
  simp [none, latest]

/-- Whatever is reported, and however often, the handlers complete and leave
one on-chain row for each transaction; as long as the two totals are `long`
values, the balance is the ledger's sum, or zero. -/
theorem onchain_balance_eq_ledger (payments : Table Payment)
    (fresh : ∀ p ∈ payments.rows, p.type ≠ .btcOnchain)
    (messages : List (ElectrumMessage × Nat)) :
    ∃ finish, Runs.exec step payments messages = some finish ∧
      (∀ txid, (onchainRowsOf finish txid).length =
        if txid ∈ reported messages then 1 else 0) ∧
      (TotalsFit messages →
        DBHelper.getOnchainBalanceMsat finish =
          some (max 0 (1000 * ledgerSum messages (fun value => value)))) := by
  obtain ⟨finish, run, mirrors⟩ := (Mirrors.of_fresh fresh).run messages
  rw [List.nil_append] at mirrors
  refine ⟨finish, run, mirrors.length_onchainRowsOf, ?_⟩
  exact mirrors.getOnchainBalanceMsat

/-- A transaction that pays the wallet 21 million bitcoins. -/
def wholeSupply (txid : String) : ElectrumMessage × Nat :=
  (.transactionReceived
    { txid := txid
      payload := ""
      depth := 1
      received := 2100000000000000
      sent := 0
      feeOpt := none }, 1)

/-- A transaction that is first reported as received, and then as sent. -/
theorem onchain_balance_of_flip :
    ∃ finish, Runs.exec step Table.empty
        [(.transactionReceived
            { txid := "tx", payload := "", depth := 0, received := 5
              sent := 2, feeOpt := none }, 1),
          (.transactionReceived
            { txid := "tx", payload := "", depth := 1, received := 5
              sent := 9, feeOpt := some 1 }, 2)] = some finish ∧
      DBHelper.getOnchainBalanceMsat finish = some 0 := by
  obtain ⟨finish, run, _, balance⟩ := onchain_balance_eq_ledger Table.empty
    (by simp [Table.empty])
    [(.transactionReceived
        { txid := "tx", payload := "", depth := 0, received := 5, sent := 2
          feeOpt := none }, 1),
      (.transactionReceived
        { txid := "tx", payload := "", depth := 1, received := 5, sent := 9
          feeOpt := some 1 }, 2)]
  exact ⟨finish, run, balance (by decide)⟩

/-- The sum of five such transactions is no `long`. -/
theorem onchain_balance_overflows :
    ¬ ∀ (payments : Table Payment) (messages : List (ElectrumMessage × Nat)),
      (∀ p ∈ payments.rows, p.type ≠ .btcOnchain) →
      ∃ finish, Runs.exec step payments messages = some finish ∧
        (∀ txid, (onchainRowsOf finish txid).length =
          if txid ∈ reported messages then 1 else 0) ∧
        DBHelper.getOnchainBalanceMsat finish =
          some (max 0 (1000 * ledgerSum messages (fun value => value))) := by
  intro claim
  obtain ⟨finish, run, _, balance⟩ := claim Table.empty
    (["a", "b", "c", "d", "e"].map wholeSupply) (by simp [Table.empty])
  have computed : (Runs.exec step Table.empty
      (["a", "b", "c", "d", "e"].map wholeSupply)).bind
        DBHelper.getOnchainBalanceMsat = none := by
    decide
  rw [run, Option.bind_some, balance] at computed
  cases computed

end ElectrumSupervisor

end EclairWallet
