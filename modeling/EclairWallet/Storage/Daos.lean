import EclairWallet.Channel.Entity
import EclairWallet.Library.SqlTable

/-!
# Reading entities from their tables

The columns of the two tables, the property converters, and the entities the
DAOs build from a row.  A converter parses the name of an enum constant and
fails on any other text and on null; a nullable column is converted only when
it holds a value.
-/

namespace EclairWallet

namespace PaymentType

def valueOf : String → Option PaymentType
  | "BTC_LN" => some .btcLn
  | "BTC_ONCHAIN" => some .btcOnchain
  | _ => none

end PaymentType

namespace PaymentDirection

def valueOf : String → Option PaymentDirection
  | "RECEIVED" => some .received
  | "SENT" => some .sent
  | "FORWARDED" => some .forwarded
  | _ => none

end PaymentDirection

namespace PaymentStatus

def valueOf : String → Option PaymentStatus
  | "INIT" => some .init
  | "PENDING" => some .pending
  | "PAID" => some .paid
  | "FAILED" => some .failed
  | _ => none

end PaymentStatus

namespace ClosingType

def valueOf : String → Option ClosingType
  | "MUTUAL" => some .mutual
  | "LOCAL" => some .local
  | "REMOTE" => some .remote
  | "OTHER" => some .other
  | _ => none

end ClosingType

/-- `convertToEntityProperty` of the four converters: none when `valueOf`
throws, which it does on null. -/
def convertToEntityProperty {α : Type} (valueOf : String → Option α)
    (databaseValue : Option String) : Option α :=
  databaseValue.bind valueOf

/-- How a nullable column is converted. -/
def convertNullable {α : Type} (valueOf : String → Option α)
    (value : SqlValue) : Option (Option α) :=
  if value.isNull then some none
  else (convertToEntityProperty valueOf value.getString).map some

/-- A nullable number: a primary key, or a date in milliseconds. -/
def getNullableLong (value : SqlValue) : Option Nat :=
  if value.isNull then none else some value.getLong.toNat

/-- The cursor of a row: its value in each selected column. -/
def SqlTable.cursor (table : SqlTable) (row : List SqlValue) (column : String) :
    SqlValue :=
  (table.value? row column).getD .null

namespace PaymentDao

def tableName : String := "PAYMENT"

def allColumns : List String :=
  ["_id", "TYPE", "DIRECTION", "REFERENCE", "INVOICE_ID", "RECIPIENT",
    "PREIMAGE", "PAYMENT_REQUEST", "LOCAL_CHANNEL_ID", "SERIALIZED_ROUTE",
    "DESCRIPTION", "CONFIDENCE_BLOCKS", "CONFIDENCE_TYPE", "TX_PAYLOAD",
    "STATUS", "CREATED", "UPDATED", "LAST_ERROR_CAUSE",
    "AMOUNT_REQUESTED_MSAT", "AMOUNT_SENT_MSAT", "AMOUNT_PAID_MSAT",
    "FEES_PAID_MSAT"]

/-- None when a converter throws. -/
def readEntity (cursor : String → SqlValue) : Option Payment :=
  (convertToEntityProperty PaymentType.valueOf
      (cursor "TYPE").getString).bind (fun type =>
    (convertToEntityProperty PaymentDirection.valueOf
        (cursor "DIRECTION").getString).bind (fun direction =>
      (convertNullable PaymentStatus.valueOf (cursor "STATUS")).map
        (fun status =>
          { id := getNullableLong (cursor "_id")
            type := type
            direction := direction
            reference := (cursor "REFERENCE").getString.getD ""
            invoiceId := (cursor "INVOICE_ID").getString
            recipient := (cursor "RECIPIENT").getString
            preimage := (cursor "PREIMAGE").getString
            paymentRequest := (cursor "PAYMENT_REQUEST").getString
            localChannelId := (cursor "LOCAL_CHANNEL_ID").getString
            serializedRoute := (cursor "SERIALIZED_ROUTE").getString
            description := (cursor "DESCRIPTION").getString
            confidenceBlocks := (cursor "CONFIDENCE_BLOCKS").getLong
            confidenceType := (cursor "CONFIDENCE_TYPE").getLong
            txPayload := (cursor "TX_PAYLOAD").getString
            status := status
            created := (cursor "CREATED").getLong.toNat
            updated := getNullableLong (cursor "UPDATED")
            lastErrorCause := (cursor "LAST_ERROR_CAUSE").getString
            amountRequestedMsat := (cursor "AMOUNT_REQUESTED_MSAT").getLong
            amountSentMsat := (cursor "AMOUNT_SENT_MSAT").getLong
            amountPaidMsat := (cursor "AMOUNT_PAID_MSAT").getLong
            feesPaidMsat := (cursor "FEES_PAID_MSAT").getLong })))

/-- Select all columns of the entity, and read it. -/
def load (table : SqlTable) (row : List SqlValue) : Option Payment :=
  if ∀ column ∈ allColumns, column ∈ table.columns then
    readEntity (table.cursor row)
  else none

/-- The converted columns that the table has hold what their converters
accept. -/
structure Converts (table : SqlTable) (row : List SqlValue) : Prop where
  type : ∀ value, table.value? row "TYPE" = some value →
    (convertToEntityProperty PaymentType.valueOf
      value.getString).isSome = true
  direction : ∀ value, table.value? row "DIRECTION" = some value →
    (convertToEntityProperty PaymentDirection.valueOf
      value.getString).isSome = true
  status : ∀ value, table.value? row "STATUS" = some value →
    (convertNullable PaymentStatus.valueOf value).isSome = true

theorem readEntity_isSome_iff (cursor : String → SqlValue) :
    (readEntity cursor).isSome = true ↔
      (convertToEntityProperty PaymentType.valueOf
        (cursor "TYPE").getString).isSome = true ∧
      (convertToEntityProperty PaymentDirection.valueOf
        (cursor "DIRECTION").getString).isSome = true ∧
      (convertNullable PaymentStatus.valueOf
        (cursor "STATUS")).isSome = true := by
  unfold readEntity
  cases convertToEntityProperty PaymentType.valueOf
      (cursor "TYPE").getString with
  | none => simp
  | some type =>
      cases convertToEntityProperty PaymentDirection.valueOf
          (cursor "DIRECTION").getString with
      | none => simp
      | some direction =>
          cases convertNullable PaymentStatus.valueOf (cursor "STATUS") with
          | none => simp
          | some status => simp

/-- A row of a table with all columns is loaded exactly when its converted
columns convert. -/
theorem load_isSome_iff {table : SqlTable} {row : List SqlValue}
    (columns : ∀ column ∈ allColumns, column ∈ table.columns)
    (member : row ∈ table.rows) :
    (load table row).isSome = true ↔ Converts table row := by
  have known : ∀ column ∈ allColumns, ∃ value,
      table.value? row column = some value := by
    intro column inAll
    exact SqlTable.exists_lookup_zip (table.widths row member)
      (columns column inAll)
  obtain ⟨type, typeFound⟩ := known "TYPE" (by decide)
  obtain ⟨direction, directionFound⟩ := known "DIRECTION" (by decide)
  obtain ⟨status, statusFound⟩ := known "STATUS" (by decide)
  rw [load, if_pos columns, readEntity_isSome_iff]
  simp only [SqlTable.cursor, typeFound, directionFound, statusFound,
    Option.getD_some]
  constructor
  · intro given
    obtain ⟨typeConverts, directionConverts, statusConverts⟩ := given
    constructor
    · intro value found
      rw [typeFound, Option.some.injEq] at found
      exact found ▸ typeConverts
    · intro value found
      rw [directionFound, Option.some.injEq] at found
      exact found ▸ directionConverts
    · intro value found
      rw [statusFound, Option.some.injEq] at found
      exact found ▸ statusConverts
  · intro converts
    exact ⟨converts.type type typeFound,
      converts.direction direction directionFound,
      converts.status status statusFound⟩

end PaymentDao

namespace LocalChannelDao

def tableName : String := "LOCAL_CHANNEL"

def allColumns : List String :=
  ["_id", "CHANNEL_ID", "SHORT_CHANNEL_ID", "PEER_NODE_ID", "PEER_ADDRESS",
    "CAPACITY_MSAT", "BALANCE_MSAT", "REFUND_AT_BLOCK", "CHANNEL_RESERVE_SAT",
    "MINIMUM_HTLC_AMOUNT_MSAT", "TO_SELF_DELAY_BLOCKS", "FUNDING_TX_ID",
    "CLOSING_TX_ID", "CLOSING_TYPE", "CLOSING_ERROR_MESSAGE",
    "LOCAL_FEATURES", "IS_ACTIVE", "CREATED", "UPDATED"]

/-- None when the converter throws. -/
def readEntity (cursor : String → SqlValue) : Option LocalChannelRow :=
  (convertNullable ClosingType.valueOf (cursor "CLOSING_TYPE")).map
    (fun closingType =>
      { id := getNullableLong (cursor "_id")
        channelId := (cursor "CHANNEL_ID").getString
        shortChannelId := (cursor "SHORT_CHANNEL_ID").getString
        peerNodeId := (cursor "PEER_NODE_ID").getString
        peerAddress := (cursor "PEER_ADDRESS").getString
        capacityMsat := (cursor "CAPACITY_MSAT").getLong
        balanceMsat := (cursor "BALANCE_MSAT").getLong
        refundAtBlock := (cursor "REFUND_AT_BLOCK").getLong
        channelReserveSat := (cursor "CHANNEL_RESERVE_SAT").getLong
        minimumHtlcAmountMsat := (cursor "MINIMUM_HTLC_AMOUNT_MSAT").getLong
        toSelfDelayBlocks := (cursor "TO_SELF_DELAY_BLOCKS").getLong
        fundingTxId := (cursor "FUNDING_TX_ID").getString
        closingTxId := (cursor "CLOSING_TX_ID").getString
        closingType := closingType
        closingErrorMessage := (cursor "CLOSING_ERROR_MESSAGE").getString
        localFeatures := (cursor "LOCAL_FEATURES").getString
        isActive := (cursor "IS_ACTIVE").getLong ≠ 0
        created := (cursor "CREATED").getLong.toNat
        updated := getNullableLong (cursor "UPDATED") })

/-- Select all columns of the entity, and read it. -/
def load (table : SqlTable) (row : List SqlValue) : Option LocalChannelRow :=
  if ∀ column ∈ allColumns, column ∈ table.columns then
    readEntity (table.cursor row)
  else none

/-- The converted column, if the table has it, holds what its converter
accepts. -/
def Converts (table : SqlTable) (row : List SqlValue) : Prop :=
  ∀ value, table.value? row "CLOSING_TYPE" = some value →
    (convertNullable ClosingType.valueOf value).isSome = true

theorem readEntity_isSome_iff (cursor : String → SqlValue) :
    (readEntity cursor).isSome = true ↔
      (convertNullable ClosingType.valueOf
        (cursor "CLOSING_TYPE")).isSome = true := by
  simp [readEntity]

theorem load_isSome_iff {table : SqlTable} {row : List SqlValue}
    (columns : ∀ column ∈ allColumns, column ∈ table.columns)
    (member : row ∈ table.rows) :
    (load table row).isSome = true ↔ Converts table row := by
  obtain ⟨closingType, found⟩ := SqlTable.exists_lookup_zip
    (table.widths row member) (columns "CLOSING_TYPE" (by decide))
  rw [load, if_pos columns, readEntity_isSome_iff]
  simp only [SqlTable.cursor, SqlTable.value?, found, Option.getD_some]
  constructor
  · intro converts value same
    rw [SqlTable.value?, found, Option.some.injEq] at same
    exact same ▸ converts
  · intro converts
    exact converts closingType found

end LocalChannelDao

end EclairWallet
