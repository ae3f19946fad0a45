import EclairWallet.Storage.Daos

/-!
# The migration of the database

`DBMigrationHelper.onUpgrade` applies the patches above the old version.  The
schema of a version is the current one without the columns of those patches.
-/

namespace EclairWallet

namespace DBMigrationHelper

/-- `schemaVersion`. -/
def currentVersion : Nat := 8

/-- The statements executed for an old version.  The new version is not
looked at. -/
def patches (oldVersion : Nat) : List SqlStatement :=
  (if oldVersion < 3 then
    [.addColumn PaymentDao.tableName "DIRECTION"]
  else []) ++
  (if oldVersion < 4 then
    [.addColumn PaymentDao.tableName "PREIMAGE",
      .addColumn PaymentDao.tableName "RECIPIENT"]
  else []) ++
  (if oldVersion < 5 then
    [.addColumn PaymentDao.tableName "AMOUNT_SENT_MSAT"]
  else []) ++
  (if oldVersion < 6 then
    [.addColumn PaymentDao.tableName "LOCAL_CHANNEL_ID",
      .addColumn PaymentDao.tableName "SERIALIZED_ROUTE"]
  else []) ++
  (if oldVersion < 7 then
    [.createTable LocalChannelDao.tableName LocalChannelDao.allColumns true]
  else []) ++
  (if 6 < oldVersion ∧ oldVersion < 8 then
    [.addColumn LocalChannelDao.tableName "REFUND_AT_BLOCK"]
  else [])

def onUpgrade (db : Database) (oldVersion : Nat) : Option Database :=
  db.execAll (patches oldVersion)

/-! ## The schema of a version -/

/-- The version from which a table has a column. -/
def paymentColumnVersions : List (Nat × String) :=
  [(3, "DIRECTION"), (4, "PREIMAGE"), (4, "RECIPIENT"),
    (5, "AMOUNT_SENT_MSAT"), (6, "LOCAL_CHANNEL_ID"),
    (6, "SERIALIZED_ROUTE")]

def channelColumnVersions : List (Nat × String) :=
  [(8, "REFUND_AT_BLOCK")]

/-- The columns of later versions. -/
def addedAbove (version : Nat) (versions : List (Nat × String)) :
    List String :=
  (versions.filter (fun added => version < added.1)).map Prod.snd

def columnsAt (version : Nat) (versions : List (Nat × String))
    (allColumns : List String) : List String :=
  allColumns.filter (fun column => column ∉ addedAbove version versions)

/-- The database has the tables of the version, with their columns in any
order. -/
structure HasSchema (version : Nat) (db : Database) : Prop where
  payment : ∃ table, db.lookup PaymentDao.tableName = some table ∧
    table.columns.Perm
      (columnsAt version paymentColumnVersions PaymentDao.allColumns)
  localChannel :
    if version < 7 then db.lookup LocalChannelDao.tableName = none
    else ∃ table, db.lookup LocalChannelDao.tableName = some table ∧
      table.columns.Perm
        (columnsAt version channelColumnVersions LocalChannelDao.allColumns)

theorem patches_eq {oldVersion : Nat} (low : 1 ≤ oldVersion)
    (high : oldVersion ≤ currentVersion) :
    patches oldVersion =
      (addedAbove oldVersion paymentColumnVersions).map
          (.addColumn PaymentDao.tableName) ++
        if oldVersion < 7 then
          [.createTable LocalChannelDao.tableName LocalChannelDao.allColumns
            true]
        else (addedAbove oldVersion channelColumnVersions).map
          (.addColumn LocalChannelDao.tableName) := by
  have versions : oldVersion ∈ [1, 2, 3, 4, 5, 6, 7, 8] := by
    simp only [currentVersion] at high
    simp only [List.mem_cons, List.not_mem_nil, or_false]
    omega
  revert versions
  clear low high
  revert oldVersion
  decide

theorem columnsAt_append_addedAbove {version : Nat}
    {versions : List (Nat × String)} {allColumns columns : List String}
    (apart : allColumns.Nodup) (versionsApart : (versions.map Prod.snd).Nodup)
    (known : ∀ added ∈ versions, added.2 ∈ allColumns)
    (schema : columns.Perm (columnsAt version versions allColumns)) :
    (columns ++ addedAbove version versions).Perm allColumns := by
  have addedApart : (addedAbove version versions).Nodup :=
    versionsApart.sublist (List.filter_sublist.map _)
  have addedKnown : ∀ column ∈ addedAbove version versions,
      column ∈ allColumns := by
    intro column member
    obtain ⟨added, kept, rfl⟩ := List.mem_map.mp member
    exact known added (List.mem_filter.mp kept).1
  refine (schema.append_right _).trans ?_
  apply (List.perm_ext_iff_of_nodup _ apart).mpr
  · intro column
    simp only [columnsAt, List.mem_append, List.mem_filter,
      decide_eq_true_eq]
    constructor
    · intro given
      rcases given with ⟨inAll, _⟩ | added
      · exact inAll
      · exact addedKnown column added
    · intro inAll
      by_cases added : column ∈ addedAbove version versions
      · exact Or.inr added
      · exact Or.inl ⟨inAll, added⟩
  · rw [List.nodup_append]
    refine ⟨apart.filter _, addedApart, ?_⟩
    intro column kept other added same
    subst other
    exact of_decide_eq_true (List.mem_filter.mp kept).2 added

theorem payment_columns {version : Nat} {columns : List String}
    (schema : columns.Perm
      (columnsAt version paymentColumnVersions PaymentDao.allColumns)) :
    (columns ++ addedAbove version paymentColumnVersions).Perm
      PaymentDao.allColumns := by
  apply columnsAt_append_addedAbove _ _ _ schema
  · decide
  · decide
  · decide

theorem channel_columns {version : Nat} {columns : List String}
    (schema : columns.Perm
      (columnsAt version channelColumnVersions LocalChannelDao.allColumns)) :
    (columns ++ addedAbove version channelColumnVersions).Perm
      LocalChannelDao.allColumns := by
  apply columnsAt_append_addedAbove _ _ _ schema
  · decide
  · decide
  · decide

/-! ## What the migration keeps -/

/-- `table` has the columns of `old` and the missing ones, each once, and its
rows hold the values of the rows of `old`. -/
structure Kept (allColumns : List String) (old table : SqlTable) : Prop where
  appended : ∃ added, table.columns = old.columns ++ added
  complete : table.columns.Perm allColumns
  values : List.Forall₂ (fun before after =>
    ∀ column ∈ old.columns,
      table.value? after column = old.value? before column)
    old.rows table.rows

structure Lossless (db finish : Database) : Prop where
  payment : ∀ old, db.lookup PaymentDao.tableName = some old →
    ∃ table, finish.lookup PaymentDao.tableName = some table ∧
      Kept PaymentDao.allColumns old table
  localChannel : ∀ old, db.lookup LocalChannelDao.tableName = some old →
    ∃ table, finish.lookup LocalChannelDao.tableName = some table ∧
      Kept LocalChannelDao.allColumns old table
  created : db.lookup LocalChannelDao.tableName = none →
    ∃ table, finish.lookup LocalChannelDao.tableName = some table ∧
      table.columns.Perm LocalChannelDao.allColumns ∧ table.rows = []
  others : ∀ name, name ≠ PaymentDao.tableName →
    name ≠ LocalChannelDao.tableName → finish.lookup name = db.lookup name

/-- Every row of the two tables is loaded as its entity. -/
structure AllLoad (db : Database) : Prop where
  payment : ∀ table, db.lookup PaymentDao.tableName = some table →
    ∀ row ∈ table.rows, (PaymentDao.load table row).isSome = true
  localChannel : ∀ table, db.lookup LocalChannelDao.tableName = some table →
    ∀ row ∈ table.rows, (LocalChannelDao.load table row).isSome = true

/-- The converted columns hold what the app stored in them. -/
structure Stored (db : Database) : Prop where
  payment : ∀ table, db.lookup PaymentDao.tableName = some table →
    ∀ row ∈ table.rows, PaymentDao.Converts table row
  localChannel : ∀ table, db.lookup LocalChannelDao.tableName = some table →
    ∀ row ∈ table.rows, LocalChannelDao.Converts table row

theorem Kept.of_extendedBy {allColumns added : List String}
    {old table : SqlTable} (extended : SqlTable.ExtendedBy added old table)
    (complete : (old.columns ++ added).Perm allColumns) :
    Kept allColumns old table where
  appended := ⟨added, extended.columns⟩
  complete := by
    rw [extended.columns]
    exact complete
  values := by
    rw [extended.rows, List.forall₂_map_right_iff, List.forall₂_same]
    intro row member column present
    exact extended.value?_old member present

/-- What the patches leave of the two tables: the payments are extended, the
channels are created or extended. -/
structure Upgraded (oldVersion : Nat) (db finish : Database)
    (old payment channel : SqlTable) : Prop where
  paymentFound : finish.lookup PaymentDao.tableName = some payment
  paymentExtended : SqlTable.ExtendedBy
    (addedAbove oldVersion paymentColumnVersions) old payment
  channelFound : finish.lookup LocalChannelDao.tableName = some channel
  created : oldVersion < 7 →
    channel.columns.Perm LocalChannelDao.allColumns ∧ channel.rows = []
  channelExtended : ¬ oldVersion < 7 → ∃ oldChannel,
    db.lookup LocalChannelDao.tableName = some oldChannel ∧
    SqlTable.ExtendedBy (addedAbove oldVersion channelColumnVersions)
      oldChannel channel
  others : ∀ name, name ≠ PaymentDao.tableName →
    name ≠ LocalChannelDao.tableName → finish.lookup name = db.lookup name

theorem exists_payments_patched {oldVersion : Nat} {db : Database}
    {old : SqlTable} (low : 1 ≤ oldVersion) (high : oldVersion ≤ currentVersion)
    (schema : HasSchema oldVersion db)
    (found : db.lookup PaymentDao.tableName = some old) :
    ∃ (middle : Database) (payment : SqlTable),
      onUpgrade db oldVersion = middle.execAll
        (if oldVersion < 7 then
          [.createTable LocalChannelDao.tableName LocalChannelDao.allColumns
            true]
        else (addedAbove oldVersion channelColumnVersions).map
          (.addColumn LocalChannelDao.tableName)) ∧
      middle.lookup PaymentDao.tableName = some payment ∧
      SqlTable.ExtendedBy (addedAbove oldVersion paymentColumnVersions) old
        payment ∧
      ∀ name, name ≠ PaymentDao.tableName →
        middle.lookup name = db.lookup name := by
  have apart :
      (old.columns ++ addedAbove oldVersion paymentColumnVersions).Nodup := by
    obtain ⟨table, present, columns⟩ := schema.payment
    obtain rfl : old = table := Option.some.inj (found.symm.trans present)
    apply (payment_columns columns).nodup_iff.mpr
    decide
  obtain ⟨middle, payment, first, stored, extended, kept⟩ :=
    Database.exists_execAll_addColumn found apart
  refine ⟨middle, payment, ?_, stored, extended, kept⟩
  rw [onUpgrade, patches_eq low high, Database.execAll_append, first]
  rfl

theorem exists_onUpgrade {oldVersion : Nat} {db : Database} {old : SqlTable}
    (low : 1 ≤ oldVersion) (high : oldVersion ≤ currentVersion)
    (schema : HasSchema oldVersion db)
    (found : db.lookup PaymentDao.tableName = some old) :
    ∃ finish payment channel, onUpgrade db oldVersion = some finish ∧
      Upgraded oldVersion db finish old payment channel := by
  obtain ⟨middle, payment, run, stored, extended, kept⟩ :=
    exists_payments_patched low high schema found
  have onChannels :
      middle.lookup LocalChannelDao.tableName =
        db.lookup LocalChannelDao.tableName :=
    kept _ (by decide)
  have localChannel := schema.localChannel
  by_cases early : oldVersion < 7
  · rw [if_pos early] at run localChannel
    have apart : LocalChannelDao.allColumns.Nodup := by decide
    obtain ⟨channel, made, columns, rows⟩ := SqlTable.exists_create apart
    refine ⟨middle.insert LocalChannelDao.tableName channel, payment, channel,
      ?_, ?_⟩
    · rw [run]
      simp [Database.execAll, Database.execSQL, onChannels, localChannel, made]
    · constructor
      · rw [AList.lookup_insert_ne (by decide)]
        exact stored
      · exact extended
      · exact AList.lookup_insert _
      · intro _
        rw [columns]
        exact ⟨.refl _, rows⟩
      · intro late
        exact (late early).elim
      · intro name notPayment notChannel
        rw [AList.lookup_insert_ne notChannel]
        exact kept name notPayment
  · rw [if_neg early] at run localChannel
    obtain ⟨oldChannel, present, columns⟩ := localChannel
    have channelApart :
        (oldChannel.columns ++
          addedAbove oldVersion channelColumnVersions).Nodup := by
      apply (channel_columns columns).nodup_iff.mpr
      decide
    obtain ⟨finish, channel, second, channelStored, channelExtended,
        channelKept⟩ :=
      Database.exists_execAll_addColumn (onChannels.trans present)
        channelApart
    refine ⟨finish, payment, channel, run.trans second, ?_⟩
    constructor
    · rw [channelKept _ (by decide)]
      exact stored
    · exact extended
    · exact channelStored
    · intro late
      exact (early late).elim
    · intro _
      exact ⟨oldChannel, present, channelExtended⟩
    · intro name notPayment notChannel
      rw [channelKept name notChannel]
      exact kept name notPayment

theorem Upgraded.lossless {oldVersion : Nat} {db finish : Database}
    {old payment channel : SqlTable}
    (upgraded : Upgraded oldVersion db finish old payment channel)
    (schema : HasSchema oldVersion db)
    (found : db.lookup PaymentDao.tableName = some old) :
    Lossless db finish := by
  have channelSchema := schema.localChannel
  constructor
  · intro table present
    obtain rfl : old = table := Option.some.inj (found.symm.trans present)
    obtain ⟨other, same, columns⟩ := schema.payment
    obtain rfl : old = other := Option.some.inj (found.symm.trans same)
    exact ⟨payment, upgraded.paymentFound,
      .of_extendedBy upgraded.paymentExtended (payment_columns columns)⟩
  · intro table present
    by_cases early : oldVersion < 7
    · rw [if_pos early, present] at channelSchema
      cases channelSchema
    · rw [if_neg early] at channelSchema
      obtain ⟨other, same, columns⟩ := channelSchema
      obtain ⟨before, beforeFound, extended⟩ := upgraded.channelExtended early
      obtain rfl := Option.some.inj (same.symm.trans present)
      obtain rfl := Option.some.inj (beforeFound.symm.trans present)
      exact ⟨channel, upgraded.channelFound,
        .of_extendedBy extended (channel_columns columns)⟩
  · intro absent
    by_cases early : oldVersion < 7
    · exact ⟨channel, upgraded.channelFound, upgraded.created early⟩
    · rw [if_neg early] at channelSchema
      obtain ⟨table, present, _⟩ := channelSchema
      rw [absent] at present
      cases present
  · exact upgraded.others

/-! ## Which migrations keep every row loadable -/

theorem direction_mem_addedAbove_iff {version : Nat} :
    "DIRECTION" ∈ addedAbove version paymentColumnVersions ↔ version < 3 := by
  simp [addedAbove, paymentColumnVersions]

/-- A row that converted still does, unless its direction is new. -/
theorem payment_converts_extended_iff {added : List String}
    {old table : SqlTable} {row : List SqlValue}
    (extended : SqlTable.ExtendedBy added old table) (member : row ∈ old.rows)
    (typeKept : "TYPE" ∈ old.columns) (statusKept : "STATUS" ∈ old.columns)
    (directionKnown : "DIRECTION" ∈ old.columns ∨ "DIRECTION" ∈ added)
    (converts : PaymentDao.Converts old row) :
    PaymentDao.Converts table (row ++ added.map (fun _ => SqlValue.null)) ↔
      "DIRECTION" ∉ added := by
  constructor
  · intro after new
    have failed := after.direction .null (extended.value?_new member new)
    simp [SqlValue.getString, convertToEntityProperty] at failed
  · intro notNew
    have directionKept : "DIRECTION" ∈ old.columns :=
      directionKnown.resolve_right notNew
    constructor
    · intro value found
      rw [extended.value?_old member typeKept] at found
      exact converts.type value found
    · intro value found
      rw [extended.value?_old member directionKept] at found
      exact converts.direction value found
    · intro value found
      rw [extended.value?_old member statusKept] at found
      exact converts.status value found

/-- The payments load after the upgrade exactly when none of them lacked a
direction before. -/
theorem payments_load_iff {oldVersion : Nat} {old table : SqlTable}
    (schema : old.columns.Perm
      (columnsAt oldVersion paymentColumnVersions PaymentDao.allColumns))
    (extended : SqlTable.ExtendedBy
      (addedAbove oldVersion paymentColumnVersions) old table)
    (stored : ∀ row ∈ old.rows, PaymentDao.Converts old row) :
    (∀ row ∈ table.rows, (PaymentDao.load table row).isSome = true) ↔
      3 ≤ oldVersion ∨ old.rows = [] := by
  have complete := payment_columns schema
  have allPresent : ∀ column ∈ PaymentDao.allColumns,
      column ∈ table.columns := by
    intro column inAll
    rw [extended.columns]
    exact complete.mem_iff.mpr inAll
  have known : ∀ column ∈ PaymentDao.allColumns,
      column ∈ old.columns ∨
        column ∈ addedAbove oldVersion paymentColumnVersions := by
    intro column inAll
    exact List.mem_append.mp (complete.mem_iff.mpr inAll)
  have kept : ∀ column ∈ PaymentDao.allColumns,
      column ∉ paymentColumnVersions.map Prod.snd →
        column ∈ old.columns := by
    intro column inAll neverAdded
    apply (known column inAll).resolve_right
    intro new
    obtain ⟨added, member, rfl⟩ := List.mem_map.mp new
    exact neverAdded
      (List.mem_map_of_mem (List.mem_filter.mp member).1)
  have loads : ∀ row ∈ old.rows,
      ((PaymentDao.load table (row ++
          (addedAbove oldVersion paymentColumnVersions).map
            (fun _ => SqlValue.null))).isSome = true ↔
        3 ≤ oldVersion) := by
    intro row member
    have inTable : row ++
        (addedAbove oldVersion paymentColumnVersions).map
          (fun _ => SqlValue.null) ∈ table.rows := by
      rw [extended.rows]
      exact List.mem_map.mpr ⟨row, member, rfl⟩
    rw [PaymentDao.load_isSome_iff allPresent inTable,
      payment_converts_extended_iff extended member
        (kept "TYPE" (by decide) (by decide))
        (kept "STATUS" (by decide) (by decide))
        (known "DIRECTION" (by decide)) (stored row member),
      direction_mem_addedAbove_iff, not_lt]
  rw [extended.rows]
  constructor
  · intro all
    by_cases empty : old.rows = []
    · exact Or.inr empty
    · obtain ⟨row, member⟩ := List.exists_mem_of_ne_nil _ empty
      exact Or.inl
        ((loads row member).mp (all _ (List.mem_map.mpr ⟨row, member, rfl⟩)))
  · intro condition row member
    obtain ⟨before, inOld, rfl⟩ := List.mem_map.mp member
    rcases condition with recent | empty
    · exact (loads before inOld).mpr recent
    · rw [empty] at inOld
      cases inOld

theorem extended_channels_load {oldVersion : Nat} {old table : SqlTable}
    (schema : old.columns.Perm
      (columnsAt oldVersion channelColumnVersions LocalChannelDao.allColumns))
    (extended : SqlTable.ExtendedBy
      (addedAbove oldVersion channelColumnVersions) old table)
    (stored : ∀ row ∈ old.rows, LocalChannelDao.Converts old row) :
    ∀ row ∈ table.rows, (LocalChannelDao.load table row).isSome = true := by
  have complete := channel_columns schema
  have allPresent : ∀ column ∈ LocalChannelDao.allColumns,
      column ∈ table.columns := by
    intro column inAll
    rw [extended.columns]
    exact complete.mem_iff.mpr inAll
  have kept : "CLOSING_TYPE" ∈ old.columns := by
    apply (List.mem_append.mp
      (complete.mem_iff.mpr (by decide))).resolve_right
    intro new
    simp [addedAbove, channelColumnVersions] at new
  intro row member
  rw [LocalChannelDao.load_isSome_iff allPresent member]
  rw [extended.rows] at member
  obtain ⟨before, inOld, rfl⟩ := List.mem_map.mp member
  intro value found
  rw [extended.value?_old inOld kept] at found
  exact stored before inOld value found

theorem Upgraded.channels_load {oldVersion : Nat} {db finish : Database}
    {old payment channel : SqlTable}
    (upgraded : Upgraded oldVersion db finish old payment channel)
    (schema : HasSchema oldVersion db) (stored : Stored db) :
    ∀ row ∈ channel.rows,
      (LocalChannelDao.load channel row).isSome = true := by
  have channelSchema := schema.localChannel
  by_cases early : oldVersion < 7
  · intro row member
    rw [(upgraded.created early).2] at member
    cases member
  · rw [if_neg early] at channelSchema
    obtain ⟨table, present, columns⟩ := channelSchema
    obtain ⟨before, found, extended⟩ := upgraded.channelExtended early
    obtain rfl := Option.some.inj (found.symm.trans present)
    exact extended_channels_load columns extended
      (stored.localChannel before found)

/-- The upgrade succeeds, loses nothing, and leaves every row loadable. -/
def MigrationLossless (oldVersion : Nat) (db : Database) : Prop :=
  ∃ finish, onUpgrade db oldVersion = some finish ∧ Lossless db finish ∧
    AllLoad finish

/-- The upgrade always succeeds and keeps every stored value; it leaves every
row loadable exactly when no payment is upgraded from before version 3. -/
theorem migrationLossless_iff {oldVersion : Nat} {db : Database}
    (low : 1 ≤ oldVersion) (high : oldVersion ≤ currentVersion)
    (schema : HasSchema oldVersion db) (stored : Stored db) :
    (∃ finish, onUpgrade db oldVersion = some finish ∧ Lossless db finish) ∧
      (MigrationLossless oldVersion db ↔
        3 ≤ oldVersion ∨ ∀ table,
          db.lookup PaymentDao.tableName = some table → table.rows = []) := by
  obtain ⟨old, found, columns⟩ := schema.payment
  obtain ⟨finish, payment, channel, run, upgraded⟩ :=
    exists_onUpgrade low high schema found
  have lossless := upgraded.lossless schema found
  have paymentsLoad := payments_load_iff columns upgraded.paymentExtended
    (stored.payment old found)
  refine ⟨⟨finish, run, lossless⟩, ?_⟩
  constructor
  · intro given
    obtain ⟨other, otherRun, _, load⟩ := given
    obtain rfl := Option.some.inj (run.symm.trans otherRun)
    rcases paymentsLoad.mp (load.payment payment upgraded.paymentFound) with
      recent | empty
    · exact Or.inl recent
    · right
      intro table present
      obtain rfl : old = table := Option.some.inj (found.symm.trans present)
      exact empty
  · intro condition
    refine ⟨finish, run, lossless, ?_⟩
    constructor
    · intro table present
      obtain rfl := Option.some.inj (upgraded.paymentFound.symm.trans present)
      apply paymentsLoad.mpr
      exact condition.imp_right (fun empty => empty old found)
    · intro table present
      obtain rfl := Option.some.inj (upgraded.channelFound.symm.trans present)
      exact upgraded.channels_load schema stored

/-- A paid lightning payment, as far as a version stores it. -/
def paidPayment : String → SqlValue
  | "_id" => .integer 1
  | "TYPE" => .text "BTC_LN"
  | "DIRECTION" => .text "SENT"
  | "REFERENCE" => .text "c0ffee"
  | "STATUS" => .text "PAID"
  | "CREATED" => .integer 1526904000000
  | _ => .null

def payments (version : Nat) : SqlTable :=
  { columns := columnsAt version paymentColumnVersions PaymentDao.allColumns
    rows := [(columnsAt version paymentColumnVersions
      PaymentDao.allColumns).map paidPayment]
    apart := by
      have apart : PaymentDao.allColumns.Nodup := by decide
      exact apart.filter _
    widths := by simp }

theorem payments_value {version : Nat} {row : List SqlValue}
    {column : String} {value : SqlValue} (member : row ∈ (payments version).rows)
    (found : (payments version).value? row column = some value) :
    value = paidPayment column := by
  obtain rfl := List.mem_singleton.mp member
  by_cases present : column ∈ (payments version).columns
  · have stored := SqlTable.lookup_zip_map paidPayment present
    exact Option.some.inj (found.symm.trans stored)
  · rw [SqlTable.value?, SqlTable.lookup_zip_of_absent present] at found
    cases found

theorem payments_convert (version : Nat) :
    ∀ row ∈ (payments version).rows,
      PaymentDao.Converts (payments version) row := by
  intro row member
  constructor
  · intro value found
    rw [payments_value member found]
    decide
  · intro value found
    rw [payments_value member found]
    decide
  · intro value found
    rw [payments_value member found]
    decide

/-- A database from before there were channels. -/
def oldDatabase (version : Nat) : Database :=
  (∅ : Database).insert PaymentDao.tableName (payments version)

theorem oldDatabase_payments (version : Nat) :
    (oldDatabase version).lookup PaymentDao.tableName =
      some (payments version) :=
  AList.lookup_insert _

theorem oldDatabase_schema {version : Nat} (old : version < 7) :
    HasSchema version (oldDatabase version) where
  payment := ⟨_, oldDatabase_payments version, .refl _⟩
  localChannel := by
    rw [if_pos old, oldDatabase, AList.lookup_insert_ne (by decide)]
    rfl

theorem oldDatabase_stored (version : Nat) :
    Stored (oldDatabase version) where
  payment := by
    intro table found
    rw [oldDatabase_payments, Option.some.injEq] at found
    exact found ▸ payments_convert version
  localChannel := by
    intro table found
    rw [oldDatabase, AList.lookup_insert_ne (by decide)] at found
    cases found

theorem migrationLossless_three :
    MigrationLossless 3 (oldDatabase 3) :=
  (migrationLossless_iff (by decide) (by decide)
    (oldDatabase_schema (by decide)) (oldDatabase_stored 3)).2.mpr
      (Or.inl le_rfl)

/-- A payment stored under version 2 has no direction after the upgrade, and
is not loaded any more. -/
theorem not_migrationLossless_always :
    ¬ ∀ (oldVersion : Nat) (db : Database), 1 ≤ oldVersion →
      oldVersion ≤ currentVersion → HasSchema oldVersion db → Stored db →
        MigrationLossless oldVersion db := by
  intro claim
  have schema : HasSchema 2 (oldDatabase 2) := oldDatabase_schema (by decide)
  obtain ⟨finish, run, _, load⟩ := claim 2 (oldDatabase 2) (by decide)
    (by decide) schema (oldDatabase_stored 2)
  obtain ⟨other, payment, _, otherRun, outcome⟩ :=
    exists_onUpgrade (by decide) (by decide) schema (oldDatabase_payments 2)
  obtain rfl := Option.some.inj (run.symm.trans otherRun)
  rcases (payments_load_iff (.refl _) outcome.paymentExtended
      (payments_convert 2)).mp (load.payment payment outcome.paymentFound) with
    recent | empty
  · exact absurd recent (by decide)
  · cases empty

end DBMigrationHelper

end EclairWallet
