import Mathlib.Data.List.AList
import Mathlib.Data.List.Nodup

/-!
# Tables whose columns change

A table has named columns, each once, and rows as wide as its columns.  Adding
a column appends it with nulls and fails when the name is taken.
-/

namespace EclairWallet

inductive SqlValue where
  | null
  | integer (value : Int)
  | text (value : String)
  deriving DecidableEq, Repr

namespace SqlValue

def isNull : SqlValue → Bool
  | .null => true
  | _ => false

/-- `Cursor.getString`. -/
def getString : SqlValue → Option String
  | .null => none
  | .integer value => some (toString value)
  | .text value => some value

/-- `Cursor.getLong`: null reads as zero. -/
def getLong : SqlValue → Int
  | .null => 0
  | .integer value => value
  | .text value => value.toInt?.getD 0

end SqlValue

structure SqlTable where
  columns : List String
  rows : List (List SqlValue)
  apart : columns.Nodup
  widths : ∀ row ∈ rows, row.length = columns.length

namespace SqlTable

/-- The value of a row in a column, if the table has the column. -/
def value? (table : SqlTable) (row : List SqlValue) (column : String) :
    Option SqlValue :=
  (table.columns.zip row).lookup column

theorem exists_lookup_zip {columns : List String} {row : List SqlValue}
    {column : String} (width : row.length = columns.length)
    (present : column ∈ columns) :
    ∃ value, (columns.zip row).lookup column = some value := by
  induction columns generalizing row with
  | nil => cases present
  | cons head columns induction =>
      cases row with
      | nil => simp at width
      | cons value row =>
          rw [List.zip_cons_cons, List.lookup_cons]
          by_cases same : column = head
          · exact ⟨value, by simp [same]⟩
          · have later : column ∈ columns := by
              simpa [same] using present
            have different : (column == head) = false := by simp [same]
            have found := induction (by simpa using width) later
            simpa only [different] using found

theorem lookup_zip_of_absent {columns : List String} {row : List SqlValue}
    {column : String} (absent : column ∉ columns) :
    (columns.zip row).lookup column = none := by
  apply List.lookup_eq_none_iff.mpr
  intro pair member
  have present := (List.of_mem_zip member).1
  apply bne_iff_ne.mpr
  rintro rfl
  exact absent present

theorem lookup_zip_map {columns : List String} {column : String}
    (value : String → SqlValue) (present : column ∈ columns) :
    (columns.zip (columns.map value)).lookup column =
      some (value column) := by
  induction columns with
  | nil => cases present
  | cons head columns induction =>
      rw [List.map_cons, List.zip_cons_cons, List.lookup_cons]
      by_cases same : column = head
      · simp [same]
      · have later : column ∈ columns := by
          simpa [same] using present
        have different : (column == head) = false := by simp [same]
        simpa only [different] using induction later

/-- `CREATE TABLE`. -/
def create (columns : List String) : Option SqlTable :=
  if apart : columns.Nodup then
    some { columns := columns, rows := [], apart := apart, widths := by simp }
  else none

theorem exists_create {columns : List String} (apart : columns.Nodup) :
    ∃ table, create columns = some table ∧ table.columns = columns ∧
      table.rows = [] :=
  ⟨_, dif_pos apart, rfl, rfl⟩

/-- `ALTER TABLE ... ADD COLUMN`. -/
def addColumn (table : SqlTable) (column : String) : Option SqlTable :=
  if taken : column ∈ table.columns then none
  else
    some
      { columns := table.columns ++ [column]
        rows := table.rows.map (fun row => row ++ [.null])
        apart := by
          rw [List.nodup_append]
          refine ⟨table.apart, List.nodup_singleton _, ?_⟩
          intro name member other last same
          simp only [List.mem_singleton] at last
          subst other
          subst name
          exact taken member
        widths := by
          intro row member
          obtain ⟨before, inTable, rfl⟩ := List.mem_map.mp member
          simp [table.widths before inTable] }

/-- `table` is `old` with the columns `added`, which are null in its rows. -/
structure ExtendedBy (added : List String) (old table : SqlTable) : Prop where
  columns : table.columns = old.columns ++ added
  rows : table.rows =
    old.rows.map (fun row => row ++ added.map (fun _ => SqlValue.null))

namespace ExtendedBy

variable {added later : List String} {old middle table : SqlTable}
  {row : List SqlValue} {column : String}

theorem refl (table : SqlTable) : ExtendedBy [] table table :=
  { columns := by simp
    rows := by simp }

theorem trans (first : ExtendedBy added old middle)
    (second : ExtendedBy later middle table) :
    ExtendedBy (added ++ later) old table :=
  { columns := by rw [second.columns, first.columns, List.append_assoc]
    rows := by
      rw [second.rows, first.rows, List.map_map]
      apply List.map_congr_left
      intro row _
      simp }

theorem addColumn (free : column ∉ old.columns) :
    ∃ table, old.addColumn column = some table ∧
      ExtendedBy [column] old table :=
  ⟨_, dif_neg free, ⟨rfl, rfl⟩⟩

theorem zip_row (extended : ExtendedBy added old table)
    (member : row ∈ old.rows) :
    table.columns.zip (row ++ added.map (fun _ => SqlValue.null)) =
      old.columns.zip row ++
        added.zip (added.map (fun _ => SqlValue.null)) := by
  rw [extended.columns]
  exact List.zip_append (old.widths row member).symm

theorem value?_old (extended : ExtendedBy added old table)
    (member : row ∈ old.rows) (present : column ∈ old.columns) :
    table.value? (row ++ added.map (fun _ => SqlValue.null)) column =
      old.value? row column := by
  obtain ⟨value, found⟩ := exists_lookup_zip (old.widths row member) present
  rw [value?, value?, extended.zip_row member, List.lookup_append, found]
  rfl

theorem value?_new (extended : ExtendedBy added old table)
    (member : row ∈ old.rows) (new : column ∈ added) :
    table.value? (row ++ added.map (fun _ => SqlValue.null)) column =
      some .null := by
  have absent : column ∉ old.columns := by
    intro present
    have apart := table.apart
    rw [extended.columns, List.nodup_append] at apart
    exact apart.2.2 column present column new rfl
  rw [value?, extended.zip_row member, List.lookup_append,
    lookup_zip_of_absent absent, lookup_zip_map (fun _ => .null) new]
  rfl

end ExtendedBy

end SqlTable

/-! ## Statements -/

inductive SqlStatement where
  | createTable (name : String) (columns : List String) (ifNotExists : Bool)
  | addColumn (name column : String)
  deriving DecidableEq, Repr

abbrev Database := AList (fun _ : String => SqlTable)

namespace Database

/-- None when the statement is refused. -/
def execSQL (db : Database) : SqlStatement → Option Database
  | .createTable name columns ifNotExists =>
      match db.lookup name with
      | some _ => if ifNotExists then some db else none
      | none => (SqlTable.create columns).map (fun table => db.insert name table)
  | .addColumn name column =>
      (db.lookup name).bind (fun table =>
        (table.addColumn column).map (fun extended => db.insert name extended))

/-- Execute the statements in order. -/
def execAll (db : Database) : List SqlStatement → Option Database
  | [] => some db
  | statement :: statements =>
      (db.execSQL statement).bind (fun next => execAll next statements)

theorem execAll_append (db : Database) (first second : List SqlStatement) :
    db.execAll (first ++ second) =
      (db.execAll first).bind (fun middle => middle.execAll second) := by
  induction first generalizing db with
  | nil => rfl
  | cons statement first induction =>
      cases result : db.execSQL statement with
      | none => simp [execAll, result]
      | some next => simp [execAll, result, induction next]

/-- Columns with free names are added one after the other, and no other table
is touched. -/
theorem exists_execAll_addColumn {db : Database} {name : String}
    {table : SqlTable} {columns : List String}
    (found : db.lookup name = some table)
    (apart : (table.columns ++ columns).Nodup) :
    ∃ next extended, db.execAll (columns.map (.addColumn name)) = some next ∧
      next.lookup name = some extended ∧
      SqlTable.ExtendedBy columns table extended ∧
      ∀ other, other ≠ name → next.lookup other = db.lookup other := by
  induction columns generalizing db table with
  | nil => exact ⟨db, table, rfl, found, .refl table, fun _ _ => rfl⟩
  | cons column columns induction =>
      have free : column ∉ table.columns := by
        intro taken
        rw [List.nodup_append] at apart
        exact apart.2.2 column taken column (by simp) rfl
      obtain ⟨middle, added, first⟩ := SqlTable.ExtendedBy.addColumn free
      have executed : db.execSQL (.addColumn name column) =
          some (db.insert name middle) := by
        simp [execSQL, found, added]
      have stillApart : (middle.columns ++ columns).Nodup := by
        rw [first.columns]
        simpa using apart
      obtain ⟨next, extended, run, stored, rest, others⟩ :=
        induction (AList.lookup_insert db) stillApart
      refine ⟨next, extended, ?_, stored, first.trans rest, ?_⟩
      · simp [execAll, executed, run]
      · intro other different
        rw [others other different, AList.lookup_insert_ne different]

end Database

end EclairWallet
