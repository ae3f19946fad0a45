import Mathlib.Data.List.Nodup

/-!
# Tables with a primary key and a unique key

Entities carry a nullable primary key and a unique key.  `insertOrReplace`
removes every row that shares the entity's primary key or its unique key, and
allocates the largest primary key plus one when the entity has none.  The two
uniqueness constraints are fields of `Table`, so no operation can break them.
-/

namespace EclairWallet

universe u v

/-- The two keys of an entity.  The primary key is null until the entity is
stored. -/
class Keyed (ρ : Type u) (κ : outParam (Type v)) where
  primary : ρ → Option Nat
  withPrimary : Nat → ρ → ρ
  unique : ρ → κ
  primary_withPrimary : ∀ id row, primary (withPrimary id row) = some id
  unique_withPrimary : ∀ id row, unique (withPrimary id row) = unique row

attribute [simp] Keyed.primary_withPrimary Keyed.unique_withPrimary

/-- A table: every row is stored under its own primary key and its own unique
key. -/
structure Table (ρ : Type u) {κ : Type v} [Keyed ρ κ] where
  rows : List ρ
  stored : ∀ row ∈ rows, Keyed.primary row ≠ none
  primaries : (rows.map Keyed.primary).Nodup
  uniques : (rows.map Keyed.unique).Nodup

namespace Table

variable {ρ : Type u} {κ : Type v} [Keyed ρ κ]

/-- The table without rows. -/
def empty : Table ρ :=
  { rows := []
    stored := by simp
    primaries := by simp
    uniques := by simp }

/-- Largest primary key in use, zero for the empty list. -/
def maxPrimary : List ρ → Nat
  | [] => 0
  | row :: rows => max ((Keyed.primary row).getD 0) (maxPrimary rows)

/-- The primary key under which `entity` will be stored. -/
def assigned (table : Table ρ) (entity : ρ) : Nat :=
  (Keyed.primary entity).getD (maxPrimary table.rows + 1)

/-- The entity as `insertOrReplace` leaves it: its primary key is set. -/
def saved (table : Table ρ) (entity : ρ) : ρ :=
  Keyed.withPrimary (table.assigned entity) entity

/-- The stored row conflicts with the entity about to be written. -/
def Conflicts (table : Table ρ) (entity row : ρ) : Prop :=
  Keyed.primary row = some (table.assigned entity) ∨
    Keyed.unique row = Keyed.unique entity

theorem primary_le_maxPrimary {rows : List ρ} {row : ρ} {id : Nat}
    (member : row ∈ rows) (primary : Keyed.primary row = some id) :
    id ≤ maxPrimary rows := by
  induction rows with
  | nil => cases member
  | cons head rows induction =>
      simp only [maxPrimary]
      rcases List.mem_cons.mp member with same | later
      · subst head
        simp only [primary, Option.getD_some]
        exact Nat.le_max_left _ _
      · exact Nat.le_trans (induction later) (Nat.le_max_right _ _)

@[simp] theorem unique_saved (table : Table ρ) (entity : ρ) :
    Keyed.unique (table.saved entity) = Keyed.unique entity := by
  simp [saved]

theorem assigned_of_primary (table : Table ρ) {entity : ρ} {id : Nat}
    (primary : Keyed.primary entity = some id) :
    table.assigned entity = id := by
  simp [assigned, primary]

theorem primary_ne_assigned_of_new {table : Table ρ} {entity row : ρ}
    (new : Keyed.primary entity = none) (member : row ∈ table.rows) :
    Keyed.primary row ≠ some (table.assigned entity) := by
  intro same
  have bound := primary_le_maxPrimary member same
  simp only [assigned, new, Option.getD_none] at bound
  omega

theorem eq_of_primary {table : Table ρ} {left right : ρ}
    (leftMember : left ∈ table.rows) (rightMember : right ∈ table.rows)
    (same : Keyed.primary left = Keyed.primary right) : left = right :=
  List.inj_on_of_nodup_map table.primaries leftMember rightMember same

theorem eq_of_unique {table : Table ρ} {left right : ρ}
    (leftMember : left ∈ table.rows) (rightMember : right ∈ table.rows)
    (same : Keyed.unique left = Keyed.unique right) : left = right :=
  List.inj_on_of_nodup_map table.uniques leftMember rightMember same

theorem stored_of_primary (table : Table ρ) :
    none ∉ table.rows.map Keyed.primary := by
  intro member
  obtain ⟨row, inTable, unstored⟩ := List.mem_map.mp member
  exact table.stored row inTable unstored

variable [DecidableEq κ]

instance (table : Table ρ) (entity row : ρ) :
    Decidable (table.Conflicts entity row) :=
  inferInstanceAs (Decidable (_ ∨ _))

/-- Remove the conflicting rows and store the entity. -/
def insertOrReplace (table : Table ρ) (entity : ρ) : Table ρ where
  rows := table.rows.filter (fun row => ¬ table.Conflicts entity row) ++
    [table.saved entity]
  stored := by
    intro row member
    rcases List.mem_append.mp member with kept | last
    · exact table.stored row (List.mem_filter.mp kept).1
    · simp only [List.mem_singleton] at last
      subst row
      simp [saved]
  primaries := by
    rw [List.map_append, List.nodup_append]
    refine ⟨table.primaries.sublist (List.filter_sublist.map _),
      List.nodup_singleton _, ?_⟩
    intro key keptKey last isLast same
    obtain ⟨row, kept, rfl⟩ := List.mem_map.mp keptKey
    simp only [List.map_cons, List.map_nil, List.mem_singleton] at isLast
    have apart : ¬ table.Conflicts entity row := by
      simpa using (List.mem_filter.mp kept).2
    exact apart (Or.inl (by simp [same, isLast, saved]))
  uniques := by
    rw [List.map_append, List.nodup_append]
    refine ⟨table.uniques.sublist (List.filter_sublist.map _),
      List.nodup_singleton _, ?_⟩
    intro key keptKey last isLast same
    obtain ⟨row, kept, rfl⟩ := List.mem_map.mp keptKey
    simp only [List.map_cons, List.map_nil, List.mem_singleton] at isLast
    have apart : ¬ table.Conflicts entity row := by
      simpa using (List.mem_filter.mp kept).2
    exact apart (Or.inr (by simp [same, isLast, saved]))

/-- The row stored under a unique key. -/
def find? (table : Table ρ) (key : κ) : Option ρ :=
  table.rows.find? (fun row => Keyed.unique row = key)

theorem mem_insertOrReplace_iff {table : Table ρ} {entity row : ρ} :
    row ∈ (table.insertOrReplace entity).rows ↔
      row = table.saved entity ∨
        (row ∈ table.rows ∧ ¬ table.Conflicts entity row) := by
  simp [insertOrReplace, List.mem_append, List.mem_filter, or_comm]

theorem saved_mem_insertOrReplace (table : Table ρ) (entity : ρ) :
    table.saved entity ∈ (table.insertOrReplace entity).rows :=
  mem_insertOrReplace_iff.mpr (Or.inl rfl)

theorem forall_insertOrReplace {holds : ρ → Prop} {table : Table ρ}
    {entity : ρ} (rows : ∀ row ∈ table.rows, holds row)
    (new : holds (table.saved entity)) :
    ∀ row ∈ (table.insertOrReplace entity).rows, holds row := by
  intro row member
  rcases mem_insertOrReplace_iff.mp member with last | ⟨old, _⟩
  · subst row
    exact new
  · exact rows row old

theorem find?_eq_some_iff {table : Table ρ} {key : κ} {row : ρ} :
    table.find? key = some row ↔
      row ∈ table.rows ∧ Keyed.unique row = key := by
  constructor
  · intro found
    have sameKey := List.find?_some found
    exact ⟨List.mem_of_find?_eq_some found, by simpa using sameKey⟩
  · intro given
    obtain ⟨member, sameKey⟩ := given
    cases found : table.find? key with
    | none =>
        have absent := List.find?_eq_none.mp found row member
        simp [sameKey] at absent
    | some other =>
        have otherMember := List.mem_of_find?_eq_some found
        have otherKey : Keyed.unique other = key := by
          simpa using List.find?_some found
        rw [eq_of_unique otherMember member (otherKey.trans sameKey.symm)]

theorem find?_eq_none_iff {table : Table ρ} {key : κ} :
    table.find? key = none ↔
      ∀ row ∈ table.rows, Keyed.unique row ≠ key := by
  simp [find?, List.find?_eq_none]

theorem filter_unique_eq (table : Table ρ) (key : κ) :
    table.rows.filter (fun row => Keyed.unique row = key) =
      (table.find? key).toList := by
  unfold find?
  have apart := table.uniques
  generalize table.rows = rows at apart ⊢
  induction rows with
  | nil => rfl
  | cons row rows induction =>
      rw [List.map_cons, List.nodup_cons] at apart
      by_cases same : Keyed.unique row = key
      · have absent : rows.filter (fun row => Keyed.unique row = key) = [] := by
          apply List.filter_eq_nil_iff.mpr
          intro other member equal
          apply apart.1
          rw [same, ← of_decide_eq_true equal]
          exact List.mem_map_of_mem member
        simp [same, absent]
      · simpa [same] using induction apart.2

@[simp] theorem find?_insertOrReplace_self (table : Table ρ) (entity : ρ) :
    (table.insertOrReplace entity).find? (Keyed.unique entity) =
      some (table.saved entity) :=
  find?_eq_some_iff.mpr
    ⟨saved_mem_insertOrReplace table entity, unique_saved table entity⟩

/-- Frame rule: a row under another unique key stays, unless the entity
carries that row's primary key. -/
theorem find?_insertOrReplace_of_ne {table : Table ρ} {entity : ρ} {key : κ}
    (otherKey : key ≠ Keyed.unique entity)
    (otherPrimary : ∀ row, table.find? key = some row →
      Keyed.primary row ≠ some (table.assigned entity)) :
    (table.insertOrReplace entity).find? key = table.find? key := by
  cases found : table.find? key with
  | none =>
      refine find?_eq_none_iff.mpr ?_
      intro row member
      rcases mem_insertOrReplace_iff.mp member with new | ⟨old, _⟩
      · subst row
        rw [unique_saved]
        exact otherKey.symm
      · exact find?_eq_none_iff.mp found row old
  | some row =>
      obtain ⟨member, sameKey⟩ := find?_eq_some_iff.mp found
      refine find?_eq_some_iff.mpr
        ⟨mem_insertOrReplace_iff.mpr (Or.inr ⟨member, ?_⟩), sameKey⟩
      intro given
      rcases given with samePrimary | sameUnique
      · exact otherPrimary row found samePrimary
      · exact otherKey (sameKey.symm.trans sameUnique)

theorem find?_insertOrReplace_new {table : Table ρ} {entity : ρ} {key : κ}
    (new : Keyed.primary entity = none)
    (otherKey : key ≠ Keyed.unique entity) :
    (table.insertOrReplace entity).find? key = table.find? key :=
  find?_insertOrReplace_of_ne otherKey (fun _ found =>
    primary_ne_assigned_of_new new (find?_eq_some_iff.mp found).1)

omit [DecidableEq κ] in
theorem not_conflicts_of_update {table : Table ρ} {row entity other : ρ}
    (member : row ∈ table.rows)
    (samePrimary : Keyed.primary entity = Keyed.primary row)
    (sameUnique : Keyed.unique entity = Keyed.unique row)
    (otherMember : other ∈ table.rows)
    (otherKey : Keyed.unique other ≠ Keyed.unique entity) :
    ¬ table.Conflicts entity other := by
  intro given
  rcases given with equality | equality
  · cases primary : Keyed.primary row with
    | none => exact table.stored row member primary
    | some id =>
        rw [table.assigned_of_primary (samePrimary.trans primary)] at equality
        have same : other = row :=
          eq_of_primary otherMember member (equality.trans primary.symm)
        subst other
        exact otherKey sameUnique.symm
  · exact otherKey equality

/-- Writing back a row under its own keys keeps the other rows, and adds
none. -/
theorem mem_insertOrReplace_update_iff {table : Table ρ}
    {row entity other : ρ} (member : row ∈ table.rows)
    (samePrimary : Keyed.primary entity = Keyed.primary row)
    (sameUnique : Keyed.unique entity = Keyed.unique row)
    (otherKey : Keyed.unique other ≠ Keyed.unique entity) :
    other ∈ (table.insertOrReplace entity).rows ↔ other ∈ table.rows := by
  rw [mem_insertOrReplace_iff]
  constructor
  · intro given
    rcases given with new | ⟨old, _⟩
    · subst other
      exact (otherKey (unique_saved table entity)).elim
    · exact old
  · intro old
    exact Or.inr ⟨old,
      not_conflicts_of_update member samePrimary sameUnique old otherKey⟩

theorem find?_insertOrReplace_update {table : Table ρ} {row entity : ρ}
    {key : κ} (member : row ∈ table.rows)
    (samePrimary : Keyed.primary entity = Keyed.primary row)
    (sameUnique : Keyed.unique entity = Keyed.unique row)
    (otherKey : key ≠ Keyed.unique entity) :
    (table.insertOrReplace entity).find? key = table.find? key := by
  apply find?_insertOrReplace_of_ne otherKey
  intro other found equality
  obtain ⟨otherMember, sameKey⟩ := find?_eq_some_iff.mp found
  apply not_conflicts_of_update member samePrimary sameUnique otherMember
  · rw [sameKey]
    exact otherKey
  · exact Or.inl equality

/-! ## Updating a row in place -/

/-- The rows after the row with the entity's primary key was replaced. -/
def updatedRows (table : Table ρ) (entity : ρ) : List ρ :=
  table.rows.map (fun row =>
    if Keyed.primary row = Keyed.primary entity then entity else row)

omit [DecidableEq κ] in
theorem map_primary_updatedRows (table : Table ρ) (entity : ρ) :
    (table.updatedRows entity).map Keyed.primary =
      table.rows.map Keyed.primary := by
  rw [updatedRows, List.map_map]
  apply List.map_congr_left
  intro row _
  by_cases same : Keyed.primary row = Keyed.primary entity
  · simp [same]
  · simp [same]

/-- `UPDATE` of the row with the entity's primary key.  It fails for an entity
that was never stored, and when two rows would share a unique key. -/
def update (table : Table ρ) (entity : ρ) : Option (Table ρ) :=
  if _stored : Keyed.primary entity = none then none
  else if apart : ((table.updatedRows entity).map Keyed.unique).Nodup then
    some
      { rows := table.updatedRows entity
        stored := by
          intro row member unstored
          apply table.stored_of_primary
          rw [← table.map_primary_updatedRows entity]
          exact List.mem_map.mpr ⟨row, member, unstored⟩
        primaries := by
          rw [table.map_primary_updatedRows entity]
          exact table.primaries
        uniques := apart }
  else none

omit [DecidableEq κ] in
theorem mem_updatedRows_iff {table : Table ρ} {entity other : ρ} :
    other ∈ table.updatedRows entity ↔
      (∃ row ∈ table.rows, Keyed.primary row = Keyed.primary entity ∧
          other = entity) ∨
        (other ∈ table.rows ∧ Keyed.primary other ≠ Keyed.primary entity) := by
  simp only [updatedRows, List.mem_map]
  constructor
  · intro given
    obtain ⟨row, member, rfl⟩ := given
    by_cases same : Keyed.primary row = Keyed.primary entity
    · left
      exact ⟨row, member, same, if_pos same⟩
    · right
      rw [if_neg same]
      exact ⟨member, same⟩
  · intro given
    rcases given with ⟨row, member, same, rfl⟩ | ⟨member, different⟩
    · exact ⟨row, member, if_pos same⟩
    · exact ⟨other, member, if_neg different⟩

/-- An entity that was read, and kept its keys, is updated in place, and no
other row is touched. -/
theorem exists_update {table : Table ρ} {row : ρ} (entity : ρ)
    (member : row ∈ table.rows)
    (samePrimary : Keyed.primary entity = Keyed.primary row)
    (sameUnique : Keyed.unique entity = Keyed.unique row) :
    ∃ next, table.update entity = some next ∧
      next.find? (Keyed.unique entity) = some entity ∧
      ∀ key, key ≠ Keyed.unique entity → next.find? key = table.find? key := by
  have isStored : Keyed.primary entity ≠ none := by
    rw [samePrimary]
    exact table.stored row member
  have sameKeys : (table.updatedRows entity).map Keyed.unique =
      table.rows.map Keyed.unique := by
    rw [updatedRows, List.map_map]
    apply List.map_congr_left
    intro other otherMember
    by_cases same : Keyed.primary other = Keyed.primary entity
    · have equal : other = row :=
        eq_of_primary otherMember member (same.trans samePrimary)
      subst other
      simp [same, sameUnique]
    · simp [same]
  have apart : ((table.updatedRows entity).map Keyed.unique).Nodup := by
    rw [sameKeys]
    exact table.uniques
  refine ⟨_, by rw [update, dif_neg isStored, dif_pos apart], ?_, ?_⟩
  · apply find?_eq_some_iff.mpr
    refine ⟨mem_updatedRows_iff.mpr (Or.inl ?_), rfl⟩
    exact ⟨row, member, samePrimary.symm, rfl⟩
  · intro key otherKey
    cases found : table.find? key with
    | none =>
        apply find?_eq_none_iff.mpr
        intro other inNext
        rcases mem_updatedRows_iff.mp inNext with
          ⟨_, _, _, rfl⟩ | ⟨old, _⟩
        · exact otherKey.symm
        · exact find?_eq_none_iff.mp found other old
    | some other =>
        obtain ⟨old, sameKey⟩ := find?_eq_some_iff.mp found
        apply find?_eq_some_iff.mpr
        refine ⟨mem_updatedRows_iff.mpr (Or.inr ⟨old, ?_⟩), sameKey⟩
        intro same
        have equal : other = row :=
          eq_of_primary old member (same.trans samePrimary)
        subst other
        exact otherKey (sameKey.symm.trans sameUnique.symm)

end Table

end EclairWallet
