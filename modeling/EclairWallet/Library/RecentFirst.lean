import Mathlib.Data.List.Nodup

/-!
# Stores ordered by the last modification

A store of values under keys.  Writing a value puts its key first, so that the
first of the values with a property is the one that was written last.
-/

namespace EclairWallet

universe u v

/-- Values under distinct keys, the last written one first. -/
structure RecentFirst (κ : Type u) (α : Type v) where
  entries : List (κ × α)
  distinct : (entries.map Prod.fst).Nodup

namespace RecentFirst

variable {κ : Type u} {α : Type v}

def empty : RecentFirst κ α :=
  { entries := [], distinct := List.nodup_nil }

/-- The entries whose value has the property, the last written one first. -/
def query (store : RecentFirst κ α) (holds : α → Bool) : List (κ × α) :=
  store.entries.filter (fun entry => holds entry.2)

def newest (store : RecentFirst κ α) (holds : α → Bool) : Option (κ × α) :=
  (store.query holds).head?

theorem mem_query_iff {store : RecentFirst κ α} {holds : α → Bool}
    {entry : κ × α} :
    entry ∈ store.query holds ↔
      entry ∈ store.entries ∧ holds entry.2 = true := by
  simp [query]

theorem mem_query_of_newest {store : RecentFirst κ α} {holds : α → Bool}
    {entry : κ × α} (first : store.newest holds = some entry) :
    entry ∈ store.query holds :=
  List.mem_of_head? first

theorem eq_of_mem {store : RecentFirst κ α} {key : κ} {left right : α}
    (leftMember : (key, left) ∈ store.entries)
    (rightMember : (key, right) ∈ store.entries) : left = right := by
  have same : (key, left) = (key, right) :=
    List.inj_on_of_nodup_map store.distinct leftMember rightMember rfl
  exact (Prod.mk.inj same).2

/-- The values with the property are all under one key. -/
def Single (store : RecentFirst κ α) (holds : α → Bool) : Prop :=
  ∀ left ∈ store.query holds, ∀ right ∈ store.query holds,
    left.1 = right.1

theorem Single.length_le {store : RecentFirst κ α} {holds : α → Bool}
    (single : store.Single holds) : (store.query holds).length ≤ 1 := by
  have apart : ((store.query holds).map Prod.fst).Nodup :=
    store.distinct.sublist (List.filter_sublist.map _)
  cases found : store.query holds with
  | nil => simp
  | cons first rest =>
      cases rest with
      | nil => simp
      | cons second rest =>
          have same : first.1 = second.1 :=
            single first (by simp [found]) second (by simp [found])
          simp [found, same] at apart

variable [DecidableEq κ]

def get? (store : RecentFirst κ α) (key : κ) : Option α :=
  (store.entries.find? (fun entry => entry.1 = key)).map Prod.snd

/-- Write the value under the key, whether or not it had one. -/
def put (store : RecentFirst κ α) (key : κ) (value : α) :
    RecentFirst κ α where
  entries :=
    (key, value) :: store.entries.filter (fun entry => entry.1 ≠ key)
  distinct := by
    rw [List.map_cons, List.nodup_cons]
    refine ⟨?_, store.distinct.sublist (List.filter_sublist.map _)⟩
    intro member
    obtain ⟨entry, kept, same⟩ := List.mem_map.mp member
    simp [same] at kept

theorem get?_eq_some_iff {store : RecentFirst κ α} {key : κ} {value : α} :
    store.get? key = some value ↔ (key, value) ∈ store.entries := by
  constructor
  · intro found
    obtain ⟨entry, first, rfl⟩ := Option.map_eq_some_iff.mp found
    have member := List.mem_of_find?_eq_some first
    have same : entry.1 = key := by simpa using List.find?_some first
    subst key
    exact member
  · intro member
    cases found : store.get? key with
    | none =>
        have absent : ∀ entry ∈ store.entries, entry.1 ≠ key := by
          simpa [get?] using found
        exact (absent (key, value) member rfl).elim
    | some other =>
        obtain ⟨entry, first, rfl⟩ := Option.map_eq_some_iff.mp found
        have otherMember := List.mem_of_find?_eq_some first
        have same : entry.1 = key := by simpa using List.find?_some first
        subst key
        rw [eq_of_mem otherMember member]

theorem mem_put_iff {store : RecentFirst κ α} {key : κ} {value : α}
    {entry : κ × α} :
    entry ∈ (store.put key value).entries ↔
      entry = (key, value) ∨ entry ∈ store.entries ∧ entry.1 ≠ key := by
  simp [put]

theorem forall_put {property : κ × α → Prop} {store : RecentFirst κ α}
    {key : κ} {value : α} (old : ∀ entry ∈ store.entries, property entry)
    (new : property (key, value)) :
    ∀ entry ∈ (store.put key value).entries, property entry := by
  intro entry member
  rcases mem_put_iff.mp member with written | ⟨kept, _⟩
  · subst entry
    exact new
  · exact old entry kept

/-- A value that was just written is the newest with its properties. -/
@[simp] theorem newest_put (store : RecentFirst κ α) (key : κ) {value : α}
    {holds : α → Bool} (has : holds value = true) :
    (store.put key value).newest holds = some (key, value) := by
  simp [newest, query, put, has]

theorem get?_put (store : RecentFirst κ α) (key other : κ) (value : α) :
    (store.put key value).get? other =
      if other = key then some value else store.get? other := by
  split
  next same =>
    apply get?_eq_some_iff.mpr
    exact mem_put_iff.mpr (.inl (by rw [same]))
  next different =>
    apply Option.ext
    intro found
    rw [get?_eq_some_iff, get?_eq_some_iff, mem_put_iff]
    simp [different]

/-- Rewriting the value of a key keeps the property under one key. -/
theorem Single.put {store : RecentFirst κ α} {holds : α → Bool}
    (single : store.Single holds) {key : κ} {before : α}
    (found : store.get? key = some before)
    {value : α} (same : holds value = holds before) :
    (store.put key value).Single holds := by
  have back : ∀ entry ∈ (store.put key value).query holds,
      ∃ old ∈ store.query holds, old.1 = entry.1 := by
    intro entry member
    obtain ⟨stored, has⟩ := mem_query_iff.mp member
    rcases mem_put_iff.mp stored with written | ⟨kept, _⟩
    · subst entry
      refine ⟨(key, before), mem_query_iff.mpr ⟨?_, ?_⟩, rfl⟩
      · exact get?_eq_some_iff.mp found
      · rw [← same]
        exact has
    · exact ⟨entry, mem_query_iff.mpr ⟨kept, has⟩, rfl⟩
  intro left leftMember right rightMember
  obtain ⟨oldLeft, oldLeftMember, leftKey⟩ := back left leftMember
  obtain ⟨oldRight, oldRightMember, rightKey⟩ := back right rightMember
  rw [← leftKey, ← rightKey]
  exact single oldLeft oldLeftMember oldRight oldRightMember

theorem Single.put_first {store : RecentFirst κ α} {holds : α → Bool}
    (none : store.query holds = []) (key : κ) (value : α) :
    (store.put key value).Single holds := by
  have only : ∀ entry ∈ (store.put key value).query holds,
      entry.1 = key := by
    intro entry member
    obtain ⟨stored, has⟩ := mem_query_iff.mp member
    rcases mem_put_iff.mp stored with written | ⟨kept, _⟩
    · rw [written]
    · have found : entry ∈ store.query holds :=
        mem_query_iff.mpr ⟨kept, has⟩
      simp [none] at found
  intro left leftMember right rightMember
  rw [only left leftMember, only right rightMember]

end RecentFirst

end EclairWallet
