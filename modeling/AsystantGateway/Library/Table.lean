import AsystantGateway.Library.Lookup
import Mathlib.Algebra.BigOperators.Group.List.Basic
import Mathlib.Algebra.Order.BigOperators.Group.List
import Mathlib.Data.List.Nodup
import Mathlib.Algebra.Order.Ring.Int

/-!
# Tables with a primary key

A table is a list of rows together with the fact that no two rows share a key,
so a table that breaks its primary key cannot be built. The operations are the
four statements a repository issues: find by key, insert, insert unless
present, and update one row. Each has one lemma saying what a later find
returns, and insertion and update say what they do to a sum over the rows.
-/

namespace AsystantGateway

/-- Rows with a primary key. -/
@[ext] structure Table {ρ : Type u} {κ : Type v} (key : ρ → κ) where
  /-- The rows, newest first. -/
  rows : List ρ
  /-- The primary key is unique. -/
  nodup : (rows.map key).Nodup

namespace Table

variable {ρ : Type u} {κ : Type v} {key : ρ → κ}

/-- The table without rows. -/
def empty : Table key := ⟨[], List.nodup_nil⟩

/-- The sum of a weight over all rows. -/
def total (table : Table key) (weight : ρ → Int) : Int :=
  (table.rows.map weight).sum

@[simp] theorem rows_empty : (empty : Table key).rows = [] := rfl

@[simp] theorem total_empty (weight : ρ → Int) :
    (empty : Table key).total weight = 0 := rfl

theorem total_nonneg
    {table : Table key}
    {weight : ρ → Int}
    (nonnegative : ∀ row ∈ table.rows, 0 ≤ weight row) :
    0 ≤ table.total weight := by
  apply List.sum_nonneg
  simpa using nonnegative

/-- A sum with no row of nonzero weight vanishes. -/
theorem total_eq_zero
    {table : Table key}
    {weight : ρ → Int}
    (weightless : ∀ row ∈ table.rows, weight row = 0) :
    table.total weight = 0 := by
  apply List.sum_eq_zero
  simpa using weightless

/-- Sums of weights that agree on every row agree. -/
theorem total_congr
    {table : Table key}
    {weight other : ρ → Int}
    (same : ∀ row ∈ table.rows, weight row = other row) :
    table.total weight = table.total other :=
  congrArg List.sum (List.map_congr_left same)

/-- One row weighs at most the sum when no row has negative weight. -/
theorem le_total
    {table : Table key}
    {weight : ρ → Int}
    (nonnegative : ∀ row ∈ table.rows, 0 ≤ weight row)
    {row : ρ}
    (member : row ∈ table.rows) :
    weight row ≤ table.total weight := by
  apply List.single_le_sum
  · simpa using nonnegative
  · exact List.mem_map_of_mem member

/-- The table with the rows that satisfy a test. -/
def retain (table : Table key) (keep : ρ → Bool) : Table key where
  rows := table.rows.filter keep
  nodup := table.nodup.sublist (List.filter_sublist.map key)

theorem mem_rows_retain
    {table : Table key}
    {keep : ρ → Bool}
    {row : ρ} :
    row ∈ (table.retain keep).rows ↔ row ∈ table.rows ∧ keep row = true :=
  List.mem_filter

theorem sublist_retain
    (table : Table key)
    (keep : ρ → Bool) :
    (table.retain keep).rows.Sublist table.rows :=
  List.filter_sublist

variable [DecidableEq κ]

/-- The row with a given key. -/
def find (table : Table key) (wanted : κ) : Option ρ :=
  table.rows.find? fun row => key row = wanted

/-- Insert a row, refusing a key that is taken. -/
def insert (table : Table key) (row : ρ) : Option (Table key) :=
  if fresh : key row ∉ table.rows.map key then
    some ⟨row :: table.rows, by
      simpa using List.nodup_cons.mpr ⟨fresh, table.nodup⟩⟩
  else
    none

/-- Insert a row, doing nothing when its key is taken. -/
def insertOrIgnore (table : Table key) (row : ρ) : Table key :=
  (table.insert row).getD table

/-- The table without the row of a given key. -/
def remove (table : Table key) (wanted : κ) : Table key :=
  table.retain fun row => key row ≠ wanted

/-- Insert a row, replacing the one that has its key. -/
def put (table : Table key) (row : ρ) : Table key where
  rows := row :: (table.remove (key row)).rows
  nodup := by
    rw [List.map_cons, List.nodup_cons]
    refine ⟨?_, (table.remove (key row)).nodup⟩
    simp [remove, retain]

/-- Change the row with a given key, if there is one. -/
def update
    (table : Table key)
    (wanted : κ)
    (change : ρ → ρ)
    (keeps : ∀ row, key (change row) = key row) : Table key where
  rows := table.rows.map fun row =>
    if key row = wanted then change row else row
  nodup := by
    have same : (key ∘ fun row =>
        if key row = wanted then change row else row) = key := by
      funext row
      by_cases match_ : key row = wanted <;> simp [match_, keeps]
    rw [List.map_map, same]
    exact table.nodup

@[simp] theorem find_empty (wanted : κ) :
    (empty : Table key).find wanted = none := rfl

/-! ## What the operations do to the rows -/

/-- A find returns exactly the row with the wanted key. -/
theorem find_eq_some_iff
    {table : Table key}
    {wanted : κ}
    {row : ρ} :
    table.find wanted = some row ↔ row ∈ table.rows ∧ key row = wanted :=
  KeyedList.lookup_eq_some_iff table.nodup

theorem find_eq_none_iff
    {table : Table key}
    {wanted : κ} :
    table.find wanted = none ↔ wanted ∉ table.rows.map key := by
  simp [find, List.find?_eq_none]

/-- A row is in the table exactly when its key finds it. -/
theorem mem_rows_iff
    {table : Table key}
    {row : ρ} :
    row ∈ table.rows ↔ table.find (key row) = some row := by
  simp [find_eq_some_iff]

theorem mem_of_find
    {table : Table key}
    {wanted : κ}
    {row : ρ}
    (found : table.find wanted = some row) :
    row ∈ table.rows :=
  (find_eq_some_iff.mp found).1

theorem key_of_find
    {table : Table key}
    {wanted : κ}
    {row : ρ}
    (found : table.find wanted = some row) :
    key row = wanted :=
  (find_eq_some_iff.mp found).2

/-- A retained row is found as before, and no other. -/
theorem find_retain
    (table : Table key)
    (keep : ρ → Bool)
    (wanted : κ) :
    (table.retain keep).find wanted = (table.find wanted).filter keep := by
  apply Option.ext
  intro row
  rw [find_eq_some_iff, mem_rows_retain, Option.filter_eq_some_iff,
    find_eq_some_iff]
  exact and_right_comm

/-- An insertion succeeds exactly on a free key, and adds the row. -/
theorem insert_eq_some_iff
    {table after : Table key}
    {row : ρ} :
    table.insert row = some after ↔
      table.find (key row) = none ∧ after.rows = row :: table.rows := by
  rw [find_eq_none_iff]
  unfold insert
  split
  case isTrue fresh =>
    simp only [Option.some.injEq, Table.ext_iff]
    exact ⟨fun equal => ⟨fresh, equal.symm⟩, fun both => both.2.symm⟩
  case isFalse taken =>
    simp only [reduceCtorEq, false_iff, not_and]
    exact fun fresh => absurd fresh taken

theorem insert_eq_none_iff
    {table : Table key}
    {row : ρ} :
    table.insert row = none ↔ table.find (key row) ≠ none := by
  rw [Ne, find_eq_none_iff]
  unfold insert
  split <;> simp_all

theorem find_insert
    {table after : Table key}
    {row : ρ}
    (inserted : table.insert row = some after)
    (wanted : κ) :
    after.find wanted =
      if key row = wanted then some row else table.find wanted := by
  obtain ⟨-, rows⟩ := insert_eq_some_iff.mp inserted
  unfold find
  rw [rows, List.find?_cons]
  by_cases match_ : key row = wanted <;> simp [match_]

theorem mem_rows_insert
    {table after : Table key}
    {row other : ρ}
    (inserted : table.insert row = some after) :
    other ∈ after.rows ↔ other = row ∨ other ∈ table.rows := by
  rw [(insert_eq_some_iff.mp inserted).2, List.mem_cons]

/-- What holds of the inserted row and of every other row holds of all. -/
theorem forall_rows_insert
    {table after : Table key}
    {row : ρ}
    {holds : ρ → Prop}
    (inserted : table.insert row = some after)
    (ofRow : holds row)
    (ofOthers : ∀ other ∈ table.rows, holds other) :
    ∀ other ∈ after.rows, holds other := by
  intro other member
  rcases (mem_rows_insert inserted).mp member with rfl | prior
  · exact ofRow
  · exact ofOthers other prior

/-- Inserting an absent row succeeds. -/
theorem exists_insert
    {table : Table key}
    (row : ρ)
    (absent : table.find (key row) = none) :
    ∃ after, table.insert row = some after := by
  cases inserted : table.insert row with
  | none => exact absurd absent (insert_eq_none_iff.mp inserted)
  | some after => exact ⟨after, rfl⟩

theorem insertOrIgnore_of_present
    {table : Table key}
    {row : ρ}
    (present : table.find (key row) ≠ none) :
    table.insertOrIgnore row = table := by
  unfold insertOrIgnore
  rw [insert_eq_none_iff.mpr present]
  rfl

theorem length_insertOrIgnore
    {table : Table key}
    {row : ρ}
    (absent : table.find (key row) = none) :
    (table.insertOrIgnore row).rows.length = table.rows.length + 1 := by
  obtain ⟨after, inserted⟩ := exists_insert row absent
  unfold insertOrIgnore
  rw [inserted, Option.getD_some, (insert_eq_some_iff.mp inserted).2,
    List.length_cons]

theorem find_insertOrIgnore
    (table : Table key)
    (row : ρ)
    (wanted : κ) :
    (table.insertOrIgnore row).find wanted =
      if key row = wanted then some ((table.find wanted).getD row)
      else table.find wanted := by
  unfold insertOrIgnore
  cases inserted : table.insert row with
  | none =>
      have present := insert_eq_none_iff.mp inserted
      split
      case isTrue equal =>
        obtain ⟨held, found⟩ := Option.ne_none_iff_exists'.mp present
        simp [← equal, found]
      case isFalse => rfl
  | some after =>
      obtain ⟨absent, -⟩ := insert_eq_some_iff.mp inserted
      rw [Option.getD_some, find_insert inserted]
      split
      case isTrue equal => simp [← equal, absent]
      case isFalse => rfl

theorem mem_rows_remove
    {table : Table key}
    {wanted : κ}
    {row : ρ} :
    row ∈ (table.remove wanted).rows ↔
      row ∈ table.rows ∧ key row ≠ wanted := by
  rw [remove, mem_rows_retain, decide_eq_true_iff]

theorem sublist_remove
    (table : Table key)
    (wanted : κ) :
    (table.remove wanted).rows.Sublist table.rows :=
  table.sublist_retain _

theorem mem_rows_put
    {table : Table key}
    {row other : ρ} :
    other ∈ (table.put row).rows ↔
      other = row ∨ other ∈ table.rows ∧ key other ≠ key row := by
  rw [put, List.mem_cons, mem_rows_remove]

theorem length_put_le
    (table : Table key)
    (row : ρ) :
    (table.put row).rows.length ≤ table.rows.length + 1 := by
  rw [put, List.length_cons]
  exact Nat.succ_le_succ (table.sublist_remove (key row)).length_le

@[simp] theorem find_update
    (table : Table key)
    (wanted other : κ)
    (change : ρ → ρ)
    (keeps : ∀ row, key (change row) = key row) :
    (table.update wanted change keeps).find other =
      if other = wanted then (table.find other).map change
      else table.find other := by
  unfold find
  change (table.rows.map fun row =>
      if key row = wanted then change row else row).find? _ = _
  induction table.rows with
  | nil => simp
  | cons head tail inductionHypothesis =>
      simp only [List.map_cons, List.find?_cons]
      by_cases atHead : key head = wanted
      · by_cases isOther : other = wanted
        · simp [atHead, keeps, isOther]
        · have headOther : ¬ wanted = other := fun equal => isOther equal.symm
          simpa [atHead, keeps, isOther, headOther] using inductionHypothesis
      · by_cases headOther : key head = other
        · have isOther : ¬ other = wanted := fun equal =>
            atHead (headOther.trans equal)
          simp [headOther, isOther]
        · simpa [atHead, headOther] using inductionHypothesis

theorem length_update
    (table : Table key)
    (wanted : κ)
    (change : ρ → ρ)
    (keeps : ∀ row, key (change row) = key row) :
    (table.update wanted change keeps).rows.length = table.rows.length :=
  List.length_map _

theorem mem_rows_update
    {table : Table key}
    {wanted : κ}
    {change : ρ → ρ}
    {keeps : ∀ row, key (change row) = key row}
    {row : ρ} :
    row ∈ (table.update wanted change keeps).rows ↔
      ∃ prior ∈ table.rows,
        row = if key prior = wanted then change prior else prior := by
  simp [update, eq_comm]

/-- What a change keeps holds of all rows after an update. -/
theorem forall_rows_update
    {table : Table key}
    {wanted : κ}
    (change : ρ → ρ)
    (keeps : ∀ row, key (change row) = key row)
    {holds : ρ → Prop}
    (kept : ∀ row, holds row → holds (change row))
    (ofRows : ∀ row ∈ table.rows, holds row) :
    ∀ row ∈ (table.update wanted change keeps).rows, holds row := by
  intro row member
  obtain ⟨prior, present, rfl⟩ := mem_rows_update.mp member
  split
  · exact kept prior (ofRows prior present)
  · exact ofRows prior present

/-! ## Sums and views of the rows -/

theorem total_insert
    {table after : Table key}
    {row : ρ}
    (inserted : table.insert row = some after)
    (weight : ρ → Int) :
    after.total weight = weight row + table.total weight := by
  unfold total
  rw [(insert_eq_some_iff.mp inserted).2, List.map_cons, List.sum_cons]

private theorem sum_update
    {rows : List ρ}
    (nodup : (rows.map key).Nodup)
    {row : ρ}
    (member : row ∈ rows)
    (change : ρ → ρ)
    (weight : ρ → Int) :
    ((rows.map fun other =>
        if key other = key row then change other else other).map weight).sum =
      (rows.map weight).sum - weight row + weight (change row) := by
  induction rows with
  | nil => simp at member
  | cons head tail inductionHypothesis =>
      obtain ⟨headFresh, tailNodup⟩ := List.nodup_cons.mp nodup
      rcases List.mem_cons.mp member with rfl | inTail
      · have unchanged : (tail.map fun other =>
            if key other = key row then change other else other) = tail := by
          refine (List.map_congr_left fun other present => ?_).trans
            (List.map_id tail)
          have different : key other ≠ key row := by
            intro equal
            exact headFresh (equal ▸ List.mem_map_of_mem present)
          simp [different]
        simp only [List.map_cons, if_true, unchanged, List.sum_cons]
        omega
      · have different : key head ≠ key row := by
          intro equal
          exact headFresh (equal ▸ List.mem_map_of_mem inTail)
        simp only [List.map_cons, different, if_false, List.sum_cons,
          inductionHypothesis tailNodup inTail]
        omega

/-- An update moves a sum by the difference it makes to the one row. -/
theorem total_update
    {table : Table key}
    {wanted : κ}
    {row : ρ}
    (found : table.find wanted = some row)
    (change : ρ → ρ)
    (keeps : ∀ row, key (change row) = key row)
    (weight : ρ → Int) :
    (table.update wanted change keeps).total weight =
      table.total weight - weight row + weight (change row) := by
  obtain ⟨member, rfl⟩ := find_eq_some_iff.mp found
  exact sum_update table.nodup member change weight

private theorem sum_others
    {rows : List ρ}
    (nodup : (rows.map key).Nodup)
    {row : ρ}
    (member : row ∈ rows)
    (weight : ρ → Int) :
    (rows.map weight).sum = weight row +
      (rows.map fun other =>
        if key other = key row then 0 else weight other).sum := by
  induction rows with
  | nil => simp at member
  | cons head tail inductionHypothesis =>
      obtain ⟨headFresh, tailNodup⟩ := List.nodup_cons.mp nodup
      rcases List.mem_cons.mp member with rfl | inTail
      · have others : (tail.map fun other =>
            if key other = key row then 0 else weight other) =
              tail.map weight := by
          apply List.map_congr_left
          intro other present
          have different : key other ≠ key row := by
            intro equal
            exact headFresh (equal ▸ List.mem_map_of_mem present)
          exact if_neg different
        simp [others]
      · have different : key head ≠ key row := by
          intro equal
          exact headFresh (equal ▸ List.mem_map_of_mem inTail)
        simp only [List.map_cons, List.sum_cons, different, if_false,
          inductionHypothesis tailNodup inTail]
        omega

/-- A sum is the weight of one row and the sum over the others. -/
theorem total_eq_add_others
    {table : Table key}
    {wanted : κ}
    {row : ρ}
    (found : table.find wanted = some row)
    (weight : ρ → Int) :
    table.total weight = weight row +
      table.total fun other =>
        if key other = wanted then 0 else weight other := by
  obtain ⟨member, rfl⟩ := find_eq_some_iff.mp found
  exact sum_others table.nodup member weight

section View

variable {ρ' : Type*} {key' : ρ' → κ} {view : ρ → ρ'}

/-- The table whose rows are seen through a map that keeps their keys. -/
def mapRows
    (table : Table key)
    (view : ρ → ρ')
    (keeps : ∀ row, key' (view row) = key row) : Table key' where
  rows := table.rows.map view
  nodup := by
    have sameKeys : key' ∘ view = key := funext keeps
    rw [List.map_map, sameKeys]
    exact table.nodup

theorem find_mapRows
    (table : Table key)
    (keeps : ∀ row, key' (view row) = key row)
    (wanted : κ) :
    (table.mapRows view keeps).find wanted = (table.find wanted).map view := by
  have sameTest : (fun row' => decide (key' row' = wanted)) ∘ view =
      fun row => decide (key row = wanted) := by
    funext row
    simp [keeps]
  unfold find mapRows
  rw [List.find?_map, sameTest]

/-- An insertion is seen as the insertion of what is seen of the row. -/
theorem insert_mapRows
    (table : Table key)
    (keeps : ∀ row, key' (view row) = key row)
    (row : ρ) :
    (table.mapRows view keeps).insert (view row) =
      (table.insert row).map fun after => after.mapRows view keeps := by
  cases inserted : table.insert row with
  | none =>
      rw [Option.map_none, insert_eq_none_iff, keeps, find_mapRows]
      have taken := insert_eq_none_iff.mp inserted
      simpa using taken
  | some after =>
      obtain ⟨absent, rows⟩ := insert_eq_some_iff.mp inserted
      rw [Option.map_some, insert_eq_some_iff, keeps, find_mapRows, absent]
      exact ⟨rfl, congrArg (List.map view) rows⟩

/-- A change of a row is seen as a change of what is seen of it. -/
theorem update_mapRows
    (table : Table key)
    (keeps : ∀ row, key' (view row) = key row)
    (wanted : κ)
    {change : ρ → ρ}
    {change' : ρ' → ρ'}
    (changeKeeps : ∀ row, key (change row) = key row)
    (changeKeeps' : ∀ row, key' (change' row) = key' row)
    (same : ∀ row ∈ table.rows, key row = wanted →
      view (change row) = change' (view row)) :
    (table.update wanted change changeKeeps).mapRows view keeps =
      (table.mapRows view keeps).update wanted change' changeKeeps' := by
  apply Table.ext
  unfold update mapRows
  dsimp only
  rw [List.map_map, List.map_map]
  apply List.map_congr_left
  intro row member
  simp only [Function.comp_apply, keeps]
  split
  case isTrue isWanted => exact same row member isWanted
  case isFalse => rfl

omit [DecidableEq κ] in
theorem total_mapRows
    (table : Table key)
    (keeps : ∀ row, key' (view row) = key row)
    (weight : ρ' → Int) :
    (table.mapRows view keeps).total weight =
      table.total fun row => weight (view row) := by
  unfold total mapRows
  rw [List.map_map]
  rfl

end View

/-! ## Tables that agree on some keys -/

/-- Two tables that find the same under every key of a kind. -/
def AgreeOn (own : κ → Prop) (first second : Table key) : Prop :=
  ∀ wanted, own wanted → first.find wanted = second.find wanted

namespace AgreeOn

variable {own : κ → Prop} {first second after : Table key}

theorem refl (table : Table key) : AgreeOn own table table :=
  fun _ _ => rfl

/-- An insertion under an agreed key fails in both or extends both. -/
theorem insert
    (agree : AgreeOn own first second)
    (row : ρ)
    (owned : own (key row)) :
    (first.insert row = none ∧ second.insert row = none) ∨
      ∃ firstAfter secondAfter, first.insert row = some firstAfter ∧
        second.insert row = some secondAfter ∧
          AgreeOn own firstAfter secondAfter := by
  cases found : first.find (key row) with
  | some held =>
      have secondFound := agree (key row) owned
      rw [found] at secondFound
      exact .inl ⟨insert_eq_none_iff.mpr (by simp [found]),
        insert_eq_none_iff.mpr (by simp [← secondFound])⟩
  | none =>
      have secondFound := agree (key row) owned
      rw [found] at secondFound
      obtain ⟨firstAfter, inserted⟩ := exists_insert row found
      obtain ⟨secondAfter, alsoInserted⟩ :=
        exists_insert row secondFound.symm
      refine .inr ⟨firstAfter, secondAfter, inserted, alsoInserted, ?_⟩
      intro wanted ownWanted
      rw [find_insert inserted, find_insert alsoInserted,
        agree wanted ownWanted]

/-- An insertion under another key is not noticed. -/
theorem insert_left
    (agree : AgreeOn own first second)
    {row : ρ}
    (foreign : ¬ own (key row))
    (inserted : first.insert row = some after) :
    AgreeOn own after second := by
  intro wanted ownWanted
  have different : key row ≠ wanted := fun equal =>
    foreign (equal ▸ ownWanted)
  rw [find_insert inserted, if_neg different, agree wanted ownWanted]

theorem insertOrIgnore
    (agree : AgreeOn own first second)
    (row : ρ) :
    AgreeOn own (first.insertOrIgnore row) (second.insertOrIgnore row) := by
  intro wanted ownWanted
  rw [find_insertOrIgnore, find_insertOrIgnore, agree wanted ownWanted]

theorem insertOrIgnore_left
    (agree : AgreeOn own first second)
    {row : ρ}
    (foreign : ¬ own (key row)) :
    AgreeOn own (first.insertOrIgnore row) second := by
  intro wanted ownWanted
  have different : key row ≠ wanted := fun equal =>
    foreign (equal ▸ ownWanted)
  rw [find_insertOrIgnore, if_neg different, agree wanted ownWanted]

theorem update
    (agree : AgreeOn own first second)
    (wanted : κ)
    (change : ρ → ρ)
    (keeps : ∀ row, key (change row) = key row) :
    AgreeOn own (first.update wanted change keeps)
      (second.update wanted change keeps) := by
  intro other ownOther
  rw [find_update, find_update, agree other ownOther]

theorem update_left
    (agree : AgreeOn own first second)
    {wanted : κ}
    (foreign : ¬ own wanted)
    (change : ρ → ρ)
    (keeps : ∀ row, key (change row) = key row) :
    AgreeOn own (first.update wanted change keeps) second := by
  intro other ownOther
  have different : other ≠ wanted := fun equal => foreign (equal ▸ ownOther)
  rw [find_update, if_neg different, agree other ownOther]

end AgreeOn

end Table

end AsystantGateway
