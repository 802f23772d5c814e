import DataQuality.Engine.GroupCheck
import Mathlib.Data.List.Induction
import Mathlib.Data.List.Nodup
import Mathlib.Data.List.Perm.Basic

/-!
# The groups that a column forms

Groups are built row by row: a row joins the group of its key, or opens a new last group. This
file says what comes out in the end (`DataQuality.groupsOf_eq`): one group for each key, in the
order of first appearance, and in it all rows that carry the key, in their order. No row is lost
and none is counted twice (`DataQuality.flatMap_rowsWithKey_perm`).

The induction follows the rows **from the end**, since that is where a row is added to the groups
that the earlier ones have formed. One step is `DataQuality.addToGroups_map`.

## First rows and representatives

Aggregations in representative mode do not build the groups. They keep a list of the keys they
have seen, and they do so only if the first row has the grouping column at all; otherwise they
take every row. The last section compares what they take with the first rows of the groups
(`DataQuality.representatives_eq_firstRows_iff`): the two agree when the first row has the column
or when no key repeats, and never otherwise.
-/

namespace DataQuality

/-! ### Keys and the rows that carry them -/

/-- The **keys** that some rows carry in a column, each one once, in the order of first
appearance. -/
def keysOf (column : String) (rows : List Row) : List String :=
  (rows.map (·.key column)).eraseDups

/-- The rows that **carry a key** in a column, in their order. -/
def rowsWithKey (column key : String) (rows : List Row) : List Row :=
  rows.filter fun row => row.key column == key

/-- A key is **the displayed text of a cell**, and empty if the row has none. -/
theorem Row.key_eq (row : Row) (column : String) :
    row.key column = (row.get? column).elim "" Cell.display := by
  rw [key, cell]
  cases row.get? column <;> rfl

section Keys

variable (column : String)

theorem mem_keysOf {key : String} {rows : List Row} :
    key ∈ keysOf column rows ↔ ∃ row ∈ rows, row.key column = key := by
  rw [keysOf, List.mem_eraseDups, List.mem_map]

/-- Read from the front: the first key, and the keys of the rows that carry another one. -/
theorem keysOf_cons (row : Row) (rows : List Row) :
    keysOf column (row :: rows) =
      row.key column :: keysOf column (rows.filter fun r => r.key column != row.key column) := by
  rw [keysOf, List.map_cons, List.eraseDups_cons, List.filter_map]
  rfl

/-- Read from the end: a last row adds its key if that is new. -/
theorem keysOf_concat (rows : List Row) (row : Row) :
    keysOf column (rows ++ [row]) =
      keysOf column rows ++
        if row.key column ∈ keysOf column rows then [] else [row.key column] := by
  have hnew : ([row.key column] : List String).removeAll (rows.map (·.key column)) =
      if row.key column ∈ keysOf column rows then [] else [row.key column] := by
    rw [keysOf, List.removeAll]
    by_cases h : row.key column ∈ rows.map (·.key column)
    · rw [if_pos (List.mem_eraseDups.mpr h), List.filter_cons_of_neg (by simpa using h),
        List.filter_nil]
    · rw [if_neg (List.mem_eraseDups.not.mpr h), List.filter_cons_of_pos (by simpa using h),
        List.filter_nil]
  rw [keysOf, List.map_append, List.eraseDups_append, List.map_singleton, hnew]
  refine congrArg (keysOf column rows ++ ·) ?_
  split
  · exact List.eraseDups_nil
  · rw [List.eraseDups_cons, List.filter_nil, List.eraseDups_nil]

/-- No key is listed twice. -/
theorem nodup_keysOf (rows : List Row) : (keysOf column rows).Nodup := by
  induction rows using List.reverseRecOn with
  | nil => exact List.nodup_nil
  | append_singleton rows row ih =>
    rw [keysOf_concat]
    split
    · rwa [List.append_nil]
    · next h =>
      exact List.Nodup.append ih (List.nodup_singleton _) (List.disjoint_singleton.mpr h)

theorem rowsWithKey_concat (key : String) (rows : List Row) (row : Row) :
    rowsWithKey column key (rows ++ [row]) =
      rowsWithKey column key rows ++ if key = row.key column then [row] else [] := by
  rw [rowsWithKey, List.filter_append]
  refine congrArg (rowsWithKey column key rows ++ ·) ?_
  by_cases h : key = row.key column
  · rw [if_pos h, List.filter_cons_of_pos (by simp [h]), List.filter_nil]
  · rw [if_neg h, List.filter_cons_of_neg (by simpa using Ne.symm h), List.filter_nil]

/-- A key that is not listed is carried by no row. -/
theorem rowsWithKey_eq_nil {key : String} {rows : List Row} (h : key ∉ keysOf column rows) :
    rowsWithKey column key rows = [] := by
  rw [rowsWithKey, List.filter_eq_nil_iff]
  intro row hrow hkey
  exact h ((mem_keysOf column).mpr ⟨row, hrow, by simpa using hkey⟩)

end Keys

/-! ### The groups -/

/-- **One step.** Where every key has one group, a row joins the group of its key, or opens a new
last group. -/
theorem addToGroups_map {keys : List String} (hnodup : keys.Nodup) (rowsOf : String → List Row)
    (key : String) (row : Row) :
    addToGroups key row (keys.map fun k => ⟨k, rowsOf k⟩) =
      if key ∈ keys then keys.map fun k => ⟨k, rowsOf k ++ if k = key then [row] else []⟩
      else (keys.map fun k => ⟨k, rowsOf k⟩) ++ [⟨key, [row]⟩] := by
  induction keys with
  | nil => rfl
  | cons k keys ih =>
    obtain ⟨hk, hnodup⟩ := List.nodup_cons.mp hnodup
    rw [List.map_cons, addToGroups]
    by_cases h : k = key
    · -- the row joins this group, and no later one has the key
      subst h
      have hrest : (keys.map fun j => (⟨j, rowsOf j ++ if j = k then [row] else []⟩ : Group)) =
          keys.map fun j => ⟨j, rowsOf j⟩ := by
        refine List.map_congr_left fun j hj => ?_
        rw [if_neg (ne_of_mem_of_not_mem hj hk), List.append_nil]
      rw [if_pos rfl, if_pos List.mem_cons_self, List.map_cons, hrest, if_pos rfl]
    · -- the row is passed on to the later groups
      rw [if_neg h, ih hnodup]
      by_cases hmem : key ∈ keys
      · rw [if_pos hmem, if_pos (List.mem_cons_of_mem k hmem), List.map_cons, if_neg h,
          List.append_nil]
      · have hmem' : key ∉ k :: keys := List.not_mem_cons_of_ne_of_not_mem (Ne.symm h) hmem
        rw [if_neg hmem, if_neg hmem', List.cons_append]

section Groups

variable (column : String) (rows : List Row)

/-- **The groups of a column**: one for each key, in the order of first appearance, with all rows
that carry the key, in their order. -/
theorem groupsOf_eq :
    groupsOf column rows =
      (keysOf column rows).map fun key => ⟨key, rowsWithKey column key rows⟩ := by
  induction rows using List.reverseRecOn with
  | nil => rfl
  | append_singleton rows row ih =>
    have hstep : groupsOf column (rows ++ [row]) =
        addToGroups (row.key column) row (groupsOf column rows) := List.foldl_append
    rw [hstep, ih, addToGroups_map (nodup_keysOf column rows), keysOf_concat]
    simp only [rowsWithKey_concat]
    split
    · rw [List.append_nil]
    · next h =>
      -- the key is new: the earlier groups stay, and the last one holds this row alone
      rw [List.map_append]
      refine congrArg₂ (· ++ ·) (List.map_congr_left fun key hkey => ?_) ?_
      · rw [if_neg (ne_of_mem_of_not_mem hkey h), List.append_nil]
      · rw [List.map_singleton, if_pos rfl, rowsWithKey_eq_nil column h, List.nil_append]

/-- A row put at its key, and nowhere else, is there once. -/
theorem flatMap_ite_singleton {keys : List String} (hnodup : keys.Nodup) {key : String}
    (h : key ∈ keys) (row : Row) :
    (keys.flatMap fun k => if k = key then [row] else []) = [row] := by
  induction keys with
  | nil => exact absurd h List.not_mem_nil
  | cons k keys ih =>
    obtain ⟨hk, hnodup⟩ := List.nodup_cons.mp hnodup
    rw [List.flatMap_cons]
    rcases List.mem_cons.mp h with rfl | h
    · rw [if_pos rfl, List.flatMap_eq_nil_iff.mpr fun j hj =>
        if_neg (ne_of_mem_of_not_mem hj hk), List.append_nil]
    · rw [if_neg (ne_of_mem_of_not_mem h hk).symm, List.nil_append, ih hnodup h]

/-- **Every row is in exactly one group**: put together, the groups are the rows in another
order. -/
theorem flatMap_rowsWithKey_perm :
    ((keysOf column rows).flatMap fun key => rowsWithKey column key rows).Perm rows := by
  induction rows using List.reverseRecOn with
  | nil => exact List.Perm.nil
  | append_singleton rows row ih =>
    simp only [keysOf_concat, rowsWithKey_concat]
    split
    · next h =>
      -- the row stands at the end of its group, and is moved behind all groups
      rw [List.append_nil]
      refine (List.flatMap_append_perm _ _ _).symm.trans ?_
      rw [flatMap_ite_singleton (nodup_keysOf column rows) h]
      exact ih.append_right [row]
    · next h =>
      rw [List.flatMap_append, List.flatMap_singleton, if_pos rfl, rowsWithKey_eq_nil column h,
        List.nil_append]
      refine List.Perm.append_right [row] ?_
      rwa [List.flatMap_congr fun key hkey => by
        rw [if_neg (ne_of_mem_of_not_mem hkey h), List.append_nil]]

end Groups

/-! ### First rows and representatives -/

/-- The **first rows** of the groups that a column forms, one for each group. -/
def firstRows (column : String) (rows : List Row) : List Row :=
  (groupsOf column rows).filterMap (·.rows.head?)

section FirstRows

variable (column : String)

theorem firstRows_eq (rows : List Row) :
    firstRows column rows =
      (keysOf column rows).filterMap fun key => rows.find? fun row => row.key column == key := by
  rw [firstRows, groupsOf_eq, List.filterMap_map]
  exact congrArg (List.filterMap · _) (funext fun key => List.head?_filter)

/-- The first row, and the first rows of the groups of the rows that carry another key. -/
theorem firstRows_cons (row : Row) (rows : List Row) :
    firstRows column (row :: rows) =
      row :: firstRows column (rows.filter fun r => r.key column != row.key column) := by
  have hfirst : ((row :: rows).find? fun r => r.key column == row.key column) = some row := by
    simp
  rw [firstRows_eq, firstRows_eq, keysOf_cons, List.filterMap_cons, hfirst]
  refine congrArg (row :: ·) (List.filterMap_congr fun key hkey => ?_)
  obtain ⟨r, hr, hrkey⟩ := (mem_keysOf column).mp hkey
  have hne : key ≠ row.key column := by
    rw [← hrkey]
    simpa using (List.mem_filter.mp hr).2
  rw [List.find?_cons_of_neg (by simpa using hne.symm), List.find?_filter]
  -- a row that carries `key` is not dropped by the filter
  refine congrArg (List.find? · rows) (funext fun r => ?_)
  refine Bool.eq_iff_iff.mpr ?_
  simp only [beq_iff_eq, decide_eq_true_iff, bne_iff_ne]
  constructor
  · rintro rfl
    exact ⟨hne, rfl⟩
  · rintro ⟨-, h⟩
    exact h

/-- Taking rows with fresh keys takes the first rows of the groups that are left when the seen
keys are taken out. -/
theorem firstOfEach_eq (seen : List String) (rows : List Row) :
    firstOfEach column seen rows =
      firstRows column (rows.filter fun row => row.key column ∉ seen) := by
  induction rows generalizing seen with
  | nil => rfl
  | cons row rows ih =>
    rw [firstOfEach]
    by_cases h : row.key column ∈ seen
    · rw [if_pos h, ih, List.filter_cons_of_neg (by simpa using h)]
    · rw [if_neg h, ih, List.filter_cons_of_pos (by simpa using h), firstRows_cons,
        List.filter_filter]
      refine congrArg (row :: firstRows column ·) (List.filter_congr fun r _ => ?_)
      rw [Bool.eq_iff_iff]
      simp

theorem firstOfEach_nil_eq (rows : List Row) :
    firstOfEach column [] rows = firstRows column rows := by
  rw [firstOfEach_eq]
  simp

theorem firstOfEach_sublist (seen : List String) (rows : List Row) :
    (firstOfEach column seen rows).Sublist rows := by
  induction rows generalizing seen with
  | nil => exact List.Sublist.refl _
  | cons row rows ih =>
    rw [firstOfEach]
    split
    · exact (ih seen).cons row
    · exact (ih _).cons_cons row

/-- The first rows are some of the rows, in their order. -/
theorem firstRows_sublist (rows : List Row) : (firstRows column rows).Sublist rows := by
  rw [← firstOfEach_nil_eq]
  exact firstOfEach_sublist column [] rows

/-- **The first rows carry each key once.** -/
theorem map_key_firstRows (rows : List Row) :
    (firstRows column rows).map (·.key column) = keysOf column rows := by
  have hfound : ∀ key ∈ keysOf column rows,
      (rows.find? fun row => row.key column == key).map (·.key column) = some key := by
    intro key hkey
    obtain ⟨row, hrow, hrowkey⟩ := (mem_keysOf column).mp hkey
    rcases hfind : rows.find? fun row => row.key column == key with _ | first
    · exact absurd (List.find?_eq_none.mp hfind row hrow) (by simp [hrowkey])
    · have hfirst := List.find?_some hfind
      rw [hfind, Option.map_some, beq_iff_eq.mp hfirst]
  rw [firstRows_eq, List.map_filterMap, List.filterMap_congr hfound, List.filterMap_some]

/-- Where no key repeats, every row is a first row. -/
theorem firstRows_of_nodup {rows : List Row} (h : (rows.map (·.key column)).Nodup) :
    firstRows column rows = rows := by
  induction rows with
  | nil => rfl
  | cons row rows ih =>
    obtain ⟨hrow, hrows⟩ := List.nodup_cons.mp h
    have hall : rows.filter (fun r => r.key column != row.key column) = rows := by
      rw [List.filter_eq_self]
      intro r hr
      rw [bne_iff_ne]
      rintro heq
      exact hrow (List.mem_map.mpr ⟨r, hr, heq⟩)
    rw [firstRows_cons, hall, ih hrows]

/-- Where a key repeats, there are fewer first rows than rows. -/
theorem length_firstRows_lt {rows : List Row} (h : ¬(rows.map (·.key column)).Nodup) :
    (firstRows column rows).length < rows.length := by
  refine Nat.lt_of_le_of_ne (firstRows_sublist column rows).length_le fun hlength => h ?_
  have hall := (firstRows_sublist column rows).eq_of_length hlength
  have hkeys := map_key_firstRows column rows
  rw [hall] at hkeys
  rw [hkeys]
  exact nodup_keysOf column rows

/-- Whether the representatives of some rows are **one for each group**: the first row has the
grouping column, or no key repeats. -/
def OneForEach (rows : List Row) : Prop :=
  (∀ first ∈ rows.head?, first.contains column = true) ∨ (rows.map (·.key column)).Nodup

variable {column}

theorem representatives_of_oneForEach {rows : List Row} (h : OneForEach column rows) :
    representatives column rows = firstRows column rows := by
  cases rows with
  | nil => rfl
  | cons first rows =>
    rw [representatives]
    split
    · exact firstOfEach_nil_eq column _
    · next hfirst =>
      rcases h with hhead | hnodup
      · exact absurd (hhead first rfl) hfirst
      · exact (firstRows_of_nodup column hnodup).symm

/-- Otherwise every row represents itself, and some group has several representatives. -/
theorem representatives_of_not_oneForEach {rows : List Row} (h : ¬OneForEach column rows) :
    representatives column rows = rows ∧ (firstRows column rows).length < rows.length := by
  obtain ⟨hhead, hnodup⟩ := not_or.mp h
  refine ⟨?_, length_firstRows_lt column hnodup⟩
  cases rows with
  | nil => rfl
  | cons first rows =>
    rw [representatives, if_neg]
    intro hfirst
    exact hhead fun row hrow => by rwa [← Option.some.inj hrow]

/-- **Representatives are the first rows of the groups under one condition, and only then.** -/
theorem representatives_eq_firstRows_iff (rows : List Row) :
    representatives column rows = firstRows column rows ↔ OneForEach column rows := by
  refine ⟨fun heq => by_contra fun h => ?_, representatives_of_oneForEach⟩
  obtain ⟨hall, hlt⟩ := representatives_of_not_oneForEach h
  rw [← heq, hall] at hlt
  exact Nat.lt_irrefl _ hlt

end FirstRows

end DataQuality
