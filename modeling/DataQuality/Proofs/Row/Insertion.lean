import DataQuality.Proofs.Dataset.Columns
import DataQuality.Source.Document

/-!
# The row that a run of writes makes

A row comes about by writing one field after another: a name that the row has is written where it
stands, and any other name at the end. So the row is an ordered map, and this file tells it from the
writes alone (`DataQuality.Row.keepsWrites`), in whatever way they were made.

What a run of writes leaves behind is `DataQuality.Row.IsMadeBy`: the names in the order in which
they were first written, each with the cell that was written last. The names are collected like any
distinct elements (`DataQuality.Row.names_ofFields`), and the cells follow the writes **from the
end**, since that is where the last one stands (`DataQuality.isLastWrite_concat`). Nothing else is
in a row: names and cells together determine it (`DataQuality.Row.eq_of_names_of_get?`), so a row is
made by its own fields.
-/

namespace DataQuality

/-! ### One write -/

theorem writeField_of_notMem {name : String} {fields : List Field} (cell : Cell)
    (h : name ∉ fieldNames fields) : writeField name cell fields = fields ++ [(name, cell)] := by
  induction fields with
  | nil => rfl
  | cons f fields ih =>
    obtain ⟨n, c⟩ := f
    rw [fieldNames, List.map_cons, List.mem_cons, not_or] at h
    rw [writeField, if_neg (Ne.symm h.1), ih h.2]
    rfl

/-- A name that is there is written **where it stands**. -/
theorem writeField_of_mem {name : String} {fields : List Field} (cell : Cell)
    (hnodup : (fieldNames fields).Nodup) (h : name ∈ fieldNames fields) :
    writeField name cell fields = fields.map fun f => if f.1 = name then (name, cell) else f := by
  induction fields with
  | nil => exact absurd h List.not_mem_nil
  | cons f fields ih =>
    obtain ⟨n, c⟩ := f
    obtain ⟨hn, hnodup⟩ := List.nodup_cons.mp hnodup
    rw [writeField, List.map_cons]
    by_cases heq : n = name
    · -- the other fields have other names
      subst heq
      have hrest : (fields.map fun f => if f.1 = n then (n, cell) else f) = fields := by
        refine (List.map_congr_left fun f hf => ?_).trans (List.map_id fields)
        have hne : f.1 ≠ n := ne_of_mem_of_not_mem (List.mem_map_of_mem hf) hn
        rw [if_neg hne]
        rfl
      rw [if_pos rfl, if_pos rfl, hrest]
    · rw [if_neg heq, if_neg heq, ih hnodup ((List.mem_cons.mp h).resolve_left (Ne.symm heq))]

/-- A write is found under its name, and under any other name nothing changes. -/
theorem find?_writeField (name other : String) (cell : Cell) (fields : List Field) :
    ((writeField name cell fields).find? (·.1 == other)).map Prod.snd =
      if other = name then some cell else (fields.find? (·.1 == other)).map Prod.snd := by
  induction fields with
  | nil =>
    rw [writeField]
    by_cases h : other = name
    · subst h
      simp
    · simp [h, Ne.symm h]
  | cons f fields ih =>
    obtain ⟨n, c⟩ := f
    rw [writeField]
    by_cases hn : n = name
    · subst hn
      rw [if_pos rfl]
      by_cases h : other = n
      · subst h
        simp
      · simp [h, Ne.symm h]
    · rw [if_neg hn]
      by_cases h : n = other
      · subst h
        simp [hn]
      · simpa [h] using ih

namespace Row

/-- **A write**, seen from the outside: the name has the cell, all other names have what they had;
fields stay at their places, and a new name gets a place behind them. -/
structure IsWrite (r : Row) (name : String) (cell : Cell) (s : Row) : Prop where
  /-- Only the name that was written has another cell. -/
  get?_eq : ∀ other, s.get? other = if other = name then some cell else r.get? other
  /-- A name that was there is written where it stands. -/
  fields_of_mem : name ∈ r.names →
    s.fields = r.fields.map fun f => if f.1 = name then (name, cell) else f
  /-- A new name is written at the end. -/
  fields_of_notMem : name ∉ r.names → s.fields = r.fields ++ [(name, cell)]

theorem get?_insert (r : Row) (name other : String) (cell : Cell) :
    (r.insert name cell).get? other = if other = name then some cell else r.get? other :=
  find?_writeField name other cell r.fields

theorem isWrite_insert (r : Row) (name : String) (cell : Cell) :
    r.IsWrite name cell (r.insert name cell) where
  get?_eq other := get?_insert r name other cell
  fields_of_mem h := writeField_of_mem cell r.nodup h
  fields_of_notMem h := writeField_of_notMem cell h

/-- The name of a write is collected like the names before it. -/
theorem names_insert (r : Row) (name : String) (cell : Cell) :
    (r.insert name cell).names = addNew r.names [name] := by
  rw [addNew, addNew, addNew]
  exact fieldNames_writeField name cell r.fields

/-! ### Names and cells determine a row -/

theorem get?_eq_none_iff {r : Row} {name : String} : r.get? name = none ↔ name ∉ r.names := by
  rw [get?, Option.map_eq_none_iff, List.find?_eq_none, names, fieldNames, List.mem_map]
  simp only [beq_iff_eq, not_exists, not_and]

/-- The fields of a row are what is found under its names. -/
theorem fields_eq (r : Row) :
    r.fields = r.names.filterMap fun name => (r.get? name).map fun cell => (name, cell) := by
  obtain ⟨fields, hnodup⟩ := r
  change fields = (fieldNames fields).filterMap fun name =>
    ((fields.find? (·.1 == name)).map Prod.snd).map fun cell => (name, cell)
  induction fields with
  | nil => rfl
  | cons f fields ih =>
    obtain ⟨n, c⟩ := f
    obtain ⟨hn, hnodup⟩ := List.nodup_cons.mp hnodup
    have hfirst : (((n, c) :: fields).find? (·.1 == n)).map Prod.snd = some c := by simp
    rw [fieldNames, List.map_cons, List.filterMap_cons, hfirst, Option.map_some]
    refine congrArg ((n, c) :: ·) ((ih hnodup).trans (List.filterMap_congr fun name hname => ?_))
    have hne : n ≠ name := ne_of_mem_of_not_mem hname hn |>.symm
    simp [hne]

/-- **Names and cells determine a row.** -/
theorem eq_of_names_of_get? {r s : Row} (hnames : r.names = s.names)
    (hcells : ∀ name, r.get? name = s.get? name) : r = s := by
  have hfields : r.fields = s.fields := by
    rw [fields_eq r, fields_eq s, hnames]
    simp only [hcells]
  cases r
  cases s
  congr

end Row

/-! ### Runs of writes -/

/-- A cell is the **last one written under a name** if no later write is under that name. -/
def IsLastWrite (writes : List Field) (name : String) (cell : Cell) : Prop :=
  ∃ before after, writes = before ++ (name, cell) :: after ∧ name ∉ fieldNames after

/-- A write behind the others is the last one under its name, and no other name is affected. -/
theorem isLastWrite_concat {writes : List Field} {write : Field} {name : String} {cell : Cell} :
    IsLastWrite (writes ++ [write]) name cell ↔
      if name = write.1 then write.2 = cell else IsLastWrite writes name cell := by
  constructor
  · rintro ⟨before, after, heq, hafter⟩
    -- the write is the one that was found, or stands among those behind it
    rcases after.eq_nil_or_concat with rfl | ⟨after, last, rfl⟩
    · obtain ⟨-, hwrite⟩ := List.append_inj' heq rfl
      obtain rfl := List.singleton_inj.mp hwrite
      exact (if_pos rfl).mpr rfl
    · rw [List.concat_eq_append, ← List.cons_append, ← List.append_assoc] at heq
      obtain ⟨rfl, hlast⟩ := List.append_inj' heq rfl
      obtain rfl := List.singleton_inj.mp hlast
      rw [List.concat_eq_append, fieldNames, List.map_append, List.mem_append, not_or] at hafter
      have hne : name ≠ write.1 := fun hname => hafter.2 (List.mem_singleton.mpr hname)
      rw [if_neg hne]
      exact ⟨before, after, rfl, hafter.1⟩
  · intro h
    by_cases hname : name = write.1
    · rw [if_pos hname] at h
      obtain rfl : write = (name, cell) := Prod.ext hname.symm h
      exact ⟨writes, [], rfl, List.not_mem_nil⟩
    · rw [if_neg hname] at h
      obtain ⟨before, after, rfl, hafter⟩ := h
      refine ⟨before, after ++ [write], by rw [List.append_assoc, List.cons_append], ?_⟩
      rw [fieldNames, List.map_append, List.mem_append, not_or]
      exact ⟨hafter, fun hmem => hname (List.mem_singleton.mp hmem)⟩

namespace Row

/-- A row with **several fields written**, one after another. -/
def insertAll (r : Row) (writes : List Field) : Row := writes.foldl (fun r f => r.insert f.1 f.2) r

theorem ofFields_concat (writes : List Field) (write : Field) :
    ofFields (writes ++ [write]) = (ofFields writes).insert write.1 write.2 :=
  List.foldl_append

/-- **The names are collected** from the writes, in the order of first appearance. -/
theorem names_ofFields (writes : List Field) :
    (ofFields writes).names = addNew [] (fieldNames writes) := by
  induction writes using List.reverseRecOn with
  | nil => rfl
  | append_singleton writes write ih =>
    rw [ofFields_concat, names_insert, ih, fieldNames, fieldNames, List.map_append, addNew_append]
    rfl

/-- **The cell of a name is the last one** that was written under it. -/
theorem get?_ofFields_eq_some_iff {writes : List Field} {name : String} {cell : Cell} :
    (ofFields writes).get? name = some cell ↔ IsLastWrite writes name cell := by
  induction writes using List.reverseRecOn with
  | nil =>
    refine iff_of_false (Option.some_ne_none cell).symm ?_
    rintro ⟨before, after, heq, -⟩
    exact List.append_ne_nil_of_right_ne_nil before (List.cons_ne_nil _ _) heq.symm
  | append_singleton writes write ih =>
    rw [ofFields_concat, get?_insert, isLastWrite_concat]
    split
    · exact Option.some_inj
    · exact ih

/-- **Fields with distinct names are kept as they are written**, in their order. -/
theorem fields_ofFields {fields : List Field} (h : (fieldNames fields).Nodup) :
    (ofFields fields).fields = fields := by
  induction fields using List.reverseRecOn with
  | nil => rfl
  | append_singleton fields f ih =>
    rw [fieldNames, List.map_append, List.nodup_append] at h
    obtain ⟨hfields, -, hdistinct⟩ := h
    have hnew : f.1 ∉ fieldNames fields := fun hmem =>
      hdistinct f.1 hmem f.1 (List.mem_singleton_self _) rfl
    rw [← ih hfields] at hnew
    rw [ofFields_concat, (isWrite_insert _ f.1 f.2).fields_of_notMem hnew, ih hfields]

/-- A row is **made by** some writes if it has their names, in the order in which they were first
written, each with the cell that was last written under it. -/
structure IsMadeBy (writes : List Field) (r : Row) : Prop where
  /-- The names are distinct. -/
  nodup_names : r.names.Nodup
  /-- They are the names that were written. -/
  mem_names_iff : ∀ name, name ∈ r.names ↔ name ∈ fieldNames writes
  /-- They stand in the order in which they were first written. -/
  pairwise_names : r.names.Pairwise fun a b =>
    (fieldNames writes).idxOf a < (fieldNames writes).idxOf b
  /-- There is one field for each name that was written. -/
  size_eq : r.size = (fieldNames writes).toFinset.card
  /-- A name has the cell that was last written under it. -/
  get?_eq_some_iff : ∀ name cell, r.get? name = some cell ↔ IsLastWrite writes name cell
  /-- A name has no cell exactly if it was never written. -/
  get?_eq_none_iff : ∀ name, r.get? name = none ↔ name ∉ fieldNames writes

theorem isMadeBy_ofFields (writes : List Field) : (ofFields writes).IsMadeBy writes := by
  have hmem : ∀ name, name ∈ (ofFields writes).names ↔ name ∈ fieldNames writes := by
    intro name
    rw [names_ofFields, mem_addNew]
    exact or_iff_right List.not_mem_nil
  exact
    { nodup_names := (ofFields writes).nodup
      mem_names_iff := hmem
      pairwise_names := by
        rw [names_ofFields]
        exact pairwise_idxOf_addNew _
      size_eq := by
        rw [← countDistinct_eq_card, countDistinct, ← names_ofFields]
        exact (List.length_map _).symm
      get?_eq_some_iff := fun _ _ => get?_ofFields_eq_some_iff
      get?_eq_none_iff := fun name => get?_eq_none_iff.trans (not_congr (hmem name)) }

/-- **Some writes make one row only.** -/
theorem IsMadeBy.unique {writes : List Field} {r s : Row} (hr : r.IsMadeBy writes)
    (hs : s.IsMadeBy writes) : r = s := by
  have hperm : r.names.Perm s.names :=
    (List.perm_ext_iff_of_nodup hr.nodup_names hs.nodup_names).mpr fun name =>
      (hr.mem_names_iff name).trans (hs.mem_names_iff name).symm
  have hnames : r.names = s.names := by
    refine hperm.eq_of_pairwise (fun a b _ _ hab hba => ?_) hr.pairwise_names hs.pairwise_names
    exact absurd hab (Nat.lt_asymm hba)
  refine eq_of_names_of_get? hnames fun name => Option.ext fun cell => ?_
  rw [hr.get?_eq_some_iff, hs.get?_eq_some_iff]

/-- **A row is made by its own fields.** -/
theorem ofFields_fields (r : Row) : ofFields r.fields = r := by
  have hfields := fields_ofFields r.nodup
  refine eq_of_names_of_get? (congrArg fieldNames hfields) fun name => ?_
  rw [get?, get?, hfields]

theorem insertAll_eq (r : Row) (writes : List Field) :
    r.insertAll writes = ofFields (r.fields ++ writes) := by
  rw [ofFields, List.foldl_append]
  exact congrArg (insertAll · writes) (ofFields_fields r).symm

/-- Later writes make a row together with the fields that were there. -/
theorem isMadeBy_insertAll (r : Row) (writes : List Field) :
    (r.insertAll writes).IsMadeBy (r.fields ++ writes) := by
  rw [insertAll_eq]
  exact isMadeBy_ofFields _

end Row

/-! ### Objects as writes -/

/-- The **writes of an object**: its entries in their order, each with its key and its cell. -/
def AreWritesOf (entries : List (String × Json)) (writes : List Field) : Prop :=
  List.Forall₂ (fun entry write => write.1 = entry.1 ∧ Cell.ofJson? entry.2 = some write.2)
    entries writes

theorem Field.ofJson?_eq_some_iff {entry : String × Json} {write : Field} :
    ofJson? entry = some write ↔ write.1 = entry.1 ∧ Cell.ofJson? entry.2 = some write.2 := by
  rw [ofJson?, Option.map_eq_some_iff]
  constructor
  · rintro ⟨cell, hcell, rfl⟩
    exact ⟨rfl, hcell⟩
  · rintro ⟨hname, hcell⟩
    exact ⟨write.2, hcell, Prod.ext hname.symm rfl⟩

theorem mapM_ofJson?_eq_some_iff {entries : List (String × Json)} {writes : List Field} :
    entries.mapM Field.ofJson? = some writes ↔ AreWritesOf entries writes := by
  induction entries generalizing writes with
  | nil =>
    rw [List.mapM_nil, AreWritesOf, List.forall₂_nil_left_iff]
    exact Option.some_inj.trans eq_comm
  | cons entry entries ih =>
    simp only [List.mapM_cons, Option.bind_eq_bind, Option.bind_eq_some_iff, Option.pure_def,
      Option.some_inj, ih, Field.ofJson?_eq_some_iff]
    constructor
    · rintro ⟨write, hwrite, writes, hwrites, rfl⟩
      exact .cons hwrite hwrites
    · intro h
      cases h with
      | cons hwrite hwrites => exact ⟨_, hwrite, _, hwrites, rfl⟩

/-- An object has writes exactly if all its values are cells. -/
theorem exists_areWritesOf_iff {entries : List (String × Json)} :
    (∃ writes, AreWritesOf entries writes) ↔
      ∀ entry ∈ entries, (Cell.ofJson? entry.2).isSome = true := by
  constructor
  · rintro ⟨writes, h⟩ entry hentry
    induction h with
    | nil => exact absurd hentry List.not_mem_nil
    | cons hwrite _ ih =>
      rcases List.mem_cons.mp hentry with rfl | hentry
      · exact Option.isSome_iff_exists.mpr ⟨_, hwrite.2⟩
      · exact ih hentry
  · intro h
    induction entries with
    | nil => exact ⟨[], .nil⟩
    | cons entry entries ih =>
      obtain ⟨cell, hcell⟩ := Option.isSome_iff_exists.mp (h entry List.mem_cons_self)
      obtain ⟨writes, hwrites⟩ := ih fun e he => h e (List.mem_cons_of_mem entry he)
      exact ⟨(entry.1, cell) :: writes, .cons ⟨rfl, hcell⟩ hwrites⟩

namespace Row

/-- **An object is read by its writes**: keys that repeat are written again. -/
theorem ofJson?_object_eq_some_iff {entries : List (String × Json)} {r : Row} :
    ofJson? (.object entries) = some r ↔
      ∃ writes, AreWritesOf entries writes ∧ ofFields writes = r := by
  rw [ofJson?, Option.map_eq_some_iff]
  simp only [mapM_ofJson?_eq_some_iff]

/-- Rows **keep their writes** if they are made by them, in whatever way they are written, and if
there is nothing else in them. -/
structure KeepsWrites : Prop where
  /-- One write changes the cell of its name, and nothing else. -/
  insert : ∀ (r : Row) (name : String) (cell : Cell), r.IsWrite name cell (r.insert name cell)
  /-- Writes one after another make a row together with the fields that were there. -/
  insertAll : ∀ (r : Row) (writes : List Field), (r.insertAll writes).IsMadeBy (r.fields ++ writes)
  /-- Fields make the row that they are the writes of. -/
  ofFields : ∀ writes : List Field, (ofFields writes).IsMadeBy writes
  /-- An object makes the row that its entries are the writes of, if all its values are cells. -/
  ofJson? : ∀ entries : List (String × Json),
    ((∃ r, ofJson? (.object entries) = some r) ↔
      ∀ entry ∈ entries, (Cell.ofJson? entry.2).isSome = true) ∧
    ∀ r, ofJson? (.object entries) = some r →
      ∃ writes, AreWritesOf entries writes ∧ r.IsMadeBy writes
  /-- No two rows are made by the same writes. -/
  unique : ∀ (writes : List Field) (r s : Row), r.IsMadeBy writes → s.IsMadeBy writes → r = s
  /-- So a row is made by its own fields. -/
  ofFields_fields : ∀ r : Row, Row.ofFields r.fields = r

/-- **A row is the ordered map of its writes.** For every run of writes, the names of the row are
distinct and stand in the order in which they were first written, and each has the cell that was
last written under it. -/
theorem keepsWrites : KeepsWrites where
  insert := isWrite_insert
  insertAll := isMadeBy_insertAll
  ofFields := isMadeBy_ofFields
  ofJson? entries := by
    have hobject : ∀ r, Row.ofJson? (.object entries) = some r ↔
        ∃ writes, AreWritesOf entries writes ∧ Row.ofFields writes = r :=
      fun r => ofJson?_object_eq_some_iff
    refine ⟨?_, fun r hr => ?_⟩
    · rw [← exists_areWritesOf_iff]
      constructor
      · rintro ⟨r, hr⟩
        obtain ⟨writes, hwrites, -⟩ := (hobject r).mp hr
        exact ⟨writes, hwrites⟩
      · rintro ⟨writes, hwrites⟩
        exact ⟨Row.ofFields writes, (hobject _).mpr ⟨writes, hwrites, rfl⟩⟩
    · obtain ⟨writes, hwrites, rfl⟩ := (hobject r).mp hr
      exact ⟨writes, hwrites, isMadeBy_ofFields writes⟩
  unique _ _ _ := IsMadeBy.unique
  ofFields_fields := ofFields_fields

/-- Reading an object in which a key repeats: the later value replaces the earlier one at its
place. -/
example : ofJson? (.object [("b", .bool true), ("a", .null), ("b", .string "x")]) =
    some (.ofFields [("b", .text "x"), ("a", .null)]) := by
  rfl

end Row

end DataQuality
