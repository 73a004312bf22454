import Mathlib.Data.List.Sort
import PageFeed.Fields

/-! Looking up fields by their names. A record is determined by what its names lead to, so two ways
to build one are the same when every name leads to the same value. -/

namespace PageFeed.Fields

variable {α β : Type}

theorem lookup_eq_none_of_not_mem {entries : List (String × α)} {name : String}
    (absent : name ∉ entries.map Prod.fst) : entries.lookup name = none := by
  rw [List.lookup_eq_none_iff]
  intro other member
  have different : name ≠ other.1 := by
    intro same
    exact absent (same ▸ List.mem_map.2 ⟨other, member, rfl⟩)
  simpa using different

/-- A name leads to something exactly when it is one of the names. -/
theorem mem_map_fst_iff (entries : List (String × α)) (name : String) :
    name ∈ entries.map Prod.fst ↔ ∃ value, entries.lookup name = some value := by
  induction entries with
  | nil => simp
  | cons field rest ih =>
    rw [List.map_cons, List.mem_cons, lookup_cons_eq_ite]
    split
    · next same => simp [same]
    · next different => simp [different, ih]

theorem not_mem_of_before {entries : List (String × α)} {name : String}
    (before : ∀ other ∈ entries.map Prod.fst, name < other) : name ∉ entries.map Prod.fst := by
  intro member
  exact String.lt_irrefl _ (before name member)

theorem mem_toList_iff (fields : Fields α) (name : String) (value : α) :
    (name, value) ∈ fields.toList ↔ fields.get? name = some value := by
  obtain ⟨entries, sorted⟩ := fields
  simp only [get?]
  induction entries with
  | nil => simp
  | cons field rest ih =>
    have parts := List.pairwise_cons.1 sorted
    rw [lookup_cons_eq_ite, List.mem_cons]
    split
    · next same =>
      subst same
      have absent : (field.1, value) ∉ rest := by
        intro member
        exact not_mem_of_before parts.1 (List.mem_map.2 ⟨_, member, rfl⟩)
      simp [absent, Prod.ext_iff, eq_comm]
    · next different =>
      rw [← ih parts.2]
      simp [Prod.ext_iff, different]

theorem nodup_names (fields : Fields α) : fields.names.Nodup := by
  apply fields.sorted.imp
  intro first second before same
  exact String.lt_irrefl _ (same ▸ before)

/-- Records with the same value under every name are equal. -/
theorem ext_get? {a b : Fields α} (same : ∀ name, a.get? name = b.get? name) : a = b := by
  have ordered (fields : Fields α) : fields.toList.Pairwise (fun x y => x.1 < y.1) :=
    List.pairwise_map.1 fields.sorted
  have : Std.Irrefl (fun x y : String × α => x.1 < y.1) := ⟨fun _ => String.lt_irrefl _⟩
  have : Std.Antisymm (fun x y : String × α => x.1 < y.1) :=
    ⟨fun _ _ first second => (String.lt_irrefl _ (String.lt_trans first second)).elim⟩
  apply ext_toList
  apply List.Pairwise.eq_of_mem_iff (ordered a) (ordered b)
  rintro ⟨name, value⟩
  rw [mem_toList_iff, mem_toList_iff, same]

/-- Lists of records are equal when every name has the same values down the one and the other. -/
theorem ext_columns {a b : List (Fields α)}
    (same : ∀ name, a.map (·.get? name) = b.map (·.get? name)) : a = b := by
  have lengths : a.length = b.length := by simpa using congrArg List.length (same "")
  apply List.ext_getElem lengths
  intro place inFirst inSecond
  apply ext_get?
  intro name
  simpa [inFirst, inSecond] using congrArg (·[place]?) (same name)

@[simp]
theorem get?_empty (name : String) : (∅ : Fields α).get? name = none := rfl

@[simp]
theorem get?_map (f : String → α → β) (fields : Fields α) (name : String) :
    (fields.map f).get? name = (fields.get? name).map (f name) := by
  simp only [get?, map]
  induction fields.toList with
  | nil => rfl
  | cons field rest ih =>
    rw [List.map_cons, lookup_cons_eq_ite, lookup_cons_eq_ite]
    split
    · next same => simp [same]
    · exact ih

@[simp]
theorem get?_filter (keep : String → α → Bool) (fields : Fields α) (name : String) :
    (fields.filter keep).get? name = (fields.get? name).filter (keep name) := by
  ext value
  rw [← mem_toList_iff, Option.filter_eq_some_iff, ← mem_toList_iff]
  exact List.mem_filter

private theorem get?_foldl_insert (more : List (String × α)) (fields : Fields α) (name : String)
    (sorted : (more.map Prod.fst).Pairwise (· < ·)) :
    (more.foldl (fun fields entry => fields.insert entry.1 entry.2) fields).get? name =
      (more.lookup name).or (fields.get? name) := by
  induction more generalizing fields with
  | nil => simp
  | cons field rest ih =>
    have parts := List.pairwise_cons.1 sorted
    rw [List.foldl_cons, ih _ parts.2, lookup_cons_eq_ite, get?_insert]
    split
    · next same =>
      subst same
      simp [lookup_eq_none_of_not_mem (not_mem_of_before parts.1)]
    · rfl

/-- The fields put over a record win, and all others stay. -/
@[simp]
theorem get?_extend (fields more : Fields α) (name : String) :
    (fields.extend more).get? name = (more.get? name).or (fields.get? name) :=
  get?_foldl_insert more.toList fields name more.sorted

/-- Collecting the fields of a record gives the record again. -/
theorem ofList_toList (fields : Fields α) : ofList fields.toList = fields :=
  ext_get? fun name => (get?_extend ∅ fields name).trans (by rw [get?_empty, Option.or_none])

/-- The fields that a function gives a value to, with that value. -/
def filterMap (f : String → α → Option β) (fields : Fields α) : Fields β where
  toList := fields.toList.filterMap fun field => (f field.1 field.2).map (field.1, ·)
  sorted := by
    have ordered : fields.toList.Pairwise (fun x y => x.1 < y.1) := List.pairwise_map.1 fields.sorted
    rw [List.pairwise_map, List.pairwise_filterMap]
    apply ordered.imp
    intro first second before image found other held
    obtain ⟨_, _, rfl⟩ := Option.map_eq_some_iff.1 found
    obtain ⟨_, _, rfl⟩ := Option.map_eq_some_iff.1 held
    exact before

@[simp]
theorem get?_filterMap (f : String → α → Option β) (fields : Fields α) (name : String) :
    (fields.filterMap f).get? name = (fields.get? name).bind (f name) := by
  ext value
  rw [← mem_toList_iff, Option.bind_eq_some_iff]
  simp only [← mem_toList_iff, filterMap, List.mem_filterMap, Option.map_eq_some_iff, Prod.mk.injEq]
  constructor
  · rintro ⟨field, member, _, found, rfl, rfl⟩
    exact ⟨field.2, member, found⟩
  · rintro ⟨value, member, found⟩
    exact ⟨_, member, _, found, rfl, rfl⟩

end PageFeed.Fields
