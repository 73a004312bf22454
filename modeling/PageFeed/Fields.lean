/-! Values under distinct names, kept in the order of the names. Texts are compared code point by
code point, which is also the order of their UTF-8 bytes, so two fields records with the same
contents are equal. -/

namespace PageFeed

/-- A record of named values in strictly increasing order of the names. -/
structure Fields (α : Type) where
  toList : List (String × α)
  sorted : (toList.map Prod.fst).Pairwise (· < ·)

namespace Fields

variable {α β ε : Type}

theorem ext_toList {a b : Fields α} (same : a.toList = b.toList) : a = b := by
  cases a
  cases b
  simp_all

instance [DecidableEq α] : DecidableEq (Fields α) := fun a b =>
  if same : a.toList = b.toList then isTrue (ext_toList same)
  else isFalse fun equal => same (equal ▸ rfl)

def empty : Fields α := ⟨[], .nil⟩

instance : EmptyCollection (Fields α) := ⟨empty⟩

instance : Inhabited (Fields α) := ⟨empty⟩

def names (fields : Fields α) : List String := fields.toList.map Prod.fst

def size (fields : Fields α) : Nat := fields.toList.length

def get? (fields : Fields α) (name : String) : Option α := fields.toList.lookup name

def place (name : String) (value : α) : List (String × α) → List (String × α)
  | [] => [(name, value)]
  | field :: rest =>
    if name < field.1 then (name, value) :: field :: rest
    else if name = field.1 then (name, value) :: rest
    else field :: place name value rest

theorem mem_names_place {name other : String} {value : α} {entries : List (String × α)} :
    other ∈ (place name value entries).map Prod.fst ↔
      other = name ∨ other ∈ entries.map Prod.fst := by
  induction entries with
  | nil => simp [place]
  | cons field rest ih =>
    rw [place]
    split
    · simp
    · split
      · next same => simp [same]
      · simp only [List.map_cons, List.mem_cons, ih]
        exact or_left_comm

theorem sorted_place {name : String} {value : α} {entries : List (String × α)}
    (sorted : (entries.map Prod.fst).Pairwise (· < ·)) :
    ((place name value entries).map Prod.fst).Pairwise (· < ·) := by
  induction entries with
  | nil => simp [place]
  | cons field rest ih =>
    have tail := List.pairwise_cons.1 sorted
    rw [place]
    split
    · next before =>
      refine List.pairwise_cons.2 ⟨fun other member => ?_, sorted⟩
      rcases List.mem_cons.1 member with same | member
      · exact same ▸ before
      · exact String.lt_trans before (tail.1 other member)
    · split
      · next same => exact List.pairwise_cons.2 ⟨same ▸ tail.1, tail.2⟩
      · next notBefore different =>
        refine List.pairwise_cons.2 ⟨fun other member => ?_, ih tail.2⟩
        rcases mem_names_place.1 member with same | member
        · exact same ▸ Std.lt_of_le_of_ne (String.not_lt.1 notBefore) (Ne.symm different)
        · exact tail.1 other member

def insert (fields : Fields α) (name : String) (value : α) : Fields α :=
  ⟨place name value fields.toList, sorted_place fields.sorted⟩

/-- Collects named values; the last value of a name stays. -/
def ofList (entries : List (String × α)) : Fields α :=
  entries.foldl (fun fields entry => fields.insert entry.1 entry.2) ∅

def extend (fields more : Fields α) : Fields α :=
  more.toList.foldl (fun fields entry => fields.insert entry.1 entry.2) fields

def map (f : String → α → β) (fields : Fields α) : Fields β where
  toList := fields.toList.map fun field => (field.1, f field.1 field.2)
  sorted := by
    have same : (fields.toList.map fun field => (field.1, f field.1 field.2)).map Prod.fst =
        fields.toList.map Prod.fst := by simp
    exact same ▸ fields.sorted

def filter (keep : String → α → Bool) (fields : Fields α) : Fields α where
  toList := fields.toList.filter fun field => keep field.1 field.2
  sorted := fields.sorted.sublist (List.filter_sublist.map _)

def traverseEntries (f : String → α → Except ε β) : (entries : List (String × α)) →
    Except ε { out : List (String × β) // out.map Prod.fst = entries.map Prod.fst }
  | [] => .ok ⟨[], rfl⟩
  | field :: rest =>
    match f field.1 field.2 with
    | .error e => .error e
    | .ok value =>
      match traverseEntries f rest with
      | .error e => .error e
      | .ok out => .ok ⟨(field.1, value) :: out.1, by simp [out.2]⟩

/-- Changes every value by a function that may fail; the first failure in order of the names is the
outcome. -/
def traverse (f : String → α → Except ε β) (fields : Fields α) : Except ε (Fields β) :=
  match traverseEntries f fields.toList with
  | .error e => .error e
  | .ok out => .ok ⟨out.1, by rw [out.2]; exact fields.sorted⟩

theorem lookup_cons_eq_ite (name : String) (field : String × α) (rest : List (String × α)) :
    (field :: rest).lookup name = if name = field.1 then some field.2 else rest.lookup name := by
  obtain ⟨other, value⟩ := field
  rw [List.lookup_cons]
  by_cases same : name = other
  · simp [same]
  · simp [beq_false_of_ne same, same]

theorem lookup_place (name other : String) (value : α) (entries : List (String × α)) :
    (place name value entries).lookup other =
      if other = name then some value else entries.lookup other := by
  induction entries with
  | nil => simp [place, lookup_cons_eq_ite]
  | cons field rest ih =>
    rw [place]
    split
    · simp [lookup_cons_eq_ite]
    · split
      · next same => grind [lookup_cons_eq_ite]
      · next different => grind [lookup_cons_eq_ite]

theorem get?_insert (fields : Fields α) (name other : String) (value : α) :
    (fields.insert name value).get? other =
      if other = name then some value else fields.get? other :=
  lookup_place name other value fields.toList

theorem names_map (f : String → α → β) (fields : Fields α) :
    (fields.map f).names = fields.names := by
  simp [names, map]

end Fields

end PageFeed
