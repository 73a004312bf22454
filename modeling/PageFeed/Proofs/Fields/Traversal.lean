import PageFeed.Proofs.Fields

/-! Steps that may fail, and records whose values go through one. A sequence of steps succeeds when
each of them does; a traversal succeeds when every value passes, and its outcome has under each name
what the value of that name has become. -/

namespace PageFeed

theorem Except.bind_eq_ok_iff {ε α β : Type} {first : Except ε α} {next : α → Except ε β} {out : β} :
    (first >>= next) = .ok out ↔ ∃ value, first = .ok value ∧ next value = .ok out := by
  cases first with
  | error fault => simp [bind, Except.bind]
  | ok value => simp [bind, Except.bind]

theorem Except.map_eq_ok_iff {ε α β : Type} {step : Except ε α} {f : α → β} {out : β} :
    (f <$> step) = .ok out ↔ ∃ value, step = .ok value ∧ f value = out := by
  cases step with
  | error fault => simp [Functor.map, Except.map]
  | ok value => simp [Functor.map, Except.map]

theorem Except.mapError_eq_ok_iff {ε δ α : Type} {step : Except ε α} {f : ε → δ} {out : α} :
    step.mapError f = .ok out ↔ step = .ok out := by
  cases step <;> simp [Except.mapError]

theorem Except.mapError_eq_error_iff {ε δ α : Type} {step : Except ε α} {f : ε → δ} {fault : δ} :
    step.mapError f = .error fault ↔ ∃ cause, step = .error cause ∧ f cause = fault := by
  cases step <;> simp [Except.mapError]

/-- The outcome of a step that looks for faults: the first of them, and a value when there is none. -/
def Except.ofFaults {ε α : Type} (faults : List ε) (value : α) : Except ε α :=
  match faults with
  | [] => .ok value
  | fault :: _ => .error fault

theorem Except.ofFaults_eq_error_iff {ε α : Type} {faults : List ε} {value : α} {fault : ε} :
    Except.ofFaults faults value = .error fault ↔ faults.head? = some fault := by
  cases faults <;> simp [Except.ofFaults]

theorem Except.ofFaults_eq_ok_iff {ε α : Type} {faults : List ε} {value out : α} :
    Except.ofFaults faults value = .ok out ↔ faults = [] ∧ value = out := by
  cases faults <;> simp [Except.ofFaults]

/-- The faults of a later step come behind those of an earlier one. What the later step does has only to
be known for an earlier step without faults. -/
theorem Except.ofFaults_bind {ε α β : Type} {faults more : List ε} {value : α}
    {next : α → Except ε β} {out : β} (later : faults = [] → next value = Except.ofFaults more out) :
    (Except.ofFaults faults value >>= next) = Except.ofFaults (faults ++ more) out := by
  cases faults with
  | nil => exact later rfl
  | cons fault rest => rfl

/-- A last step without faults adds none. -/
theorem Except.ofFaults_bind_ok {ε α β : Type} {faults : List ε} {value : α} {next : α → Except ε β}
    {out : β} (last : next value = .ok out) :
    (Except.ofFaults faults value >>= next) = Except.ofFaults faults out := by
  cases faults with
  | nil => exact last
  | cons fault rest => rfl

theorem Except.map_ofFaults {ε α β : Type} (f : α → β) (faults : List ε) (value : α) :
    (f <$> Except.ofFaults faults value) = Except.ofFaults faults (f value) := by
  cases faults <;> rfl

theorem Except.mapError_ofFaults {ε δ α : Type} (f : ε → δ) (faults : List ε) (value : α) :
    (Except.ofFaults faults value).mapError f = Except.ofFaults (faults.map f) value := by
  cases faults <;> rfl

namespace Fields

variable {α β ε : Type} {f : String → α → Except ε β}

theorem lookup_traverseEntries {entries : List (String × α)}
    {out : { out : List (String × β) // out.map Prod.fst = entries.map Prod.fst }}
    (passed : traverseEntries f entries = .ok out) (name : String) :
    (entries.lookup name).map (f name) = (out.1.lookup name).map Except.ok := by
  induction entries with
  | nil =>
    cases passed
    rfl
  | cons field rest ih =>
    rw [traverseEntries] at passed
    split at passed
    · cases passed
    · next value first =>
      split at passed
      · cases passed
      · next later found =>
        cases passed
        rw [lookup_cons_eq_ite, lookup_cons_eq_ite]
        split
        · next same => simp [same, first]
        · exact ih found

theorem exists_traverseEntries {entries : List (String × α)}
    (passes : ∀ field ∈ entries, ∃ value, f field.1 field.2 = .ok value) :
    ∃ out, traverseEntries f entries = .ok out := by
  induction entries with
  | nil => exact ⟨_, rfl⟩
  | cons field rest ih =>
    obtain ⟨value, first⟩ := passes field List.mem_cons_self
    obtain ⟨later, found⟩ := ih fun other member => passes other (List.mem_cons_of_mem _ member)
    rw [traverseEntries]
    simp only [first, found]
    exact ⟨_, rfl⟩

/-- A traversal succeeds with a record that has, under every name, what the value of that name
passes with. -/
theorem traverse_eq_ok_iff {fields : Fields α} {out : Fields β} :
    fields.traverse f = .ok out ↔
      ∀ name, (fields.get? name).map (f name) = (out.get? name).map Except.ok := by
  have sound {out : Fields β} (passed : fields.traverse f = .ok out) (name : String) :
      (fields.get? name).map (f name) = (out.get? name).map Except.ok := by
    unfold traverse at passed
    split at passed
    · cases passed
    · next entries found =>
      cases passed
      exact lookup_traverseEntries found name
  constructor
  · exact sound
  · intro agrees
    have passes : ∀ field ∈ fields.toList, ∃ value, f field.1 field.2 = .ok value := by
      intro field member
      have held := agrees field.1
      rw [(mem_toList_iff fields field.1 field.2).mp member, Option.map_some, eq_comm,
        Option.map_eq_some_iff] at held
      obtain ⟨value, _, passed⟩ := held
      exact ⟨value, passed.symm⟩
    obtain ⟨entries, found⟩ := exists_traverseEntries passes
    have passed : ∃ other, fields.traverse f = .ok other := by
      unfold traverse
      simp only [found]
      exact ⟨_, rfl⟩
    obtain ⟨other, passed⟩ := passed
    rw [passed]
    congr 1
    apply ext_get?
    intro name
    have held := sound passed name
    rw [agrees name] at held
    exact (Option.map_injective (fun _ _ same => Except.ok.inj same) held).symm

/-- A traversal by a function that passes on valid values alone, with one outcome for each. -/
theorem traverse_eq_ok_iff_map {valid : α → Prop} {result : α → β}
    (passes : ∀ name value out, f name value = .ok out ↔ valid value ∧ out = result value)
    {fields : Fields α} {out : Fields β} :
    fields.traverse f = .ok out ↔
      (∀ name value, fields.get? name = some value → valid value) ∧
        out = fields.map fun _ => result := by
  rw [traverse_eq_ok_iff]
  constructor
  · intro agrees
    have passed (name value) (found : fields.get? name = some value) :
        ∃ held, out.get? name = some held ∧ valid value ∧ held = result value := by
      have held := agrees name
      rw [found, Option.map_some, eq_comm, Option.map_eq_some_iff] at held
      obtain ⟨result', there, passed⟩ := held
      exact ⟨result', there, (passes name value result').mp passed.symm⟩
    refine ⟨fun name value found => ?_, ext_get? fun name => ?_⟩
    · obtain ⟨_, _, isValid, _⟩ := passed name value found
      exact isValid
    · rw [get?_map]
      cases found : fields.get? name with
      | none =>
        have held := agrees name
        rw [found, Option.map_none, eq_comm, Option.map_eq_none_iff] at held
        rw [held, Option.map_none]
      | some value =>
        obtain ⟨held, there, _, same⟩ := passed name value found
        rw [there, same, Option.map_some]
  · rintro ⟨valid, rfl⟩ name
    rw [get?_map]
    cases found : fields.get? name with
    | none => rfl
    | some value =>
      simp only [Option.map_some]
      rw [(passes name value (result value)).mpr ⟨valid name value found, rfl⟩]

theorem traverseEntries_map {γ : Type} (g : String → γ → α) (entries : List (String × γ)) :
    (traverseEntries f (entries.map fun field => (field.1, g field.1 field.2))).map Subtype.val =
      (traverseEntries (fun name value => f name (g name value)) entries).map Subtype.val := by
  induction entries with
  | nil => rfl
  | cons field rest ih =>
    rw [List.map_cons, traverseEntries, traverseEntries]
    cases f field.1 (g field.1 field.2) with
    | error fault => rfl
    | ok value =>
      revert ih
      cases traverseEntries f (rest.map fun field => (field.1, g field.1 field.2)) <;>
        cases traverseEntries (fun name value => f name (g name value)) rest <;>
        simp +contextual [Except.map]

/-- What has been changed can be traversed in the same step. -/
theorem traverse_map {γ : Type} (g : String → γ → α) (fields : Fields γ) :
    (fields.map g).traverse f = fields.traverse fun name value => f name (g name value) := by
  have same := traverseEntries_map (f := f) g fields.toList
  unfold traverse
  revert same
  simp only [map]
  cases traverseEntries f (fields.toList.map fun field => (field.1, g field.1 field.2)) <;>
    cases traverseEntries (fun name value => f name (g name value)) fields.toList <;>
    simp +contextual [Except.map]

theorem traverseEntries_eq_ofFaults {faults : String → α → List ε} {result : String → α → β}
    (each : ∀ name value, f name value = Except.ofFaults (faults name value) (result name value))
    (entries : List (String × α)) :
    (traverseEntries f entries).map Subtype.val =
      Except.ofFaults (entries.flatMap fun field => faults field.1 field.2)
        (entries.map fun field => (field.1, result field.1 field.2)) := by
  induction entries with
  | nil => rfl
  | cons field rest ih =>
    rw [traverseEntries, each, List.flatMap_cons]
    cases faults field.1 field.2 with
    | cons fault more => rfl
    | nil =>
      revert ih
      cases traverseEntries f rest with
      | error fault =>
        intro ih
        exact (Except.ofFaults_eq_error_iff.mpr (Except.ofFaults_eq_error_iff.mp ih.symm)).symm
      | ok out =>
        intro ih
        obtain ⟨none, same⟩ := Except.ofFaults_eq_ok_iff.mp ih.symm
        refine (Except.ofFaults_eq_ok_iff.mpr ⟨none, ?_⟩).symm
        rw [List.map_cons, same]

/-- A traversal by a function that looks for faults finds those of all values, in order of the names. -/
theorem traverse_eq_ofFaults {faults : String → α → List ε} {result : String → α → β}
    (each : ∀ name value, f name value = Except.ofFaults (faults name value) (result name value))
    (fields : Fields α) :
    fields.traverse f = Except.ofFaults (fields.toList.flatMap fun field => faults field.1 field.2)
      (fields.map result) := by
  have entries := traverseEntries_eq_ofFaults each fields.toList
  unfold traverse
  revert entries
  cases traverseEntries f fields.toList with
  | error fault =>
    intro entries
    exact (Except.ofFaults_eq_error_iff.mpr (Except.ofFaults_eq_error_iff.mp entries.symm)).symm
  | ok out =>
    intro entries
    obtain ⟨none, same⟩ := Except.ofFaults_eq_ok_iff.mp entries.symm
    exact (Except.ofFaults_eq_ok_iff.mpr ⟨none, ext_toList same⟩).symm

end Fields

end PageFeed
