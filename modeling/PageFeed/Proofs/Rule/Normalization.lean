import PageFeed.Proofs.Rule.Compilation

/-! Written rule sets that differ only in how bare selectors are spelled. A bare selector and the record
that holds it and nothing else have one full form, and no other two rules do, so rule sets are alike
exactly when their normal forms are equal. What a rule set compiles to depends on its normal form
alone. -/

namespace PageFeed

/-! ## Rules -/

namespace RuleSpec

/-- Two rules are the same, or one of them is a bare selector and the other one the record that holds
this selector and nothing else. -/
inductive Alike : RuleSpec → RuleSpec → Prop
  | refl (rule : RuleSpec) : Alike rule rule
  | spelled (selector : String) : Alike (.bare selector) (.record { selector := some selector })
  | shortened (selector : String) : Alike (.record { selector := some selector }) (.bare selector)

theorem alike_iff (rule other : RuleSpec) :
    rule.Alike other ↔ rule.normalize = other.normalize := by
  constructor
  · intro alike
    cases alike <;> rfl
  · intro same
    have records : rule.toRecord = other.toRecord := record.inj same
    cases rule with
    | bare selector =>
      cases other with
      | bare more =>
        cases records
        exact .refl _
      | record full =>
        cases records
        exact .spelled selector
    | record full =>
      cases other with
      | bare selector =>
        cases records
        exact .shortened selector
      | record more =>
        cases records
        exact .refl _

end RuleSpec

/-! ## Rule sets -/

theorem Option.rel_iff_map_eq {α β : Type} {related : α → α → Prop} {f : α → β}
    (image : ∀ value other, related value other ↔ f value = f other) (value? other? : Option α) :
    Option.Rel related value? other? ↔ value?.map f = other?.map f := by
  cases value? <;> cases other? <;> simp [Option.rel_some_some, image]

namespace RuleSetSpec

/-- Rules under the same names, alike under each of them. -/
def RulesAlike (rules more : Fields RuleSpec) : Prop :=
  ∀ name, Option.Rel RuleSpec.Alike (rules.get? name) (more.get? name)

/-- The same sections with the same names in them, and rules that are alike. -/
structure Alike (spec other : RuleSetSpec) : Prop where
  info : RulesAlike spec.info other.info
  entry : Option.Rel RulesAlike spec.entry other.entry
  entries : Option.Rel RuleSpec.Alike spec.entries other.entries

theorem rulesAlike_iff (rules more : Fields RuleSpec) :
    RulesAlike rules more ↔
      (rules.map fun _ => RuleSpec.normalize) = more.map fun _ => RuleSpec.normalize := by
  simp only [RulesAlike, Option.rel_iff_map_eq RuleSpec.alike_iff]
  constructor
  · intro same
    refine Fields.ext_get? fun name => ?_
    rw [Fields.get?_map, Fields.get?_map, same]
  · intro same name
    have found := congrArg (·.get? name) same
    simpa only [Fields.get?_map] using found

/-- Rule sets are alike exactly when their normal forms are equal. -/
theorem alike_iff_normalize_eq (spec other : RuleSetSpec) :
    spec.Alike other ↔ spec.normalize = other.normalize := by
  have info := rulesAlike_iff spec.info other.info
  have entry := Option.rel_iff_map_eq rulesAlike_iff spec.entry other.entry
  have entries := Option.rel_iff_map_eq RuleSpec.alike_iff spec.entries other.entries
  rw [normalize, normalize, RuleSetSpec.mk.injEq, ← info, ← entry, ← entries]
  constructor
  · rintro ⟨info, entry, entries⟩
    exact ⟨info, entry, entries⟩
  · rintro ⟨info, entry, entries⟩
    exact ⟨info, entry, entries⟩

/-- All rules that are written. -/
def rules (spec : RuleSetSpec) : List RuleSpec :=
  (spec.info.toList ++ spec.entry.toList.flatMap Fields.toList).map Prod.snd ++ spec.entries.toList

theorem rules_normalize (spec : RuleSetSpec) :
    spec.normalize.rules = spec.rules.map RuleSpec.normalize := by
  obtain ⟨info, entry, entries⟩ := spec
  cases entry <;> cases entries <;> simp [rules, normalize, Fields.map, Function.comp_def]

theorem normalize_normalize (spec : RuleSetSpec) : spec.normalize.normalize = spec.normalize := by
  have again (rules : Fields RuleSpec) :
      ((rules.map fun _ => RuleSpec.normalize).map fun _ => RuleSpec.normalize) =
        rules.map fun _ => RuleSpec.normalize := by
    refine Fields.ext_get? fun name => ?_
    rw [Fields.get?_map, Fields.get?_map, Option.map_map]
    rfl
  simp only [normalize, again, Option.map_map, Function.comp_def, RuleSpec.normalize_normalize]

theorem compile_normalize (spec : RuleSetSpec) (registry : Registry) :
    spec.normalize.compile registry = spec.compile registry := by
  rw [compile, compile, normalize_normalize]

/-- A bare selector and the record that holds nothing else can stand for each other anywhere: rule
sets that are alike, and no others, have one normal form, and they compile alike. A normal form has no
bare selector, has the names of its rule set, is alike to it and is its own normal form. -/
theorem normalize_eq_iff_alike :
    (∀ spec other : RuleSetSpec, spec.Alike other ↔ spec.normalize = other.normalize) ∧
    (∀ spec other : RuleSetSpec, spec.Alike other →
      ∀ registry, spec.compile registry = other.compile registry) ∧
    ∀ spec : RuleSetSpec,
      (∀ selector, .bare selector ∉ spec.normalize.rules) ∧
      spec.normalize.info.names = spec.info.names ∧
      spec.normalize.entry.map Fields.names = spec.entry.map Fields.names ∧
      spec.normalize.entries.isSome = spec.entries.isSome ∧
      spec.Alike spec.normalize ∧
      spec.normalize.normalize = spec.normalize := by
  refine ⟨alike_iff_normalize_eq, fun spec other alike registry => ?_, fun spec => ?_⟩
  · calc spec.compile registry
        = spec.normalize.compile registry := (compile_normalize spec registry).symm
      _ = other.normalize.compile registry := by rw [(alike_iff_normalize_eq _ _).mp alike]
      _ = other.compile registry := compile_normalize other registry
  · have idempotent := normalize_normalize spec
    refine ⟨fun selector => ?_, ?_, ?_, ?_, ?_, idempotent⟩
    · rw [rules_normalize]
      simp [RuleSpec.normalize]
    · exact Fields.names_map _ _
    · simp only [normalize, Option.map_map, Function.comp_def, Fields.names_map]
    · exact Option.isSome_map
    · exact (alike_iff_normalize_eq _ _).mpr idempotent.symm

/-- Bare selectors in all sections. -/
def shorthand : RuleSetSpec where
  info := .ofList [("title", .bare "h1"), ("home", .record { literal := some "/" })]
  entry := some (.ofList [("title", .bare "h2"), ("link", .record { selector := some "a" })])
  entries := some (.bare "article")

/-- The rules of `shorthand`, some of them spelled out and one of them shortened. -/
def longhand : RuleSetSpec where
  info := .ofList [("title", .bare "h1"), ("home", .record { literal := some "/" })]
  entry := some (.ofList [
    ("title", .record { selector := some "h2" }), ("link", .bare "a")])
  entries := some (.record { selector := some "article" })

theorem compile_longhand : shorthand.Alike longhand ∧ shorthand ≠ longhand ∧
    shorthand.compile Registry.builtin = longhand.compile Registry.builtin := by
  have same : shorthand.normalize = longhand.normalize := by decide
  have alike := (normalize_eq_iff_alike.1 shorthand longhand).mpr same
  exact ⟨alike, by decide, normalize_eq_iff_alike.2.1 _ _ alike Registry.builtin⟩

end RuleSetSpec

end PageFeed
