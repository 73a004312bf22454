import Mathlib.Data.List.Induction
import PageFeed.Extraction.Entries
import PageFeed.Proofs.Fields

/-! Entries without containers. The columns that rules fill have unrelated heights, and they share
one map from places to entries. Each column starts at place zero, so after any number of rules the
places in use are those below the height of the highest column. The entries are therefore known
place by place: a relative rule has its match of that place, if there is one, and every other rule
its one value, a literal or the text of its first match. -/

namespace PageFeed

open Html (Document NodeId)

namespace Rule

/-- Whether every match of a rule is the value of an entry of its own. -/
def isRelative (rule : Rule) : Bool := rule.literal.isNone && !rule.isAbsolute

theorem isRelative_iff (rule : Rule) :
    rule.isRelative ↔ rule.literal = none ∧ rule.isAbsolute = false := by
  simp [isRelative]

/-- The text of a rule for the first of some elements. -/
def textOfFirst (rule : Rule) (dates : Moment.Reader) (document : Document) : List NodeId → String
  | [] => ""
  | id :: _ => rule.format dates document id

theorem formatOptional_head? (rule : Rule) (dates : Moment.Reader) (document : Document)
    (found : List NodeId) :
    rule.formatOptional dates document found.head? = rule.textOfFirst dates document found := by
  cases found <;> rfl

theorem firstText_eq_textOfFirst (rule : Rule) (dates : Moment.Reader) (document : Document) :
    rule.firstText dates document = rule.textOfFirst dates document (rule.matchesIn document) :=
  rule.formatOptional_head? dates document _

/-- The value that a rule has in the entry at a place. -/
def textAt? (rule : Rule) (dates : Moment.Reader) (document : Document) (place : Nat) :
    Option String :=
  match rule.literal, rule.isAbsolute with
  | some literal, _ => some literal
  | none, true => some (rule.textOfFirst dates document (rule.matchesIn document))
  | none, false => (rule.matchesIn document)[place]?.map (rule.format dates document)

theorem textAt?_of_relative (dates : Moment.Reader) (document : Document) (rule : Rule)
    (relative : rule.isRelative) (place : Nat) :
    rule.textAt? dates document place =
      ((rule.matchesIn document).map (rule.format dates document))[place]? := by
  obtain ⟨noLiteral, notAbsolute⟩ := rule.isRelative_iff.1 relative
  simp [textAt?, noLiteral, notAbsolute]

end Rule

namespace Extraction

/-- The number of matches of the relative rule that has most of them. -/
def columnHeight (document : Document) (rules : List (String × Rule)) : Nat :=
  ((rules.filter (·.2.isRelative)).map fun field => (field.2.matchesIn document).length).foldr max 0

/-- The entry at a place, with the values that the rules have there. -/
def alignedEntry (dates : Moment.Reader) (document : Document) (rules : Fields Rule) (place : Nat) :
    Entry :=
  rules.filterMap fun _ rule => rule.textAt? dates document place

theorem lt_columnHeight_iff (document : Document) (rules : List (String × Rule)) (place : Nat) :
    place < columnHeight document rules ↔
      ∃ field ∈ rules, field.2.isRelative ∧ place < (field.2.matchesIn document).length := by
  induction rules with
  | nil => simp [columnHeight]
  | cons field rest ih =>
    by_cases relative : field.2.isRelative
    · have height : columnHeight document (field :: rest) =
          max (field.2.matchesIn document).length (columnHeight document rest) := by
        simp [columnHeight, relative]
      have bound : place < columnHeight document (field :: rest) ↔
          place < (field.2.matchesIn document).length ∨ place < columnHeight document rest := by
        omega
      rw [bound, ih]
      simp [relative]
    · have height : columnHeight document (field :: rest) = columnHeight document rest := by
        simp [columnHeight, relative]
      rw [height, ih]
      simp [relative]

namespace Columns

/-- The value of a field in the entry at a place. -/
def cell? (columns : Columns) (place : Nat) (name : String) : Option String :=
  (columns.getD place ∅).get? name

theorem mem_set (columns : Columns) (place other : Nat) (name value : String) :
    other ∈ columns.set place name value ↔ other = place ∨ other ∈ columns := by
  simp only [set, Std.TreeMap.mem_insert, Nat.compare_eq_eq]
  exact or_congr_left eq_comm

theorem cell?_set (columns : Columns) (place other : Nat) (name value field : String) :
    (columns.set place name value).cell? other field =
      if other = place ∧ field = name then some value else columns.cell? other field := by
  simp only [cell?, set, Std.TreeMap.getD_insert, Nat.compare_eq_eq]
  by_cases same : place = other
  · subst same
    simp [Fields.get?_insert]
  · simp [same, Ne.symm same]

theorem mem_fill (name : String) (values : List String) (columns : Columns) (place other : Nat) :
    other ∈ columns.fill name place values ↔
      other ∈ columns ∨ place ≤ other ∧ other < place + values.length := by
  induction values generalizing columns place with
  | nil =>
    rw [fill, List.length_nil]
    grind
  | cons value values ih =>
    rw [fill, ih, mem_set, List.length_cons]
    grind

/-- Filling a column sets the cells of one name from a place on, and no others. -/
theorem cell?_fill (name : String) (values : List String) (columns : Columns) (place other : Nat)
    (field : String) :
    (columns.fill name place values).cell? other field =
      if field = name ∧ place ≤ other then values[other - place]?.or (columns.cell? other field)
      else columns.cell? other field := by
  induction values generalizing columns place with
  | nil => simp [fill]
  | cons value values ih =>
    rw [fill, ih, cell?_set]
    by_cases named : field = name
    · rcases Nat.lt_trichotomy other place with before | same | after
      · simp [named, show ¬place + 1 ≤ other by omega, show ¬place ≤ other by omega, before.ne]
      · simp [named, same]
      · have index : other - place = other - (place + 1) + 1 := by omega
        simp [named, show place + 1 ≤ other by omega, after.le, after.ne', index]
    · simp [named]

/-- When the places in use are those below a bound, the map lists its entries in order. -/
theorem toList_eq_map_range (columns : Columns) (count : Nat)
    (places : ∀ place, place ∈ columns ↔ place < count) :
    columns.keys = List.range count ∧
      columns.toList = (List.range count).map fun place => (place, columns.getD place ∅) := by
  have keys : columns.keys = List.range count := by
    have ordered : columns.keys.Pairwise (· < ·) := by
      simpa [Nat.compare_eq_lt] using columns.ordered_keys
    apply List.Pairwise.eq_of_mem_iff ordered List.pairwise_lt_range
    simp [places]
  refine ⟨keys, ?_⟩
  rw [← keys, ← Std.TreeMap.map_fst_toList_eq_keys, List.map_map]
  conv_lhs => rw [← List.map_id columns.toList]
  apply List.map_congr_left
  rintro ⟨place, entry⟩ member
  have found := Std.TreeMap.mem_toList_iff_getElem?_eq_some.1 member
  simp [Std.TreeMap.getD_eq_getD_getElem?, found]

end Columns

/-- What an alignment holds after some rules: places for every match of a relative rule and no
others, in the cells of a relative rule its matches, and under the name of any other rule its
value. -/
structure Alignment.Covers (dates : Moment.Reader) (document : Document)
    (rules : List (String × Rule)) (alignment : Alignment) : Prop where
  places : ∀ place, place ∈ alignment.columns ↔ place < columnHeight document rules
  cells : ∀ place name, alignment.columns.cell? place name =
    ((rules.lookup name).filter (·.isRelative)).bind (·.textAt? dates document place)
  shared : ∀ place name, alignment.shared.get? name =
    ((rules.lookup name).filter (!·.isRelative)).bind (·.textAt? dates document place)

namespace Alignment

theorem take_of_relative (dates : Moment.Reader) (document : Document) (alignment : Alignment)
    (name : String) (rule : Rule) (relative : rule.isRelative) :
    alignment.take dates document (name, rule) = { alignment with
      columns := alignment.columns.fill name 0
        ((rule.matchesIn document).map (rule.format dates document)) } := by
  obtain ⟨noLiteral, notAbsolute⟩ := rule.isRelative_iff.1 relative
  simp [take, noLiteral, notAbsolute]

theorem take_of_not_relative (dates : Moment.Reader) (document : Document) (alignment : Alignment)
    (name : String) (rule : Rule) (notRelative : rule.isRelative = false) :
    ∃ text, (∀ place, rule.textAt? dates document place = some text) ∧
      alignment.take dates document (name, rule) =
        { alignment with shared := alignment.shared.insert name text } := by
  cases hasLiteral : rule.literal with
  | some literal => exact ⟨literal, by simp [Rule.textAt?, hasLiteral], by simp [take, hasLiteral]⟩
  | none =>
    have isAbsolute : rule.isAbsolute = true := by
      simpa [Rule.isRelative, hasLiteral] using notRelative
    exact ⟨rule.textOfFirst dates document (rule.matchesIn document),
      by simp [Rule.textAt?, hasLiteral, isAbsolute],
      by simp [take, hasLiteral, isAbsolute, Rule.firstText_eq_textOfFirst]⟩

theorem lookup_concat {rules : List (String × Rule)} {name : String} (rule : Rule)
    (fresh : name ∉ rules.map Prod.fst) (other : String) :
    (rules ++ [(name, rule)]).lookup other =
      if other = name then some rule else rules.lookup other := by
  rw [List.lookup_append, Fields.lookup_cons_eq_ite, List.lookup_nil]
  split
  · next same =>
    rw [same, Fields.lookup_eq_none_of_not_mem fresh, Option.none_or]
  · rw [Option.or_none]

/-- A rule that is not kept may be added to the others unnoticed. -/
theorem filter_lookup_concat {rules : List (String × Rule)} {name : String} (rule : Rule)
    (fresh : name ∉ rules.map Prod.fst) (keep : Rule → Bool) (refused : keep rule = false)
    (other : String) :
    ((rules ++ [(name, rule)]).lookup other).filter keep = (rules.lookup other).filter keep := by
  rw [lookup_concat rule fresh]
  split
  · next same =>
    rw [same, Fields.lookup_eq_none_of_not_mem fresh, Option.filter_some, refused]
    rfl
  · rfl

/-- Looking at one more rule keeps what an alignment holds in step with the rules. -/
theorem Covers.take {dates : Moment.Reader} {document : Document} {rules : List (String × Rule)}
    {alignment : Alignment} (covers : alignment.Covers dates document rules) (name : String)
    (rule : Rule) (fresh : name ∉ rules.map Prod.fst) :
    (alignment.take dates document (name, rule)).Covers dates document
      (rules ++ [(name, rule)]) := by
  have absent : rules.lookup name = none := Fields.lookup_eq_none_of_not_mem fresh
  cases relative : rule.isRelative with
  | true =>
    rw [take_of_relative dates document alignment name rule relative]
    have own := rule.textAt?_of_relative dates document relative
    constructor
    · intro place
      rw [Columns.mem_fill, covers.places, lt_columnHeight_iff, lt_columnHeight_iff]
      simp [relative, or_and_right, exists_or]
    · intro place other
      rw [Columns.cell?_fill, covers.cells, lookup_concat rule fresh]
      by_cases same : other = name
      · simp [same, absent, relative, own, Option.filter_some]
      · simp [same]
    · intro place other
      rw [covers.shared place, filter_lookup_concat rule fresh _ (by simp [relative])]
  | false =>
    obtain ⟨text, value, taken⟩ :=
      take_of_not_relative dates document alignment name rule relative
    rw [taken]
    constructor
    · intro place
      rw [covers.places, lt_columnHeight_iff, lt_columnHeight_iff]
      simp [relative, or_and_right, exists_or]
    · intro place other
      rw [covers.cells, filter_lookup_concat rule fresh _ relative]
    · intro place other
      rw [Fields.get?_insert, covers.shared place, lookup_concat rule fresh]
      by_cases same : other = name
      · simp [same, relative, value, Option.filter_some]
      · simp [same]

/-- What an alignment holds is in step with the rules that have been looked at. -/
theorem covers_align (dates : Moment.Reader) (document : Document) (rules : List (String × Rule))
    (distinct : (rules.map Prod.fst).Nodup) :
    (align dates document rules).Covers dates document rules := by
  induction rules using List.reverseRecOn with
  | nil => exact ⟨by simp [align, columnHeight], by simp [align, Columns.cell?], by simp [align]⟩
  | append_singleton rules field ih =>
    rw [List.map_append, List.nodup_append] at distinct
    have fresh : field.1 ∉ rules.map Prod.fst := by
      intro member
      exact distinct.2.2 _ member _ (List.mem_singleton_self _) rfl
    have step := (ih distinct.1).take field.1 field.2 fresh
    simpa [align] using step

end Alignment

/-- The entries without containers, place by place. There are as many as the relative rule with most
matches has, and after any number of rules the places in use are those from zero on. -/
theorem unwrapped_eq_map_alignedEntry (dates : Moment.Reader) (document : Document)
    (rules : Fields Rule) :
    unwrapped dates document rules =
        (List.range (columnHeight document rules.toList)).map
          (alignedEntry dates document rules) ∧
      ∀ count, (align dates document (rules.toList.take count)).columns.keys =
        List.range (columnHeight document (rules.toList.take count)) := by
  constructor
  · have covers := Alignment.covers_align dates document rules.toList rules.nodup_names
    rw [unwrapped, (Columns.toList_eq_map_range _ _ covers.places).2, List.map_map]
    apply List.map_congr_left
    intro place _
    apply Fields.ext_get?
    intro name
    have own := covers.cells place name
    have shared := covers.shared place name
    have lookup : rules.toList.lookup name = rules.get? name := rfl
    rw [lookup] at own shared
    rw [Columns.cell?] at own
    rw [Function.comp_apply, Fields.get?_extend, own, shared, alignedEntry, Fields.get?_filterMap]
    cases rules.get? name with
    | none => rfl
    | some rule => cases relative : rule.isRelative <;> simp [relative, Option.filter_some]
  · intro count
    have distinct : ((rules.toList.take count).map Prod.fst).Nodup :=
      rules.nodup_names.sublist ((List.take_sublist count _).map _)
    have covers := Alignment.covers_align dates document (rules.toList.take count) distinct
    exact (Columns.toList_eq_map_range _ _ covers.places).1

end Extraction

end PageFeed
