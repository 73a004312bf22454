import PageFeed.Proofs.Extraction.Containers

/-! Fields on their own. All fields of a page go through one extraction, and without containers they
even share the map that it fills. Still the values of a field, read down the entries, are those of
the rule of its name: place by place without containers, container by container with them. Other
fields can only add entries at the end, where a field that has run out of matches has no value. A
rule that looks at the page as a whole has the same text in the feed and in every entry. -/

namespace PageFeed

open Html (Document NodeId)

namespace Rule

theorem isRelative_eq_false_iff (rule : Rule) :
    rule.isRelative = false ↔ rule.literal.isSome ∨ rule.isAbsolute := by
  cases hasLiteral : rule.literal <;> simp [isRelative, hasLiteral]

/-- The text of a rule for a page as a whole: its literal, or else what it finds first. -/
def pageText (rule : Rule) (dates : Moment.Reader) (document : Document) : String :=
  rule.literal.getD (rule.textOfFirst dates document (rule.matchesIn document))

variable (dates : Moment.Reader) (document : Document) (rule : Rule)

theorem textAt?_of_pageWide (pageWide : rule.literal.isSome ∨ rule.isAbsolute) (place : Nat) :
    rule.textAt? dates document place = some (rule.pageText dates document) := by
  unfold textAt? pageText
  cases hasLiteral : rule.literal with
  | some literal => rfl
  | none =>
    have isAbsolute : rule.isAbsolute = true := by simpa [hasLiteral] using pageWide
    rw [isAbsolute]
    rfl

theorem textIn_of_pageWide (pageWide : rule.literal.isSome ∨ rule.isAbsolute)
    (container : NodeId) :
    rule.textIn dates document container = rule.pageText dates document := by
  unfold textIn pageText
  cases hasLiteral : rule.literal with
  | some literal => rfl
  | none =>
    have isAbsolute : rule.isAbsolute = true := by simpa [hasLiteral] using pageWide
    rw [isAbsolute]
    rfl

end Rule

namespace Extraction

variable (dates : Moment.Reader) (document : Document)

theorem info_eq_map (rules : Fields Rule) :
    info dates document rules = rules.map fun _ rule => rule.pageText dates document := by
  unfold info
  congr 1
  funext _ rule
  unfold Rule.pageText
  cases rule.literal with
  | some literal => rfl
  | none => exact rule.firstText_eq_textOfFirst dates document

theorem get?_info (rules : Fields Rule) (name : String) :
    (info dates document rules).get? name =
      (rules.get? name).map (·.pageText dates document) := by
  rw [info_eq_map, Fields.get?_map]

/-- What the entries share under a name, and where they share nothing the cell of that name, is what
the rule of the name has at a place. -/
theorem Alignment.Covers.shared_or_cell {dates : Moment.Reader} {document : Document}
    {rules : List (String × Rule)} {alignment : Alignment}
    (covers : alignment.Covers dates document rules) (place : Nat) (name : String) :
    (alignment.shared.get? name).or (alignment.columns.cell? place name) =
      (rules.lookup name).bind (·.textAt? dates document place) := by
  rw [covers.shared place, covers.cells]
  cases rules.lookup name with
  | none => rfl
  | some rule => cases relative : rule.isRelative <;> simp [relative, Option.filter_some]

/-- The values of a field down the entries without containers. -/
theorem map_get?_unwrapped (rules : Fields Rule) (name : String) :
    (unwrapped dates document rules).map (·.get? name) =
      (List.range (columnHeight document rules.toList)).map fun place =>
        (rules.get? name).bind (·.textAt? dates document place) := by
  have covers := Alignment.covers_align dates document rules.toList rules.nodup_names
  rw [unwrapped, (Columns.toList_eq_map_range _ _ covers.places).2, List.map_map, List.map_map]
  apply List.map_congr_left
  intro place _
  exact (Fields.get?_extend _ _ name).trans (covers.shared_or_cell place name)

theorem length_unwrapped (rules : Fields Rule) :
    (unwrapped dates document rules).length = columnHeight document rules.toList := by
  simpa using congrArg List.length (map_get?_unwrapped dates document rules "")

theorem get?_getElem_unwrapped (rules : Fields Rule) (name : String) (place : Nat)
    (inside : place < (unwrapped dates document rules).length) :
    (unwrapped dates document rules)[place].get? name =
      (rules.get? name).bind (·.textAt? dates document place) := by
  have below := length_unwrapped dates document rules ▸ inside
  have cell := congrArg (·[place]?) (map_get?_unwrapped dates document rules name)
  simpa [List.getElem?_eq_getElem inside, List.getElem?_range below] using cell

theorem filterMap_range_getElem? {α : Type} (values : List α) (count : Nat) :
    (List.range count).filterMap (values[·]?) = values.take count := by
  induction count with
  | zero => rfl
  | succ count ih =>
    rw [List.range_succ, List.filterMap_append, ih, List.take_add_one]
    cases held : values[count]? <;> simp [held]

/-- Down the entries a relative rule has all its matches, in order. -/
theorem filterMap_get?_unwrapped {rules : Fields Rule} {name : String} {rule : Rule}
    (found : rules.get? name = some rule) (relative : rule.isRelative) :
    (unwrapped dates document rules).filterMap (·.get? name) =
      (rule.matchesIn document).map (rule.format dates document) := by
  have member : (name, rule) ∈ rules.toList := (rules.mem_toList_iff name rule).2 found
  have fits : (rule.matchesIn document).length ≤ columnHeight document rules.toList := by
    apply Nat.le_of_not_lt
    intro higher
    have beyond := (lt_columnHeight_iff document rules.toList _).2 ⟨_, member, relative, higher⟩
    exact Nat.lt_irrefl _ beyond
  calc (unwrapped dates document rules).filterMap (·.get? name)
    _ = ((unwrapped dates document rules).map (·.get? name)).filterMap id := by
      rw [List.filterMap_map, Function.id_comp]
    _ = (List.range (columnHeight document rules.toList)).filterMap
          (((rule.matchesIn document).map (rule.format dates document))[·]?) := by
      rw [map_get?_unwrapped, List.filterMap_map, Function.id_comp, found]
      congr 1
      funext place
      exact rule.textAt?_of_relative dates document relative place
    _ = (rule.matchesIn document).map (rule.format dates document) := by
      rw [filterMap_range_getElem?, List.take_of_length_le]
      rwa [List.length_map]

theorem wrapped_of_unfiltered (rules : Fields Rule) {container : Rule}
    (unfiltered : container.filter = none) :
    wrapped dates document rules container = (container.matchesIn document).map fun element =>
      rules.map fun _ rule => rule.textIn dates document element := by
  rw [wrapped, unfiltered]
  exact List.map_congr_left fun element _ => entryOf_absolutes dates document rules element

/-- The values of a field down the entries of containers. -/
theorem map_get?_wrapped (rules : Fields Rule) {container : Rule}
    (unfiltered : container.filter = none) (name : String) :
    (wrapped dates document rules container).map (·.get? name) =
      (container.matchesIn document).map fun element =>
        (rules.get? name).map (·.textIn dates document element) := by
  rw [wrapped_of_unfiltered dates document rules unfiltered, List.map_map]
  apply List.map_congr_left
  intro element _
  exact Fields.get?_map _ rules name

theorem exists_of_mem_wrapped {rules : Fields Rule} {container : Rule} {entry : Entry}
    (member : entry ∈ wrapped dates document rules container) :
    ∃ element ∈ container.matchesIn document,
      entry = rules.map fun _ rule => rule.textIn dates document element := by
  -- A filter only leaves entries out.
  have unfiltered : entry ∈ wrapped dates document rules { container with filter := none } := by
    unfold wrapped at member ⊢
    split at member
    · exact List.mem_of_mem_filter member
    · exact member
  rw [wrapped_of_unfiltered dates document rules rfl] at unfiltered
  obtain ⟨element, found, same⟩ := List.mem_map.1 unfiltered
  exact ⟨element, found, same.symm⟩

/-- Two rule sets that have the same rule under a name have the same values under it. In the feed it
is the same text. Without containers it is the same value, or none, at every place that both have, and
for a relative rule the same list of values down the entries, however far they go. With the same
unfiltered containers there are as many entries, and they have the same texts one after the other. -/
theorem values_eq_of_same_rule (first second : RuleSet) (name : String) (rule : Rule) :
    (first.info.get? name = some rule → second.info.get? name = some rule →
      ∃ text, (info dates document first.info).get? name = some text ∧
        (info dates document second.info).get? name = some text) ∧
    (first.entry.get? name = some rule → second.entry.get? name = some rule →
      (∀ place (inFirst : place < (unwrapped dates document first.entry).length)
          (inSecond : place < (unwrapped dates document second.entry).length),
        (unwrapped dates document first.entry)[place].get? name =
          (unwrapped dates document second.entry)[place].get? name) ∧
      (rule.literal = none → rule.isAbsolute = false →
        (unwrapped dates document first.entry).filterMap (·.get? name) =
          (unwrapped dates document second.entry).filterMap (·.get? name)) ∧
      ∀ container : Rule, container.filter = none →
        ∃ texts : List String,
          (wrapped dates document first.entry container).map (·.get? name) = texts.map some ∧
          (wrapped dates document second.entry container).map (·.get? name) = texts.map some) := by
  constructor
  · intro inFirst inSecond
    refine ⟨rule.pageText dates document, ?_, ?_⟩
    · rw [get?_info, inFirst, Option.map_some]
    · rw [get?_info, inSecond, Option.map_some]
  · intro inFirst inSecond
    refine ⟨?_, ?_, ?_⟩
    · intro place _ _
      rw [get?_getElem_unwrapped, get?_getElem_unwrapped, inFirst, inSecond]
    · intro noLiteral notAbsolute
      have relative := rule.isRelative_iff.2 ⟨noLiteral, notAbsolute⟩
      rw [filterMap_get?_unwrapped dates document inFirst relative,
        filterMap_get?_unwrapped dates document inSecond relative]
    · intro container unfiltered
      have column {rules : Fields Rule} (found : rules.get? name = some rule) :
          (wrapped dates document rules container).map (·.get? name) =
            ((container.matchesIn document).map (rule.textIn dates document)).map some := by
        rw [map_get?_wrapped dates document rules unfiltered, found, List.map_map]
        rfl
      exact ⟨_, column inFirst, column inSecond⟩

/-- A date over two headlines. -/
def frontPage : Document := Html.parse "<time>1 May 2024</time><p><b>A</b><p><b>B</b>"

def headline : Rule := { pattern := (Pattern.read "b").toOption }

def paragraph : Rule := { pattern := (Pattern.read "p").toOption }

def stamp : Rule :=
  { pattern := (Pattern.read "time").toOption, isAbsolute := true, valueType := .dateTime }

def headlines : RuleSet := ({} : RuleSet).withInfo "title" headline |>.withEntry "title" headline

def datedHeadlines : RuleSet := headlines.withInfo "date" stamp |>.withEntry "date" stamp

/-- A field beside the headlines that has more matches than there are headlines. -/
def report : RuleSet :=
  datedHeadlines.withEntry "block"
    { pattern := (Pattern.read "time, p").toOption, content := .outerMarkup }

theorem values_eq_headline :
    (∃ (inFirst : 1 < (unwrapped Moment.read? frontPage headlines.entry).length)
        (inSecond : 1 < (unwrapped Moment.read? frontPage report.entry).length),
      ((unwrapped Moment.read? frontPage headlines.entry).get ⟨1, inFirst⟩).get? "title" =
        ((unwrapped Moment.read? frontPage report.entry).get ⟨1, inSecond⟩).get? "title") ∧
    (∃ text, (info Moment.read? frontPage headlines.info).get? "title" = some text ∧
      (info Moment.read? frontPage report.info).get? "title" = some text) ∧
    (unwrapped Moment.read? frontPage headlines.entry).filterMap (·.get? "title") =
      (unwrapped Moment.read? frontPage report.entry).filterMap (·.get? "title") ∧
    ∃ texts : List String,
      (wrapped Moment.read? frontPage headlines.entry paragraph).map (·.get? "title") =
        texts.map some ∧
      (wrapped Moment.read? frontPage report.entry paragraph).map (·.get? "title") =
        texts.map some := by
  have same := values_eq_of_same_rule Moment.read? frontPage headlines report "title" headline
  obtain ⟨places, column, texts⟩ := same.2 rfl rfl
  have two : (unwrapped Moment.read? frontPage headlines.entry).length = 2 := by decide +kernel
  have three : (unwrapped Moment.read? frontPage report.entry).length = 3 := by decide +kernel
  have inFirst := two.symm ▸ Nat.one_lt_two
  have inSecond := three.symm ▸ (by decide : 1 < 3)
  exact ⟨⟨inFirst, inSecond, places 1 inFirst inSecond⟩, same.1 rfl rfl, column rfl rfl,
    texts paragraph rfl⟩

/-- A rule with a literal and an absolute rule have one text in a page, whichever rule set they stand
in and under whichever name: in the feed, in all entries without containers, and in all entries of
any containers. -/
theorem exists_common_text (rule : Rule) (pageWide : rule.literal.isSome ∨ rule.isAbsolute) :
    ∃ text, ∀ (rules : Fields Rule) (name : String), rules.get? name = some rule →
      (info dates document rules).get? name = some text ∧
      (∀ entry ∈ unwrapped dates document rules, entry.get? name = some text) ∧
      ∀ container, ∀ entry ∈ wrapped dates document rules container,
        entry.get? name = some text := by
  refine ⟨rule.pageText dates document, fun rules name found => ⟨?_, ?_, ?_⟩⟩
  · rw [get?_info, found, Option.map_some]
  · intro entry member
    obtain ⟨place, inside, rfl⟩ := List.getElem_of_mem member
    rw [get?_getElem_unwrapped, found, Option.bind_some,
      rule.textAt?_of_pageWide dates document pageWide]
  · intro container entry member
    obtain ⟨element, _, rfl⟩ := exists_of_mem_wrapped dates document member
    rw [Fields.get?_map, found, Option.map_some,
      rule.textIn_of_pageWide dates document pageWide]

theorem exists_common_text_stamp :
    ∃ text, (info Moment.read? frontPage report.info).get? "date" = some text ∧
      (∀ entry ∈ unwrapped Moment.read? frontPage report.entry, entry.get? "date" = some text) ∧
      ∀ entry ∈ wrapped Moment.read? frontPage report.entry paragraph,
        entry.get? "date" = some text := by
  obtain ⟨text, same⟩ := exists_common_text Moment.read? frontPage stamp (.inr rfl)
  obtain ⟨inFeed, _, _⟩ := same report.info "date" rfl
  obtain ⟨_, inUnwrapped, inWrapped⟩ := same report.entry "date" rfl
  exact ⟨text, inFeed, inUnwrapped, inWrapped paragraph⟩

end Extraction

end PageFeed
