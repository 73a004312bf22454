import PageFeed.Proofs.Fields.Traversal
import PageFeed.Proofs.Json.Agreement
import PageFeed.Proofs.Json.Value
import PageFeed.Rule.Spec.Loading

/-! The keys of written rule sets. A rule set and each of its records take no keys but their own,
wherever they stand in a text. A content descriptor has to have its one key just once, but whatever
else it has is passed over. -/

namespace PageFeed

open Data (Node Item Pair Fault Mark Path)
open Json (Value Denotes PairsDenote)

/-! ## Keys -/

namespace Json.Value

/-- The members of an object. Other values have none. -/
def members : Value → List (String × Value)
  | object members => members
  | _ => []

/-- The keys of an object. -/
def keys (value : Value) : List String := value.members.map Prod.fst

/-- Whether a value counts as missing. -/
def isNull : Value → Bool
  | null => true
  | _ => false

/-- The values under a key. -/
def under (key : String) (value : Value) : List Value :=
  (value.members.filter fun member => member.1 == key).map Prod.snd

/-- What stands for rules in a rule set. -/
def rules (set : Value) : List Value :=
  ((set.under "info" ++ set.under "entry").flatMap fun named => named.members.map Prod.snd) ++
    set.under "entries"

/-- The keys of a rule are those of records. A content descriptor has its key just once, with a text
under it, among any others. -/
def HasOwnKeys (rule : Value) : Prop :=
  (∀ key ∈ rule.keys, key ∈ SpecReading.recordFields) ∧
  ∀ content ∈ rule.under "content", ∀ members, content = .object members →
    ∃ name, content.under "attribute" = [.string name]

theorem mem_under {key : String} {value inner : Value} :
    inner ∈ value.under key ↔ (key, inner) ∈ value.members := by
  simp only [under, List.mem_map, List.mem_filter, beq_iff_eq, Prod.exists]
  constructor
  · rintro ⟨name, _, ⟨isMember, rfl⟩, rfl⟩
    exact isMember
  · exact fun isMember => ⟨key, inner, ⟨isMember, rfl⟩, rfl⟩

/-- What has no members has no keys to misspell. -/
theorem hasOwnKeys_of_members_eq_nil {rule : Value} (none : rule.members = []) : rule.HasOwnKeys := by
  simp [HasOwnKeys, keys, under, none]

/-- Changes the values of an object, with their keys at hand. -/
def mapMembers (f : String → Value → Value) : Value → Value
  | object members => object (members.map fun member => (member.1, f member.1 member.2))
  | value => value

/-- A content mode whose descriptor has no keys but its own. -/
def pruneContent : Value → Value
  | object members => object (members.filter fun member => member.1 == "attribute")
  | value => value

/-- A rule whose descriptors have no keys but their own. -/
def pruneRule : Value → Value :=
  mapMembers fun key value => if key = "content" then value.pruneContent else value

/-- A rule set whose descriptors have no keys but their own. -/
def pruneSet : Value → Value :=
  mapMembers fun key value =>
    if key = "entries" then value.pruneRule else value.mapMembers fun _ => pruneRule

end Json.Value

/-! ## Outcomes -/

theorem Except.toOption_eq_some_iff {ε α : Type} {step : Except ε α} {out : α} :
    step.toOption = some out ↔ step = .ok out := by
  cases step <;> simp [Except.toOption]

theorem Except.toOption_bind {ε α β : Type} (step : Except ε α) (next : α → Except ε β) :
    (step >>= next).toOption = step.toOption.bind fun value => (next value).toOption := by
  cases step <;> rfl

theorem Except.toOption_map {ε α β : Type} (f : α → β) (step : Except ε α) :
    (f <$> step).toOption = step.toOption.map f := by
  cases step <;> rfl

namespace SpecReading

variable {α γ : Type} {node : Node} {value : Value} {pairs : List Pair}
  {members : List (String × Value)}

/-! ## Data without flaws -/

mutual

/-- Data that are a value can be taken in. -/
theorem takeAny_of_denotes {node : Node} {value : Value} (path : Path) (denotes : Denotes node value) :
    node.takeAny path = .ok () := by
  cases denotes with
  | null | bool | float | string => rfl
  | int mark value =>
    simp only [Node.takeAny, Data.Scalar.ofInt]
    by_cases isNegative : value < 0 <;> simp [isNegative]
  | array mark entered each =>
    simp only [Node.takeAny, takeItems_of_denote path 0 each]
    rfl
  | object mark each =>
    simp only [Node.takeAny, takePairs_of_denote path each]
    rfl

theorem takeItems_of_denote {items : List Item} {values : List Value} (path : Path) (index : Nat)
    (each : Json.ItemsDenote items values) : Node.takeItems path index items = .ok () := by
  cases each with
  | nil => rfl
  | cons unfinished first more =>
    rw [Node.takeItems, takeAny_of_denotes _ first]
    exact takeItems_of_denote path (index + 1) more

theorem takePairs_of_denote {pairs : List Pair} {members : List (String × Value)} (path : Path)
    (each : PairsDenote pairs members) : Node.takePairs path pairs = .ok () := by
  cases each with
  | nil => rfl
  | cons keyMark valueMark first more =>
    rw [Node.takePairs, takeAny_of_denotes _ first]
    exact takePairs_of_denote path more

end

/-- Only what is `null` counts as missing. -/
theorem readOptional_of_denotes (read : Path → Node → Except Fault α) (spot : Spot)
    (denotes : Denotes node value) :
    readOptional read spot node =
      if value.isNull then .ok none else some <$> read spot.path node := by
  cases denotes <;> rfl

end SpecReading

/-! ## Content modes -/

/-- The content mode that a value is: a name, or an object with one attribute, which is a text. -/
def Json.Value.content? (value : Value) : Option ContentSpec :=
  match value with
  | string name => some (.named name)
  | object members =>
    match (object members).under "attribute" with
    | [string name] => some (.attr name)
    | _ => none
  | _ => none

namespace SpecReading

theorem exists_attributeValues? {pairs : List Pair} {members : List (String × Value)}
    (each : PairsDenote pairs members) :
    ∃ nodes, attributeValues? pairs = some nodes ∧
      List.Forall₂ Denotes nodes ((Value.object members).under "attribute") := by
  induction members generalizing pairs with
  | nil =>
    cases each
    exact ⟨[], rfl, .nil⟩
  | cons member members ih =>
    cases each with
    | @cons name node value pairs _ keyMark valueMark first more =>
      obtain ⟨nodes, found, alike⟩ := ih more
      have key : isAttributeKey? (.scalar keyMark (.ofText name)) = some (name == "attribute") := rfl
      rw [attributeValues?, key, found]
      cases isKey : name == "attribute" with
      | true =>
        refine ⟨node :: nodes, rfl, ?_⟩
        rw [Value.under, Value.members, List.filter_cons_of_pos (by exact isKey)]
        exact .cons first alike
      | false =>
        refine ⟨nodes, rfl, ?_⟩
        rw [Value.under, Value.members, List.filter_cons_of_neg (by simp [isKey])]
        exact alike

theorem contentOf?_of_denotes {node : Node} {value : Value} (denotes : Denotes node value) :
    contentOf? node = value.content? := by
  cases denotes with
  | null | bool | float | string | array => rfl
  | int mark value =>
    by_cases isNegative : value < 0 <;>
      simp [contentOf?, Data.Scalar.ofInt, isNegative, Value.content?]
  | object mark each =>
    obtain ⟨nodes, found, alike⟩ := exists_attributeValues? each
    simp only [contentOf?, found, Value.content?]
    generalize (Value.object _).under "attribute" = values at alike
    cases alike with
    | nil => rfl
    | cons first more =>
      cases more with
      | nil =>
        cases first with
        | int mark value => by_cases isNegative : value < 0 <;> simp [Data.Scalar.ofInt, isNegative]
        | null | bool | float | string | array | object => rfl
      | cons second rest => simp

/-- A content mode is read from the value as a whole, wherever it stands. -/
theorem toOption_readContent (spot : Spot) {node : Node} {value : Value}
    (denotes : Denotes node value) : (readContent spot node).toOption = value.content? := by
  rw [readContent, takeAny_of_denotes spot.path denotes, contentOf?_of_denotes denotes]
  cases value.content? <;> rfl

end SpecReading

theorem Json.Value.under_pruneContent (content : Value) :
    content.pruneContent.under "attribute" = content.under "attribute" := by
  cases content with
  | object members => simp [pruneContent, under, Value.members, List.filter_filter]
  | null | bool | int | float | string | array => rfl

/-- Keys beside the one of a descriptor make no difference to what it is. -/
theorem Json.Value.content?_pruneContent (content : Value) :
    content.pruneContent.content? = content.content? := by
  have same := under_pruneContent content
  cases content with
  | object members =>
    rw [pruneContent] at same ⊢
    rw [content?, content?, same]
  | null | bool | int | float | string | array => rfl

theorem Json.Value.exists_under_of_content? {members : List (String × Value)} {content : ContentSpec}
    (isMode : (object members).content? = some content) :
    ∃ name, (object members).under "attribute" = [string name] := by
  rw [content?] at isMode
  split at isMode
  · next name single => exact ⟨name, single⟩
  · cases isMode

/-! ## Records -/

namespace SpecReading

/-- A record is read on behind a field if its name is known and new, and its value is taken. -/
theorem toOption_readFields_cons {α : Type} (known seen : List String)
    (put : String → Spot → Node → α → Except Fault α) (path : Path) (name : String)
    (keyMark valueMark : Option Mark) (node : Node) (pairs : List Pair) (record : α) :
    (readFields known put path seen
      (⟨.field name, .scalar keyMark (.ofText name), keyMark, node, valueMark⟩ :: pairs)
      record).toOption =
    if name ∈ known ∧ name ∉ seen then
      (put name ⟨path, valueMark, .field name :: path⟩ node record).toOption.bind fun record =>
        (readFields known put path (name :: seen) pairs record).toOption
    else none := by
  have key : readText "field identifier" path (.scalar keyMark (.ofText name)) = .ok name := rfl
  rw [readFields, key]
  by_cases isKnown : name ∈ known
  · by_cases isSeen : name ∈ seen
    · simp [isKnown, isSeen, bind, Except.bind, Except.toOption]
    · rw [if_pos ⟨isKnown, isSeen⟩, ← Except.toOption_bind]
      simp [isKnown, isSeen, bind, Except.bind]
  · simp [isKnown, bind, Except.bind, Except.toOption]

/-- Every field that a record is read from has a known name and a value that is taken. -/
theorem forall_mem_of_readFields {α : Type} {known seen : List String}
    {put : String → Spot → Node → α → Except Fault α} {path : Path} {pairs : List Pair}
    {members : List (String × Value)} {record out : α} (each : PairsDenote pairs members)
    (isRead : (readFields known put path seen pairs record).toOption = some out) :
    ∀ member ∈ members, member.1 ∈ known ∧ ∃ spot node before after,
      Denotes node member.2 ∧ (put member.1 spot node before).toOption = some after := by
  induction members generalizing pairs seen record with
  | nil => exact fun _ isMember => absurd isMember List.not_mem_nil
  | cons member members ih =>
    cases each with
    | @cons name node value pairs _ keyMark valueMark first more =>
      rw [toOption_readFields_cons] at isRead
      split at isRead
      · next isNew =>
        obtain ⟨after, isPut, isRead⟩ := Option.bind_eq_some_iff.1 isRead
        exact List.forall_mem_cons.2
          ⟨⟨isNew.1, _, node, record, after, first, isPut⟩, ih more isRead⟩
      · cases isRead

theorem toOption_readNamed_cons {α : Type} (read : Path → Node → Except Fault α) (path : Path)
    (name : String) (keyMark valueMark : Option Mark) (node : Node) (pairs : List Pair)
    (fields : Fields α) :
    (readNamed read path
      (⟨.field name, .scalar keyMark (.ofText name), keyMark, node, valueMark⟩ :: pairs)
      fields).toOption =
    (read (.field name :: path) node).toOption.bind fun value =>
      (readNamed read path pairs (fields.insert name value)).toOption := by
  have key : readText "a string" path (.scalar keyMark (.ofText name)) = .ok name := rfl
  rw [readNamed, key, ← Except.toOption_bind]
  rfl

/-- Every value that named values are read from is taken. -/
theorem forall_mem_of_readNamed {α : Type} {read : Path → Node → Except Fault α} {path : Path}
    {pairs : List Pair} {members : List (String × Value)} {fields out : Fields α}
    (each : PairsDenote pairs members)
    (isRead : (readNamed read path pairs fields).toOption = some out) :
    ∀ member ∈ members, ∃ path node after,
      Denotes node member.2 ∧ (read path node).toOption = some after := by
  induction members generalizing pairs fields with
  | nil => exact fun _ isMember => absurd isMember List.not_mem_nil
  | cons member members ih =>
    cases each with
    | @cons name node value pairs _ keyMark valueMark first more =>
      rw [toOption_readNamed_cons] at isRead
      obtain ⟨after, isTaken, isRead⟩ := Option.bind_eq_some_iff.1 isRead
      exact List.forall_mem_cons.2 ⟨⟨_, node, after, first, isTaken⟩, ih more isRead⟩

/-! ## Accepted keys -/

theorem null_or_exists_of_readOptional {α : Type} {read : Path → Node → Except Fault α} {spot : Spot}
    {node : Node} {value : Value} {out : Option α} (denotes : Denotes node value)
    (isRead : (readOptional read spot node).toOption = some out) :
    value = .null ∨ ∃ content, (read spot.path node).toOption = some content := by
  rw [readOptional_of_denotes read spot denotes] at isRead
  split at isRead
  · next isNull =>
    cases value with
    | null => exact .inl rfl
    | bool | int | float | string | array | object => cases isNull
  · rw [Except.toOption_map] at isRead
    obtain ⟨content, isRead, -⟩ := Option.map_eq_some_iff.1 isRead
    exact .inr ⟨content, isRead⟩

theorem toOption_readRule_table (path : Path) (mark : Option Mark) (pairs : List Pair) :
    (readRule path (.table mark false pairs none)).toOption =
      (readFields recordFields readRecordField path [] pairs {}).toOption.map .record := by
  rw [readRule]
  cases readFields recordFields readRecordField path [] pairs {} <;> rfl

theorem toOption_readRules_table (path : Path) (mark : Option Mark) (pairs : List Pair) :
    (readRules path (.table mark false pairs none)).toOption =
      (readNamed readRule path pairs ∅).toOption := by
  rw [readRules]
  cases readNamed readRule path pairs ∅ <;> rfl

theorem exists_under_of_readRecordField {spot : Spot} {node : Node} {content : Value}
    {record out : RuleRecord} (denotes : Denotes node content)
    (isRead : (readRecordField "content" spot node record).toOption = some out)
    {members : List (String × Value)} (isObject : content = .object members) :
    ∃ name, content.under "attribute" = [.string name] := by
  subst isObject
  rw [readRecordField, Except.toOption_bind] at isRead
  obtain ⟨content, isRead, -⟩ := Option.bind_eq_some_iff.1 isRead
  rcases null_or_exists_of_readOptional denotes isRead with isNull | ⟨mode, isMode⟩
  · cases isNull
  · rw [toOption_readContent spot denotes] at isMode
    exact Json.Value.exists_under_of_content? isMode

theorem hasOwnKeys_of_readRule {path : Path} {node : Node} {rule : Value} {out : RuleSpec}
    (denotes : Denotes node rule) (isRead : (readRule path node).toOption = some out) :
    rule.HasOwnKeys := by
  cases denotes with
  | null | bool | int | float | string | array =>
    exact Json.Value.hasOwnKeys_of_members_eq_nil rfl
  | object mark each =>
    rw [toOption_readRule_table] at isRead
    obtain ⟨record, isRead, -⟩ := Option.map_eq_some_iff.1 isRead
    have taken := forall_mem_of_readFields each isRead
    refine ⟨List.forall_mem_map.2 fun member isMember => (taken member isMember).1, ?_⟩
    intro content isMember inner isObject
    obtain ⟨-, spot, node, before, after, denotes, isRead⟩ :=
      taken _ (Json.Value.mem_under.1 isMember)
    exact exists_under_of_readRecordField denotes isRead isObject

theorem hasOwnKeys_of_readRules {path : Path} {node : Node} {named : Value} {out : Fields RuleSpec}
    (denotes : Denotes node named) (isRead : (readRules path node).toOption = some out) :
    ∀ member ∈ named.members, member.2.HasOwnKeys := by
  cases denotes with
  | null | bool | int | float | string | array =>
    exact fun _ isMember => absurd isMember List.not_mem_nil
  | object mark each =>
    rw [toOption_readRules_table] at isRead
    intro member isMember
    obtain ⟨path, node, after, denotes, isRead⟩ := forall_mem_of_readNamed each isRead member isMember
    exact hasOwnKeys_of_readRule denotes isRead

/-- In each field of a rule set, the rules have no keys but their own. -/
theorem hasOwnKeys_of_readSetField {name : String} {spot : Spot} {node : Node} {value : Value}
    {set out : RuleSetSpec} (denotes : Denotes node value)
    (isRead : (readSetField name spot node set).toOption = some out) :
    (name = "entries" → value.HasOwnKeys) ∧
    (name = "info" ∨ name = "entry" → ∀ member ∈ value.members, member.2.HasOwnKeys) := by
  unfold readSetField at isRead
  -- the rules of the feed, those of the entries, the rule of the containers, and no other field
  split at isRead
  · rw [Except.toOption_bind] at isRead
    obtain ⟨rules, isRead, -⟩ := Option.bind_eq_some_iff.1 isRead
    exact ⟨fun same => absurd same (by decide), fun _ => hasOwnKeys_of_readRules denotes isRead⟩
  · rw [Except.toOption_bind] at isRead
    obtain ⟨rules, isRead, -⟩ := Option.bind_eq_some_iff.1 isRead
    refine ⟨fun same => absurd same (by decide), fun _ => ?_⟩
    rcases null_or_exists_of_readOptional denotes isRead with rfl | ⟨rules, isRead⟩
    · exact fun _ isMember => absurd isMember List.not_mem_nil
    · exact hasOwnKeys_of_readRules denotes isRead
  · rw [Except.toOption_bind] at isRead
    obtain ⟨rule, isRead, -⟩ := Option.bind_eq_some_iff.1 isRead
    refine ⟨fun _ => ?_, fun same => absurd same (by decide)⟩
    rcases null_or_exists_of_readOptional denotes isRead with rfl | ⟨rule, isRead⟩
    · exact Json.Value.hasOwnKeys_of_members_eq_nil rfl
    · exact hasOwnKeys_of_readRule denotes isRead
  · next notInfo notEntry notEntries =>
    exact ⟨fun same => absurd same notEntries, fun same => (same.elim notInfo notEntry).elim⟩

/-! ## Passed over keys -/

/-- A reader takes one value as it takes another, wherever they stand. -/
def ReadAlike {α γ : Type} (read : γ → Node → Except Fault α) (value other : Value) : Prop :=
  ∀ place place' node node', Denotes node value → Denotes node' other →
    (read place node).toOption = (read place' node').toOption

theorem readAlike_text (expected : String) (value : Value) :
    ReadAlike (readText expected) value value := by
  intro path path' node node' denotes denotes'
  cases denotes <;> cases denotes' <;> rfl

theorem readAlike_truth (value : Value) : ReadAlike readTruth value value := by
  intro path path' node node' denotes denotes'
  cases denotes <;> cases denotes' <;> rfl

theorem ReadAlike.optional {α : Type} {read : Spot → Path → Node → Except Fault α}
    {value other : Value} (alike : ReadAlike (fun spot => read spot spot.path) value other)
    (sameNull : value.isNull = other.isNull) :
    ReadAlike (fun spot => readOptional (read spot) spot) value other := by
  intro spot spot' node node' denotes denotes'
  have same := alike spot spot' node node' denotes denotes'
  dsimp only at same ⊢
  rw [readOptional_of_denotes _ spot denotes, readOptional_of_denotes _ spot' denotes', sameNull]
  cases other.isNull with
  | true => rfl
  | false => simpa only [Bool.false_eq_true, if_false, Except.toOption_map] using congrArg _ same

theorem ReadAlike.bind {α β γ : Type} {read : γ → Node → Except Fault α} {value other : Value}
    (alike : ReadAlike read value other) (next : α → Except Fault β) :
    ReadAlike (fun place node => read place node >>= next) value other := by
  intro place place' node node' denotes denotes'
  rw [Except.toOption_bind, Except.toOption_bind, alike place place' node node' denotes denotes']

theorem readAlike_content (content : Value) :
    ReadAlike readContent content content.pruneContent := by
  intro spot spot' node node' denotes denotes'
  rw [toOption_readContent spot denotes, toOption_readContent spot' denotes',
    content.content?_pruneContent]

/-- Records are read alike from fields of the same names whose values are. -/
theorem toOption_readFields_map {α : Type} {known : List String}
    {put : String → Spot → Node → α → Except Fault α} {f : String → Value → Value}
    (alike : ∀ name record value, ReadAlike (put name · · record) value (f name value))
    {path path' : Path} {seen : List String} {pairs pairs' : List Pair}
    {members : List (String × Value)} (record : α) (each : PairsDenote pairs members)
    (each' : PairsDenote pairs' (members.map fun member => (member.1, f member.1 member.2))) :
    (readFields known put path seen pairs record).toOption =
      (readFields known put path' seen pairs' record).toOption := by
  -- names are the same on both sides, so the same ones are unknown and the same ones are repeated
  induction members generalizing pairs pairs' seen record with
  | nil =>
    cases each
    cases each'
    rfl
  | cons member members ih =>
    cases each with
    | @cons name node value pairs _ keyMark valueMark first more =>
      cases each' with
      | @cons _ node' _ pairs' _ keyMark' valueMark' first' more' =>
        have same := alike name record value ⟨path, valueMark, .field name :: path⟩
          ⟨path', valueMark', .field name :: path'⟩ node node' first first'
        have later : ∀ after,
            (readFields known put path (name :: seen) pairs after).toOption =
              (readFields known put path' (name :: seen) pairs' after).toOption :=
          fun after => ih after more more'
        rw [toOption_readFields_cons, toOption_readFields_cons, same]
        simp only [later]

theorem toOption_readNamed_map {α : Type} {read : Path → Node → Except Fault α} {f : Value → Value}
    (alike : ∀ value, ReadAlike read value (f value)) {path path' : Path} {pairs pairs' : List Pair}
    {members : List (String × Value)} (fields : Fields α) (each : PairsDenote pairs members)
    (each' : PairsDenote pairs' (members.map fun member => (member.1, f member.2))) :
    (readNamed read path pairs fields).toOption = (readNamed read path' pairs' fields).toOption := by
  induction members generalizing pairs pairs' fields with
  | nil =>
    cases each
    cases each'
    rfl
  | cons member members ih =>
    cases each with
    | @cons name node value pairs _ keyMark valueMark first more =>
      cases each' with
      | @cons _ node' _ pairs' _ keyMark' valueMark' first' more' =>
        have same := alike value (.field name :: path) (.field name :: path') node node' first first'
        have later : ∀ after, (readNamed read path pairs (fields.insert name after)).toOption =
            (readNamed read path' pairs' (fields.insert name after)).toOption :=
          fun after => ih (fields.insert name after) more more'
        rw [toOption_readNamed_cons, toOption_readNamed_cons, same]
        simp only [later]

theorem isNull_pruneContent (content : Value) : content.isNull = content.pruneContent.isNull := by
  cases content <;> rfl

/-- Of the fields of a record, only the content mode has a descriptor. -/
theorem readAlike_recordField (name : String) (record : RuleRecord) (value : Value) :
    ReadAlike (readRecordField name · · record) value
      (if name = "content" then value.pruneContent else value) := by
  by_cases isContent : name = "content"
  · have alike := @ReadAlike.optional _ (fun spot _ => readContent spot) _ _
      (readAlike_content value) (isNull_pruneContent value)
    rw [isContent, if_pos rfl]
    exact alike.bind _
  · have text : ReadAlike readOptionalText value value :=
      ReadAlike.optional (fun spot spot' => readAlike_text _ value spot.path spot'.path) rfl
    have truth : ReadAlike (fun spot : Spot => readTruth spot.path) value value :=
      fun spot spot' => readAlike_truth value spot.path spot'.path
    rw [if_neg isContent]
    intro spot spot' node node' denotes denotes'
    unfold readRecordField
    -- all fields but the second, which is a truth, and the content mode in the fourth arm are texts
    split
    case h_2 => exact truth.bind _ spot spot' node node' denotes denotes'
    case h_4 => exact absurd rfl isContent
    case h_10 => rfl
    all_goals exact text.bind _ spot spot' node node' denotes denotes'

theorem readAlike_rule (rule : Value) : ReadAlike readRule rule rule.pruneRule := by
  intro path path' node node' denotes denotes'
  cases denotes with
  | object mark each =>
    cases denotes' with
    | object mark' each' =>
      rw [toOption_readRule_table, toOption_readRule_table,
        toOption_readFields_map readAlike_recordField {} each each']
  | int mark number =>
    cases denotes'
    by_cases isNegative : number < 0 <;>
      simp [readRule, Data.Scalar.ofInt, isNegative, Except.toOption]
  | null | bool | float | string | array =>
    cases denotes'
    rfl

theorem readAlike_rules (named : Value) :
    ReadAlike readRules named (named.mapMembers fun _ => Value.pruneRule) := by
  intro path path' node node' denotes denotes'
  cases denotes with
  | object mark each =>
    cases denotes' with
    | object mark' each' =>
      rw [toOption_readRules_table, toOption_readRules_table,
        toOption_readNamed_map readAlike_rule ∅ each each']
  | null | bool | int | float | string | array =>
    cases denotes'
    rfl

theorem isNull_mapMembers (f : String → Value → Value) (value : Value) :
    value.isNull = (value.mapMembers f).isNull := by
  cases value <;> rfl

theorem readAlike_setField (name : String) (set : RuleSetSpec) (value : Value) :
    ReadAlike (readSetField name · · set) value
      (if name = "entries" then value.pruneRule else value.mapMembers fun _ => Value.pruneRule) := by
  have info : ReadAlike (fun spot : Spot => readRules spot.path) value
      (value.mapMembers fun _ => Value.pruneRule) :=
    fun spot spot' => readAlike_rules value spot.path spot'.path
  have entry := @ReadAlike.optional _ (fun _ => readRules) _ _ info (isNull_mapMembers _ value)
  have entries := @ReadAlike.optional _ (fun _ => readRule) _ _
    (fun spot spot' => readAlike_rule value spot.path spot'.path) (isNull_mapMembers _ value)
  by_cases isContainer : name = "entries"
  · rw [isContainer, if_pos rfl]
    exact entries.bind _
  · rw [if_neg isContainer]
    intro spot spot' node node' denotes denotes'
    unfold readSetField
    split
    · exact info.bind _ spot spot' node node' denotes denotes'
    · exact entry.bind _ spot spot' node node' denotes denotes'
    · exact absurd rfl isContainer
    · rfl

end SpecReading

/-! ## Rule sets -/

open SpecReading

namespace RuleSetSpec

theorem toOption_ofNode_table (mark : Option Mark) (pairs : List Pair) :
    (ofNode true (.table mark false pairs none)).toOption =
      (readFields setFields readSetField [] [] pairs {}).toOption := by
  rw [ofNode]
  cases readFields setFields readSetField [] [] pairs {} <;> rfl

/-- A text that is an object is loaded from the fields that are its members. -/
theorem exists_toOption_ofJson {text : String} {members : List (String × Value)}
    (isObject : Value.read? text = some (.object members)) :
    ∃ pairs, PairsDenote pairs members ∧
      (ofJson text).toOption = (readFields setFields readSetField [] [] pairs {}).toOption := by
  obtain ⟨node, read, denotes⟩ := Json.exists_read_of_read? isObject
  cases denotes with
  | @object mark pairs _ each =>
    refine ⟨pairs, each, ?_⟩
    rw [← toOption_ofNode_table mark pairs, ofJson, read]
    dsimp only
    cases ofNode true (.table mark false pairs none) <;> rfl

theorem hasOwnKeys_of_ofJson {text : String} {members : List (String × Value)} {spec : RuleSetSpec}
    (isObject : Value.read? text = some (.object members)) (loads : ofJson text = .ok spec) :
    (∀ key ∈ (Value.object members).keys, key ∈ setFields) ∧
    ∀ rule ∈ (Value.object members).rules, rule.HasOwnKeys := by
  obtain ⟨pairs, each, same⟩ := exists_toOption_ofJson isObject
  rw [loads] at same
  have taken := forall_mem_of_readFields each same.symm
  refine ⟨List.forall_mem_map.2 fun member isMember => (taken member isMember).1, ?_⟩
  intro rule isRule
  rw [Value.rules, List.mem_append, List.mem_flatMap] at isRule
  rcases isRule with ⟨named, isNamed, isRule⟩ | isRule
  · obtain ⟨member, isMember, rfl⟩ := List.mem_map.1 isRule
    rcases List.mem_append.1 isNamed with isNamed | isNamed
    · obtain ⟨-, spot, node, before, after, denotes, isRead⟩ := taken _ (Value.mem_under.1 isNamed)
      exact (hasOwnKeys_of_readSetField denotes isRead).2 (.inl rfl) member isMember
    · obtain ⟨-, spot, node, before, after, denotes, isRead⟩ := taken _ (Value.mem_under.1 isNamed)
      exact (hasOwnKeys_of_readSetField denotes isRead).2 (.inr rfl) member isMember
  · obtain ⟨-, spot, node, before, after, denotes, isRead⟩ := taken _ (Value.mem_under.1 isRule)
    exact (hasOwnKeys_of_readSetField denotes isRead).1 rfl

/-- Whatever keeps a text from being loaded is reported as wrong JSON. -/
theorem exists_json_of_ofJson_ne_ok {text : String} (fails : ∀ spec, ofJson text ≠ .ok spec) :
    ∃ fault, ofJson text = .error (.json fault) := by
  cases outcome : ofJson text with
  | ok spec => exact absurd outcome (fails spec)
  | error error =>
    rw [ofJson] at outcome
    dsimp only at outcome
    split at outcome
    · cases outcome
    · cases outcome
      exact ⟨_, rfl⟩
    · cases outcome
      exact ⟨_, rfl⟩

theorem toOption_ofJson_prune {text pruned : String} {members : List (String × Value)}
    (isObject : Value.read? text = some (.object members))
    (isPruned : Value.read? pruned = some (Value.object members).pruneSet) :
    (ofJson text).toOption = (ofJson pruned).toOption := by
  obtain ⟨pairs, each, loaded⟩ := exists_toOption_ofJson isObject
  obtain ⟨pairs', each', loaded'⟩ := exists_toOption_ofJson isPruned
  rw [loaded, loaded']
  exact toOption_readFields_map readAlike_setField {} each each'

/-- A JSON object is loaded as a rule set only if all its keys are those of rule sets and all keys of
its rules are those of records, and with any other key it is reported as wrong JSON. A content
descriptor has its own key just once. The keys that it has beside that one are passed over: a text
loads as it would without them. -/
theorem ofJson_strict {text : String} {members : List (String × Value)}
    (isObject : Value.read? text = some (.object members)) :
    (∀ spec, ofJson text = .ok spec →
      (∀ key ∈ (Value.object members).keys, key ∈ setFields) ∧
      ∀ rule ∈ (Value.object members).rules, rule.HasOwnKeys) ∧
    ((∃ key ∈ (Value.object members).keys, key ∉ setFields) ∨
        (∃ rule ∈ (Value.object members).rules, ∃ key ∈ rule.keys, key ∉ recordFields) →
      ∃ fault, ofJson text = .error (.json fault)) ∧
    ∀ pruned, Value.read? pruned = some (Value.object members).pruneSet →
      ∀ spec, ofJson text = .ok spec ↔ ofJson pruned = .ok spec := by
  refine ⟨fun spec => hasOwnKeys_of_ofJson isObject, fun other => ?_, fun pruned isPruned spec => ?_⟩
  · refine exists_json_of_ofJson_ne_ok fun spec loads => ?_
    obtain ⟨ownKeys, ownRules⟩ := hasOwnKeys_of_ofJson isObject loads
    rcases other with ⟨key, isKey, isOther⟩ | ⟨rule, isRule, key, isKey, isOther⟩
    · exact isOther (ownKeys key isKey)
    · exact isOther ((ownRules rule isRule).1 key isKey)
  · rw [← Except.toOption_eq_some_iff, ← Except.toOption_eq_some_iff,
      toOption_ofJson_prune isObject isPruned]

/-- Named texts as members of an object. -/
def textMembers (texts : List (String × String)) : List (String × Value) :=
  texts.map fun text => (text.1, .string text.2)

/-- A rule set for links, whose record and whose descriptor may have further keys. -/
def linkRules (inRecord inDescriptor : List (String × String)) : Value :=
  .object [("entry", .object [("link", .object
    (("content", .object (textMembers (("attribute", "href") :: inDescriptor))) ::
      textMembers (("selector", "a") :: inRecord)))])]

theorem read?_linkRules (inRecord inDescriptor : List (String × String)) :
    Value.read? (linkRules inRecord inDescriptor).text = some (linkRules inRecord inDescriptor) := by
  have plain (depth : Nat) (texts : List (String × String)) :
      ∀ member ∈ textMembers texts, member.2.IsPlain depth :=
    List.forall_mem_map.2 fun text _ => .string text.2
  refine Value.IsPlain.read?_text ?_
  refine .object (List.forall_mem_singleton.2 (.object (List.forall_mem_singleton.2 (.object ?_))))
  exact List.forall_mem_cons.2 ⟨.object (plain 123 _), plain 124 _⟩

/-- A misspelt key in a record is noticed. One in a content descriptor is passed over, with all that is
under it. -/
theorem ofJson_selecter :
    (∃ fault, ofJson (linkRules [("selecter", "b")] []).text = .error (.json fault)) ∧
    ∀ spec, ofJson (linkRules [] [("atribute", "title")]).text = .ok spec ↔
      ofJson (linkRules [] []).text = .ok spec :=
  ⟨(ofJson_strict (read?_linkRules [("selecter", "b")] [])).2.1
      (.inr ⟨_, List.mem_singleton_self _, "selecter", by decide, by decide⟩),
    (ofJson_strict (read?_linkRules [] [("atribute", "title")])).2.2 _ (read?_linkRules [] [])⟩

/-- A rule set is loaded in spite of a misspelt key in a content descriptor. -/
theorem ofJson_misspelt_descriptor :
    Value.read? (linkRules [] [("atribute", "title")]).text =
      some (linkRules [] [("atribute", "title")]) ∧
    (∃ rule ∈ (linkRules [] [("atribute", "title")]).rules, ∃ content ∈ rule.under "content",
      "atribute" ∈ content.keys) ∧
    ofJson (linkRules [] [("atribute", "title")]).text =
      .ok { entry := some (Fields.ofList
        [("link", .record { selector := some "a", content := some (.attr "href") })]) } := by
  refine ⟨read?_linkRules _ _, ?_, ?_⟩
  · exact ⟨_, List.mem_singleton_self _, _, List.mem_singleton_self _, by decide⟩
  · decide +kernel

end RuleSetSpec

end PageFeed
