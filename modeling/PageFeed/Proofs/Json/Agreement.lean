import PageFeed.Json.Value.Reading
import PageFeed.Proofs.Json.Quoted

/-! Structured data and JSON values are read from texts by one grammar. Where a text is a JSON value,
the data read from it are that value: they have no flaw, and nothing of it is left out or put in
another order. -/

namespace PageFeed.Json

open Data (Node Item Pair Scalar Fault Mark)

/-! ## Data and values -/

mutual

/-- Data without flaws that are a value, wherever they stand. -/
inductive Denotes : Node → Value → Prop
  | null (mark : Option Mark) : Denotes (.scalar mark (.null "null")) .null
  | bool (mark : Option Mark) (value : Bool) : Denotes (.scalar mark (.ofBool value)) (.bool value)
  | int (mark : Option Mark) (value : Int) : Denotes (.scalar mark (.ofInt value)) (.int value)
  | float (mark : Option Mark) (value : Float) :
    Denotes (.scalar mark (.other (shownFloat value))) (.float value)
  | string (mark : Option Mark) (text : String) :
    Denotes (.scalar mark (.ofText text)) (.string text)
  | array (mark entered : Option Mark) {items : List Item} {values : List Value}
    (each : ItemsDenote items values) : Denotes (.list mark entered false items none) (.array values)
  | object (mark : Option Mark) {pairs : List Pair} {members : List (String × Value)}
    (each : PairsDenote pairs members) : Denotes (.table mark false pairs none) (.object members)

/-- Members of a list that are the items of an array, in their order. -/
inductive ItemsDenote : List Item → List Value → Prop
  | nil : ItemsDenote [] []
  | cons {node : Node} {value : Value} {items : List Item} {values : List Value}
    (unfinished : Option Fault) (first : Denotes node value) (more : ItemsDenote items values) :
    ItemsDenote (⟨node, unfinished⟩ :: items) (value :: values)

/-- Pairs of a table that are the members of an object, in their order. -/
inductive PairsDenote : List Pair → List (String × Value) → Prop
  | nil : PairsDenote [] []
  | cons {name : String} {node : Node} {value : Value} {pairs : List Pair}
    {members : List (String × Value)} (keyMark valueMark : Option Mark)
    (first : Denotes node value) (more : PairsDenote pairs members) :
    PairsDenote (⟨.field name, .scalar keyMark (.ofText name), keyMark, node, valueMark⟩ :: pairs)
      ((name, value) :: members)

end

/-! ## Scalars -/

/-- Letter by letter or at once, a word is read up to the same place. -/
theorem readWord_eq_scalarAt (scalar : Scalar) {word : List Char} {cursor : Cursor}
    (ahead : word <+: cursor.rest) :
    readWord scalar word cursor =
      scalarAt scalar (word.foldl (fun cursor _ => cursor.advance) cursor) := by
  induction word generalizing cursor with
  | nil => rfl
  | cons c word ih =>
    obtain ⟨rest, whole⟩ := ahead
    have next : word <+: cursor.advance.rest := ⟨rest, (Cursor.rest_advance_eq whole.symm).symm⟩
    simp only [readWord, Cursor.peek?_eq whole.symm, beq_self_eq_true, if_true, List.foldl_cons]
    exact ih next

theorem exists_readWord_of_readWord? {word : Value} {letters : String}
    (scalar : Scalar) (denotes : ∀ mark, Denotes (.scalar mark scalar) word) (c : Char)
    {more : List Char} (spelt : letters.toList = c :: more) {cursor behind : Cursor} {value : Value}
    (isRead : Value.readWord? word letters cursor = some (value, behind)) :
    ∃ node, readWord scalar more cursor.advance = (node, some behind) ∧ Denotes node value := by
  rw [Value.readWord?, spelt] at isRead
  split at isRead
  · next ahead =>
    obtain ⟨rest, whole⟩ := List.isPrefixOf_iff_prefix.1 ahead
    obtain ⟨rfl, rfl⟩ := Prod.mk.inj (Option.some.inj isRead)
    have next : more <+: cursor.advance.rest :=
      ⟨rest, (Cursor.rest_advance_eq whole.symm).symm⟩
    exact ⟨_, readWord_eq_scalarAt scalar next, denotes _⟩
  · cases isRead

theorem exists_readNumber_of_readNumber? {isNegative : Bool} {cursor behind : Cursor}
    {value : Value} (isRead : Value.readNumber? isNegative cursor = some (value, behind)) :
    ∃ node, readNumber isNegative cursor = (node, some behind) ∧ Denotes node value := by
  rw [Value.readNumber?] at isRead
  rw [readNumber]
  cases found : Number.read isNegative cursor with
  | error fault =>
    rw [found] at isRead
    cases isRead
  | ok read =>
    rw [found] at isRead
    obtain ⟨number | number, behind'⟩ := read
    · obtain ⟨rfl, rfl⟩ := Prod.mk.inj (Option.some.inj isRead)
      exact ⟨_, rfl, .int _ number⟩
    · obtain ⟨rfl, rfl⟩ := Prod.mk.inj (Option.some.inj isRead)
      exact ⟨_, rfl, .float _ number⟩

/-- A number begins with a digit. -/
theorem Number.exists_digit_of_read {isNegative : Bool} {cursor : Cursor} {found : Number × Cursor}
    (isRead : Number.read isNegative cursor = .ok found) :
    ∃ c, cursor.peek? = some c ∧ Text.isDigit c = true := by
  unfold Number.read at isRead
  split at isRead
  · cases isRead
  · next zero => exact ⟨'0', zero, by decide⟩
  · next c _ here =>
    by_cases digit : Text.isDigit c = true
    · exact ⟨c, here, digit⟩
    · rw [if_neg digit] at isRead
      cases isRead

/-! ## Lists and tables -/

/-- Where a reader of values gets a value, a reader of data gets data that are the value, up to the
same place. -/
def Follows (read : Cursor → Outcome) (readValue? : Cursor → Value.Outcome) : Prop :=
  ∀ cursor value behind, readValue? cursor = some (value, behind) →
    ∃ node, read cursor = (node, some behind) ∧ Denotes node value

section Containers

variable {read : Cursor → Outcome} {readValue? : Cursor → Value.Outcome}

theorem Follows.exists_readItems (follows : Follows read readValue?) {rounds : Nat} {isFirst : Bool}
    {cursor behind : Cursor} {values : List Value}
    (isRead : Value.readItems? readValue? rounds isFirst cursor = some (values, behind)) :
    ∃ items, readItems read rounds isFirst cursor = (items, none, some behind) ∧
      ItemsDenote items values := by
  induction rounds generalizing isFirst cursor values with
  | zero => cases isRead
  | succ rounds ih =>
    rw [Value.readItems?] at isRead
    rw [readItems]
    cases next : nextItem? isFirst cursor with
    | error fault => simp [next, Except.toOption] at isRead
    | ok start? =>
      simp only [next, Except.toOption, Option.bind_eq_bind, Option.bind_some] at isRead
      cases start? with
      | none =>
        obtain ⟨rfl, rfl⟩ := Prod.mk.inj (Option.some.inj isRead)
        exact ⟨[], rfl, .nil⟩
      | some start =>
        simp only [Option.bind_eq_some_iff, Prod.exists] at isRead
        obtain ⟨value, after, valueRead, rest, final, moreRead, whole⟩ := isRead
        obtain ⟨rfl, rfl⟩ := Prod.mk.inj (Option.some.inj whole)
        obtain ⟨node, nodeRead, denotes⟩ := follows start value after valueRead
        obtain ⟨items, itemsRead, each⟩ := ih moreRead
        refine ⟨⟨node, unfinished? after⟩ :: items, ?_, .cons _ denotes each⟩
        simp only [nodeRead, itemsRead]

theorem Follows.exists_readPairs (follows : Follows read readValue?) {size rounds : Nat}
    {isFirst : Bool} {cursor behind : Cursor} {members : List (String × Value)}
    (isRead : Value.readMembers? size readValue? rounds isFirst cursor = some (members, behind)) :
    ∃ pairs, readPairs size read rounds isFirst cursor = (pairs, none, some behind) ∧
      PairsDenote pairs members := by
  induction rounds generalizing isFirst cursor members with
  | zero => cases isRead
  | succ rounds ih =>
    rw [Value.readMembers?] at isRead
    rw [readPairs]
    cases next : nextKey? isFirst cursor with
    | error fault => simp [next, Except.toOption] at isRead
    | ok start? =>
      simp only [next, Except.toOption, Option.bind_eq_bind, Option.bind_some] at isRead
      cases start? with
      | none =>
        obtain ⟨rfl, rfl⟩ := Prod.mk.inj (Option.some.inj isRead)
        exact ⟨[], rfl, .nil⟩
      | some start =>
        simp only [Option.bind_eq_some_iff, Prod.exists] at isRead
        obtain ⟨name, behindKey, keyRead, valueAt, started, value, after, valueRead, rest, final,
          moreRead, whole⟩ := isRead
        obtain ⟨rfl, rfl⟩ := Prod.mk.inj (Option.some.inj whole)
        cases named : Quoted.read size start with
        | error fault => simp [named] at keyRead
        | ok key =>
          cases begun : valueStart behindKey with
          | error fault => simp [begun] at started
          | ok start =>
            simp only [named, Option.some.injEq] at keyRead
            simp only [begun, Option.some.injEq] at started
            subst keyRead started
            obtain ⟨node, nodeRead, denotes⟩ := follows start value after valueRead
            obtain ⟨pairs, pairsRead, each⟩ := ih moreRead
            refine ⟨_, ?_, .cons (some (closingMark '\x7d' behindKey))
              (some (closingMark '\x7d' after)) denotes each⟩
            simp only [named, begun, nodeRead, pairsRead]

end Containers

/-! ## Values -/

/-- What begins with a digit is read as a number. -/
theorem readValue_digit (size depth : Nat) {cursor : Cursor} {c : Char}
    (here : cursor.peek? = some c) (digit : Text.isDigit c = true) :
    readValue size depth cursor = readNumber false cursor := by
  rw [readValue.eq_def]
  dsimp only
  rw [here]
  split
  · next begins => cases begins
  iterate 7
    · next begins =>
      cases begins
      exact absurd digit (by decide)
  · next begins =>
    cases begins
    rw [if_pos digit]

theorem exists_readValue_of_readNumber? (size depth : Nat) {cursor behind : Cursor} {value : Value}
    (isRead : Value.readNumber? false cursor = some (value, behind)) :
    ∃ node, readValue size depth cursor = (node, some behind) ∧ Denotes node value := by
  have number : ∃ found, Number.read false cursor = .ok found := by
    cases found : Number.read false cursor with
    | error fault => simp [Value.readNumber?, found] at isRead
    | ok found => exact ⟨_, rfl⟩
  obtain ⟨c, here, digit⟩ := Number.exists_digit_of_read number.choose_spec
  rw [readValue_digit size depth here digit]
  exact exists_readNumber_of_readNumber? isRead

/-- One level is read alike if all lower ones are. -/
theorem follows_readValue_of_lower {size depth : Nat}
    (lower : ∀ inside, depth = inside + 1 →
      Follows (readValue size inside) (Value.readFrom? size inside)) :
    Follows (readValue size depth) (Value.readFrom? size depth) := by
  intro cursor value behind isRead
  have number := @exists_readValue_of_readNumber? size depth cursor behind value
  rw [Value.readFrom?.eq_def] at isRead
  rw [readValue.eq_def] at number ⊢
  dsimp only at isRead number ⊢
  split at isRead
  · next here =>
    rw [here]
    exact exists_readWord_of_readWord? (.null "null") .null 'n' (by decide) isRead
  · next here =>
    rw [here]
    exact exists_readWord_of_readWord? (.ofBool true) (.bool · true) 't' (by decide) isRead
  · next here =>
    rw [here]
    exact exists_readWord_of_readWord? (.ofBool false) (.bool · false) 'f' (by decide) isRead
  · next here =>
    rw [here]
    exact exists_readNumber_of_readNumber? isRead
  · next here =>
    rw [here]
    obtain ⟨⟨text, after⟩, quoted, whole⟩ := Option.map_eq_some_iff.1 isRead
    obtain ⟨rfl, rfl⟩ := Prod.mk.inj whole
    cases found : Quoted.read size cursor.advance with
    | error fault => simp [found, Except.toOption] at quoted
    | ok readText =>
      simp only [found, Except.toOption, Option.some.injEq] at quoted
      subst quoted
      exact ⟨_, rfl, .string _ text⟩
  · next inside here =>
    rw [here]
    obtain ⟨⟨values, after⟩, itemsRead, whole⟩ := Option.map_eq_some_iff.1 isRead
    obtain ⟨rfl, rfl⟩ := Prod.mk.inj whole
    obtain ⟨items, found, each⟩ := (lower inside rfl).exists_readItems itemsRead
    refine ⟨_, ?_, .array (some cursor.mark) (some (enteredMark cursor.advance)) each⟩
    simp only [found]
  · next inside here =>
    rw [here]
    obtain ⟨⟨members, after⟩, membersRead, whole⟩ := Option.map_eq_some_iff.1 isRead
    obtain ⟨rfl, rfl⟩ := Prod.mk.inj whole
    obtain ⟨pairs, found, each⟩ := (lower inside rfl).exists_readPairs membersRead
    refine ⟨_, ?_, .object (some cursor.mark) each⟩
    simp only [found]
  · exact number isRead

/-- Data are read from every value, with the same bound on the nesting. -/
theorem follows_readValue (size depth : Nat) :
    Follows (readValue size depth) (Value.readFrom? size depth) := by
  induction depth with
  | zero => exact follows_readValue_of_lower fun inside bound => nomatch bound
  | succ depth ih =>
    refine follows_readValue_of_lower fun inside bound => ?_
    obtain rfl := Nat.succ.inj bound
    exact ih

/-- Where a text is a value, the data read from it are that value, and nothing follows them. -/
theorem exists_read_of_read? {text : String} {value : Value}
    (isRead : Value.read? text = some value) :
    ∃ node, read text = (node, none) ∧ Denotes node value := by
  simp only [Value.read?, Option.bind_eq_bind, Option.bind_eq_some_iff, Prod.exists] at isRead
  obtain ⟨found, behind, from?, atEnd⟩ := isRead
  split at atEnd
  · next ends =>
    obtain rfl := Option.some.inj atEnd
    obtain ⟨node, nodeRead, denotes⟩ := follows_readValue _ _ _ _ _ from?
    refine ⟨node, ?_, denotes⟩
    simp only [read, nodeRead, ends, if_true]
  · cases atEnd

end PageFeed.Json
