import PageFeed.Json.Value.Reading
import PageFeed.Proofs.Json.Quoted

/-! JSON values read back from how they are written. All of a value whose leaves are texts and truth
values comes back: names, order and every character. In writing, a control character is escaped, so the
written form has none of them. -/

namespace PageFeed.Json.Value

/-- Texts, truth values, and arrays and objects of such values with no more than `depth` levels. -/
inductive IsPlain : (depth : Nat) → Value → Prop
  | string {depth : Nat} (text : String) : IsPlain depth (.string text)
  | bool {depth : Nat} (value : Bool) : IsPlain depth (.bool value)
  | array {depth : Nat} {items : List Value} (plain : ∀ item ∈ items, IsPlain depth item) :
    IsPlain (depth + 1) (.array items)
  | object {depth : Nat} {members : List (String × Value)}
    (plain : ∀ member ∈ members, IsPlain depth member.2) : IsPlain (depth + 1) (.object members)

/-! ## Written values -/

/-- The comma in front of what is left to write of an array or an object. -/
def comma {α : Type} (isFirst : Bool) (left : List α) : List Char :=
  if isFirst || left.isEmpty then [] else [',']

theorem writeItems_cons (item : Value) (items : List Value) :
    writeItems (item :: items) = item.write ++ (comma false items ++ writeItems items) := by
  cases items with
  | nil => simp [writeItems, comma]
  | cons next items => rw [writeItems] <;> simp [comma]

theorem writeMembers_cons (member : String × Value) (members : List (String × Value)) :
    writeMembers (member :: members) =
      quote member.1 ++ ':' :: (member.2.write ++ (comma false members ++ writeMembers members)) := by
  cases members with
  | nil => simp [writeMembers, comma]
  | cons next members => rw [writeMembers] <;> simp [comma]

theorem IsPlain.exists_cons_write {depth : Nat} {value : Value} (plain : value.IsPlain depth) :
    ∃ c more, value.write = c :: more ∧ Cursor.isSpace c = false ∧ c ≠ ']' := by
  cases plain with
  | string =>
    rw [write]
    exact ⟨'"', _, rfl, rfl, by decide⟩
  | bool value =>
    cases value
    · exact ⟨'f', _, rfl, rfl, by decide⟩
    · exact ⟨'t', _, rfl, rfl, by decide⟩
  | array =>
    rw [write]
    exact ⟨'[', _, rfl, rfl, by decide⟩
  | object =>
    rw [write]
    exact ⟨'\x7b', _, rfl, rfl, by decide⟩

theorem length_le_writeItems {depth : Nat} {items : List Value}
    (plain : ∀ item ∈ items, item.IsPlain depth) : items.length ≤ (writeItems items).length := by
  induction items with
  | nil => simp
  | cons item items ih =>
    obtain ⟨first, more⟩ := List.forall_mem_cons.1 plain
    obtain ⟨_, _, begins, _⟩ := first.exists_cons_write
    have rest := ih more
    rw [writeItems_cons, begins]
    simp only [List.length_append, List.length_cons]
    omega

theorem length_le_writeMembers (members : List (String × Value)) :
    members.length ≤ (writeMembers members).length := by
  induction members with
  | nil => simp
  | cons member members ih =>
    rw [writeMembers_cons]
    simp only [List.length_append, List.length_cons]
    omega

/-! ## Reading -/

/-- A reader takes a written value up to its end, in a text of `size` characters. -/
def IsReadBy (size : Nat) (read? : Cursor → Outcome) (value : Value) : Prop :=
  ∀ (cursor : Cursor) (rest : List Char), cursor.rest = value.write ++ rest →
    cursor.rest.length ≤ size → ∃ behind, read? cursor = some (value, behind) ∧ behind.rest = rest

section Parts

variable {size depth : Nat} {readValue? : Cursor → Outcome} {cursor : Cursor} {rest : List Char}

/-- A key is found behind its opening quote, and the comma in front of it is there unless the key is
the first. -/
theorem exists_nextKey? (isFirst : Bool)
    (ahead : cursor.rest = (if isFirst then [] else [',']) ++ '"' :: rest) :
    ∃ start, nextKey? isFirst cursor = .ok (some start) ∧ start.rest = rest := by
  cases isFirst with
  | true =>
    have here := Cursor.skipSpace_eq_self ahead rfl
    refine ⟨cursor.advance, ?_, Cursor.rest_advance_eq ahead⟩
    simp only [nextKey?, here, Cursor.peek?_eq ahead]
    rfl
  | false =>
    have here := Cursor.skipSpace_eq_self ahead rfl
    have key := Cursor.rest_advance_eq ahead
    have there := Cursor.skipSpace_eq_self key rfl
    refine ⟨cursor.advance.advance, ?_, Cursor.rest_advance_eq key⟩
    simp only [nextKey?, here, Cursor.peek?_eq ahead, there, Cursor.peek?_eq key]
    rfl

/-- A value that does not begin with a blank starts right behind the colon. -/
theorem exists_valueStart {c : Char} {more : List Char} (other : Cursor.isSpace c = false)
    (ahead : cursor.rest = ':' :: c :: more) :
    ∃ start, valueStart cursor = .ok start ∧ start.rest = c :: more := by
  have here := Cursor.skipSpace_eq_self ahead rfl
  have value := Cursor.rest_advance_eq ahead
  refine ⟨cursor.advance, ?_, value⟩
  simp only [valueStart, here, Cursor.peek?_eq ahead, Cursor.skipSpace_eq_self value other]

/-- An item is found behind its comma, if it needs one. -/
theorem exists_nextItem? (isFirst : Bool) {c : Char} {more : List Char}
    (other : Cursor.isSpace c = false) (goesOn : c ≠ ']')
    (ahead : cursor.rest = (if isFirst then [] else [',']) ++ c :: more) :
    ∃ start, nextItem? isFirst cursor = .ok (some start) ∧ start.rest = c :: more := by
  cases isFirst with
  | true =>
    have here := Cursor.skipSpace_eq_self ahead other
    refine ⟨cursor, ?_, ahead⟩
    simp [nextItem?, here, Cursor.peek?_eq ahead]
  | false =>
    have here := Cursor.skipSpace_eq_self ahead rfl
    have item := Cursor.rest_advance_eq ahead
    have there := Cursor.skipSpace_eq_self item other
    refine ⟨cursor.advance, ?_, item⟩
    simp [nextItem?, here, Cursor.peek?_eq ahead, there, Cursor.peek?_eq item]

theorem rest_foldl_advance (letters : List Char) {cursor : Cursor} (ahead : cursor.rest = letters ++ rest) :
    (letters.foldl (fun cursor _ => cursor.advance) cursor).rest = rest := by
  induction letters generalizing cursor with
  | nil => exact ahead
  | cons c letters ih => exact ih (Cursor.rest_advance_eq ahead)

theorem exists_readWord? (value : Value) (word : String) (ahead : cursor.rest = word.toList ++ rest) :
    ∃ behind, readWord? value word cursor = some (value, behind) ∧ behind.rest = rest := by
  have spelt : word.toList.isPrefixOf cursor.rest = true :=
    List.isPrefixOf_iff_prefix.2 ⟨rest, ahead.symm⟩
  exact ⟨_, by rw [readWord?, if_pos spelt], rest_foldl_advance word.toList ahead⟩

theorem exists_readItems? {items : List Value} (plain : ∀ item ∈ items, item.IsPlain depth)
    (isRead : ∀ item ∈ items, item.IsReadBy size readValue?) {rounds : Nat} {isFirst : Bool}
    (enough : items.length < rounds)
    (ahead : cursor.rest = comma isFirst items ++ (writeItems items ++ ']' :: rest))
    (fits : cursor.rest.length ≤ size) :
    ∃ behind, readItems? readValue? rounds isFirst cursor = some (items, behind) ∧
      behind.rest = rest := by
  induction items generalizing rounds isFirst cursor with
  | nil =>
    obtain ⟨rounds, rfl⟩ := Nat.exists_eq_add_one_of_ne_zero (Nat.ne_zero_of_lt enough)
    have ends : cursor.rest = ']' :: rest := by simpa [comma, writeItems] using ahead
    have here := Cursor.skipSpace_eq_self ends rfl
    refine ⟨cursor.advance, ?_, Cursor.rest_advance_eq ends⟩
    simp [readItems?, nextItem?, here, Cursor.peek?_eq ends, Except.toOption]
  | cons item items ih =>
    obtain ⟨rounds, rfl⟩ := Nat.exists_eq_add_one_of_ne_zero (Nat.ne_zero_of_lt enough)
    obtain ⟨itemPlain, plain⟩ := List.forall_mem_cons.1 plain
    obtain ⟨itemRead, isRead⟩ := List.forall_mem_cons.1 isRead
    obtain ⟨c, more, begins, other, goesOn⟩ := itemPlain.exists_cons_write
    have left : cursor.rest = (if isFirst then [] else [',']) ++
        (item.write ++ (comma false items ++ (writeItems items ++ ']' :: rest))) := by
      simpa [comma, writeItems_cons] using ahead
    have count := congrArg List.length left
    simp only [List.length_append] at count
    rw [begins] at left
    obtain ⟨start, found, startLeft⟩ := exists_nextItem? isFirst other goesOn left
    change start.rest = c :: more ++ _ at startLeft
    rw [← begins] at startLeft
    obtain ⟨next, read, nextLeft⟩ := itemRead start _ startLeft (by
      rw [startLeft]
      simp only [List.length_append]
      omega)
    obtain ⟨behind, readMore, behindLeft⟩ :=
      ih plain isRead (Nat.lt_of_succ_lt_succ enough) nextLeft (by
        rw [nextLeft]
        simp only [List.length_append]
        omega)
    refine ⟨behind, ?_, behindLeft⟩
    simp [readItems?, found, read, readMore, Except.toOption]

theorem exists_readMembers? {members : List (String × Value)}
    (plain : ∀ member ∈ members, member.2.IsPlain depth)
    (isRead : ∀ member ∈ members, member.2.IsReadBy size readValue?) {rounds : Nat} {isFirst : Bool}
    (enough : members.length < rounds)
    (ahead : cursor.rest = comma isFirst members ++ (writeMembers members ++ '\x7d' :: rest))
    (fits : cursor.rest.length ≤ size) :
    ∃ behind, readMembers? size readValue? rounds isFirst cursor = some (members, behind) ∧
      behind.rest = rest := by
  induction members generalizing rounds isFirst cursor with
  | nil =>
    obtain ⟨rounds, rfl⟩ := Nat.exists_eq_add_one_of_ne_zero (Nat.ne_zero_of_lt enough)
    have ends : cursor.rest = '\x7d' :: rest := by simpa [comma, writeMembers] using ahead
    have here := Cursor.skipSpace_eq_self ends rfl
    refine ⟨cursor.advance, ?_, Cursor.rest_advance_eq ends⟩
    simp [readMembers?, nextKey?, here, Cursor.peek?_eq ends, Except.toOption]
  | cons member members ih =>
    obtain ⟨rounds, rfl⟩ := Nat.exists_eq_add_one_of_ne_zero (Nat.ne_zero_of_lt enough)
    obtain ⟨memberPlain, plain⟩ := List.forall_mem_cons.1 plain
    obtain ⟨memberRead, isRead⟩ := List.forall_mem_cons.1 isRead
    obtain ⟨c, more, begins, other, _⟩ := memberPlain.exists_cons_write
    have left : cursor.rest = (if isFirst then [] else [',']) ++ '"' ::
        (member.1.toList.flatMap escape ++ '"' :: ':' ::
          (member.2.write ++ (comma false members ++ (writeMembers members ++ '\x7d' :: rest)))) := by
      simpa [comma, writeMembers_cons, quote] using ahead
    -- No text is longer than it is between quotes, so a name has as many rounds as it needs.
    have short := length_le_flatMap_escape member.1.toList
    have count := congrArg List.length left
    simp only [List.length_append, List.length_cons] at count
    obtain ⟨key, found, keyLeft⟩ := exists_nextKey? isFirst left
    obtain ⟨behindKey, named, colonLeft⟩ := exists_read_quote size member.1 (by omega) keyLeft
    rw [begins] at colonLeft
    obtain ⟨start, started, startLeft⟩ := exists_valueStart other colonLeft
    change start.rest = c :: more ++ _ at startLeft
    rw [← begins] at startLeft
    obtain ⟨next, read, nextLeft⟩ := memberRead start _ startLeft (by
      rw [startLeft]
      simp only [List.length_append, List.length_cons]
      omega)
    obtain ⟨behind, readMore, behindLeft⟩ :=
      ih plain isRead (Nat.lt_of_succ_lt_succ enough) nextLeft (by
        rw [nextLeft]
        simp only [List.length_append, List.length_cons]
        omega)
    refine ⟨behind, ?_, behindLeft⟩
    simp [readMembers?, found, named, started, read, readMore, Except.toOption]

end Parts

/-- Each level is read with the bound of the whole text, since no value is longer than its text. -/
theorem IsPlain.isReadBy_readFrom? {depth : Nat} {value : Value} (plain : value.IsPlain depth)
    (size : Nat) : value.IsReadBy size (readFrom? size depth) := by
  induction plain with
  | string text =>
    intro cursor rest ahead fits
    have count := congrArg List.length ahead
    have short := length_le_flatMap_escape text.toList
    simp only [write, quote, List.length_append, List.length_cons] at count
    simp only [write, quote, List.cons_append, List.append_assoc, List.nil_append] at ahead
    obtain ⟨behind, read, left⟩ :=
      exists_read_quote size text (by omega) (Cursor.rest_advance_eq ahead)
    refine ⟨behind, ?_, left⟩
    rw [readFrom?.eq_def]
    simp [Cursor.peek?_eq ahead, read, Except.toOption]
  | bool value =>
    intro cursor rest ahead _
    rw [readFrom?.eq_def]
    cases value with
    | true =>
      simp only [Cursor.peek?_eq ahead]
      exact exists_readWord? (.bool true) "true" ahead
    | false =>
      simp only [Cursor.peek?_eq ahead]
      exact exists_readWord? (.bool false) "false" ahead
  | @array depth items plain isRead =>
    intro cursor rest ahead fits
    have count := congrArg List.length ahead
    have short := length_le_writeItems plain
    simp only [write, List.length_append, List.length_cons] at count
    simp only [write, List.cons_append, List.append_assoc, List.nil_append] at ahead
    have inside : cursor.advance.rest = comma true items ++ (writeItems items ++ ']' :: rest) :=
      Cursor.rest_advance_eq ahead
    have insideFits : cursor.advance.rest.length ≤ size := by
      rw [Cursor.rest_advance, List.length_tail]
      omega
    have enough : items.length < size := by omega
    obtain ⟨behind, read, left⟩ := exists_readItems? plain isRead enough inside insideFits
    refine ⟨behind, ?_, left⟩
    rw [readFrom?.eq_def]
    simp [Cursor.peek?_eq ahead, read]
  | @object depth members plain isRead =>
    intro cursor rest ahead fits
    have count := congrArg List.length ahead
    have short := length_le_writeMembers members
    simp only [write, List.length_append, List.length_cons] at count
    simp only [write, List.cons_append, List.append_assoc, List.nil_append] at ahead
    have inside : cursor.advance.rest = comma true members ++ (writeMembers members ++ '\x7d' :: rest) :=
      Cursor.rest_advance_eq ahead
    have insideFits : cursor.advance.rest.length ≤ size := by
      rw [Cursor.rest_advance, List.length_tail]
      omega
    have enough : members.length < size := by omega
    obtain ⟨behind, read, left⟩ := exists_readMembers? plain isRead enough inside insideFits
    refine ⟨behind, ?_, left⟩
    rw [readFrom?.eq_def]
    simp [Cursor.peek?_eq ahead, read]

theorem IsPlain.read?_text {value : Value} (plain : value.IsPlain maxDepth) :
    read? value.text = some value := by
  have whole : value.text.toList = value.write ++ [] := by simp [text]
  obtain ⟨c, more, begins, other, _⟩ := plain.exists_cons_write
  have start : Cursor.skipSpace { rest := value.text.toList } = { rest := value.text.toList } :=
    Cursor.skipSpace_eq_self (by rw [whole, begins]; rfl) other
  obtain ⟨behind, read, left⟩ :=
    plain.isReadBy_readFrom? value.text.toList.length { rest := value.text.toList } [] whole
      (Nat.le_refl _)
  simp [read?, start, read, Cursor.skipSpace_nil left, left]

/-! ## Control characters -/

/-- None of the characters is a control character. -/
def Printed (written : List Char) : Prop := ∀ c ∈ written, 0x20 ≤ c.toNat

@[simp]
theorem printed_nil : Printed [] := fun _ member => nomatch member

@[simp]
theorem printed_cons {c : Char} {written : List Char} :
    Printed (c :: written) ↔ 0x20 ≤ c.toNat ∧ Printed written := List.forall_mem_cons

@[simp]
theorem printed_append {first second : List Char} :
    Printed (first ++ second) ↔ Printed first ∧ Printed second := List.forall_mem_append

theorem printed_controlDigits (n : Fin 0x20) : Printed (Quoted.controlDigits n) := by
  have all : (Quoted.controlDigits n).all fun c => decide (0x20 ≤ c.toNat) := by
    revert n
    decide
  intro c member
  exact of_decide_eq_true (List.all_eq_true.1 all c member)

theorem printed_escape (c : Char) : Printed (escape c) := by
  unfold escape
  split
  iterate 7 exact printed_cons.2 ⟨by decide, printed_cons.2 ⟨by decide, printed_nil⟩⟩
  split
  · next control =>
    have digits := printed_controlDigits ⟨c.toNat, control⟩
    rw [List.append_assoc]
    exact printed_append.2 ⟨by simp, digits⟩
  · next printed => simpa using printed

theorem printed_quote (text : String) : Printed (quote text) := by
  have inside : Printed (text.toList.flatMap escape) := by
    intro c member
    obtain ⟨plain, _, escaped⟩ := List.mem_flatMap.1 member
    exact printed_escape plain c escaped
  simp [quote, inside]

theorem printed_comma {α : Type} (isFirst : Bool) (left : List α) : Printed (comma isFirst left) := by
  unfold comma
  split <;> simp

theorem printed_writeItems {items : List Value} (printed : ∀ item ∈ items, Printed item.write) :
    Printed (writeItems items) := by
  induction items with
  | nil => simp [writeItems]
  | cons item items ih =>
    obtain ⟨first, more⟩ := List.forall_mem_cons.1 printed
    rw [writeItems_cons]
    simp [first, printed_comma, ih more]

theorem printed_writeMembers {members : List (String × Value)}
    (printed : ∀ member ∈ members, Printed member.2.write) : Printed (writeMembers members) := by
  induction members with
  | nil => simp [writeMembers]
  | cons member members ih =>
    obtain ⟨first, more⟩ := List.forall_mem_cons.1 printed
    rw [writeMembers_cons]
    simp [printed_quote, first, printed_comma, ih more]

theorem IsPlain.printed_write {depth : Nat} {value : Value} (plain : value.IsPlain depth) :
    Printed value.write := by
  induction plain with
  | string text =>
    rw [write]
    exact printed_quote text
  | bool value => cases value <;> simp [write]
  | array _ printed =>
    rw [write]
    simp [printed_writeItems printed]
  | object _ printed =>
    rw [write]
    simp [printed_writeMembers printed]

end PageFeed.Json.Value
