import Mathlib.Data.List.Basic
import PageFeed.Json.Quoted
import PageFeed.Json.Value

/-! Texts between quotes read back from how they are written. Every character is read from its escape,
so the reader takes one round for each and stops at the closing quote. -/

namespace PageFeed.Json

/-! ## Positions -/

namespace Cursor

variable {cursor : Cursor} {c : Char} {rest : List Char}

theorem peek?_eq (ahead : cursor.rest = c :: rest) : cursor.peek? = some c := by
  rw [peek?, ahead, List.head?_cons]

theorem rest_advance (cursor : Cursor) : cursor.advance.rest = cursor.rest.tail := by
  unfold advance
  split <;> simp [*]

theorem rest_advance_eq (ahead : cursor.rest = c :: rest) : cursor.advance.rest = rest := by
  rw [rest_advance, ahead, List.tail_cons]

/-- Blanks are skipped only where there are some. -/
theorem skipSpace_eq_self (ahead : cursor.rest = c :: rest) (other : isSpace c = false) :
    cursor.skipSpace = cursor := by
  obtain ⟨_, line, column⟩ := cursor
  simp only at ahead
  subst ahead
  simp [skipSpace, skipFrom, other]

theorem skipSpace_nil (done : cursor.rest = []) : cursor.skipSpace = cursor := by
  obtain ⟨_, line, column⟩ := cursor
  simp only at done
  subst done
  rfl

end Cursor

/-! ## Escapes -/

namespace Quoted

open Text (hexDigit?)

/-- Four digits that each take one byte are read as one number. -/
theorem exists_readUnit {cursor : Cursor} {digits rest : List Char} {unit : Nat}
    (ahead : cursor.rest = digits ++ rest) (four : digits.length = 4)
    (narrow : ∀ c ∈ digits, c.utf8Size = 1)
    (value : (digits.mapM hexDigit?).map (·.foldl (fun n digit => 16 * n + digit) 0) = some unit) :
    ∃ behind, readUnit cursor = .ok (unit, behind) ∧ behind.rest = rest := by
  have first : cursor.rest.take 4 = digits := by
    rw [ahead, ← four, List.take_left]
  have bytes : digits.flatMap (fun c => c :: List.replicate (c.utf8Size - 1) '\x00') = digits := by
    calc digits.flatMap (fun c => c :: List.replicate (c.utf8Size - 1) '\x00')
        = digits.flatMap fun c => [c] := List.flatMap_congr fun c member => by rw [narrow c member]; rfl
      _ = digits := by simp
  have all : digits.take 4 = digits := by rw [← four, List.take_length]
  obtain ⟨values, read, rfl⟩ := Option.map_eq_some_iff.mp value
  refine ⟨cursor.advance.advance.advance.advance, ?_, ?_⟩
  · simp only [readUnit, first, bytes, four, Nat.lt_irrefl, if_false, all, read]
    rfl
  · simp only [Cursor.rest_advance, ← List.drop_one, List.drop_drop, ahead]
    rw [List.drop_left' four]

/-- The four digits that a control character is written with. -/
def controlDigits (n : Nat) : List Char :=
  List.replicate (4 - (Text.Quoted.hex n).length) '0' ++ Text.Quoted.hex n

theorem controlDigits_spec (n : Fin 0x20) :
    (controlDigits n).length = 4 ∧ (controlDigits n).all (·.utf8Size == 1) ∧
      ((controlDigits n).mapM hexDigit?).map (·.foldl (fun n digit => 16 * n + digit) 0) =
        some n.val := by
  revert n
  decide

variable {cursor : Cursor} {c letter : Char} {rest : List Char} (read : List Char) (rounds : Nat)

/-- One round takes a letter behind a backslash. -/
theorem readFrom_letter (ahead : cursor.rest = '\\' :: letter :: rest)
    (plain : unescape? letter = some c) :
    readFrom read (rounds + 1) cursor = readFrom (c :: read) rounds cursor.advance.advance := by
  have next := Cursor.peek?_eq (Cursor.rest_advance_eq ahead)
  have noNumber : letter ≠ 'u' := by
    rintro rfl
    cases plain
  have escape : readEscape cursor.advance = .ok (c, cursor.advance.advance) := by
    simp only [readEscape, next, plain]
  simp only [readFrom, Cursor.peek?_eq ahead, escape]

/-- One round takes the number of a control character. -/
theorem readFrom_control (control : c.toNat < 0x20)
    (ahead : cursor.rest = '\\' :: 'u' :: (controlDigits c.toNat ++ rest)) :
    ∃ next : Cursor, next.rest = rest ∧
      readFrom read (rounds + 1) cursor = readFrom (c :: read) rounds next := by
  obtain ⟨four, narrow, value⟩ := controlDigits_spec ⟨c.toNat, control⟩
  have single : ∀ digit ∈ controlDigits c.toNat, digit.utf8Size = 1 := by simpa using narrow
  have letter := Cursor.rest_advance_eq ahead
  obtain ⟨next, unit, behind⟩ :=
    exists_readUnit (Cursor.rest_advance_eq letter) four single value
  refine ⟨next, behind, ?_⟩
  have half (first : Bool) : isHalf first c.toNat = false := by
    cases first <;> simp [isHalf] <;> omega
  have escape : readEscape cursor.advance = .ok (c, next) := by
    simp only [readEscape, Cursor.peek?_eq letter, readCodePoint, unit]
    simp [bind, Except.bind, half]
  simp only [readFrom, Cursor.peek?_eq ahead, escape]

/-- One round takes one character of a written text. -/
theorem readFrom_escape (ahead : cursor.rest = escape c ++ rest) :
    ∃ next : Cursor, next.rest = rest ∧
      readFrom read (rounds + 1) cursor = readFrom (c :: read) rounds next := by
  have short (letter : Char) (written : escape c = ['\\', letter])
      (plain : unescape? letter = some c) : ∃ next : Cursor, next.rest = rest ∧
        readFrom read (rounds + 1) cursor = readFrom (c :: read) rounds next := by
    rw [written] at ahead
    exact ⟨_, Cursor.rest_advance_eq (Cursor.rest_advance_eq ahead),
      readFrom_letter read rounds ahead plain⟩
  unfold escape at ahead short
  split at ahead
  · exact short _ rfl rfl
  · exact short _ rfl rfl
  · exact short _ rfl rfl
  · exact short _ rfl rfl
  · exact short _ rfl rfl
  · exact short _ rfl rfl
  · exact short _ rfl rfl
  · next noQuote noBackslash _ _ _ _ _ =>
    split at ahead
    · next control => exact readFrom_control read rounds control ahead
    · next printed =>
      refine ⟨cursor.advance, Cursor.rest_advance_eq ahead, ?_⟩
      simp only [readFrom, Cursor.peek?_eq ahead]
      grind

/-- A written text is read up to the closing quote, with as many rounds as it has characters. -/
theorem exists_readFrom_quoted (text read : List Char) {rounds : Nat} {cursor : Cursor}
    {rest : List Char} (enough : text.length < rounds)
    (ahead : cursor.rest = text.flatMap escape ++ '"' :: rest) :
    ∃ behind, readFrom read rounds cursor = .ok (String.ofList (read.reverse ++ text), behind) ∧
      behind.rest = rest := by
  induction text generalizing read rounds cursor with
  | nil =>
    obtain ⟨rounds, rfl⟩ := Nat.exists_eq_add_one_of_ne_zero (Nat.ne_zero_of_lt enough)
    refine ⟨cursor.advance, ?_, Cursor.rest_advance_eq ahead⟩
    simp only [readFrom, Cursor.peek?_eq ahead, List.append_nil]
  | cons c text ih =>
    obtain ⟨rounds, rfl⟩ := Nat.exists_eq_add_one_of_ne_zero (Nat.ne_zero_of_lt enough)
    rw [List.flatMap_cons, List.append_assoc] at ahead
    obtain ⟨next, behind, step⟩ := readFrom_escape read rounds ahead
    rw [step]
    simpa using ih (c :: read) (Nat.lt_of_succ_lt_succ enough) behind

end Quoted

/-! ## Texts -/

theorem escape_ne_nil (c : Char) : escape c ≠ [] := by
  unfold escape
  split <;> try exact List.cons_ne_nil _ _
  split <;> exact List.cons_ne_nil _ _

theorem length_le_flatMap_escape (text : List Char) :
    text.length ≤ (text.flatMap escape).length := by
  induction text with
  | nil => simp
  | cons c text ih =>
    have more := List.length_pos_iff.mpr (escape_ne_nil c)
    rw [List.flatMap_cons, List.length_append, List.length_cons]
    omega

/-- What is written between quotes is read back from behind the opening quote. -/
theorem exists_read_quote (size : Nat) (text : String) {cursor : Cursor} {rest : List Char}
    (enough : text.toList.length ≤ size)
    (ahead : cursor.rest = text.toList.flatMap escape ++ '"' :: rest) :
    ∃ behind, Quoted.read size cursor = .ok (text, behind) ∧ behind.rest = rest := by
  obtain ⟨behind, read, left⟩ :=
    Quoted.exists_readFrom_quoted text.toList [] (Nat.lt_succ_of_le enough) ahead
  refine ⟨behind, ?_, left⟩
  rw [Quoted.read, read, List.reverse_nil, List.nil_append, String.ofList_toList]

end PageFeed.Json
