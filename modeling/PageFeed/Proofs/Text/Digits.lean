import Mathlib.Algebra.Group.Nat.Defs
import Mathlib.Data.List.TakeWhile
import PageFeed.Text.Blank
import PageFeed.Text.Digits

/-! Numbers read back from their digits. A number that is written with a fixed number of places is
read as itself, whatever follows it; a number of unlimited length is when no digit follows it. -/

namespace PageFeed.Text

theorem isDigit_eq (c : Char) : isDigit c = c.isDigit := by
  have bounds : ('0' ≤ c ∧ c ≤ '9') ↔ c.isDigit = true := by
    simp [Char.isDigit, Char.le_def, UInt32.le_iff_toNat_le]
  unfold isDigit digit?
  split
  · next digit => exact (bounds.mp digit).symm
  · next other => exact (Bool.eq_false_iff.mpr fun digit => other (bounds.mpr digit)).symm

theorem digit?_of_isDigit {c : Char} (digit : isDigit c) : digit? c = some (c.toNat - '0'.toNat) := by
  unfold isDigit digit? at digit
  split at digit
  · next bounds => rw [digit?, if_pos bounds]
  · cases digit

theorem digit?_getD_le (c : Char) : (digit? c).getD 0 ≤ 9 := by
  unfold digit?
  split
  · next bounds =>
    have upper : c.toNat ≤ '9'.toNat := bounds.2
    simp only [Option.getD_some]
    have nine : '9'.toNat = 57 := rfl
    have zero : '0'.toNat = 48 := rfl
    omega
  · simp

theorem isBlank_of_isDigit {c : Char} (digit : isDigit c) : isBlank c = false := by
  rw [isDigit_eq, Char.isDigit_iff_toNat] at digit
  have bounds : 48 ≤ c.toNat ∧ c.toNat ≤ 57 := digit
  simp only [isBlank, Spans.has, blankSpans, List.any_cons, List.any_nil, Bool.or_false,
    Bool.or_eq_false_iff, Bool.and_eq_false_iff, decide_eq_false_iff_not]
  omega

/-! ## Values -/

theorem decimalFrom_eq {digits : List Char} (all : ∀ c ∈ digits, isDigit c) (read : Nat) :
    decimalFrom read digits = Nat.ofDigitChars 10 digits read := by
  induction digits generalizing read with
  | nil => rfl
  | cons c rest ih =>
    have digit := digit?_of_isDigit (all c List.mem_cons_self)
    rw [Nat.ofDigitChars_cons, ← ih fun d member => all d (List.mem_cons_of_mem _ member)]
    simp [decimalFrom, digit]

theorem decimalFrom_lt (read : Nat) (digits : List Char) :
    decimalFrom read digits < (read + 1) * 10 ^ digits.length := by
  induction digits generalizing read with
  | nil => simp [decimalFrom]
  | cons c rest ih =>
    have digit := digit?_getD_le c
    calc decimalFrom read (c :: rest)
        = decimalFrom (10 * read + (digit? c).getD 0) rest := rfl
      _ < (10 * read + (digit? c).getD 0 + 1) * 10 ^ rest.length := ih _
      _ ≤ ((read + 1) * 10) * 10 ^ rest.length := Nat.mul_le_mul_right _ (by omega)
      _ = (read + 1) * 10 ^ (c :: rest).length := by
        rw [List.length_cons, Nat.pow_succ, Nat.mul_assoc, Nat.mul_comm 10]

/-- A number of few digits is small. -/
theorem lt_of_number? {least most n : Nat} {text rest : List Char}
    (read : number? least (some most) text = some (n, rest)) : n < 10 ^ most := by
  unfold number? spanDigits at read
  simp only at read
  split at read
  · cases read
  · cases read
    have bound := decimalFrom_lt 0 ((text.takeWhile isDigit).take most)
    rw [Nat.zero_add, Nat.one_mul] at bound
    exact bound.trans_le (Nat.pow_le_pow_right (by decide) (List.length_take_le _ _))

/-! ## Written numbers -/

theorem isDigit_of_mem_padded {width n : Nat} : ∀ c ∈ padded width n, isDigit c := by
  intro c member
  rcases List.mem_append.mp member with zero | digit
  · rw [List.eq_of_mem_replicate zero]
    rfl
  · rw [isDigit_eq]
    exact Nat.isDigit_of_mem_toDigits (by decide) (by decide) digit

theorem decimal_padded (width n : Nat) : decimal (padded width n) = n := by
  rw [decimal, decimalFrom_eq isDigit_of_mem_padded, padded, Nat.ofDigitChars_append]
  simp

theorem length_padded {width n : Nat} (places : 0 < width) (fits : n < 10 ^ width) :
    (padded width n).length = width := by
  have short := (Nat.length_toDigits_le_iff (by decide : 1 < 10) places).mpr fits
  simp only [padded, List.length_append, List.length_replicate]
  omega

theorem padded_ne_nil (width n : Nat) : padded width n ≠ [] :=
  List.append_ne_nil_of_right_ne_nil _ Nat.toDigits_ne_nil

/-- A text that does not begin with a digit. -/
def EndsDigits (text : List Char) : Prop := text.head?.all (!isDigit ·)

theorem endsDigits_cons {c : Char} (other : isDigit c = false) (rest : List Char) :
    EndsDigits (c :: rest) := by
  simp [EndsDigits, other]

theorem takeWhile_isDigit_append {digits rest : List Char} (all : ∀ c ∈ digits, isDigit c)
    (ends : EndsDigits rest) : (digits ++ rest).takeWhile isDigit = digits := by
  rw [List.takeWhile_append_of_pos all]
  cases rest with
  | nil => simp
  | cons c rest => simp_all [EndsDigits]

/-- All digits of a number are read when there are as many as there may be at most. -/
theorem number?_append {least : Nat} {digits : List Char} (all : ∀ c ∈ digits, isDigit c)
    (enough : least ≤ digits.length) (rest : List Char) :
    number? least (some digits.length) (digits ++ rest) = some (decimal digits, rest) := by
  have run : (digits ++ rest).takeWhile isDigit = digits ++ rest.takeWhile isDigit :=
    List.takeWhile_append_of_pos all
  have behind : (digits ++ rest).drop
      (min digits.length (digits ++ rest.takeWhile isDigit).length) = rest := by
    rw [List.length_append, Nat.min_eq_left (Nat.le_add_right _ _), List.drop_left]
  simp only [number?, spanDigits, run, List.take_left, behind]
  rw [if_neg (by omega)]

theorem number?_padded {least width n : Nat} (enough : least ≤ width) (places : 0 < width)
    (fits : n < 10 ^ width) (rest : List Char) :
    number? least (some width) (padded width n ++ rest) = some (n, rest) := by
  have size := length_padded places fits
  have read := number?_append isDigit_of_mem_padded (enough.trans size.ge) rest
  rwa [size, decimal_padded] at read

/-- A number of any length is read up to what is no digit. -/
theorem number?_padded_of_endsDigits (width n : Nat) {rest : List Char} (ends : EndsDigits rest) :
    number? 1 none (padded width n ++ rest) = some (n, rest) := by
  have more := List.length_pos_iff.mpr (padded_ne_nil width n)
  simp only [number?, spanDigits, takeWhile_isDigit_append isDigit_of_mem_padded ends,
    List.drop_left, decimal_padded]
  rw [if_neg (by omega)]

/-- No number is read where no digit stands. -/
theorem number?_eq_none {least : Nat} (some : 0 < least) (most : Option Nat) {text : List Char}
    (ends : EndsDigits text) : number? least most text = none := by
  have digits : text.takeWhile isDigit = [] := by
    rw [← List.nil_append text]
    exact takeWhile_isDigit_append (fun _ member => nomatch member) ends
  cases most <;> simp [number?, spanDigits, digits, some]

end PageFeed.Text
