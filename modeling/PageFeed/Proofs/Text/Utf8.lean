import Mathlib.Data.List.Lex

/-! Texts and their bytes. A zero byte stands for the NUL character and is part of no other one. The
order of texts by their characters is the order by their bytes. -/

namespace PageFeed.Text

theorem fromUTF8?_eq_some_iff {bytes : ByteArray} {text : String} :
    String.fromUTF8? bytes = some text ↔ bytes = text.toUTF8 := by
  unfold String.fromUTF8?
  constructor
  · intro read
    split at read
    · cases read
      rfl
    · cases read
  · rintro rfl
    have valid : text.toUTF8.IsValidUTF8 := text.isValidUTF8
    rw [dif_pos valid]
    rfl

theorem fromUTF8?_toUTF8 (text : String) : String.fromUTF8? text.toUTF8 = some text :=
  fromUTF8?_eq_some_iff.2 rfl

theorem fromUTF8?_eq_none_iff {bytes : ByteArray} :
    String.fromUTF8? bytes = none ↔ ¬bytes.IsValidUTF8 := by
  simp [String.fromUTF8?]

theorem zero_mem_utf8EncodeChar_iff (c : Char) : 0 ∈ String.utf8EncodeChar c ↔ c = '\x00' := by
  have zero (n : Nat) (small : n < 256) : 0 = UInt8.ofNat n ↔ n = 0 := by
    rw [← UInt8.toNat_inj, UInt8.toNat_ofNat_of_lt' small]
    exact eq_comm
  have nul : c = '\x00' ↔ c.val.toNat = 0 := by
    rw [← Char.toNat_inj]
    rfl
  rw [nul]
  simp only [String.utf8EncodeChar]
  -- In the longer forms every byte has its high bit.
  split
  · rw [List.mem_singleton, zero _ (by omega)]
  · split
    · simp only [List.mem_cons, List.not_mem_nil, or_false]
      rw [zero _ (by omega), zero _ (by omega)]
      omega
    · split
      · simp only [List.mem_cons, List.not_mem_nil, or_false]
        rw [zero _ (by omega), zero _ (by omega), zero _ (by omega)]
        omega
      · simp only [List.mem_cons, List.not_mem_nil, or_false]
        rw [zero _ (by omega), zero _ (by omega), zero _ (by omega), zero _ (by omega)]
        omega

theorem toList_toUTF8 (text : String) :
    text.toUTF8.data.toList = text.toList.flatMap String.utf8EncodeChar := by
  conv_lhs => rw [← String.ofList_toList (s := text)]
  rw [String.toUTF8_eq_toByteArray, String.toByteArray_ofList]
  exact List.toList_data_toByteArray

theorem zero_mem_toUTF8_iff (text : String) : 0 ∈ text.toUTF8.data ↔ '\x00' ∈ text.toList := by
  rw [← Array.mem_toList_iff, toList_toUTF8, List.mem_flatMap]
  constructor
  · rintro ⟨c, member, zero⟩
    rw [zero_mem_utf8EncodeChar_iff] at zero
    rwa [← zero]
  · intro member
    exact ⟨_, member, (zero_mem_utf8EncodeChar_iff _).2 rfl⟩

/-! ## Order -/

theorem byte_lt_iff {a b : Nat} (small : a < 256) (smallToo : b < 256) :
    UInt8.ofNat a < UInt8.ofNat b ↔ a < b := by
  rw [UInt8.lt_iff_toNat_lt, UInt8.toNat_ofNat_of_lt' small, UInt8.toNat_ofNat_of_lt' smallToo]

theorem byte_eq_iff {a b : Nat} (small : a < 256) (smallToo : b < 256) :
    UInt8.ofNat a = UInt8.ofNat b ↔ a = b := by
  rw [← UInt8.toNat_inj, UInt8.toNat_ofNat_of_lt' small, UInt8.toNat_ofNat_of_lt' smallToo]

/-- The parts of six bits that the longer forms are made of. -/
theorem sextets (v : Nat) : v = 64 * (v / 64) + v % 64 ∧ v / 64 = 64 * (v / 4096) + v / 64 % 64 ∧
    v / 4096 = 64 * (v / 262144) + v / 4096 % 64 := by
  omega

/-- The bytes of a smaller character are smaller, whatever follows them. -/
theorem utf8EncodeChar_append_lt {c d : Char} (smaller : c < d) (first second : List UInt8) :
    String.utf8EncodeChar c ++ first < String.utf8EncodeChar d ++ second := by
  have values : c.val.toNat < d.val.toNat := smaller
  have bound : d.val.toNat < 0x110000 := by
    rcases d.valid with h | h <;> omega
  simp only [String.utf8EncodeChar]
  generalize c.val.toNat = v at *
  generalize d.val.toNat = w at *
  have high : v / 262144 % 8 = v / 262144 := Nat.mod_eq_of_lt (by omega)
  have highToo : w / 262144 % 8 = w / 262144 := Nat.mod_eq_of_lt (by omega)
  have parts := sextets v
  have partsToo := sextets w
  -- each character in each of its four forms, and the first bytes that differ as numbers
  split_ifs <;>
    simp (disch := omega) only [List.cons_append, List.nil_append, List.cons_lt_cons_iff, byte_lt_iff,
      byte_eq_iff] <;>
    omega

theorem utf8EncodeChar_ne_nil (c : Char) : String.utf8EncodeChar c ≠ [] := by
  simp only [String.utf8EncodeChar]
  split_ifs <;> exact List.cons_ne_nil _ _

theorem flatMap_utf8EncodeChar_lt {first second : List Char} (smaller : first < second) :
    first.flatMap String.utf8EncodeChar < second.flatMap String.utf8EncodeChar := by
  induction smaller with
  | @nil d rest =>
    obtain ⟨byte, bytes, encoded⟩ := List.exists_cons_of_ne_nil (utf8EncodeChar_ne_nil d)
    rw [List.flatMap_cons, encoded]
    exact .nil
  | rel smallerChar => exact utf8EncodeChar_append_lt smallerChar _ _
  | cons _ ih => exact List.Lex.append_left _ ih _

/-- Texts in order are in the order of their bytes. -/
theorem toUTF8_lt_of_lt {first second : String} (smaller : first < second) :
    first.toUTF8.data.toList < second.toUTF8.data.toList := by
  rw [toList_toUTF8, toList_toUTF8]
  exact flatMap_utf8EncodeChar_lt smaller

end PageFeed.Text
