import Mathlib.Data.List.DropRight
import PageFeed.Text.Blank

/-! Trimmed texts. Nothing is left of a text exactly when all of it is dropped, and nothing is dropped
from a text whose first and last characters stay. -/

namespace PageFeed.Text

theorem stripBy_eq_rdropWhile (drop : Char → Bool) (text : List Char) :
    stripBy drop text = (text.dropWhile drop).rdropWhile drop := rfl

theorem stripBy_eq_nil_iff {drop : Char → Bool} {text : List Char} :
    stripBy drop text = [] ↔ ∀ c ∈ text, drop c := by
  rw [stripBy_eq_rdropWhile, List.rdropWhile_eq_nil_iff]
  constructor
  · intro dropped
    -- what would be left after the front has a first character that stays
    have none : text.dropWhile drop = [] := by
      rw [List.eq_nil_iff_forall_not_mem]
      intro c member
      have head := List.head_dropWhile_not drop (List.ne_nil_of_mem member)
      rw [dropped _ (List.head_mem _)] at head
      cases head
    exact List.dropWhile_eq_nil_iff.mp none
  · intro all c member
    exact all c ((List.dropWhile_sublist _).subset member)

/-- A character that stays keeps all behind it. -/
theorem dropWhile_of_head? {drop : Char → Bool} {text : List Char}
    (first : text.head?.all (!drop ·)) : text.dropWhile drop = text := by
  cases text with
  | nil => rfl
  | cons c text => exact List.dropWhile_cons_of_neg (by simpa using first)

/-- Nothing is dropped between two characters that stay. -/
theorem stripBy_eq_self {drop : Char → Bool} {text : List Char} (first : text.head?.all (!drop ·))
    (last : text.getLast?.all (!drop ·)) : stripBy drop text = text := by
  rw [stripBy_eq_rdropWhile, dropWhile_of_head? first, List.rdropWhile_eq_self_iff]
  intro more
  rw [List.getLast?_eq_getLast_of_ne_nil more] at last
  simpa using last

/-- What is dropped around two characters that stay is all that is dropped. -/
theorem stripBy_between {drop : Char → Bool} {before text after : List Char}
    (isBefore : ∀ c ∈ before, drop c) (isAfter : ∀ c ∈ after, drop c) (filled : text ≠ [])
    (first : text.head?.all (!drop ·)) (last : text.getLast?.all (!drop ·)) :
    stripBy drop (before ++ (text ++ after)) = text := by
  have front : (text ++ after).dropWhile drop = text ++ after :=
    dropWhile_of_head? (by rwa [List.head?_append_of_ne_nil _ filled])
  have back : (text ++ after).rdropWhile drop = text.rdropWhile drop := by
    rw [List.rdropWhile, List.reverse_append, List.dropWhile_append_of_pos, List.rdropWhile]
    exact fun c isMember => isAfter c (List.mem_reverse.1 isMember)
  have inside := stripBy_eq_self first last
  rw [stripBy_eq_rdropWhile, dropWhile_of_head? first] at inside
  rw [stripBy_eq_rdropWhile, List.dropWhile_append_of_pos isBefore, front, back, inside]

/-- A text is blank when trimming leaves nothing of it. -/
theorem isEmpty_trim_iff (text : String) :
    (trim text).isEmpty = true ↔ ∀ c ∈ text.toList, isBlank c := by
  rw [String.isEmpty_iff, trim, String.ofList_eq_empty_iff, stripBy_eq_nil_iff]

end PageFeed.Text
