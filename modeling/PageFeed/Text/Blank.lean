import PageFeed.Text.Spans

/-! Blank characters in the sense of the Unicode property `White_Space`, and the operations that
depend on them alone: trimming, splitting into words, and squishing every run of blanks to one
space. -/

namespace PageFeed.Text

def blankSpans : Spans := [
  (0x9, 0xd), (0x20, 0x20), (0x85, 0x85), (0xa0, 0xa0), (0x1680, 0x1680), (0x2000, 0x200a),
  (0x2028, 0x2029), (0x202f, 0x202f), (0x205f, 0x205f), (0x3000, 0x3000)]

def isBlank (c : Char) : Bool := blankSpans.has c

def isAsciiBlank (c : Char) : Bool :=
  c == ' ' || c == '\n' || c == '\t' || c == '\r' || c == '\x0c'

def stripBy (drop : Char → Bool) (text : List Char) : List Char :=
  ((text.dropWhile drop).reverse.dropWhile drop).reverse

def trim (text : String) : String := String.ofList (stripBy isBlank text.toList)

def wordsBy (drop : Char → Bool) : List Char → List (List Char)
  | [] => []
  | c :: rest =>
    if drop c then wordsBy drop rest
    else (c :: rest.takeWhile (!drop ·)) :: wordsBy drop (rest.dropWhile (!drop ·))
termination_by text => text.length
decreasing_by
  · simp
  · exact Nat.lt_succ_of_le (List.dropWhile_sublist _).length_le

def joinWords : List (List Char) → List Char
  | [] => []
  | [word] => word
  | word :: more => word ++ ' ' :: joinWords more

def squish (text : String) : String := String.ofList (joinWords (wordsBy isBlank text.toList))

theorem isBlank_space : isBlank ' ' = true := by decide

theorem wordsBy_cons_of_drop {drop : Char → Bool} {c : Char} (rest : List Char)
    (dropped : drop c = true) : wordsBy drop (c :: rest) = wordsBy drop rest := by
  rw [wordsBy]
  simp [dropped]

theorem wordsBy_ne_nil (drop : Char → Bool) (text : List Char) : [] ∉ wordsBy drop text := by
  fun_induction wordsBy drop text <;> simp_all

end PageFeed.Text
