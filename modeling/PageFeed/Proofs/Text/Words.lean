import Mathlib.Data.List.Chain
import PageFeed.Proofs.Text.Blank
import PageFeed.Rule.Registry

/-! Words and the gaps between them. A text is cut at every blank, and the pieces that are not empty are
its words, so a blank between two texts belongs to no word and parts their words. From this follows what
squishing does: the words stay as they are, every gap between two of them becomes one space, and the gaps
at the ends go. A text with no other gaps is left alone. -/

namespace PageFeed

namespace Text

/-! ## Words -/

/-- The pieces between the members of a class of characters, without the empty ones. -/
def words (drop : Char → Bool) (text : List Char) : List (List Char) :=
  (text.splitOnP drop).filter (!·.isEmpty)

def IsWord (drop : Char → Bool) (word : List Char) : Prop := word ≠ [] ∧ ∀ c ∈ word, drop c = false

variable {drop : Char → Bool} {c : Char}

/-- A character between two texts that is dropped parts their words. -/
theorem words_append_cons (before behind : List Char) (dropped : drop c) :
    words drop (before ++ c :: behind) = words drop before ++ words drop behind := by
  rw [words, List.splitOnP_append_cons before behind dropped, List.filter_append]
  rfl

theorem words_cons (text : List Char) (dropped : drop c) :
    words drop (c :: text) = words drop text := words_append_cons [] text dropped

theorem words_of_isWord {word : List Char} (isWord : IsWord drop word) : words drop word = [word] := by
  rw [words, List.splitOnP_eq_singleton isWord.2]
  apply List.filter_cons_of_pos
  simpa using isWord.1

theorem words_eq_nil {gap : List Char} (dropped : ∀ c ∈ gap, drop c) : words drop gap = [] := by
  induction gap with
  | nil => rfl
  | cons c gap ih =>
    obtain ⟨first, more⟩ := List.forall_mem_cons.1 dropped
    rw [words_cons gap first]
    exact ih more

theorem words_append_gap (text : List Char) {gap : List Char} (dropped : ∀ c ∈ gap, drop c) :
    words drop (text ++ gap) = words drop text := by
  cases gap with
  | nil => rw [List.append_nil]
  | cons c gap =>
    obtain ⟨first, more⟩ := List.forall_mem_cons.1 dropped
    rw [words_append_cons text gap first, words_eq_nil more, List.append_nil]

theorem words_gap_append {gap : List Char} (dropped : ∀ c ∈ gap, drop c) (text : List Char) :
    words drop (gap ++ text) = words drop text := by
  induction gap with
  | nil => rfl
  | cons c gap ih =>
    obtain ⟨first, more⟩ := List.forall_mem_cons.1 dropped
    rw [List.cons_append, words_cons _ first]
    exact ih more

theorem words_stripBy (text : List Char) : words drop (stripBy drop text) = words drop text := by
  have before : ∀ c ∈ text.takeWhile drop, drop c := fun c => List.mem_takeWhile_imp
  have behind : ∀ c ∈ (text.dropWhile drop).rtakeWhile drop, drop c := fun c =>
    List.mem_rtakeWhile_imp
  calc words drop (stripBy drop text)
      = words drop ((text.dropWhile drop).rdropWhile drop) := rfl
    _ = words drop ((text.dropWhile drop).rdropWhile drop ++
          (text.dropWhile drop).rtakeWhile drop) := (words_append_gap _ behind).symm
    _ = words drop (text.dropWhile drop) := by rw [List.rdropWhile_append_rtakeWhile]
    _ = words drop (text.takeWhile drop ++ text.dropWhile drop) := (words_gap_append before _).symm
    _ = words drop text := by rw [List.takeWhile_append_dropWhile]

/-- The run of characters up to the next one that is dropped. -/
theorem isWord_takeWhile (rest : List Char) (stays : drop c = false) :
    IsWord drop (c :: rest.takeWhile (!drop ·)) := by
  refine ⟨List.cons_ne_nil _ _, List.forall_mem_cons.2 ⟨stays, fun d member => ?_⟩⟩
  simpa using List.mem_takeWhile_imp member

theorem run_append_rest (drop : Char → Bool) (c : Char) (rest : List Char) :
    (c :: rest.takeWhile (!drop ·)) ++ rest.dropWhile (!drop ·) = c :: rest := by
  rw [List.cons_append, List.takeWhile_append_dropWhile]

theorem rest_eq_nil_or_cons (drop : Char → Bool) (rest : List Char) :
    rest.dropWhile (!drop ·) = [] ∨
      ∃ d behind, rest.dropWhile (!drop ·) = d :: behind ∧ drop d := by
  cases after : rest.dropWhile (!drop ·) with
  | nil => exact .inl rfl
  | cons d behind =>
    refine .inr ⟨d, behind, rfl, ?_⟩
    have more : rest.dropWhile (!drop ·) ≠ [] := by simp [after]
    have stop := List.head_dropWhile_not (!drop ·) more
    simpa [after] using stop

/-- The runs outside of a class are the pieces between its members. -/
theorem wordsBy_eq_words (text : List Char) : wordsBy drop text = words drop text := by
  fun_induction wordsBy drop text with
  | case1 => rfl
  | case2 c rest dropped ih => rw [ih, words_cons rest dropped]
  | case3 c rest stays ih =>
    have isWord := isWord_takeWhile rest (by simpa using stays)
    rw [ih, ← run_append_rest drop c rest]
    rcases rest_eq_nil_or_cons drop rest with none | ⟨d, behind, after, dropped⟩
    · rw [none, List.append_nil, words_of_isWord isWord]
      rfl
    · rw [after, words_append_cons _ behind dropped, words_of_isWord isWord, words_cons behind dropped]
      rfl

theorem isWord_of_mem_wordsBy {text word : List Char} (member : word ∈ wordsBy drop text) :
    IsWord drop word := by
  fun_induction wordsBy drop text with
  | case1 => cases member
  | case2 c rest dropped ih => exact ih member
  | case3 c rest stays ih =>
    rcases List.mem_cons.1 member with rfl | later
    · exact isWord_takeWhile rest (by simpa using stays)
    · exact ih later

/-! ## Squished texts -/

/-- Spaces are the only blanks of the text, and there is none behind another one or at the end. -/
structure IsSpaced (text : List Char) : Prop where
  spaces : ∀ c ∈ text, isBlank c → c = ' '
  apart : text.IsChain fun c d => ¬(isBlank c ∧ isBlank d)
  last : ∀ c ∈ text.getLast?, isBlank c = false

/-- Words with single spaces between them, and nothing else. -/
structure IsSquished (text : List Char) : Prop extends IsSpaced text where
  first : ∀ c ∈ text.head?, isBlank c = false

theorem IsSpaced.suffix {text rest : List Char} (spaced : IsSpaced text) (isEnd : rest <:+ text) :
    IsSpaced rest where
  spaces c member := spaced.spaces c (isEnd.subset member)
  apart := spaced.apart.suffix isEnd
  last c member := by
    obtain ⟨before, rfl⟩ := isEnd
    apply spaced.last c
    rw [List.getLast?_append, Option.mem_def.1 member]
    rfl

theorem joinWords_cons (word : List Char) {more : List (List Char)} (others : more ≠ []) :
    joinWords (word :: more) = word ++ ' ' :: joinWords more := by
  cases more with
  | nil => exact absurd rfl others
  | cons next more => rfl

theorem isSquished_of_isWord {word : List Char} (isWord : IsWord isBlank word) : IsSquished word where
  spaces c member blank := absurd blank (by simp [isWord.2 c member])
  apart := (List.pairwise_of_forall_mem_list fun c member d _ both => by
    simp [isWord.2 c member] at both).isChain
  last c member := isWord.2 c (List.mem_of_getLast? member)
  first c member := isWord.2 c (List.mem_of_head? member)

/-- A space may stand between a word and a squished text that is not empty. -/
theorem IsSquished.word_append {word text : List Char} (isWord : IsWord isBlank word)
    (squished : IsSquished text) (more : text ≠ []) : IsSquished (word ++ ' ' :: text) := by
  have alone := isSquished_of_isWord isWord
  refine ⟨⟨?_, ?_, ?_⟩, ?_⟩
  · intro c member blank
    rcases List.mem_append.1 member with inWord | behind
    · exact alone.spaces c inWord blank
    · rcases List.mem_cons.1 behind with space | inText
      · exact space
      · exact squished.spaces c inText blank
  · -- of two neighbours around the space, the one that is not the space is no blank
    refine List.isChain_append.2 ⟨alone.apart, List.isChain_cons.2 ⟨?_, squished.apart⟩, ?_⟩
    · intro c isFirst both
      simp [squished.first c isFirst] at both
    · intro c isLast d _ both
      simp [alone.last c isLast] at both
  · intro c isLast
    apply squished.last c
    simpa [List.getLast?_append, List.getLast?_cons, List.getLast?_eq_some_getLast more] using isLast
  · intro c isFirst
    apply alone.first c
    simpa [List.head?_append_of_ne_nil _ isWord.1] using isFirst

theorem joinWords_ne_nil {word : List Char} (isWord : IsWord isBlank word) (more : List (List Char)) :
    joinWords (word :: more) ≠ [] := by
  cases more with
  | nil => exact isWord.1
  | cons next more => exact List.append_ne_nil_of_left_ne_nil isWord.1 _

theorem isSquished_joinWords {found : List (List Char)} (areWords : ∀ word ∈ found, IsWord isBlank word) :
    IsSquished (joinWords found) := by
  induction found with
  | nil => exact ⟨⟨by simp [joinWords], .nil, by simp [joinWords]⟩, by simp [joinWords]⟩
  | cons word more ih =>
    obtain ⟨isWord, others⟩ := List.forall_mem_cons.1 areWords
    cases more with
    | nil => exact isSquished_of_isWord isWord
    | cons next more =>
      rw [joinWords_cons word (List.cons_ne_nil _ _)]
      exact (ih others).word_append isWord (joinWords_ne_nil (others next List.mem_cons_self) more)

/-- Joining loses no word and makes no other one. -/
theorem words_joinWords {found : List (List Char)} (areWords : ∀ word ∈ found, IsWord isBlank word) :
    words isBlank (joinWords found) = found := by
  induction found with
  | nil => rfl
  | cons word more ih =>
    obtain ⟨isWord, others⟩ := List.forall_mem_cons.1 areWords
    by_cases last : more = []
    · rw [last]
      exact words_of_isWord isWord
    · rw [joinWords_cons word last, words_append_cons _ _ isBlank_space, words_of_isWord isWord,
        ih others]
      rfl

/-- The gaps of a spaced text are what joining puts between its words. -/
theorem IsSpaced.joinWords_wordsBy {text : List Char} (spaced : IsSpaced text) :
    joinWords (wordsBy isBlank text) = text.dropWhile isBlank := by
  fun_induction wordsBy isBlank text with
  | case1 => rfl
  | case2 c rest dropped ih =>
    rw [ih (spaced.suffix (List.suffix_cons c rest)), List.dropWhile_cons_of_pos dropped]
  | case3 c rest stays ih =>
    have isEnd : rest.dropWhile (!isBlank ·) <:+ c :: rest :=
      (List.dropWhile_suffix _).trans (List.suffix_cons c rest)
    have after := spaced.suffix isEnd
    have joined := ih after
    rw [List.dropWhile_cons_of_neg stays, ← run_append_rest isBlank c rest]
    rcases rest_eq_nil_or_cons isBlank rest with none | ⟨d, behind, cut, blank⟩
    · rw [none, List.append_nil, wordsBy, joinWords]
    · -- the blank behind the word is a space, with a character behind it that is no blank
      rw [cut] at after joined ⊢
      obtain rfl : d = ' ' := after.spaces d List.mem_cons_self blank
      cases behind with
      | nil => exact absurd blank (by simp [after.last ' ' rfl])
      | cons e behind =>
        have stops : ¬isBlank e := fun other => (List.isChain_cons_cons.1 after.apart).1 ⟨blank, other⟩
        rw [List.dropWhile_cons_of_pos blank, List.dropWhile_cons_of_neg stops] at joined
        have others : wordsBy isBlank (' ' :: e :: behind) ≠ [] := by
          intro nothing
          rw [nothing] at joined
          cases joined
        rw [joinWords_cons _ others, joined]

/-- Squishing changes nothing just in texts that are squished. -/
theorem joinWords_wordsBy_eq_self_iff (text : List Char) :
    joinWords (wordsBy isBlank text) = text ↔ IsSquished text := by
  constructor
  · intro same
    rw [← same]
    exact isSquished_joinWords fun word => isWord_of_mem_wordsBy
  · intro squished
    rw [squished.joinWords_wordsBy]
    apply dropWhile_of_head?
    simpa [Option.all_eq_true] using squished.first

theorem words_squish (text : String) :
    words isBlank (squish text).toList = words isBlank text.toList := by
  rw [squish, String.toList_ofList, words_joinWords fun word => isWord_of_mem_wordsBy, wordsBy_eq_words]

theorem isSquished_squish (text : String) : IsSquished (squish text).toList := by
  rw [squish, String.toList_ofList]
  exact isSquished_joinWords fun word => isWord_of_mem_wordsBy

theorem squish_eq_self_iff (text : String) : squish text = text ↔ IsSquished text.toList := by
  rw [← joinWords_wordsBy_eq_self_iff, squish, ← String.toList_inj, String.toList_ofList]

/-- Squishing depends on nothing but the words. -/
theorem squish_eq_of_words {text other : String}
    (same : words isBlank text.toList = words isBlank other.toList) : squish text = squish other := by
  rw [squish, squish, wordsBy_eq_words, wordsBy_eq_words, same]

theorem squish_trim (text : String) : squish (trim text) = squish text := by
  apply squish_eq_of_words
  rw [trim, String.toList_ofList, words_stripBy]

end Text

/-- The processor that squishes a text keeps its words, and of the blanks leaves single spaces between
them; it takes texts of this form alone to themselves. -/
theorem Registry.builtin_squish : ∃ squish trim : Processor,
    builtin.processor? "squish" = some squish ∧ builtin.processor? "trim" = some trim ∧
      ∀ (settings : Settings) (text : String),
        Text.words Text.isBlank (squish settings text).toList = Text.words Text.isBlank text.toList ∧
        Text.IsSquished (squish settings text).toList ∧
        squish settings (squish settings text) = squish settings text ∧
        squish settings (trim settings text) = squish settings text ∧
        (squish settings text = text ↔ Text.IsSquished text.toList) := by
  refine ⟨fun _ => Text.squish, fun _ => Text.trim, rfl, rfl, fun _ text => ?_⟩
  have squished := Text.isSquished_squish text
  have again : Text.squish (Text.squish text) = Text.squish text :=
    (Text.squish_eq_self_iff _).2 squished
  exact ⟨Text.words_squish text, squished, again, Text.squish_trim text, Text.squish_eq_self_iff text⟩

end PageFeed
