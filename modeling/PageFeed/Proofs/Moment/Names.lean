import PageFeed.Moment.Names
import PageFeed.Proofs.Text.Shape

/-! Names of months and weekdays read back, in their short and in their full forms. Readers look for
the short form first and take the letters that complete it if they are there, so that a short form is
read as its name where no letter follows it. -/

namespace PageFeed.Moment

open Text (kind Runs Block FitsUpTo)

/-! ## Words -/

/-- A name by its place. -/
def nameAt (names : List Name) (place : Nat) : Name := names.getD place ([], [])

theorem getElem?_eq_nameAt {names : List Name} {place : Nat} (there : place < names.length) :
    names[place]? = some (nameAt names place) := by
  rw [nameAt, List.getD_eq_getElem?_getD, List.getElem?_eq_getElem there, Option.getD_some]

theorem nameAt_mem {names : List Name} {place : Nat} (there : place < names.length) :
    nameAt names place ∈ names := List.mem_of_getElem? (getElem?_eq_nameAt there)

/-- Whether every letter of a name is one of the alphabet, and its short form has three of them. -/
def Name.IsProper (name : Name) : Prop :=
  name.1.length = 3 ∧ ∀ c ∈ name.1 ++ name.2, (Text.foldAscii c).isLower = true

instance (name : Name) : Decidable name.IsProper :=
  @instDecidableAnd _ _ _ (List.decidableBAll _ _)

/-- A word is dropped where it stands, and no other word of its length is. -/
theorem dropWord?_append {word other : List Char} (size : word.length = other.length)
    (rest : List Char) :
    Text.dropWord? word (other ++ rest) =
      if word.map Text.foldAscii = other.map Text.foldAscii then some rest else none := by
  induction word generalizing other with
  | nil =>
    obtain rfl := List.length_eq_zero_iff.1 size.symm
    rfl
  | cons w word ih =>
    cases other with
    | nil => cases size
    | cons c other =>
      have same := ih (Nat.succ.inj size)
      simp only [List.cons_append, Text.dropWord?, same, List.map_cons, List.cons.injEq]
      by_cases first : Text.foldAscii w = Text.foldAscii c <;> simp [first]

theorem dropWord?_append_self (word rest : List Char) :
    Text.dropWord? word (word ++ rest) = some rest := by
  rw [dropWord?_append rfl, if_pos rfl]

/-- Names are told apart by their short forms. -/
theorem shortName?_append {names : List Name} (proper : ∀ name ∈ names, name.IsProper)
    (distinct : (names.map fun name => name.1.map Text.foldAscii).Nodup) {place : Nat}
    (there : place < names.length) (rest : List Char) :
    shortName? names ((nameAt names place).1 ++ rest) = some (place, rest) := by
  induction names generalizing place with
  | nil => cases there
  | cons name names ih =>
    obtain ⟨firstProper, proper⟩ := List.forall_mem_cons.1 proper
    obtain ⟨different, distinct⟩ := List.nodup_cons.1 distinct
    cases place with
    | zero =>
      have found := dropWord?_append_self name.1 rest
      simp only [nameAt, List.getD_cons_zero, shortName?, found]
    | succ place =>
      have there := Nat.lt_of_succ_lt_succ there
      have isName := nameAt_mem there
      have other : ¬ name.1.map Text.foldAscii = (nameAt names place).1.map Text.foldAscii :=
        fun same => different (List.mem_map.2 ⟨_, isName, same.symm⟩)
      have size := firstProper.1.trans (proper _ isName).1.symm
      have found := ih proper distinct there
      change shortName? (name :: names) ((nameAt names place).1 ++ rest) = _
      rw [shortName?, dropWord?_append size, if_neg other, found]
      rfl

/-- Letters that complete a name are read with it where they stand, and not missed where none do. -/
theorem dropWord?_getD {word rest : List Char}
    (letters : ∀ c ∈ word, (Text.foldAscii c).isLower = true)
    (ends : rest.head?.map kind ≠ some .letter) : (Text.dropWord? word rest).getD rest = rest := by
  cases word with
  | nil => rfl
  | cons w word =>
    cases rest with
    | nil => rfl
    | cons c rest =>
      have different : ¬ Text.foldAscii w = Text.foldAscii c := by
        intro same
        have lower := letters w List.mem_cons_self
        rw [same] at lower
        exact ends (congrArg some (Text.kind_of_isLower lower))
      rw [Text.dropWord?, if_neg different]
      rfl

/-- Names that can be told apart: all are proper, and no two have the same short form. -/
def AreDistinct (names : List Name) : Prop :=
  (∀ name ∈ names, name.IsProper) ∧ (names.map fun name => name.1.map Text.foldAscii).Nodup

theorem areDistinct_monthNames : AreDistinct monthNames := by
  constructor <;> decide +kernel

theorem areDistinct_weekdayNames : AreDistinct weekdayNames := by
  constructor <;> decide +kernel

namespace AreDistinct

variable {names : List Name} {place : Nat}

theorem longName?_short (distinct : AreDistinct names) (there : place < names.length)
    {rest : List Char} (ends : rest.head?.map kind ≠ some .letter) :
    longName? names ((nameAt names place).1 ++ rest) = some (place, rest) := by
  have letters := fun c isMember =>
    (distinct.1 _ (nameAt_mem there)).2 c (List.mem_append_right _ isMember)
  rw [longName?, shortName?_append distinct.1 distinct.2 there]
  simp only [getElem?_eq_nameAt there, dropWord?_getD letters ends]

theorem longName?_long (distinct : AreDistinct names) (there : place < names.length)
    (rest : List Char) :
    longName? names ((nameAt names place).1 ++ (nameAt names place).2 ++ rest) =
      some (place, rest) := by
  rw [List.append_assoc, longName?, shortName?_append distinct.1 distinct.2 there]
  simp only [getElem?_eq_nameAt there, dropWord?_append_self, Option.getD_some]

/-- A written name is a run of letters. -/
theorem runs_letters (distinct : AreDistinct names) (there : place < names.length) :
    Runs [.letter] (nameAt names place).1 ∧
      Runs [.letter] ((nameAt names place).1 ++ (nameAt names place).2) := by
  obtain ⟨size, letters⟩ := distinct.1 _ (nameAt_mem there)
  have filled : (nameAt names place).1 ≠ [] := by
    intro none
    rw [none] at size
    cases size
  refine ⟨Text.runs_single filled fun c isMember => ?_,
    Text.runs_single (List.append_ne_nil_of_left_ne_nil filled _) fun c isMember => ?_⟩
  · exact Text.kind_of_isLower (letters c (List.mem_append_left _ isMember))
  · exact Text.kind_of_isLower (letters c isMember)

end AreDistinct

/-! ## Blocks -/

/-- A word is dropped where its letters stand, in either case. -/
theorem exists_of_dropWord? {word text rest : List Char}
    (dropped : Text.dropWord? word text = some rest) :
    ∃ taken, text = taken ++ rest ∧ taken.map Text.foldAscii = word.map Text.foldAscii := by
  induction word generalizing text with
  | nil =>
    obtain rfl : text = rest := Option.some.inj dropped
    exact ⟨[], rfl, rfl⟩
  | cons w word ih =>
    cases text with
    | nil => cases dropped
    | cons c text =>
      rw [Text.dropWord?] at dropped
      split at dropped
      · next same =>
        obtain ⟨taken, rfl, folded⟩ := ih dropped
        exact ⟨c :: taken, rfl, by rw [List.map_cons, List.map_cons, folded, same]⟩
      · cases dropped

theorem kind_of_folded {word taken : List Char}
    (letters : ∀ c ∈ word, (Text.foldAscii c).isLower = true)
    (folded : taken.map Text.foldAscii = word.map Text.foldAscii) : ∀ c ∈ taken, kind c = .letter := by
  intro c isTaken
  have isFolded : Text.foldAscii c ∈ word.map Text.foldAscii := folded ▸ List.mem_map_of_mem isTaken
  obtain ⟨w, isLetter, same⟩ := List.mem_map.1 isFolded
  exact Text.kind_of_isLower (same ▸ letters w isLetter)

theorem exists_of_shortName? {names : List Name} {place : Nat} {text rest : List Char}
    (read : shortName? names text = some (place, rest)) :
    ∃ name, names[place]? = some name ∧ Text.dropWord? name.1 text = some rest := by
  induction names generalizing place with
  | nil => cases read
  | cons name names ih =>
    rw [shortName?] at read
    split at read
    · next dropped =>
      obtain ⟨rfl, rfl⟩ := Prod.mk.inj (Option.some.inj read)
      exact ⟨name, rfl, dropped⟩
    · obtain ⟨⟨place, behind⟩, found, same⟩ := Option.map_eq_some_iff.1 read
      obtain ⟨rfl, rfl⟩ := Prod.mk.inj same
      exact ih found

/-- A name is a block of letters, in its short form and with the letters that complete it. -/
theorem AreDistinct.fitsUpTo_shortName? {names : List Name} (distinct : AreDistinct names)
    {place : Nat} {text rest : List Char} (read : shortName? names text = some (place, rest)) :
    FitsUpTo [.one .letter] text rest := by
  obtain ⟨name, there, dropped⟩ := exists_of_shortName? read
  obtain ⟨size, letters⟩ := distinct.1 name (List.mem_of_getElem? there)
  obtain ⟨taken, rfl, folded⟩ := exists_of_dropWord? dropped
  refine Text.fitsUpTo_one_iff.2 ⟨taken, rfl, ?_, kind_of_folded (fun c isMember =>
    letters c (List.mem_append_left _ isMember)) folded⟩
  rintro rfl
  rw [List.map_nil, eq_comm, List.map_eq_nil_iff] at folded
  rw [folded] at size
  cases size

theorem AreDistinct.fitsUpTo_longName? {names : List Name} (distinct : AreDistinct names)
    {place : Nat} {text rest : List Char} (read : longName? names text = some (place, rest)) :
    FitsUpTo [.one .letter] text rest := by
  rw [longName?] at read
  split at read
  · cases read
  · next found short =>
    obtain ⟨taken, rfl, filled, kinds⟩ :=
      Text.fitsUpTo_one_iff.1 (distinct.fitsUpTo_shortName? short)
    split at read
    · cases read
    · next name there =>
      obtain ⟨rfl, rfl⟩ := Prod.mk.inj (Option.some.inj read)
      cases dropped : Text.dropWord? name.2 found with
      | none => exact Text.fitsUpTo_one_iff.2 ⟨taken, rfl, filled, kinds⟩
      | some behind =>
        have letters := fun c isMember =>
          (distinct.1 name (List.mem_of_getElem? there)).2 c (List.mem_append_right _ isMember)
        obtain ⟨more, rfl, folded⟩ := exists_of_dropWord? dropped
        refine Text.fitsUpTo_one_iff.2 ⟨taken ++ more, (List.append_assoc _ _ _).symm,
          List.append_ne_nil_of_left_ne_nil filled _, fun c isMember => ?_⟩
        exact (List.mem_append.1 isMember).elim (kinds c) (kind_of_folded letters folded c)

end PageFeed.Moment
