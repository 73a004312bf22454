import PageFeed.Proofs.Text.Digits

/-! Shapes of texts. What a reader accepts is cut into blocks of characters, each of some kinds, and
what a writer gives is a fixed row of runs of single kinds. Whether a text of the second form can be of
the first one is decided from the kinds alone, so that a reader is seen to refuse whatever a writer
gives. -/

namespace PageFeed.Text

/-! ## Kinds -/

/-- What readers tell characters apart by. -/
inductive Kind
  | digit
  | letter
  | blank
  | sign
  | mark (c : Char)
deriving DecidableEq

/-- The kind of a character. -/
def kind (c : Char) : Kind :=
  if isDigit c then .digit
  else if isBlank c then .blank
  else if (foldAscii c).isLower then .letter
  else if c = '+' ∨ c = '-' ∨ c = '−' then .sign
  else .mark c

theorem kind_of_isDigit {c : Char} (digit : isDigit c = true) : kind c = .digit := by
  rw [kind, if_pos digit]

theorem kind_of_isBlank {c : Char} (blank : isBlank c = true) : kind c = .blank := by
  by_cases digit : isDigit c = true
  · rw [isBlank_of_isDigit digit] at blank
    cases blank
  · rw [kind, if_neg digit, if_pos blank]

/-- Letters are neither digits nor blanks. -/
theorem kind_of_isLower {c : Char} (letter : (foldAscii c).isLower = true) : kind c = .letter := by
  have bounds : 65 ≤ c.toNat ∧ c.toNat ≤ 90 ∨ 97 ≤ c.toNat ∧ c.toNat ≤ 122 := by
    unfold foldAscii Char.toLower at letter
    split at letter
    · next upper => exact .inl ⟨UInt32.le_iff_toNat_le.1 upper.1, UInt32.le_iff_toNat_le.1 upper.2⟩
    · obtain ⟨low, high⟩ := Bool.and_eq_true_iff.1 letter
      have low := UInt32.le_iff_toNat_le.1 (of_decide_eq_true low)
      exact .inr ⟨low, UInt32.le_iff_toNat_le.1 (of_decide_eq_true high)⟩
  have noDigit : ¬ isDigit c = true := by
    rw [isDigit_eq, Char.isDigit_iff_toNat]
    change ¬ (48 ≤ c.toNat ∧ c.toNat ≤ 57)
    omega
  have noBlank : isBlank c = false := by
    simp only [isBlank, Spans.has, blankSpans, List.any_cons, List.any_nil, Bool.or_false,
      Bool.or_eq_false_iff, Bool.and_eq_false_iff, decide_eq_false_iff_not]
    omega
  rw [kind, if_neg noDigit, noBlank, if_neg Bool.false_ne_true, if_pos letter]

/-! ## Blocks -/

/-- A block of characters of certain kinds, which may be left out or not. -/
structure Block where
  takes : Kind → Bool
  isOptional : Bool := false

/-- A block of one kind. -/
def Block.one (kind : Kind) : Block := { takes := (· == kind) }

/-- A block of one kind, which may be left out. -/
def Block.perhaps (kind : Kind) : Block := { takes := (· == kind), isOptional := true }

/-- A shape is a row of blocks. -/
abbrev Shape := List Block

/-- A text consists of the blocks of a shape. -/
def Fits : Shape → List Char → Prop
  | [], text => text = []
  | block :: shape, text => ∃ taken rest, text = taken ++ rest ∧
      (∀ c ∈ taken, block.takes (kind c) = true) ∧ (taken = [] → block.isOptional = true) ∧
      Fits shape rest

/-- Up to what is left of it, a text consists of the blocks of a shape. -/
def FitsUpTo (shape : Shape) (text rest : List Char) : Prop :=
  ∃ taken, text = taken ++ rest ∧ Fits shape taken

theorem Fits.append {shape more : Shape} {text rest : List Char} (first : Fits shape text)
    (second : Fits more rest) : Fits (shape ++ more) (text ++ rest) := by
  induction shape generalizing text with
  | nil =>
    obtain rfl : text = [] := first
    exact second
  | cons block shape ih =>
    obtain ⟨taken, after, rfl, kinds, optional, first⟩ := first
    exact ⟨taken, after ++ rest, List.append_assoc _ _ _, kinds, optional, ih first⟩

theorem FitsUpTo.refl (text : List Char) : FitsUpTo [] text text := ⟨[], rfl, rfl⟩

theorem FitsUpTo.trans {shape more : Shape} {text middle rest : List Char}
    (first : FitsUpTo shape text middle) (second : FitsUpTo more middle rest) :
    FitsUpTo (shape ++ more) text rest := by
  obtain ⟨taken, rfl, fits⟩ := first
  obtain ⟨next, rfl, fitsNext⟩ := second
  exact ⟨taken ++ next, (List.append_assoc _ _ _).symm, fits.append fitsNext⟩

theorem FitsUpTo.fits {shape : Shape} {text : List Char} (upTo : FitsUpTo shape text []) :
    Fits shape text := by
  obtain ⟨taken, rfl, fits⟩ := upTo
  rwa [List.append_nil]

/-- One block is taken off a text. -/
theorem fitsUpTo_block {block : Block} {taken : List Char} (rest : List Char)
    (kinds : ∀ c ∈ taken, block.takes (kind c) = true)
    (optional : taken = [] → block.isOptional = true) : FitsUpTo [block] (taken ++ rest) rest :=
  ⟨taken, rfl, taken, [], (List.append_nil _).symm, kinds, optional, rfl⟩

/-- A character is a block of its own. -/
theorem fitsUpTo_char {block : Block} {c : Char} (takes : block.takes (kind c) = true)
    (rest : List Char) : FitsUpTo [block] (c :: rest) rest :=
  @fitsUpTo_block block [c] rest (List.forall_mem_singleton.2 takes) fun none =>
    absurd none (List.cons_ne_nil c [])

theorem fitsUpTo_one_iff {first : Kind} {text rest : List Char} :
    FitsUpTo [.one first] text rest ↔
      ∃ taken, text = taken ++ rest ∧ taken ≠ [] ∧ ∀ c ∈ taken, kind c = first := by
  constructor
  · rintro ⟨_, rfl, taken, _, rfl, kinds, optional, rfl⟩
    have filled : taken ≠ [] := fun none => absurd (optional none) Bool.false_ne_true
    exact ⟨taken, by rw [List.append_nil], filled, fun c isTaken => beq_iff_eq.1 (kinds c isTaken)⟩
  · rintro ⟨taken, rfl, filled, kinds⟩
    exact fitsUpTo_block rest (fun c isTaken => beq_iff_eq.2 (kinds c isTaken))
      fun none => absurd none filled

theorem fitsUpTo_perhaps {first : Kind} {taken : List Char} (rest : List Char)
    (kinds : ∀ c ∈ taken, kind c = first) : FitsUpTo [.perhaps first] (taken ++ rest) rest :=
  fitsUpTo_block rest (fun c isTaken => beq_iff_eq.2 (kinds c isTaken)) fun _ => rfl

theorem FitsUpTo.perhaps {first : Kind} {text rest : List Char}
    (one : FitsUpTo [.one first] text rest) : FitsUpTo [.perhaps first] text rest := by
  obtain ⟨taken, rfl, -, kinds⟩ := fitsUpTo_one_iff.1 one
  exact fitsUpTo_perhaps rest kinds

/-- What may be left out is left out. -/
theorem fitsUpTo_nothing {block : Block} (optional : block.isOptional = true) (text : List Char) :
    FitsUpTo [block] text text :=
  fitsUpTo_block text (fun _ isTaken => absurd isTaken List.not_mem_nil) fun _ => optional

theorem spanDigits_append (most : Option Nat) (text : List Char) :
    (spanDigits most text).1 ++ (spanDigits most text).2 = text := by
  have whole : text.takeWhile isDigit = text.take (text.takeWhile isDigit).length :=
    List.prefix_iff_eq_take.1 (List.takeWhile_prefix isDigit)
  cases most with
  | none =>
    calc text.takeWhile isDigit ++ text.drop (text.takeWhile isDigit).length
        = text.take (text.takeWhile isDigit).length ++ text.drop (text.takeWhile isDigit).length :=
          congrArg (· ++ _) whole
      _ = text := List.take_append_drop _ text
  | some most =>
    calc (text.takeWhile isDigit).take most ++ text.drop (min most (text.takeWhile isDigit).length)
        = text.take (min most (text.takeWhile isDigit).length) ++
            text.drop (min most (text.takeWhile isDigit).length) := by
          rw [← List.take_take, ← whole]
      _ = text := List.take_append_drop _ text

theorem isDigit_of_mem_spanDigits {most : Option Nat} {text : List Char} {c : Char}
    (isMember : c ∈ (spanDigits most text).1) : isDigit c = true := by
  cases most with
  | none => exact List.mem_takeWhile_imp isMember
  | some most => exact List.mem_takeWhile_imp (List.mem_of_mem_take isMember)

/-- A number is a block of digits. -/
theorem fitsUpTo_number? {least n : Nat} {most : Option Nat} {text rest : List Char}
    (positive : 0 < least) (read : number? least most text = some (n, rest)) :
    FitsUpTo [.one .digit] text rest := by
  unfold number? at read
  dsimp only at read
  split at read
  · cases read
  · next enough =>
    obtain ⟨-, rfl⟩ := Prod.mk.inj (Option.some.inj read)
    have filled : (spanDigits most text).1 ≠ [] := by
      intro none
      rw [none] at enough
      exact enough positive
    exact fitsUpTo_one_iff.2 ⟨_, (spanDigits_append most text).symm, filled,
      fun c isMember => kind_of_isDigit (isDigit_of_mem_spanDigits isMember)⟩

/-! ## Runs -/

/-- A text consists of runs of single kinds. -/
def Runs : List Kind → List Char → Prop
  | [], text => text = []
  | first :: word, text => ∃ run rest, text = run ++ rest ∧ run ≠ [] ∧ (∀ c ∈ run, kind c = first) ∧
      Runs word rest

theorem Runs.append {word more : List Kind} {text rest : List Char} (first : Runs word text)
    (second : Runs more rest) : Runs (word ++ more) (text ++ rest) := by
  induction word generalizing text with
  | nil =>
    obtain rfl : text = [] := first
    exact second
  | cons next word ih =>
    obtain ⟨run, after, rfl, filled, kinds, first⟩ := first
    exact ⟨run, after ++ rest, List.append_assoc _ _ _, filled, kinds, ih first⟩

theorem runs_single {first : Kind} {run : List Char} (filled : run ≠ [])
    (kinds : ∀ c ∈ run, kind c = first) : Runs [first] run :=
  ⟨run, [], (List.append_nil _).symm, filled, kinds, rfl⟩

theorem Runs.eq_nil {word : List Kind} (runs : Runs word []) : word = [] := by
  cases word with
  | nil => rfl
  | cons first word =>
    obtain ⟨run, rest, none, filled, -⟩ := runs
    exact absurd (List.append_eq_nil_iff.1 none.symm).1 filled

/-- The first character of runs is of the first kind. -/
theorem Runs.head? {word : List Kind} {text : List Char} (runs : Runs word text) :
    text.head?.map kind = word.head? := by
  cases word with
  | nil =>
    obtain rfl : text = [] := runs
    rfl
  | cons first word =>
    obtain ⟨run, rest, rfl, filled, kinds, -⟩ := runs
    obtain ⟨c, run, rfl⟩ := List.exists_cons_of_ne_nil filled
    simp [kinds c List.mem_cons_self]

/-- The last character of runs is of the last kind. -/
theorem Runs.getLast? {word : List Kind} {text : List Char} (runs : Runs word text) :
    text.getLast?.map kind = word.getLast? := by
  induction word generalizing text with
  | nil =>
    obtain rfl : text = [] := runs
    rfl
  | cons first word ih =>
    obtain ⟨run, rest, rfl, filled, kinds, runs⟩ := runs
    cases word with
    | nil =>
      obtain rfl : rest = [] := runs
      have last := List.getLast?_eq_some_getLast filled
      simp [last, kinds _ (List.getLast_mem filled)]
    | cons next word =>
      obtain ⟨c, cs, rfl⟩ : ∃ c cs, rest = c :: cs := by
        obtain ⟨run, after, rfl, filled, -⟩ := runs
        exact List.exists_cons_of_ne_nil (List.append_ne_nil_of_left_ne_nil filled _)
      have last := List.getLast?_eq_some_getLast (List.cons_ne_nil c cs)
      rw [List.getLast?_append, last, Option.some_or, ← last, List.getLast?_cons_cons, ih runs]

/-! ## Deciding -/

/-- What may be left of runs behind a block that goes on to the next one: what is left of the run in
which the block ends, and the runs behind it. -/
def leftBehind (block : Block) : List Kind → List (Option Kind × List Kind)
  | [] => []
  | first :: word =>
    if block.takes first then (some first, word) :: leftBehind block word else []

/-- Whether runs may be of a shape, when some of a run may be left in front of them. -/
def mayFit : Shape → Option Kind × List Kind → Bool
  | [], (_, word) => word.isEmpty
  | block :: shape, (run?, word) =>
    ((block.isOptional || run?.any block.takes) && mayFit shape (run?, word)) ||
      (leftBehind block word).any (mayFit shape)

/-- A text consists of what is left of a run and the runs behind it. -/
def RunsFrom (left : Option Kind × List Kind) (text : List Char) : Prop :=
  ∃ run rest, text = run ++ rest ∧ (∀ c ∈ run, left.1 = some (kind c)) ∧ Runs left.2 rest

/-- A block that takes some of the next run leaves one of what may be left. -/
theorem exists_mem_leftBehind {block : Block} {word : List Kind} {taken rest : List Char}
    (runs : Runs word (taken ++ rest)) (filled : taken ≠ [])
    (kinds : ∀ c ∈ taken, block.takes (kind c) = true) :
    ∃ left ∈ leftBehind block word, RunsFrom left rest := by
  induction word generalizing taken with
  | nil => exact absurd (List.append_eq_nil_iff.1 runs).1 filled
  | cons first word ih =>
    obtain ⟨run, after, whole, runFilled, runKinds, runs⟩ := runs
    -- The block ends within the run or goes on behind it; it takes the first character either way.
    have takesFirst : block.takes first = true := by
      obtain ⟨c, taken, rfl⟩ := List.exists_cons_of_ne_nil filled
      obtain ⟨d, run, rfl⟩ := List.exists_cons_of_ne_nil runFilled
      obtain rfl : c = d := (List.cons.inj whole).1
      exact runKinds c List.mem_cons_self ▸ kinds c List.mem_cons_self
    rw [leftBehind, if_pos takesFirst]
    rcases List.append_eq_append_iff.1 whole with ⟨runRest, rfl, rfl⟩ | ⟨more, rfl, rfl⟩
    · refine ⟨_, List.mem_cons_self, runRest, after, rfl, fun c isMember => ?_, runs⟩
      rw [runKinds c (List.mem_append_right _ isMember)]
    · cases more with
      | nil =>
        refine ⟨_, List.mem_cons_self, [], rest, rfl, ?_, runs⟩
        exact fun _ isMember => absurd isMember List.not_mem_nil
      | cons c more =>
        obtain ⟨left, isLeft, runsFrom⟩ := ih runs (List.cons_ne_nil c more)
          fun d isMember => kinds d (List.mem_append_right _ isMember)
        exact ⟨left, List.mem_cons_of_mem _ isLeft, runsFrom⟩

theorem mayFit_of_runsFrom {shape : Shape} {left : Option Kind × List Kind} {text : List Char}
    (fits : Fits shape text) (runs : RunsFrom left text) : mayFit shape left = true := by
  -- along the shape; a block ends either in the run at hand or in one behind it
  induction shape generalizing left text with
  | nil =>
    obtain rfl : text = [] := fits
    obtain ⟨run, rest, none, -, runs⟩ := runs
    obtain ⟨rfl, rfl⟩ := List.append_eq_nil_iff.1 none.symm
    rw [mayFit, runs.eq_nil, List.isEmpty_nil]
  | cons block shape ih =>
    obtain ⟨taken, after, rfl, kinds, optional, fits⟩ := fits
    obtain ⟨run, rest, whole, runKinds, runs⟩ := runs
    have stays (takes : (block.isOptional || left.1.any block.takes) = true)
        (runsFrom : RunsFrom left after) : mayFit (block :: shape) left = true := by
      rw [mayFit, takes, ih fits runsFrom, Bool.and_self, Bool.true_or]
    have takesRun (c : Char) (isTaken : c ∈ taken) (isRun : c ∈ run) :
        (block.isOptional || left.1.any block.takes) = true := by
      rw [runKinds c isRun, Option.any_some, kinds c isTaken, Bool.or_true]
    cases taken with
    | nil => exact stays (by rw [optional rfl, Bool.true_or]) ⟨run, rest, whole, runKinds, runs⟩
    | cons c taken =>
      rcases List.append_eq_append_iff.1 whole with ⟨runRest, rfl, rfl⟩ | ⟨more, isTaken, rfl⟩
      · refine stays (takesRun c List.mem_cons_self (List.mem_append_left _ List.mem_cons_self)) ?_
        exact ⟨runRest, rest, rfl, fun d isMember => runKinds d (List.mem_append_right _ isMember),
          runs⟩
      · cases more with
        | nil =>
          rw [List.append_nil] at isTaken
          refine stays (takesRun c List.mem_cons_self (isTaken ▸ List.mem_cons_self)) ?_
          exact ⟨[], after, rfl, fun _ isMember => absurd isMember List.not_mem_nil, runs⟩
        | cons d more =>
          have moreKinds : ∀ e ∈ d :: more, block.takes (kind e) = true := fun e isMember =>
            kinds e (isTaken ▸ List.mem_append_right _ isMember)
          obtain ⟨behind, isBehind, runsFrom⟩ :=
            exists_mem_leftBehind runs (List.cons_ne_nil d more) moreKinds
          rw [mayFit, Bool.or_eq_true]
          exact .inr (List.any_eq_true.2 ⟨behind, isBehind, ih fits runsFrom⟩)

/-- A text of runs that cannot be of a shape is not of it. -/
theorem not_fits_of_runs {shape : Shape} {word : List Kind} {text : List Char}
    (runs : Runs word text) (never : mayFit shape (none, word) = false) : ¬ Fits shape text := by
  intro fits
  have runsFrom : RunsFrom (none, word) text :=
    ⟨[], text, rfl, fun _ isMember => absurd isMember List.not_mem_nil, runs⟩
  have may := mayFit_of_runsFrom fits runsFrom
  rw [never] at may
  cases may

end PageFeed.Text
