import PageFeed.Exchange
import PageFeed.Proofs.Json.Value
import PageFeed.Proofs.Text.Utf8

/-! What callers are handed back, and when it is a report. A call is refused for what is wrong with the
rules or else with the page, whatever was asked for; a feed as JSON is never a reason of its own. -/

namespace PageFeed

theorem Error.message_ne_empty (error : Error) : error.message ≠ "" := by
  have more (start rest : String) (worded : start ≠ "") : start ++ rest ≠ "" :=
    fun empty => worded (String.append_eq_empty_iff.1 empty).1
  cases error with
  | config => exact more _ _ (by decide)
  | selector => exact more _ _ (more _ _ (more _ _ (by decide)))
  | json => exact more _ _ (by decide)
  | yaml fault =>
    cases fault with
    | none => decide
    | some => exact more _ _ (by decide)
  | render => exact more _ _ (by decide)

namespace Exchange

open Text (fromUTF8?_eq_some_iff fromUTF8?_eq_none_iff)

/-! ## Texts in memory -/

def terminated (text : String) : ByteArray := text.toUTF8.push 0

theorem textAt?_terminated {text : String} (plain : '\x00' ∉ text.toList) :
    textAt? (terminated text) = some text := by
  -- The zero behind the text is the first one.
  have inside : ∀ byte ∈ text.toUTF8.data.toList, (byte != 0) = true := by
    intro byte member
    rw [bne_iff_ne]
    rintro rfl
    exact plain ((Text.zero_mem_toUTF8_iff text).1 (Array.mem_toList_iff.1 member))
  have before : untilZero (terminated text) = text.toUTF8 := by
    apply ByteArray.ext
    apply Array.toList_inj.1
    rw [untilZero, terminated, Array.toList_takeWhile, ByteArray.data_push, Array.toList_push,
      List.takeWhile_append_of_pos inside]
    simp
  rw [textAt?, before, Text.fromUTF8?_toUTF8]

theorem textAt?_eq_none_iff {bytes : ByteArray} :
    textAt? bytes = none ↔ ¬(untilZero bytes).IsValidUTF8 := fromUTF8?_eq_none_iff

theorem terminate?_of_mem {text : String} (nul : '\x00' ∈ text.toList) : terminate? text = none := by
  have zero : text.toUTF8.data.contains 0 = true :=
    Array.contains_iff_mem.2 ((Text.zero_mem_toUTF8_iff text).2 nul)
  simp only [terminate?, zero, if_true]

theorem terminate?_of_not_mem {text : String} (plain : '\x00' ∉ text.toList) :
    terminate? text = some (terminated text) := by
  have noZero : ¬text.toUTF8.data.contains 0 = true := by
    rwa [Array.contains_iff_mem, Text.zero_mem_toUTF8_iff]
  simp only [terminate?, noZero, terminated]
  rfl

theorem toList_blankNuls (text : String) :
    (blankNuls text).toList = text.toList.map fun c => if c = '\x00' then ' ' else c := by
  simp [blankNuls]

theorem not_mem_blankNuls (text : String) : '\x00' ∉ (blankNuls text).toList := by
  intro member
  rw [toList_blankNuls] at member
  obtain ⟨c, _, same⟩ := List.mem_map.1 member
  split at same
  · cases same
  · next other => exact other same

theorem blankNuls_ne_empty {text : String} (worded : text ≠ "") : blankNuls text ≠ "" := by
  intro empty
  have none : (blankNuls text).toList = [] := by rw [empty]; rfl
  rw [toList_blankNuls, List.map_eq_nil_iff] at none
  exact worded (String.toList_eq_nil_iff.1 none)

/-! ## Deliveries -/

namespace Delivery

/-- There is a result or a report, and not both. -/
def IsDecided (delivery : Delivery) : Prop := delivery.data.isSome ≠ delivery.report.isSome

/-- There is no result, and the report is a message with spaces for its NUL characters. -/
structure Reports (delivery : Delivery) (message : String) : Prop where
  noData : delivery.data = none
  told : ∃ text : String, text ≠ "" ∧
    text.toList = message.toList.map (fun c => if c = '\x00' then ' ' else c) ∧
    delivery.report = some (terminated text) ∧ delivery.report.bind textAt? = some text

theorem ofReport_eq (message : String) :
    ofReport message = { report := some (terminated (blankNuls message)) } := by
  rw [ofReport, terminate?_of_not_mem (not_mem_blankNuls message), Option.getD_some]

theorem reports_ofReport {message : String} (worded : message ≠ "") :
    (ofReport message).Reports message := by
  rw [ofReport_eq]
  exact {
    noData := rfl
    told := ⟨blankNuls message, blankNuls_ne_empty worded, toList_blankNuls message, rfl,
      textAt?_terminated (not_mem_blankNuls message)⟩ }

theorem ofData_of_not_mem {text : String} (plain : '\x00' ∉ text.toList) :
    ofData text = { data := some (terminated text) } := by
  rw [ofData, terminate?_of_not_mem plain]

theorem ofData_of_mem {text : String} (nul : '\x00' ∈ text.toList) :
    ofData text = ofReport "Result contains null bytes" := by
  rw [ofData, terminate?_of_mem nul]

theorem isDecided_ofReport (message : String) : (ofReport message).IsDecided := by
  simp [IsDecided, ofReport_eq]

theorem isDecided_ofData (text : String) : (ofData text).IsDecided := by
  by_cases nul : '\x00' ∈ text.toList
  · rw [ofData_of_mem nul]
    exact isDecided_ofReport _
  · simp [IsDecided, ofData_of_not_mem nul]

end Delivery

/-! ## Calls -/

section Calls

variable {page : Pointer} {length : Nat} {rules : Pointer} {message : String} {set : RuleSet}
  {markup : String}

/-- The bytes of a page. None stand behind a pointer that leads nowhere. -/
def handedPage (page : Pointer) (length : Nat) : ByteArray := (page.getD .empty).extract 0 length

/-- What a call is refused for, the first reason first: there are no rules, they are no text, they
are faulty, or the page is no text. -/
inductive Refused (page : Pointer) (length : Nat) : (rules : Pointer) → (message : String) → Prop
  | noRules : Refused page length none "Rules JSON is null"
  | noText {bytes : ByteArray} (invalid : ¬(untilZero bytes).IsValidUTF8) :
    Refused page length (some bytes) "Invalid UTF-8 in rules JSON"
  | faulty {bytes : ByteArray} {source : String} {error : Error} (read : textAt? bytes = some source)
    (fails : RuleSet.ofJson source .builtin = .error error) :
    Refused page length (some bytes) error.message
  | noPage {bytes : ByteArray} {source : String} {set : RuleSet} (read : textAt? bytes = some source)
    (compiles : RuleSet.ofJson source .builtin = .ok set)
    (invalid : ¬(handedPage page length).IsValidUTF8) :
    Refused page length (some bytes) "Invalid UTF-8 in HTML content"

/-- The rules and the markup of a call that is not refused. -/
inductive Accepted (page : Pointer) (length : Nat) : (rules : Pointer) → RuleSet → String → Prop
  | intro {bytes : ByteArray} {source : String} {set : RuleSet} {markup : String}
    (read : textAt? bytes = some source) (compiles : RuleSet.ofJson source .builtin = .ok set)
    (given : handedPage page length = markup.toUTF8) : Accepted page length (some bytes) set markup

theorem refused_or_accepted (page : Pointer) (length : Nat) (rules : Pointer) :
    (∃ message, Refused page length rules message) ∨
      ∃ set markup, Accepted page length rules set markup := by
  cases rules with
  | none => exact .inl ⟨_, .noRules⟩
  | some bytes =>
    cases read : textAt? bytes with
    | none => exact .inl ⟨_, .noText (textAt?_eq_none_iff.1 read)⟩
    | some source =>
      cases compiled : RuleSet.ofJson source .builtin with
      | error error => exact .inl ⟨_, .faulty read compiled⟩
      | ok set =>
        cases given : String.fromUTF8? (handedPage page length) with
        | none => exact .inl ⟨_, .noPage read compiled (fromUTF8?_eq_none_iff.1 given)⟩
        | some markup => exact .inr ⟨_, _, .intro read compiled (fromUTF8?_eq_some_iff.1 given)⟩

theorem Refused.ne_empty (refused : Refused page length rules message) : message ≠ "" := by
  cases refused with
  | faulty => exact Error.message_ne_empty _
  | _ => decide

theorem readPage_eq (page : Pointer) (length : Nat) :
    readPage page length =
      match String.fromUTF8? (handedPage page length) with
      | some text => .ok text
      | none => .error "Invalid UTF-8 in HTML content" := by
  have empty : String.fromUTF8? .empty = some "" := Text.fromUTF8?_toUTF8 ""
  cases page with
  | none =>
    have nothing : handedPage none length = .empty := by simp [handedPage]
    rw [nothing, empty]
    rfl
  | some bytes =>
    by_cases zero : length = 0
    · have nothing : handedPage (some bytes) length = .empty := by simp [handedPage, zero]
      rw [nothing, empty, readPage, if_pos zero]
    · have all : handedPage (some bytes) length = bytes.extract 0 length := rfl
      rw [all]
      cases found : String.fromUTF8? (bytes.extract 0 length) <;>
        simp only [readPage, zero, found, if_false]

variable (work : Extractor → String → Except String String)

theorem Refused.deliver_eq (refused : Refused page length rules message) :
    deliver work page length rules = .ofReport message := by
  cases refused with
  | noRules => rfl
  | noText invalid =>
    have unread := textAt?_eq_none_iff.2 invalid
    simp only [deliver, readRules, unread]
    rfl
  | faulty read fails =>
    simp only [deliver, readRules, read, fails]
    rfl
  | noPage read compiles invalid =>
    have unread := fromUTF8?_eq_none_iff.2 invalid
    simp only [deliver, readRules, read, compiles, readPage_eq, unread]
    rfl

theorem Accepted.deliver_eq (accepted : Accepted page length rules set markup) :
    deliver work page length rules =
      match work { rules := set } markup with
      | .ok text => .ofData text
      | .error message => .ofReport message := by
  obtain ⟨read, compiles, given⟩ := accepted
  have found := fromUTF8?_eq_some_iff.2 given
  simp only [deliver, readRules, read, compiles, readPage_eq, found]
  rfl

theorem isDecided_deliver (page : Pointer) (length : Nat) (rules : Pointer) :
    (deliver work page length rules).IsDecided := by
  unfold deliver
  split
  · exact Delivery.isDecided_ofData _
  · exact Delivery.isDecided_ofReport _

end Calls

/-! ## Feeds -/

theorem isPlain_fieldsToJson (fields : Fields String) (depth : Nat) :
    (fieldsToJson fields).IsPlain (depth + 1) := by
  refine .object fun member listed => ?_
  obtain ⟨field, _, rfl⟩ := List.mem_map.1 listed
  exact .string field.2

theorem isPlain_feedToJson (feed : Feed) (depth : Nat) :
    (feedToJson feed).IsPlain (depth + 3) := by
  refine .object (List.forall_mem_cons.2 ⟨isPlain_fieldsToJson feed.info _,
    List.forall_mem_singleton.2 (.array fun item listed => ?_)⟩)
  obtain ⟨entry, _, rfl⟩ := List.mem_map.1 listed
  exact isPlain_fieldsToJson entry depth

theorem nul_not_mem_feedToJson (feed : Feed) : '\x00' ∉ (feedToJson feed).text.toList := by
  intro nul
  rw [Json.Value.text, String.toList_ofList] at nul
  -- NUL is a control character, and those are escaped.
  exact absurd ((isPlain_feedToJson feed 0).printed_write _ nul) (by decide)

section Feeds

variable {page : Pointer} {length : Nat} {rules : Pointer} {set : RuleSet} {markup : String}

/-- Why a feed cannot be handed over as an Atom document: its fields have other names, or it holds
NUL characters. -/
inductive Unwritten (feed : Feed) : (message : String) → Prop
  | faulty {error : Error} (fails : atomRenderer none feed = .error error) : Unwritten feed error.message
  | nul {text : String} (writes : atomRenderer none feed = .ok text) (nul : '\x00' ∈ text.toList) :
    Unwritten feed "Result contains null bytes"

theorem Accepted.deliverFeed_eq (accepted : Accepted page length rules set markup) :
    deliverFeed page length rules =
      { data := some (terminated (feedToJson (Extractor.extractMarkup { rules := set } markup)).text) } := by
  rw [deliverFeed, accepted.deliver_eq]
  exact Delivery.ofData_of_not_mem (nul_not_mem_feedToJson _)

theorem Accepted.deliverAtom_of_writes (accepted : Accepted page length rules set markup) {text : String}
    (writes : atomRenderer none (Extractor.extractMarkup { rules := set } markup) = .ok text)
    (plain : '\x00' ∉ text.toList) :
    deliverAtom page length rules = { data := some (terminated text) } := by
  have rendered : Extractor.render { rules := set } (Html.parse markup) (atomRenderer none) = .ok text :=
    writes
  rw [deliverAtom, accepted.deliver_eq, rendered]
  exact Delivery.ofData_of_not_mem plain

theorem Accepted.deliverAtom_of_unwritten (accepted : Accepted page length rules set markup)
    {message : String} (unwritten : Unwritten (Extractor.extractMarkup { rules := set } markup) message) :
    deliverAtom page length rules = .ofReport message := by
  rw [deliverAtom, accepted.deliver_eq, Extractor.render, ← Extractor.extractMarkup]
  cases unwritten with
  | faulty fails => rw [fails]; rfl
  | nul writes nul =>
    rw [writes]
    exact Delivery.ofData_of_mem nul

theorem writes_or_unwritten (feed : Feed) :
    (∃ text, atomRenderer none feed = .ok text ∧ '\x00' ∉ text.toList) ∨
      ∃ message, Unwritten feed message := by
  cases written : atomRenderer none feed with
  | error error => exact .inr ⟨_, .faulty written⟩
  | ok text =>
    by_cases nul : '\x00' ∈ text.toList
    · exact .inr ⟨_, .nul written nul⟩
    · exact .inl ⟨text, rfl, nul⟩

theorem Unwritten.ne_empty {feed : Feed} {message : String} (unwritten : Unwritten feed message) :
    message ≠ "" := by
  cases unwritten with
  | faulty => exact Error.message_ne_empty _
  | nul => decide

end Feeds

theorem handedPage_eq_empty {page : Pointer} {length : Nat} (nothing : page = none ∨ length = 0) :
    handedPage page length = "".toUTF8 := by
  rcases nothing with rfl | rfl
  · simp [handedPage]
  · simp [handedPage]

/-- Both calls hand back a result or a report and never both. They refuse the same calls with the same
words; a feed as JSON has no other reports, and an Atom document only those on its writing. -/
theorem reports_of_call (page : Pointer) (length : Nat) (rules : Pointer) :
    let feed := deliverFeed page length rules
    let atom := deliverAtom page length rules
    feed.IsDecided ∧ atom.IsDecided ∧
      (∀ message, Refused page length rules message →
        feed.Reports message ∧ atom.Reports message ∧ feed = atom) ∧
      (feed.report.isSome → ∃ message, Refused page length rules message) ∧
      (atom.report.isSome → ∃ message, atom.Reports message ∧
        (Refused page length rules message ∨ ∃ set markup, Accepted page length rules set markup ∧
          Unwritten (Extractor.extractMarkup { rules := set } markup) message)) ∧
      (∀ set markup, Accepted page length rules set markup → feed =
        { data := some (terminated (feedToJson (Extractor.extractMarkup { rules := set } markup)).text) }) ∧
      (page = none ∨ length = 0 → handedPage page length = "".toUTF8) := by
  intro feed atom
  refine ⟨isDecided_deliver _ page length rules, isDecided_deliver _ page length rules, ?_, ?_, ?_,
    fun set markup => Accepted.deliverFeed_eq, handedPage_eq_empty⟩
  · intro message refused
    have feedReport : feed = .ofReport message := refused.deliver_eq _
    have atomReport : atom = .ofReport message := refused.deliver_eq _
    have told := Delivery.reports_ofReport refused.ne_empty
    rw [feedReport, atomReport]
    exact ⟨told, told, rfl⟩
  · intro reported
    rcases refused_or_accepted page length rules with refused | ⟨set, markup, accepted⟩
    · exact refused
    · have result := accepted.deliverFeed_eq
      change feed = _ at result
      rw [result] at reported
      cases reported
  · intro reported
    rcases refused_or_accepted page length rules with ⟨message, refused⟩ | ⟨set, markup, accepted⟩
    · have atomReport : atom = .ofReport message := refused.deliver_eq _
      rw [atomReport]
      exact ⟨message, Delivery.reports_ofReport refused.ne_empty, .inl refused⟩
    · rcases writes_or_unwritten (Extractor.extractMarkup { rules := set } markup) with
        ⟨text, writes, plain⟩ | ⟨message, unwritten⟩
      · have result : atom = _ := accepted.deliverAtom_of_writes writes plain
        rw [result] at reported
        cases reported
      · have atomReport : atom = .ofReport message := accepted.deliverAtom_of_unwritten unwritten
        rw [atomReport]
        exact ⟨message, Delivery.reports_ofReport unwritten.ne_empty,
          .inr ⟨set, markup, accepted, unwritten⟩⟩

end Exchange

end PageFeed
