import PageFeed.Json.Value.Reading
import PageFeed.Proofs.Exchange.Delivery
import PageFeed.Proofs.Fields

/-! Feeds decoded from the memory that a caller is handed. The text of a feed as JSON ends where its
memory does, and it is read back name by name and character by character. -/

namespace PageFeed.Exchange

open Json (Value)

/-! ## Decoding -/

def textMember? (member : String × Value) : Option (String × String) :=
  match member.2 with
  | .string text => some (member.1, text)
  | _ => none

def fieldsOfJson? : Value → Option (Fields String)
  | .object members => (members.mapM textMember?).map Fields.ofList
  | _ => none

/-- The feed that an object stands for. Its members are looked up, so it may have them in any order. -/
def feedOfJson? : Value → Option Feed
  | .object members => do
    let info ← fieldsOfJson? (← members.lookup "info")
    match ← members.lookup "entries" with
    | .array entries => return { info, entries := ← entries.mapM fieldsOfJson? }
    | _ => none
  | _ => none

theorem fieldsOfJson?_fieldsToJson (fields : Fields String) :
    fieldsOfJson? (fieldsToJson fields) = some fields := by
  have members : (fields.toList.map fun field => (field.1, Value.string field.2)).mapM textMember? =
      some fields.toList := by
    induction fields.toList with
    | nil => rfl
    | cons field rest ih => simp [textMember?, ih]
  rw [fieldsToJson, fieldsOfJson?, members, Option.map_some, Fields.ofList_toList]

theorem feedOfJson?_feedToJson (feed : Feed) : feedOfJson? (feedToJson feed) = some feed := by
  have entries : (feed.entries.map fieldsToJson).mapM fieldsOfJson? = some feed.entries := by
    induction feed.entries with
    | nil => rfl
    | cons entry rest ih => simp [fieldsOfJson?_fieldsToJson, ih]
  simp [feedToJson, feedOfJson?, List.lookup_cons, fieldsOfJson?_fieldsToJson, entries]

theorem read?_text_feedToJson (feed : Feed) :
    Value.read? (feedToJson feed).text = some (feedToJson feed) :=
  (isPlain_feedToJson feed 124).read?_text

/-! ## Delivered feeds -/

/-- For rules that compile and a page that is a text, the feed of the page is handed over as JSON and
nothing of it is lost. As an Atom document it is handed over exactly if it has one without NUL
characters, and otherwise there is a report. -/
theorem delivered_feed {page : Pointer} {length : Nat} {bytes : ByteArray} {source : String}
    {set : RuleSet} {markup : String} (read : textAt? bytes = some source)
    (compiles : RuleSet.ofJson source .builtin = .ok set)
    (given : handedPage page length = markup.toUTF8) :
    let feed := Extractor.extractMarkup { rules := set } markup
    (∃ data text, deliverFeed page length (some bytes) = { data := some data } ∧
      textAt? data = some text ∧ '\x00' ∉ text.toList ∧
      Value.read? text = some (feedToJson feed) ∧ feedOfJson? (feedToJson feed) = some feed) ∧
    (∀ text, (∃ data, deliverAtom page length (some bytes) = { data := some data } ∧
        textAt? data = some text) ↔ atomRenderer none feed = .ok text ∧ '\x00' ∉ text.toList) ∧
    ((¬∃ text, atomRenderer none feed = .ok text ∧ '\x00' ∉ text.toList) →
      ∃ report, deliverAtom page length (some bytes) = { report := some report }) := by
  intro feed
  have accepted : Accepted page length (some bytes) set markup := .intro read compiles given
  have noNul := nul_not_mem_feedToJson feed
  refine ⟨⟨_, (feedToJson feed).text, accepted.deliverFeed_eq, textAt?_terminated noNul, noNul,
    read?_text_feedToJson feed, feedOfJson?_feedToJson feed⟩, fun text => ⟨?_, ?_⟩, ?_⟩
  · rintro ⟨data, delivered, told⟩
    -- Memory that reads as a text is a result, so nothing stood in the way of writing.
    rcases writes_or_unwritten feed with ⟨written, writes, plain⟩ | ⟨message, unwritten⟩
    · have result := accepted.deliverAtom_of_writes writes plain
      rw [delivered] at result
      cases result
      rw [textAt?_terminated plain] at told
      cases told
      exact ⟨writes, plain⟩
    · have result := accepted.deliverAtom_of_unwritten unwritten
      rw [delivered, Delivery.ofReport_eq] at result
      cases result
  · rintro ⟨writes, plain⟩
    exact ⟨_, accepted.deliverAtom_of_writes writes plain, textAt?_terminated plain⟩
  · intro unwritable
    rcases writes_or_unwritten feed with written | ⟨message, unwritten⟩
    · exact absurd written unwritable
    · exact ⟨_, (accepted.deliverAtom_of_unwritten unwritten).trans (Delivery.ofReport_eq message)⟩

def noteRules : String :=
  "\x7b\"info\":\x7b\"note\":\x7b\"literal\":\"a\\u0000b\\n\\\"\"\x7d\x7d,\"entry\":\x7b\x7d\x7d"

def noteSet : RuleSet := { info := .ofList [("note", .ofLiteral "a\x00b\n\"")] }

def noteFeed : Feed := ⟨.ofList [("note", "a\x00b\n\"")], []⟩

/-- As JSON the note is handed over with its NUL character, but there is no Atom document of it. -/
theorem delivered_noteFeed :
    (∃ data text, deliverFeed (some "<p>".toUTF8) 3 (some (terminated noteRules)) =
        { data := some data } ∧
      textAt? data = some text ∧ (Value.read? text).bind feedOfJson? = some noteFeed) ∧
    ∃ report, deliverAtom (some "<p>".toUTF8) 3 (some (terminated noteRules)) =
      { report := some report } := by
  have read : textAt? (terminated noteRules) = some noteRules := textAt?_terminated (by decide)
  have compiles : RuleSet.ofJson noteRules .builtin = .ok noteSet := by rfl
  have given : handedPage (some "<p>".toUTF8) 3 = "<p>".toUTF8 := by decide
  have feed : Extractor.extractMarkup { rules := noteSet } "<p>" = noteFeed := by decide +kernel
  obtain ⟨⟨data, text, delivered, told, _, decoded, back⟩, _, report⟩ :=
    delivered_feed read compiles given
  rw [feed] at decoded back report
  refine ⟨⟨data, text, delivered, told, ?_⟩, report ?_⟩
  · rw [decoded, Option.bind_some, back]
  · rintro ⟨written, writes, plain⟩
    have nul : (atomRenderer none noteFeed).toOption.all fun text => decide ('\x00' ∈ text.toList) := by
      decide +kernel
    rw [writes] at nul
    exact plain (of_decide_eq_true nul)

end PageFeed.Exchange
