/-
What can be read from the page that lists all metrics. Keys are written with entities for the
five characters that mean something in a page, and values need none of these characters; so all
markup of a page belongs to its frame and its items, and whoever takes the frame off, cuts the
rest at the marks of the items and each item at its last colon has every key and the text of
every value.
-/

import Metering.Proofs.Gateway.Egress
import Metering.Proofs.Gateway.Notations

namespace Metering

namespace Page

/-! ### Reading a page -/

/-- The characters that a text in a page stands for, with the entities undone. -/
def unescapeChars : List Char → List Char
  | '&' :: 'a' :: 'm' :: 'p' :: ';' :: rest => '&' :: unescapeChars rest
  | '&' :: 'l' :: 't' :: ';' :: rest => '<' :: unescapeChars rest
  | '&' :: 'g' :: 't' :: ';' :: rest => '>' :: unescapeChars rest
  | '&' :: 'q' :: 'u' :: 'o' :: 't' :: ';' :: rest => '"' :: unescapeChars rest
  | '&' :: '#' :: '3' :: '9' :: ';' :: rest => '\'' :: unescapeChars rest
  | character :: rest => character :: unescapeChars rest
  | [] => []

/-- What stands before and behind the content of an item. -/
def itemOpening : List Char := "<li>".toList

def itemClosing : List Char := "</li>\n".toList

/-- The key and the text of the value that an item shows; the key ends at the last colon. -/
def readItem? (content : List Char) : Option (String × String) :=
  (Text.cutPhrase? [' ', ':'] content.reverse).map fun (value, key) =>
    (String.ofList (unescapeChars key.reverse), String.ofList value.reverse)

/-- What is behind a cut is shorter. -/
theorem length_lt_of_cutPhrase? {first : Char} {others characters before after : List Char}
    (cut : Text.cutPhrase? (first :: others) characters = some (before, after)) :
    after.length < characters.length := by
  induction characters generalizing before with
  | nil => cases cut
  | cons character rest inductionHypothesis =>
    rw [Text.cutPhrase?] at cut
    split at cut
    · obtain ⟨_, rfl⟩ := Prod.mk.inj (Option.some.inj cut)
      simp only [List.length_drop, List.length_cons]
      omega
    · obtain ⟨⟨restBefore, restAfter⟩, restCut, same⟩ := Option.map_eq_some_iff.mp cut
      obtain ⟨_, rfl⟩ := Prod.mk.inj same
      exact (inductionHypothesis restCut).trans (Nat.lt_succ_self _)

/-- What the items show that a text is made of, if it is made of items alone. -/
def readItems? (characters : List Char) : Option (List (String × String)) :=
  if characters.isEmpty then some []
  else if itemOpening.isPrefixOf characters then
    match _ : Text.cutPhrase? itemClosing (characters.drop itemOpening.length) with
    | none => none
    | some (content, rest) => do return (← readItem? content) :: (← readItems? rest)
  else none
termination_by characters.length
decreasing_by
  refine (length_lt_of_cutPhrase? (by assumption)).trans_le ?_
  rw [List.length_drop]
  exact Nat.sub_le _ _

/-- The keys and the texts of values that a page shows, if it is a page of metrics. -/
def read? (page : String) : Option (List (String × String)) := do
  readItems? (← (← page.toList.dropPrefix? opening.toList).dropSuffix? closing.toList)

/-! ### Keys and values without markup -/

/-- The characters that the markup of a page is made with, apart from the ampersand. -/
def marks : List Char := ['<', '>', '"', '\'']

/-- An entity, or a character that needs none, stands for the character. -/
theorem unescapeChars_append (character : Char) (rest : List Char) :
    unescapeChars (escapeChar character ++ rest) = character :: unescapeChars rest := by
  unfold escapeChar
  split
  · rfl
  · rfl
  · rfl
  · rfl
  · rfl
  · next plain _ _ _ _ =>
    rw [List.singleton_append, unescapeChars]
    all_goals exact fun _ isAmpersand => absurd isAmpersand plain

theorem unescapeChars_escape (text : String) :
    unescapeChars (escape text).toList = text.toList := by
  rw [escape, String.toList_ofList]
  induction text.toList with
  | nil => rfl
  | cons character rest inductionHypothesis =>
    rw [List.flatMap_cons, unescapeChars_append, inductionHypothesis]

theorem not_mem_escapeChar {mark : Char} (isMark : mark ∈ marks) (character : Char) :
    mark ∉ escapeChar character := by
  have entities : ∀ special ∈ '&' :: marks, ∀ mark ∈ marks, mark ∉ escapeChar special := by
    -- taken apart first, as to decide it for all characters would be to go through them
    simp only [marks, List.forall_mem_cons, List.not_mem_nil, false_imp_iff, implies_true, and_true]
    decide
  by_cases isSpecial : character ∈ '&' :: marks
  · exact entities character isSpecial mark isMark
  · have plain : escapeChar character = [character] := by
      unfold escapeChar
      split
      all_goals first | rfl | exact absurd (by decide) isSpecial
    rw [plain, List.mem_singleton]
    rintro rfl
    exact isSpecial (List.mem_cons_of_mem _ isMark)

theorem not_mem_escape {mark : Char} (isMark : mark ∈ marks) (text : String) :
    mark ∉ (escape text).toList := by
  rw [escape, String.toList_ofList, List.mem_flatMap]
  rintro ⟨character, _, member⟩
  exact not_mem_escapeChar isMark character member

/-- The text of a value has no markup in it, and no colon. -/
theorem not_mem_display {mark : Char} (isMark : mark ∈ ':' :: marks) (value : Value) :
    mark ∉ value.display.toList := by
  have ofFinite (finite : value.IsFinite) : mark ∉ value.display.toList := by
    obtain ⟨numeral, proper, isNumeral⟩ := Value.isNumeral_display finite
    rw [← isNumeral]
    intro member
    have others : ∀ mark ∈ ':' :: marks,
        mark.isDigit = false ∧ mark ∉ ['-', '+', '.', 'e'] := by simp [marks, Char.isDigit]
    obtain ⟨noDigit, noSign⟩ := others mark isMark
    rcases Numeral.mem_characters proper member with isDigit | isSign
    · exact Bool.false_ne_true (noDigit.symm.trans isDigit)
    · exact noSign isSign
  cases value with
  | counter total => exact ofFinite trivial
  | gauge reading =>
    by_cases finite : reading.isFinite = true
    · exact ofFinite finite
    · have texts : ∀ mark ∈ ':' :: marks,
          mark ∉ "NaN".toList ∧ mark ∉ "-inf".toList ∧ mark ∉ "inf".toList := by simp [marks]
      obtain ⟨notNumber, negative, positive⟩ := texts mark isMark
      rw [Value.display, Binary64.display, if_neg finite]
      split
      · exact notNumber
      · split
        · exact negative
        · exact positive

/-! ### Items -/

/-- What stands between the marks of an item. -/
def content (entry : String × Value) : List Char :=
  (escape entry.1).toList ++ [':', ' '] ++ entry.2.display.toList

theorem toList_item (entry : String × Value) :
    (item entry).toList = itemOpening ++ (content entry ++ itemClosing) := by
  simp only [item, content, String.toList_append, List.append_assoc]
  rfl

theorem not_mem_content {mark : Char} (isMark : mark ∈ marks) (entry : String × Value) :
    mark ∉ content entry := by
  rw [content, List.mem_append, List.mem_append]
  rintro ((inKey | isMiddle) | inValue)
  · exact not_mem_escape isMark entry.1 inKey
  · have middle : ∀ mark ∈ marks, mark ∉ [':', ' '] := by simp [marks]
    exact middle mark isMark isMiddle
  · exact not_mem_display (List.mem_cons_of_mem _ isMark) entry.2 inValue

theorem readItem?_content (entry : String × Value) :
    readItem? (content entry) = some (entry.1, entry.2.display) := by
  have free : ¬ [' ', ':'] <:+: entry.2.display.toList.reverse := fun inside =>
    not_mem_display List.mem_cons_self entry.2
      (List.mem_reverse.mp (inside.subset (List.mem_cons_of_mem _ List.mem_cons_self)))
  have reversed : (content entry).reverse =
      entry.2.display.toList.reverse ++ [' ', ':'] ++ (escape entry.1).toList.reverse := by
    simp [content]
  rw [readItem?, reversed, Text.cutPhrase?_append (by decide) free, Option.map_some]
  dsimp only
  rw [List.reverse_reverse, List.reverse_reverse, unescapeChars_escape, String.ofList_toList,
    String.ofList_toList]

/-- The first item is read, and then those behind it. -/
theorem readItems?_append (entry : String × Value) (behind : List Char) :
    readItems? ((item entry).toList ++ behind) =
      (readItems? behind).map ((entry.1, entry.2.display) :: ·) := by
  have free : ¬ itemClosing <:+: content entry := fun inside =>
    not_mem_content (by decide) entry (inside.subset List.mem_cons_self)
  have whole : (item entry).toList ++ behind =
      itemOpening ++ (content entry ++ itemClosing ++ behind) := by
    rw [toList_item, List.append_assoc]
  have opens : itemOpening.isPrefixOf (itemOpening ++ (content entry ++ itemClosing ++ behind)) :=
    List.isPrefixOf_iff_prefix.mpr (List.prefix_append _ _)
  have cut := Text.cutPhrase?_append (by decide) free behind
  rw [whole, readItems?, if_neg (by rw [itemOpening]; exact Bool.false_ne_true), if_pos opens]
  split
  · next none =>
    rw [List.drop_left, cut] at none
    cases none
  · next shown rest isCut =>
    rw [List.drop_left, cut] at isCut
    obtain ⟨rfl, rfl⟩ := Prod.mk.inj (Option.some.inj isCut)
    rw [readItem?_content]
    cases readItems? behind <;> rfl

theorem readItems?_items (entries : List (String × Value)) :
    readItems? (entries.flatMap fun entry => (item entry).toList) =
      some (entries.map fun entry => (entry.1, entry.2.display)) := by
  induction entries with
  | nil =>
    rw [readItems?]
    rfl
  | cons entry rest inductionHypothesis =>
    rw [List.flatMap_cons, readItems?_append, inductionHypothesis]
    rfl

/-! ### Pages -/

theorem toList_render (metrics : KeyMap Value) :
    (render metrics).toList = opening.toList ++
      ((metrics.toList.flatMap fun entry => (item entry).toList) ++ closing.toList) := by
  rw [render, String.toList_append, String.toList_append, List.append_assoc, String.toList_join,
    List.flatMap_map]

/-- A page shows just the metrics that it is made of. -/
theorem read?_render (metrics : KeyMap Value) :
    read? (render metrics) =
      some (metrics.toList.map fun entry => (entry.1, entry.2.display)) := by
  let items := metrics.toList.flatMap fun entry => (item entry).toList
  have front : (opening.toList ++ (items ++ closing.toList)).dropPrefix? opening.toList =
      some (items ++ closing.toList) :=
    List.dropPrefix?_eq_some_iff.mpr ⟨_, rfl, BEq.rfl⟩
  have back : (items ++ closing.toList).dropSuffix? closing.toList = some items :=
    List.dropSuffix?_eq_some_iff.mpr ⟨_, rfl, BEq.rfl⟩
  rw [read?, toList_render, front, Option.bind_eq_bind, Option.bind_some, back]
  exact readItems?_items metrics.toList

theorem count_items {mark : Char} (isMark : mark ∈ marks) (entries : List (String × Value)) :
    (entries.flatMap fun entry => (item entry).toList).count mark =
      entries.length * (itemOpening ++ itemClosing).count mark := by
  induction entries with
  | nil => exact (Nat.zero_mul _).symm
  | cons entry rest inductionHypothesis =>
    rw [List.flatMap_cons, List.count_append, inductionHypothesis, toList_item, List.count_append,
      List.count_append, List.count_eq_zero.mpr (not_mem_content isMark entry), Nat.zero_add,
      List.length_cons, Nat.succ_mul, ← List.count_append, Nat.add_comm]

/-- No metric adds a mark of its own to a page. -/
theorem count_render {mark : Char} (isMark : mark ∈ marks) (metrics : KeyMap Value) :
    (render metrics).toList.count mark =
      (opening ++ closing).toList.count mark +
        metrics.toList.length * (itemOpening ++ itemClosing).count mark := by
  rw [toList_render, List.count_append, List.count_append, count_items isMark,
    String.toList_append, List.count_append, List.count_append, Nat.add_comm (_ * _),
    ← Nat.add_assoc]

end Page

/-! ### The page that is sent -/

namespace Gateway

theorem answer_listing (request : Request) {store : Storage} (connected : store.connected = true)
    (reached : store.begun.isReached = true) :
    ∃ metrics : KeyMap Value, (∀ key, metrics.find? key = store.kept.value? key) ∧
      (Endpoint.answer .listing request store).1 = .page (Page.render metrics) := by
  obtain ⟨metrics, listed, isKept⟩ := Storage.all_on reached
  have told : (Service.all store).1 = .ok metrics := by
    rw [Service.all, Service.inTransaction_apply, if_pos connected, Service.storing_apply, listed]
    rfl
  refine ⟨metrics, fun key => ?_, ?_⟩
  · rw [isKept, Storage.seen_begun]
  · show (Endpoint.responding (fun metrics => .page (Page.render metrics)) Service.all store).1 = _
    rw [Endpoint.responding_eq, told]
    rfl

variable (gateway : Gateway) (number : UInt64) {request handed : Request}

/-- What passes all stages is served with the answer at its route. -/
theorem serve_of_passed [Gzip.Deflater] {Store : Type} [Repository Store] (store : Store)
    (passed : gateway.passed request = .ok handed) (notHead : request.method ≠ "HEAD") :
    (gateway.serve number request store).1 =
      gateway.sent number (isWanted request) (answered handed store).1 := by
  obtain ⟨body, isHanded⟩ := of_passed passed
  have sameWanted : isWanted handed = isWanted request := by
    rw [isHanded]
    rfl
  rw [serve_behind gateway.staged_eq_passed, passed]
  dsimp only
  rw [routed_eq, finished_told, withoutBody, if_neg notHead, sameWanted]

/-- Whatever keys are stored, the page that one gets who asks for all metrics is a frame around one
item for each metric, in the order of the keys; the keys and the texts of the values are read back
from it as they are stored, and no metric adds a mark of its own to it. It is sent as it is unless
it is too long for a stage that takes it up. -/
theorem listing_reads_back [Gzip.Deflater] [Gzip.LawfulDeflater] {store : Storage}
    (connected : store.connected = true) (reached : store.begun.isReached = true)
    (isGet : request.method = "GET") (isListing : Route.ofPath? request.path = some .listing)
    (passed : gateway.passed request = .ok handed) :
    ∃ (page : String) (listed : List (String × String)),
      listed.Pairwise (fun earlier later => earlier.1 < later.1) ∧
      (∀ key text, (key, text) ∈ listed ↔
        ∃ value, store.kept.value? key = some value ∧ value.display = text) ∧
      page = Page.opening ++ String.join (listed.map fun (key, text) =>
        "<li>" ++ Page.escape key ++ ": " ++ text ++ "</li>\n") ++ Page.closing ∧
      Page.read? page = some listed ∧
      (∀ mark ∈ Page.marks, page.toList.count mark =
        (Page.opening ++ Page.closing).toList.count mark +
          listed.length * "<li></li>\n".toList.count mark) ∧
      (gateway.signingKey = none ∧ request.listsGzip headerNames.wantedCoding = false ∨
          (Response.page page).Fits →
        (gateway.serve number request store).1.status = 200 ∧
          (gateway.serve number request store).1.content? = some (Bytes.ofText page)) := by
  obtain ⟨metrics, isKept, isAnswer⟩ := answer_listing handed connected reached
  have isRoute : Route.ofPath? handed.path = some .listing := by
    obtain ⟨body, rfl⟩ := of_passed passed
    exact isListing
  have takes : Route.listing.takes handed.method = true := by
    obtain ⟨body, rfl⟩ := of_passed passed
    show Route.listing.takes request.method = true
    rw [isGet]
    rfl
  have isAnswered : (answered handed store).1 = .page (Page.render metrics) := by
    rw [answered, isRoute]
    dsimp only
    rw [if_pos takes, isAnswer]
  have notHead : request.method ≠ "HEAD" := by
    rw [isGet]
    decide
  refine ⟨Page.render metrics, metrics.toList.map fun entry => (entry.1, entry.2.display),
    List.pairwise_map.mpr (metrics.sorted.imp fun before => before), fun key text => ?_, ?_,
    Page.read?_render metrics, fun mark isMark => ?_, fun sendable => ?_⟩
  · rw [List.mem_map]
    constructor
    · rintro ⟨⟨_, value⟩, member, same⟩
      obtain ⟨rfl, rfl⟩ := Prod.mk.inj same
      exact ⟨value, (isKept _).symm.trans ((metrics.find?_eq_some_iff _ _).mpr member), rfl⟩
    · rintro ⟨value, isHeld, rfl⟩
      exact ⟨(key, value), (metrics.find?_eq_some_iff _ _).mp ((isKept key).trans isHeld), rfl⟩
  · rw [Page.render, List.map_map]
    rfl
  · rw [Page.count_render isMark, List.length_map]
    rfl
  · rw [serve_of_passed gateway number store passed notHead, isAnswered]
    rcases sendable with ⟨noKey, notWanted⟩ | fits
    · rw [isWanted, notWanted, Bool.and_false, sent, told, noKey]
      exact ⟨rfl, rfl⟩
    · obtain ⟨status, content, _⟩ := gateway.sent_of_fits number (isWanted request) fits
      exact ⟨status, content⟩

/-- Keys that look like an item, like an entity and like a key with its value. -/
theorem listing_reads_back_forged_keys :
    let gateway : Gateway := ⟨none, none, none⟩
    let contents : Contents :=
      ⟨KeyMap.ofList [("a</li>\n<li>b: 2", -1), ("&#39;", 7)],
        KeyMap.ofList [("\"b\": 2", ⟨0x3fe0000000000000⟩)]⟩
    let store := Storage.memory { MemoryStore.ephemeral with contents }
    let answer := (gateway.serve 1 ⟨"GET", "/", [], []⟩ store).1
    ∃ page listed, answer.content? = some (Bytes.ofText page) ∧ Page.read? page = some listed ∧
      ("a</li>\n<li>b: 2", "-1") ∈ listed ∧ ("&#39;", "7") ∈ listed ∧
      ("\"b\": 2", "0.5") ∈ listed := by
  intro gateway contents store answer
  have isListing : Route.ofPath? (⟨"GET", "/", [], []⟩ : Request).path = some .listing := by
    decide +kernel
  have passed : gateway.passed ⟨"GET", "/", [], []⟩ = .ok ⟨"GET", "/", [], []⟩ := by
    decide +kernel
  have connected : store.connected = true := rfl
  obtain ⟨page, listed, _, shows, _, reads, _, sends⟩ :=
    listing_reads_back gateway 1 connected rfl rfl isListing passed
  have content := (sends (Or.inl ⟨rfl, by decide +kernel⟩)).2
  refine ⟨page, listed, content, reads, (shows _ _).mpr ⟨.counter (-1), ?_, ?_⟩,
    (shows _ _).mpr ⟨.counter 7, ?_, ?_⟩,
    (shows _ _).mpr ⟨.gauge ⟨0x3fe0000000000000⟩, ?_, ?_⟩⟩
  all_goals decide +kernel

end Gateway

end Metering
