import PromptGraph.Effect.Rehearsal
import PromptGraph.Proofs.Engine.Listing
import PromptGraph.Proofs.Json.Nesting

/-!
# `Proofs.Engine.Pages` — a listing loses nothing and repeats nothing

A listing that is cut into pages is put together again: the items come in the order of the pages, there is one request
for each page, and it carries the cursor of the page before it. A page that is not there ends the listing with the
failure that tells of it.

## Contents
- **One page.** `pageRead`; `listFrom_eq`, `listFrom_stops`, `listFrom_continues`.
- **Contents of replies.** `Answers`, `Continues`, `Ends`; `NoDataText`, `OverNested`, `Breaks`;
  `pageRead_of_continues`, `pageRead_of_ends`, `pageRead_of_breaks`.
- **Pages in a row.** `Continued`; `listFrom_pages` by induction on the pages before the last.
- **Listings.** `Paged`, `listing_is_paged`; `nested_page_escapes`, a page that ends a listing without a remote error.
-/

namespace PromptGraph.Engine

open Act Http

section

variable [Depth]
variable {σ α : Type} {h : Handler σ} {e : Endpoint} {s : σ}

/-! ## One page -/

/-- What a reply to the request for a page is read as: items, and the cursor of the next page. -/
def pageRead (e : Endpoint) (cursor : Option Json) (reply : Reply) : Except Failure (List Json × Option Json) :=
  replyValue (pageRequest e cursor) reply >>= readPage

/-- The pages of an endpoint can be asked for. -/
def Addressable (e : Endpoint) : Prop := isAddressText e.fullPath.toList = true

theorem listFrom_eq (haddress : Addressable e) (budget : Nat) (cursor : Option Json) :
    listFrom e (budget + 1) cursor = .ask (.exchange (pageRequest e cursor)) fun reply =>
      ofExcept (pageRead e cursor reply) >>= afterPage e budget := by
  have hrequest : (pageRequest e cursor).isAddressable = true := haddress
  rw [listFrom_succ, send_eq_ask hrequest rfl]
  refine congrArg (Act.ask (.exchange (pageRequest e cursor))) (funext fun reply => ?_)
  show ofExcept (replyValue (pageRequest e cursor) reply) >>= _ = _
  rw [← bind_bind, ofExcept_bind]
  rfl

/-- The first request of a listing is that for its first page. -/
theorem exchanges_listFrom_head (haddress : Addressable e) (budget : Nat) (cursor : Option Json) :
    ∃ rest, exchanges h (listFrom e (budget + 1) cursor) s
      = ⟨pageRequest e cursor, (h (.exchange (pageRequest e cursor)) s).1⟩ :: rest := by
  rw [listFrom_eq haddress]
  exact ⟨_, rfl⟩

/-- After a reply that gives no cursor nothing else is asked for. -/
theorem listFrom_stops (haddress : Addressable e) {budget : Nat} {cursor : Option Json}
    {outcome : Except Failure (List Json)}
    (hread : pageRead e cursor (h (.exchange (pageRequest e cursor)) s).1 = outcome.map (·, none)) :
    exchanges h (listFrom e (budget + 1) cursor) s
        = [⟨pageRequest e cursor, (h (.exchange (pageRequest e cursor)) s).1⟩]
      ∧ ((listFrom e (budget + 1) cursor).run h s).1 = endOf outcome := by
  rw [listFrom_eq haddress, run_ask, exchanges, hread]
  cases outcome with
  | error failure => exact ⟨rfl, rfl⟩
  | ok items => exact ⟨rfl, rfl⟩

/-- After a page that is not the last the listing goes on from its cursor, with one page less that it may have. -/
theorem listFrom_continues (haddress : Addressable e) {budget : Nat} {cursor : Option Json} {items : List Json}
    {next : Json} (hread : pageRead e cursor (h (.exchange (pageRequest e cursor)) s).1 = .ok (items, some next)) :
    exchanges h (listFrom e (budget + 1) cursor) s
        = ⟨pageRequest e cursor, (h (.exchange (pageRequest e cursor)) s).1⟩
          :: exchanges h (listFrom e budget (some next)) (h (.exchange (pageRequest e cursor)) s).2
      ∧ ((listFrom e (budget + 1) cursor).run h s).1
        = ((listFrom e budget (some next) >>= fun more => pure (items ++ more)).run h
            (h (.exchange (pageRequest e cursor)) s).2).1 := by
  rw [listFrom_eq haddress, run_ask, exchanges, hread]
  refine ⟨?_, rfl⟩
  exact congrArg (Exchange.mk (pageRequest e cursor) (h (.exchange (pageRequest e cursor)) s).1 :: ·)
    (exchanges_bind_pure h _ _ _)

/-! ## Contents of replies -/

/-- A reply of success whose content is a data value; an empty content is null. -/
inductive Answers : Reply → Json → Prop where
  | value {status : Int} {body : Body} {v : Json} (hstatus : 200 ≤ status ∧ status < 300)
      (hbody : body.isEmpty = false) (hvalue : body.decode = .ok (some v)) : Answers (.answer status body) v
  | empty {status : Int} (hstatus : 200 ≤ status ∧ status < 300) : Answers (.answer status (.text "")) .null

/-- A page that is not the last: an object with a list of items, and a cursor. -/
inductive Continues (reply : Reply) (items : List Json) (next : Json) : Prop where
  | object {ms : Members} (hreply : Answers reply (.obj ms)) (hdata : Members.get? "data" ms = some (.arr items))
      (hcursor : Members.get? "nextCursor" ms = some next) (hnext : next.isTruthy = true)

/-- The last page: an object with a list of items and no cursor, a list, or nothing. -/
inductive Ends (reply : Reply) : List Json → Prop where
  | object {ms : Members} {items : List Json} (hreply : Answers reply (.obj ms))
      (hdata : Members.get? "data" ms = some (.arr items))
      (hcursor : ∀ next, Members.get? "nextCursor" ms = some next → next.isTruthy = false) : Ends reply items
  | list {items : List Json} (hreply : Answers reply (.arr items)) : Ends reply items
  | empty (hreply : Answers reply .null) : Ends reply []

/-- A text that is no data text, at whatever number of levels. -/
def NoDataText (text : String) : Prop :=
  ∀ content, Text.detect? (Text.utf8Bytes text) = some content → ∀ levels v, Json.readWithin levels content ≠ .ok v

/-- A text in which more lists and objects are nested than are read. -/
def OverNested (text : String) : Prop :=
  ∃ content, Text.detect? (Text.utf8Bytes text) = some content ∧ Json.read content = .error .tooDeep

/-- The failure that a listing ends with where a page is not there. The engine's failure carries the status of the
    answer, and the method and the path of the request. -/
inductive Breaks (e : Endpoint) : Reply → Failure → Prop where
  | transport (kind message : String) :
      Breaks e (.failed kind message) (.remote ⟨none, "request failed: " ++ message, "GET", e.path⟩)
  | status {status : Int} (body : Body) (hstatus : ¬ (200 ≤ status ∧ status < 300)) :
      Breaks e (.answer status body) (.remote ⟨some status, body.content, "GET", e.path⟩)
  | unreadable {status : Int} {text : String} (hstatus : 200 ≤ status ∧ status < 300) (htext : text ≠ "")
      (hnone : NoDataText text) (hshallow : ¬ OverNested text) :
      Breaks e (.answer status (.text text)) (.remote ⟨some status, "invalid JSON: " ++ excerpt text, "GET", e.path⟩)
  | nested {status : Int} {text : String} (hstatus : 200 ≤ status ∧ status < 300) (htext : text ≠ "")
      (hdeep : OverNested text) : Breaks e (.answer status (.text text)) (.kind .nesting)
  | unsent : Breaks e .unaddressed (.kind .address)

theorem replyValue_of_answers {r : Request} {reply : Reply} {v : Json} (h : Answers reply v) :
    replyValue r reply = .ok v := by
  cases h with
  | value hstatus hbody hvalue =>
      rw [replyValue, if_neg (not_not_intro hstatus), hbody, hvalue]
      rfl
  | empty hstatus =>
      rw [replyValue, if_neg (not_not_intro hstatus)]
      rfl

theorem pageRead_of_answers {reply : Reply} {v : Json} (h : Answers reply v) (cursor : Option Json) :
    pageRead e cursor reply = readPage v := by
  rw [pageRead, replyValue_of_answers h]
  rfl

omit [Depth] in
theorem readPage_obj {ms : Members} {items : List Json} (hdata : Members.get? "data" ms = some (.arr items)) :
    readPage (.obj ms) = .ok (items, (Members.get? "nextCursor" ms).filter Json.isTruthy) := by
  show (pageItems ((Members.get? "data" ms).getD .null) >>= _) = _
  rw [hdata]
  rfl

theorem pageRead_of_continues {reply : Reply} {items : List Json} {next : Json} (h : Continues reply items next)
    (cursor : Option Json) : pageRead e cursor reply = .ok (items, some next) := by
  obtain ⟨hreply, hdata, hcursor, hnext⟩ := h
  rw [pageRead_of_answers hreply, readPage_obj hdata, hcursor, Option.filter_some, if_pos hnext]

theorem pageRead_of_ends {reply : Reply} {items : List Json} (h : Ends reply items) (cursor : Option Json) :
    pageRead e cursor reply = .ok (items, none) := by
  cases h with
  | @object ms _ hreply hdata hcursor =>
      have hnone : (Members.get? "nextCursor" ms).filter Json.isTruthy = none := by
        rw [Option.filter_eq_none_iff]
        intro next hnext
        rw [hcursor next hnext]
        exact Bool.false_ne_true
      rw [pageRead_of_answers hreply, readPage_obj hdata, hnone]
  | list hreply => exact pageRead_of_answers hreply cursor
  | empty hreply => exact pageRead_of_answers hreply cursor

/-- A text that is nested too deeply is refused as such, whether or not it is a data text. -/
theorem decode_of_overNested {text : String} (h : OverNested text) :
    (Body.text text).decode = .error (.kind .nesting) := by
  obtain ⟨content, hcontent, hread⟩ := h
  unfold Body.decode
  dsimp only
  rw [hcontent, Option.map_some, hread]

theorem decode_of_noDataText {text : String} (hnone : NoDataText text) (hshallow : ¬ OverNested text) :
    (Body.text text).decode = .ok none := by
  unfold Body.decode
  dsimp only
  cases hcontent : Text.detect? (Text.utf8Bytes text) with
  | none => rfl
  | some content =>
      rw [Option.map_some]
      cases hread : Json.read content with
      | ok v => exact absurd hread (hnone content hcontent Depth.read v)
      | error fault =>
          cases fault with
          | tooDeep => exact absurd ⟨content, hcontent, hread⟩ hshallow
          | _ => rfl

omit [Depth] in
theorem isEmpty_text {text : String} (h : text ≠ "") : (Body.text text).isEmpty = false := by
  simpa [Body.isEmpty] using h

omit [Depth] in
theorem noDataText_brackets {n : Nat} (h : 4 ≤ n) : NoDataText (Json.brackets n) := by
  intro content hcontent levels v
  rw [Json.detect?_brackets h] at hcontent
  cases hcontent
  exact Json.readWithin_brackets_ne_ok levels n v

theorem overNested_brackets {n : Nat} (h : Depth.read < n) : OverNested (Json.brackets n) := by
  have hfour : 4 ≤ n := Nat.lt_of_le_of_lt Depth.three_le_read h
  exact ⟨_, Json.detect?_brackets hfour, Json.read_brackets h⟩

omit [Depth] in
theorem brackets_ne_empty {n : Nat} (h : 0 < n) : Json.brackets n ≠ "" := by
  intro hempty
  have hlength := congrArg (List.length ∘ String.toList) hempty
  rw [Function.comp_apply, Json.brackets, String.toList_ofList, List.length_replicate] at hlength
  exact Nat.ne_of_gt h hlength

/-- A page that is not there ends the listing, whichever cursor it was asked for with. -/
theorem pageRead_of_breaks {reply : Reply} {failure : Failure} (h : Breaks e reply failure) (cursor : Option Json) :
    pageRead e cursor reply = .error failure := by
  unfold pageRead
  cases h with
  | transport kind message => rfl
  | status body hstatus =>
      rw [replyValue, if_pos hstatus]
      rfl
  | unreadable hstatus htext hnone hshallow =>
      rw [replyValue, if_neg (not_not_intro hstatus), isEmpty_text htext, decode_of_noDataText hnone hshallow]
      rfl
  | nested hstatus htext hdeep =>
      rw [replyValue, if_neg (not_not_intro hstatus), isEmpty_text htext, decode_of_overNested hdeep]
      rfl
  | unsent => rfl

/-! ## Pages in a row -/

/-- Some exchanges brought these pages, each with its items and its cursor, as far as there are both. -/
def Continued (xs : List Exchange) (pages : List (List Json × Json)) : Prop :=
  ∀ (k : Nat) (x : Exchange) (items : List Json) (next : Json),
    xs[k]? = some x → pages[k]? = some (items, next) → Continues x.reply items next

theorem Continued.tail {x : Exchange} {xs : List Exchange} {page : List Json × Json} {pages : List (List Json × Json)}
    (h : Continued (x :: xs) (page :: pages)) : Continued xs pages :=
  fun k x items next hx hpage => h (k + 1) x items next hx hpage

/-- The requests for pages in a row and for the one after them. -/
def pageRequests (e : Endpoint) (cursor : Option Json) (pages : List (List Json × Json)) : List Request :=
  (cursor :: pages.map fun page => some page.2).map (pageRequest e)

/-- **A listing asks for page after page, and puts the items together**, by induction on the pages before the last. -/
theorem listFrom_pages (haddress : Addressable e) {pages : List (List Json × Json)} {budget : Nat}
    (hbudget : pages.length < budget) {cursor : Option Json}
    (hcontinued : Continued (exchanges h (listFrom e budget cursor) s) pages) {outcome : Except Failure (List Json)}
    (hlast : ∀ x : Exchange, (exchanges h (listFrom e budget cursor) s)[pages.length]? = some x →
      ∀ c, pageRead e c x.reply = outcome.map (·, none)) :
    (exchanges h (listFrom e budget cursor) s).map Exchange.request = pageRequests e cursor pages
      ∧ ((listFrom e budget cursor).run h s).1 = endOf (outcome.map (pages.flatMap Prod.fst ++ ·)) := by
  induction pages generalizing budget cursor s with
  | nil =>
      obtain ⟨budget, rfl⟩ := Nat.exists_eq_add_one.mpr hbudget
      obtain ⟨rest, hfirst⟩ := exchanges_listFrom_head (h := h) (s := s) haddress budget cursor
      rw [hfirst] at hlast
      obtain ⟨hexchanges, hend⟩ := listFrom_stops haddress (hlast _ rfl cursor)
      rw [hexchanges, hend]
      refine ⟨rfl, ?_⟩
      cases outcome <;> rfl
  | cons page pages ih =>
      obtain ⟨items, next⟩ := page
      obtain ⟨budget, rfl⟩ := Nat.exists_eq_add_one.mpr (Nat.zero_lt_of_lt hbudget)
      obtain ⟨rest, hfirst⟩ := exchanges_listFrom_head (h := h) (s := s) haddress budget cursor
      have hpage := hcontinued 0 _ items next (by rw [hfirst]; rfl) rfl
      obtain ⟨hexchanges, hend⟩ := listFrom_continues haddress (pageRead_of_continues hpage cursor)
      rw [hexchanges] at hcontinued hlast ⊢
      -- the pages after this one are a listing from its cursor on
      obtain ⟨hrequests, hmore⟩ := ih (Nat.lt_of_succ_lt_succ hbudget) hcontinued.tail hlast
      have happended := run_bind_ofExcept_of_endOf hmore fun more => .ok (items ++ more)
      rw [List.map_cons, hrequests]
      refine ⟨rfl, (hend.trans happended).trans ?_⟩
      cases outcome with
      | error failure => rfl
      | ok final => exact congrArg End.value (List.append_assoc items _ final).symm

/-! ## Listings -/

/-- How a listing goes on whose first pages are not the last: with the last one, or with a page that is not there. -/
structure Paged (h : Handler σ) (s : σ) (e : Endpoint) (read : Json → Except Failure α) (call : Act (List α))
    (pages : List (List Json × Json)) : Prop where
  /-- All items come, in the order of the pages, and each page is asked for once. -/
  whole : ∀ items, (∀ x : Exchange, (exchanges h call s)[pages.length]? = some x → Ends x.reply items) →
    (exchanges h call s).map Exchange.request = pageRequests e none pages
      ∧ (call.run h s).1 = endOf (readEach read (pages.flatMap Prod.fst ++ items))
  /-- The failure tells of the page, and nothing is asked for after it. -/
  broken : ∀ failure, (∀ x : Exchange, (exchanges h call s)[pages.length]? = some x → Breaks e x.reply failure) →
    (exchanges h call s).map Exchange.request = pageRequests e none pages ∧ (call.run h s).1 = .failure failure

theorem paged_of_continued (haddress : Addressable e) (read : Json → Except Failure α)
    {pages : List (List Json × Json)} {budget : Nat} (hbudget : pages.length < budget)
    (hcontinued : Continued (exchanges h (listPages budget e >>= fun items => ofExcept (readEach read items)) s) pages) :
    Paged h s e read (listPages budget e >>= fun items => ofExcept (readEach read items)) pages := by
  have hsame := exchanges_bind_ofExcept h (listPages budget e) (readEach read) s
  rw [hsame] at hcontinued
  refine ⟨fun items hends => ?_, fun failure hbreaks => ?_⟩
  · rw [hsame] at hends ⊢
    have hlast : ∀ x : Exchange, (exchanges h (listFrom e budget none) s)[pages.length]? = some x →
        ∀ c, pageRead e c x.reply = (Except.ok items).map (·, none) := fun x hx => pageRead_of_ends (hends x hx)
    obtain ⟨hrequests, hend⟩ := listFrom_pages haddress hbudget hcontinued hlast
    exact ⟨hrequests, run_bind_ofExcept_of_endOf hend (readEach read)⟩
  · rw [hsame] at hbreaks ⊢
    have hlast : ∀ x : Exchange, (exchanges h (listFrom e budget none) s)[pages.length]? = some x →
        ∀ c, pageRead e c x.reply = (Except.error failure).map (·, none) :=
      fun x hx => pageRead_of_breaks (hbreaks x hx)
    obtain ⟨hrequests, hend⟩ := listFrom_pages haddress hbudget hcontinued hlast
    exact ⟨hrequests, run_bind_ofExcept_of_endOf hend (readEach read)⟩

/-- A listing fails with its first page. -/
theorem run_listing_of_breaks (haddress : Addressable e) (read : Json → Except Failure α) (budget : Nat)
    {failure : Failure} (hbreaks : Breaks e (h (.exchange (pageRequest e none)) s).1 failure) :
    ((listPages (budget + 1) e >>= fun items => ofExcept (readEach read items)).run h s).1 = .failure failure := by
  have hread : pageRead e none (h (.exchange (pageRequest e none)) s).1 = (Except.error failure).map (·, none) :=
    pageRead_of_breaks hbreaks none
  have hend : ((listPages (budget + 1) e).run h s).1 = endOf (Except.error failure) := (listFrom_stops haddress hread).2
  exact run_bind_ofExcept_of_endOf hend (readEach read)

omit [Depth] in
theorem addressable_workflows : Addressable .workflows := by
  unfold Addressable
  decide

omit [Depth] in
theorem addressable_credentials : Addressable .credentials := by
  unfold Addressable
  decide

/-- **A listing loses nothing and repeats nothing.** Where the first pages that are asked for have a cursor, the first
    request has none, each later one has exactly the cursor of the page before it, and there is one for each page. With
    the last page, all items come in their order; with a page that is not there, the listing fails and tells of it, as
    an error of the engine unless the page is nested too deeply or was not sent for. -/
theorem listing_is_paged (h : Handler σ) (s : σ) {pages : List (List Json × Json)} {budget : Nat}
    (hbudget : pages.length < budget) :
    (Continued (exchanges h (listWorkflows budget) s) pages →
      Paged h s .workflows Definition.read (listWorkflows budget) pages)
    ∧ (Continued (exchanges h (listCredentials budget) s) pages →
      Paged h s .credentials Credential.read (listCredentials budget) pages) :=
  ⟨paged_of_continued addressable_workflows Definition.read hbudget,
    paged_of_continued addressable_credentials Credential.read hbudget⟩

end

-- the cursor of a page is a text, and the request for the next page carries it as it is
example (c : String) : (pageRequest .workflows (some (.str c))).parameters = some [("cursor", c)] := rfl

/-- Surroundings in which requests are answered so, one after the other. -/
def replying (replies : List Reply) : Rehearsal where
  base := ⟨"http".toList, [], "engine".toList, none, ['/'], none, []⟩
  replies := replies
  clock := []

/-- The entry of a workflow. -/
def entry (id : String) : Json := .obj [("id", .str id)]

/-- Two pages: an object with a cursor, and a list. -/
def twoPages : List Reply :=
  [.answer 200 (.json (.obj [("data", .arr [entry "1"]), ("nextCursor", .str "c")])),
    .answer 200 (.json (.arr [entry "2"]))]

theorem listing_is_paged_two_pages :
    ((listWorkflows 2).run Rehearsal.answer (replying twoPages)).1
        = endOf (readEach Definition.read [entry "1", entry "2"])
      ∧ (exchanges Rehearsal.answer (listWorkflows 2) (replying twoPages)).map Exchange.request
        = [pageRequest .workflows none, pageRequest .workflows (some (.str "c"))] := by
  have hexchanges : exchanges Rehearsal.answer (listWorkflows 2) (replying twoPages) =
      List.zipWith Exchange.mk [pageRequest .workflows none, pageRequest .workflows (some (.str "c"))] twoPages := rfl
  have hcontinued : Continued (exchanges Rehearsal.answer (listWorkflows 2) (replying twoPages))
      [([entry "1"], .str "c")] := by
    rw [hexchanges]
    intro k x items next hx hpage
    cases k with
    | zero =>
        cases hx
        cases hpage
        exact .object (.value (by decide) rfl rfl) rfl rfl (by decide)
    | succ k => cases hpage
  have hpaged := (listing_is_paged Rehearsal.answer (replying twoPages) (by decide)).1 hcontinued
  have hends : ∀ x : Exchange, (exchanges Rehearsal.answer (listWorkflows 2) (replying twoPages))[1]? = some x →
      Ends x.reply [entry "2"] := by
    rw [hexchanges]
    rintro x ⟨⟩
    exact .list (.value (by decide) rfl rfl)
  obtain ⟨hrequests, hend⟩ := hpaged.whole [entry "2"] hends
  exact ⟨hend, hrequests⟩

/-- **A page of nothing but opening brackets is no data text, and the listing does not fail with an error of the
    engine.** -/
theorem nested_page_escapes : NoDataText (Json.brackets 5000)
    ∧ ((listWorkflows 1).run Rehearsal.answer (replying [.answer 200 (.text (Json.brackets 5000))])).1
      = .failure (.kind .nesting) := by
  have hanswer : ∀ page, (Rehearsal.answer (.exchange (pageRequest .workflows none)) (replying [page])).1
      = Rehearsal.replyFrom _ page := fun _ => rfl
  have hpage : Breaks .workflows (Rehearsal.answer (.exchange (pageRequest .workflows none))
      (replying [.answer 200 (.text (Json.brackets 5000))])).1 (.kind .nesting) := by
    rw [hanswer]
    exact .nested (by decide) (brackets_ne_empty (by decide)) (overNested_brackets (by decide))
  exact ⟨noDataText_brackets (by decide), run_listing_of_breaks addressable_workflows Definition.read 0 hpage⟩

end PromptGraph.Engine
