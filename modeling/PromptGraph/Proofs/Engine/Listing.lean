import PromptGraph.Proofs.Checked
import PromptGraph.Proofs.Effect.Courses
import PromptGraph.Proofs.Engine.Footprint

/-!
# `Proofs.Engine.Listing` — the courses of the engine's operations

An operation sends one request, or is refused beforehand; a listing sends a request for each page. When the pages of a
listing are complete is said apart from the program that asks for them, and the program brings the items of a listing
exactly when it is complete.

## Contents
- **Requests.** `Exchange.succeeded`; `course_send`, `course_of_send`, `course_operation`, `course_operation_bind`,
  `course_attempt_operation`.
- **Listings.** `pageRequest`, `Lists`; `course_listFrom` by induction on the pages, `course_listFrom_head`,
  `course_listing`, `course_listWorkflows`.
- **Failing listings.** `pageOf`, `Unlisted`, which is unique and apart from `Lists`; `unlisted_of_course` by induction.
-/

namespace PromptGraph

open Act Http

variable [Depth]

/-- Whether a request was answered with a status of success. -/
def Exchange.succeeded (x : Exchange) : Bool :=
  match x.reply with
  | .answer status _ => 200 ≤ status && status < 300
  | _ => false

namespace Engine

variable {α : Type}

/-! ## Requests -/

/-- A value is brought by an answer of success. -/
theorem succeeded_of_value {r : Request} {reply : Reply} {v : Json} (h : replyValue r reply = .ok v) :
    Exchange.succeeded ⟨r, reply⟩ = true := by
  cases reply with
  | answer status body =>
      rw [replyValue] at h
      split at h
      · cases h
      · rename_i hstatus
        simpa [Exchange.succeeded] using hstatus
  | _ => cases h

theorem decode_error {body : Body} {e : Failure} (h : body.decode = .error e) : e = .kind .nesting := by
  unfold Body.decode at h
  split at h
  · cases h
  · split at h
    · cases h
    · cases h
      rfl
    · cases h

/-- What is not found was not answered with success. -/
theorem not_succeeded_of_missing {r : Request} {reply : Reply} {e : RemoteError}
    (h : replyValue r reply = .error (.remote e)) (hmissing : e.status = some 404) :
    Exchange.succeeded ⟨r, reply⟩ = false := by
  cases reply with
  | answer status body =>
      by_cases hstatus : 200 ≤ status ∧ status < 300
      · -- an unreadable answer of success carries its own status
        rw [replyValue, if_neg (not_not_intro hstatus)] at h
        split at h
        · cases h
        · split at h
          · cases h
          · rename_i hdecode
            cases decode_error hdecode
            cases h
          · cases h
            cases hmissing
            omega
      · simpa [Exchange.succeeded] using hstatus
  | _ => rfl

/-- A request is refused beforehand, which is no error of the remote, or sent and its reply read. -/
theorem course_send {r : Request} {xs : List Exchange} {o : End Json} (h : Course (send r) xs o) :
    (xs = [] ∧ ∃ e, send r = .failed e ∧ o = .failure e ∧ ∀ x, e ≠ .remote x)
      ∨ ∃ reply, xs = [⟨r, reply⟩] ∧ o = endOf (replyValue r reply) := by
  rcases send_cases r with hr | ⟨e, hr, hremote⟩
  · rw [hr] at h
    cases h with
    | ask reply h =>
        obtain ⟨rfl, rfl⟩ := course_ofExcept h
        exact Or.inr ⟨reply, rfl, rfl⟩
  · rw [hr] at h
    cases h
    exact Or.inl ⟨rfl, e, hr, rfl, hremote⟩

/-- A request that has an address and a text for its body is sent, and its reply read. -/
theorem course_of_send {r : Request} {reply : Reply} {v : Json} (haddress : r.isAddressable = true)
    (hfault : bodyFault? r = none) (hvalue : replyValue r reply = .ok v) :
    Course (send r) [⟨r, reply⟩] (.value v) := by
  have hread : Course (ofExcept (replyValue r reply)) [] (.value v) := by
    rw [hvalue]
    exact .done v
  rw [send_eq_ask haddress hfault]
  exact Course.ask (q := .exchange r) reply hread

-- what a request comes to is known; to unfold its checks takes long
attribute [local irreducible] send

/-- What follows a request goes on from its value, or the reply is a failure. -/
theorem course_send_bind {r : Request} {f : Json → Act α} {xs : List Exchange} {o : End α}
    (h : Course (send r >>= f) xs o) :
    (xs = [] ∧ ∃ e, send r = .failed e ∧ o = .failure e ∧ ∀ x, e ≠ .remote x)
      ∨ (∃ reply e, replyValue r reply = .error e ∧ xs = [⟨r, reply⟩] ∧ o = .failure e)
      ∨ ∃ reply v ys, replyValue r reply = .ok v ∧ xs = ⟨r, reply⟩ :: ys ∧ Course (f v) ys o := by
  rcases course_bind h with ⟨v, ys, zs, hys, hzs, rfl⟩ | ⟨e, he, rfl⟩ | ⟨hcut, rfl⟩
  · rcases course_send hys with ⟨-, e, -, he, -⟩ | ⟨reply, rfl, hvalue⟩
    · cases he
    · exact Or.inr (Or.inr ⟨reply, v, zs, endOf_eq_value.mp hvalue.symm, rfl, hzs⟩)
  · rcases course_send he with ⟨rfl, e', hrefused, hend, hremote⟩ | ⟨reply, rfl, hend⟩
    · cases hend
      exact Or.inl ⟨rfl, e, hrefused, rfl, hremote⟩
    · exact Or.inr (Or.inl ⟨reply, e, endOf_eq_failure.mp hend.symm, rfl, rfl⟩)
  · rcases course_send hcut with ⟨-, e, -, he, -⟩ | ⟨reply, -, hend⟩
    · cases he
    · exact absurd hend.symm (endOf_ne_cut _)

/-- An operation is refused beforehand, or sends its request and reads the answer. -/
theorem course_operation {r : Request} {read : Json → Except Failure α} {xs : List Exchange} {o : End α}
    (h : Course (send r >>= fun v => ofExcept (read v)) xs o) :
    (xs = [] ∧ ∃ e, send r = .failed e ∧ o = .failure e ∧ ∀ x, e ≠ .remote x)
      ∨ ∃ reply, xs = [⟨r, reply⟩] ∧ o = endOf (replyValue r reply >>= read) := by
  rcases course_send_bind h with hrefused | ⟨reply, e, hvalue, rfl, rfl⟩ | ⟨reply, v, ys, hvalue, rfl, hread⟩
  · exact Or.inl hrefused
  · exact Or.inr ⟨reply, rfl, by rw [hvalue]; rfl⟩
  · obtain ⟨rfl, rfl⟩ := course_ofExcept hread
    exact Or.inr ⟨reply, rfl, by rw [hvalue]; rfl⟩

/-- What follows an operation goes on from what was read, or the operation is the end. -/
theorem course_operation_bind {β : Type} {r : Request} {read : Json → Except Failure α} {f : α → Act β}
    {xs : List Exchange} {o : End β} (h : Course ((send r >>= fun v => ofExcept (read v)) >>= f) xs o) :
    (xs = [] ∧ ∃ e, send r = .failed e ∧ o = .failure e) ∨ (∃ reply e, xs = [⟨r, reply⟩] ∧ o = .failure e)
      ∨ ∃ reply v a ys, replyValue r reply = .ok v ∧ read v = .ok a ∧ xs = ⟨r, reply⟩ :: ys ∧ Course (f a) ys o := by
  rw [bind_bind] at h
  rcases course_send_bind h with ⟨rfl, e, hrefused, rfl, -⟩ | ⟨reply, e, -, rfl, rfl⟩ |
    ⟨reply, v, ys, hvalue, rfl, hrest⟩
  · exact Or.inl ⟨rfl, e, hrefused, rfl⟩
  · exact Or.inr (Or.inl ⟨reply, e, rfl, rfl⟩)
  · cases hread : read v with
    | error e =>
        rw [hread] at hrest
        cases hrest
        exact Or.inr (Or.inl ⟨reply, e, rfl, rfl⟩)
    | ok a =>
        rw [hread] at hrest
        exact Or.inr (Or.inr ⟨reply, v, a, ys, hvalue, hread, rfl, hrest⟩)

/-- What follows an attempted operation goes on from its failure as well. -/
theorem course_attempt_operation {β : Type} {r : Request} {read : Json → Except Failure α}
    {f : Except Failure α → Act β} {xs : List Exchange} {o : End β}
    (h : Course (attempt (send r >>= fun v => ofExcept (read v)) >>= f) xs o) :
    (∃ e, send r = .failed e ∧ (∀ x, e ≠ .remote x) ∧ Course (f (.error e)) xs o)
      ∨ ∃ reply ys, xs = ⟨r, reply⟩ :: ys ∧ Course (f (replyValue r reply >>= read)) ys o := by
  rcases course_bind h with ⟨outcome, ys, zs, hfirst, hrest, rfl⟩ | ⟨e, hfirst, -⟩ | ⟨hfirst, -⟩
  · -- the end of the operation is its outcome
    have hoperation : ∃ ended, Course (send r >>= fun v => ofExcept (read v)) ys ended ∧ ended = endOf outcome := by
      rcases course_attempt hfirst with ⟨a, ha, hend⟩ | ⟨e, he, hend⟩ | ⟨-, hend⟩
      · cases hend
        exact ⟨_, ha, rfl⟩
      · cases hend
        exact ⟨_, he, rfl⟩
      · cases hend
    obtain ⟨ended, hended, rfl⟩ := hoperation
    rcases course_operation hended with ⟨rfl, e, hrefused, he, hremote⟩ | ⟨reply, rfl, hend⟩
    · rw [endOf_eq_failure.mp he] at hrest
      exact Or.inl ⟨e, hrefused, hremote, hrest⟩
    · rw [endOf_injective hend] at hrest
      exact Or.inr ⟨reply, zs, rfl, hrest⟩
  · rcases course_attempt hfirst with ⟨a, -, hend⟩ | ⟨e', -, hend⟩ | ⟨-, hend⟩ <;> cases hend
  · rcases course_attempt hfirst with ⟨a, -, hend⟩ | ⟨e', -, hend⟩ | ⟨hcut, -⟩
    · cases hend
    · cases hend
    · rcases course_operation hcut with ⟨-, e, -, he, -⟩ | ⟨reply, -, hend⟩
      · cases he
      · exact absurd hend.symm (endOf_ne_cut _)

/-! ## Listings -/

/-- The request for the page of a cursor. -/
def pageRequest (e : Endpoint) (cursor : Option Json) : Request := ⟨.get, e, cursor.map cursorParameters, none⟩

/-- A complete listing from the page of a cursor on: each page is asked for with the cursor of the page before it, and
    the last one has none. -/
inductive Lists (e : Endpoint) : Option Json → List Exchange → List Json → Prop where
  | last {cursor : Option Json} {reply : Reply} {page : Json} {items : List Json}
      (hvalue : replyValue (pageRequest e cursor) reply = .ok page) (hpage : readPage page = .ok (items, none)) :
      Lists e cursor [⟨pageRequest e cursor, reply⟩] items
  | more {cursor : Option Json} {reply : Reply} {page next : Json} {items rest : List Json} {xs : List Exchange}
      (hvalue : replyValue (pageRequest e cursor) reply = .ok page)
      (hpage : readPage page = .ok (items, some next)) (h : Lists e (some next) xs rest) :
      Lists e cursor (⟨pageRequest e cursor, reply⟩ :: xs) (items ++ rest)

theorem Lists.ne_nil {e : Endpoint} {cursor : Option Json} {xs : List Exchange} {items : List Json}
    (h : Lists e cursor xs items) : xs ≠ [] := by
  cases h <;> nofun

/-- A page is complete with the pages after it. -/
theorem lists_iff_of_page {e : Endpoint} {cursor : Option Json} {reply : Reply} {page : Json} {items : List Json}
    {next : Option Json} (hvalue : replyValue (pageRequest e cursor) reply = .ok page)
    (hpage : readPage page = .ok (items, next)) (xs : List Exchange) (all : List Json) :
    Lists e cursor (⟨pageRequest e cursor, reply⟩ :: xs) all
      ↔ match next with
        | none => xs = [] ∧ all = items
        | some c => ∃ rest, Lists e (some c) xs rest ∧ all = items ++ rest := by
  constructor
  · intro h
    cases h with
    | last hvalue' hpage' =>
        cases hvalue.symm.trans hvalue'
        cases hpage.symm.trans hpage'
        exact ⟨rfl, rfl⟩
    | more hvalue' hpage' h =>
        cases hvalue.symm.trans hvalue'
        cases hpage.symm.trans hpage'
        exact ⟨_, h, rfl⟩
  · cases next with
    | none =>
        rintro ⟨rfl, rfl⟩
        exact .last hvalue hpage
    | some c =>
        rintro ⟨rest, h, rfl⟩
        exact .more hvalue hpage h

/-- A reply or a page that cannot be read is no part of a complete listing. -/
theorem Lists.readable {e : Endpoint} {cursor : Option Json} {reply : Reply} {xs : List Exchange} {all : List Json}
    (h : Lists e cursor (⟨pageRequest e cursor, reply⟩ :: xs) all) :
    ∃ page items next, replyValue (pageRequest e cursor) reply = .ok page ∧ readPage page = .ok (items, next) := by
  cases h with
  | last hvalue hpage => exact ⟨_, _, _, hvalue, hpage⟩
  | more hvalue hpage _ => exact ⟨_, _, _, hvalue, hpage⟩

/-- Complete pages have one list of items. -/
theorem Lists.unique {e : Endpoint} {cursor : Option Json} {xs : List Exchange} {all all' : List Json}
    (h : Lists e cursor xs all) (h' : Lists e cursor xs all') : all = all' := by
  induction h generalizing all' with
  | last hvalue hpage => exact ((lists_iff_of_page hvalue hpage _ _).mp h').2.symm
  | more hvalue hpage _ ih =>
      obtain ⟨rest', hrest, rfl⟩ := (lists_iff_of_page hvalue hpage _ _).mp h'
      rw [ih hrest]

omit [Depth] in
/-- A member of two lists in a row is one of the second or one of the first. -/
theorem append_eq_cases {α : Type} {xs ys before after : List α} {x : α} (h : xs ++ ys = before ++ x :: after) :
    (∃ more, before = xs ++ more ∧ ys = more ++ x :: after) ∨ ∃ more, xs = before ++ x :: more := by
  rcases List.append_eq_append_iff.mp h with ⟨more, hbefore, hys⟩ | ⟨more, hxs, hafter⟩
  · exact Or.inl ⟨more, hbefore, hys⟩
  · cases more with
    | nil => exact Or.inl ⟨[], by simpa using hxs.symm, hafter.symm⟩
    | cons y more =>
        cases hafter
        exact Or.inr ⟨more, hxs⟩

/-- A complete listing begins with the only page that is asked for without a cursor. -/
theorem Lists.head {e : Endpoint} {cursor : Option Json} {pages : List Exchange} {items : List Json}
    (h : Lists e cursor pages items) :
    ∃ reply rest, pages = ⟨pageRequest e cursor, reply⟩ :: rest
      ∧ ∀ x ∈ rest, ∃ next, x.request = pageRequest e (some next) := by
  induction h with
  | last => exact ⟨_, [], rfl, List.forall_mem_nil _⟩
  | @more cursor reply page next items rest xs hvalue hpage _ ih =>
      obtain ⟨reply', rest', rfl, hrest⟩ := ih
      exact ⟨reply, _, rfl, List.forall_mem_cons.mpr ⟨⟨next, rfl⟩, hrest⟩⟩

theorem Lists.not_inside {e : Endpoint} {pages pages' more : List Exchange} {items items' : List Json} {y : Exchange}
    (h : Lists e none pages items) (h' : Lists e none pages' items') : pages ≠ y :: more ++ pages' := by
  intro heq
  obtain ⟨reply, rest, rfl, hrest⟩ := h.head
  obtain ⟨reply', rest', rfl, -⟩ := h'.head
  obtain ⟨-, rfl⟩ := List.cons.inj heq
  obtain ⟨next, hnext⟩ := hrest ⟨pageRequest e none, reply'⟩ (by simp)
  cases hnext

/-- **What ends with a complete listing ends with one only.** -/
theorem Lists.suffix_unique {e : Endpoint} {start start' pages pages' : List Exchange} {items items' : List Json}
    (h : Lists e none pages items) (h' : Lists e none pages' items')
    (heq : start ++ pages = start' ++ pages') : pages = pages' := by
  rcases List.append_eq_append_iff.mp heq with ⟨more, -, hmore⟩ | ⟨more, -, hmore⟩
  · cases more with
    | nil => exact hmore
    | cons y more => exact absurd hmore (h.not_inside h')
  · cases more with
    | nil => exact hmore.symm
    | cons y more => exact absurd hmore (h'.not_inside h)

/-- What is done after a page was read. -/
def afterPage (e : Endpoint) (budget : Nat) : List Json × Option Json → Act (List Json)
  | (items, none) => pure items
  | (items, some c) => listFrom e budget (some c) >>= fun more => pure (items ++ more)

theorem listFrom_succ (e : Endpoint) (budget : Nat) (cursor : Option Json) :
    listFrom e (budget + 1) cursor = send (pageRequest e cursor) >>= fun page =>
      ofExcept (readPage page) >>= afterPage e budget := by
  refine congrArg (Act.bind (send (pageRequest e cursor))) (funext fun page => ?_)
  refine congrArg (Act.bind (ofExcept (readPage page))) (funext fun read => ?_)
  obtain ⟨items, _ | c⟩ := read <;> rfl

/-- **A listing brings the items of its pages exactly when they are complete**, and asks for nothing but pages; by
    induction on the number of pages that it may have. -/
theorem course_listFrom {e : Endpoint} {budget : Nat} {cursor : Option Json} {xs : List Exchange}
    {o : End (List Json)} (h : Course (listFrom e budget cursor) xs o) :
    (∀ x ∈ xs, ∃ cursor, x.request = pageRequest e cursor)
      ∧ ∀ items, o = .value items ↔ Lists e cursor xs items := by
  induction budget generalizing cursor xs o with
  | zero =>
      cases h
      exact ⟨List.forall_mem_nil _, fun items => ⟨nofun, fun hlists => absurd rfl hlists.ne_nil⟩⟩
  | succ budget ih =>
      rw [listFrom_succ] at h
      rcases course_send_bind h with ⟨rfl, e', -, rfl, -⟩ | ⟨reply, e', hvalue, rfl, rfl⟩ |
        ⟨reply, page, ys, hvalue, rfl, hread⟩
      · exact ⟨List.forall_mem_nil _, fun items => ⟨nofun, fun hlists => absurd rfl hlists.ne_nil⟩⟩
      · refine ⟨List.forall_mem_singleton.mpr ⟨cursor, rfl⟩, fun items => ⟨nofun, fun hlists => ?_⟩⟩
        obtain ⟨page, items, next, hvalue', -⟩ := hlists.readable
        cases hvalue.symm.trans hvalue'
      · cases hpage : readPage page with
        | error e' =>
            rw [hpage] at hread
            cases hread
            refine ⟨List.forall_mem_singleton.mpr ⟨cursor, rfl⟩, fun items => ⟨nofun, fun hlists => ?_⟩⟩
            obtain ⟨page', items, next, hvalue', hpage'⟩ := hlists.readable
            cases hvalue.symm.trans hvalue'
            cases hpage.symm.trans hpage'
        | ok read =>
            obtain ⟨items, next⟩ := read
            rw [hpage] at hread
            replace hread : Course (afterPage e budget (items, next)) ys o := hread
            cases next with
            | none =>
                cases hread
                refine ⟨List.forall_mem_singleton.mpr ⟨cursor, rfl⟩, fun all => ?_⟩
                rw [lists_iff_of_page hvalue hpage]
                exact ⟨fun heq => ⟨rfl, (End.value.inj heq).symm⟩, fun ⟨_, heq⟩ => congrArg End.value heq.symm⟩
            | some c =>
                -- the pages after this one are a listing from its cursor on
                replace hread : Course (listFrom e budget (some c) >>= fun more => ofExcept (.ok (items ++ more)))
                  ys o := hread
                obtain ⟨ended, hmore, hended, hbrought⟩ := course_bind_ofExcept hread
                obtain ⟨hpages, hvalues⟩ := ih hmore
                refine ⟨List.forall_mem_cons.mpr ⟨⟨cursor, rfl⟩, hpages⟩, fun all => ?_⟩
                rw [lists_iff_of_page hvalue hpage]
                constructor
                · intro hall
                  obtain ⟨rest, hrest, happended⟩ := hbrought all hall
                  exact ⟨rest, (hvalues rest).mp hrest, (Except.ok.inj happended).symm⟩
                · rintro ⟨rest, hrest, rfl⟩
                  exact hended rest ((hvalues rest).mpr hrest)

/-- Only the first page of a listing is asked for with the cursor that the listing begins with, complete or not. -/
theorem course_listFrom_head {e : Endpoint} {budget : Nat} {cursor : Option Json} {xs : List Exchange}
    {o : End (List Json)} (h : Course (listFrom e budget cursor) xs o) :
    xs = [] ∨ ∃ reply rest, xs = ⟨pageRequest e cursor, reply⟩ :: rest
      ∧ ∀ x ∈ rest, ∃ next, x.request = pageRequest e (some next) := by
  induction budget generalizing cursor xs o with
  | zero =>
      cases h
      exact Or.inl rfl
  | succ budget ih =>
      rw [listFrom_succ] at h
      rcases course_send_bind h with ⟨rfl, -⟩ | ⟨reply, e', -, rfl, -⟩ | ⟨reply, page, ys, -, rfl, hread⟩
      · exact Or.inl rfl
      · exact Or.inr ⟨reply, [], rfl, List.forall_mem_nil _⟩
      · refine Or.inr ⟨reply, ys, rfl, ?_⟩
        cases hpage : readPage page with
        | error e' =>
            rw [hpage] at hread
            cases hread
            exact List.forall_mem_nil _
        | ok read =>
            obtain ⟨items, next⟩ := read
            rw [hpage] at hread
            replace hread : Course (afterPage e budget (items, next)) ys o := hread
            cases next with
            | none =>
                cases hread
                exact List.forall_mem_nil _
            | some c =>
                replace hread : Course (listFrom e budget (some c) >>= fun more => ofExcept (.ok (items ++ more)))
                  ys o := hread
                obtain ⟨ended, hmore, -⟩ := course_bind_ofExcept hread
                rcases ih hmore with rfl | ⟨reply', rest, rfl, hrest⟩
                · exact List.forall_mem_nil _
                · exact List.forall_mem_cons.mpr ⟨⟨c, rfl⟩, hrest⟩

/-- The courses of a listing that is read: pages, and where they are complete what is read of their items. -/
theorem course_listing {e : Endpoint} {read : Json → Except Failure α} {budget : Nat} {xs : List Exchange}
    {o : End (List α)} (h : Course (listPages budget e >>= fun items => ofExcept (readEach read items)) xs o) :
    (∀ x ∈ xs, ∃ cursor, x.request = pageRequest e cursor)
      ∧ (∀ items, Lists e none xs items → o = endOf (readEach read items))
      ∧ ∀ listed, o = .value listed → ∃ items, Lists e none xs items ∧ readEach read items = .ok listed := by
  obtain ⟨ended, hpages, hended, hbrought⟩ := course_bind_ofExcept h
  obtain ⟨hrequests, hvalues⟩ := course_listFrom hpages
  refine ⟨hrequests, fun items hlists => hended items ((hvalues items).mpr hlists), fun listed hlisted => ?_⟩
  obtain ⟨items, hitems, hread⟩ := hbrought listed hlisted
  exact ⟨items, (hvalues items).mp hitems, hread⟩

/-- A listing of workflows sends requests that list. -/
theorem course_listWorkflows {budget : Nat} {xs : List Exchange} {o : End (List Definition)}
    (h : Course (listWorkflows budget) xs o) :
    (∀ x ∈ xs, x.request.isListing = true)
      ∧ (∀ items, Lists .workflows none xs items → o = endOf (readEach Definition.read items))
      ∧ ∀ listed, o = .value listed → ∃ items, Lists .workflows none xs items
        ∧ readEach Definition.read items = .ok listed := by
  obtain ⟨hrequests, hread⟩ := course_listing h
  refine ⟨fun x hx => ?_, hread⟩
  obtain ⟨cursor, hrequest⟩ := hrequests x hx
  rw [hrequest]
  rfl

/-! ## Failing listings -/

/-- What a page comes to: its items, and the cursor of the next page. -/
def pageOf (e : Endpoint) (cursor : Option Json) (reply : Reply) : Except Failure (List Json × Option Json) :=
  replyValue (pageRequest e cursor) reply >>= readPage

/-- A listing from the page of a cursor on fails: with this page, or with one after it. -/
inductive Unlisted (e : Endpoint) : Option Json → List Exchange → Failure → Prop where
  | failed {cursor : Option Json} {reply : Reply} {f : Failure} (hpage : pageOf e cursor reply = .error f) :
      Unlisted e cursor [⟨pageRequest e cursor, reply⟩] f
  | more {cursor : Option Json} {reply : Reply} {next : Json} {items : List Json} {xs : List Exchange} {f : Failure}
      (hpage : pageOf e cursor reply = .ok (items, some next)) (h : Unlisted e (some next) xs f) :
      Unlisted e cursor (⟨pageRequest e cursor, reply⟩ :: xs) f

theorem Unlisted.ne_nil {e : Endpoint} {cursor : Option Json} {xs : List Exchange} {f : Failure}
    (h : Unlisted e cursor xs f) : xs ≠ [] := by
  cases h <;> nofun

theorem Unlisted.pages {e : Endpoint} {cursor : Option Json} {xs : List Exchange} {f : Failure}
    (h : Unlisted e cursor xs f) : ∀ x ∈ xs, ∃ cursor, x.request = pageRequest e cursor := by
  induction h with
  | failed => exact List.forall_mem_singleton.mpr ⟨_, rfl⟩
  | more _ _ ih => exact List.forall_mem_cons.mpr ⟨⟨_, rfl⟩, ih⟩

theorem Lists.pages {e : Endpoint} {cursor : Option Json} {xs : List Exchange} {items : List Json}
    (h : Lists e cursor xs items) : ∀ x ∈ xs, ∃ cursor, x.request = pageRequest e cursor := by
  induction h with
  | last => exact List.forall_mem_singleton.mpr ⟨_, rfl⟩
  | more _ _ _ ih => exact List.forall_mem_cons.mpr ⟨⟨_, rfl⟩, ih⟩

/-- Pages fail for one reason. -/
theorem Unlisted.unique {e : Endpoint} {cursor : Option Json} {xs : List Exchange} {f f' : Failure}
    (h : Unlisted e cursor xs f) (h' : Unlisted e cursor xs f') : f = f' := by
  induction h with
  | failed hpage =>
      cases h' with
      | failed hpage' => exact Except.error.inj (hpage.symm.trans hpage')
      | more _ hmore => exact absurd rfl hmore.ne_nil
  | more hpage hmore ih =>
      cases h' with
      | failed hpage' => exact absurd rfl hmore.ne_nil
      | more hpage' hmore' =>
          cases hpage.symm.trans hpage'
          exact ih hmore'

/-- Complete pages do not fail. -/
theorem Lists.not_unlisted {e : Endpoint} {cursor : Option Json} {xs : List Exchange} {items : List Json}
    (h : Lists e cursor xs items) (f : Failure) : ¬ Unlisted e cursor xs f := by
  induction h with
  | last hvalue hpage =>
      have hread : pageOf e _ _ = .ok _ := bind_eq_ok.mpr ⟨_, hvalue, hpage⟩
      intro hunlisted
      cases hunlisted with
      | failed hfailed => cases hread.symm.trans hfailed
      | more hmore _ => cases hread.symm.trans hmore
  | more hvalue hpage hlists ih =>
      have hread : pageOf e _ _ = .ok _ := bind_eq_ok.mpr ⟨_, hvalue, hpage⟩
      intro hunlisted
      cases hunlisted with
      | failed hfailed => cases hread.symm.trans hfailed
      | more hmore hrest =>
          cases hread.symm.trans hmore
          exact ih hrest

/-- The last reply of a complete listing is read. -/
theorem Lists.last_value {e : Endpoint} {cursor : Option Json} {xs : List Exchange} {items : List Json}
    (h : Lists e cursor xs items) : ∃ x v, xs.getLast? = some x ∧ replyValue x.request x.reply = .ok v := by
  induction h with
  | last hvalue _ => exact ⟨_, _, rfl, hvalue⟩
  | more _ _ hlists ih =>
      obtain ⟨x, v, hlast, hvalue⟩ := ih
      refine ⟨x, v, ?_, hvalue⟩
      rw [List.getLast?_cons, hlast]
      rfl

omit [Depth] in
/-- A value that is no page fails for its kind. -/
theorem readPage_error {page : Json} {f : Failure} (h : readPage page = .error f) : ∃ fault, f = .kind fault := by
  unfold readPage at h
  split at h
  · cases h
  · rcases bind_eq_error.mp h with hitems | ⟨items, -, hdone⟩
    · unfold pageItems at hitems
      split at hitems
      · cases hitems
      · cases hitems
      · cases hitems
      · split at hitems
        · cases hitems
          exact ⟨_, rfl⟩
        · cases hitems
    · cases hdone
  · split at h
    · cases h
      exact ⟨_, rfl⟩
    · cases h

omit [Depth] in
/-- Some value of a list that cannot be read is the reason. -/
theorem readEach_error {read : Json → Except Failure α} {items : List Json} {f : Failure}
    (h : readEach read items = .error f) : ∃ v ∈ items, read v = .error f := by
  induction items with
  | nil => cases h
  | cons v rest ih =>
      rcases bind_eq_error.mp h with hfirst | ⟨a, -, hrest⟩
      · exact ⟨v, List.mem_cons_self, hfirst⟩
      · rcases bind_eq_error.mp hrest with hmore | ⟨more, -, hdone⟩
        · obtain ⟨v', hmem, hread⟩ := ih hmore
          exact ⟨v', List.mem_cons_of_mem v hmem, hread⟩
        · cases hdone

/-- **A listing that fails has failed with one of its pages**, by induction on the number of pages that it may have. -/
theorem unlisted_of_course {e : Endpoint} (hsent : ∀ cursor f, send (pageRequest e cursor) ≠ .failed f) {budget : Nat}
    {cursor : Option Json} {xs : List Exchange} {f : Failure} (h : Course (listFrom e budget cursor) xs (.failure f)) :
    Unlisted e cursor xs f := by
  induction budget generalizing cursor xs with
  | zero => cases h
  | succ budget ih =>
      rw [listFrom_succ] at h
      rcases course_send_bind h with ⟨-, e', hrefused, -⟩ | ⟨reply, e', hvalue, rfl, hend⟩ |
        ⟨reply, page, ys, hvalue, rfl, hread⟩
      · exact absurd hrefused (hsent cursor e')
      · cases hend
        exact .failed (bind_eq_error.mpr (Or.inl hvalue))
      · cases hpage : readPage page with
        | error e' =>
            rw [hpage] at hread
            cases hread
            exact .failed (bind_eq_error.mpr (Or.inr ⟨page, hvalue, hpage⟩))
        | ok read =>
            obtain ⟨items, next⟩ := read
            rw [hpage] at hread
            replace hread : Course (afterPage e budget (items, next)) ys (.failure f) := hread
            cases next with
            | none => cases hread
            | some c =>
                -- the items of this page are put before those of the others, which does not fail
                rcases course_bind hread with ⟨more, _, _, -, hdone, -⟩ | ⟨e', hmore, hend⟩ | ⟨-, hend⟩
                · cases hdone
                · cases hend
                  exact .more (bind_eq_ok.mpr ⟨page, hvalue, hpage⟩) (ih hmore)
                · cases hend

end Engine

end PromptGraph
