import Mathlib.Data.List.Nodup
import PromptGraph.Proofs.Engine.Pages

/-!
# `Proofs.Engine.Cursors` — how long a listing goes on

Nothing but the remote's cursors decides how long a listing goes on. It keeps no cursor in mind but the last one, so
that a remote that hands a cursor back is asked with it again; and one that never hands the same cursor out twice is
asked at most once for each cursor, and once without.

## Contents
- **Cursors.** `cursorOf`; `listFrom_cases`.
- **Chains.** `Chain`, `AllCarry`; `chain_listFrom` and `run_listFrom_cut_iff` by induction on the budget,
  `Chain.carried`, `Chain.requests`, `Chain.length_eq`; `sentCursors`, `Chain.nodup_requests_iff`, `Chain.length_le`.
- **Budgets.** `listFrom_grow` by induction on the budget.
- **Listings.** `Follows`, `Settles`, `listing_follows`; `returned_cursor_is_sent_again`, a remote that is asked again.
-/

namespace PromptGraph.Engine

open Act Http

section

variable [Depth]
variable {σ α : Type} {h : Handler σ} {e : Endpoint} {s : σ}

/-! ## Cursors -/

/-- The cursor of the page that an exchange brought, if it brought one with a cursor. -/
def cursorOf (x : Exchange) : Option Json :=
  match replyValue x.request x.reply >>= readPage with
  | .ok (_, next) => next
  | .error _ => none

theorem cursorOf_of_ok {cursor : Option Json} {reply : Reply} {items : List Json} {next : Option Json}
    (hread : pageRead e cursor reply = .ok (items, next)) : cursorOf ⟨pageRequest e cursor, reply⟩ = next := by
  show (match pageRead e cursor reply with | .ok (_, next) => next | .error _ => none) = next
  rw [hread]

theorem cursorOf_of_error {cursor : Option Json} {reply : Reply} {failure : Failure}
    (hread : pageRead e cursor reply = .error failure) : cursorOf ⟨pageRequest e cursor, reply⟩ = none := by
  show (match pageRead e cursor reply with | .ok (_, next) => next | .error _ => none) = none
  rw [hread]

/-- A listing stops with a page that has no cursor, or goes on from the cursor of the page. -/
theorem listFrom_cases (haddress : Addressable e) (h : Handler σ) (s : σ) (budget : Nat) (cursor : Option Json) :
    (∃ reply outcome, cursorOf ⟨pageRequest e cursor, reply⟩ = none
      ∧ exchanges h (listFrom e (budget + 1) cursor) s = [⟨pageRequest e cursor, reply⟩]
      ∧ ((listFrom e (budget + 1) cursor).run h s).1 = endOf outcome)
    ∨ ∃ reply items next t, cursorOf ⟨pageRequest e cursor, reply⟩ = some next
      ∧ exchanges h (listFrom e (budget + 1) cursor) s
        = ⟨pageRequest e cursor, reply⟩ :: exchanges h (listFrom e budget (some next)) t
      ∧ ((listFrom e (budget + 1) cursor).run h s).1
        = ((listFrom e budget (some next) >>= fun more => pure (items ++ more)).run h t).1 := by
  cases hread : pageRead e cursor (h (.exchange (pageRequest e cursor)) s).1 with
  | error failure =>
      have houtcome : pageRead e cursor (h (.exchange (pageRequest e cursor)) s).1
          = (Except.error failure).map (·, none) := hread
      exact Or.inl ⟨_, .error failure, cursorOf_of_error hread, listFrom_stops haddress houtcome⟩
  | ok page =>
      obtain ⟨items, next⟩ := page
      cases next with
      | none =>
          have houtcome : pageRead e cursor (h (.exchange (pageRequest e cursor)) s).1
              = (Except.ok items).map (·, none) := hread
          exact Or.inl ⟨_, .ok items, cursorOf_of_ok hread, listFrom_stops haddress houtcome⟩
      | some next => exact Or.inr ⟨_, items, next, _, cursorOf_of_ok hread, listFrom_continues haddress hread⟩

/-! ## Chains -/

/-- Pages in a row, at most so many: each is asked for with the cursor of the page before it, and the last has none or
    is one too many to be followed. -/
inductive Chain (e : Endpoint) : (budget : Nat) → Option Json → List Exchange → Prop where
  | spent {cursor : Option Json} : Chain e 0 cursor []
  | last {budget : Nat} {cursor : Option Json} {reply : Reply} (hlast : cursorOf ⟨pageRequest e cursor, reply⟩ = none) :
      Chain e (budget + 1) cursor [⟨pageRequest e cursor, reply⟩]
  | more {budget : Nat} {cursor : Option Json} {reply : Reply} {next : Json} {xs : List Exchange}
      (hnext : cursorOf ⟨pageRequest e cursor, reply⟩ = some next) (hrest : Chain e budget (some next) xs) :
      Chain e (budget + 1) cursor (⟨pageRequest e cursor, reply⟩ :: xs)

theorem chain_listFrom (haddress : Addressable e) (h : Handler σ) (s : σ) (budget : Nat) (cursor : Option Json) :
    Chain e budget cursor (exchanges h (listFrom e budget cursor) s) := by
  induction budget generalizing cursor s with
  | zero => exact .spent
  | succ budget ih =>
      rcases listFrom_cases haddress h s budget cursor with ⟨reply, _, hlast, hexchanges, -⟩ |
        ⟨reply, _, next, t, hnext, hexchanges, -⟩
      · rw [hexchanges]
        exact .last hlast
      · rw [hexchanges]
        exact .more hnext (ih t (some next))

/-- All pages of a listing have a cursor. -/
def AllCarry (xs : List Exchange) : Prop := ∀ x ∈ xs, cursorOf x ≠ none

/-- A listing is cut off exactly if all its pages have a cursor. -/
theorem run_listFrom_cut_iff (haddress : Addressable e) (h : Handler σ) (s : σ) (budget : Nat) (cursor : Option Json) :
    ((listFrom e budget cursor).run h s).1 = .cut ↔ AllCarry (exchanges h (listFrom e budget cursor) s) := by
  induction budget generalizing cursor s with
  | zero => exact ⟨fun _ => List.forall_mem_nil _, fun _ => rfl⟩
  | succ budget ih =>
      rcases listFrom_cases haddress h s budget cursor with ⟨reply, outcome, hlast, hexchanges, hend⟩ |
        ⟨reply, items, next, t, hnext, hexchanges, hend⟩
      · rw [hexchanges, hend]
        exact ⟨fun hcut => absurd hcut (endOf_ne_cut outcome),
          fun hall => absurd hlast (hall _ List.mem_cons_self)⟩
      · have hfirst : cursorOf ⟨pageRequest e cursor, reply⟩ ≠ none := by
          rw [hnext]
          exact Option.some_ne_none next
        have hcut : ((listFrom e budget (some next) >>= fun more => pure (items ++ more)).run h t).1 = .cut
            ↔ ((listFrom e budget (some next)).run h t).1 = .cut := run_bind_cut_iff fun _ _ hpure => by cases hpure
        rw [hexchanges, hend, hcut, ih t (some next)]
        exact ⟨fun hall => List.forall_mem_cons.mpr ⟨hfirst, hall⟩, fun hall => (List.forall_mem_cons.mp hall).2⟩

section Chains

variable {budget : Nat} {cursor : Option Json} {xs : List Exchange}

/-- Every page but the last has a cursor. -/
theorem Chain.carried (hxs : Chain e budget cursor xs) : AllCarry xs.dropLast := by
  induction hxs with
  | spent => exact List.forall_mem_nil _
  | last _ => exact List.forall_mem_nil _
  | @more budget cursor reply next xs hnext hrest ih =>
      cases xs with
      | nil => exact List.forall_mem_nil _
      | cons y ys =>
          refine List.forall_mem_cons.mpr ⟨?_, ih⟩
          rw [hnext]
          exact Option.some_ne_none next

/-- Each page is asked for with the cursor of the page before it. -/
theorem Chain.requests (hxs : Chain e (budget + 1) cursor xs) :
    xs.map Exchange.request = (cursor :: xs.dropLast.map cursorOf).map (pageRequest e) := by
  generalize hbudget : budget + 1 = attempts at hxs
  induction hxs generalizing budget with
  | spent => cases hbudget
  | last _ => rfl
  | @more attempts cursor reply next xs hnext hrest ih =>
      cases attempts with
      | zero =>
          cases hrest
          rfl
      | succ attempts =>
          have hmore := ih rfl
          cases xs with
          | nil => cases hmore
          | cons y ys =>
              rw [List.map_cons, hmore, List.dropLast_cons_cons, List.map_cons (f := cursorOf), hnext]
              rfl

/-- Pages that all have a cursor are as many as there may be. -/
theorem Chain.length_eq (hxs : Chain e budget cursor xs) (hall : AllCarry xs) : xs.length = budget := by
  induction hxs with
  | spent => rfl
  | last hlast => exact absurd hlast (hall _ List.mem_cons_self)
  | more _ _ ih => exact congrArg (· + 1) (ih (List.forall_mem_cons.mp hall).2)

/-- The cursors that are followed, as they are sent. -/
def sentCursors (xs : List Exchange) : List (Option (List (String × String))) :=
  xs.dropLast.map fun x => (cursorOf x).map cursorParameters

/-- The requests are told apart by their cursors, the first one by having none. -/
theorem Chain.nodup_requests_iff (hxs : Chain e (budget + 1) none xs) :
    (xs.map Exchange.request).Nodup ↔ (sentCursors xs).Nodup := by
  have hinjective : Function.Injective fun parameters => Request.mk .get e parameters none := by
    intro p q heq
    injection heq
  have hsent : (xs.dropLast.map cursorOf).map (pageRequest e)
      = (sentCursors xs).map fun parameters => Request.mk .get e parameters none := by
    rw [sentCursors, List.map_map, List.map_map]
    rfl
  have hfirst : pageRequest e none ∉ (sentCursors xs).map fun parameters => Request.mk .get e parameters none := by
    intro hmem
    obtain ⟨parameters, hparameters, heq⟩ := List.mem_map.mp hmem
    obtain ⟨x, hx, rfl⟩ := List.mem_map.mp hparameters
    obtain ⟨next, hnext⟩ := Option.ne_none_iff_exists'.mp (hxs.carried x hx)
    rw [hnext] at heq
    injection heq with _ _ hnone
    cases hnone
  rw [hxs.requests, List.map_cons, hsent, List.nodup_cons, List.nodup_map_iff hinjective]
  exact and_iff_right hfirst

/-- Where no two requests are alike there is at most one for each cursor, and one without. -/
theorem Chain.length_le (hxs : Chain e (budget + 1) none xs) (hnodup : (xs.map Exchange.request).Nodup)
    {cursors : List (List (String × String))}
    (hcursors : ∀ x ∈ xs, ∀ next, cursorOf x = some next → cursorParameters next ∈ cursors) :
    xs.length ≤ cursors.length + 1 := by
  have hsubset : sentCursors xs ⊆ cursors.map some := by
    intro sent hsent
    obtain ⟨x, hx, rfl⟩ := List.mem_map.mp hsent
    obtain ⟨next, hnext⟩ := Option.ne_none_iff_exists'.mp (hxs.carried x hx)
    rw [hnext]
    exact List.mem_map_of_mem (hcursors x (List.dropLast_subset xs hx) next hnext)
  have hle := (hxs.nodup_requests_iff.mp hnodup).length_le_of_subset hsubset
  rw [sentCursors, List.length_map, List.length_map, List.length_dropLast] at hle
  omega

end Chains

/-! ## Budgets -/

/-- A listing that is not cut off is the same with any larger budget. -/
theorem listFrom_grow (haddress : Addressable e) (more : Nat) {budget : Nat} {cursor : Option Json}
    (hends : ((listFrom e budget cursor).run h s).1 ≠ .cut) :
    (listFrom e (budget + more) cursor).run h s = (listFrom e budget cursor).run h s
      ∧ exchanges h (listFrom e (budget + more) cursor) s = exchanges h (listFrom e budget cursor) s := by
  induction budget generalizing cursor s with
  | zero => exact absurd rfl hends
  | succ budget ih =>
      rw [listFrom_eq haddress, run_ask] at hends
      rw [Nat.succ_add, listFrom_eq haddress, listFrom_eq haddress, run_ask, run_ask, exchanges, exchanges]
      generalize h (.exchange (pageRequest e cursor)) s = answered at hends ⊢
      obtain ⟨reply, t⟩ := answered
      -- only after a page with a cursor does the budget matter
      cases hread : pageRead e cursor reply with
      | error failure => exact ⟨rfl, rfl⟩
      | ok page =>
          obtain ⟨items, _ | next⟩ := page
          · exact ⟨rfl, rfl⟩
          · rw [hread] at hends
            have hmore : ((listFrom e budget (some next) >>= fun rest => pure (items ++ rest)).run h t).1 ≠ .cut :=
              hends
            obtain ⟨hrun, hexchanges⟩ := ih (mt run_bind_cut hmore)
            constructor
            · show (listFrom e (budget + more) (some next) >>= fun rest => pure (items ++ rest)).run h t
                = (listFrom e budget (some next) >>= fun rest => pure (items ++ rest)).run h t
              rw [run_bind, run_bind, hrun]
            · show _ ++ exchanges h (listFrom e (budget + more) (some next) >>= fun rest => pure (items ++ rest)) t
                = _ ++ exchanges h (listFrom e budget (some next) >>= fun rest => pure (items ++ rest)) t
              rw [exchanges_bind_pure, exchanges_bind_pure, hexchanges]

/-! ## Listings -/

/-- What a listing of so many pages at most asks for, and how it ends. -/
structure Follows (e : Endpoint) (budget : Nat) (xs : List Exchange) (o : End α) : Prop where
  /-- The first request has no cursor, and each other one has that of the page before it. -/
  requests : xs.map Exchange.request = (none :: xs.dropLast.map cursorOf).map (pageRequest e)
  /-- Where a page has no cursor, nothing more is asked for. -/
  carried : AllCarry xs.dropLast
  /-- As long as pages have cursors, the listing goes on. -/
  endless : o = .cut ↔ AllCarry xs
  spent : AllCarry xs → xs.length = budget
  /-- A request is made again exactly if a cursor is handed out again and followed both times. -/
  again : (xs.map Exchange.request).Nodup ↔ (sentCursors xs).Nodup
  /-- Otherwise there is at most one request for each cursor, and one without. -/
  bounded : (xs.map Exchange.request).Nodup → ∀ cursors : List (List (String × String)),
    (∀ x ∈ xs, ∀ next, cursorOf x = some next → cursorParameters next ∈ cursors) → xs.length ≤ cursors.length + 1

/-- A call that is not cut off with a budget is the same with any larger one. -/
def Settles (h : Handler σ) (s : σ) (call : Nat → Act α) (budget : Nat) : Prop :=
  ((call budget).run h s).1 ≠ .cut → ∀ more, (call (budget + more)).run h s = (call budget).run h s
    ∧ exchanges h (call (budget + more)) s = exchanges h (call budget) s

theorem follows_listing (haddress : Addressable e) (read : Json → Except Failure α) (h : Handler σ) (s : σ)
    (budget : Nat) :
    Follows e (budget + 1) (exchanges h (listPages (budget + 1) e >>= fun items => ofExcept (readEach read items)) s)
      ((listPages (budget + 1) e >>= fun items => ofExcept (readEach read items)).run h s).1 := by
  have hchain : Chain e (budget + 1) none (exchanges h (listPages (budget + 1) e) s) :=
    chain_listFrom haddress h s (budget + 1) none
  rw [exchanges_bind_ofExcept]
  refine ⟨hchain.requests, hchain.carried, ?_, hchain.length_eq, hchain.nodup_requests_iff, ?_⟩
  · have hread : ∀ items t, ((ofExcept (readEach read items)).run h t).1 ≠ .cut := by
      intro items t
      rw [run_ofExcept]
      exact endOf_ne_cut _
    exact (run_bind_cut_iff hread).trans (run_listFrom_cut_iff haddress h s (budget + 1) none)
  · intro hnodup cursors hcursors
    exact hchain.length_le hnodup hcursors

theorem settles_listing (haddress : Addressable e) (read : Json → Except Failure α) (h : Handler σ) (s : σ)
    (budget : Nat) :
    Settles h s (fun budget => listPages budget e >>= fun items => ofExcept (readEach read items)) budget := by
  intro hends more
  have hpages : ((listFrom e budget none).run h s).1 ≠ .cut := mt run_bind_cut hends
  obtain ⟨hrun, hexchanges⟩ := listFrom_grow haddress more hpages
  constructor
  · show (listPages (budget + more) e >>= _).run h s = _
    rw [run_bind, run_bind, listPages, hrun]
    rfl
  · show exchanges h (listPages (budget + more) e >>= fun items => ofExcept (readEach read items)) s = _
    rw [exchanges_bind_ofExcept, exchanges_bind_ofExcept]
    exact hexchanges

/-- **A listing follows the cursors of the remote, and nothing else ends it.** -/
theorem listing_follows (h : Handler σ) (s : σ) (budget : Nat) :
    (Follows .workflows (budget + 1) (exchanges h (listWorkflows (budget + 1)) s)
        ((listWorkflows (budget + 1)).run h s).1
      ∧ Settles h s listWorkflows (budget + 1))
    ∧ Follows .credentials (budget + 1) (exchanges h (listCredentials (budget + 1)) s)
        ((listCredentials (budget + 1)).run h s).1
      ∧ Settles h s listCredentials (budget + 1) :=
  ⟨⟨follows_listing addressable_workflows Definition.read h s budget,
      settles_listing addressable_workflows Definition.read h s (budget + 1)⟩,
    follows_listing addressable_credentials Credential.read h s budget,
    settles_listing addressable_credentials Credential.read h s (budget + 1)⟩

end

/-- Pages without items that all have one cursor. -/
def sameCursor : Reply := .answer 200 (.json (.obj [("data", .arr []), ("nextCursor", .str "c")]))

/-- **A cursor that is handed back is sent again.** The remote returns one cursor only, and is asked with it twice. -/
theorem returned_cursor_is_sent_again :
    (exchanges Rehearsal.answer (listWorkflows 3) (replying (List.replicate 3 sameCursor))).map Exchange.request
        = [pageRequest .workflows none, pageRequest .workflows (some (.str "c")),
          pageRequest .workflows (some (.str "c"))]
      ∧ ∀ x ∈ exchanges Rehearsal.answer (listWorkflows 3) (replying (List.replicate 3 sameCursor)),
        cursorOf x = some (.str "c") := by
  have hexchanges : exchanges Rehearsal.answer (listWorkflows 3) (replying (List.replicate 3 sameCursor)) =
      [⟨pageRequest .workflows none, sameCursor⟩, ⟨pageRequest .workflows (some (.str "c")), sameCursor⟩,
        ⟨pageRequest .workflows (some (.str "c")), sameCursor⟩] := rfl
  rw [hexchanges]
  refine ⟨rfl, ?_⟩
  intro x hx
  simp only [List.mem_cons, List.not_mem_nil, or_false] at hx
  rcases hx with rfl | rfl | rfl <;> rfl

end PromptGraph.Engine
