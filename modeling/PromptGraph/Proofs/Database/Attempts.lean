import PromptGraph.Database.Store
import PromptGraph.Effect.Rehearsal
import PromptGraph.Proofs.Chain.Refusals
import PromptGraph.Proofs.Effect.Repetition

/-!
# `Proofs.Database.Attempts` — how often an operation of the store is attempted

An attempt opens one connection and executes one statement, and what the database refuses ends it. An operation that
adds to what is stored is attempted once: a repetition after a lost answer would add twice. Any other is attempted
again after a lost connection and after nothing else, at most five times, and always with the same statement.

## Contents
- **Rows.** `FaultFree`: a row is read without the database; `StoreCall.ofRow`.
- **Attempts.** `Attempted`, how one attempt goes; `attempted_once`.
- **Losses.** `Lost`; `Attempted.lost_iff`, and `asksAgain_iff_lostAt` for the attempts one by one.
- **Operations.** `Adds`, `Makes`; `store_attempts`.
-/

namespace PromptGraph

open Act

/-! ## Rows -/

/-- A failure, if it is one, is not the database's. -/
def FaultFree {α : Type} (x : Except Failure α) : Prop := ∀ fault, x ≠ .error (.database fault)

theorem faultFree_ok {α : Type} (a : α) : FaultFree (.ok a) := fun _ h => nomatch h

theorem FaultFree.bind {α β : Type} {x : Except Failure α} {f : α → Except Failure β} (hx : FaultFree x)
    (hf : ∀ a, FaultFree (f a)) : FaultFree (x >>= f) := by
  intro fault h
  rcases bind_eq_error.mp h with hx' | ⟨a, -, hfa⟩
  · exact hx fault hx'
  · exact hf a fault hfa

theorem FaultFree.map {α β : Type} {x : Except Failure α} (f : α → β) (hx : FaultFree x) : FaultFree (f <$> x) := by
  cases x with
  | ok a => exact faultFree_ok (f a)
  | error e =>
      intro fault h
      cases h
      exact hx fault rfl

theorem faultFree_toExcept {α : Type} (title : String) (x : Checked α) : FaultFree (x.toExcept title) := by
  intro fault h
  rcases Checked.toExcept_error h with ⟨_, hschema⟩ | ⟨-, hnesting⟩
  · cases hschema
  · cases hnesting

theorem faultFree_chain [Depth] (row : Row) : FaultFree (Chain.read (.obj row)) := by
  intro fault h
  generalize hend : Failure.database fault = f at h
  cases h ▸ readingEnd row with
  | @noDataText parsing _ => cases parsing <;> cases hend
  | nameless _ _ refusal =>
      cases hend
      cases refusal
  | _ => cases hend

theorem faultFree_member (row : Row) (name : String) : FaultFree (Row.member row name) := by
  unfold Row.member
  split
  · exact faultFree_ok _
  · exact fun _ h => nomatch h

theorem faultFree_status (v : Json) : FaultFree (Status.ofJson v) := by
  unfold Status.ofJson
  split
  · exact faultFree_ok _
  · exact fun _ h => nomatch h

theorem faultFree_record (row : Row) : FaultFree (Record.ofRow row) := by
  have hcompleted : FaultFree (Row.completed row) := by
    refine (faultFree_member row "id").bind fun _ => (faultFree_member row "chain_id").bind fun _ =>
      (faultFree_member row "org_id").bind fun _ => (faultFree_status _).bind fun _ => ?_
    -- metrics are read where there are any, and the start after them in either case
    split
    · exact (faultFree_ok Json.null).bind fun _ => (faultFree_member row "started_at").bind fun _ => faultFree_ok _
    · exact ((faultFree_toExcept _ _).map _).bind fun _ =>
        (faultFree_member row "started_at").bind fun _ => faultFree_ok _
  exact hcompleted.bind fun _ => faultFree_toExcept _ _

/-- What an operation makes of the first row that its statement brings. -/
def StoreCall.ofRow [Depth] : (call : StoreCall) → Option Row → Except Failure call.Answer
  | .profileOrg _, row => Database.profileOrgOf row
  | .chain _ _, row => Database.chainOf row
  | .insert _ _ _ _, row => Database.createdRecordOf row
  | .markRunning _ _, _ => .ok ()
  | .complete _ _, _ => .ok ()
  | .record _, row => Database.recordOf row
  | .rollup _, _ => .ok ()

theorem StoreCall.faultFree_ofRow [Depth] (call : StoreCall) (row : Option Row) : FaultFree (call.ofRow row) := by
  cases call with
  | profileOrg user =>
      show FaultFree (Database.profileOrgOf row)
      unfold Database.profileOrgOf
      split
      · exact faultFree_ok _
      · exact faultFree_ok _
      · exact faultFree_member _ _
  | chain id org =>
      cases row with
      | none => exact faultFree_ok none
      | some row => exact (faultFree_chain row).map some
  | insert chain org input startedAt =>
      cases row with
      | none => exact fun _ h => nomatch h
      | some row => exact faultFree_record row
  | record id =>
      show FaultFree (Database.recordOf row)
      unfold Database.recordOf
      split
      · exact faultFree_ok _
      · exact faultFree_ok _
      · exact (faultFree_record _).map some
  | markRunning _ _ => exact faultFree_ok ()
  | complete _ _ => exact faultFree_ok ()
  | rollup _ => exact faultFree_ok ()

namespace Database

variable {σ α : Type}

/-! ## Attempts -/

/-- The answer to the connection that an attempt opens from a state. -/
def connection (d : Database) (h : Handler σ) (s : σ) : Option DatabaseFault × σ := h (.connect d.dsn) s

/-- The answer to a statement on that connection. -/
def execution (d : Database) (q : Statement) (h : Handler σ) (s : σ) : Except DatabaseFault (Option Row) × σ :=
  h (.execute q) (d.connection h s).2

/-- How an attempt to execute a statement goes: what it asks for and how it ends. It opens at most one connection and
    executes nothing but its statement, at most once, and what is refused ends it; otherwise the row is read. -/
inductive Attempted (d : Database) (q : Statement) (read : Option Row → Except Failure α) (h : Handler σ) (s : σ) :
    List Effect → End α → Prop where
  | unaddressed (hdsn : d.dsn = "") : Attempted d q read h s [] (.failure (.runtime .dsnMissing))
  | unconnected {fault : DatabaseFault} (hdsn : d.dsn ≠ "") (hconnection : (d.connection h s).1 = some fault) :
      Attempted d q read h s [.connect d.dsn] (.failure (.database fault))
  | refused {fault : DatabaseFault} (notices : List Notice) (hdsn : d.dsn ≠ "")
      (hconnection : (d.connection h s).1 = none) (hexecution : (d.execution q h s).1 = .error fault) :
      Attempted d q read h s (.connect d.dsn :: .execute q :: notices.map .report) (.failure (.database fault))
  | answered {row : Option Row} (hdsn : d.dsn ≠ "") (hconnection : (d.connection h s).1 = none)
      (hexecution : (d.execution q h s).1 = .ok row) :
      Attempted d q read h s [.connect d.dsn, .execute q] (endOf (read row))

/-- What goes on on a connection goes on where one is opened. -/
theorem attempted_connected {d : Database} {q : Statement} {read : Option Row → Except Failure α} {h : Handler σ} {s : σ}
    {f : Unit → Act α} (hopened : d.dsn ≠ "" → (d.connection h s).1 = none →
      Attempted d q read h s (.connect d.dsn :: asked h (f ()) (d.connection h s).2)
        ((f ()).run h (d.connection h s).2).1) :
    Attempted d q read h s (asked h (d.connect >>= f) s) ((d.connect >>= f).run h s).1 := by
  by_cases hdsn : d.dsn = ""
  · rw [connect, if_pos hdsn]
    exact .unaddressed hdsn
  · rw [connect, if_neg hdsn, ask_bind, run_ask, asked]
    cases hconnection : (d.connection h s).1 with
    | some fault =>
        unfold connection at hconnection
        simp only [hconnection]
        exact .unconnected hdsn hconnection
    | none =>
        have hrest := hopened hdsn hconnection
        unfold connection at hconnection
        simp only [hconnection]
        exact hrest

theorem attempted_fetch (d : Database) (q : Statement) (read : Option Row → Except Failure α) (h : Handler σ) (s : σ) :
    Attempted d q read h s (asked h (d.fetch q >>= fun row => ofExcept (read row)) s)
      ((d.fetch q >>= fun row => ofExcept (read row)).run h s).1 := by
  rw [fetch, bind_bind]
  apply attempted_connected
  intro hdsn hconnection
  rw [ask_bind, run_ask, asked]
  cases hexecution : (d.execution q h s).1 with
  | ok row =>
      have hanswer : (h (.execute q) (d.connection h s).2).1 = .ok row := hexecution
      simp only [hanswer, done_bind, asked_ofExcept, run_ofExcept]
      exact .answered hdsn hconnection hexecution
  | error fault =>
      have hanswer : (h (.execute q) (d.connection h s).2).1 = .error fault := hexecution
      simp only [hanswer]
      -- a missing table is reported before the failure
      cases fault with
      | undefinedTable => exact .refused [.tableMissing d.schema d.tablePrefix] hdsn hconnection hexecution
      | operational => exact .refused [] hdsn hconnection hexecution
      | uniqueViolation => exact .refused [] hdsn hconnection hexecution

theorem attempted_change (d : Database) (q : Statement) (h : Handler σ) (s : σ) :
    Attempted d q (fun _ => .ok ()) h s (asked h (d.change q) s) ((d.change q).run h s).1 := by
  rw [change]
  apply attempted_connected
  intro hdsn hconnection
  rw [run_ask, asked]
  cases hexecution : (d.execution q h s).1 with
  | ok row =>
      have hanswer : (h (.execute q) (d.connection h s).2).1 = .ok row := hexecution
      simp only [hanswer]
      exact .answered hdsn hconnection hexecution
  | error fault =>
      have hanswer : (h (.execute q) (d.connection h s).2).1 = .error fault := hexecution
      simp only [hanswer]
      exact .refused [] hdsn hconnection hexecution

/-- **One attempt at an operation** executes the operation's statement. -/
theorem attempted_once [Depth] (d : Database) (call : StoreCall) (h : Handler σ) (s : σ) :
    Attempted d (d.statement call) call.ofRow h s (asked h (d.once call) s) ((d.once call).run h s).1 := by
  cases call with
  | profileOrg user => exact attempted_fetch d _ profileOrgOf h s
  | chain id org => exact attempted_fetch d _ chainOf h s
  | insert chain org input startedAt => exact attempted_fetch d _ createdRecordOf h s
  | markRunning id engineId => exact attempted_change d _ h s
  | complete id completion => exact attempted_change d _ h s
  | record id => exact attempted_fetch d _ recordOf h s
  | rollup increment => exact attempted_change d _ h s

/-! ## Losses -/

/-- An attempt from a state is lost: its connection cannot be opened, or is lost while its statement is executed. -/
def Lost (d : Database) (q : Statement) (h : Handler σ) (s : σ) : Prop :=
  d.dsn ≠ "" ∧ ((d.connection h s).1 = some .operational
    ∨ (d.connection h s).1 = none ∧ (d.execution q h s).1 = .error .operational)

/-- The end of an attempt that was lost. -/
def lostEnd : End α := .failure (.database .operational)

theorem asksAgain_iff_lostEnd {o : End α} : AsksAgain isTransient o ↔ o = lostEnd := by
  constructor
  · rintro ⟨e, rfl, he⟩
    unfold isTransient at he
    split at he
    · rfl
    · cases he
  · rintro rfl
    exact ⟨_, rfl, rfl⟩

/-- An attempt ends with a lost connection exactly if it was lost; nothing that is read from a row looks like it. -/
theorem Attempted.lost_iff {d : Database} {q : Statement} {read : Option Row → Except Failure α} {h : Handler σ} {s : σ}
    {xs : List Effect} {o : End α} (hgone : Attempted d q read h s xs o) (hread : ∀ row, FaultFree (read row)) :
    o = lostEnd ↔ Lost d q h s := by
  unfold Lost lostEnd
  cases hgone with
  | unaddressed hdsn => simp [hdsn]
  | unconnected hdsn hconnection => simp [hdsn, hconnection]
  | refused _ hdsn hconnection hexecution => simp [hdsn, hconnection, hexecution]
  | @answered row hdsn hconnection hexecution =>
      rw [endOf_eq_failure]
      simp [hconnection, hexecution, hread row .operational]

/-! ## Operations -/

/-- The operations that add to what is stored, so that a repetition would add twice. -/
inductive Adds : StoreCall → Prop where
  | insert (chain org : String) (input : Members) (startedAt : Timestamp) : Adds (.insert chain org input startedAt)
  | rollup (increment : Rollup) : Adds (.rollup increment)

theorem isRepeatable_iff {call : StoreCall} : isRepeatable call = true ↔ ¬ Adds call := by
  constructor
  · intro hcall hadds
    cases hadds <;> cases hcall
  · intro hnot
    cases call with
    | insert chain org input startedAt => exact absurd (.insert ..) hnot
    | rollup increment => exact absurd (.rollup ..) hnot
    | _ => rfl

/-- The waits between attempts, in seconds: a half, one, two and four. -/
def waits : List Double := [.ofRatio false 1 2, .ofNat 1, .ofNat 2, .ofNat 4]

/-- The state before an attempt: those before it were made, each followed by its wait. -/
def before [Depth] (d : Database) (call : StoreCall) (h : Handler σ) (s : σ) (j : Nat) : σ :=
  trialState h (d.once call) wait 1 j s

/-- An attempt is lost. -/
def LostAt [Depth] (d : Database) (call : StoreCall) (h : Handler σ) (s : σ) (j : Nat) : Prop :=
  Lost d (d.statement call) h (d.before call h s j)

/-- Exactly so many attempts are made at an operation. They ask for what is asked for, with the waits between them,
    each executes the operation's statement, and the last one is how the operation ends. -/
structure Makes [Depth] (d : Database) (call : StoreCall) (h : Handler σ) (s : σ) (attempts : Nat)
    (rounds : List (List Effect)) : Prop where
  length : rounds.length = attempts
  asked : asked h (d.store call) s = spaced waits rounds
  attempt : ∀ (j : Nat) (hj : j < rounds.length), ∃ o,
    Attempted d (d.statement call) call.ofRow h (d.before call h s j) rounds[j] o
      ∧ (j + 1 = attempts → ((d.store call).run h s).1 = o)

section Operations

variable [Depth] {d : Database} {call : StoreCall} {h : Handler σ} {s : σ}

theorem asksAgain_iff_lostAt (j : Nat) :
    AsksAgain isTransient (trial h (d.once call) wait 1 s j).1 ↔ LostAt d call h s j :=
  asksAgain_iff_lostEnd.trans ((attempted_once d call h _).lost_iff call.faultFree_ofRow)

/-- The trials of an operation are its attempts. -/
theorem makes_of_trials {k : Nat} (hrun : (d.store call).run h s = trial h (d.once call) wait 1 s k)
    (hasked : Act.asked h (d.store call) s = spaced waits (trialsAsked h (d.once call) wait 1 s (k + 1))) :
    Makes d call h s (k + 1) (trialsAsked h (d.once call) wait 1 s (k + 1)) where
  length := length_trialsAsked 1 s (k + 1)
  asked := hasked
  attempt := by
    intro j hj
    refine ⟨(trial h (d.once call) wait 1 s j).1, ?_, fun hlast => ?_⟩
    · rw [getElem_trialsAsked]
      exact attempted_once d call h (d.before call h s j)
    · obtain rfl : j = k := Nat.succ.inj hlast
      exact congrArg Prod.fst hrun

theorem makes_of_adds (hadds : Adds call) : ∃ rounds, Makes d call h s 1 rounds := by
  have honce : d.store call = d.once call := by
    cases hadds <;> rfl
  have hrun : (d.store call).run h s = trial h (d.once call) wait 1 s 0 := by
    rw [honce]
    rfl
  have hasked : Act.asked h (d.store call) s = spaced waits (trialsAsked h (d.once call) wait 1 s 1) := by
    rw [honce]
    exact (List.append_nil _).symm
  exact ⟨_, makes_of_trials hrun hasked⟩

/-- A repeatable operation is attempted until an attempt is not lost, or five were made. -/
theorem makes_of_lost (hnot : ¬ Adds call) {k : Nat} (hk : k ≤ repetitions) (hlost : ∀ j < k, LostAt d call h s j)
    (hlast : k = repetitions ∨ ¬ LostAt d call h s k) : ∃ rounds, Makes d call h s (k + 1) rounds := by
  have hretry : d.store call = retry isTransient wait (d.once call) repetitions 1 := if_pos (isRepeatable_iff.mpr hnot)
  have hwaits : (List.range' 1 repetitions).map wait = waits := by decide +kernel
  have hbefore : ∀ j < k, AsksAgain isTransient (trial h (d.once call) wait 1 s j).1 :=
    fun j hj => (asksAgain_iff_lostAt j).mpr (hlost j hj)
  obtain ⟨hrun, hasked⟩ := retry_made hk hbefore (hlast.imp_right (mt (asksAgain_iff_lostAt k).mp))
  rw [hwaits, ← hretry] at hasked
  rw [← hretry] at hrun
  exact ⟨_, makes_of_trials hrun hasked⟩

/-- A repeatable operation ends with a lost connection exactly if all five attempts are lost. -/
theorem lostEnd_iff (hnot : ¬ Adds call) : ((d.store call).run h s).1 = lostEnd ↔ ∀ j < 5, LostAt d call h s j := by
  have hretry : d.store call = retry isTransient wait (d.once call) repetitions 1 := if_pos (isRepeatable_iff.mpr hnot)
  have hrepeated := (repeats_retry h (d.once call) wait isTransient).run repetitions 1 s
  rw [← asksAgain_iff_lostEnd, hretry, hrepeated.again_iff]
  exact forall₂_congr fun j _ => asksAgain_iff_lostAt j

end Operations

/-- **What adds is attempted once, and anything else until its connection holds.** A new record and a rollup are
    attempted once, whatever comes of it. Any other operation whose first `k` attempts are lost and whose next is not is
    attempted `k + 1` times, but at most five times, always with the same statement, and with waits of a half, one, two
    and four seconds between the attempts. It ends with a lost connection exactly if five attempts are lost; no other
    failure is followed by another attempt. -/
theorem store_attempts [Depth] (d : Database) (call : StoreCall) (h : Handler σ) (s : σ) :
    (Adds call → ∃ rounds, Makes d call h s 1 rounds)
      ∧ (¬ Adds call →
        (∀ k, (∀ j < k, LostAt d call h s j) → ¬ LostAt d call h s k → ∃ rounds, Makes d call h s (min (k + 1) 5) rounds)
          ∧ ((∀ j < 5, LostAt d call h s j) → ∃ rounds, Makes d call h s 5 rounds)
          ∧ (((d.store call).run h s).1 = lostEnd ↔ ∀ j < 5, LostAt d call h s j)) := by
  refine ⟨makes_of_adds, fun hnot => ⟨?first, ?exhausted, lostEnd_iff hnot⟩⟩
  case first =>
    intro k hbefore hheld
    by_cases hk : k ≤ repetitions
    · have hmin : min (k + 1) 5 = k + 1 := Nat.min_eq_left (Nat.succ_le_succ hk)
      rw [hmin]
      exact makes_of_lost hnot hk hbefore (.inr hheld)
    · have hmore : repetitions < k := Nat.lt_of_not_le hk
      have hmin : min (k + 1) 5 = repetitions + 1 := Nat.min_eq_right (Nat.le_succ_of_le hmore)
      rw [hmin]
      exact makes_of_lost hnot (Nat.le_refl repetitions) (fun j hj => hbefore j (Nat.lt_trans hj hmore)) (.inl rfl)
  case exhausted =>
    intro hall
    exact makes_of_lost hnot (Nat.le_refl repetitions) (fun j hj => hall j (Nat.lt_succ_of_lt hj)) (.inl rfl)

/-- A database to be reached. -/
def sampleDatabase : Database := ⟨"postgres://db", "public", "", by decide, by decide, by decide⟩

/-- Surroundings in which a connection fails first, and then one statement. -/
def flickering : Rehearsal where
  base := ⟨"http".toList, [], "engine".toList, none, ['/'], none, []⟩
  clock := []
  events := [.connectFails, .fails .operational]

/-- There a record is read in the third attempt, and a rollup is not repeated. -/
theorem store_attempts_flickering :
    (∃ rounds, Makes sampleDatabase (.record "e") Rehearsal.answer flickering 3 rounds)
      ∧ ∃ rounds, Makes sampleDatabase (.rollup ⟨"c", "o", ⟨0, none⟩, .int 0, 0, false⟩) Rehearsal.answer flickering 1
        rounds := by
  have hnot : ¬ Adds (.record "e") := nofun
  have hlost : ∀ j < 2, LostAt sampleDatabase (.record "e") Rehearsal.answer flickering j := by
    intro j hj
    match j, hj with
    | 0, _ => exact ⟨by decide, .inl rfl⟩
    | 1, _ => exact ⟨by decide, .inr ⟨rfl, rfl⟩⟩
  have hheld : ¬ LostAt sampleDatabase (.record "e") Rehearsal.answer flickering 2 := by
    rintro ⟨-, hconnection | ⟨-, hexecution⟩⟩
    · cases hconnection
    · cases hexecution
  constructor
  · exact ((store_attempts _ _ _ _).2 hnot).1 2 hlost hheld
  · exact (store_attempts _ _ _ _).1 (.rollup _)

end Database

end PromptGraph
