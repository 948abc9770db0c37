import PromptGraph.Proofs.Credential.Attempts
import PromptGraph.Proofs.Effect.Trials
import PromptGraph.Proofs.Engine.Budget

/-!
# `Proofs.Credential.Outcome` — how a propagation ends

A propagation is attempted again as long as its attempts fail remotely. It is true where an attempt after such attempts
does what it should, and false where all of them fail remotely, with one failure recorded. An attempt that fails with
something else is not attempted again, and its failure is the failure of the propagation: it is neither false nor
recorded.

## Contents
- **Effects of an attempt.** `asks_once`, `endsWithin_once`.
- **Attempts in a row.** `Propagator.attempted`, `Propagator.attemptEnd`; `attemptEnd_iff`, `asksAgain_iff`.
- **Conclusion.** `concluded`, `run_guarded`.
- **Propagation.** `Propagator.Decides`, `Propagated`, `propagated_guarded`, `Propagated.of_unreadable_entry`; `propagation_outcome`, and
  `nameless_entry_escapes`.
-/

namespace PromptGraph

open Act Engine Http

/-! ## Effects of an attempt -/

section Effects

variable [Depth] (k : CredentialWork)

/-- An attempt sends requests, and does nothing else. -/
theorem asks_once (budget : Nat) : (k.once budget).Asks (fun q => q.isExchange = true) True := by
  have hlisting : (listCredentials budget).Asks (fun q => q.isExchange = true) True :=
    asks_bind (asks_listFrom (fun _ => rfl) budget none) fun _ => asks_ofExcept _
  refine asks_bind hlisting fun listed => ?_
  unfold CredentialWork.apply
  split
  · trivial
  · exact asks_bind (asks_send rfl) fun _ => asks_ofExcept _

/-- An attempt is not cut while fewer answers are left than its budget. -/
theorem endsWithin_once (budget : Nat) : EndsWithin budget (k.once budget) := by
  have hlisting : EndsWithin budget (listCredentials budget) :=
    endsWithin_bind (endsWithin_listFrom .credentials budget none) fun _ => endsWithin_ofExcept _
  refine endsWithin_bind hlisting fun listed => ?_
  unfold CredentialWork.apply
  split
  · exact endsWithin_done ()
  · exact endsWithin_bind (endsWithin_of_asks (asks_send (P := fun _ => True) trivial)) fun _ => endsWithin_ofExcept _

/-- The recorded failures are as they were. -/
def KeepsFailures (w w' : Rehearsal) : Prop := w'.failures = w.failures

omit [Depth] in
theorem KeepsFailures.trans {a b c : Rehearsal} (hab : KeepsFailures a b) (hbc : KeepsFailures b c) :
    KeepsFailures a c :=
  Eq.trans hbc hab

omit [Depth] in
theorem keepsFailures_of_exchange {q : Effect} (hq : q.isExchange = true) (w : Rehearsal) :
    KeepsFailures w (Rehearsal.answer q w).2 := by
  cases q with
  | exchange r =>
      rcases answer_exchange r w with h | ⟨address, h⟩
      · rw [h]
        rfl
      · rw [h]
        rfl
  | _ => cases hq

theorem keepsFailures_once (budget : Nat) (w : Rehearsal) :
    KeepsFailures w ((k.once budget).run Rehearsal.answer w).2 :=
  run_related (R := KeepsFailures) (fun _ => rfl) KeepsFailures.trans (fun _ s hq => keepsFailures_of_exchange hq s)
    (asks_once k budget) w

end Effects

/-! ## Attempts in a row -/

/-- The wait after an attempt. -/
def Propagator.waitAfter (p : Propagator) : Nat → Double := backoff (.zero false) p.longestWait

/-- The requests of an attempt with their replies, the attempts before it being made with a wait after each. -/
def Propagator.attempted [Depth] (p : Propagator) (k : CredentialWork) (w : Rehearsal) (n : Nat) : List Exchange :=
  trialExchanges Rehearsal.answer (k.once p.pageBudget) p.waitAfter 1 w n

/-- How an attempt ends, and the state that it leads to. -/
abbrev Propagator.attemptEnd [Depth] (p : Propagator) (k : CredentialWork) (w : Rehearsal) (n : Nat) :
    End Unit × Rehearsal :=
  trial Rehearsal.answer (k.once p.pageBudget) p.waitAfter 1 w n

theorem asksAgain_isRemote {o : End Unit} :
    AsksAgain Propagator.isRemote o ↔ ∃ e, o = .failure (.remote e) := by
  constructor
  · rintro ⟨f, hf, hremote⟩
    cases f with
    | remote e => exact ⟨e, hf⟩
    | _ => cases hremote
  · rintro ⟨e, he⟩
    exact ⟨.remote e, he, rfl⟩

section Attempted

variable [Depth] {p : Propagator} {k : CredentialWork} {w : Rehearsal}

/-- No attempt has more answers than there were to begin with. -/
theorem trialState_replies_le (n : Nat) :
    (trialState Rehearsal.answer (k.once p.pageBudget) p.waitAfter 1 n w).replies.length ≤ w.replies.length :=
  trialState_related (R := fun s t => t.replies.length ≤ s.replies.length) (fun _ => Nat.le_refl _)
    (fun hab hbc => Nat.le_trans hbc hab) (fun s => run_replies_le _ s) (fun _ _ => Nat.le_refl _) n 1 w

/-- No attempt records a failure. -/
theorem attemptEnd_keepsFailures (n : Nat) : KeepsFailures w (p.attemptEnd k w n).2 := by
  have hbefore : KeepsFailures w (trialState Rehearsal.answer (k.once p.pageBudget) p.waitAfter 1 n w) :=
    trialState_related (R := KeepsFailures) (fun _ => rfl) KeepsFailures.trans
      (fun s => keepsFailures_once k p.pageBudget s) (fun _ _ => rfl) n 1 w
  exact hbefore.trans (keepsFailures_once k p.pageBudget _)

/-- An attempt ends as its exchanges are read. -/
theorem attemptEnd_reads (hbudget : w.replies.length < p.pageBudget) (n : Nat) :
    ∃ x, (p.attemptEnd k w n).1 = endOf x ∧ Reads k (p.attempted k w n) x := by
  rcases reads_of_course (course_trial 1 w n) with hcut | hreads
  · have hleft := Nat.lt_of_le_of_lt (trialState_replies_le (p := p) (k := k) (w := w) n) hbudget
    exact absurd hcut (endsWithin_once k p.pageBudget _ hleft)
  · exact hreads

theorem attemptEnd_iff (hbudget : w.replies.length < p.pageBudget) (n : Nat) (x : Except Failure Unit) :
    (p.attemptEnd k w n).1 = endOf x ↔ Reads k (p.attempted k w n) x := by
  obtain ⟨y, hend, hreads⟩ := attemptEnd_reads (k := k) hbudget n
  rw [hend]
  constructor
  · intro heq
    rw [← endOf_injective heq]
    exact hreads
  · intro hreads'
    rw [hreads.unique hreads']

/-- Another attempt is asked for exactly by one that fails remotely. -/
theorem asksAgain_iff (hbudget : w.replies.length < p.pageBudget) (n : Nat) :
    AsksAgain Propagator.isRemote (p.attemptEnd k w n).1 ↔ ∃ e, FailsRemotely (p.attempted k w n) e := by
  obtain ⟨x, hend, hreads⟩ := attemptEnd_reads (k := k) hbudget n
  rw [asksAgain_isRemote, hend]
  apply exists_congr
  intro e
  rw [endOf_eq_failure, hreads.remote_iff]

end Attempted

/-! ## Conclusion -/

/-- What is made of the end of the attempts: an error of the remote is reported and recorded. -/
def concluded (org service operation : String) : End Unit × Rehearsal → End Bool × Rehearsal
  | (.value (), t) => (.value true, t)
  | (.failure (.remote e), t) =>
    (.value false,
      { t with
        notices := t.notices ++ [.credentialFailed operation org service (.remote e)],
        failures := t.failures ++ [⟨org, service, operation, e.message⟩] })
  | (.failure f, t) => (.failure f, t)
  | (.cut, t) => (.cut, t)

section Conclusion

variable {org service operation : String}

theorem run_guarded (p : Propagator) (work : Act Unit) (w : Rehearsal) :
    (p.guarded org service operation work).run Rehearsal.answer w
      = concluded org service operation
        ((retry Propagator.isRemote p.waitAfter work (p.attempts - 1) 1).run Rehearsal.answer w) := by
  show (attempt (retry Propagator.isRemote p.waitAfter work (p.attempts - 1) 1) >>= _).run Rehearsal.answer w = _
  rw [run_bind, run_attempt]
  rcases (retry Propagator.isRemote p.waitAfter work (p.attempts - 1) 1).run Rehearsal.answer w with ⟨o, t⟩
  cases o with
  | value a => rfl
  | failure f => cases f <;> rfl
  | cut => rfl

/-- A failure that is no error of the remote is the end. -/
theorem concluded_of_not_remote {f : Failure} (hf : ∀ e, f ≠ .remote e) (t : Rehearsal) :
    concluded org service operation (.failure f, t) = (.failure f, t) := by
  cases f with
  | remote e => exact absurd rfl (hf e)
  | _ => rfl

theorem remote_or_not (f : Failure) : (∃ e, f = .remote e) ∨ ∀ e, f ≠ .remote e := by
  cases f with
  | remote e => exact Or.inl ⟨e, rfl⟩
  | _ => exact Or.inr nofun

variable {x : End Unit × Rehearsal}

theorem concluded_true_iff : (concluded org service operation x).1 = .value true ↔ x.1 = .value () := by
  obtain ⟨o, t⟩ := x
  cases o with
  | value a => exact ⟨fun _ => rfl, fun _ => rfl⟩
  | failure f =>
      rcases remote_or_not f with ⟨e, rfl⟩ | hf
      · exact ⟨nofun, nofun⟩
      · rw [concluded_of_not_remote hf]
        exact ⟨nofun, nofun⟩
  | cut => exact ⟨nofun, nofun⟩

theorem concluded_false_iff :
    (concluded org service operation x).1 = .value false ↔ ∃ e, x.1 = .failure (.remote e) := by
  obtain ⟨o, t⟩ := x
  cases o with
  | value a => exact ⟨nofun, nofun⟩
  | failure f =>
      rcases remote_or_not f with ⟨e, rfl⟩ | hf
      · exact ⟨fun _ => ⟨e, rfl⟩, fun _ => rfl⟩
      · rw [concluded_of_not_remote hf]
        refine ⟨nofun, ?_⟩
        rintro ⟨e, heq⟩
        exact absurd (End.failure.inj heq) (hf e)
  | cut => exact ⟨nofun, nofun⟩

theorem concluded_failure_iff {f : Failure} : (concluded org service operation x).1 = .failure f
    ↔ x.1 = .failure f ∧ ∀ e, f ≠ .remote e := by
  obtain ⟨o, t⟩ := x
  cases o with
  | value a => exact ⟨nofun, nofun⟩
  | failure f' =>
      rcases remote_or_not f' with ⟨e, rfl⟩ | hf
      · refine ⟨nofun, ?_⟩
        rintro ⟨heq, hf⟩
        exact absurd (End.failure.inj heq).symm (hf e)
      · rw [concluded_of_not_remote hf]
        constructor
        · intro heq
          rw [← End.failure.inj heq]
          exact ⟨rfl, hf⟩
        · rintro ⟨heq, -⟩
          rw [End.failure.inj heq]
  | cut => exact ⟨nofun, nofun⟩

/-- Nothing but an error of the remote is recorded. -/
theorem concluded_snd (hx : ∀ e, x.1 ≠ .failure (.remote e)) : (concluded org service operation x).2 = x.2 := by
  obtain ⟨o, t⟩ := x
  cases o with
  | value a => rfl
  | failure f =>
      have hf : ∀ e, f ≠ .remote e := fun e he => hx e (congrArg End.failure he)
      rw [concluded_of_not_remote hf]
  | cut => rfl

theorem concluded_ne_cut (hx : x.1 ≠ .cut) : (concluded org service operation x).1 ≠ .cut := by
  obtain ⟨o, t⟩ := x
  cases o with
  | value a => nofun
  | failure f => cases f <;> nofun
  | cut => exact absurd rfl hx

end Conclusion

/-! ## Propagation -/

/-- An attempt comes to this, and all attempts before it fail remotely. -/
def Propagator.Decides [Depth] (p : Propagator) (k : CredentialWork) (w : Rehearsal) (x : Except Failure Unit) : Prop :=
  ∃ n < p.attempts, (∀ j < n, ∃ e, FailsRemotely (p.attempted k w j) e) ∧ Reads k (p.attempted k w n) x

/-- How a propagation ends. -/
structure Propagated [Depth] (p : Propagator) (k : CredentialWork) (org service operation : String) (w : Rehearsal)
    (result : End Bool × Rehearsal) : Prop where
  /-- It is true exactly where an attempt, all before it failing remotely, does what it should. -/
  made : result.1 = .value true ↔ p.Decides k w (.ok ())
  /-- It is false exactly where every attempt fails remotely. -/
  refused : result.1 = .value false ↔ ∀ n < p.attempts, ∃ e, FailsRemotely (p.attempted k w n) e
  /-- It fails exactly where an attempt, all before it failing remotely, fails with something else. -/
  escapes : ∀ f, result.1 = .failure f ↔ (∀ e, f ≠ .remote e) ∧ p.Decides k w (.error f)
  ends : result.1 ≠ .cut
  /-- A failure is recorded where it is false, and it is the error of the last attempt. -/
  recorded : result.1 = .value false → ∃ e, FailsRemotely (p.attempted k w (p.attempts - 1)) e
    ∧ result.2.failures = w.failures ++ [⟨org, service, operation, e.message⟩]
  kept : result.1 ≠ .value false → result.2.failures = w.failures

section Propagation

variable [Depth] {p : Propagator} {k : CredentialWork} {w : Rehearsal}

omit [Depth] in
theorem attempts_pos (p : Propagator) : 0 < p.attempts := by
  unfold Propagator.attempts
  omega

/-- The attempts that are made, and which of them decides. -/
theorem repeated_attempts (p : Propagator) (k : CredentialWork) (w : Rehearsal) :
    Repeated (AsksAgain Propagator.isRemote) id id (p.attemptEnd k w) p.attempts
      ((retry Propagator.isRemote p.waitAfter (k.once p.pageBudget) (p.attempts - 1) 1).run Rehearsal.answer w) := by
  have hrepeats := repeats_retry Rehearsal.answer (k.once p.pageBudget) p.waitAfter Propagator.isRemote
  have hattempts : p.attempts - 1 + 1 = p.attempts := by
    have hpos := attempts_pos p
    omega
  rw [← hattempts]
  exact hrepeats.run (p.attempts - 1) 1 w

variable {x : End Unit × Rehearsal}

/-- Attempts end with the result of the first that does not fail remotely. -/
theorem attempts_end_iff (hbudget : w.replies.length < p.pageBudget)
    (hx : Repeated (AsksAgain Propagator.isRemote) id id (p.attemptEnd k w) p.attempts x) {r : Except Failure Unit}
    (hr : ∀ e, r ≠ .error (.remote e)) :
    x.1 = endOf r ↔ p.Decides k w r := by
  have hagain : ¬ AsksAgain Propagator.isRemote (endOf r) := by
    intro hasks
    obtain ⟨e, he⟩ := asksAgain_isRemote.mp hasks
    exact hr e (endOf_eq_failure.mp he)
  rw [hx.end_iff hagain]
  simp only [asksAgain_iff hbudget, attemptEnd_iff hbudget, Propagator.Decides]

/-- Attempts end with an error of the remote exactly if all of them do. -/
theorem attempts_remote_iff (hbudget : w.replies.length < p.pageBudget)
    (hx : Repeated (AsksAgain Propagator.isRemote) id id (p.attemptEnd k w) p.attempts x) :
    (∃ e, x.1 = .failure (.remote e)) ↔ ∀ n < p.attempts, ∃ e, FailsRemotely (p.attempted k w n) e := by
  rw [← asksAgain_isRemote, hx.again_iff]
  simp only [asksAgain_iff hbudget]

/-- **A guarded piece of work ends as its attempts say.** -/
theorem propagated_guarded (org service operation : String) (hbudget : w.replies.length < p.pageBudget) :
    Propagated p k org service operation w
      ((p.guarded org service operation (k.once p.pageBudget)).run Rehearsal.answer w) := by
  have hx := repeated_attempts p k w
  rw [run_guarded]
  generalize (retry _ _ _ _ _).run Rehearsal.answer w = x at hx
  have hkept : x.2.failures = w.failures := by
    obtain ⟨n, -, rfl⟩ := hx.eq_trial
    exact attemptEnd_keepsFailures n
  constructor
  case made =>
    rw [concluded_true_iff]
    exact attempts_end_iff (r := .ok ()) hbudget hx nofun
  case refused =>
    rw [concluded_false_iff]
    exact attempts_remote_iff hbudget hx
  case escapes =>
    intro f
    rw [concluded_failure_iff, and_comm]
    apply and_congr_right
    intro hf
    exact attempts_end_iff (r := .error f) hbudget hx fun e he => hf e (Except.error.inj he)
  case ends =>
    obtain ⟨n, -, rfl⟩ := hx.eq_trial
    obtain ⟨y, hend, -⟩ := attemptEnd_reads (k := k) hbudget n
    apply concluded_ne_cut
    rw [hend]
    exact endOf_ne_cut y
  case recorded =>
    intro hfalse
    obtain ⟨e, he⟩ := concluded_false_iff.mp hfalse
    -- the error that is recorded is that of the last attempt
    have hagain : AsksAgain Propagator.isRemote x.1 := asksAgain_isRemote.mpr ⟨e, he⟩
    have hlast : (p.attemptEnd k w (p.attempts - 1)).1 = endOf (.error (.remote e)) := by
      rw [← hx.eq_last hagain]
      exact he
    have hreads := (attemptEnd_iff hbudget _ _).mp hlast
    refine ⟨e, (hreads.remote_iff e).mp rfl, ?_⟩
    obtain ⟨o, t⟩ := x
    cases he
    show t.failures ++ _ = _
    rw [hkept]
  case kept =>
    intro hnot
    have hother : ∀ e, x.1 ≠ .failure (.remote e) := fun e he => hnot (concluded_false_iff.mpr ⟨e, he⟩)
    rw [concluded_snd hother]
    exact hkept

/-- **A listed entry that is no credential makes the propagation fail**, whatever else is listed, and nothing of it is
    recorded. -/
theorem Propagated.of_unreadable_entry {org service operation : String} {result : End Bool × Rehearsal}
    (h : Propagated p k org service operation w result) {items : List Json} {f : Failure}
    (hlists : Lists .credentials none (p.attempted k w 0) items) (hread : readEach Credential.read items = .error f) :
    result.1 = .failure f ∧ result.2.failures = w.failures := by
  obtain ⟨fault, rfl⟩ := readEach_credential_error hread
  have hlooked : Looked (p.attempted k w 0) (.error (.schema fault)) := hread ▸ .listed hlists
  have hfailure : result.1 = .failure (.schema fault) :=
    (h.escapes _).mpr ⟨nofun, 0, attempts_pos p, fun j hj => absurd hj (Nat.not_lt_zero j), .unread hlooked⟩
  refine ⟨hfailure, h.kept ?_⟩
  rw [hfailure]
  nofun

/-- The credential that is put into the engine. -/
def Propagator.credentialOf (s : Service) (org service secret : String) : Credential :=
  ⟨none, credentialName service (some org), s.credentialType, credentialData service secret⟩

theorem store_eq_guarded {p : Propagator} {s : Service} {service : String} (hs : Service.ofName? service = some s)
    (hmember : service ∈ p.services) (org secret : String) : p.store org service secret
      = p.guarded org service "store"
        ((CredentialWork.storing (Propagator.credentialOf s org service secret)).once p.pageBudget) := by
  have hsupported : ((Service.ofName? service).filter fun _ => p.services.contains service) = some s := by
    rw [hs, Option.filter_some, List.contains_iff_mem.mpr hmember]
    rfl
  unfold Propagator.store
  rw [hsupported, ← CredentialWork.storing_once]
  rfl

theorem store_unsupported {p : Propagator} {service : String}
    (hservice : Service.ofName? service = none ∨ service ∉ p.services) (org secret : String) :
    p.store org service secret = (report (.credentialService service) >>= fun _ => pure false) := by
  have hunsupported : ((Service.ofName? service).filter fun _ => p.services.contains service) = none := by
    rcases hservice with hnone | hmember
    · rw [hnone]
      rfl
    · have hcontains : p.services.contains service = false := by
        simpa using hmember
      rw [hcontains]
      cases Service.ofName? service <;> rfl
  unfold Propagator.store
  rw [hunsupported]

/-- **How storing and deleting a credential end.** A credential is stored for a service that is known and wanted, and
    deleted for any word; for any other word a store is false and does nothing but say so. -/
theorem propagation_outcome {p : Propagator} {w : Rehearsal} (hbudget : w.replies.length < p.pageBudget)
    (org service : String) :
    Propagated p (.deleting (credentialName service (some org))) org service "delete" w
        ((p.delete org service).run Rehearsal.answer w)
      ∧ (∀ s secret, Service.ofName? service = some s → service ∈ p.services →
        Propagated p (.storing (Propagator.credentialOf s org service secret)) org service "store" w
          ((p.store org service secret).run Rehearsal.answer w))
      ∧ (∀ secret, Service.ofName? service = none ∨ service ∉ p.services →
        (p.store org service secret).run Rehearsal.answer w
          = (.value false, { w with notices := w.notices ++ [.credentialService service] })) := by
  refine ⟨?_, ?_, ?_⟩
  · have hdelete : p.delete org service = p.guarded org service "delete"
        ((CredentialWork.deleting (credentialName service (some org))).once p.pageBudget) := by
      rw [← CredentialWork.deleting_once]
      rfl
    rw [hdelete]
    exact propagated_guarded org service "delete" hbudget
  · intro s secret hs hmember
    rw [store_eq_guarded hs hmember]
    exact propagated_guarded org service "store" hbudget
  · intro secret hservice
    rw [store_unsupported hservice]
    rfl

end Propagation

/-- A propagator for every service that makes two attempts. -/
def twoAttempts : Propagator := ⟨2, Propagator.servicesOf [], .zero false, 4⟩

/-- An engine with these answers, and nothing done so far. -/
def engineAnswering (replies : List Http.Reply) : Rehearsal where
  base := ⟨"http".toList, [], "engine".toList, none, ['/'], none, []⟩
  replies := replies
  clock := []

/-- An engine that is down records one failure. -/
theorem propagation_outcome_engine_down :
    (engineAnswering [.answer 500 (.text "down"), .answer 503 (.text "still down")]).replies.length
        < twoAttempts.pageBudget
      ∧ ∃ e, ((twoAttempts.delete "acme" "openai").run Rehearsal.answer (engineAnswering
          [.answer 500 (.text "down"), .answer 503 (.text "still down")])).2.failures
        = [⟨"acme", "openai", "delete", RemoteError.message e⟩] := by
  have hpropagated := (propagation_outcome (p := twoAttempts)
    (w := engineAnswering [.answer 500 (.text "down"), .answer 503 (.text "still down")]) (by decide)
    "acme" "openai").1
  obtain ⟨e, -, hfailures⟩ := hpropagated.recorded rfl
  exact ⟨by decide, e, hfailures⟩

/-- A listing with an entry that has no name. -/
def namelessListing : Http.Reply :=
  .answer 200 (.json (.obj [("data", .arr [.obj [("id", .str "1"), ("type", .str "openAiApi")]])]))

/-- An entry without a name makes a propagation fail: it is not false, and nothing is recorded. -/
theorem nameless_entry_escapes :
    (∃ fault, ((twoAttempts.store "acme" "openai" "secret").run Rehearsal.answer (engineAnswering
        [namelessListing])).1 = .failure (.schema fault))
      ∧ (∃ fault, ((twoAttempts.delete "acme" "openai").run Rehearsal.answer (engineAnswering
        [namelessListing])).1 = .failure (.schema fault))
      ∧ ((twoAttempts.delete "acme" "openai").run Rehearsal.answer (engineAnswering
        [namelessListing])).2.failures = [] :=
  ⟨⟨_, rfl⟩, ⟨_, rfl⟩, rfl⟩

end PromptGraph
