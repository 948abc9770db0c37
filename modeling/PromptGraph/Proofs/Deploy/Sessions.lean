import PromptGraph.Proofs.Deploy.Phases

/-!
# `Proofs.Deploy.Sessions` — deployments one after another beside a host

A deployment by itself runs through its phases, of which each comes later than the one before it; so what each step
keeps holds when the deployment has ended. A session is any sequence of deployments, with invalidations and restarts
between them; what each of these keeps holds after the session.

## Contents
- **Runs.** `Phase.rank`, `run_of_steps`.
- **Sessions.** `SessionStep`, `session`, and `session_induction`.
-/

namespace PromptGraph

open Act Engine Http

variable [Depth]

/-! ## Runs -/

/-- How many phases may still come. -/
def Phase.rank : Phase → Nat
  | .start => 5
  | .registered _ _ => 4
  | .listing _ => 3
  | .creating _ => 2
  | .updating _ _ => 2
  | .activating _ => 1
  | .returned _ => 0
  | .stopped => 0

section Runs

variable {source : IdSource} {ctx : DeployContext} {c : Chain} {org : Option String} {phase next : Phase} {s t : Site}

/-- A phase that has not ended is left for a later one. -/
theorem Step.rank_lt (hstep : Step ctx c org source phase s next t) (hphase : 0 < phase.rank) :
    next.rank < phase.rank := by
  cases hstep with
  | cached h => exact hphase
  | found _ _ _ _ _ => simp [Phase.rank]
  | missing _ _ _ _ _ => simp [Phase.rank]
  | unsent _ => exact hphase
  | unusable _ _ => exact hphase
  | led _ hlead _ => cases hlead <;> simp [Phase.rank]
  | remembered _ hnext => rcases hnext with rfl | rfl <;> simp [Phase.rank]
  | idle h =>
      rcases h with rfl | ⟨_, rfl⟩
      · exact absurd hphase (Nat.lt_irrefl 0)
      · exact absurd hphase (Nat.lt_irrefl 0)

/-- The end of a deployment that has returned or stopped. -/
theorem run_of_ended {p : Act String} (hat : Phase.At ctx c org phase p) (hphase : ¬ 0 < phase.rank) (s : Site) :
    (p.run (Site.answer source) s).2 = s
      ∧ ((∃ r, phase = .returned r ∧ (p.run (Site.answer source) s).1 = .value r)
        ∨ (phase = .stopped ∧ ∀ r, (p.run (Site.answer source) s).1 ≠ .value r)) := by
  cases hat with
  | returned remote => exact ⟨rfl, Or.inl ⟨remote, rfl, rfl⟩⟩
  | stopped h =>
      rcases h with ⟨e, rfl⟩ | rfl
      · exact ⟨rfl, Or.inr ⟨rfl, nofun⟩⟩
      · exact ⟨rfl, Or.inr ⟨rfl, nofun⟩⟩
  | _ => exact absurd (by simp [Phase.rank]) hphase

/-- **What every step keeps holds in the end**, by induction on the phases that may still come. -/
theorem run_of_steps (source : IdSource) {I : Phase → Site → Prop}
    (hkeep : ∀ {phase next s t}, I phase s → Step ctx c org source phase s next t → I next t)
    {p : Act String} (hat : Phase.At ctx c org phase p) (hI : I phase s) :
    ∃ next, I next (p.run (Site.answer source) s).2
      ∧ ((∃ r, next = .returned r ∧ (p.run (Site.answer source) s).1 = .value r)
        ∨ (next = .stopped ∧ ∀ r, (p.run (Site.answer source) s).1 ≠ .value r)) := by
  induction hn : phase.rank using Nat.strongRecOn generalizing phase p s with
  | _ n ih =>
      by_cases hphase : 0 < phase.rank
      · -- a turn does not change what the program comes to
        obtain ⟨next, hat', hstep⟩ := turn_step source hat s
        have hend := ih next.rank (hn ▸ hstep.rank_lt hphase) hat' (hkeep hI hstep) rfl
        rw [run_turn] at hend
        exact hend
      · obtain ⟨hsame, hend⟩ := run_of_ended hat hphase s
        exact ⟨phase, hsame.symm ▸ hI, hend⟩

end Runs

/-! ## Sessions -/

/-- What happens in a session. -/
inductive SessionStep where
  | ensure (c : Chain) (org : Option String)
  | invalidate (chain : Option String)
  /-- A new process begins: the cache is lost. -/
  | restart

/-- A site after a restart. -/
def Site.restarted (s : Site) : Site := { s with near := { s.near with cache := [] } }

variable (source : IdSource) (ctx : DeployContext)

/-- What a step returns, and the site after it. -/
def SessionStep.run : SessionStep → Site → Option (Chain × String) × Site
  | .ensure c org, s =>
    let ended := (ensureDeployed ctx c org).run (Site.answer source) s
    (ended.1.value?.map fun r => (c, r), ended.2)
  | .invalidate chain, s => (none, ((PromptGraph.invalidate chain).run (Site.answer source) s).2)
  | .restart, s => (none, s.restarted)

/-- The chains that a session returns ids for, with the ids, and the site after it. -/
def session : List SessionStep → Site → List (Chain × String) × Site
  | [], s => ([], s)
  | step :: rest, s =>
    let done := step.run source ctx s
    let more := session rest done.2
    (done.1.toList ++ more.1, more.2)

/-- **What every step of a session keeps holds after it**, of what was returned and of the site. -/
theorem session_induction (I : List (Chain × String) → Site → Prop) {steps : List SessionStep}
    (hkeep : ∀ step ∈ steps, ∀ returned s, I returned s →
      I (returned ++ (step.run source ctx s).1.toList) (step.run source ctx s).2)
    {returned : List (Chain × String)} {s : Site} (hI : I returned s) :
    I (returned ++ (session source ctx steps s).1) (session source ctx steps s).2 := by
  induction steps generalizing returned s with
  | nil => exact (List.append_nil returned).symm ▸ hI
  | cons step rest ih =>
      have hnext := hkeep step List.mem_cons_self returned s hI
      have hrest := ih (fun step hstep => hkeep step (List.mem_cons_of_mem _ hstep)) hnext
      rw [List.append_assoc] at hrest
      exact hrest

end PromptGraph
