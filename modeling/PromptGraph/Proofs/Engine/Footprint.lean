import PromptGraph.Engine.Client
import PromptGraph.Proofs.Effect.Programs

/-!
# `Proofs.Engine.Footprint` — what the engine's operations send

Each operation on the engine sends requests of one method to one resource, and nothing else. Only a listing may be
cut, where its budget is spent.

## Contents
- **Requests.** `Request.isListing`, `Request.isCreation`; `send_cases`: a request is sent, or the program fails before;
  `send_eq_ask`, `send_eq_failed`.
- **Footprints.** `asks_send`, and one rule for each operation.
-/

/-! ## Requests -/

namespace PromptGraph.Http

/-- Whether a request lists workflows. -/
def Request.isListing (r : Request) : Bool := r.method = .get && r.endpoint = .workflows

/-- Whether a request makes a workflow. -/
def Request.isCreation (r : Request) : Bool := r.method = .post && r.endpoint = .workflows

end PromptGraph.Http

namespace PromptGraph.Engine

open Act Http

variable [Depth]
variable {P : Effect → Prop} {C : Prop}

/-- A request is sent and its answer read, or it is refused beforehand, which is no error of the remote. -/
theorem send_cases (r : Request) :
    send r = .ask (.exchange r) (fun reply => .ofExcept (replyValue r reply))
      ∨ ∃ e, send r = .failed e ∧ ∀ x, e ≠ .remote x := by
  unfold send
  split
  · exact Or.inr ⟨_, rfl, nofun⟩
  · split
    next fault _ => exact Or.inr ⟨.ofText fault, rfl, by cases fault <;> nofun⟩
    · exact Or.inl rfl

/-- A request with an address, and without a body or with one that has a text, is sent. -/
theorem send_eq_ask {r : Request} (haddress : r.isAddressable = true) (hbody : bodyFault? r = none) :
    send r = .ask (.exchange r) fun reply => .ofExcept (replyValue r reply) := by
  unfold send
  rw [haddress, hbody]
  rfl

/-- A request without an address is not sent. -/
theorem send_eq_failed {r : Request} (haddress : r.isAddressable = false) : send r = .failed (.kind .address) := by
  unfold send
  rw [haddress]
  rfl

/-- The run of a request: refused with nothing changed, or answered by the surroundings. -/
theorem run_send {σ : Type} (h : Handler σ) (r : Request) (s : σ) :
    (∃ e, (send r).run h s = (.failure e, s))
      ∨ (send r).run h s = (endOf (replyValue r (h (.exchange r) s).1), (h (.exchange r) s).2) := by
  rcases send_cases r with hr | ⟨e, hr, -⟩
  · right
    rw [hr, run_ask, run_ofExcept]
  · left
    exact ⟨e, by rw [hr, run_failed]⟩

/-! ## Footprints -/

theorem asks_send {r : Request} (hr : P (.exchange r)) : (send r).Asks P C := by
  rcases send_cases r with h | ⟨e, h, -⟩
  · rw [h]
    exact ⟨hr, fun reply => asks_ofExcept _⟩
  · rw [h]
    trivial

theorem asks_listFrom {e : Endpoint} (he : ∀ parameters, P (.exchange ⟨.get, e, parameters, none⟩)) (budget : Nat)
    (cursor : Option Json) : (listFrom e budget cursor).Asks P True := by
  induction budget generalizing cursor with
  | zero => trivial
  | succ budget ih =>
      refine asks_bind (asks_send (he _)) (fun page => asks_bind (asks_ofExcept _) ?_)
      rintro ⟨items, next⟩
      cases next with
      | none => trivial
      | some c => exact asks_bind (ih (some c)) (fun more => trivial)

theorem asks_listWorkflows (hP : ∀ parameters, P (.exchange ⟨.get, .workflows, parameters, none⟩)) (budget : Nat) :
    (listWorkflows budget).Asks P True :=
  asks_bind (asks_listFrom hP budget none) (fun _ => asks_ofExcept _)

theorem asks_createWorkflow (hP : ∀ body, P (.exchange ⟨.post, .workflows, none, body⟩)) (d : Definition) :
    (createWorkflow d).Asks P C :=
  asks_bind (asks_send (hP _)) (fun _ => asks_ofExcept _)

theorem asks_updateWorkflow {id : String} (hP : ∀ body, P (.exchange ⟨.patch, .workflow id, none, body⟩))
    (changes : Json) : (updateWorkflow id changes).Asks P C :=
  asks_bind (asks_send (hP _)) (fun _ => asks_ofExcept _)

theorem asks_executeWorkflow {id : String} (hP : ∀ body, P (.exchange ⟨.post, .execute id, none, body⟩))
    (input : Json) : (executeWorkflow id input).Asks P C :=
  asks_bind (asks_send (hP _)) (fun _ => asks_ofExcept _)

theorem asks_getExecution {id : String} (hP : ∀ parameters, P (.exchange ⟨.get, .execution id, parameters, none⟩)) :
    (getExecution id).Asks P C :=
  asks_bind (asks_send (hP _)) (fun _ => asks_ofExcept _)

end PromptGraph.Engine
