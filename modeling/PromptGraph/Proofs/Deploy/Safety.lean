import PromptGraph.Proofs.Deploy.Writes

/-!
# `Proofs.Deploy.Safety` — which workflows a deployment writes to

A deployment makes no workflow of a name that is taken, and writes to no other workflow than the registered one and the
only one of the name. This holds of every course of a deployment, so of every engine: one that forgets what it was told,
changes the ids in its answers, or tells of workflows without an id.

## Contents
- **Parts of a run.** `pagesOf`, `afterListing`: the listing of a deployment, and what comes after it.
- **What is written.** `WritesFirst`: a write, and activations after it; what the kinds of writes have in common.
- **Safety.** `WritesSafely`, one lemma for each kind of course, and `ensureDeployed_writes_safely`; a listing with an
  entry that is no workflow.
-/

namespace PromptGraph

open Act Engine Http

/-! ## Parts of a run -/

/-- Whether a request that is no reading was answered with success. -/
def Exchange.wrote (x : Exchange) : Bool := x.request.method ≠ .get && x.succeeded

/-- The pages that are asked for. -/
def pagesOf (xs : List Exchange) : List Exchange := xs.filter fun x => x.request.isListing

/-- What comes after the first pages that are asked for in a row. -/
def afterListing (xs : List Exchange) : List Exchange :=
  (xs.dropWhile fun x => !x.request.isListing).dropWhile fun x => x.request.isListing

section Parts

variable {start pages rest xs : List Exchange}

theorem pagesOf_of_apart (h : ∀ x ∈ xs, x.request.isListing = false) : pagesOf xs = [] :=
  List.filter_eq_nil_iff.mpr fun x hx => by simp [h x hx]

theorem pagesOf_parts (hstart : ∀ x ∈ start, x.request.isListing = false)
    (hpages : ∀ x ∈ pages, x.request.isListing = true) (hrest : ∀ x ∈ rest, x.request.isListing = false) :
    pagesOf (start ++ (pages ++ rest)) = pages := by
  have hall : pagesOf pages = pages := List.filter_eq_self.mpr hpages
  unfold pagesOf at hall ⊢
  rw [List.filter_append, List.filter_append, hall]
  show pagesOf start ++ (pages ++ pagesOf rest) = pages
  rw [pagesOf_of_apart hstart, pagesOf_of_apart hrest, List.append_nil, List.nil_append]

theorem dropWhile_parts {p : Exchange → Bool} (hstart : ∀ x ∈ start, p x = true)
    (hrest : ∀ x, rest.head? = some x → p x = false) : (start ++ rest).dropWhile p = rest := by
  rw [List.dropWhile_append_of_pos hstart]
  cases rest with
  | nil => rfl
  | cons x after => rw [List.dropWhile_cons_of_neg (by simp [hrest x rfl])]

theorem afterListing_parts (hstart : ∀ x ∈ start, x.request.isListing = false)
    (hpages : ∀ x ∈ pages, x.request.isListing = true) (hne : pages ≠ [])
    (hrest : ∀ x ∈ rest, x.request.isListing = false) : afterListing (start ++ (pages ++ rest)) = rest := by
  obtain ⟨page, more, rfl⟩ := List.exists_cons_of_ne_nil hne
  have hfirst : ∀ x, (page :: more ++ rest).head? = some x → (!x.request.isListing) = false := by
    rintro x ⟨⟩
    simp [hpages page]
  rw [afterListing, dropWhile_parts (fun x hx => by simp [hstart x hx]) hfirst]
  exact dropWhile_parts hpages fun x hx => hrest x (List.mem_of_head? hx)

end Parts

section

variable [Depth]

/-! ## What is written -/

section Written

variable {d : Definition} {r : Request} {remote : String} {listed : List Definition} {start pages xs ws : List Exchange}
  {o : End String}

/-- A definition is written first, and then nothing but activated; or the write is refused beforehand. -/
def WritesFirst (r : Request) (xs : List Exchange) (o : End String) : Prop :=
  (xs = [] ∧ ∃ e, send r = failed e ∧ o = .failure e)
    ∨ ∃ reply rest, xs = ⟨r, reply⟩ :: rest ∧ ∀ x ∈ rest, ∃ remote, x.request = activation remote

theorem Writes.first (h : Writes r xs o) : WritesFirst r xs o := by
  cases h with
  | refused hrefused => exact Or.inl ⟨rfl, _, hrefused, rfl⟩
  | @failed reply _ _ => exact Or.inr ⟨reply, [], rfl, List.forall_mem_nil _⟩
  | @written reply remote ys _ _ _ hend =>
      refine Or.inr ⟨reply, ys, rfl, ?_⟩
      cases hend with
      | refused _ => exact List.forall_mem_nil _
      | sent _ => exact List.forall_mem_singleton.mpr ⟨remote, rfl⟩

/-- What returns an id has written with success, and then activated the workflow of that id. -/
theorem Writes.returned {id : String} (h : Writes r xs (.value id)) :
    id ≠ "" ∧ ∃ reply reply', xs = [⟨r, reply⟩, ⟨activation id, reply'⟩] ∧ Exchange.succeeded ⟨r, reply⟩ = true
      ∧ Exchange.succeeded ⟨activation id, reply'⟩ = true := by
  cases h with
  | failed ho => exact absurd rfl (ho id)
  | @written reply remote ys _ hwritten hremote hend =>
      cases hend with
      | refused ho => exact absurd rfl (ho id)
      | @sent reply' _ ho =>
          obtain ⟨rfl, hactivated⟩ := ho id rfl
          exact ⟨hremote, reply, reply', rfl, hwritten, hactivated⟩

/-- What is true of the write and of every activation is true of all that is sent. -/
theorem Writes.forall {P : Exchange → Prop} (h : Writes r xs o) (hr : ∀ reply, P ⟨r, reply⟩)
    (hactivation : ∀ x, (∃ remote, x.request = activation remote) → P x) : ∀ x ∈ xs, P x := by
  rcases h.first with ⟨rfl, -⟩ | ⟨reply, rest, rfl, hrest⟩
  · exact List.forall_mem_nil _
  · exact List.forall_mem_cons.mpr ⟨hr reply, fun x hx => hactivation x (hrest x hx)⟩

omit [Depth] in
theorem isListing_activation {x : Exchange} (h : ∃ remote, x.request = activation remote) :
    x.request.isListing = false := by
  obtain ⟨remote, hx⟩ := h
  rw [hx]
  rfl

omit [Depth] in
theorem isCreation_activation {x : Exchange} (h : ∃ remote, x.request = activation remote) :
    x.request.isCreation = false := by
  obtain ⟨remote, hx⟩ := h
  rw [hx]
  rfl

/-- What is written after a listing asks for no page. -/
theorem WritesListed.apart (h : WritesListed d listed ws o) : ∀ x ∈ ws, x.request.isListing = false := by
  cases h with
  | created _ h => exact h.forall (fun _ => rfl) fun _ => isListing_activation
  | updated _ h => exact h.forall (fun _ => rfl) fun _ => isListing_activation
  | ambiguous _ => exact List.forall_mem_nil _

omit [Depth] in
theorem creations_of_none (h : ∀ x ∈ xs, x.request.isCreation = false) :
    (xs.filter fun x => x.request.isCreation).length ≤ 1 := by
  rw [List.filter_eq_nil_iff.mpr fun x hx => by simp [h x hx]]
  exact Nat.zero_le 1

/-- After a listing no more than one workflow is made, and only where none has the name. -/
theorem WritesListed.creations (h : WritesListed d listed ws o) :
    (ws.filter fun x => x.request.isCreation).length ≤ 1
      ∧ ∀ x ∈ ws, x.request.isCreation = true → namedIds d.name listed = [] := by
  have hnone : (∀ x ∈ ws, x.request.isCreation = false) → (ws.filter fun x => x.request.isCreation).length ≤ 1
      ∧ ∀ x ∈ ws, x.request.isCreation = true → namedIds d.name listed = [] := fun hall =>
    ⟨creations_of_none hall, fun x hx hcreation => absurd hcreation (by simp [hall x hx])⟩
  cases h with
  | created hnamed h =>
      refine ⟨?_, fun _ _ _ => hnamed⟩
      rcases h.first with ⟨rfl, -⟩ | ⟨reply, rest, rfl, hrest⟩
      · exact Nat.zero_le 1
      · rw [List.filter_cons_of_pos rfl,
          List.filter_eq_nil_iff.mpr fun x hx => by simp [isCreation_activation (hrest x hx)]]
        exact Nat.le_refl 1
  | updated _ h => exact hnone (h.forall (fun _ => rfl) fun _ => isCreation_activation)
  | ambiguous _ => exact hnone (List.forall_mem_nil _)

/-- What returns an id after a listing has written the definition with success, and then activated the workflow. -/
theorem WritesListed.returned {id : String} (h : WritesListed d listed ws (.value id)) :
    id ≠ "" ∧ ∃ x reply, ws = [x, ⟨activation id, reply⟩] ∧ x.wrote = true
      ∧ (x.request = making d ∨ ∃ remote, x.request = writeTo d remote)
      ∧ Exchange.succeeded ⟨activation id, reply⟩ = true := by
  cases h with
  | created _ h =>
      obtain ⟨hid, reply, reply', hws, hwritten, hactivated⟩ := h.returned
      exact ⟨hid, _, reply', hws, hwritten, Or.inl rfl, hactivated⟩
  | @updated existing _ _ _ h =>
      obtain ⟨hid, reply, reply', hws, hwritten, hactivated⟩ := h.returned
      exact ⟨hid, _, reply', hws, hwritten, Or.inr ⟨existing, rfl⟩, hactivated⟩

end Written

/-! ## Safety -/

/-- **What a deployment of a definition may write, and when.** -/
structure WritesSafely (d : Definition) (xs : List Exchange) (o : End String) : Prop where
  /-- At most one workflow is made. -/
  creations : (xs.filter fun x => x.request.isCreation).length ≤ 1
  /-- A workflow is made only after a complete listing in which none has the name. -/
  creation : ∀ before x after, xs = before ++ x :: after → x.request.isCreation = true →
    ∃ items listed, Lists .workflows none (pagesOf before) items ∧ readEach Definition.read items = .ok listed
      ∧ namedIds d.name listed = []
  /-- An entry of a complete listing that is no workflow is the end. -/
  unreadable : ∀ items e, Lists .workflows none (pagesOf xs) items → readEach Definition.read items = .error e →
    o = .failure e ∧ afterListing xs = []
  /-- Several workflows of the name are the end. -/
  ambiguous : ∀ items listed, Lists .workflows none (pagesOf xs) items → readEach Definition.read items = .ok listed →
    2 ≤ (namedIds d.name listed).length →
    o = .failure (.ambiguousDeployment d.name (namedIds d.name listed)) ∧ afterListing xs = []
  /-- The one workflow of the name is what is written to. -/
  unique : ∀ items listed id, Lists .workflows none (pagesOf xs) items → readEach Definition.read items = .ok listed →
    namedIds d.name listed = [id] → WritesFirst (writeTo d id) (afterListing xs) o
  /-- Where none has the name, one is made. -/
  absent : ∀ items listed, Lists .workflows none (pagesOf xs) items → readEach Definition.read items = .ok listed →
    namedIds d.name listed = [] → WritesFirst (making d) (afterListing xs) o
  /-- The workflow whose id is returned was activated last, after one successful write, which was of the definition. -/
  returned : ∀ id, o = .value id → id ≠ "" ∧ ∃ before x reply, xs = before ++ [⟨activation id, reply⟩]
    ∧ before.filter Exchange.wrote = [x] ∧ (x.request = making d ∨ ∃ remote, x.request = writeTo d remote)
    ∧ Exchange.succeeded ⟨activation id, reply⟩ = true

section Safety

variable {d : Definition} {start pages xs : List Exchange} {o : End String}

omit [Depth] in
/-- A request that comes after others of another kind in a run comes after them in its part of the run. -/
theorem exists_of_append_eq {p : Exchange → Bool} {ys zs before after : List Exchange} {x : Exchange}
    (hys : ∀ y ∈ ys, p y = false) (hx : p x = true) (h : ys ++ zs = before ++ x :: after) :
    ∃ more, before = ys ++ more ∧ zs = more ++ x :: after := by
  rcases append_eq_cases h with hafter | ⟨more, hmore⟩
  · exact hafter
  · exact absurd hx (by simp [hys x (hmore ▸ by simp)])

omit [Depth] in
theorem Unregistered.forall {P : Exchange → Prop} (h : Unregistered d start)
    (hwrite : ∀ x, (∃ remote, x.request = writeTo d remote) → x.succeeded = false → P x) : ∀ x ∈ start, P x := by
  rcases h with rfl | ⟨remote, reply, rfl, hfailed⟩
  · exact List.forall_mem_nil _
  · exact List.forall_mem_singleton.mpr (hwrite _ ⟨remote, rfl⟩ hfailed)

omit [Depth] in
theorem Unregistered.apart (h : Unregistered d start) : ∀ x ∈ start, x.request.isListing = false := by
  refine h.forall fun x hx _ => ?_
  obtain ⟨remote, hx⟩ := hx
  rw [hx]
  rfl

omit [Depth] in
theorem method_of_isListing {x : Exchange} (h : x.request.isListing = true) : x.request.method = .get := by
  simp only [Request.isListing, Bool.and_eq_true, decide_eq_true_eq] at h
  exact h.1

omit [Depth] in
/-- Before the end of a listing no workflow is made, and nothing is written with success. -/
theorem Unregistered.then_pages (h : Unregistered d start) (hpages : ∀ x ∈ pages, x.request.isListing = true) :
    (∀ x ∈ start ++ pages, x.request.isCreation = false) ∧ ∀ x ∈ start ++ pages, x.wrote = false := by
  constructor
  · refine List.forall_mem_append.mpr ⟨h.forall fun x hx _ => ?_, fun x hx => ?_⟩
    · obtain ⟨remote, hx⟩ := hx
      rw [hx]
      rfl
    · simp [Request.isCreation, method_of_isListing (hpages x hx)]
  · refine List.forall_mem_append.mpr ⟨h.forall fun x _ hfailed => ?_, fun x hx => ?_⟩
    · rw [Exchange.wrote, hfailed, Bool.and_false]
    · simp [Exchange.wrote, method_of_isListing (hpages x hx)]

theorem WritesSafely.of_registered {remote : String} (h : Writes (writeTo d remote) xs o) : WritesSafely d xs o := by
  have hapart : ∀ x ∈ xs, x.request.isListing = false := h.forall (fun _ => rfl) fun _ => isListing_activation
  have hcreation : ∀ x ∈ xs, x.request.isCreation = false := h.forall (fun _ => rfl) fun _ => isCreation_activation
  have hunlisted : ∀ items, ¬ Lists .workflows none (pagesOf xs) items := fun items hlists =>
    hlists.ne_nil (pagesOf_of_apart hapart)
  constructor
  case creations => exact creations_of_none hcreation
  case creation =>
    rintro before x after rfl hx
    exact absurd hx (by simp [hcreation x (by simp)])
  case unreadable => exact fun items e hlists => absurd hlists (hunlisted items)
  case ambiguous => exact fun items listed hlists => absurd hlists (hunlisted items)
  case unique => exact fun items listed id hlists => absurd hlists (hunlisted items)
  case absent => exact fun items listed hlists => absurd hlists (hunlisted items)
  case returned =>
    rintro id rfl
    obtain ⟨hid, reply, reply', rfl, hwritten, hactivated⟩ := h.returned
    exact ⟨hid, [⟨writeTo d remote, reply⟩], _, reply', rfl, List.filter_cons_of_pos hwritten, Or.inr ⟨remote, rfl⟩,
      hactivated⟩

theorem WritesSafely.of_unlisted (hstart : Unregistered d start) (hpages : ∀ x ∈ pages, x.request.isListing = true)
    (ho : o.Fruitless) (hitems : ∀ items, Lists .workflows none pages items →
      ∃ e, readEach Definition.read items = .error e ∧ o = .failure e) : WritesSafely d (start ++ pages) o := by
  obtain ⟨hcreation, -⟩ := hstart.then_pages hpages
  have hlisting : pagesOf (start ++ pages) = pages := by
    have hparts := pagesOf_parts hstart.apart hpages (List.forall_mem_nil _)
    rwa [List.append_nil] at hparts
  constructor
  case creations => exact creations_of_none hcreation
  case creation =>
    intro before x after heq hx
    exact absurd hx (by simp [hcreation x (heq ▸ by simp)])
  case unreadable =>
    intro items e hlists hread
    rw [hlisting] at hlists
    obtain ⟨e', hread', rfl⟩ := hitems items hlists
    cases hread.symm.trans hread'
    have hafter := afterListing_parts hstart.apart hpages hlists.ne_nil (List.forall_mem_nil _)
    rw [List.append_nil] at hafter
    exact ⟨rfl, hafter⟩
  case ambiguous =>
    intro items listed hlists hread
    obtain ⟨e, hread', -⟩ := hitems items (hlisting ▸ hlists)
    cases hread.symm.trans hread'
  case unique =>
    intro items listed id hlists hread
    obtain ⟨e, hread', -⟩ := hitems items (hlisting ▸ hlists)
    cases hread.symm.trans hread'
  case absent =>
    intro items listed hlists hread
    obtain ⟨e, hread', -⟩ := hitems items (hlisting ▸ hlists)
    cases hread.symm.trans hread'
  case returned => exact fun id hid => absurd hid (ho id)

theorem WritesSafely.of_listed {items : List Json} {listed : List Definition} (hstart : Unregistered d start)
    (hpages : ∀ x ∈ pages, x.request.isListing = true) (hlists : Lists .workflows none pages items)
    (hread : readEach Definition.read items = .ok listed) (h : WritesListed d listed xs o) :
    WritesSafely d (start ++ (pages ++ xs)) o := by
  obtain ⟨hcreation, hwrote⟩ := hstart.then_pages hpages
  have hafter : afterListing (start ++ (pages ++ xs)) = xs :=
    afterListing_parts hstart.apart hpages hlists.ne_nil h.apart
  -- the listing of the whole is the one that was read
  have hlisted : ∀ {items'}, Lists .workflows none (pagesOf (start ++ (pages ++ xs))) items' → items' = items := by
    intro items' hlists'
    rw [pagesOf_parts hstart.apart hpages h.apart] at hlists'
    exact hlists'.unique hlists
  constructor
  case creations =>
    rw [← List.append_assoc, List.filter_append, List.filter_eq_nil_iff.mpr fun x hx => by simp [hcreation x hx]]
    exact h.creations.1
  case creation =>
    intro before x after heq hx
    rw [← List.append_assoc] at heq
    obtain ⟨more, rfl, hxs⟩ := exists_of_append_eq hcreation hx heq
    refine ⟨items, listed, ?_, hread, h.creations.2 x (hxs ▸ by simp) hx⟩
    rw [List.append_assoc, pagesOf_parts hstart.apart hpages fun y hy => h.apart y (hxs ▸ by simp [hy])]
    exact hlists
  case unreadable =>
    intro items' e hlists' hread'
    cases hlisted hlists'
    cases hread.symm.trans hread'
  case ambiguous =>
    intro items' listed' hlists' hread' hnamed
    cases hlisted hlists'
    cases hread.symm.trans hread'
    cases h with
    | created hnone _ => simp [hnone] at hnamed
    | updated hone _ => simp [hone] at hnamed
    | ambiguous _ => exact ⟨rfl, hafter⟩
  case unique =>
    intro items' listed' id hlists' hread' hnamed
    cases hlisted hlists'
    cases hread.symm.trans hread'
    rw [hafter]
    cases h with
    | created hnone _ => simp [hnone] at hnamed
    | updated hone h =>
        cases hone.symm.trans hnamed
        exact h.first
    | ambiguous htwo => simp [hnamed] at htwo
  case absent =>
    intro items' listed' hlists' hread' hnamed
    cases hlisted hlists'
    cases hread.symm.trans hread'
    rw [hafter]
    cases h with
    | created _ h => exact h.first
    | updated hone _ => simp [hnamed] at hone
    | ambiguous htwo => simp [hnamed] at htwo
  case returned =>
    rintro id rfl
    obtain ⟨hid, x, reply, rfl, hx, hrequest, hactivated⟩ := h.returned
    refine ⟨hid, start ++ (pages ++ [x]), x, reply, by simp, ?_, hrequest, hactivated⟩
    rw [← List.append_assoc, List.filter_append, List.filter_eq_nil_iff.mpr fun y hy => by simp [hwrote y hy],
      List.nil_append, List.filter_cons_of_pos hx]
    rfl

/-- Every course of a deployment is safe. -/
theorem Deploys.safely (h : Deploys d xs o) : WritesSafely d xs o := by
  cases h with
  | registered h => exact .of_registered h
  | unlisted hstart hpages ho hitems => exact .of_unlisted hstart hpages ho hitems
  | listed hstart hpages hlists hread h => exact .of_listed hstart hpages hlists hread h

end Safety

/-- **Write safety of a deployment**, beside any engine, cache and files: what the cache knows is returned without a
    request; a chain that does not compile is the end before the first one; otherwise the compiled definition is written
    safely. -/
theorem ensureDeployed_writes_safely {σ : Type} (h : Handler σ) (ctx : DeployContext) (c : Chain) (org : Option String)
    (s : σ) :
    match nonEmpty (h (.lookUp c.id) s).1 with
    | some remote => exchanges h (ensureDeployed ctx c org) s = []
        ∧ ((ensureDeployed ctx c org).run h s).1 = .value remote
    | none => (∃ e, compileChain (settingFor ctx.rewrites org c) c = .error e
          ∧ exchanges h (ensureDeployed ctx c org) s = [] ∧ ((ensureDeployed ctx c org).run h s).1 = .failure e)
        ∨ ∃ d, CompilesTo ctx c org d
          ∧ WritesSafely d (exchanges h (ensureDeployed ctx c org) s) ((ensureDeployed ctx c org).run h s).1 := by
  -- the cache is asked first, and that is no request
  have hcourse : Course (afterLookUp ctx c org (h (.lookUp c.id) s).1) (exchanges h (ensureDeployed ctx c org) s)
      ((ensureDeployed ctx c org).run h s).1 := by
    rw [ensureDeployed_eq]
    exact course_run h (afterLookUp ctx c org (h (.lookUp c.id) s).1) (h (.lookUp c.id) s).2
  generalize exchanges h (ensureDeployed ctx c org) s = xs at hcourse ⊢
  generalize ((ensureDeployed ctx c org).run h s).1 = o at hcourse ⊢
  unfold afterLookUp at hcourse
  cases hcached : nonEmpty (h (.lookUp c.id) s).1 with
  | some remote =>
      rw [hcached] at hcourse
      cases hcourse
      exact ⟨rfl, rfl⟩
  | none =>
      rw [hcached] at hcourse
      dsimp only at hcourse ⊢
      replace hcourse := course_reportAll hcourse
      cases hcompiled : compileChain (settingFor ctx.rewrites org c) c with
      | error e =>
          rw [hcompiled] at hcourse
          cases hcourse
          exact Or.inl ⟨e, rfl, rfl, rfl⟩
      | ok d =>
          rw [hcompiled] at hcourse
          exact Or.inr ⟨d, hcompiled, (course_deployDefinition hcourse).safely⟩

end

/-- An answer to a listing that tells of two workflows of one name, and of an entry that is no workflow. -/
def mixedPage : Reply := .answer 200 (.json (.obj [("data", .arr [
  .obj [("id", .str "1"), ("name", .str "Chain")], .obj [("id", .str "2"), ("name", .str "Chain")],
  .obj [("nodes", .bool true)]])]))

/-- An engine that gives this answer, beside a process that knows nothing. -/
def mixedRehearsal : Rehearsal := { Site.empty.near with replies := [mixedPage] }

/-- Every entry of a listing is read before names are compared, so several workflows of the name do not come to light
    beside an entry that is no workflow. -/
theorem unreadable_entry_before_ambiguity :
    (∃ d items, CompilesTo .plain (emptyChain "chain" "Chain") none d
        ∧ Lists .workflows none (pagesOf (exchanges Rehearsal.answer
            (ensureDeployed .plain (emptyChain "chain" "Chain") none) mixedRehearsal)) items
        ∧ namedIds d.name (items.filterMap fun v => (Definition.read v).toOption) = ["1", "2"])
      ∧ ∀ name ids, ((ensureDeployed .plain (emptyChain "chain" "Chain") none).run Rehearsal.answer mixedRehearsal).1
        ≠ .failure (.ambiguousDeployment name ids) := by
  constructor
  · have hexchanges : exchanges Rehearsal.answer (ensureDeployed .plain (emptyChain "chain" "Chain") none)
        mixedRehearsal = [⟨pageRequest .workflows none, mixedPage⟩] := rfl
    obtain ⟨d, hcompiled⟩ : ∃ d, CompilesTo .plain (emptyChain "chain" "Chain") none d := ⟨_, rfl⟩
    rw [hexchanges]
    refine ⟨d, _, hcompiled, Lists.last rfl rfl, ?_⟩
    rw [compilesTo_name hcompiled]
    decide +kernel
  · intro name ids hend
    have hfailure : ((ensureDeployed .plain (emptyChain "chain" "Chain") none).run Rehearsal.answer mixedRehearsal).1
        = .failure (.schema _) := rfl
    cases hfailure.symm.trans hend

end PromptGraph
