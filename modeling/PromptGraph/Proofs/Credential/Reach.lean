import PromptGraph.Proofs.Credential.Names
import PromptGraph.Proofs.Credential.Writes
import PromptGraph.Proofs.Http.Arrival

/-!
# `Proofs.Credential.Reach` — whose credentials are within reach

What is changed or deleted was found under the own name, and the name of a known service is that of no credential of
another organization. A deletion is asked for by any word for a service, and some of them spell the credential of
another organization. Beside that, a credential of another name is reached only where an engine confuses ids: where the
request for what was found arrives at an id that is listed under the other name.

## Contents
- **Reach.** `ReachesCredential`, on the wire; `ConfusesIds`, and `WritesFound.reaches`.
- **Single attempts.** `course_once`: a listing and a write, of which `delete_reaches` and `store_reaches` are made.
- **Organizations.** `credential_writes_reach_iff`.
-/

namespace PromptGraph

open Act Engine Http

section

variable [Depth]

-- what a request asks for is known; to unfold its checks takes long
attribute [local irreducible] send

/-! ## Reach -/

/-- A credential of a name is changed or deleted: the write after a listing arrives at an id that is listed under the
    name. -/
def ReachesCredential (base : Base) (name : String) (xs : List Exchange) (listed : List Credential) : Prop :=
  ∃ start pages x after id found, xs = (start ++ pages) ++ x :: after ∧ ListsCredentials pages listed
    ∧ x.request.credentialWrite? = some id ∧ base.arrival? id = some found
    ∧ ∃ c ∈ listed, c.id = some found ∧ c.name = name

/-- Ids are confused: a request for what is listed under one name arrives at an id that is listed under another. -/
def ConfusesIds (base : Base) (own other : String) (listed : List Credential) : Prop :=
  own ≠ other ∧ ∃ id found, (∃ c ∈ listed, c.id = some id ∧ c.name = own) ∧ base.arrival? id = some found
    ∧ ∃ c ∈ listed, c.id = some found ∧ c.name = other

variable {base : Base} {name other : String} {xs : List Exchange} {listed : List Credential}

omit [Depth] in
theorem found_of_findId {id : String} (h : Propagator.findId name listed = some id) :
    ∃ c ∈ listed, c.id = some id ∧ c.name = name := by
  obtain ⟨c, hc, hid⟩ := List.exists_of_findSome?_eq_some h
  split at hid
  · rename_i hname
    exact ⟨c, hc, (Option.filter_eq_some_iff.mp hid).1, hname⟩
  · cases hid

/-- **What was found under one name is a credential of another only where ids are confused.** -/
theorem WritesFound.reaches (h : WritesFound name xs) (hname : name ≠ other)
    (hreaches : ReachesCredential base other xs listed) : ConfusesIds base name other listed := by
  obtain ⟨start, pages, x, after, id, found, rfl, ⟨items, hlists, hread⟩, hwrite, harrives, hother⟩ := hreaches
  obtain ⟨start', pages', listed', heq, ⟨items', hlists', hread'⟩, hfound⟩ := h _ x after id rfl hwrite
  -- the listing in which the id was found is the one that tells of the other name
  cases hlists.suffix_unique hlists' heq
  cases hlists.unique hlists'
  cases hread.symm.trans hread'
  exact ⟨hname, id, found, found_of_findId hfound, harrives, hother⟩

/-! ## Single attempts -/

/-- A propagator for every service that makes one attempt, and lists one page. -/
def singleAttempt : Propagator := ⟨1, Propagator.servicesOf [], .zero false, 1⟩

/-- What a listing tells of a credential of a name. -/
def toldCredential (name : String) : Json := .obj [("id", .str "1"), ("name", .str name), ("type", .str "key")]

/-- A page that tells of credentials of some names, all under one id. -/
def namesPage (names : List String) : Exchange :=
  ⟨pageRequest .credentials none, .answer 200 (.json (.obj [("data", .arr (names.map toldCredential))]))⟩

def namedCredential (name : String) : Credential := ⟨some "1", name, "key", []⟩

omit [Depth] in
theorem readEach_toldCredential (names : List String) :
    readEach Credential.read (names.map toldCredential) = .ok (names.map namedCredential) := by
  induction names with
  | nil => rfl
  | cons name rest ih =>
      rw [List.map_cons, readEach, ih]
      rfl

theorem lists_namesPage (names : List String) :
    ListsCredentials [namesPage names] (names.map namedCredential) :=
  ⟨_, .last rfl rfl, readEach_toldCredential names⟩

theorem course_namesPage (names : List String) :
    Course (listCredentials singleAttempt.pageBudget) [namesPage names] (.value (names.map namedCredential)) := by
  have hread : Course (ofExcept (readPage (.obj [("data", .arr (names.map toldCredential))]))
      >>= afterPage .credentials 0) [] (.value (names.map toldCredential)) := .done _
  have hpages : Course (listPages 1 .credentials) [namesPage names] (.value (names.map toldCredential)) := by
    rw [listPages, listFrom_succ]
    exact course_of_bind (course_of_send (by decide) rfl rfl) hread
  have hended : Course (ofExcept (readEach Credential.read (names.map toldCredential))) []
      (.value (names.map namedCredential)) := by
    rw [readEach_toldCredential]
    exact .done _
  exact course_of_bind hpages hended

/-- A piece of work that looks for the first credential of the page, and sends one request for it. -/
theorem course_once {work : Option String → Act Unit} {name : String} {rest : List String} {r : Request} {reply : Reply}
    {v : Json} {f : Json → Act Unit} (hwork : work (some "1") = send r >>= f) (haddress : r.isAddressable = true)
    (hfault : bodyFault? r = none) (hvalue : replyValue r reply = .ok v) (hended : Course (f v) [] (.value ())) :
    Course (listCredentials singleAttempt.pageBudget >>= fun listed => work (Propagator.findId name listed))
      [namesPage (name :: rest), ⟨r, reply⟩] (.value ()) := by
  have hfound : Propagator.findId name ((name :: rest).map namedCredential) = some "1" := by
    simp [Propagator.findId, Propagator.findId.nonEmptyId, namedCredential]
  refine course_of_bind (course_namesPage (name :: rest)) ?_
  rw [hfound, hwork]
  exact course_of_bind (course_of_send haddress hfault hvalue) hended

/-- A write to what a page tells of reaches every name on the page. -/
theorem reaches_namesPage {names : List String} {x : Exchange} (hother : other ∈ names)
    (hwrite : x.request.credentialWrite? = some "1") :
    ReachesCredential Base.plain other [namesPage names, x] (names.map namedCredential) :=
  ⟨[], [namesPage names], x, [], "1", "1", rfl, lists_namesPage names, hwrite, by decide +kernel, namedCredential other,
    List.mem_map_of_mem hother, rfl, rfl⟩

/-- A deletion reaches the credential of its own name, whosever that is. -/
theorem delete_reaches (a s : String) : ∃ p xs o, Course (Propagator.delete p a s) xs o
    ∧ ReachesCredential Base.plain (credentialName s (some a)) xs [namedCredential (credentialName s (some a))] := by
  have honce : Course (singleAttempt.deleteOnce (credentialName s (some a)))
      [namesPage [credentialName s (some a)], ⟨⟨.delete, .credential "1", none, none⟩, .answer 204 (.text "")⟩]
      (.value ()) := by
    rw [deleteOnce_eq]
    have haddress : isAddressText (Endpoint.credential "1").fullPath.toList = true := by decide
    exact course_once (v := .null) (f := fun _ => pure ()) rfl haddress rfl rfl (.done ())
  have hcourse : Course (singleAttempt.delete a s) _ _ := course_of_bind (course_of_attempt honce) (.done true)
  exact ⟨_, _, _, hcourse, reaches_namesPage (List.mem_singleton_self _) rfl⟩

/-- A store for a service reaches any credential that is listed under the same id as its own. -/
theorem store_reaches (a secret other : String) (t : Service) :
    ∃ p xs o, Course (Propagator.store p a t.name secret) xs o
      ∧ ReachesCredential Base.plain other xs ([credentialName t.name (some a), other].map namedCredential) := by
  let c : Credential := ⟨none, credentialName t.name (some a), t.credentialType, credentialData t.name secret⟩
  have hstore : singleAttempt.store a t.name secret
      = singleAttempt.guarded a t.name "store" (singleAttempt.storeOnce c) := by
    cases t <;> rfl
  have honce : Course (singleAttempt.storeOnce c)
      [namesPage [c.name, other], ⟨⟨.patch, .credential "1", none, some c.payload⟩,
        .answer 200 (.json (toldCredential c.name))⟩] (.value ()) := by
    rw [storeOnce_eq]
    have haddress : isAddressText (Endpoint.credential "1").fullPath.toList = true := by decide
    exact course_once (v := toldCredential c.name) (f := fun v => answeredCredential c v >>= fun _ => pure ())
      (updateCredential_bind "1" c _) haddress rfl rfl (.done ())
  have hcourse : Course (singleAttempt.guarded a t.name "store" (singleAttempt.storeOnce c)) _ _ :=
    course_of_bind (course_of_attempt honce) (.done true)
  rw [← hstore] at hcourse
  exact ⟨_, _, _, hcourse, reaches_namesPage (List.mem_cons_of_mem _ (List.mem_singleton_self other)) rfl⟩

/-! ## Organizations -/

variable {a b s : String} {t : Service}

/-- **Credentials of another organization are within reach only where ids are confused, or by a deletion whose word for
    a service spells the end of the other organization and the service.** Whatever the engine lists and answers, what is
    changed or deleted was found under the own name in the listing just before. Ids may be confused at every store for a
    known service: an engine lists what it will, and a server is asked for what an address makes of an id. -/
theorem credential_writes_reach_iff (ha : a ≠ "") (hb : b ≠ "") (hab : a ≠ b) :
    (∀ p base secret xs o, Course (Propagator.store p a s secret) xs o → WritesFound (credentialName s (some a)) xs
        ∧ ∀ listed, ReachesCredential base (credentialName t.name (some b)) xs listed →
          ConfusesIds base (credentialName s (some a)) (credentialName t.name (some b)) listed)
      ∧ (∀ p xs o, Course (Propagator.delete p a s) xs o → WritesFound (credentialName s (some a)) xs)
      ∧ ((∃ p base xs o listed, Course (Propagator.delete p a s) xs o
          ∧ ReachesCredential base (credentialName t.name (some b)) xs listed
          ∧ ¬ ConfusesIds base (credentialName s (some a)) (credentialName t.name (some b)) listed)
        ↔ ∃ u, s = u ++ "_" ++ t.name ∧ b = a ++ "_" ++ u)
      ∧ ((∃ p base secret xs o listed, Course (Propagator.store p a s secret) xs o
          ∧ ReachesCredential base (credentialName t.name (some b)) xs listed)
        ↔ ∃ t' : Service, t'.name = s) := by
  refine ⟨fun p base secret xs o hcourse => ?_, fun p xs o hcourse => along_delete p a s xs o hcourse, ⟨?_, ?_⟩,
    ?_, ?_⟩
  · -- a store is made for a known service, whose name has no underscore to spell an organization with
    obtain ⟨hfound, rfl | ⟨t', rfl⟩⟩ := course_store hcourse
    · refine ⟨hfound, fun listed => ?_⟩
      rintro ⟨start, pages, x, after, id, found, heq, -⟩
      exact absurd heq (by simp)
    · refine ⟨hfound, fun listed => hfound.reaches fun hname => hab ?_⟩
      exact ((credentialName_service_iff ha hb).mp hname).1
  · rintro ⟨p, base, xs, o, listed, hcourse, hreaches, hapart⟩
    have hname : credentialName s (some a) = credentialName t.name (some b) :=
      Classical.byContradiction fun hne => hapart ((along_delete p a s xs o hcourse).reaches hne hreaches)
    rcases (credentialName_eq_iff ha hb (name_without_underscore t)).mp hname with ⟨heq, -⟩ | hspelled
    · exact absurd heq hab
    · exact hspelled
  · -- under the same name a listing of that one credential is enough
    intro hspelled
    have hname := (credentialName_eq_iff ha hb (name_without_underscore t)).mpr (Or.inr hspelled)
    obtain ⟨p, xs, o, hcourse, hreaches⟩ := delete_reaches a s
    rw [← hname]
    exact ⟨p, _, xs, o, _, hcourse, hreaches, fun hconfuses => hconfuses.1 rfl⟩
  · rintro ⟨p, base, secret, xs, o, listed, hcourse, start, pages, x, after, id, found, rfl, -⟩
    rcases (course_store hcourse).2 with hnone | hservice
    · exact absurd hnone (by simp)
    · exact hservice
  · rintro ⟨t', rfl⟩
    obtain ⟨p, xs, o, hcourse, hreaches⟩ := store_reaches a "secret" (credentialName t.name (some b)) t'
    exact ⟨p, _, _, xs, o, _, hcourse, hreaches⟩

end

theorem credential_writes_reach_iff_acme : "acme" ≠ "" ∧ "acme_eu" ≠ "" ∧ "acme" ≠ "acme_eu"
    ∧ ((∃ p base xs o listed, Course (Propagator.delete p "acme" "openai") xs o
        ∧ ReachesCredential base (credentialName Service.openai.name (some "acme_eu")) xs listed
        ∧ ¬ ConfusesIds base (credentialName "openai" (some "acme"))
          (credentialName Service.openai.name (some "acme_eu")) listed)
      ↔ ∃ u, "openai" = u ++ "_" ++ Service.openai.name ∧ "acme_eu" = "acme" ++ "_" ++ u) :=
  ⟨by decide, by decide, by decide,
    (credential_writes_reach_iff (by decide) (by decide) (by decide)).2.2.1⟩

/-- One organization deletes what another has for a known service. -/
theorem delete_reaches_other_organization : "acme" ≠ "" ∧ "acme_eu" ≠ "" ∧ "acme" ≠ "acme_eu"
    ∧ ∃ p xs o, Course (Propagator.delete p "acme" "eu_openai") xs o
      ∧ ReachesCredential Base.plain (credentialName Service.openai.name (some "acme_eu")) xs
        [namedCredential (credentialName Service.openai.name (some "acme_eu"))] := by
  have hname : credentialName "eu_openai" (some "acme") = credentialName Service.openai.name (some "acme_eu") := by
    decide
  rw [← hname]
  exact ⟨by decide, by decide, by decide, delete_reaches "acme" "eu_openai"⟩

end PromptGraph
