import PromptGraph.Credential.Service
import PromptGraph.Proofs.Text.Delimiters

/-!
# `Proofs.Credential.Names` — when two credentials have one name

The name of a credential joins an organization and a service with an underscore, and either of them may have underscores
of its own. The services with credentials have none, so among those a name tells both parts; another word for a service
may spell the end of another organization.

## Contents
- `name_without_underscore`: the name of a service has no delimiter.
- `credentialName_eq_iff`, and `credentialName_service_iff` for two services.
-/

namespace PromptGraph

theorem name_without_underscore (t : Service) : '_' ∉ t.name.toList := by
  cases t <;> decide

theorem credentialName_of_ne (service : String) {org : String} (h : org ≠ "") :
    credentialName service (some org) = "org_" ++ org ++ "_" ++ service := if_neg h

variable {a b : String}

/-- **Two credentials have one name when organization and service are the same, or when the service of the first spells
    the end of the organization of the second.** -/
theorem credentialName_eq_iff (ha : a ≠ "") (hb : b ≠ "") {s t : String} (ht : '_' ∉ t.toList) :
    credentialName s (some a) = credentialName t (some b)
      ↔ (a = b ∧ s = t) ∨ ∃ u, s = u ++ "_" ++ t ∧ b = a ++ "_" ++ u := by
  have hlists : credentialName s (some a) = credentialName t (some b)
      ↔ a.toList ++ '_' :: s.toList = b.toList ++ '_' :: t.toList := by
    rw [credentialName_of_ne s ha, credentialName_of_ne t hb, ← String.toList_inj]
    simp
  rw [hlists, append_cons_eq_iff ht]
  refine or_congr (and_congr String.toList_inj String.toList_inj) ?_
  have hline : "_".toList = ['_'] := rfl
  simp only [and_comm, exists_joined_iff hline hline]

/-- **Of two services with credentials the name tells the organization and the service.** -/
theorem credentialName_service_iff (ha : a ≠ "") (hb : b ≠ "") {s t : Service} :
    credentialName s.name (some a) = credentialName t.name (some b) ↔ a = b ∧ s.name = t.name := by
  rw [credentialName_eq_iff ha hb (name_without_underscore t)]
  refine or_iff_left ?_
  rintro ⟨u, hs, -⟩
  refine name_without_underscore s ?_
  rw [hs]
  simp

end PromptGraph
