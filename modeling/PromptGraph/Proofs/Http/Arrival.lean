import PromptGraph.Http.Address

/-!
# `Proofs.Http.Arrival` — where a request for a credential arrives

An id stands in an address as it was told, so what arrives need not be that id: a number sign cuts it off, a question
mark begins a query, a slash adds a segment, and an escape is resolved. A server reads the id from the path on the wire.

## Contents
- `Base.arrival?`: the id that a server reads; `isAddressText_of_arrival`.
- `IsAddressable`: ids that arrive as they are.
-/

namespace PromptGraph.Http

/-- The id of the credential at which a request for an id arrives: the one segment that the path on the wire has after
    that of the listing, without escapes. -/
def Base.arrival? (base : Base) (id : String) : Option String := do
  let listing ← base.address? ⟨.get, .credentials, none, none⟩
  let own ← base.address? ⟨.get, .credential id, none, none⟩
  let segment ← (listing.path.toList ++ ['/']).isPrefixOf? own.path.toList
  if segment.contains '/' then none else some (Text.ofUtf8Lossy (decodedBytes 0 segment))

/-- A credential of the id may be asked for: the request arrives at that id. -/
def IsAddressable (base : Base) (id : String) : Prop := base.arrival? id = some id

instance (base : Base) (id : String) : Decidable (IsAddressable base id) := inferInstanceAs (Decidable (_ = _))

theorem isAddressable_of_address {base : Base} {r : Request} {a : Address} (h : base.address? r = some a) :
    r.isAddressable = true := by
  cases haddressable : r.isAddressable with
  | true => rfl
  | false => simp [Base.address?, haddressable] at h

/-- What arrives may stand in an address. -/
theorem isAddressText_of_arrival {base : Base} {id found : String} (h : base.arrival? id = some found) :
    isAddressText (Endpoint.credential id).fullPath.toList = true := by
  obtain ⟨listing, -, h⟩ := Option.bind_eq_some_iff.mp h
  obtain ⟨own, hown, -⟩ := Option.bind_eq_some_iff.mp h
  have haddressable := isAddressable_of_address hown
  exact haddressable

/-- A server at the root of its host. -/
def Base.plain : Base := ⟨"http".toList, [], "n8n.test".toList, none, ['/'], none, []⟩

/-- A number sign is not sent, an escape is resolved, and a slash leads elsewhere. -/
example : Base.plain.arrival? "5" = some "5" ∧ Base.plain.arrival? "5#" = some "5"
    ∧ Base.plain.arrival? "%35" = some "5" ∧ Base.plain.arrival? "5/6" = none ∧ Base.plain.arrival? ".." = none := by
  decide +kernel

end PromptGraph.Http
