import PromptGraph.Proofs.Chain.Reading
import PromptGraph.Proofs.Json.Data

/-!
# `Proofs.Chain.Prompts` — what is read of a prompt

A temperature that is read is between two finite bounds. A number of tokens may have any number of digits. Where the row
is a data text, so are the entries of its graph, which stand in the text of the row or in one that the row holds, and an
integer in them has no more digits than are read.

## Contents
- **Entries.** `isData_rowMembers`, `isData_storedGraph`; `isData_storedNodes`.
- **Numbers.** `isFinite_of_within`, `isRead_of_integer`.
- **Prompts.** `exists_of_nullable`, `exists_promptBody`; `isFinite_of_readPromptBody`, `isRead_of_readNodeAs`.
- **Chains.** `exists_storedNode`.
-/

namespace PromptGraph

open Json Schema

variable {P : Number → Prop}

/-! ## Entries -/

theorem isData_rowPair {i : Nat} {item : Json} {p : String × Json} (hitem : IsData P item)
    (h : rowPair i item = .ok (some p)) : IsData P p.2 := by
  unfold rowPair at h
  dsimp only at h
  split at h
  case h_4 => cases h
  case h_1 =>
    split at h
    next =>
      cases h
      exact isData_arr.mp hitem _ (by simp)
    all_goals cases h
  -- a key or a character is a text
  case h_2 | h_3 =>
    split at h
    next k v heq =>
      cases h
      have hmem : v ∈ [.str k, v] := by simp
      rw [← heq] at hmem
      obtain ⟨_, -, rfl⟩ := List.mem_map.mp hmem
      trivial
    all_goals cases h

theorem isData_rowPairs {i : Nat} {items : List Json} {ps : List (String × Json)} (hitems : ∀ x ∈ items, IsData P x)
    (h : rowPairs i items = .ok ps) : ∀ p ∈ ps, IsData P p.2 := by
  induction items generalizing i ps with
  | nil =>
      cases h
      exact List.forall_mem_nil _
  | cons item items ih =>
      obtain ⟨hitem, hmore⟩ := List.forall_mem_cons.mp hitems
      obtain ⟨pair, hpair, h⟩ := bind_eq_ok.mp h
      obtain ⟨rest, hrest, h⟩ := bind_eq_ok.mp h
      cases pair with
      | none =>
          cases h
          exact ih hmore hrest
      | some p =>
          cases h
          exact List.forall_mem_cons.mpr ⟨isData_rowPair hitem hpair, ih hmore hrest⟩

theorem isData_rowMembers {row : Json} {ms : Members} (hrow : IsData P row) (h : rowMembers row = .ok ms) :
    ∀ m ∈ ms, IsData P m.2 := by
  have hpairs {items : List Json} (hitems : ∀ x ∈ items, IsData P x)
      (h : Members.ofPairs <$> rowPairs 0 items = .ok ms) : ∀ m ∈ ms, IsData P m.2 := by
    cases hread : rowPairs 0 items with
    | error e =>
        rw [hread] at h
        cases h
    | ok ps =>
        rw [hread] at h
        cases h
        exact (isData_obj.mp (isData_ofPairs (isData_rowPairs hitems hread))).2
  cases row with
  | obj members =>
      cases h
      exact (isData_obj.mp hrow).2
  | arr items => exact hpairs (isData_arr.mp hrow) h
  | str s =>
      refine hpairs (fun x hx => ?_) h
      obtain ⟨c, -, rfl⟩ := List.mem_map.mp hx
      trivial
  | _ => cases h

/-- The graph of a row stands in the row, or in a text that the row holds. -/
theorem isData_storedGraph [Depth] {ms : Members} {config : Json} (hms : ∀ m ∈ ms, IsData IsRead m.2)
    (h : storedGraph ms = .ok config) : IsData IsRead config := by
  unfold storedGraph at h
  split at h
  · split at h
    · cases h
      exact isData_obj.mpr ⟨List.nodup_nil, List.forall_mem_nil _⟩
    · cases hread : Json.read _ with
      | error e =>
          rw [hread] at h
          cases h
      | ok v =>
          rw [hread] at h
          cases h
          exact isData_read hread
  next hget _ =>
    cases h
    exact hms _ (mem_of_get? ‹_›)
  · cases h
    trivial

theorem isData_storedNodes [Depth] {row : Json} (hrow : IsData IsRead row) :
    ∀ v ∈ storedNodes row, IsData IsRead v := by
  intro v hv
  unfold storedNodes at hv
  split at hv
  next config hconfig =>
    obtain ⟨ms, hms, hgraph⟩ := bind_eq_ok.mp hconfig
    have hdata := isData_storedGraph (isData_rowMembers hrow hms) hgraph
    cases hnodes : config.get? "nodes" with
    | none =>
        rw [hnodes] at hv
        cases hv
    | some nodes =>
        rw [hnodes] at hv
        have hlist := isData_get? hdata hnodes
        cases nodes with
        | arr xs => exact isData_arr.mp hlist v hv
        | _ => cases hv
  · cases hv

/-! ## Numbers -/

theorem isFinite_of_within {low high x y : Double} (hlow : low.isFinite = true) (hhigh : high.isFinite = true)
    (h : within low high x = .ok y) : y.isFinite = true := by
  unfold within at h
  split at h
  · cases h
  next hle =>
    split at h
    · cases h
    next hge =>
      cases h
      simp only [Bool.not_eq_true, Bool.not_eq_false'] at hle hge
      cases x with
      | finite s m e hc => rfl
      | nan => cases high <;> cases hle
      | infinite s =>
          -- infinite below is below the one bound, infinite above is above the other
          cases s with
          | true => cases low with
            | finite => cases hge
            | _ => cases hlow
          | false => cases high with
            | finite => cases hle
            | _ => cases hhigh

theorem natAbs_of_integerOfPlain {cs : List Char} {n : Int} (h : integerOfPlain? cs = some n) :
    n.natAbs < 10 ^ cs.length := by
  unfold integerOfPlain? at h
  split at h
  next negative digits hsign =>
    have hle : digits.length ≤ cs.length := by
      split at hsign
      · cases hsign
        exact Nat.le_succ _
      · cases hsign
        exact Nat.le_refl _
    obtain ⟨hdigits, hn⟩ := Option.ite_none_left_eq_some.mp h
    have hall : Digits digits := by
      simp only [not_or, Bool.not_eq_true, Bool.not_eq_false'] at hdigits
      exact List.all_eq_true.mp hdigits.2.2
    rw [← Option.some.inj hn, natAbs_signed]
    exact (asciiNat_lt hall).trans_le (Nat.pow_le_pow_right (by decide) hle)

/-- An integer that is read of a data text has no more digits than are read, in whatever form it was given. -/
theorem isRead_of_integer {v : Json} {n : Int} (hv : IsData IsRead v) (h : integer v = .ok n) : IsRead (.int n) := by
  have hword : 0x8000000000000000 ≤ 10 ^ integerDigitLimit :=
    (show 0x8000000000000000 ≤ 10 ^ 19 by decide).trans (Nat.pow_le_pow_right (by decide) (by decide))
  unfold integer at h
  split at h
  · cases h
    exact hv
  · unfold wholeFloat at h
    split at h
    · cases h
    · split at h
      · cases h
      · split at h
        next hlt =>
          cases h
          exact Nat.lt_of_lt_of_le hlt hword
        · cases h
  next b =>
    cases h
    have hone : 1 < 10 ^ integerDigitLimit := Nat.one_lt_pow (by decide) (by decide)
    cases b
    · exact (Nat.zero_lt_one).trans hone
    · exact hone
  · split at h
    · cases h
    · split at h
      · cases h
      next hlimit =>
        split at h
        · cases h
        next hplain =>
          cases h
          exact (natAbs_of_integerOfPlain hplain).trans_le (Nat.pow_le_pow_right (by decide) (Nat.le_of_not_lt hlimit))
  · cases h

/-! ## Prompts -/

theorem exists_of_nullable {α : Type} {ms : Members} {name : String} {read : Json → Checked α} {a : α}
    (h : nullable ms name read = .ok (some a)) : ∃ v, Members.get? name ms = some v ∧ read v = .ok a := by
  unfold nullable at h
  cases hget : Members.get? name ms with
  | none =>
      rw [withDefault_of_none hget] at h
      cases h
  | some v =>
      rw [withDefault_of_some hget] at h
      refine ⟨v, rfl, ?_⟩
      unfold Schema.optional at h
      split at h
      · cases h
      · obtain ⟨b, hb, heq⟩ := Checked.map_eq_ok.mp h
        exact hb.trans (congrArg Checked.ok (Option.some.inj heq))

section Prompts

variable {ms : Members} {b : PromptBody}

/-- What a prompt is read of, field by field. -/
theorem readPromptBody_parts (h : readPromptBody ms = .ok b) :
    nullable ms "temperature" readTemperature = .ok b.temperature
      ∧ nullable ms "maxTokens" readMaxTokens = .ok b.maxTokens := by
  obtain ⟨withTemperature, maxTokens, hmost, htokens, rfl⟩ := Checked.seq_eq_ok.mp h
  obtain ⟨withModel, temperature, htexts, htemperature, rfl⟩ := Checked.seq_eq_ok.mp hmost
  obtain ⟨withPrompt, model, hprompt, -, rfl⟩ := Checked.seq_eq_ok.mp htexts
  obtain ⟨withLabel, prompt, hlabel, -, rfl⟩ := Checked.seq_eq_ok.mp hprompt
  obtain ⟨label, -, rfl⟩ := Checked.map_eq_ok.mp hlabel
  exact ⟨htemperature, htokens⟩

/-- A temperature that is read is finite, as its bounds are. -/
theorem isFinite_of_readPromptBody (h : readPromptBody ms = .ok b) (t : Double) (ht : b.temperature = some t) :
    t.isFinite = true := by
  have htemperature := (readPromptBody_parts h).1
  rw [ht] at htemperature
  obtain ⟨v, -, hread⟩ := exists_of_nullable htemperature
  obtain ⟨x, -, hwithin⟩ := Checked.andThen_eq_ok.mp hread
  exact isFinite_of_within (by decide) (by decide) hwithin

/-- A number of tokens that is read of a data text has no more digits than are read. -/
theorem isRead_of_readPromptBody (hms : ∀ m ∈ ms, IsData IsRead m.2) (h : readPromptBody ms = .ok b) (k : Int)
    (hk : b.maxTokens = some k) : IsRead (.int k) := by
  have htokens := (readPromptBody_parts h).2
  rw [hk] at htokens
  obtain ⟨v, hget, hread⟩ := exists_of_nullable htokens
  obtain ⟨n, hinteger, hpositive⟩ := Checked.andThen_eq_ok.mp hread
  unfold positive at hpositive
  split at hpositive
  · cases hpositive
    exact isRead_of_integer (hms _ (mem_of_get? hget)) hinteger
  · cases hpositive

theorem readPromptBody_of_readBody {type : String} (h : readBody type ms = .ok (.prompt b)) :
    readPromptBody ms = .ok b := by
  unfold readBody at h
  split at h
  · obtain ⟨body, hread, heq⟩ := Checked.map_eq_ok.mp h
    cases heq
    exact hread
  all_goals
    obtain ⟨body, -, heq⟩ := Checked.map_eq_ok.mp h
    cases heq

/-- A prompt node is read of the data of its entry, or of none. -/
theorem exists_promptBody {type : String} {v : Json} {n : Node} (h : readNodeAs type v = .ok n)
    (hb : n.body = .prompt b) : ∃ ms, readPromptBody ms = .ok b ∧ (ms = [] ∨ v.get? "data" = some (.obj ms)) := by
  obtain ⟨members, hrecord, hparts⟩ := Checked.andThen_eq_ok.mp h
  obtain rfl := record_eq_ok.mp hrecord
  obtain ⟨withPosition, body, hposition, hbody, rfl⟩ := Checked.seq_eq_ok.mp hparts
  obtain ⟨withId, position, hid, -, rfl⟩ := Checked.seq_eq_ok.mp hposition
  obtain ⟨id, -, rfl⟩ := Checked.map_eq_ok.mp hid
  obtain rfl : body = .prompt b := hb
  cases hdata : Members.get? "data" members with
  | none =>
      rw [hdata] at hbody
      exact ⟨[], readPromptBody_of_readBody hbody, .inl rfl⟩
  | some data =>
      rw [hdata] at hbody
      obtain ⟨ms, hms, hread⟩ := Checked.andThen_eq_ok.mp (Checked.under_eq_ok.mp hbody)
      obtain rfl := record_eq_ok.mp hms
      exact ⟨ms, readPromptBody_of_readBody hread, .inr hdata⟩

/-- **A prompt that is read of a data text has a number of tokens with no more digits than are read.** -/
theorem isRead_of_readNodeAs {type : String} {v : Json} {n : Node} (hv : IsData IsRead v)
    (h : readNodeAs type v = .ok n) (hb : n.body = .prompt b) (k : Int) (hk : b.maxTokens = some k) :
    IsRead (.int k) := by
  obtain ⟨ms, hread, rfl | hdata⟩ := exists_promptBody h hb
  · exact isRead_of_readPromptBody (List.forall_mem_nil _) hread k hk
  · exact isRead_of_readPromptBody (isData_obj.mp (isData_get? hv hdata)).2 hread k hk

end Prompts

/-! ## Chains -/

/-- A node of a chain is read of an entry of its row, as one of the type of the entry. -/
theorem exists_storedNode [Depth] {row : Json} {c : Chain} (h : Chain.read row = .ok c) {n : Node}
    (hn : n ∈ c.graph.nodes) : ∃ v ∈ storedNodes row, ∃ type, readNodeAs type v = .ok n := by
  have hnodes := read_nodes h
  generalize storedNodes row = entries at hnodes ⊢
  generalize c.graph.nodes = nodes at hnodes hn
  induction hnodes with
  | nil => cases hn
  | @cons v _ _ _ hfirst _ ih =>
      rcases List.mem_cons.mp hn with rfl | hmem
      · exact ⟨v, List.mem_cons_self, _, Checked.under_eq_ok.mp hfirst⟩
      · obtain ⟨w, hw, hread⟩ := ih hmem
        exact ⟨w, List.mem_cons_of_mem v hw, hread⟩

end PromptGraph
