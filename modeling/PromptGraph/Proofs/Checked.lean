import Mathlib.Data.List.Forall2
import PromptGraph.Failure
import PromptGraph.Schema.Field

/-!
# `Proofs.Checked` — what a successful reading consists of

A record is read field by field, and a result is computed step by step. Each lemma here takes a success apart: into
the successes of the parts, and the value they make together. Some say the same of a check that breaks off: which part
it broke off in.

## Contents
- **Results.** `bind_eq_ok`, `bind_eq_error`.
- **Checked values.** `map_eq_ok`, `seq_eq_ok`, `andThen_eq_ok`, `under_eq_ok`, `toExcept_eq_ok`, `toExcept_error`.
- **Checks that break off.** `map_eq_broken`, `seq_eq_broken`, `andThen_eq_broken`, `under_eq_broken`, and the same of
  fields and lists; `toExcept_eq_nesting`.
- **Fields.** `record_eq_ok`, `text_eq_ok`, `required_eq_ok`; `withDefault_of_some`, `withDefault_of_none` and
  `withDefault_cases`.
- **Lists.** `itemsFrom_eq_ok` by induction on the items, `list_eq_ok`; `list_map` and `entries_map`, what is read of
  items that were written one by one.
-/

namespace PromptGraph

variable {α β : Type}

/-! ## Results -/

theorem bind_eq_ok {ε : Type} {x : Except ε α} {f : α → Except ε β} {b : β} :
    (x >>= f) = .ok b ↔ ∃ a, x = .ok a ∧ f a = .ok b := by
  cases x with
  | ok a =>
      constructor
      · intro h
        exact ⟨a, rfl, h⟩
      · rintro ⟨a', ha, hf⟩
        cases ha
        exact hf
  | error e =>
      constructor
      · intro h
        cases h
      · rintro ⟨a', ha, -⟩
        cases ha

theorem bind_eq_error {ε : Type} {x : Except ε α} {f : α → Except ε β} {e : ε} :
    (x >>= f) = .error e ↔ x = .error e ∨ ∃ a, x = .ok a ∧ f a = .error e := by
  cases x with
  | ok a =>
      constructor
      · intro h
        exact Or.inr ⟨a, rfl, h⟩
      · rintro (hx | ⟨a', ha, hf⟩)
        · cases hx
        · cases ha
          exact hf
  | error e' =>
      constructor
      · intro h
        exact Or.inl (congrArg Except.error (Except.error.inj h))
      · rintro (hx | ⟨a', ha, -⟩)
        · cases hx
          rfl
        · cases ha

namespace Checked

/-! ## Checked values -/

theorem map_eq_ok {f : α → β} {x : Checked α} {b : β} :
    (f <$> x) = .ok b ↔ ∃ a, x = .ok a ∧ f a = b := by
  show Checked.map f x = .ok b ↔ _
  cases x with
  | ok a =>
      constructor
      · intro h
        exact ⟨a, rfl, Checked.ok.inj h⟩
      · rintro ⟨a', ha, rfl⟩
        cases ha
        rfl
  | _ =>
      constructor
      · intro h
        cases h
      · rintro ⟨a', ha, -⟩
        cases ha

theorem seq_eq_ok {f : Checked (α → β)} {x : Checked α} {b : β} :
    (f <*> x) = .ok b ↔ ∃ g a, f = .ok g ∧ x = .ok a ∧ g a = b := by
  show Checked.apply f x = .ok b ↔ _
  cases f with
  | ok g =>
      cases x with
      | ok a =>
          constructor
          · intro h
            exact ⟨g, a, rfl, rfl, Checked.ok.inj h⟩
          · rintro ⟨g', a', hg, ha, rfl⟩
            cases hg
            cases ha
            rfl
      | _ =>
          constructor
          · intro h
            cases h
          · rintro ⟨g', a', -, ha, -⟩
            cases ha
  | _ =>
      constructor
      · intro h
        cases x <;> cases h
      · rintro ⟨g', a', hg, -, -⟩
        cases hg

theorem andThen_eq_ok {x : Checked α} {f : α → Checked β} {b : β} :
    x.andThen f = .ok b ↔ ∃ a, x = .ok a ∧ f a = .ok b := by
  cases x with
  | ok a =>
      constructor
      · intro h
        exact ⟨a, rfl, h⟩
      · rintro ⟨a', ha, hf⟩
        cases ha
        exact hf
  | _ =>
      constructor
      · intro h
        cases h
      · rintro ⟨a', ha, -⟩
        cases ha

theorem under_eq_ok {step : PathStep} {x : Checked α} {a : α} : x.under step = .ok a ↔ x = .ok a := by
  cases x with
  | ok b => exact Iff.rfl
  | _ => constructor <;> (intro h; cases h)

theorem toExcept_eq_ok {title : String} {x : Checked α} {a : α} : x.toExcept title = .ok a ↔ x = .ok a := by
  cases x with
  | ok b => constructor <;> (intro h; cases h; rfl)
  | _ => constructor <;> (intro h; cases h)

/-- A value that is no record of the title fails for its shape, unless its check breaks off. -/
theorem toExcept_error {title : String} {x : Checked α} {f : Failure} (h : x.toExcept title = .error f) :
    (∃ fault, f = .schema fault) ∨ x = .broken ∧ f = .kind .nesting := by
  cases x with
  | ok b => cases h
  | bad is =>
      cases h
      exact .inl ⟨_, rfl⟩
  | broken =>
      cases h
      exact .inr ⟨rfl, rfl⟩

/-! ## Checks that break off -/

@[simp] theorem fail_ne_ok (kind : IssueKind) (a : α) : (fail kind : Checked α) ≠ .ok a := nofun

@[simp] theorem fail_ne_broken (kind : IssueKind) : (fail kind : Checked α) ≠ .broken := nofun

@[simp] theorem map_eq_broken {f : α → β} {x : Checked α} : (f <$> x) = .broken ↔ x = .broken := by
  show Checked.map f x = .broken ↔ _
  cases x <;> simp [Checked.map]

/-- A record breaks off with one of its parts, whatever issues the other parts have. -/
@[simp] theorem seq_eq_broken {f : Checked (α → β)} {x : Checked α} :
    (f <*> x) = .broken ↔ f = .broken ∨ x = .broken := by
  show Checked.apply f x = .broken ↔ _
  cases f <;> cases x <;> simp [Checked.apply]

@[simp] theorem andThen_eq_broken {x : Checked α} {f : α → Checked β} :
    x.andThen f = .broken ↔ x = .broken ∨ ∃ a, x = .ok a ∧ f a = .broken := by
  cases x <;> simp [Checked.andThen]

@[simp] theorem under_eq_broken {step : PathStep} {x : Checked α} : x.under step = .broken ↔ x = .broken := by
  cases x <;> simp [Checked.under]

/-- A check that comes to an end fails only for the shape of its value. -/
theorem toExcept_error_of_ne {title : String} {x : Checked α} {f : Failure} (hx : x ≠ .broken)
    (h : x.toExcept title = .error f) : ∃ fault, f = .schema fault :=
  (toExcept_error h).resolve_right fun hbroken => hx hbroken.1

theorem toExcept_eq_nesting {title : String} {x : Checked α} :
    x.toExcept title = .error (.kind .nesting) ↔ x = .broken := by
  cases x <;> simp [Checked.toExcept]

end Checked

namespace Schema

/-! ## Fields -/

theorem record_eq_ok {v : Json} {ms : Members} : record v = .ok ms ↔ v = .obj ms := by
  cases v with
  | obj members => constructor <;> (intro h; cases h; rfl)
  | _ => constructor <;> (intro h; cases h)

theorem text_eq_ok {v : Json} {s : String} : text v = .ok s ↔ v = .str s := by
  cases v with
  | str t => constructor <;> (intro h; cases h; rfl)
  | _ => constructor <;> (intro h; cases h)

theorem required_eq_ok {ms : Members} {name : String} {read : Json → Checked α} {a : α} :
    required ms name read = .ok a ↔ ∃ v, Members.get? name ms = some v ∧ read v = .ok a := by
  unfold required
  cases Members.get? name ms with
  | none =>
      constructor
      · intro h
        cases h
      · rintro ⟨v, hv, -⟩
        cases hv
  | some v =>
      rw [Checked.under_eq_ok]
      constructor
      · intro h
        exact ⟨v, rfl, h⟩
      · rintro ⟨v', hv', h⟩
        cases hv'
        exact h

theorem withDefault_of_some {ms : Members} {name : String} {read : Json → Checked α} {default : α} {v : Json}
    (hv : Members.get? name ms = some v) {a : α} :
    withDefault ms name read default = .ok a ↔ read v = .ok a := by
  unfold withDefault
  rw [hv]
  exact Checked.under_eq_ok

theorem withDefault_of_none {ms : Members} {name : String} {read : Json → Checked α} {default : α}
    (hv : Members.get? name ms = none) : withDefault ms name read default = .ok default := by
  unfold withDefault
  rw [hv]

/-- A field that may be absent has its default, or was read. -/
theorem withDefault_cases {ms : Members} {name : String} {read : Json → Checked α} {default a : α}
    (h : withDefault ms name read default = .ok a) : a = default ∨ ∃ v, read v = .ok a := by
  cases hv : Members.get? name ms with
  | none =>
      rw [withDefault_of_none hv] at h
      exact .inl (Checked.ok.inj h).symm
  | some v => exact .inr ⟨v, (withDefault_of_some hv).mp h⟩

@[simp] theorem text_ne_broken (v : Json) : text v ≠ .broken := by
  cases v <;> nofun

@[simp] theorem record_ne_broken (v : Json) : record v ≠ .broken := by
  cases v <;> nofun

@[simp] theorem mapping_ne_broken (v : Json) : mapping v ≠ .broken := by
  cases v <;> nofun

@[simp] theorem identifier_ne_broken (v : Json) : identifier v ≠ .broken := by
  unfold identifier
  split
  · split <;> nofun
  · exact text_ne_broken _

@[simp] theorem wholeFloat_ne_broken (x : Double) : wholeFloat x ≠ .broken := by
  unfold wholeFloat
  repeat' split
  all_goals nofun

@[simp] theorem integer_ne_broken (v : Json) : integer v ≠ .broken := by
  unfold integer
  repeat' split
  all_goals first | exact wholeFloat_ne_broken _ | nofun

@[simp] theorem float_ne_broken (v : Json) : float v ≠ .broken := by
  unfold float
  repeat' split
  all_goals nofun

@[simp] theorem within_ne_broken (low high x : Double) : within low high x ≠ .broken := by
  unfold within
  repeat' split
  all_goals nofun

@[simp] theorem positive_ne_broken (n : Int) : positive n ≠ .broken := by
  unfold positive
  split <;> nofun

@[simp] theorem required_eq_broken {ms : Members} {name : String} {read : Json → Checked α} :
    required ms name read = .broken ↔ ∃ v, Members.get? name ms = some v ∧ read v = .broken := by
  unfold required
  cases Members.get? name ms <;> simp

@[simp] theorem withDefault_eq_broken {ms : Members} {name : String} {read : Json → Checked α} {default : α} :
    withDefault ms name read default = .broken ↔ ∃ v, Members.get? name ms = some v ∧ read v = .broken := by
  unfold withDefault
  cases Members.get? name ms <;> simp

theorem optional_ne_broken {read : Json → Checked α} (h : ∀ v, read v ≠ .broken) (v : Json) :
    Schema.optional read v ≠ .broken := by
  unfold Schema.optional
  split
  · nofun
  · exact mt Checked.map_eq_broken.mp (h _)

theorem nullable_ne_broken {ms : Members} {name : String} {read : Json → Checked α} (h : ∀ v, read v ≠ .broken) :
    nullable ms name read ≠ .broken := by
  unfold nullable
  simp [optional_ne_broken h]

/-! ## Lists -/

/-- A list breaks off with one of its items. -/
@[simp] theorem list_eq_broken {read : Json → Checked α} {v : Json} :
    list read v = .broken ↔ ∃ xs, v = .arr xs ∧ ∃ x ∈ xs, read x = .broken := by
  have hitems : ∀ (i : Nat) (xs : List Json), itemsFrom read i xs = .broken ↔ ∃ x ∈ xs, read x = .broken := by
    intro i xs
    induction xs generalizing i with
    | nil => simp [itemsFrom]
    | cons x rest ih => simp [itemsFrom, ih]
  cases v <;> simp [list, hitems]

/-- A list is read item by item, in order. -/
theorem itemsFrom_eq_ok {read : Json → Checked α} {i : Nat} {xs : List Json} {as : List α} :
    itemsFrom read i xs = .ok as ↔ List.Forall₂ (fun x a => read x = .ok a) xs as := by
  induction xs generalizing i as with
  | nil =>
      simp only [itemsFrom, List.forall₂_nil_left_iff]
      constructor
      · intro h
        exact (Checked.ok.inj h).symm
      · intro h
        rw [h]
  | cons x rest ih =>
      simp only [itemsFrom, Checked.seq_eq_ok, Checked.map_eq_ok, Checked.under_eq_ok]
      constructor
      · rintro ⟨cons, more, ⟨a, ha, rfl⟩, hmore, rfl⟩
        exact .cons ha (ih.mp hmore)
      · intro h
        obtain ⟨a, more, ha, hmore, rfl⟩ := List.forall₂_cons_left_iff.mp h
        exact ⟨List.cons a, more, ⟨a, ha, rfl⟩, ih.mpr hmore, rfl⟩

theorem list_eq_ok {read : Json → Checked α} {v : Json} {as : List α} :
    list read v = .ok as ↔ ∃ xs, v = .arr xs ∧ List.Forall₂ (fun x a => read x = .ok a) xs as := by
  cases v with
  | arr xs =>
      constructor
      · intro h
        exact ⟨xs, rfl, itemsFrom_eq_ok.mp h⟩
      · rintro ⟨xs', hxs, h⟩
        cases hxs
        exact itemsFrom_eq_ok.mpr h
  | _ =>
      constructor
      · intro h
        cases h
      · rintro ⟨xs, hxs, -⟩
        cases hxs

/-- Items that are written one by one are read one by one. -/
theorem list_map {γ : Type} {read : Json → Checked β} {write : γ → Json} {f : γ → β} {as : List γ}
    (h : ∀ a ∈ as, read (write a) = .ok (f a)) : list read (.arr (as.map write)) = .ok (as.map f) := by
  refine list_eq_ok.mpr ⟨_, rfl, ?_⟩
  rw [List.forall₂_map_left_iff, List.forall₂_map_right_iff]
  exact List.forall₂_same.mpr h

/-- Members that are written one by one are read one by one, under their names. -/
theorem entries_map {read : Json → Checked α} (write : α → Json) {es : List (String × α)}
    (h : ∀ e ∈ es, read (write e.2) = .ok e.2) : entries read (.obj (es.map fun e => (e.1, write e.2))) = .ok es := by
  show memberValues read (es.map fun e => (e.1, write e.2)) = _
  induction es with
  | nil => rfl
  | cons e es ih =>
      obtain ⟨hfirst, hmore⟩ := List.forall_mem_cons.mp h
      rw [List.map_cons, memberValues, hfirst, ih hmore]
      rfl

end Schema

end PromptGraph
