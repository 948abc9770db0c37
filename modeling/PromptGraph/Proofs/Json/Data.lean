import Mathlib.Data.List.Induction
import Mathlib.Data.List.TakeWhile
import PromptGraph.Proofs.Checked
import PromptGraph.Proofs.Json.Members
import PromptGraph.Proofs.Json.Numbers

/-!
# `Proofs.Json.Data` — what is read of a data text

Whatever a data text is, the value that is read of it has integers of at most so many digits as are read, and objects
whose members have distinct names.

## Contents
- **Data.** `IsData`: values whose numbers are of a kind and whose objects have distinct names; `isData_arr`,
  `isData_obj`.
- **Members.** `isData_get?`, `isData_insert`, `isData_ofPairs`.
- **Numbers.** `IsRead`; `isRead_of_scanNumber`.
- **Texts.** `ReadsData`, and `readsData` by induction on the steps of the reader; `isData_readWithin` and `nodup_read`.
-/

namespace PromptGraph.Json

/-! ## Data -/

mutual

/-- The numbers of a value are of a kind, and the members of each object have distinct names. -/
def IsData (P : Number → Prop) : Json → Prop
  | .num n => P n
  | .arr xs => AreData P xs
  | .obj ms => (ms.map Prod.fst).Nodup ∧ AreDataMembers P ms
  | _ => True

def AreData (P : Number → Prop) : List Json → Prop
  | [] => True
  | x :: rest => IsData P x ∧ AreData P rest

def AreDataMembers (P : Number → Prop) : List (String × Json) → Prop
  | [] => True
  | (_, v) :: rest => IsData P v ∧ AreDataMembers P rest

end

variable {P : Number → Prop}

theorem isData_arr {xs : List Json} : IsData P (.arr xs) ↔ ∀ x ∈ xs, IsData P x := by
  rw [IsData]
  induction xs with
  | nil => exact ⟨fun _ => List.forall_mem_nil _, fun _ => trivial⟩
  | cons x xs ih => rw [AreData, ih, List.forall_mem_cons]

theorem isData_obj {ms : Members} :
    IsData P (.obj ms) ↔ (ms.map Prod.fst).Nodup ∧ ∀ m ∈ ms, IsData P m.2 := by
  have hmembers : AreDataMembers P ms ↔ ∀ m ∈ ms, IsData P m.2 := by
    induction ms with
    | nil => exact ⟨fun _ => List.forall_mem_nil _, fun _ => trivial⟩
    | cons m ms ih =>
        obtain ⟨k, v⟩ := m
        rw [AreDataMembers, ih, List.forall_mem_cons]
  rw [IsData, hmembers]

/-! ## Members -/

theorem mem_of_get? {name : String} {v : Json} {ms : Members} (h : Members.get? name ms = some v) :
    (name, v) ∈ ms := by
  induction ms with
  | nil => cases h
  | cons m ms ih =>
      obtain ⟨k, w⟩ := m
      rw [Members.get?_cons] at h
      split at h
      next hk =>
        cases h
        exact hk ▸ List.mem_cons_self
      next => exact List.mem_cons_of_mem _ (ih h)

theorem isData_get? {name : String} {v w : Json} (hv : IsData P v) (h : v.get? name = some w) : IsData P w := by
  cases v with
  | obj ms => exact (isData_obj.mp hv).2 _ (mem_of_get? h)
  | _ => cases h

theorem isData_insert {name : String} {v : Json} {ms : Members} (hms : ∀ m ∈ ms, IsData P m.2) (hv : IsData P v) :
    ∀ m ∈ ms.insert name v, IsData P m.2 := by
  induction ms with
  | nil => exact List.forall_mem_singleton.mpr hv
  | cons m ms ih =>
      obtain ⟨k, w⟩ := m
      obtain ⟨hfirst, hmore⟩ := List.forall_mem_cons.mp hms
      rw [Members.insert]
      split
      · exact List.forall_mem_cons.mpr ⟨hv, hmore⟩
      · exact List.forall_mem_cons.mpr ⟨hfirst, ih hmore⟩

theorem isData_ofPairs {ps : List (String × Json)} (h : ∀ p ∈ ps, IsData P p.2) :
    IsData P (.obj (Members.ofPairs ps)) := by
  refine isData_obj.mpr ⟨Members.nodup_ofPairs ps, ?_⟩
  have hfold : ∀ ms : Members, (∀ m ∈ ms, IsData P m.2) →
      ∀ m ∈ ps.foldl (fun ms p => ms.insert p.1 p.2) ms, IsData P m.2 := by
    induction ps with
    | nil => exact fun ms hms => hms
    | cons p ps ih =>
        obtain ⟨hfirst, hmore⟩ := List.forall_mem_cons.mp h
        exact fun ms hms => ih hmore _ (isData_insert hms hfirst)
  exact hfold [] (List.forall_mem_nil _)

/-! ## Numbers -/

/-- A number as it is read: an integer has at most so many digits as are read. -/
def IsRead : Number → Prop
  | .int n => n.natAbs < 10 ^ integerDigitLimit
  | .float _ => True

theorem asciiNat_lt {cs : List Char} (h : Digits cs) : asciiNat cs < 10 ^ cs.length := by
  induction cs using List.reverseRecOn with
  | nil => exact Nat.one_pos
  | append_singleton cs c ih =>
      obtain ⟨hcs, hc⟩ := digits_append.mp h
      have hdigit : c.toNat - 48 < 10 := by
        have hc := hc c List.mem_cons_self
        rw [isAsciiDigit, Bool.and_eq_true, decide_eq_true_eq, decide_eq_true_eq] at hc
        have hle : c.toNat ≤ '9'.toNat := hc.2
        have hnine : '9'.toNat = 57 := rfl
        omega
      have hlt := ih hcs
      rw [asciiNat, List.foldl_append, List.length_append, List.length_singleton, pow_succ]
      show 10 * asciiNat cs + (c.toNat - 48) < _
      omega

theorem natAbs_signed (negative : Bool) (n : Nat) : (if negative then -(n : Int) else n).natAbs = n := by
  cases negative
  · exact Int.natAbs_natCast n
  · exact (Int.natAbs_neg n).trans (Int.natAbs_natCast n)

theorem isRead_of_scanNumber {negative : Bool} {cs rest : List Char} {n : Number}
    (h : scanNumber negative cs = some (.ok (n, rest))) : IsRead n := by
  rw [scanNumber_eq] at h
  split at h
  · cases h
  · dsimp only [afterWhole] at h
    split at h
    · split at h
      · cases h
      next hlimit =>
        cases h
        have hlt := asciiNat_lt (digits_wholeDigits cs)
        have hle : 10 ^ (wholeDigits cs).length ≤ 10 ^ integerDigitLimit := Nat.pow_le_pow_right (by decide) (by omega)
        show (if negative then -(asciiNat (wholeDigits cs) : Int) else asciiNat (wholeDigits cs)).natAbs < _
        rw [natAbs_signed]
        exact hlt.trans_le hle
    · cases h
      trivial

theorem isData_of_scanAtom {cs after : List Char} {v : Json} (h : scanAtom cs = .ok (v, after)) : IsData IsRead v := by
  unfold scanAtom at h
  dsimp only at h
  split at h
  case h_7 | h_8 =>
    split at h
    next => cases h
    next => cases h
    next hscan =>
      cases h
      exact isRead_of_scanNumber hscan
  -- a word
  all_goals
    cases h
    trivial

/-! ## Texts -/

/-- What is read within some steps is data. -/
structure ReadsData (size fuel : Nat) : Prop where
  value : ∀ {room cs v after}, readValue size room fuel cs = .ok (v, after) → IsData IsRead v
  items : ∀ {room cs xs after}, readItems size room fuel cs = .ok (xs, after) → ∀ x ∈ xs, IsData IsRead x
  members : ∀ {room cs ms after}, readMembers size room fuel cs = .ok (ms, after) → ∀ m ∈ ms, IsData IsRead m.2

section Reads

variable {size fuel room : Nat} {cs after : List Char}

theorem ReadsData.value_succ (ih : ReadsData size fuel) {v : Json}
    (h : readValue size room (fuel + 1) cs = .ok (v, after)) : IsData IsRead v := by
  unfold readValue at h
  split at h
  · cases h
  · obtain ⟨_, _, h⟩ := bind_eq_ok.mp h
    cases h
    trivial
  · cases h
  next heq =>
    cases heq
    split at h
    · cases h
      exact isData_obj.mpr ⟨List.nodup_nil, List.forall_mem_nil _⟩
    · obtain ⟨_, hread, h⟩ := bind_eq_ok.mp h
      cases h
      exact isData_ofPairs (ih.members hread)
  · cases h
  next heq =>
    cases heq
    split at h
    · cases h
      exact isData_arr.mpr (List.forall_mem_nil _)
    · obtain ⟨_, hread, h⟩ := bind_eq_ok.mp h
      cases h
      exact isData_arr.mpr (ih.items hread)
  · exact isData_of_scanAtom h

theorem ReadsData.items_succ (ih : ReadsData size fuel) {xs : List Json}
    (h : readItems size room (fuel + 1) cs = .ok (xs, after)) : ∀ x ∈ xs, IsData IsRead x := by
  rw [readItems] at h
  obtain ⟨_, hx, h⟩ := bind_eq_ok.mp h
  dsimp only at h
  split at h
  · cases h
    exact List.forall_mem_singleton.mpr (ih.value hx)
  · obtain ⟨_, hmore, h⟩ := bind_eq_ok.mp h
    cases h
    exact List.forall_mem_cons.mpr ⟨ih.value hx, ih.items hmore⟩
  · cases h

theorem ReadsData.members_succ (ih : ReadsData size fuel) {ms : Members}
    (h : readMembers size room (fuel + 1) cs = .ok (ms, after)) : ∀ m ∈ ms, IsData IsRead m.2 := by
  unfold readMembers at h
  split at h
  · cases h
  next heq =>
    cases heq
    obtain ⟨_, _, h⟩ := bind_eq_ok.mp h
    dsimp only at h
    split at h
    · obtain ⟨_, hv, h⟩ := bind_eq_ok.mp h
      split at h
      · cases h
        exact List.forall_mem_singleton.mpr (ih.value hv)
      · obtain ⟨_, hmore, h⟩ := bind_eq_ok.mp h
        cases h
        exact List.forall_mem_cons.mpr ⟨ih.value hv, ih.members hmore⟩
      · cases h
    · cases h
  · cases h

end Reads

/-- **What is read is data**, by induction on the steps of the reader. -/
theorem readsData (size fuel : Nat) : ReadsData size fuel := by
  induction fuel with
  | zero =>
      constructor
      case value =>
        intro room cs v after h
        rw [readValue] at h
        cases h
      case items =>
        intro room cs xs after h
        rw [readItems] at h
        cases h
      case members =>
        intro room cs ms after h
        rw [readMembers] at h
        cases h
  | succ fuel ih => exact ⟨ih.value_succ, ih.items_succ, ih.members_succ⟩

/-- A text that is read as a whole is a value after blanks. -/
theorem readAll_eq_ok {levels : Nat} {text : List Char} {v : Json} (h : readAll levels text = .ok v) :
    ∃ after, readValue (text.length + 1) levels (2 * (text.length + 1)) (skipBlanks text) = .ok (v, after) := by
  unfold readAll at h
  split at h
  · cases h
  · obtain ⟨⟨w, after⟩, hvalue, hrest⟩ := bind_eq_ok.mp h
    dsimp only at hrest
    split at hrest
    · cases hrest
      exact ⟨after, hvalue⟩
    · cases hrest

/-- **A value that is read of a text has integers of so many digits as are read, and distinct names.** -/
theorem isData_readWithin {levels : Nat} {text : String} {v : Json} (h : readWithin levels text = .ok v) :
    IsData IsRead v := by
  unfold readWithin at h
  dsimp only at h
  split at h
  next hread =>
    cases h
    obtain ⟨after, hvalue⟩ := readAll_eq_ok hread
    exact (readsData _ _).value hvalue
  · cases h
  · cases h
  · cases h

theorem isData_read [Depth] {text : String} {v : Json} (h : read text = .ok v) : IsData IsRead v := isData_readWithin h

/-- **The members of an object that is read have distinct names.** -/
theorem nodup_read [Depth] {text : String} {ms : Members} (h : read text = .ok (.obj ms)) : (ms.map Prod.fst).Nodup :=
  (isData_obj.mp (isData_read h)).1

end PromptGraph.Json
