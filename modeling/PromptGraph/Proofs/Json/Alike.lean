import PromptGraph.Proofs.Json.Texts

/-!
# `Proofs.Json.Alike` — values that are alike but for their texts are told apart in writing

Two values are alike when they differ in nothing but the texts in them. What is written of a text ends with a quote that
nothing inside it can be taken for, so of two values that are alike the writings are the same only where the values are,
and none is the beginning of the other.

## Contents
- **Alike values.** `blank`: a value with empty texts in the place of its texts; `blankMembers_append`,
  `blankItems_eq_map`.
- **Beginnings.** `Parts`; `parts_escape` from the reading of a written text, `parts_intercalate` by induction along a
  list.
- **Values.** `parts_enclose`, `parts_memberLine`; `parts_writeAt` by induction on the value, and `write_injective`.
-/

namespace PromptGraph.Json

/-! ## Alike values -/

mutual

/-- A value with an empty text in the place of every text; the names of members stay. -/
def blank : Json → Json
  | .str _ => .str ""
  | .arr xs => .arr (blankItems xs)
  | .obj ms => .obj (blankMembers ms)
  | .null => .null
  | .bool b => .bool b
  | .num n => .num n

def blankItems : List Json → List Json
  | [] => []
  | x :: rest => blank x :: blankItems rest

def blankMembers : List (String × Json) → List (String × Json)
  | [] => []
  | (k, v) :: rest => (k, blank v) :: blankMembers rest

end

theorem blankMembers_append (ms ns : Members) : blankMembers (ms ++ ns) = blankMembers ms ++ blankMembers ns := by
  induction ms with
  | nil => rfl
  | cons m ms ih =>
      obtain ⟨k, v⟩ := m
      rw [List.cons_append, blankMembers, ih, blankMembers, List.cons_append]

theorem blankItems_eq_map (xs : List Json) : blankItems xs = xs.map blank := by
  induction xs with
  | nil => rfl
  | cons x xs ih => rw [blankItems, ih, List.map_cons]

/-! ## Beginnings -/

/-- Two things begin two texts alike only where they are the same. -/
def Parts {α : Type} (f : α → List Char) (a b : α) : Prop :=
  ∀ rest rest', f a ++ rest = f b ++ rest' → a = b ∧ rest = rest'

/-- A written text is the beginning of no other. -/
theorem parts_escape (ascii : Bool) (cs ds : List Char) : Parts (escape ascii) cs ds := by
  intro rest rest' heq
  have hinside : cs.flatMap (escapeChar ascii) ++ '"' :: rest = ds.flatMap (escapeChar ascii) ++ '"' :: rest' := by
    simpa [escape] using heq
  -- both are read in one way
  have hcs : scanText [] (cs.length + ds.length + 1) (cs.flatMap (escapeChar ascii) ++ '"' :: rest) = .ok (cs, rest) :=
    scanText_escape [] ascii (by omega) rest
  have hds : scanText [] (cs.length + ds.length + 1) (ds.flatMap (escapeChar ascii) ++ '"' :: rest') = .ok (ds, rest') :=
    scanText_escape [] ascii (by omega) rest'
  rw [hinside, hds] at hcs
  obtain ⟨hchars, hrest⟩ := Prod.mk.inj (Except.ok.inj hcs)
  exact ⟨hchars.symm, hrest.symm⟩

/-- What holds of the items of two lists holds of the items with something between them. -/
theorem parts_intercalate {α : Type} {f : α → List Char} {xs ys : List α} (sep : List Char)
    (h : List.Forall₂ (Parts f) xs ys) : ∀ rest rest',
      sep.intercalate (xs.map f) ++ rest = sep.intercalate (ys.map f) ++ rest' → xs = ys ∧ rest = rest' := by
  induction h with
  | nil => exact fun rest rest' heq => ⟨rfl, heq⟩
  | @cons x y xs ys hfirst hrest ih =>
      intro rest rest' heq
      cases hrest with
      | nil =>
          obtain ⟨rfl, hlast⟩ := hfirst rest rest' (by simpa using heq)
          exact ⟨rfl, hlast⟩
      | @cons x' y' xs ys _ _ =>
          simp only [List.map_cons, List.intercalate_cons_cons, List.append_assoc] at heq ih
          obtain ⟨rfl, hmore⟩ := hfirst _ _ heq
          obtain ⟨hlists, hlast⟩ := ih rest rest' (List.append_cancel_left hmore)
          rw [hlists]
          exact ⟨rfl, hlast⟩

/-! ## Values -/

/-- What holds of two lists of items holds of the items in brackets. -/
theorem parts_enclose {α : Type} (s : JsonStyle) (level : Nat) (opening closing : String) {f : α → String}
    {xs ys : List α} (h : List.Forall₂ (Parts fun x => (f x).toList) xs ys) : ∀ rest rest',
      (enclose s level opening closing (xs.map f)).toList ++ rest
          = (enclose s level opening closing (ys.map f)).toList ++ rest'
        → xs = ys ∧ rest = rest' := by
  intro rest rest' heq
  cases h with
  | nil => exact ⟨rfl, List.append_cancel_left heq⟩
  | @cons x y xs ys hfirst hmore =>
      have hparts := parts_intercalate (s.comma ++ lineBreak s (level + 1)).toList (List.Forall₂.cons hfirst hmore)
      -- what stands before the items is the same on both sides, and so is what stands after them
      simp only [enclose, List.map_cons, List.isEmpty_cons, Bool.false_eq_true, if_false, String.toList_append,
        String.toList_intercalate, List.append_assoc, List.append_cancel_left_eq] at heq
      obtain ⟨hitems, hlast⟩ := hparts _ _ (by simpa [List.map_map, Function.comp_def] using heq)
      exact ⟨hitems, by simpa using hlast⟩

theorem writeItems_eq_map (s : JsonStyle) (level : Nat) (xs : List Json) :
    writeItems s level xs = xs.map (writeAt s level) := by
  induction xs with
  | nil => rfl
  | cons x xs ih => rw [writeItems, ih, List.map_cons]

/-- A member on a line. -/
def memberLine (s : JsonStyle) (level : Nat) (m : String × Json) : String :=
  writeText s m.1 ++ s.colon ++ writeAt s level m.2

theorem arrange_writeMembers {s : JsonStyle} (hkept : s.sorted = false) (level : Nat) (ms : Members) :
    arrange s (writeMembers s level ms) = ms.map (memberLine s level) := by
  simp only [arrange, hkept, Bool.false_eq_true, if_false]
  induction ms with
  | nil => rfl
  | cons m ms ih =>
      obtain ⟨k, v⟩ := m
      rw [writeMembers, List.map_cons, ih, List.map_cons, memberLine]

/-- Members of one name are told apart by their values. -/
theorem parts_memberLine {s : JsonStyle} {level : Nat} (k : String) {v w : Json}
    (h : Parts (fun v => (writeAt s level v).toList) v w) :
    Parts (fun m => (memberLine s level m).toList) (k, v) (k, w) := by
  intro rest rest' heq
  simp only [memberLine, String.toList_append, List.append_assoc, List.append_cancel_left_eq] at heq
  obtain ⟨rfl, hrest⟩ := h rest rest' heq
  exact ⟨rfl, hrest⟩

mutual

/-- **Values that are alike but for their texts begin two texts alike only where they are the same**, where members keep
    their order. -/
theorem parts_writeAt {s : JsonStyle} (hkept : s.sorted = false) (level : Nat) :
    ∀ v w : Json, blank v = blank w → Parts (fun v => (writeAt s level v).toList) v w
  | .str t, w, h => by
      intro rest rest' heq
      cases w with
      | str u =>
          simp only [writeAt, writeText, String.toList_ofList] at heq
          obtain ⟨htexts, hrest⟩ := parts_escape s.ascii _ _ rest rest' heq
          exact ⟨congrArg Json.str (String.toList_inj.mp htexts), hrest⟩
      | _ => simp only [blank, reduceCtorEq] at h
  | .arr xs, w, h => by
      intro rest rest' heq
      cases w with
      | arr ys =>
          simp only [blank, Json.arr.injEq] at h
          simp only [writeAt, writeItems_eq_map] at heq
          obtain ⟨rfl, hrest⟩ := parts_enclose s level _ _ (parts_items hkept (level + 1) xs ys h) rest rest' heq
          exact ⟨rfl, hrest⟩
      | _ => simp only [blank, reduceCtorEq] at h
  | .obj ms, w, h => by
      intro rest rest' heq
      cases w with
      | obj ns =>
          simp only [blank, Json.obj.injEq] at h
          simp only [writeAt, arrange_writeMembers hkept] at heq
          obtain ⟨rfl, hrest⟩ := parts_enclose s level _ _ (parts_members hkept (level + 1) ms ns h) rest rest' heq
          exact ⟨rfl, hrest⟩
      | _ => simp only [blank, reduceCtorEq] at h
  -- what holds no text is written the same
  | .null, w, h => by
      intro rest rest' heq
      cases w with
      | null => exact ⟨rfl, List.append_cancel_left heq⟩
      | _ => simp only [blank, reduceCtorEq] at h
  | .bool b, w, h => by
      intro rest rest' heq
      cases w with
      | bool c =>
          simp only [blank, Json.bool.injEq] at h
          subst h
          exact ⟨rfl, List.append_cancel_left heq⟩
      | _ => simp only [blank, reduceCtorEq] at h
  | .num n, w, h => by
      intro rest rest' heq
      cases w with
      | num m =>
          simp only [blank, Json.num.injEq] at h
          subst h
          exact ⟨rfl, List.append_cancel_left heq⟩
      | _ => simp only [blank, reduceCtorEq] at h

theorem parts_items {s : JsonStyle} (hkept : s.sorted = false) (level : Nat) :
    ∀ xs ys : List Json, blankItems xs = blankItems ys → List.Forall₂ (Parts fun v => (writeAt s level v).toList) xs ys
  | [], [], _ => .nil
  | x :: xs, y :: ys, h =>
      have hparts := List.cons.inj h
      .cons (parts_writeAt hkept level x y hparts.1) (parts_items hkept level xs ys hparts.2)

theorem parts_members {s : JsonStyle} (hkept : s.sorted = false) (level : Nat) :
    ∀ ms ns : Members, blankMembers ms = blankMembers ns
      → List.Forall₂ (Parts fun m => (memberLine s level m).toList) ms ns
  | [], [], _ => .nil
  | (k, v) :: ms, (l, w) :: ns, h => by
      obtain ⟨hfirst, hmore⟩ := List.cons.inj h
      obtain ⟨rfl, hvalue⟩ := Prod.mk.inj hfirst
      exact .cons (parts_memberLine k (parts_writeAt hkept level v w hvalue)) (parts_members hkept level ms ns hmore)

end

/-- **Values that are alike but for their texts are written alike only where they are the same.** -/
theorem write_injective {s : JsonStyle} (hkept : s.sorted = false) {v w : Json} (halike : blank v = blank w)
    (h : write s v = write s w) : v = w :=
  (parts_writeAt hkept 0 v w halike [] [] (congrArg (fun t => t.toList ++ []) h)).1

end PromptGraph.Json
