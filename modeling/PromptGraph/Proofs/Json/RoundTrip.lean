import PromptGraph.Json.Strict
import PromptGraph.Proofs.Json.Alike
import PromptGraph.Proofs.Json.Data

/-!
# `Proofs.Json.RoundTrip` — a written value is read back

A style puts nothing but blanks between the parts of a value, so the reader meets the parts one after the other. Items
and members are read by induction along the list, from the reading of each by itself; values by induction on the value.

## Contents
- **Parts.** `Blank`, `Opens`; `ReadsBack`: a written value is read back whatever follows it.
- **Lists.** `reads_intercalate`, for items and members alike.
- **Values.** `SpacedStyle`; `readsBack_items`, `readsBack_members`; `readsBack_writeAt` by induction on the value.
- **Data texts.** `readWithin_write`.
-/

namespace PromptGraph.Json

/-! ## Parts -/

def Blank (cs : List Char) : Prop := ∀ c ∈ cs, isJsonBlank c = true

instance : DecidablePred Blank := fun cs => List.decidableBAll _ cs

theorem blank_append {cs ds : List Char} : Blank (cs ++ ds) ↔ Blank cs ∧ Blank ds := List.forall_mem_append

/-- Blanks before something else are skipped. -/
theorem skipBlanks_append {gap : List Char} (hgap : Blank gap) {c : Char} (hc : isJsonBlank c = false)
    (rest : List Char) : skipBlanks (gap ++ c :: rest) = c :: rest := by
  rw [skipBlanks, List.dropWhile_append_of_pos hgap, List.dropWhile_cons_of_neg (by rw [hc]; decide)]

/-- A number does not go on with a blank. -/
theorem endsNumber_blank {gap : List Char} (hgap : Blank gap) {c : Char} {rest : List Char}
    (hc : EndsNumber (c :: rest)) : EndsNumber (gap ++ c :: rest) := by
  cases gap with
  | nil => exact hc
  | cons d gap =>
      have hd := hgap d List.mem_cons_self
      simp only [isJsonBlank, Bool.or_eq_true, decide_eq_true_eq] at hd
      rintro e he
      cases he
      rcases hd with ((rfl | rfl) | rfl) | rfl <;> decide

theorem endsNumber_cons {c : Char} (h : isAsciiDigit c = false ∧ c ≠ '.' ∧ c ≠ 'e' ∧ c ≠ 'E') (rest : List Char) :
    EndsNumber (c :: rest) := by
  intro d hd
  cases hd
  exact h

/-- What a value begins with: no blank, no closing bracket and no mark of a byte order. -/
def Opens (c : Char) : Prop := isJsonBlank c = false ∧ c ≠ ']' ∧ c ≠ Char.ofNat 0xFEFF

instance : DecidablePred Opens := fun c =>
  inferInstanceAs (Decidable (isJsonBlank c = false ∧ c ≠ ']' ∧ c ≠ Char.ofNat 0xFEFF))

theorem opens_digit {c : Char} (h : isAsciiDigit c = true) : Opens c := by
  have hother {d : Char} (hd : isAsciiDigit d = false) : c ≠ d := ne_of_isAsciiDigit h hd
  refine ⟨?_, hother rfl, hother rfl⟩
  simp only [isJsonBlank, Bool.or_eq_false_iff, decide_eq_false_iff_not]
  exact ⟨⟨⟨hother rfl, hother rfl⟩, hother rfl⟩, hother rfl⟩

/-- Characters that are read as a value, at a level with room for it, whatever follows that no number goes on with. -/
structure ReadsBack (size : Nat) (cs : List Char) (v : Json) : Prop where
  opens : ∃ c more, cs = c :: more ∧ Opens c
  read : ∀ {room fuel : Nat} {rest : List Char}, height v ≤ room → cs.length ≤ fuel → EndsNumber rest →
    readValue size room fuel (cs ++ rest) = .ok (v, rest)

theorem height_pos (v : Json) : 0 < height v := by cases v <;> exact Nat.zero_lt_succ _

theorem readValue_atom (size room fuel : Nat) {c : Char} (hquote : c ≠ '"') (hbrace : c ≠ '\x7b') (hbracket : c ≠ '[')
    (cs : List Char) : readValue size room (fuel + 1) (c :: cs) = scanAtom (c :: cs) := by
  rw [readValue]
  · exact fun _ h => hquote (List.cons.inj h).1
  · exact fun _ _ h => hbrace (List.cons.inj h).1
  · exact fun _ _ _ h => hbrace (List.cons.inj h).1
  · exact fun _ _ h => hbracket (List.cons.inj h).1
  · exact fun _ _ _ h => hbracket (List.cons.inj h).1

theorem readsBack_number (size : Nat) {n : Number} (h : IsSpelled n) :
    ReadsBack size (NumberLayout.json.number n).toList (.num n) := by
  obtain ⟨c, more, hchars, hc⟩ := exists_cons_number h
  have hopens : Opens c := by
    rcases hc with rfl | hc
    · decide
    · exact opens_digit hc
  refine ⟨⟨c, more, hchars, hopens⟩, fun {room fuel rest} _ hfuel hrest => ?_⟩
  rw [← scanAtom_number h hrest, hchars]
  rw [hchars] at hfuel
  obtain ⟨fuel, rfl⟩ := Nat.exists_eq_succ_of_ne_zero (Nat.ne_zero_of_lt hfuel)
  rcases hc with rfl | hc
  · exact readValue_atom size room fuel (by decide) (by decide) (by decide) _
  · exact readValue_atom size room fuel (ne_of_isAsciiDigit hc rfl) (ne_of_isAsciiDigit hc rfl)
      (ne_of_isAsciiDigit hc rfl) _

theorem readsBack_null (size : Nat) : ReadsBack size "null".toList .null := by
  refine ⟨⟨'n', _, rfl, by decide⟩, fun {room fuel rest} _ hfuel _ => ?_⟩
  obtain ⟨fuel, rfl⟩ := Nat.exists_eq_succ_of_ne_zero (Nat.ne_zero_of_lt hfuel)
  exact readValue_atom size room fuel (by decide) (by decide) (by decide) _

theorem readsBack_bool (size : Nat) (b : Bool) : ReadsBack size (if b then "true" else "false").toList (.bool b) := by
  cases b with
  | true =>
      refine ⟨⟨'t', _, rfl, by decide⟩, fun {room fuel rest} _ hfuel _ => ?_⟩
      obtain ⟨fuel, rfl⟩ := Nat.exists_eq_succ_of_ne_zero (Nat.ne_zero_of_lt hfuel)
      exact readValue_atom size room fuel (by decide) (by decide) (by decide) _
  | false =>
      refine ⟨⟨'f', _, rfl, by decide⟩, fun {room fuel rest} _ hfuel _ => ?_⟩
      obtain ⟨fuel, rfl⟩ := Nat.exists_eq_succ_of_ne_zero (Nat.ne_zero_of_lt hfuel)
      exact readValue_atom size room fuel (by decide) (by decide) (by decide) _

theorem readValue_text {size : Nat} (ascii : Bool) (room fuel : Nat) {t : String} (ht : t.length < size)
    (rest : List Char) : readValue size room (fuel + 1) (escape ascii t.toList ++ rest) = .ok (.str t, rest) := by
  rw [escape, List.cons_append, List.append_assoc, readValue]
  show scanText _ size (t.toList.flatMap (escapeChar ascii) ++ '"' :: rest) >>= _ = _
  rw [scanText_escape _ ascii ht rest]
  show Except.ok (Json.str (String.ofList t.toList), rest) = _
  rw [String.ofList_toList]

theorem readsBack_text {size : Nat} (ascii : Bool) {t : String} (ht : t.length < size) :
    ReadsBack size (escape ascii t.toList) (.str t) := by
  refine ⟨⟨'"', _, rfl, by decide⟩, fun {room fuel rest} _ hfuel _ => ?_⟩
  obtain ⟨fuel, rfl⟩ := Nat.exists_eq_succ_of_ne_zero (Nat.ne_zero_of_lt hfuel)
  exact readValue_text ascii room fuel ht rest

/-! ## Lists -/

/-- Characters that are read as a part of a list, before another part and before blanks and the closing bracket. -/
structure ReadsPart {α : Type} (reads : Nat → List Char → Except ScanFault (List α × List Char)) (close : List Char)
    (bracket : Char) (cs : List Char) (x : α) : Prop where
  opens : ∃ c more, cs = c :: more ∧ isJsonBlank c = false ∧ c ≠ bracket
  last : ∀ {fuel : Nat} (rest : List Char), cs.length ≤ fuel →
    reads (fuel + 1) (cs ++ (close ++ bracket :: rest)) = .ok ([x], rest)
  more : ∀ {fuel : Nat} {after rest : List Char} {xs : List α}, cs.length ≤ fuel →
    reads fuel (skipBlanks after) = .ok (xs, rest) → reads (fuel + 1) (cs ++ ',' :: after) = .ok (x :: xs, rest)

/-- A list with something between its items begins as its first item does. -/
theorem intercalate_cons_eq {α : Type} (sep : List Char) {f : α → List Char} {x : α} {c : Char} {more : List Char}
    (h : f x = c :: more) (xs : List α) : ∃ cs, sep.intercalate ((x :: xs).map f) = c :: cs := by
  cases xs with
  | nil => exact ⟨more, by rw [List.map_singleton, List.intercalate_singleton, h]⟩
  | cons y ys => exact ⟨_, by rw [List.map_cons, List.map_cons, List.intercalate_cons_cons, h]; rfl⟩

section Parts

variable {α : Type} {reads : Nat → List Char → Except ScanFault (List α × List Char)} {first gap close : List Char}
  {bracket : Char} {f : α → List Char} {xs : List α}

/-- Blanks before the parts of a list are skipped, and no closing bracket follows them. -/
theorem skipBlanks_parts (gap : List Char) (hfirst : Blank first) (hne : xs ≠ [])
    (h : ∀ x ∈ xs, ReadsPart reads close bracket (f x) x) (rest : List Char) :
    ∃ c more, List.intercalate (',' :: gap) (xs.map f) ++ rest = c :: more ∧ c ≠ bracket
      ∧ skipBlanks (first ++ c :: more) = c :: more := by
  obtain ⟨x, xs, rfl⟩ := List.exists_cons_of_ne_nil hne
  obtain ⟨c, more, hx, hsolid, hopen⟩ := (h x List.mem_cons_self).opens
  obtain ⟨cs, hcs⟩ := intercalate_cons_eq (',' :: gap) hx xs
  exact ⟨c, cs ++ rest, by rw [hcs]; rfl, hopen, skipBlanks_append hfirst hsolid _⟩

/-- **The parts of a list are read back**, by induction along the list. -/
theorem reads_intercalate (hgap : Blank gap) (hne : xs ≠ []) (h : ∀ x ∈ xs, ReadsPart reads close bracket (f x) x)
    {fuel : Nat} (hfuel : (List.intercalate (',' :: gap) (xs.map f)).length < fuel) (rest : List Char) :
    reads fuel (List.intercalate (',' :: gap) (xs.map f) ++ (close ++ bracket :: rest)) = .ok (xs, rest) := by
  induction xs generalizing fuel with
  | nil => exact absurd rfl hne
  | cons x xs ih =>
      obtain ⟨fuel, rfl⟩ := Nat.exists_eq_succ_of_ne_zero (Nat.ne_zero_of_lt hfuel)
      have hx := h x List.mem_cons_self
      cases xs with
      | nil =>
          rw [List.map_singleton, List.intercalate_singleton] at hfuel ⊢
          exact hx.last rest (Nat.le_of_lt_succ hfuel)
      | cons y ys =>
          have hmore : ∀ z ∈ y :: ys, ReadsPart reads close bracket (f z) z := fun z hz =>
            h z (List.mem_cons_of_mem x hz)
          rw [List.map_cons, List.map_cons, List.intercalate_cons_cons, ← List.map_cons] at hfuel ⊢
          simp only [List.length_append, List.length_cons] at hfuel
          have hshort : (List.intercalate (',' :: gap) ((y :: ys).map f)).length < fuel := by omega
          have hread := ih (by simp) hmore hshort
          obtain ⟨c, cs, hcs, -, hskip⟩ := skipBlanks_parts gap hgap (by simp) hmore (close ++ bracket :: rest)
          rw [List.append_assoc, List.append_assoc, hcs]
          refine hx.more (by omega) ?_
          show reads fuel (skipBlanks (gap ++ c :: cs)) = _
          rw [hskip, ← hcs]
          exact hread

end Parts

theorem readsPart_item {size room : Nat} {close cs : List Char} {x : Json} (hclose : Blank close)
    (h : ReadsBack size cs x) (hroom : height x ≤ room) : ReadsPart (readItems size room) close ']' cs x := by
  obtain ⟨c, tail, hcons, hsolid, hopen, -⟩ := h.opens
  refine ⟨⟨c, tail, hcons, hsolid, hopen⟩, fun {fuel} rest hfuel => ?_, fun {fuel after rest xs} hfuel hmore => ?_⟩
  · rw [readItems, h.read hroom hfuel (endsNumber_blank hclose (endsNumber_cons (by decide) rest))]
    dsimp only [bind, Except.bind]
    rw [skipBlanks_append hclose rfl]
    rfl
  · rw [readItems, h.read hroom hfuel (endsNumber_cons (by decide) _)]
    show readItems size room fuel (skipBlanks after) >>= _ = _
    rw [hmore]
    rfl

/-- The characters of a member, from those of its value. -/
def namedChars (ascii : Bool) (gap : List Char) (k : String) (cs : List Char) : List Char :=
  escape ascii k.toList ++ (':' :: (gap ++ cs))

/-- A member is read as its name and then its value. -/
theorem readMembers_namedChars {size room fuel : Nat} {gap cs rest : List Char} (ascii : Bool) (hgap : Blank gap)
    {k : String} (hk : k.length < size) {v : Json} (hsolid : ∃ c more, cs = c :: more ∧ Opens c)
    (hv : readValue size room fuel (cs ++ rest) = .ok (v, rest)) :
    readMembers size room (fuel + 1) (namedChars ascii gap k cs ++ rest)
      = match skipBlanks rest with
        | '\x7d' :: rest => pure ([(k, v)], rest)
        | ',' :: rest => readMembers size room fuel (skipBlanks rest) >>= fun x => pure ((k, v) :: x.1, x.2)
        | rest => .error (.at .comma rest) := by
  obtain ⟨c, more, rfl, hc, -⟩ := hsolid
  rw [namedChars, escape, List.append_assoc, List.cons_append, List.append_assoc, readMembers]
  show scanText _ size (k.toList.flatMap (escapeChar ascii) ++ '"' :: (':' :: (gap ++ c :: more) ++ rest)) >>= _ = _
  rw [scanText_escape _ ascii hk]
  show readValue size room fuel (skipBlanks (gap ++ c :: more ++ rest)) >>= _ = _
  rw [List.append_assoc, List.cons_append, skipBlanks_append hgap hc, ← List.cons_append, hv, String.ofList_toList]
  rfl

theorem readsPart_member {size room : Nat} {close gap cs : List Char} {k : String} {v : Json} (ascii : Bool)
    (hclose : Blank close) (hgap : Blank gap) (hk : k.length < size) (h : ReadsBack size cs v)
    (hroom : height v ≤ room) :
    ReadsPart (readMembers size room) close '\x7d' (namedChars ascii gap k cs) (k, v) := by
  have hlength : cs.length ≤ (namedChars ascii gap k cs).length := by
    simp only [namedChars, List.length_append, List.length_cons]
    omega
  refine ⟨⟨'"', _, rfl, by decide⟩, fun {fuel} rest hfuel => ?_, fun {fuel after rest ms} hfuel hmore => ?_⟩
  · have hend : EndsNumber (close ++ '\x7d' :: rest) := endsNumber_blank hclose (endsNumber_cons (by decide) rest)
    rw [readMembers_namedChars ascii hgap hk h.opens (h.read hroom (hlength.trans hfuel) hend),
      skipBlanks_append hclose rfl]
    rfl
  · have hend : EndsNumber (',' :: after) := endsNumber_cons (by decide) after
    rw [readMembers_namedChars ascii hgap hk h.opens (h.read hroom (hlength.trans hfuel) hend)]
    show readMembers size room fuel (skipBlanks after) >>= _ = _
    rw [hmore]
    rfl

/-! ## Values -/

/-- A style that keeps the order of members and puts a separator and blanks between parts. -/
structure SpacedStyle (s : JsonStyle) : Prop where
  kept : s.sorted = false
  comma : ∃ gap, s.comma.toList = ',' :: gap ∧ Blank gap
  colon : ∃ gap, s.colon.toList = ':' :: gap ∧ Blank gap

theorem spacedStyle_line : SpacedStyle .line := ⟨rfl, ⟨[' '], rfl, by decide⟩, ⟨[' '], rfl, by decide⟩⟩

theorem spacedStyle_indented : SpacedStyle .indented := ⟨rfl, ⟨[], rfl, by decide⟩, ⟨[' '], rfl, by decide⟩⟩

theorem blank_lineBreak (s : JsonStyle) (level : Nat) : Blank (lineBreak s level).toList := by
  unfold lineBreak
  split
  · exact List.forall_mem_nil _
  · rw [String.toList_append, String.toList_ofList]
    refine blank_append.mpr ⟨by decide, fun c hc => ?_⟩
    rw [String.toList_ofList] at hc
    exact List.eq_of_mem_replicate hc ▸ rfl

/-- Items in brackets: blanks, the items with blanks between them, and blanks. -/
theorem exists_toList_enclose {s : JsonStyle} (hs : SpacedStyle s) (level : Nat) (opening closing : String) :
    ∃ first gap last, Blank first ∧ Blank gap ∧ Blank last ∧ ∀ {α : Type} {f : α → String} {xs : List α}, xs ≠ [] →
      (enclose s level opening closing (xs.map f)).toList
        = opening.toList ++ (first ++ (List.intercalate (',' :: gap) (xs.map fun x => (f x).toList)
          ++ (last ++ closing.toList))) := by
  obtain ⟨gap, hcomma, hgap⟩ := hs.comma
  refine ⟨_, gap ++ (lineBreak s (level + 1)).toList, _, blank_lineBreak s (level + 1),
    blank_append.mpr ⟨hgap, blank_lineBreak s _⟩, blank_lineBreak s level, fun {α f xs} hne => ?_⟩
  have hitems : ¬ (xs.map f).isEmpty = true := by simpa using hne
  rw [enclose, if_neg hitems]
  simp only [String.toList_append, String.toList_intercalate, hcomma, List.cons_append, List.append_assoc,
    List.map_map, Function.comp_def]

theorem height_le_of_mem_items {x : Json} {xs : List Json} (h : x ∈ xs) : height x ≤ heightOfItems xs := by
  induction xs with
  | nil => cases h
  | cons y ys ih =>
      rcases List.mem_cons.mp h with rfl | hmem
      · exact Nat.le_max_left _ _
      · exact (ih hmem).trans (Nat.le_max_right _ _)

theorem height_le_of_mem_members {m : String × Json} {ms : Members} (h : m ∈ ms) :
    height m.2 ≤ heightOfMembers ms := by
  induction ms with
  | nil => cases h
  | cons n ns ih =>
      rcases List.mem_cons.mp h with rfl | hmem
      · exact Nat.le_max_left _ _
      · exact (ih hmem).trans (Nat.le_max_right _ _)

/-- Parts in brackets are read back, where the reader goes from the opening bracket to the parts. -/
theorem readsBack_enclose {s : JsonStyle} (hs : SpacedStyle s) {size : Nat} (level : Nat) {opening closing : String}
    {o b : Char} (hopening : opening.toList = [o]) (hclosing : closing.toList = [b]) (hopens : Opens o)
    {α : Type} {reads : Nat → Nat → List Char → Except ScanFault (List α × List Char)} {f : α → String} {xs : List α}
    {v : Json}
    (hparts : ∀ {room close}, height v ≤ room + 1 → Blank close →
      ∀ x ∈ xs, ReadsPart (reads room) close b (f x).toList x)
    (hnone : xs = [] → ∀ room fuel rest, readValue size (room + 1) (fuel + 1) (o :: b :: rest) = .ok (v, rest))
    (hsome : ∀ {room fuel cs c more rest}, skipBlanks cs = c :: more → c ≠ b →
      reads room fuel (c :: more) = .ok (xs, rest) → readValue size (room + 1) (fuel + 1) (o :: cs) = .ok (v, rest)) :
    ReadsBack size (enclose s level opening closing (xs.map f)).toList v := by
  by_cases hne : xs = []
  · have hchars : (enclose s level opening closing (xs.map f)).toList = [o, b] := by
      simp [hne, enclose, hopening, hclosing]
    rw [hchars]
    refine ⟨⟨o, _, rfl, hopens⟩, fun {room fuel rest} hroom hfuel _ => ?_⟩
    obtain ⟨room, rfl⟩ := Nat.exists_eq_succ_of_ne_zero (Nat.ne_zero_of_lt ((height_pos v).trans_le hroom))
    obtain ⟨fuel, rfl⟩ := Nat.exists_eq_succ_of_ne_zero (Nat.ne_zero_of_lt hfuel)
    exact hnone hne room fuel rest
  · obtain ⟨first, gap, last, hfirst, hgap, hlast, hchars⟩ := exists_toList_enclose hs level opening closing
    rw [hchars hne, hopening, hclosing]
    refine ⟨⟨o, _, rfl, hopens⟩, fun {room fuel rest} hroom hfuel _ => ?_⟩
    obtain ⟨room, rfl⟩ := Nat.exists_eq_succ_of_ne_zero (Nat.ne_zero_of_lt ((height_pos v).trans_le hroom))
    obtain ⟨fuel, rfl⟩ := Nat.exists_eq_succ_of_ne_zero (Nat.ne_zero_of_lt hfuel)
    -- the two brackets leave room for a step more than the parts have characters
    have hshort : (List.intercalate (',' :: gap) (xs.map fun x => (f x).toList)).length < fuel := by
      simp only [List.length_append, List.length_cons, List.length_nil] at hfuel
      omega
    obtain ⟨c, more, hcons, hopen, hskip⟩ := skipBlanks_parts gap hfirst hne (hparts hroom hlast) (last ++ b :: rest)
    have hread := reads_intercalate hgap hne (hparts hroom hlast) hshort rest
    show readValue size (room + 1) (fuel + 1) (o :: (first ++ (_ ++ (last ++ [b])) ++ rest)) = _
    rw [List.append_assoc, List.append_assoc, List.append_assoc, List.singleton_append]
    rw [hcons] at hread ⊢
    exact hsome hskip hopen hread

theorem readValue_arr {size room fuel : Nat} {cs rest : List Char} {c : Char} {more : List Char} {xs : List Json}
    (hskip : skipBlanks cs = c :: more) (hopen : c ≠ ']') (h : readItems size room fuel (c :: more) = .ok (xs, rest)) :
    readValue size (room + 1) (fuel + 1) ('[' :: cs) = .ok (.arr xs, rest) := by
  rw [readValue, hskip]
  split
  next heq => exact absurd (List.cons.inj heq).1 hopen
  next => rw [h]; rfl

theorem readValue_obj {size room fuel : Nat} {cs rest : List Char} {c : Char} {more : List Char} {ms : Members}
    (hskip : skipBlanks cs = c :: more) (hopen : c ≠ '\x7d')
    (h : readMembers size room fuel (c :: more) = .ok (ms, rest)) :
    readValue size (room + 1) (fuel + 1) ('\x7b' :: cs) = .ok (.obj (Members.ofPairs ms), rest) := by
  rw [readValue, hskip]
  split
  next heq => exact absurd (List.cons.inj heq).1 hopen
  next => rw [h]; rfl

/-- A list is read back when its items are. -/
theorem readsBack_arr {s : JsonStyle} (hs : SpacedStyle s) {size level : Nat} {xs : List Json}
    (h : ∀ x ∈ xs, ReadsBack size (writeAt s (level + 1) x).toList x) :
    ReadsBack size (writeAt s level (.arr xs)).toList (.arr xs) := by
  have hopening : "[".toList = ['['] := rfl
  have hclosing : "]".toList = [']'] := rfl
  have hparts {room : Nat} {close : List Char} (hroom : height (.arr xs) ≤ room + 1) (hclose : Blank close) :
      ∀ x ∈ xs, ReadsPart (readItems size room) close ']' (writeAt s (level + 1) x).toList x := fun x hx =>
    readsPart_item hclose (h x hx) ((height_le_of_mem_items hx).trans (Nat.le_of_succ_le_succ hroom))
  rw [writeAt, writeItems_eq_map]
  refine readsBack_enclose hs level hopening hclosing (by decide) hparts ?_ readValue_arr
  rintro rfl room fuel rest
  rfl

/-- An object of distinct names is read back when its values are. -/
theorem readsBack_obj {s : JsonStyle} (hs : SpacedStyle s) {size level : Nat} {ms : Members}
    (hnodup : (ms.map Prod.fst).Nodup) (hsize : ∀ m ∈ ms, m.1.length < size)
    (h : ∀ m ∈ ms, ReadsBack size (writeAt s (level + 1) m.2).toList m.2) :
    ReadsBack size (writeAt s level (.obj ms)).toList (.obj ms) := by
  have hopening : "\x7b".toList = ['\x7b'] := rfl
  have hclosing : "\x7d".toList = ['\x7d'] := rfl
  obtain ⟨gap, hcolon, hgap⟩ := hs.colon
  have hline (m : String × Json) : (memberLine s (level + 1) m).toList
      = namedChars s.ascii gap m.1 (writeAt s (level + 1) m.2).toList := by
    simp only [memberLine, writeText, String.toList_append, String.toList_ofList, hcolon, namedChars,
      List.append_assoc, List.cons_append]
  have hparts {room : Nat} {close : List Char} (hroom : height (.obj ms) ≤ room + 1) (hclose : Blank close) :
      ∀ m ∈ ms, ReadsPart (readMembers size room) close '\x7d' (memberLine s (level + 1) m).toList m := by
    intro m hm
    rw [hline]
    exact readsPart_member s.ascii hclose hgap (hsize m hm) (h m hm)
      ((height_le_of_mem_members hm).trans (Nat.le_of_succ_le_succ hroom))
  rw [writeAt, arrange_writeMembers hs.kept]
  refine readsBack_enclose hs level hopening hclosing (by decide) hparts ?_ ?_
  · rintro rfl room fuel rest
    rfl
  · intro room fuel cs c more rest hskip hopen hread
    rw [readValue_obj hskip hopen hread, Members.ofPairs_of_nodup hnodup]

theorem length_le_intercalate (sep : List Char) {items : List (List Char)} {cs : List Char} (h : cs ∈ items) :
    cs.length ≤ (sep.intercalate items).length := by
  induction items with
  | nil => cases h
  | cons ds items ih =>
      cases items with
      | nil =>
          rw [List.mem_singleton.mp h, List.intercalate_singleton]
      | cons es items =>
          rw [List.intercalate_cons_cons, List.length_append, List.length_append]
          rcases List.mem_cons.mp h with rfl | hmem
          · omega
          · have hle := ih hmem
            omega

/-- An item takes no more room than the items in brackets. -/
theorem length_le_enclose (s : JsonStyle) (level : Nat) (opening closing : String) {items : List String} {t : String}
    (h : t ∈ items) : t.length ≤ (enclose s level opening closing items).length := by
  have hne : ¬ items.isEmpty = true := by
    rintro hempty
    rw [List.isEmpty_iff.mp hempty] at h
    cases h
  have hmem : t.toList ∈ items.map String.toList := List.mem_map_of_mem h
  have hle := length_le_intercalate (s.comma ++ lineBreak s (level + 1)).toList hmem
  rw [enclose, if_neg hne]
  simp only [← String.length_toList, String.toList_append, String.toList_intercalate, List.length_append] at hle ⊢
  omega

theorem length_escape (ascii : Bool) (cs : List Char) : cs.length < (escape ascii cs).length := by
  have hchar : ∀ c, 0 < (escapeChar ascii c).length := by
    intro c
    unfold escapeChar wideEscape unitEscape
    repeat' split
    all_goals exact Nat.zero_lt_succ _
  rw [escape, List.length_cons, List.length_append]
  induction cs with
  | nil => simp
  | cons c cs ih =>
      have hpos := hchar c
      rw [List.flatMap_cons, List.length_append, List.length_cons]
      omega

theorem length_writeText (s : JsonStyle) (t : String) : t.length < (writeText s t).length := by
  rw [← String.length_toList, ← String.length_toList, writeText, String.toList_ofList]
  exact length_escape s.ascii t.toList

mutual

/-- **A written value is read back**, whatever follows it that no number goes on with. -/
theorem readsBack_writeAt {s : JsonStyle} (hs : SpacedStyle s) {size : Nat} (level : Nat) :
    ∀ v : Json, IsData IsSpelled v → (writeAt s level v).length < size → ReadsBack size (writeAt s level v).toList v
  | .null, _, _ => by
      rw [writeAt]
      exact readsBack_null size
  | .bool b, _, _ => by
      rw [writeAt]
      exact readsBack_bool size b
  | .num n, h, _ => by
      rw [writeAt]
      exact readsBack_number size h
  | .str t, _, hsize => by
      rw [writeAt] at hsize ⊢
      rw [writeText, String.toList_ofList]
      exact readsBack_text s.ascii ((length_writeText s t).trans hsize)
  | .arr xs, h, hsize => by
      refine readsBack_arr hs (readsBack_items hs (level + 1) xs h fun x hx => ?_)
      rw [writeAt, writeItems_eq_map] at hsize
      exact (length_le_enclose s level _ _ (List.mem_map_of_mem hx)).trans_lt hsize
  | .obj ms, h, hsize => by
      rw [writeAt, arrange_writeMembers hs.kept] at hsize
      have hline {m : String × Json} (hm : m ∈ ms) : (memberLine s (level + 1) m).length < size :=
        (length_le_enclose s level _ _ (List.mem_map_of_mem hm)).trans_lt hsize
      refine readsBack_obj hs h.1 (fun m hm => ?_) (readsBack_members hs (level + 1) ms h.2 fun m hm => ?_)
      · have hname := length_writeText s m.1
        have hlt := hline hm
        simp only [memberLine, String.length_append] at hlt
        omega
      · have hlt := hline hm
        simp only [memberLine, String.length_append] at hlt
        omega

theorem readsBack_items {s : JsonStyle} (hs : SpacedStyle s) {size : Nat} (level : Nat) :
    ∀ xs : List Json, AreData IsSpelled xs → (∀ x ∈ xs, (writeAt s level x).length < size) →
      ∀ x ∈ xs, ReadsBack size (writeAt s level x).toList x
  | [], _, _ => List.forall_mem_nil _
  | x :: xs, h, hsize =>
      have hsizes := List.forall_mem_cons.mp hsize
      List.forall_mem_cons.mpr ⟨readsBack_writeAt hs level x h.1 hsizes.1, readsBack_items hs level xs h.2 hsizes.2⟩

theorem readsBack_members {s : JsonStyle} (hs : SpacedStyle s) {size : Nat} (level : Nat) :
    ∀ ms : Members, AreDataMembers IsSpelled ms → (∀ m ∈ ms, (writeAt s level m.2).length < size) →
      ∀ m ∈ ms, ReadsBack size (writeAt s level m.2).toList m.2
  | [], _, _ => List.forall_mem_nil _
  | (_, v) :: ms, h, hsize =>
      have hsizes := List.forall_mem_cons.mp hsize
      List.forall_mem_cons.mpr ⟨readsBack_writeAt hs level v h.1 hsizes.1, readsBack_members hs level ms h.2 hsizes.2⟩

end

/-! ## Data texts -/

/-- **A data text is read back as the value that was written**, for values of as many levels as are read. -/
theorem readWithin_write {s : JsonStyle} (hs : SpacedStyle s) {v : Json} (h : IsData IsSpelled v) {levels : Nat}
    (hheight : height v ≤ levels) : readWithin levels (write s v) = .ok v := by
  generalize hchars : (write s v).toList = cs
  have hlength : (write s v).length = cs.length := by rw [← String.length_toList, hchars]
  have hback : ReadsBack (cs.length + 1) (write s v).toList v :=
    readsBack_writeAt hs 0 v h (Nat.lt_succ_of_le (Nat.le_of_eq hlength))
  rw [hchars] at hback
  have hfuel : cs.length ≤ 2 * (cs.length + 1) := by omega
  have hvalue : readValue (cs.length + 1) levels (2 * (cs.length + 1)) (cs ++ []) = .ok (v, []) :=
    hback.read hheight hfuel endsNumber_nil
  obtain ⟨c, more, rfl, hsolid, -, hunmarked⟩ := hback.opens
  have hskip : skipBlanks (c :: more) = c :: more := skipBlanks_append (List.forall_mem_nil _) hsolid more
  have hmark : ¬ (c :: more).head? = some (Char.ofNat 0xFEFF) := fun heq => hunmarked (Option.some.inj heq)
  rw [List.append_nil] at hvalue
  have hall : readAll levels (c :: more) = .ok v := by
    rw [readAll, if_neg hmark, hskip]
    dsimp only
    rw [hvalue]
    rfl
  rw [readWithin, hchars, hall]

end PromptGraph.Json
