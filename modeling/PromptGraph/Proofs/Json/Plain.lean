import PromptGraph.Command.Run
import PromptGraph.Proofs.Json.Alike
import PromptGraph.Proofs.Text.Lines

/-!
# `Proofs.Json.Plain` — what is written in ASCII reaches any output as it is

A style of pure ASCII writes nothing but line breaks and printable characters: texts are escaped, numbers are digits
with a few signs, and the rest is the style's own. No control of a terminal is in it, so printing takes nothing out of
it.

## Contents
- **Plain characters.** `Plain`, `AllPlain` and how lists are put together.
- **Texts and numbers.** `plain_escape`; `plain_number` over the two layouts of a number.
- **Values.** `PlainStyle`, `plain_enclose`; `plain_writeAt` by induction on the value.
- **Output.** `dropControls_of_plain`, `Output.value_eq`; `Output.value_inj_of_alike`.
-/

namespace PromptGraph

namespace Json

/-! ## Plain characters -/

/-- A line break, or a printable ASCII character. -/
def Plain (c : Char) : Prop := c = '\n' ∨ 0x20 ≤ c.toNat ∧ c.toNat < 0x7F

instance : DecidablePred Plain := fun c => inferInstanceAs (Decidable (c = '\n' ∨ 0x20 ≤ c.toNat ∧ c.toNat < 0x7F))

def AllPlain (cs : List Char) : Prop := ∀ c ∈ cs, Plain c

instance : DecidablePred AllPlain := List.decidableBAll Plain

@[simp] theorem allPlain_nil : AllPlain [] := fun _ h => absurd h List.not_mem_nil

@[simp] theorem allPlain_cons {c : Char} {cs : List Char} : AllPlain (c :: cs) ↔ Plain c ∧ AllPlain cs :=
  List.forall_mem_cons

@[simp] theorem allPlain_append {cs ds : List Char} : AllPlain (cs ++ ds) ↔ AllPlain cs ∧ AllPlain ds :=
  List.forall_mem_append

theorem AllPlain.flatMap {α : Type} {f : α → List Char} {xs : List α} (h : ∀ x ∈ xs, AllPlain (f x)) :
    AllPlain (xs.flatMap f) := by
  intro c hc
  obtain ⟨x, hx, hin⟩ := List.mem_flatMap.mp hc
  exact h x hx c hin

theorem allPlain_replicate (n : Nat) {c : Char} (h : Plain c) : AllPlain (List.replicate n c) := by
  intro d hd
  obtain rfl := List.eq_of_mem_replicate hd
  exact h

theorem AllPlain.intercalate {sep : List Char} (hsep : AllPlain sep) {items : List (List Char)}
    (hitems : ∀ cs ∈ items, AllPlain cs) : AllPlain (sep.intercalate items) := forall_mem_intercalate hsep hitems

/-! ## Texts and numbers -/

theorem plain_hexDigit {n : Nat} (h : n < 16) : Plain (Text.hexDigit n) := by
  have hall : ∀ m : Fin 16, Plain (Text.hexDigit m) := by decide
  exact hall ⟨n, h⟩

theorem plain_unitEscape (n : Nat) : AllPlain (unitEscape n) := by
  have hmod : ∀ m : Nat, m % 16 < 16 := fun m => Nat.mod_lt m (by decide)
  simp only [unitEscape, hexPadded_four, allPlain_cons, plain_hexDigit (hmod _), allPlain_nil, and_true]
  decide

theorem plain_wideEscape (c : Char) : AllPlain (wideEscape c) := by
  unfold wideEscape
  split
  · exact plain_unitEscape _
  · exact allPlain_append.mpr ⟨plain_unitEscape _, plain_unitEscape _⟩

/-- A character is escaped unless it is printable itself. -/
theorem plain_escapeChar (c : Char) : AllPlain (escapeChar true c) := by
  unfold escapeChar
  -- the short escapes are fixed texts
  iterate 7
    split
    · decide
  split
  · exact plain_unitEscape _
  next hcontrol =>
    split
    · exact plain_wideEscape c
    next hwide =>
      simp only [allPlain_cons, allPlain_nil, and_true]
      exact .inr ⟨by omega, by simpa using hwide⟩

theorem plain_escape (cs : List Char) : AllPlain (escape true cs) := by
  simp only [escape, allPlain_cons, allPlain_append, allPlain_nil, and_true]
  exact ⟨by decide, AllPlain.flatMap fun c _ => plain_escapeChar c, by decide⟩

theorem plain_of_isDigit {c : Char} (h : c.isDigit = true) : Plain c := by
  obtain ⟨hlow, hhigh⟩ := Char.isDigit_iff_toNat.mp h
  exact .inr ⟨Nat.le_trans (by decide) hlow, Nat.lt_of_le_of_lt hhigh (by decide)⟩

theorem plain_digitChars (n : Nat) : AllPlain (Decimal.digitChars n) := fun _ hc =>
  plain_of_isDigit (Nat.isDigit_of_mem_toDigits (by decide) (by decide) hc)

theorem plain_zeros (n : Nat) : AllPlain (NumberLayout.zeros n) := allPlain_replicate n (by decide)

theorem plain_positional {digits : List Char} (h : AllPlain digits) (leading : Int) :
    AllPlain (NumberLayout.positional digits leading) := by
  have hpoint : Plain '.' := by decide
  have hzero : Plain '0' := by decide
  have htake (n : Nat) : AllPlain (digits.take n) := fun c hc => h c (List.mem_of_mem_take hc)
  have hdrop (n : Nat) : AllPlain (digits.drop n) := fun c hc => h c (List.mem_of_mem_drop hc)
  unfold NumberLayout.positional
  dsimp only
  split
  · simp [h, hpoint, hzero, plain_zeros]
  · split
    · simp [h, hpoint, hzero, plain_zeros]
    · simp [hpoint, htake, hdrop]

theorem plain_scientific (l : NumberLayout) {digits : List Char} (h : AllPlain digits) (leading : Int) :
    AllPlain (l.scientific digits leading) := by
  have hpoint : Plain '.' := by decide
  have hmark : Plain 'e' := by decide
  have hsign : Plain (if leading < 0 then '-' else '+') := by split <;> decide
  unfold NumberLayout.scientific
  simp only [allPlain_append, allPlain_cons]
  refine ⟨?_, hmark, hsign, plain_zeros _, plain_digitChars _⟩
  -- the digits, with a point after the first of several
  split
  · exact h
  · exact h
  · exact allPlain_cons.mpr ⟨(allPlain_cons.mp h).1, allPlain_cons.mpr ⟨hpoint, (allPlain_cons.mp h).2⟩⟩

theorem plain_magnitude (l : NumberLayout) (m : Nat) (e : Int) : AllPlain (l.magnitude m e) := by
  unfold NumberLayout.magnitude
  dsimp only
  split
  · exact plain_positional (plain_digitChars _) _
  · exact plain_scientific l (plain_digitChars _) _

theorem plain_number (n : Number) : AllPlain (NumberLayout.json.number n).toList := by
  have hsign (p : Prop) [Decidable p] : AllPlain (if p then "-" else "").toList := by split <;> decide
  cases n with
  | int n =>
      simp only [NumberLayout.number, NumberLayout.integer, String.toList_append, String.toList_ofList, allPlain_append]
      exact ⟨hsign _, plain_digitChars _⟩
  | float x =>
      cases x with
      | nan => decide
      | infinite s => cases s <;> decide
      | finite s m e _ =>
          simp only [NumberLayout.number, NumberLayout.double, String.toList_append, allPlain_append]
          refine ⟨hsign _, ?_⟩
          split
          · decide
          · rw [String.toList_ofList]
            exact plain_magnitude _ m e

/-! ## Values -/

/-- A style that adds nothing but plain characters. -/
structure PlainStyle (s : JsonStyle) : Prop where
  ascii : s.ascii = true
  comma : AllPlain s.comma.toList
  colon : AllPlain s.colon.toList

theorem plainStyle_indented : PlainStyle .indented := ⟨rfl, by decide, by decide⟩

theorem plainStyle_line : PlainStyle .line := ⟨rfl, by decide, by decide⟩

theorem plain_lineBreak (s : JsonStyle) (level : Nat) : AllPlain (lineBreak s level).toList := by
  unfold lineBreak
  split
  · exact allPlain_nil
  · simp only [String.toList_append, String.toList_ofList, allPlain_append]
    exact ⟨by decide, allPlain_replicate _ (by decide)⟩

theorem plain_writeText {s : JsonStyle} (h : PlainStyle s) (t : String) : AllPlain (writeText s t).toList := by
  rw [writeText, String.toList_ofList, h.ascii]
  exact plain_escape _

theorem plain_enclose {s : JsonStyle} (h : PlainStyle s) (level : Nat) {opening closing : String}
    (hopening : AllPlain opening.toList) (hclosing : AllPlain closing.toList) {items : List String}
    (hitems : ∀ t ∈ items, AllPlain t.toList) : AllPlain (enclose s level opening closing items).toList := by
  unfold enclose
  split
  · simp [hopening, hclosing]
  · simp only [String.toList_append, String.toList_intercalate, allPlain_append, hopening, hclosing, plain_lineBreak,
      true_and, and_true]
    refine AllPlain.intercalate (allPlain_append.mpr ⟨h.comma, plain_lineBreak s _⟩) fun cs hcs => ?_
    obtain ⟨t, ht, rfl⟩ := List.mem_map.mp hcs
    exact hitems t ht

theorem plain_arrange {s : JsonStyle} (h : PlainStyle s) {members : List (String × String)}
    (hmembers : ∀ m ∈ members, AllPlain m.2.toList) : ∀ t ∈ arrange s members, AllPlain t.toList := by
  intro t ht
  obtain ⟨m, hm, rfl⟩ := List.mem_map.mp ht
  have hin : m ∈ members := by
    split at hm
    · exact List.mem_mergeSort.mp hm
    · exact hm
  simp only [String.toList_append, allPlain_append]
  exact ⟨⟨plain_writeText h m.1, h.colon⟩, hmembers m hin⟩

mutual

/-- **A style of pure ASCII writes line breaks and printable characters only.** -/
theorem plain_writeAt {s : JsonStyle} (h : PlainStyle s) (level : Nat) : ∀ v : Json, AllPlain (writeAt s level v).toList
  | .null => by rw [writeAt]; decide
  | .bool b => by cases b <;> rw [writeAt] <;> decide
  | .num n => by
      rw [writeAt]
      exact plain_number n
  | .str t => by
      rw [writeAt]
      exact plain_writeText h t
  | .arr xs => by
      rw [writeAt]
      exact plain_enclose h level (by decide) (by decide) (plain_writeItems h (level + 1) xs)
  | .obj ms => by
      rw [writeAt]
      exact plain_enclose h level (by decide) (by decide) (plain_arrange h (plain_writeMembers h (level + 1) ms))

theorem plain_writeItems {s : JsonStyle} (h : PlainStyle s) (level : Nat) :
    ∀ xs : List Json, ∀ t ∈ writeItems s level xs, AllPlain t.toList
  | [] => by simp [writeItems]
  | x :: xs => by
      rw [writeItems]
      exact List.forall_mem_cons.mpr ⟨plain_writeAt h level x, plain_writeItems h level xs⟩

theorem plain_writeMembers {s : JsonStyle} (h : PlainStyle s) (level : Nat) :
    ∀ ms : Members, ∀ m ∈ writeMembers s level ms, AllPlain m.2.toList
  | [] => by simp [writeMembers]
  | (k, v) :: ms => by
      rw [writeMembers]
      exact List.forall_mem_cons.mpr ⟨plain_writeAt h level v, plain_writeMembers h level ms⟩

end

end Json

/-! ## Output -/

namespace Text

open Json

/-- A control begins with a character that is not plain. -/
theorem controlLength?_of_plain {cs : List Char} (h : AllPlain cs) : controlLength? cs = none := by
  unfold controlLength?
  split
  · exact absurd (h _ List.mem_cons_self) (by decide)
  · rfl

theorem outsideControls_of_plain {cs : List Char} (h : AllPlain cs) : outsideControls 0 cs = cs := by
  induction cs with
  | nil => rfl
  | cons c cs ih =>
      rw [outsideControls, controlLength?_of_plain h]
      exact congrArg (c :: ·) (ih (allPlain_cons.mp h).2)

theorem dropControls_of_plain {t : String} (h : AllPlain t.toList) : dropControls t = t := by
  rw [dropControls, outsideControls_of_plain h, String.ofList_toList]

end Text

namespace Output

/-- **A value is printed as it is written.** -/
theorem value_eq (v : Json) : value v = ⟨0, Json.write .indented v ++ "\n", ""⟩ := by
  rw [value, line, Json.write, Text.dropControls_of_plain (Json.plain_writeAt Json.plainStyle_indented 0 v)]

/-- **Values that are alike but for their texts are printed alike only where they are the same.** -/
theorem value_inj_of_alike {v w : Json} (halike : Json.blank v = Json.blank w) (h : value v = value w) : v = w := by
  rw [value_eq, value_eq] at h
  have hout : Json.write .indented v ++ "\n" = Json.write .indented w ++ "\n" := congrArg Output.out h
  exact Json.write_injective rfl halike ((String.append_left_inj "\n").mp hout)

end Output

end PromptGraph
