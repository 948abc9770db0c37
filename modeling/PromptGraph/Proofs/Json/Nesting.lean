import PromptGraph.Json.Reader
import PromptGraph.Proofs.Checked
import PromptGraph.Proofs.Text.Encoding

/-!
# `Proofs.Json.Nesting` — opening brackets

A list is read by reading what is in it first, so that brackets are refused at the level that is one too many, whatever
follows them. Where nothing follows them they are no data text at any number of levels.

## Contents
- **Too many.** `readValue_brackets`, by induction on the levels that are left; `read_brackets`.
- **Never closed.** `readValue_unclosed`, by induction on the brackets; `readWithin_brackets_ne_ok`.
- **As bytes.** `detect?_brackets`.
-/

namespace PromptGraph.Json

/-! ## Too many -/

/-- Opening brackets beyond the levels that are left are refused, whatever follows them, by induction on those
    levels. -/
theorem readValue_brackets {size room fuel brackets : Nat} (hbrackets : room < brackets) (hfuel : 2 * room < fuel)
    (rest : List Char) :
    readValue size room fuel (List.replicate brackets '[' ++ rest) = .error .tooDeep := by
  induction room generalizing fuel brackets with
  | zero =>
      obtain ⟨brackets, rfl⟩ := Nat.exists_eq_add_one.mpr hbrackets
      obtain ⟨fuel, rfl⟩ := Nat.exists_eq_add_one.mpr hfuel
      rfl
  | succ room ih =>
      obtain ⟨brackets, rfl⟩ : ∃ more, brackets = more + 2 := ⟨brackets - 2, by omega⟩
      obtain ⟨fuel, rfl⟩ : ∃ more, fuel = more + 2 := ⟨fuel - 2, by omega⟩
      have hinner : readValue size room fuel (List.replicate (brackets + 1) '[' ++ rest) = .error .tooDeep :=
        ih (by omega) (by omega)
      show (readItems size room (fuel + 1) (List.replicate (brackets + 1) '[' ++ rest) >>= _) = _
      rw [readItems, hinner]
      rfl

/-- So many opening brackets. -/
def brackets (n : Nat) : String := String.ofList (List.replicate n '[')

theorem skipBlanks_brackets (n : Nat) : skipBlanks (List.replicate n '[') = List.replicate n '[' := by
  cases n <;> rfl

theorem head?_brackets (n : Nat) : (List.replicate n '[').head? ≠ some (Char.ofNat 0xFEFF) := by
  cases n with
  | zero => nofun
  | succ n =>
      show some '[' ≠ _
      decide

/-- What follows the value of a whole text. -/
def closing (read : Json × List Char) : Except ScanFault Json :=
  match skipBlanks read.2 with
  | [] => pure read.1
  | rest => .error (.at .extraData rest)

/-- Brackets are read from the first one on. -/
theorem readAll_brackets (levels n : Nat) : readAll levels (List.replicate n '[') =
    (readValue (n + 1) levels (2 * (n + 1)) (List.replicate n '[') >>= closing) := by
  have hlength : (List.replicate n '[').length = n := List.length_replicate
  have hopened : readAll levels (List.replicate n '[') = (readValue ((List.replicate n '[').length + 1) levels
      (2 * ((List.replicate n '[').length + 1)) (skipBlanks (List.replicate n '[')) >>= closing) :=
    if_neg (head?_brackets n)
  rw [hopened, hlength, skipBlanks_brackets]

/-- More brackets than there are levels are nested too deeply. -/
theorem read_brackets [Depth] {n : Nat} (h : Depth.read < n) : read (brackets n) = .error .tooDeep := by
  have hvalue : readValue (n + 1) Depth.read (2 * (n + 1)) (List.replicate n '[' ++ []) = .error .tooDeep :=
    readValue_brackets h (by omega) []
  rw [List.append_nil] at hvalue
  rw [read, readWithin, brackets, String.toList_ofList]
  dsimp only
  rw [readAll_brackets, hvalue]
  rfl

/-! ## Never closed -/

/-- Brackets that are not closed are no value, by induction on their number. -/
theorem readValue_unclosed {n size room fuel : Nat} {x : Json × List Char} :
    readValue size room fuel (List.replicate n '[') ≠ .ok x := by
  induction n generalizing room fuel x with
  | zero =>
      cases fuel with
      | zero => nofun
      | succ fuel => cases room <;> nofun
  | succ n ih =>
      cases fuel with
      | zero => nofun
      | succ fuel =>
          cases room with
          | zero => nofun
          | succ room =>
              have hitems : ∀ y, readItems size room fuel (List.replicate n '[') ≠ .ok y := by
                intro y hy
                cases fuel with
                | zero => cases hy
                | succ fuel =>
                    rw [readItems] at hy
                    obtain ⟨x, hx, -⟩ := bind_eq_ok.mp hy
                    exact ih hx
              intro hlist
              have hopened : (readItems size room fuel (List.replicate n '[') >>= fun read =>
                  pure (Json.arr read.1, read.2)) = .ok x := by
                cases n <;> exact hlist
              obtain ⟨y, hy, -⟩ := bind_eq_ok.mp hopened
              exact hitems y hy

/-- At no number of levels are opening brackets a data text. -/
theorem readWithin_brackets_ne_ok (levels n : Nat) (v : Json) : readWithin levels (brackets n) ≠ .ok v := by
  have hall : ∀ v, readAll levels (List.replicate n '[') ≠ .ok v := by
    intro v hv
    rw [readAll_brackets] at hv
    obtain ⟨x, hx, -⟩ := bind_eq_ok.mp hv
    exact readValue_unclosed hx
  intro hread
  rw [readWithin, brackets, String.toList_ofList] at hread
  dsimp only at hread
  split at hread
  · rename_i hok
    exact hall _ hok
  · cases hread
  · cases hread
  · cases hread

/-! ## As bytes -/

/-- Brackets are read back from their bytes. -/
theorem detect?_brackets {n : Nat} (h : 4 ≤ n) : Text.detect? (Text.utf8Bytes (brackets n)) = some (brackets n) := by
  obtain ⟨n, rfl⟩ : ∃ more, n = more + 4 := ⟨n - 4, by omega⟩
  have hbytes : Text.utf8Bytes (brackets (n + 4))
      = 0x5B :: 0x5B :: 0x5B :: 0x5B :: (List.replicate n '[').flatMap String.utf8EncodeChar :=
    Text.utf8Bytes_ofList _
  have hread := Text.ofUtf8?_utf8Bytes (brackets (n + 4))
  rw [hbytes] at hread ⊢
  exact hread

end PromptGraph.Json
