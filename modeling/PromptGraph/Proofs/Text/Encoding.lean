import PromptGraph.Text.Encoding

/-!
# `Proofs.Text.Encoding` — a text is read back from its bytes

## Contents
- `toList_loop`: what the bytes of an array are as a list.
- `utf8Bytes_ofList`, and `ofUtf8?_utf8Bytes`: for every text; conversely `utf8Bytes_of_ofUtf8?`.
-/

namespace PromptGraph.Text

/-- The bytes from a position on, after those that were taken before. -/
theorem toList_loop (bytes : ByteArray) (taken : List UInt8) {left i : Nat} (h : bytes.size - i = left) :
    ByteArray.toList.loop bytes i taken = taken.reverse ++ bytes.data.toList.drop i := by
  induction left generalizing i taken with
  | zero =>
      have hend : ¬ i < bytes.size := by omega
      have hdrop : bytes.data.toList.length ≤ i := Nat.le_of_not_lt hend
      rw [ByteArray.toList.loop, if_neg hend, List.drop_eq_nil_of_le hdrop, List.append_nil]
  | succ left ih =>
      have hlt : i < bytes.size := by omega
      have hbyte : bytes.get! i = bytes.data.toList.get ⟨i, hlt⟩ := getElem!_pos bytes.data i hlt
      rw [ByteArray.toList.loop, if_pos hlt, ih _ (by omega), List.drop_eq_getElem_cons hlt, hbyte, List.reverse_cons,
        List.append_assoc]
      rfl

/-- The bytes of a text are those of its characters. -/
theorem utf8Bytes_ofList (cs : List Char) : utf8Bytes (String.ofList cs) = cs.flatMap String.utf8EncodeChar := by
  show ByteArray.toList.loop (String.ofList cs).toByteArray 0 [] = _
  rw [toList_loop _ [] rfl, String.toByteArray_ofList, List.utf8Encode, List.data_toByteArray]
  rfl

/-- **A text is read back from its bytes.** -/
theorem ofUtf8?_utf8Bytes (s : String) : ofUtf8? (utf8Bytes s) = some s := by
  -- the bytes go from an array to a list and back
  have hbytes : ByteArray.mk (utf8Bytes s).toArray = s.toByteArray := by
    show ByteArray.mk (ByteArray.toList.loop s.toByteArray 0 []).toArray = s.toByteArray
    rw [toList_loop s.toByteArray [] rfl]
    rfl
  rw [ofUtf8?, hbytes, String.fromUTF8?, dif_pos s.isValidUTF8]
  rfl

/-- Bytes that are read as a text are its bytes. -/
theorem utf8Bytes_of_ofUtf8? {bs : List UInt8} {s : String} (h : ofUtf8? bs = some s) : utf8Bytes s = bs := by
  rw [ofUtf8?, String.fromUTF8?] at h
  split at h
  · cases h
    show ByteArray.toList.loop (ByteArray.mk bs.toArray) 0 [] = bs
    rw [toList_loop _ [] rfl]
    rfl
  · cases h

end PromptGraph.Text
