import SqlSchema.Text.Basic
/-!
# Slices of joined texts

A slice depends only on the part of a text that it is cut from, so it can be cut before or after other
text is put in front of that part or behind it.
-/
namespace SqlSchema.Text

@[simp] theorem byteSize_nil : byteSize [] = 0 := rfl

@[simp] theorem byteSize_cons (c : Char) (cs : List Char) :
    byteSize (c :: cs) = c.utf8Size + byteSize cs := rfl

@[simp] theorem byteSize_append (xs ys : List Char) :
    byteSize (xs ++ ys) = byteSize xs + byteSize ys := by
  induction xs with
  | nil => simp
  | cons x xs ih => simp only [List.cons_append, byteSize_cons, ih, Nat.add_assoc]

@[simp] theorem utf8ByteSize_ofList (cs : List Char) :
    (String.ofList cs).utf8ByteSize = byteSize cs := by
  induction cs with
  | nil => rfl
  | cons c cs ih => simp [String.ofList_cons, ih]

theorem byteSize_toList (s : String) : byteSize s.toList = s.utf8ByteSize := by
  rw [← utf8ByteSize_ofList, String.ofList_toList]

theorem slice?_append_left (s after : String) (start : Nat) {stop : Nat}
    (h : stop ≤ s.utf8ByteSize) : slice? (s ++ after) start stop = slice? s start stop := by
  have hs : s.toByteArray.size = s.utf8ByteSize := rfl
  have hnone : after.toByteArray.extract (start - s.utf8ByteSize) 0 = ByteArray.empty :=
    ByteArray.extract_eq_empty_iff.2 (by omega)
  have he : (s ++ after).toByteArray.extract start stop = s.toByteArray.extract start stop := by
    rw [String.toByteArray_append, ByteArray.extract_append, hs,
      show stop - s.utf8ByteSize = 0 by omega, hnone, ByteArray.append_empty]
  have hb : stop ≤ (s ++ after).utf8ByteSize := by rw [String.utf8ByteSize_append]; omega
  simp only [slice?, he, h, hb, and_true]

theorem slice?_append_right (before s : String) (start stop : Nat) :
    slice? (before ++ s) (before.utf8ByteSize + start) (before.utf8ByteSize + stop) =
      slice? s start stop := by
  have he : (before ++ s).toByteArray.extract (before.utf8ByteSize + start)
      (before.utf8ByteSize + stop) = s.toByteArray.extract start stop := by
    rw [String.toByteArray_append]
    exact ByteArray.extract_append_size_add
  simp only [slice?, he, String.utf8ByteSize_append, Nat.add_le_add_iff_left]

theorem slice?_all (s : String) : slice? s 0 s.utf8ByteSize = some s := by
  have he : s.toByteArray.extract 0 s.utf8ByteSize = s.toByteArray := ByteArray.extract_zero_size
  simp only [slice?, he, Nat.zero_le, Nat.le_refl, and_self, if_true, String.fromUTF8?,
    String.isValidUTF8, dif_pos]
  rfl

theorem slice?_middle (before part after : String) :
    slice? (before ++ part ++ after) before.utf8ByteSize
      (before.utf8ByteSize + part.utf8ByteSize) = some part := by
  rw [slice?_append_left _ _ _ (Nat.le_of_eq (String.utf8ByteSize_append ..).symm)]
  have := slice?_append_right before part 0 part.utf8ByteSize
  rwa [Nat.add_zero, slice?_all] at this

end SqlSchema.Text
