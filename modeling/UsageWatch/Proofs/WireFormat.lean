import UsageWatch.Wire.Field
/-!
# Fields can be read back

Numbers and fields are read back from their bytes, whatever follows them, so a
sequence of fields falls apart where it was put together. Beyond the bytes, a
message is read by number: what is found under one number does not depend on
the fields with other numbers.
-/

namespace UsageWatch.Wire

/-! ## Bytes -/

theorem readVarint_varint (n : Nat) (rest : List UInt8) :
    readVarint (varint n ++ rest) = some (n, rest) := by
  induction n using Nat.strongRecOn with
  | ind n ih =>
    rw [varint]
    by_cases hlast : n < 128
    · have hbyte : (UInt8.ofNat n).toNat = n :=
        UInt8.toNat_ofNat_of_lt' (Nat.lt_trans hlast (by decide))
      simp [readVarint, hlast, hbyte]
    · have hbyte : (UInt8.ofNat (n % 128 + 128)).toNat = n % 128 + 128 :=
        UInt8.toNat_ofNat_of_lt' (Nat.add_lt_add_right (Nat.mod_lt n (by decide)) 128)
      have hmore : ¬ n % 128 + 128 < 128 := by omega
      have hsum : n % 128 + 128 * (n / 128) = n := Nat.mod_add_div n 128
      simp only [if_neg hlast, List.cons_append, readVarint, hbyte, if_neg hmore,
        ih (n / 128) (by omega), Option.map_some, Nat.add_sub_cancel, hsum]

theorem varint_ne_nil (n : Nat) : varint n ≠ [] := by
  rw [varint]
  split <;> simp

theorem Field.readField_encode (f : Field) (rest : List UInt8) :
    readField (f.encode ++ rest) = some (f, rest) := by
  obtain ⟨number, value⟩ := f
  cases value with
  | varint n =>
    have hshape : number * 8 % 8 = 0 := by omega
    simp [Field.encode, readField, readVarint_varint, hshape]
  | bytes bs =>
    have hshape : (number * 8 + 2) % 8 = 2 := by omega
    have hnumber : (number * 8 + 2) / 8 = number := by omega
    simp [Field.encode, readField, readVarint_varint, hshape, hnumber]

theorem Field.encode_ne_nil (f : Field) : f.encode ≠ [] := by
  obtain ⟨number, value⟩ := f
  cases value <;> simp [Field.encode, varint_ne_nil]

theorem encode_cons (f : Field) (fs : List Field) : encode (f :: fs) = f.encode ++ encode fs := rfl

theorem length_le_length_encode (fs : List Field) : fs.length ≤ (encode fs).length := by
  induction fs with
  | nil => exact Nat.le_refl _
  | cons f fs ih =>
    have hpos : 0 < f.encode.length := List.length_pos_iff.mpr f.encode_ne_nil
    rw [encode_cons, List.length_append, List.length_cons]
    omega

theorem decodeUpTo_encode : ∀ (fs : List Field) (fuel : Nat), fs.length ≤ fuel →
    decodeUpTo fuel (encode fs) = some fs
  | [], fuel, _ => by cases fuel <;> rfl
  | f :: fs, fuel + 1, h => by
    have ih := decodeUpTo_encode fs fuel (Nat.le_of_succ_le_succ h)
    have hread : readField (encode (f :: fs)) = some (f, encode fs) := f.readField_encode _
    have hne : encode (f :: fs) ≠ [] := List.append_ne_nil_of_left_ne_nil f.encode_ne_nil _
    obtain ⟨b, bs, hbytes⟩ := List.exists_cons_of_ne_nil hne
    rw [hbytes] at hread ⊢
    simp [decodeUpTo, hread, ih]

theorem decode_encode (fs : List Field) : decode (encode fs) = some fs :=
  decodeUpTo_encode fs _ (length_le_length_encode fs)

/-! ## Texts -/

theorem byteArray_toList_loop (b : ByteArray) (i : Nat) (r : List UInt8) :
    ByteArray.toList.loop b i r = r.reverse ++ b.data.toList.drop i := by
  fun_induction ByteArray.toList.loop b i r with
  | case1 i r h ih =>
    have hi : i < b.data.toList.length := h
    have hbyte : b.get! i = b.data.toList[i] := getElem!_pos b.data i h
    rw [ih, List.drop_eq_getElem_cons hi, hbyte, List.reverse_cons, List.append_assoc,
      List.singleton_append]
  | case2 i r h =>
    have hi : b.data.toList.length ≤ i := Nat.le_of_not_lt h
    rw [List.drop_eq_nil_of_le hi, List.append_nil]

theorem ofUtf8?_utf8 (s : String) : ofUtf8? (utf8 s) = some s := by
  have hbytes : utf8 s = s.toByteArray.data.toList := byteArray_toList_loop _ 0 []
  unfold ofUtf8? String.fromUTF8?
  rw [hbytes]
  exact dif_pos s.isValidUTF8

/-! ## Fields of one number -/

variable {α : Type} {j k : Nat} {fs gs : List Field}

@[simp] theorem valuesOf_append : valuesOf k (fs ++ gs) = valuesOf k fs ++ valuesOf k gs := by
  simp [valuesOf]

theorem valuesOf_of_number (h : ∀ f ∈ fs, f.number = j) :
    valuesOf k fs = if j = k then fs.map (·.value) else [] := by
  unfold valuesOf
  by_cases hjk : j = k
  · rw [if_pos hjk, List.filter_eq_self.mpr fun f hf => by simp [h f hf, hjk]]
  · rw [if_neg hjk, List.filter_eq_nil_iff.mpr fun f hf => by simp [h f hf, hjk], List.map_nil]

@[simp] theorem valuesOf_int64 (n : Int64) :
    valuesOf k (int64 j n) = if j = k then (int64 j n).map (·.value) else [] := by
  refine valuesOf_of_number fun f hf => ?_
  unfold int64 at hf
  split at hf <;> simp_all

@[simp] theorem valuesOf_int32 (n : Int32) :
    valuesOf k (int32 j n) = if j = k then (int32 j n).map (·.value) else [] :=
  valuesOf_int64 n.toInt64

@[simp] theorem valuesOf_text (s : String) :
    valuesOf k (text j s) = if j = k then (text j s).map (·.value) else [] := by
  refine valuesOf_of_number fun f hf => ?_
  unfold text at hf
  split at hf <;> simp_all

@[simp] theorem valuesOf_repeated (fields : α → List Field) (ms : List α) :
    valuesOf k (repeated j fields ms) = if j = k then (repeated j fields ms).map (·.value) else [] := by
  refine valuesOf_of_number fun f hf => ?_
  obtain ⟨m, _, rfl⟩ := List.mem_map.mp hf
  rfl

@[simp] theorem valuesOf_nested (fields : α → List Field) (m : Option α) :
    valuesOf k (nested j fields m) = if j = k then (nested j fields m).map (·.value) else [] :=
  valuesOf_repeated fields m.toList

/-! ## Reading by number -/

theorem getInt64_eq {n : Int64} (h : valuesOf k fs = valuesOf k (int64 k n)) :
    getInt64 k fs = some n := by
  unfold getInt64
  rw [h, valuesOf_int64, if_pos rfl]
  by_cases hn : n = 0
  · simp [int64, hn]
  · simp [int64, hn, Int64.toInt64_toUInt64]

theorem getInt32_eq {n : Int32} (h : valuesOf k fs = valuesOf k (int32 k n)) :
    getInt32 k fs = some n := by
  unfold getInt32
  rw [getInt64_eq h, Option.map_some, Int32.toInt32_toInt64]

theorem getText_eq {s : String} (h : valuesOf k fs = valuesOf k (text k s)) :
    getText k fs = some s := by
  unfold getText
  rw [h, valuesOf_text, if_pos rfl]
  by_cases hs : s = ""
  · simp [text, hs]
  · simp [text, hs, ofUtf8?_utf8]

def ReadsBack (fields : α → List Field) (ofFields : List Field → Option α) : Prop :=
  ∀ m, ofFields (fields m) = some m

variable {fields : α → List Field} {ofFields : List Field → Option α}

theorem ReadsBack.messageOf_encode (hread : ReadsBack fields ofFields) (m : α) :
    messageOf ofFields (.bytes (encode (fields m))) = some m := by
  change (decode (encode (fields m))).bind ofFields = some m
  rw [decode_encode, Option.bind_some, hread m]

theorem getNested_eq (hread : ReadsBack fields ofFields) {m : Option α}
    (h : valuesOf k fs = valuesOf k (nested k fields m)) : getNested k ofFields fs = some m := by
  unfold getNested
  rw [h, valuesOf_nested, if_pos rfl]
  cases m with
  | none => rfl
  | some m => simp [nested, hread.messageOf_encode]

theorem getRepeated_eq (hread : ReadsBack fields ofFields) {ms : List α}
    (h : valuesOf k fs = valuesOf k (repeated k fields ms)) :
    getRepeated k ofFields fs = some ms := by
  have hbytes : (repeated k fields ms).map (·.value) = ms.map fun m => .bytes (encode (fields m)) := by
    simp [repeated]
  unfold getRepeated
  rw [h, valuesOf_repeated, if_pos rfl, hbytes]
  clear h hbytes
  induction ms with
  | nil => rfl
  | cons m ms ih =>
    rw [List.map_cons, List.mapM_cons, hread.messageOf_encode, ih]
    rfl

end UsageWatch.Wire
