import ExportList.Proofs.Utf8

/-!
Byte offsets into the UTF-8 form of a text.  An offset is a boundary if it lies between two of the
code points of the text, and the bytes between two boundaries are the UTF-8 form of the code points
between them.
-/

set_option autoImplicit false

namespace ExportList

namespace Text

def width : Text → Nat
  | [] => 0
  | c :: t => (Utf8.encodePoint c).length + width t

def fromByte (offset : Nat) : Text → Text
  | [] => []
  | c :: t =>
    if offset = 0 then c :: t else fromByte (offset - (Utf8.encodePoint c).length) t

def upToByte (offset : Nat) : Text → Text
  | [] => []
  | c :: t =>
    if offset = 0 then [] else c :: upToByte (offset - (Utf8.encodePoint c).length) t

def between (t : Text) (start stop : Nat) : Text := (t.fromByte start).upToByte (stop - start)

/-- A byte offset lies between code points of a text, or at one of its ends. -/
def IsBoundary (t : Text) (offset : Nat) : Prop :=
  ∃ before after, t = before ++ after ∧ before.width = offset

@[simp] theorem width_nil : width [] = 0 := rfl

theorem width_append (s t : Text) : (s ++ t).width = s.width + t.width := by
  induction s with
  | nil => simp
  | cons c s ih => simp only [List.cons_append, width, ih, Nat.add_assoc]

private theorem length_encodePoint_pos (c : CodePoint) : 0 < (Utf8.encodePoint c).length := by
  simp only [Utf8.encodePoint]
  split_ifs <;> exact Nat.succ_pos _

theorem fromByte_zero (t : Text) : fromByte 0 t = t := by
  cases t <;> rfl

theorem fromByte_width_append (s t : Text) : fromByte s.width (s ++ t) = t := by
  induction s with
  | nil => exact fromByte_zero t
  | cons c s ih =>
    have := length_encodePoint_pos c
    simp only [List.cons_append, width, fromByte]
    rw [if_neg (by omega), Nat.add_sub_cancel_left, ih]

theorem upToByte_width_append (s t : Text) : upToByte s.width (s ++ t) = s := by
  induction s with
  | nil => cases t <;> rfl
  | cons c s ih =>
    have := length_encodePoint_pos c
    simp only [List.cons_append, width, upToByte]
    rw [if_neg (by omega), Nat.add_sub_cancel_left, ih]

theorem upToByte_append_fromByte (offset : Nat) (t : Text) :
    t.upToByte offset ++ t.fromByte offset = t := by
  induction t generalizing offset with
  | nil => rfl
  | cons c t ih =>
    by_cases h : offset = 0
    · simp [upToByte, fromByte, h]
    · simp [upToByte, fromByte, h, ih]

theorem isBoundary_iff {t : Text} {offset : Nat} :
    t.IsBoundary offset ↔ (t.upToByte offset).width = offset := by
  constructor
  · rintro ⟨before, after, rfl, rfl⟩
    rw [upToByte_width_append]
  · intro h
    exact ⟨_, _, (upToByte_append_fromByte offset t).symm, h⟩

instance (t : Text) (offset : Nat) : Decidable (t.IsBoundary offset) :=
  decidable_of_iff _ isBoundary_iff.symm

/-- The code points between the ends of a middle part are that part. -/
theorem between_width (s m t : Text) : between (s ++ m ++ t) s.width (s ++ m).width = m := by
  rw [between, width_append, Nat.add_sub_cancel_left, List.append_assoc, fromByte_width_append,
    upToByte_width_append]

theorem between_eq_nil {t : Text} {start stop : Nat} (h : stop ≤ start) :
    between t start stop = [] := by
  rw [between, Nat.sub_eq_zero_of_le h]
  cases fromByte start t <;> rfl

end Text

namespace Utf8

theorem length_of_encode? {t : Text} {bytes : Bytes} (h : encode? t = some bytes) :
    bytes.length = t.width := by
  induction t generalizing bytes with
  | nil =>
    cases h
    rfl
  | cons c t ih =>
    obtain ⟨_, rest, ht, rfl⟩ := encode?_cons_eq_some_iff.mp h
    rw [List.length_append, Text.width, ih ht]

end Utf8

namespace Bytes

private theorem clampOffset_natCast {length offset : Nat} (h : offset ≤ length) :
    clampOffset length (offset : Int) = offset := by
  have nonneg : ¬(offset : Int) < 0 := by omega
  simp only [clampOffset, nonneg, if_false, Int.toNat_natCast]
  exact Nat.min_eq_left h

theorem slice_eq {bytes : Bytes} {start stop : Nat} (h : start ≤ bytes.length)
    (h' : stop ≤ bytes.length) :
    slice bytes start stop = (bytes.drop start).take (stop - start) := by
  simp only [slice, clampOffset_natCast h, clampOffset_natCast h']

/-- What is put behind some bytes does not change what lies between offsets into them. -/
theorem slice_append {bytes more : Bytes} {start stop : Nat} (h : start ≤ bytes.length)
    (h' : stop ≤ bytes.length) : slice (bytes ++ more) start stop = slice bytes start stop := by
  have longer : bytes.length ≤ (bytes ++ more).length := by simp
  rw [slice_eq h h', slice_eq (Nat.le_trans h longer) (Nat.le_trans h' longer),
    List.drop_append_of_le_length h, List.take_append_of_le_length]
  rw [List.length_drop]
  omega

theorem length_slice_le (bytes : Bytes) (start : Int) (stop : Nat) :
    (slice bytes start stop).length ≤ stop := by
  have clamped : clampOffset bytes.length (stop : Int) ≤ stop := by
    have nonneg : ¬(stop : Int) < 0 := by omega
    simp only [clampOffset, nonneg, if_false, Int.toNat_natCast]
    exact Nat.min_le_left _ _
  have taken := List.length_take_le (clampOffset bytes.length (stop : Int) -
    clampOffset bytes.length start) (bytes.drop (clampOffset bytes.length start))
  simp only [slice]
  omega

end Bytes

/-- The bytes of a middle part of a text are the UTF-8 form of that part. -/
theorem Utf8.decode_slice_width {s m t : Text} {bytes : Bytes}
    (h : Utf8.encode? (s ++ m ++ t) = some bytes) :
    Utf8.decode (Bytes.slice bytes s.width (s ++ m).width) = .ok m := by
  obtain ⟨front, last, hf, _, rfl⟩ := encode?_append_eq_some_iff.mp h
  obtain ⟨first, middle, hs, hm, rfl⟩ := encode?_append_eq_some_iff.mp hf
  have first_length := length_of_encode? hs
  have front_length := length_of_encode? hf
  rw [decode_eq_ok_iff, hm, ← first_length, ← front_length, Bytes.slice_eq (by simp) (by simp),
    List.append_assoc, List.drop_left, List.length_append, Nat.add_sub_cancel_left, List.take_left]

/-- Between two boundaries the bytes of a text are those of the code points there. -/
theorem Utf8.decode_slice {source : Text} {bytes : Bytes} {start stop : Nat}
    (h : Utf8.encode? source = some bytes) (hs : source.IsBoundary start)
    (he : source.IsBoundary stop) :
    Utf8.decode (Bytes.slice bytes start stop) = .ok (source.between start stop) := by
  obtain ⟨first, rest, rfl, rfl⟩ := hs
  obtain ⟨front, last, split, rfl⟩ := he
  rcases List.append_eq_append_iff.mp split with ⟨m, rfl, rfl⟩ | ⟨m, rfl, rfl⟩
  · rw [← List.append_assoc] at h ⊢
    rw [Text.between_width, decode_slice_width h]
  · -- The second boundary comes first: no bytes and no code points lie between.
    have order : front.width ≤ (front ++ m).width := by
      rw [Text.width_append]
      omega
    have inside : (front ++ m).width ≤ bytes.length := by
      rw [length_of_encode? h, Text.width_append (front ++ m)]
      omega
    rw [Text.between_eq_nil order, Bytes.slice_eq inside (Nat.le_trans order inside),
      Nat.sub_eq_zero_of_le order, List.take_zero]
    rfl

end ExportList
