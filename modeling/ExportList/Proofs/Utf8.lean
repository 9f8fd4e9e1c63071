import ExportList.Proofs.Sequence
import ExportList.Text.Utf8

/-!
Decoding accepts exactly the byte sequences that encoding produces.  Both are compared with the
sequences of bytes that spell one code point: the first byte says how many follow, and the second
one excludes overlong forms, surrogates and numbers past the end of the code space.
-/

set_option autoImplicit false

namespace ExportList.Utf8

def InRange (lower upper : Nat) (b : UInt8) : Prop := lower ≤ b.toNat ∧ b.toNat ≤ upper

/-- A byte can be the second one after the first one of a sequence of three or four bytes. -/
def IsSecond (a b : UInt8) : Prop :=
  InRange 0x80 0xBF b ∧ (a.toNat = 0xE0 → 0xA0 ≤ b.toNat) ∧ (a.toNat = 0xED → b.toNat ≤ 0x9F) ∧
    (a.toNat = 0xF0 → 0x90 ≤ b.toNat) ∧ (a.toNat = 0xF4 → b.toNat ≤ 0x8F)

/-- Bytes spell the code point of a number. -/
inductive Spells : Bytes → Nat → Prop where
  | one {a : UInt8} : a.toNat < 0x80 → Spells [a] a.toNat
  | two {a b : UInt8} : InRange 0xC2 0xDF a → InRange 0x80 0xBF b →
      Spells [a, b] ((a.toNat - 0xC0) * 0x40 + (b.toNat - 0x80))
  | three {a b c : UInt8} : InRange 0xE0 0xEF a → IsSecond a b → InRange 0x80 0xBF c →
      Spells [a, b, c] (((a.toNat - 0xE0) * 0x40 + (b.toNat - 0x80)) * 0x40 + (c.toNat - 0x80))
  | four {a b c d : UInt8} : InRange 0xF0 0xF4 a → IsSecond a b → InRange 0x80 0xBF c →
      InRange 0x80 0xBF d →
      Spells [a, b, c, d]
        ((((a.toNat - 0xF0) * 0x40 + (b.toNat - 0x80)) * 0x40 + (c.toNat - 0x80)) * 0x40 +
          (d.toNat - 0x80))

private theorem toNat_toUInt8 {n : Nat} (h : n < 0x100) : n.toUInt8.toNat = n := by
  simp [Nat.toUInt8, h]

private theorem toUInt8_eq {n : Nat} {b : UInt8} (h : n = b.toNat) : n.toUInt8 = b := by
  rw [h]
  simp

private theorem val_ofNat {n : Nat} (h : n < 0x110000) : (CodePoint.ofNat n).val = n := by
  simp [CodePoint.ofNat, Nat.mod_eq_of_lt h]

private theorem isSurrogate_eq_false_iff {c : CodePoint} :
    c.isSurrogate = false ↔ c.val < 0xD800 ∨ 0xE000 ≤ c.val := by
  simp only [CodePoint.isSurrogate, Bool.and_eq_false_iff, decide_eq_false_iff_not]
  omega

theorem Spells.length_pos {bytes : Bytes} {n : Nat} (h : Spells bytes n) : 0 < bytes.length := by
  cases h <;> exact Nat.succ_pos _

/-- What bytes spell is written with these bytes. -/
theorem Spells.encodePoint {bytes : Bytes} {n : Nat} (h : Spells bytes n) :
    encodePoint (CodePoint.ofNat n) = bytes ∧ (CodePoint.ofNat n).isSurrogate = false := by
  rw [isSurrogate_eq_false_iff]
  cases h with
  | @one a ha =>
    have hv := val_ofNat (show a.toNat < 0x110000 by omega)
    refine ⟨?_, by omega⟩
    simp only [Utf8.encodePoint, hv]
    rw [if_pos ha, toUInt8_eq rfl]
  | @two a b ha hb =>
    unfold InRange at ha hb
    generalize hn : (a.toNat - 0xC0) * 0x40 + (b.toNat - 0x80) = n
    have hv := val_ofNat (show n < 0x110000 by omega)
    refine ⟨?_, by omega⟩
    simp only [Utf8.encodePoint, hv]
    rw [if_neg (by omega), if_pos (by omega), toUInt8_eq (b := a) (by omega),
      toUInt8_eq (b := b) (by omega)]
  | @three a b c ha hb hc =>
    unfold IsSecond at hb
    unfold InRange at ha hb hc
    generalize hn : ((a.toNat - 0xE0) * 0x40 + (b.toNat - 0x80)) * 0x40 + (c.toNat - 0x80) = n
    have hv := val_ofNat (show n < 0x110000 by omega)
    refine ⟨?_, by omega⟩
    simp only [Utf8.encodePoint, hv]
    rw [if_neg (by omega), if_neg (by omega), if_pos (by omega), toUInt8_eq (b := a) (by omega),
      toUInt8_eq (b := b) (by omega), toUInt8_eq (b := c) (by omega)]
  | @four a b c d ha hb hc hd =>
    unfold IsSecond at hb
    unfold InRange at ha hb hc hd
    generalize hn : (((a.toNat - 0xF0) * 0x40 + (b.toNat - 0x80)) * 0x40 + (c.toNat - 0x80)) *
      0x40 + (d.toNat - 0x80) = n
    have hv := val_ofNat (show n < 0x110000 by omega)
    refine ⟨?_, by omega⟩
    simp only [Utf8.encodePoint, hv]
    rw [if_neg (by omega), if_neg (by omega), if_neg (by omega), toUInt8_eq (b := a) (by omega),
      toUInt8_eq (b := b) (by omega), toUInt8_eq (b := c) (by omega),
      toUInt8_eq (b := d) (by omega)]

/-- A code point other than a surrogate is spelled by its bytes. -/
theorem spells_encodePoint {c : CodePoint} (h : c.isSurrogate = false) :
    Spells (encodePoint c) c.val := by
  rw [isSurrogate_eq_false_iff] at h
  have hc := c.isLt
  generalize hn : c.val = n at h hc
  simp only [Utf8.encodePoint, hn]
  split_ifs with h1 h2 h3
  · have ha := toNat_toUInt8 (show n < 0x100 by omega)
    have hs : Spells [n.toUInt8] n.toUInt8.toNat := .one (by omega)
    rwa [ha] at hs
  · have ha := toNat_toUInt8 (show 0xC0 + n / 0x40 < 0x100 by omega)
    have hb := toNat_toUInt8 (show 0x80 + n % 0x40 < 0x100 by omega)
    have hs := Spells.two (a := (0xC0 + n / 0x40).toUInt8) (b := (0x80 + n % 0x40).toUInt8)
      (by unfold InRange; omega) (by unfold InRange; omega)
    rw [ha, hb] at hs
    convert hs using 1
    omega
  · have ha := toNat_toUInt8 (show 0xE0 + n / 0x1000 < 0x100 by omega)
    have hb := toNat_toUInt8 (show 0x80 + n / 0x40 % 0x40 < 0x100 by omega)
    have hc := toNat_toUInt8 (show 0x80 + n % 0x40 < 0x100 by omega)
    have hs := Spells.three (a := (0xE0 + n / 0x1000).toUInt8)
      (b := (0x80 + n / 0x40 % 0x40).toUInt8) (c := (0x80 + n % 0x40).toUInt8)
      (by unfold InRange; omega) (by unfold IsSecond InRange; omega) (by unfold InRange; omega)
    rw [ha, hb, hc] at hs
    convert hs using 1
    omega
  · have ha := toNat_toUInt8 (show 0xF0 + n / 0x40000 < 0x100 by omega)
    have hb := toNat_toUInt8 (show 0x80 + n / 0x1000 % 0x40 < 0x100 by omega)
    have hc := toNat_toUInt8 (show 0x80 + n / 0x40 % 0x40 < 0x100 by omega)
    have hd := toNat_toUInt8 (show 0x80 + n % 0x40 < 0x100 by omega)
    have hs := Spells.four (a := (0xF0 + n / 0x40000).toUInt8)
      (b := (0x80 + n / 0x1000 % 0x40).toUInt8) (c := (0x80 + n / 0x40 % 0x40).toUInt8)
      (d := (0x80 + n % 0x40).toUInt8)
      (by unfold InRange; omega) (by unfold IsSecond InRange; omega) (by unfold InRange; omega)
      (by unfold InRange; omega)
    rw [ha, hb, hc, hd] at hs
    convert hs using 1
    omega

private theorem opening_one {a : UInt8} (h : a.toNat < 0x80) :
    opening a = .point (CodePoint.ofNat a.toNat) := by
  simp only [opening]
  rw [if_pos h]

private theorem opening_two {a : UInt8} (h : InRange 0xC2 0xDF a) :
    opening a = .pending ⟨1, 0x80, 0xBF, a.toNat - 0xC0, 1, a⟩ := by
  unfold InRange at h
  simp only [opening]
  rw [if_neg (by omega), if_neg (by omega), if_pos (by omega)]

private theorem opening_three {a : UInt8} (h : InRange 0xE0 0xEF a) :
    opening a = .pending ⟨2, if a.toNat = 0xE0 then 0xA0 else 0x80,
      if a.toNat = 0xED then 0x9F else 0xBF, a.toNat - 0xE0, 1, a⟩ := by
  unfold InRange at h
  simp only [opening]
  rw [if_neg (by omega), if_neg (by omega), if_neg (by omega), if_pos (by omega)]

private theorem opening_four {a : UInt8} (h : InRange 0xF0 0xF4 a) :
    opening a = .pending ⟨3, if a.toNat = 0xF0 then 0x90 else 0x80,
      if a.toNat = 0xF4 then 0x8F else 0xBF, a.toNat - 0xF0, 1, a⟩ := by
  unfold InRange at h
  simp only [opening]
  rw [if_neg (by omega), if_neg (by omega), if_neg (by omega), if_neg (by omega),
    if_pos (by omega)]

private theorem opening_invalid {a : UInt8} (h0 : ¬a.toNat < 0x80) (h1 : ¬InRange 0xC2 0xDF a)
    (h2 : ¬InRange 0xE0 0xEF a) (h3 : ¬InRange 0xF0 0xF4 a) : opening a = .invalid := by
  unfold InRange at h1 h2 h3
  simp only [opening]
  split_ifs <;> first | rfl | omega

private def Accepts (p : Pending) (b : UInt8) : Prop := p.lower ≤ b ∧ b ≤ p.upper

private theorem accepts_tail {missing value size : Nat} {first b : UInt8} :
    Accepts ⟨missing, 0x80, 0xBF, value, size, first⟩ b ↔ InRange 0x80 0xBF b := by
  simp [Accepts, InRange, UInt8.le_iff_toNat_le]

private theorem accepts_three {a b : UInt8} (h : InRange 0xE0 0xEF a) {value size : Nat} :
    Accepts ⟨2, if a.toNat = 0xE0 then 0xA0 else 0x80, if a.toNat = 0xED then 0x9F else 0xBF,
      value, size, a⟩ b ↔ IsSecond a b := by
  unfold InRange at h
  simp only [Accepts, IsSecond, InRange, UInt8.le_iff_toNat_le]
  split_ifs <;> simp <;> omega

private theorem accepts_four {a b : UInt8} (h : InRange 0xF0 0xF4 a) {value size : Nat} :
    Accepts ⟨3, if a.toNat = 0xF0 then 0x90 else 0x80, if a.toNat = 0xF4 then 0x8F else 0xBF,
      value, size, a⟩ b ↔ IsSecond a b := by
  unfold InRange at h
  simp only [Accepts, IsSecond, InRange, UInt8.le_iff_toNat_le]
  split_ifs <;> simp <;> omega

private theorem piecesFrom_last {lower upper first b : UInt8} {value size : Nat}
    (h : Accepts ⟨1, lower, upper, value, size, first⟩ b) (offset : Nat) (rest : Bytes) :
    piecesFrom offset (some ⟨1, lower, upper, value, size, first⟩) (b :: rest) =
      .point (CodePoint.ofNat (value * 0x40 + (b.toNat - 0x80))) ::
        piecesFrom (offset + 1) none rest := by
  simp [piecesFrom, feed, feedPending, h.1, h.2]

private theorem piecesFrom_tail {lower upper first b : UInt8} {m value size : Nat}
    (h : Accepts ⟨m + 2, lower, upper, value, size, first⟩ b) (offset : Nat) (rest : Bytes) :
    piecesFrom offset (some ⟨m + 2, lower, upper, value, size, first⟩) (b :: rest) =
      piecesFrom (offset + 1)
        (some ⟨m + 1, 0x80, 0xBF, value * 0x40 + (b.toNat - 0x80), size + 1, first⟩) rest := by
  simp [piecesFrom, feed, feedPending, h.1, h.2]

private theorem piecesFrom_first {a : UInt8} {p : Pending} (h : opening a = .pending p)
    (offset : Nat) (rest : Bytes) :
    piecesFrom offset none (a :: rest) = piecesFrom (offset + 1) (some p) rest := by
  simp [piecesFrom, feed, feedFresh, h]

/-- Bytes that spell a code point are read as it, whatever follows. -/
theorem Spells.piecesFrom {bytes : Bytes} {n : Nat} (h : Spells bytes n) (offset : Nat)
    (rest : Bytes) :
    piecesFrom offset none (bytes ++ rest) =
      .point (CodePoint.ofNat n) :: piecesFrom (offset + bytes.length) none rest := by
  cases h with
  | @one a ha => simp [Utf8.piecesFrom, feed, feedFresh, opening_one ha]
  | @two a b ha hb =>
    simp only [List.cons_append, List.nil_append]
    rw [piecesFrom_first (opening_two ha), piecesFrom_last (accepts_tail.mpr hb)]
    rfl
  | @three a b c ha hb hc =>
    simp only [List.cons_append, List.nil_append]
    rw [piecesFrom_first (opening_three ha), piecesFrom_tail (m := 0) ((accepts_three ha).mpr hb),
      piecesFrom_last (accepts_tail.mpr hc)]
    rfl
  | @four a b c d ha hb hc hd =>
    simp only [List.cons_append, List.nil_append]
    rw [piecesFrom_first (opening_four ha), piecesFrom_tail (m := 1) ((accepts_four ha).mpr hb),
      piecesFrom_tail (m := 0) (accepts_tail.mpr hc), piecesFrom_last (accepts_tail.mpr hd)]
    rfl

private theorem exists_accepted {offset : Nat} {p : Pending} {bytes : Bytes} {t : Text}
    (h : collect (piecesFrom offset (some p) bytes) = .ok t) :
    ∃ b rest, bytes = b :: rest ∧ Accepts p b := by
  cases bytes with
  | nil => simp [Utf8.piecesFrom, collect] at h
  | cons b rest =>
    refine ⟨b, rest, rfl, ?_⟩
    by_contra refused
    have range : (decide (p.lower ≤ b) && decide (b ≤ p.upper)) = false := by
      simpa [Accepts] using refused
    simp [Utf8.piecesFrom, feed, feedPending, range, collect] at h

private theorem collect_point {c : CodePoint} {rest : List Piece} {t : Text}
    (h : collect (.point c :: rest) = .ok t) : ∃ t', t = c :: t' ∧ collect rest = .ok t' := by
  obtain ⟨t', ht, rfl⟩ := map_eq_ok_iff.mp h
  exact ⟨t', rfl, ht⟩

/-- Bytes that are read without a fault begin with bytes that spell the first code point. -/
theorem exists_spells {offset : Nat} {bytes : Bytes} {t : Text} (some : bytes ≠ [])
    (h : collect (piecesFrom offset none bytes) = .ok t) :
    ∃ first n rest t', bytes = first ++ rest ∧ Spells first n ∧ t = CodePoint.ofNat n :: t' ∧
      collect (piecesFrom (offset + first.length) none rest) = .ok t' := by
  -- It is enough to find the spelling: what it is read as is known.
  have found : ∃ first n rest, bytes = first ++ rest ∧ Spells first n := by
    obtain ⟨a, rest, rfl⟩ := List.exists_cons_of_ne_nil some
    by_cases h0 : a.toNat < 0x80
    · exact ⟨[a], _, rest, rfl, .one h0⟩
    by_cases h1 : InRange 0xC2 0xDF a
    · rw [piecesFrom_first (opening_two h1)] at h
      obtain ⟨b, rest, rfl, hb⟩ := exists_accepted h
      exact ⟨[a, b], _, rest, rfl, .two h1 (accepts_tail.mp hb)⟩
    by_cases h2 : InRange 0xE0 0xEF a
    · rw [piecesFrom_first (opening_three h2)] at h
      obtain ⟨b, rest, rfl, hb⟩ := exists_accepted h
      rw [piecesFrom_tail (m := 0) hb] at h
      obtain ⟨c, rest, rfl, hc⟩ := exists_accepted h
      exact ⟨[a, b, c], _, rest, rfl, .three h2 ((accepts_three h2).mp hb) (accepts_tail.mp hc)⟩
    by_cases h3 : InRange 0xF0 0xF4 a
    · rw [piecesFrom_first (opening_four h3)] at h
      obtain ⟨b, rest, rfl, hb⟩ := exists_accepted h
      rw [piecesFrom_tail (m := 1) hb] at h
      obtain ⟨c, rest, rfl, hc⟩ := exists_accepted h
      rw [piecesFrom_tail (m := 0) hc] at h
      obtain ⟨d, rest, rfl, hd⟩ := exists_accepted h
      exact ⟨[a, b, c, d], _, rest, rfl,
        .four h3 ((accepts_four h3).mp hb) (accepts_tail.mp hc) (accepts_tail.mp hd)⟩
    simp [Utf8.piecesFrom, feed, feedFresh, opening_invalid h0 h1 h2 h3, collect] at h
  obtain ⟨first, n, rest, rfl, hs⟩ := found
  rw [hs.piecesFrom] at h
  obtain ⟨t', rfl, ht⟩ := collect_point h
  exact ⟨first, n, rest, t', rfl, hs, rfl, ht⟩

theorem encode?_cons_eq_some_iff {c : CodePoint} {t : Text} {bytes : Bytes} :
    encode? (c :: t) = some bytes ↔
      c.isSurrogate = false ∧ ∃ rest, encode? t = some rest ∧ bytes = encodePoint c ++ rest := by
  rw [encode?]
  cases c.isSurrogate with
  | true => simp
  | false =>
    simp only [Bool.false_eq_true, if_false, Option.map_eq_some_iff, true_and]
    constructor
    · rintro ⟨rest, ht, rfl⟩
      exact ⟨rest, ht, rfl⟩
    · rintro ⟨rest, ht, rfl⟩
      exact ⟨rest, ht, rfl⟩

theorem encode?_append_eq_some_iff {s t : Text} {bytes : Bytes} :
    encode? (s ++ t) = some bytes ↔
      ∃ first rest, encode? s = some first ∧ encode? t = some rest ∧ bytes = first ++ rest := by
  induction s generalizing bytes with
  | nil => simp [encode?]
  | cons c s ih =>
    rw [List.cons_append, encode?_cons_eq_some_iff]
    constructor
    · rintro ⟨hc, _, h, rfl⟩
      obtain ⟨first, rest, hs, ht, rfl⟩ := ih.mp h
      exact ⟨encodePoint c ++ first, rest, encode?_cons_eq_some_iff.mpr ⟨hc, first, hs, rfl⟩, ht,
        (List.append_assoc ..).symm⟩
    · rintro ⟨_, rest, h, ht, rfl⟩
      obtain ⟨hc, first, hs, rfl⟩ := encode?_cons_eq_some_iff.mp h
      exact ⟨hc, first ++ rest, ih.mpr ⟨first, rest, hs, ht, rfl⟩, List.append_assoc ..⟩

private theorem encode?_of_collect {offset : Nat} {bytes : Bytes} {t : Text}
    (h : collect (piecesFrom offset none bytes) = .ok t) : encode? t = some bytes := by
  by_cases none : bytes = []
  · subst bytes
    cases h
    rfl
  · obtain ⟨first, n, rest, t', rfl, hs, rfl, ht⟩ := exists_spells none h
    have shorter : rest.length < (first ++ rest).length := by
      have := hs.length_pos
      simp only [List.length_append]
      omega
    obtain ⟨written, plain⟩ := hs.encodePoint
    exact encode?_cons_eq_some_iff.mpr ⟨plain, rest, encode?_of_collect ht, by rw [written]⟩
termination_by bytes.length

private theorem collect_of_encode? {offset : Nat} {bytes : Bytes} {t : Text}
    (h : encode? t = some bytes) : collect (piecesFrom offset none bytes) = .ok t := by
  induction t generalizing offset bytes with
  | nil =>
    cases h
    rfl
  | cons c t ih =>
    obtain ⟨hc, rest, ht, rfl⟩ := encode?_cons_eq_some_iff.mp h
    have self : CodePoint.ofNat c.val = c := Fin.ext (val_ofNat c.isLt)
    rw [(spells_encodePoint hc).piecesFrom, collect, ih ht, self]
    rfl

/-- Decoding is the inverse of encoding. -/
theorem decode_eq_ok_iff {bytes : Bytes} {t : Text} :
    decode bytes = .ok t ↔ encode? t = some bytes :=
  ⟨encode?_of_collect, collect_of_encode?⟩

theorem decode_append {first rest : Bytes} {s t : Text} (hs : decode first = .ok s)
    (ht : decode rest = .ok t) : decode (first ++ rest) = .ok (s ++ t) := by
  rw [decode_eq_ok_iff] at hs ht ⊢
  exact encode?_append_eq_some_iff.mpr ⟨first, rest, hs, ht, rfl⟩

private theorem length_feedFresh (offset : Nat) (b : UInt8) :
    (feedFresh offset b).1.length + (feedFresh offset b).2.toList.length = 1 := by
  unfold feedFresh
  cases opening b <;> rfl

private theorem length_feed (offset : Nat) (pending : Option Pending) (b : UInt8) :
    (feed offset pending b).1.length + (feed offset pending b).2.toList.length ≤
      pending.toList.length + 1 := by
  have fresh := length_feedFresh offset b
  cases pending with
  | none => exact Nat.le_of_eq fresh
  | some pending =>
    simp only [feed, feedPending]
    split_ifs
    · simp
    · simp
    · simp only [List.length_cons, Option.toList_some, List.length_nil]
      omega

/-- No piece is without a byte of its own. -/
theorem length_piecesFrom_le (offset : Nat) (pending : Option Pending) (bytes : Bytes) :
    (piecesFrom offset pending bytes).length ≤ pending.toList.length + bytes.length := by
  induction bytes generalizing offset pending with
  | nil => cases pending <;> simp [piecesFrom]
  | cons b rest ih =>
    have here := length_feed offset pending b
    have later := ih (offset + 1) (feed offset pending b).2
    simp only [piecesFrom, List.length_append, List.length_cons]
    omega

theorem length_decodeLossy_le (bytes : Bytes) : (decodeLossy bytes).length ≤ bytes.length := by
  have pieces := length_piecesFrom_le 0 none bytes
  rw [Option.toList_none, List.length_nil, Nat.zero_add] at pieces
  rw [decodeLossy, List.length_map]
  exact pieces

end ExportList.Utf8

namespace ExportList

/-- A text without surrogates. -/
def Text.IsScalar (t : Text) : Prop := ∀ c ∈ t, c.isSurrogate = false

instance (t : Text) : Decidable t.IsScalar :=
  List.decidableBAll (fun c => CodePoint.isSurrogate c = false) t

theorem Text.isScalar_append {s t : Text} : Text.IsScalar (s ++ t) ↔ s.IsScalar ∧ t.IsScalar :=
  List.forall_mem_append

theorem Text.isScalar_cons {c : CodePoint} {t : Text} :
    Text.IsScalar (c :: t) ↔ c.isSurrogate = false ∧ t.IsScalar :=
  List.forall_mem_cons

theorem CodePoint.isSurrogate_ofChar (c : Char) : (CodePoint.ofChar c).isSurrogate = false := by
  have valid := c.valid
  have val : (CodePoint.ofChar c).val = c.val.toNat := rfl
  simp only [UInt32.isValidChar, Nat.isValidChar] at valid
  simp only [CodePoint.isSurrogate, val, Bool.and_eq_false_iff, decide_eq_false_iff_not]
  omega

theorem Text.isScalar_ofChars (cs : List Char) : (Text.ofChars cs).IsScalar := by
  intro c member
  obtain ⟨d, _, rfl⟩ := List.mem_map.mp member
  exact CodePoint.isSurrogate_ofChar d

theorem Text.isScalar_ofString (s : String) : (Text.ofString s).IsScalar :=
  Text.isScalar_ofChars s.toList

theorem Text.isScalar_hex (width n : Nat) : (Text.hex width n).IsScalar := by
  induction width generalizing n with
  | zero => nofun
  | succ width ih =>
    rw [Text.hex, Text.isScalar_append]
    exact ⟨ih (n / 16), Text.isScalar_ofChars [Nat.digitChar (n % 16)]⟩

theorem Utf8.exists_encode?_iff {t : Text} : (∃ bytes, encode? t = some bytes) ↔ t.IsScalar := by
  induction t with
  | nil => exact ⟨fun _ => nofun, fun _ => ⟨[], rfl⟩⟩
  | cons c t ih =>
    rw [Text.isScalar_cons, ← ih]
    constructor
    · rintro ⟨bytes, h⟩
      obtain ⟨plain, rest, encoded, _⟩ := encode?_cons_eq_some_iff.mp h
      exact ⟨plain, rest, encoded⟩
    · rintro ⟨plain, rest, encoded⟩
      exact ⟨_, encode?_cons_eq_some_iff.mpr ⟨plain, rest, encoded, rfl⟩⟩

end ExportList
