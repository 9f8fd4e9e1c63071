import ExportList.Proofs.Document
import ExportList.Proofs.Document.Json

/-!
Reading the JSON text of a document gives the document back, if it holds no doubles, patterns, long
integers and surrogates and the keys of each object are distinct.
-/

set_option autoImplicit false

namespace ExportList

namespace Fields

theorem update_of_nodup {fields changes : Fields} (h : ((fields ++ changes).map Prod.fst).Nodup) :
    update fields changes = fields ++ changes := by
  induction changes generalizing fields with
  | nil => simp [update]
  | cons change changes ih =>
    have new : change.1 ∉ fields.map Prod.fst := by
      intro member
      rw [List.map_append, List.nodup_append] at h
      exact h.2.2 _ member _ (by simp) rfl
    have split : fields ++ change :: changes = fields ++ [change] ++ changes := by simp
    rw [split] at h ⊢
    rw [← ih h, update, List.foldl_cons, set_of_notMem _ new]
    rfl

end Fields

namespace Json

private theorem readString_short {c e point : CodePoint} {rest : Text}
    (he : e ≠ CodePoint.ofChar 'u') (hc : c = CodePoint.ofChar '\\')
    (h : shortEscape? e = some point) :
    readString (c :: e :: rest) = (readString rest).map fun r => (point :: r.1, r.2) := by
  have notQuote : CodePoint.ofChar '\\' ≠ CodePoint.ofChar '"' := by decide
  rw [hc, readString.eq_def]
  simp only [if_neg notQuote, if_true, if_neg he, h]

private theorem hexNumber?_hex : ∀ n < 0x20, hexNumber? 0 (Text.hex 4 n) = some n := by decide

private theorem readString_escapePoint {c : CodePoint} (h : c.isSurrogate = false) (rest : Text) :
    readString (escapePoint c ++ rest) = (readString rest).map fun r => (c :: r.1, r.2) := by
  have point : ∀ n, c.val = n → CodePoint.ofNat n = c := by
    rintro n rfl
    exact Fin.ofNat_val_eq_self c
  unfold escapePoint
  split_ifs with h1 h2 h3 h4 h5 h6 h7 h8
  · rw [h1]
    exact readString_short (by decide) rfl rfl
  · rw [h2]
    exact readString_short (by decide) rfl rfl
  · rw [h3]
    exact readString_short (by decide) rfl rfl
  · rw [h4]
    exact readString_short (by decide) rfl rfl
  · rw [h5]
    exact readString_short (by decide) rfl rfl
  · rw [← point _ h6]
    exact readString_short (by decide) rfl rfl
  · rw [← point _ h7]
    exact readString_short (by decide) rfl rfl
  · have unit : ∀ t, consUnit c.val t = c :: t := by
      intro t
      cases t with
      | nil => rw [consUnit, point _ rfl]
      | cons d t =>
        have low : ¬ 0xD800 ≤ c.val := by omega
        simp [consUnit, low, point]
    have notQuote : CodePoint.ofChar '\\' ≠ CodePoint.ofChar '"' := by decide
    -- four digits stand behind the letter
    show readString (CodePoint.ofChar '\\' :: CodePoint.ofChar 'u' :: (Text.hex 4 c.val ++ rest)) =
      _
    have digits := hexNumber?_hex c.val h8
    rw [readString.eq_def]
    simp only [Text.hex, List.nil_append, List.cons_append] at digits ⊢
    simp only [if_neg notQuote, if_true, digits, unit]
  · have plain : (decide (c.val < 0x20) || c.isSurrogate) = false := by simp [h8, h]
    rw [List.singleton_append, readString.eq_def]
    simp only [if_neg h1, if_neg h2, plain, Bool.false_eq_true, if_false]

/-- Reading a quoted text gives the text. -/
theorem readString_flatMap {t : Text} (h : t.IsScalar) (rest : Text) :
    readString (t.flatMap escapePoint ++ CodePoint.ofChar '"' :: rest) = some (t, rest) := by
  induction t with
  | nil =>
    rw [List.flatMap_nil, List.nil_append, readString.eq_def]
    simp only [if_true]
  | cons c t ih =>
    obtain ⟨first, others⟩ := Text.isScalar_cons.mp h
    rw [List.flatMap_cons, List.append_assoc, readString_escapePoint first, ih others]
    rfl

/-- What may stand behind a value in a printed document: nothing, a comma or a line end. -/
def Ends (rest : Text) : Prop :=
  ∀ c ∈ rest.head?, c = CodePoint.ofChar ',' ∨ c = CodePoint.ofChar '\n'

private theorem isDigit_ofChar {c : Char} (h : c.isDigit = true) :
    isDigit (CodePoint.ofChar c) = true := by
  rw [Char.isDigit_iff_toNat] at h
  exact Bool.and_eq_true_iff.mpr ⟨decide_eq_true h.1, decide_eq_true h.2⟩

private theorem ofNat_ne_nil (n : Nat) : Text.ofNat n ≠ [] := by
  simp [Text.ofNat, Text.ofChars, Nat.toDigits_ne_nil]

private theorem isDigit_of_mem_ofNat {n : Nat} {c : CodePoint} (h : c ∈ Text.ofNat n) :
    isDigit c = true := by
  obtain ⟨d, member, rfl⟩ := List.mem_map.mp h
  exact isDigit_ofChar (Nat.isDigit_of_mem_toDigits (by decide) (by decide) member)

private theorem Ends.takeWhile_isDigit {rest : Text} (h : Ends rest) :
    rest.takeWhile isDigit = [] ∧ rest.dropWhile isDigit = rest := by
  cases rest with
  | nil => exact ⟨rfl, rfl⟩
  | cons c rest =>
    have no : isDigit c = false := by rcases h c rfl with rfl | rfl <;> decide
    simp [no]

private theorem decimalNumber_ofNat (n : Nat) : decimalNumber (Text.ofNat n) = n := by
  calc decimalNumber (Text.ofNat n)
    _ = (Nat.toDigits 10 n).foldl (fun value c => 10 * value + (c.toNat - '0'.toNat)) 0 := by
      rw [decimalNumber, Text.ofNat, Text.ofChars, List.foldl_map]
      congr 1
      funext value c
      rw [Nat.mul_comm]
      rfl
    _ = n := by rw [← Nat.ofDigitChars_eq_foldl, Nat.ofDigitChars_toDigits (by decide) (by decide)]

private theorem head?_toDigits_ne_zero {n : Nat} (h : 0 < n) :
    (Nat.toDigits 10 n).head? ≠ some '0' := by
  induction n using Nat.strongRecOn with
  | _ n ih =>
    by_cases small : n < 10
    · rw [Nat.toDigits_of_lt_base small]
      have digit : ∀ d < 10, 0 < d → Nat.digitChar d ≠ '0' := by decide
      simpa using digit n small h
    · rw [Nat.toDigits_of_base_le (by decide) (Nat.le_of_not_lt small), List.head?_append]
      have inner := ih (n / 10) (Nat.div_lt_self h (by decide)) (by omega)
      have some_head : ((Nat.toDigits 10 (n / 10)).head?).isSome := by
        simp [List.isSome_head?, Nat.toDigits_ne_nil]
      obtain ⟨c, head⟩ := Option.isSome_iff_exists.mp some_head
      rw [head] at inner ⊢
      exact inner

private theorem readWhole_ofNat {n : Nat} {rest : Text} (h : Ends rest) :
    readWhole (Text.ofNat n ++ rest) = some (Text.ofNat n, rest) := by
  have all : ∀ c ∈ Text.ofNat n, isDigit c = true := fun _ => isDigit_of_mem_ofNat
  obtain ⟨taken, dropped⟩ := h.takeWhile_isDigit
  have digits : readDigits (Text.ofNat n ++ rest) = some (Text.ofNat n, rest) := by
    have some_digit : (Text.ofNat n).isEmpty = false := by simp [ofNat_ne_nil]
    rw [readDigits, List.takeWhile_append_of_pos all, List.dropWhile_append_of_pos all,
      taken, dropped, List.append_nil, some_digit]
    rfl
  have leading : ((Text.ofNat n).head? = some (CodePoint.ofChar '0') &&
      (Text.ofNat n).length ≠ 1) = false := by
    rcases Nat.eq_zero_or_pos n with rfl | pos
    · decide
    · have head : (Text.ofNat n).head? ≠ some (CodePoint.ofChar '0') := by
        intro head
        rw [Text.ofNat, Text.ofChars, List.head?_map, Option.map_eq_some_iff] at head
        obtain ⟨c, head, same⟩ := head
        rw [CodePoint.ofChar_injective same] at head
        exact head?_toDigits_ne_zero pos head
      simp [head]
  simp only [readWhole, digits, Option.bind_eq_bind, Option.bind_some, leading,
    Bool.false_eq_true, if_false]

private theorem readUnsigned_ofNat {n : Nat} {negative : Bool} {rest : Text} (h : Ends rest) :
    readUnsigned negative (Text.ofNat n ++ rest) =
      some (.int (if negative then -(n : Int) else n), rest) := by
  have fraction : readFraction rest = some (none, rest) := by
    cases rest with
    | nil => rfl
    | cons c rest =>
      have no : c ≠ CodePoint.ofChar '.' := by rcases h c rfl with rfl | rfl <;> decide
      simp [readFraction, no]
  have exponent : readExponent rest = some (none, rest) := by
    cases rest with
    | nil => rfl
    | cons c rest =>
      have no : c ≠ CodePoint.ofChar 'e' ∧ c ≠ CodePoint.ofChar 'E' := by
        rcases h c rfl with rfl | rfl <;> decide
      simp [readExponent, no]
  simp [readUnsigned, readWhole_ofNat h, fraction, exponent, numberValue, decimalNumber_ofNat]

/-- Reading the digits of an integer gives the integer. -/
theorem readNumber_ofInt {n : Int} {rest : Text} (h : Ends rest) :
    readNumber (Text.ofInt n ++ rest) = some (.int n, rest) := by
  cases n with
  | ofNat n =>
    have unsigned : (Text.ofNat n ++ rest).head? ≠ some (CodePoint.ofChar '-') := by
      intro head
      rw [List.head?_append_of_ne_nil _ (ofNat_ne_nil n)] at head
      exact absurd (isDigit_of_mem_ofNat (List.mem_of_head? head)) (by decide)
    rw [readNumber, Text.ofInt, if_neg unsigned, readUnsigned_ofNat h]
    rfl
  | negSucc n =>
    rw [readNumber, Text.ofInt, List.cons_append, List.head?_cons, if_pos rfl, List.drop_succ_cons,
      List.drop_zero, readUnsigned_ofNat h]
    rfl

private theorem skipBlanks_newline (level : Nat) (t : Text) :
    skipBlanks (newline level ++ t) = skipBlanks t := by
  refine List.dropWhile_append_of_pos fun c member => ?_
  rcases List.mem_cons.mp member with rfl | member
  · decide
  · rw [List.eq_of_mem_replicate member]
    decide

private theorem skipBlanks_cons {c : CodePoint} (h : isBlank c = false) (t : Text) :
    skipBlanks (c :: t) = c :: t := by
  simp [skipBlanks, h]

private theorem ends_newline (level : Nat) (t : Text) : Ends (newline level ++ t) := by
  rintro c head
  exact .inr (Option.some.inj head).symm

private theorem ends_comma (t : Text) : Ends (CodePoint.ofChar ',' :: t) := by
  rintro c head
  exact .inl (Option.some.inj head).symm

section Series

variable {α : Type} {item : Text → Option (α × Text)} {close : CodePoint}

/-- An item reader reads a value off a part, whatever may stand behind it. -/
def ReadsAs (item : Text → Option (α × Text)) (value : α) (part : Text) : Prop :=
  ∀ rest, Ends rest → item (part ++ rest) = some (value, rest)

private theorem readSeries_newline {level : Nat} (blanks : ∀ t, item (newline level ++ t) = item t)
    (count : Nat) (t : Text) :
    readSeries close item count (newline level ++ t) = readSeries close item count t := by
  cases count with
  | zero => rfl
  | succ count => simp only [readSeries, blanks]

private theorem readSeries_join {level : Nat}
    (blanks : ∀ t, item (newline (level + 1) ++ t) = item t) (comma : CodePoint.ofChar ',' ≠ close)
    (solid : isBlank close = false) (rest : Text) {first : α} {part : Text} {values : List α}
    {parts : List Text} (each : ReadsAs item first part)
    (others : List.Forall₂ (ReadsAs item) values parts) {count : Nat}
    (enough : values.length < count) :
    readSeries close item count
      (Text.join (CodePoint.ofChar ',' :: newline (level + 1)) (part :: parts) ++
        (newline level ++ close :: rest)) = some (first :: values, rest) := by
  -- on what stands behind the first part; the last one is followed by the bracket
  induction others generalizing first part count with
  | nil =>
    obtain ⟨count, rfl⟩ := Nat.exists_eq_succ_of_ne_zero (Nat.ne_of_gt enough)
    rw [Text.join, readSeries, each _ (ends_newline level _)]
    simp only [skipBlanks_newline, skipBlanks_cons solid, if_true]
  | @cons value part' values parts each' others ih =>
    obtain ⟨count, rfl⟩ := Nat.exists_eq_succ_of_ne_zero (Nat.ne_of_gt (Nat.zero_lt_of_lt enough))
    have tail := ih each' (Nat.lt_of_succ_lt_succ enough)
    have solidComma : isBlank (CodePoint.ofChar ',') = false := by decide
    have split : Text.join (CodePoint.ofChar ',' :: newline (level + 1)) (part :: part' :: parts) =
        part ++ CodePoint.ofChar ',' :: (newline (level + 1) ++
          Text.join (CodePoint.ofChar ',' :: newline (level + 1)) (part' :: parts)) := by
      rw [Text.join, List.append_assoc, List.cons_append]
      exact List.cons_ne_nil _ _
    rw [split, List.append_assoc, List.cons_append, List.append_assoc, readSeries,
      each _ (ends_comma _)]
    simp only [skipBlanks_cons solidComma, if_neg comma, if_true, readSeries_newline blanks, tail,
      Option.map_some]

private theorem length_le_join (separator : Text) (parts : List Text) (h : separator ≠ []) :
    parts.length ≤ (Text.join separator parts).length + 1 := by
  induction parts with
  | nil => exact Nat.zero_le _
  | cons part parts ih =>
    cases parts with
    | nil => simp [Text.join]
    | cons next rest =>
      have pos := List.length_pos_iff.mpr h
      rw [Text.join, List.length_append, List.length_append, List.length_cons]
      · omega
      · exact List.cons_ne_nil _ _

/-- Reading the layout of some parts, behind the bracket, gives what each of them reads as. -/
theorem readItems_layout (left : CodePoint) (level : Nat) {values : List α} {parts : List Text}
    (blanks : ∀ t, item (newline (level + 1) ++ t) = item t) (comma : CodePoint.ofChar ',' ≠ close)
    (solid : isBlank close = false) (each : List.Forall₂ (ReadsAs item) values parts)
    (starts : ∀ part ∈ parts, ∃ c t, part = c :: t ∧ isBlank c = false ∧ c ≠ close) (rest : Text) :
    ∃ inner, layout left close level parts ++ rest = left :: inner ∧
      readItems close item inner = some (values, rest) := by
  cases each with
  | nil =>
    refine ⟨close :: rest, rfl, ?_⟩
    rw [readItems, skipBlanks_cons solid]
    simp only [if_true]
  | @cons value part values parts each others =>
    obtain ⟨c, t, rfl, notBlank, notClose⟩ := starts part (by simp)
    have shape : ∃ tail,
        Text.join (CodePoint.ofChar ',' :: newline (level + 1)) ((c :: t) :: parts) ++
          (newline level ++ close :: rest) = c :: tail := by
      cases parts with
      | nil => exact ⟨_, rfl⟩
      | cons next parts => exact ⟨_, rfl⟩
    obtain ⟨tail, shape⟩ := shape
    refine ⟨newline (level + 1) ++ c :: tail, ?_, ?_⟩
    · rw [← shape, layout, if_neg (by simp)]
      simp
    · have room : values.length < (c :: tail).length := by
        have some_parts := length_le_join (CodePoint.ofChar ',' :: newline (level + 1))
          ((c :: t) :: parts)
          (by simp)
        have same := others.length_eq
        rw [← shape, List.length_append, List.length_append, List.length_cons]
        rw [List.length_cons] at some_parts
        omega
      rw [readItems, skipBlanks_newline, skipBlanks_cons notBlank]
      simp only [if_neg notClose]
      rw [← shape] at room ⊢
      exact readSeries_join blanks comma solid rest each others room

end Series

private theorem length_lt_layout (left right : CodePoint) (level : Nat) {parts : List Text}
    {part : Text} (h : part ∈ parts) : part.length < (layout left right level parts).length := by
  have inside : ∀ separator : Text, part.length ≤ (Text.join separator parts).length := by
    intro separator
    induction parts with
    | nil => cases h
    | cons first parts ih =>
      cases parts with
      | nil => simp_all [Text.join]
      | cons next rest =>
        rw [Text.join, List.length_append, List.length_append]
        · rcases List.mem_cons.mp h with rfl | h
          · omega
          · have := ih h
            omega
        · exact List.cons_ne_nil _ _
  have some_part : ¬ parts.isEmpty = true := by
    intro none
    rw [List.isEmpty_iff.mp none] at h
    cases h
  rw [layout, if_neg some_part]
  have := inside (CodePoint.ofChar ',' :: newline (level + 1))
  simp only [List.length_append, List.length_cons, List.length_nil]
  omega

/-- A value that JSON can carry, its elements and fields aside: no double or pattern, no surrogate
in its own texts, no key twice. -/
def IsPortable : Value → Prop
  | .float _ | .pattern => False
  | .text t => t.IsScalar
  | .object fields => (∀ field ∈ fields, Text.IsScalar field.1) ∧ (fields.map Prod.fst).Nodup
  | _ => True

/-- Nothing but its number of digits keeps such a value from being printed. -/
theorem IsPortable.eq_longInteger {v : Value} {fault : Unprintable} (h : IsPortable v)
    (found : fault? v = some fault) : fault = .longInteger := by
  cases v with
  | int n =>
    rw [fault?] at found
    split_ifs at found
    exact (Option.some.inj found).symm
  | pattern => exact h.elim
  | _ => cases found

theorem IsPortable.hasScalarTexts {v : Value} (h : IsPortable v) : HasScalarTexts v := by
  cases v with
  | text t => exact h
  | object fields => exact h.1
  | _ => trivial

/-- An integer begins with a sign or a digit, and so does nothing else that is printed. -/
private theorem exists_cons_ofInt (n : Int) : ∃ c t, Text.ofInt n = c :: t ∧ isBlank c = false ∧
    (c = CodePoint.ofChar '-' || isDigit c) = true ∧
    c ∉ [CodePoint.ofChar '"', CodePoint.ofChar '[',
      CodePoint.ofChar '{', CodePoint.ofChar ']'] := by
  cases n with
  | ofNat n =>
    obtain ⟨c, t, same⟩ := List.exists_cons_of_ne_nil (ofNat_ne_nil n)
    have digit : isDigit c = true := isDigit_of_mem_ofNat (n := n) (by simp [same])
    have bounds : 0x30 ≤ c.val ∧ c.val ≤ 0x39 := by simpa [isDigit] using digit
    refine ⟨c, t, same, ?_, by simp [digit], ?_⟩
    · simp only [isBlank, Bool.or_eq_false_iff, decide_eq_false_iff_not]
      omega
    · intro member
      simp only [List.mem_cons, List.not_mem_nil, or_false] at member
      rcases member with rfl | rfl | rfl | rfl <;> exact absurd digit (by decide)
  | negSucc n => exact ⟨_, _, rfl, by decide, by decide, by decide⟩

private theorem exists_cons_layout (left right : CodePoint) (level : Nat) (parts : List Text) :
    ∃ t, layout left right level parts = left :: t := by
  rw [layout]
  split_ifs
  · exact ⟨_, rfl⟩
  · exact ⟨_, rfl⟩

/-- A printed value begins with what is neither a blank nor a closing bracket. -/
private theorem exists_cons_of_print {level : Nat} {v : Value} {out : Text}
    (h : print level v = .ok out) (plain : IsPortable v) :
    ∃ c t, out = c :: t ∧ isBlank c = false ∧ c ≠ CodePoint.ofChar ']' := by
  cases v with
  | null =>
    cases h
    exact ⟨_, _, rfl, by decide, by decide⟩
  | bool b =>
    cases h
    cases b <;> exact ⟨_, _, rfl, by decide, by decide⟩
  | int n =>
    obtain rfl := eq_ofInt_of_print h
    obtain ⟨c, t, same, solid, _, other⟩ := exists_cons_ofInt n
    refine ⟨c, t, same, solid, ?_⟩
    rintro rfl
    exact other (by simp)
  | text t =>
    cases h
    exact ⟨_, _, rfl, by decide, by decide⟩
  | float bits => cases plain
  | pattern => cases plain
  | list items =>
    obtain ⟨parts, _, rfl⟩ := print_list_eq_ok_iff.mp h
    obtain ⟨t, same⟩ := exists_cons_layout (CodePoint.ofChar '[') (CodePoint.ofChar ']') level parts
    exact ⟨_, t, same, by decide, by decide⟩
  | object fields =>
    obtain ⟨parts, _, rfl⟩ := print_object_eq_ok_iff.mp h
    obtain ⟨t, same⟩ := exists_cons_layout (CodePoint.ofChar '{') (CodePoint.ofChar '}') level parts
    exact ⟨_, t, same, by decide, by decide⟩

private theorem readValue_newline (depth level : Nat) (t : Text) :
    readValue depth (newline level ++ t) = readValue depth t := by
  cases depth with
  | zero => rfl
  | succ depth => simp only [readValue, skipBlanks_newline]

private theorem readMember_newline (value : Text → Option (Value × Text)) (level : Nat) (t : Text) :
    readMember value (newline level ++ t) = readMember value t := by
  simp only [readMember, skipBlanks_newline]

private theorem quote_append (t rest : Text) :
    quote t ++ rest = CodePoint.ofChar '"' ::
      (t.flatMap escapePoint ++ CodePoint.ofChar '"' :: rest) := by
  show (CodePoint.ofChar '"' :: t.flatMap escapePoint) ++ [CodePoint.ofChar '"'] ++ rest = _
  simp

/-- A printed field reads as the field if its value reads as the value, also behind a blank. -/
private theorem readMember_printField {value : Text → Option (Value × Text)}
    {key part : Text} {v : Value} (scalar : key.IsScalar)
    (blank : ∀ t, value (CodePoint.ofChar ' ' :: t) = value t) (h : ReadsAs value v part) :
    ReadsAs (readMember value) (key, v) (quote key ++ ": " ++ part) := by
  intro rest ends
  have solid : isBlank (CodePoint.ofChar '"') = false ∧
      isBlank (CodePoint.ofChar ':') = false := by decide
  have colon : Text.ofString ": " ++ (part ++ rest) =
      CodePoint.ofChar ':' :: CodePoint.ofChar ' ' :: (part ++ rest) := rfl
  rw [List.append_assoc, List.append_assoc, quote_append, colon, readMember,
    skipBlanks_cons solid.1]
  simp only [if_true, readString_flatMap scalar, Option.bind_eq_bind, Option.bind_some,
    skipBlanks_cons solid.2, blank, h rest ends, Option.map_some]

private theorem readValue_blank (depth : Nat) (t : Text) :
    readValue depth (CodePoint.ofChar ' ' :: t) = readValue depth t := by
  have blank : isBlank (CodePoint.ofChar ' ') = true := by decide
  cases depth with
  | zero => rfl
  | succ depth => simp [readValue, skipBlanks, blank]

/-- A printed value is not empty, so its length leaves depth for the value itself. -/
private theorem exists_succ_of_print {level depth : Nat} {v : Value} {out : Text}
    (h : print level v = .ok out) (plain : IsPortable v) (deep : out.length ≤ depth) :
    ∃ inner, depth = inner + 1 := by
  obtain ⟨c, t, rfl, _⟩ := exists_cons_of_print h plain
  rw [List.length_cons] at deep
  exact Nat.exists_eq_succ_of_ne_zero (by omega)

private theorem readsAs_int (depth : Nat) (n : Int) :
    ReadsAs (readValue (depth + 1)) (.int n) (Text.ofInt n) := by
  intro rest ends
  obtain ⟨c, t, same, solid, number, other⟩ := exists_cons_ofInt n
  simp only [List.mem_cons, List.not_mem_nil, or_false, not_or] at other
  obtain ⟨notQuote, notBracket, notBrace, _⟩ := other
  have read := readNumber_ofInt (n := n) ends
  rw [same, List.cons_append] at read ⊢
  rw [readValue, skipBlanks_cons solid]
  simp only [if_neg notQuote, if_neg notBracket, if_neg notBrace, if_pos number, read]

private theorem readsAs_text {t : Text} (depth : Nat) (h : t.IsScalar) :
    ReadsAs (readValue (depth + 1)) (.text t) (quote t) := by
  intro rest _
  have solid : isBlank (CodePoint.ofChar '"') = false := by decide
  rw [quote_append, readValue, skipBlanks_cons solid]
  simp only [if_true, readString_flatMap h, Option.map_some]

private theorem readsAs_list {depth level : Nat} {items : List Value} {parts : List Text}
    (each : List.Forall₂ (ReadsAs (readValue depth)) items parts)
    (starts : ∀ part ∈ parts, ∃ c t, part = c :: t ∧ isBlank c = false ∧ c ≠ CodePoint.ofChar ']') :
    ReadsAs (readValue (depth + 1)) (.list items)
      (layout (CodePoint.ofChar '[') (CodePoint.ofChar ']') level parts) := by
  intro rest _
  obtain ⟨inner, same, read⟩ := readItems_layout (CodePoint.ofChar '[') level
    (readValue_newline depth (level + 1)) (by decide) (by decide) each starts rest
  have solid : isBlank (CodePoint.ofChar '[') = false := by decide
  have notQuote : CodePoint.ofChar '[' ≠ CodePoint.ofChar '"' := by decide
  rw [same, readValue, skipBlanks_cons solid]
  simp only [if_neg notQuote, if_true, read, Option.map_some]

private theorem readsAs_object {depth level : Nat} {fields : Fields} {parts : List Text}
    (distinct : (fields.map Prod.fst).Nodup)
    (each : List.Forall₂ (ReadsAs (readMember (readValue depth))) fields parts)
    (starts : ∀ part ∈ parts, ∃ c t, part = c :: t ∧ isBlank c = false ∧ c ≠ CodePoint.ofChar '}') :
    ReadsAs (readValue (depth + 1)) (.object fields)
      (layout (CodePoint.ofChar '{') (CodePoint.ofChar '}') level parts) := by
  intro rest _
  obtain ⟨inner, same, read⟩ := readItems_layout (CodePoint.ofChar '{') level
    (readMember_newline (readValue depth) (level + 1)) (by decide) (by decide) each starts rest
  have solid : isBlank (CodePoint.ofChar '{') = false := by decide
  have other : CodePoint.ofChar '{' ≠ CodePoint.ofChar '"' ∧
      CodePoint.ofChar '{' ≠ CodePoint.ofChar '[' := by
    decide
  rw [same, readValue, skipBlanks_cons solid]
  have members : Fields.update [] fields = fields := Fields.update_of_nodup distinct
  simp only [if_neg other.1, if_neg other.2, if_true, read, Option.map_some, members]

/-- Reading the text of a portable document gives the document, and what stands behind is left. -/
theorem readValue_print {level depth : Nat} {v : Value} {out : Text}
    (portable : v.Everywhere IsPortable) (h : print level v = .ok out) (deep : out.length ≤ depth) :
    ReadsAs (readValue depth) v out := by
  -- each part is shorter than the layout it stands in, so the depth that is left is enough for it
  induction v using Value.induct generalizing level depth out with
  | float bits => cases portable.self
  | pattern => cases portable.self
  | null =>
    obtain ⟨depth, rfl⟩ := exists_succ_of_print h portable.self deep
    cases h
    exact fun rest _ => rfl
  | bool b =>
    obtain ⟨depth, rfl⟩ := exists_succ_of_print h portable.self deep
    cases h
    cases b <;> exact fun rest _ => rfl
  | int n =>
    obtain ⟨depth, rfl⟩ := exists_succ_of_print h portable.self deep
    obtain rfl := eq_ofInt_of_print h
    exact readsAs_int depth n
  | text t =>
    obtain ⟨depth, rfl⟩ := exists_succ_of_print h portable.self deep
    cases h
    exact readsAs_text depth portable.self
  | list items ih =>
    obtain ⟨depth, rfl⟩ := exists_succ_of_print h portable.self deep
    obtain ⟨parts, printed, rfl⟩ := print_list_eq_ok_iff.mp h
    obtain ⟨_, inside⟩ := Value.everywhere_list.mp portable
    apply readsAs_list
    · refine forall₂_of_mapM_ok printed fun v member part printed' => ?_
      have shorter := length_lt_layout (CodePoint.ofChar '[') (CodePoint.ofChar ']') level
        ((mem_of_mapM_ok printed).mpr ⟨v, member, printed'⟩)
      exact ih v member (inside v member) printed' (by omega)
    · intro part member
      obtain ⟨v, member', printed'⟩ := (mem_of_mapM_ok printed).mp member
      exact exists_cons_of_print printed' (inside v member').self
  | object fields ih =>
    obtain ⟨depth, rfl⟩ := exists_succ_of_print h portable.self deep
    obtain ⟨parts, printed, rfl⟩ := print_object_eq_ok_iff.mp h
    obtain ⟨⟨keys, distinct⟩, inside⟩ := Value.everywhere_object.mp portable
    apply readsAs_object distinct
    · refine forall₂_of_mapM_ok printed fun field member part printed' => ?_
      have shorter := length_lt_layout (CodePoint.ofChar '{') (CodePoint.ofChar '}') level
        ((mem_of_mapM_ok printed).mpr ⟨field, member, printed'⟩)
      obtain ⟨text, inner, rfl⟩ := map_eq_ok_iff.mp printed'
      refine readMember_printField (keys field member) (readValue_blank depth) ?_
      simp only [List.length_append] at shorter
      exact ih field member (inside field member) inner (by omega)
    · intro part member
      obtain ⟨field, _, printed'⟩ := (mem_of_mapM_ok printed).mp member
      obtain ⟨text, _, rfl⟩ := map_eq_ok_iff.mp printed'
      exact ⟨_, _, rfl, by decide, by decide⟩

theorem firstFault?_eq_longInteger {v : Value} {fault : Unprintable}
    (portable : v.Everywhere IsPortable) (h : firstFault? v = some fault) :
    fault = .longInteger := by
  obtain ⟨part, inside, found⟩ := List.exists_of_findSome?_eq_some h
  exact (portable part inside).eq_longInteger found

/-- The JSON text of a portable document reads as the document and has a UTF-8 form. -/
theorem read_of_render {v : Value} {out : Text} (portable : v.Everywhere IsPortable)
    (h : render v = .ok out) : read out = some v ∧ out.IsScalar := by
  have scalar : v.Everywhere HasScalarTexts := portable.imp fun _ => IsPortable.hasScalarTexts
  refine ⟨?_, (isScalar_print_iff h).mpr scalar⟩
  have value := readValue_print portable h (Nat.le_refl _) [] nofun
  rw [List.append_nil] at value
  rw [read, value]
  rfl

end Json

end ExportList
