import ExportList.Analysis
import ExportList.Proofs.Concrete.Statement
import Mathlib.Data.Set.Function

/-!
Grammar names and their tags.  In the tag of a grammar name each capital begins a word, so that the
name can be read back from the tag and no two grammar names share one.  Of the names that are no
forms at most one has the tag of a given declaration, import or export.
-/

set_option autoImplicit false

namespace ExportList

namespace Text

theorem splitAt_eq_splitOn (mark : CodePoint) (t : Text) :
    splitAt mark t = List.splitOn mark t := by
  induction t with
  | nil => rfl
  | cons c rest ih =>
    rw [splitAt, ih, List.splitOn_cons_eq_if_modifyHead]
    cases split : List.splitOn mark rest with
    | nil => exact absurd split (List.splitOn_ne_nil _ _)
    | cons piece pieces => simp only [beq_iff_eq, List.modifyHead_cons]

theorem join_eq_intercalate (separator : Text) (parts : List Text) :
    join separator parts = List.intercalate separator parts := by
  fun_induction join separator parts with
  | case1 => rw [List.intercalate_nil]
  | case2 part => rw [List.intercalate_singleton]
  | case3 part parts several ih => rw [ih, List.intercalate_cons_of_ne_nil several]

theorem splitAt_join {mark : CodePoint} {parts : List Text} (some : parts ≠ [])
    (h : ∀ part ∈ parts, mark ∉ part) : splitAt mark (join [mark] parts) = parts := by
  rw [splitAt_eq_splitOn, join_eq_intercalate, List.splitOn_intercalate mark h some]

theorem join_splitAt (mark : CodePoint) (t : Text) : join [mark] (splitAt mark t) = t := by
  rw [splitAt_eq_splitOn, join_eq_intercalate, List.intercalate_splitOn]

theorem join_cons_eq_flatMap (separator first : Text) (parts : List Text) :
    join separator (first :: parts) = first ++ parts.flatMap (separator ++ ·) := by
  induction parts generalizing first with
  | nil => simp [join]
  | cons part parts ih =>
    rw [join_eq_intercalate, List.intercalate_cons_cons, ← join_eq_intercalate, ih,
      List.flatMap_cons, List.append_assoc, List.append_assoc]

end Text

namespace CodePoint

def isSmall (c : CodePoint) : Bool := 0x61 ≤ c.val && c.val ≤ 0x7A

def isCapital (c : CodePoint) : Bool := 0x41 ≤ c.val && c.val ≤ 0x5A

structure IsPair (small capital : CodePoint) : Prop where
  isSmall : small.isSmall
  isCapital : capital.isCapital
  title_small : small.title = [capital]
  lower_small : small.lower = [small]
  lower_capital : capital.lower = [small]

section Pairs

variable {c : CodePoint}

theorem isSmall_iff : c.isSmall ↔ 0x61 ≤ c.val ∧ c.val ≤ 0x7A := by
  simp only [isSmall, Bool.and_eq_true, decide_eq_true_eq]

theorem isCapital_iff : c.isCapital ↔ 0x41 ≤ c.val ∧ c.val ≤ 0x5A := by
  simp only [isCapital, Bool.and_eq_true, decide_eq_true_eq]

private theorem isPair_ofNat {n : Nat} (h : n < 26) :
    IsPair (ofNat (0x61 + n)) (ofNat (0x41 + n)) := by
  have letters : ∀ n < 26, (ofNat (0x61 + n)).isSmall ∧ (ofNat (0x41 + n)).isCapital ∧
      (ofNat (0x61 + n)).title = [ofNat (0x41 + n)] ∧
      (ofNat (0x61 + n)).lower = [ofNat (0x61 + n)] ∧
      (ofNat (0x41 + n)).lower = [ofNat (0x61 + n)] := by decide +kernel
  obtain ⟨isSmall, isCapital, title, lower, back⟩ := letters n h
  exact ⟨isSmall, isCapital, title, lower, back⟩

private theorem ofNat_val (c : CodePoint) : ofNat c.val = c := Fin.ofNat_val_eq_self c

theorem exists_capital (h : c.isSmall) : ∃ d, IsPair c d := by
  obtain ⟨lower, upper⟩ := isSmall_iff.mp h
  have number : 0x61 + (c.val - 0x61) = c.val := by omega
  have pair := isPair_ofNat (n := c.val - 0x61) (by omega)
  rw [number, ofNat_val] at pair
  exact ⟨_, pair⟩

theorem exists_small (h : c.isCapital) : ∃ d, IsPair d c := by
  obtain ⟨lower, upper⟩ := isCapital_iff.mp h
  have number : 0x41 + (c.val - 0x41) = c.val := by omega
  have pair := isPair_ofNat (n := c.val - 0x41) (by omega)
  rw [number, ofNat_val] at pair
  exact ⟨_, pair⟩

theorem isCapital_eq_false (h : c.isSmall) : c.isCapital = false := by
  obtain ⟨lower, upper⟩ := isSmall_iff.mp h
  rw [← Bool.not_eq_true, isCapital_iff]
  omega

theorem lowerBetween_of_isSmall (before behind : Text) (h : c.isSmall) :
    c.lowerBetween before behind = [c] := by
  obtain ⟨d, pair⟩ := exists_capital h
  have other : c.val ≠ 0x3A3 := by
    have bounds := isSmall_iff.mp h
    omega
  rw [lowerBetween, decide_eq_false other, Bool.false_and, Bool.false_and,
    if_neg Bool.false_ne_true, pair.lower_small]

end Pairs

end CodePoint

namespace Concrete

abbrev underscore : CodePoint := CodePoint.ofChar '_'

/-- A word of a grammar name: one small letter or more. -/
def IsWord (word : Text) : Prop := word ≠ [] ∧ ∀ c ∈ word, c.isSmall

-- looks at the letters of the word; the instance that would be found looks at all code points
instance : DecidablePred IsWord := fun word =>
  @instDecidableAnd _ _ _ (List.decidableBAll (fun c => CodePoint.isSmall c = true) word)

section Words

variable {word : Text}

theorem lowerAfter_of_small (before : Text) (h : ∀ c ∈ word, c.isSmall) :
    Text.lowerAfter before word = word := by
  induction word generalizing before with
  | nil => rfl
  | cons c rest ih =>
    obtain ⟨first, others⟩ := List.forall_mem_cons.mp h
    rw [Text.lowerAfter, CodePoint.lowerBetween_of_isSmall _ _ first, ih _ others,
      List.singleton_append]

theorem flatMap_lower_of_small (h : ∀ c ∈ word, c.isSmall) :
    word.flatMap CodePoint.lower = word := by
  induction word with
  | nil => rfl
  | cons c rest ih =>
    obtain ⟨first, others⟩ := List.forall_mem_cons.mp h
    obtain ⟨d, pair⟩ := CodePoint.exists_capital first
    rw [List.flatMap_cons, pair.lower_small, ih others, List.singleton_append]

theorem capitalize_cons {small capital : CodePoint} (pair : CodePoint.IsPair small capital)
    (h : ∀ c ∈ word, c.isSmall) : Text.capitalize (small :: word) = capital :: word := by
  rw [Text.capitalize, pair.title_small, lowerAfter_of_small _ h, List.singleton_append]

/-- A word is capitalized by its first letter alone. -/
theorem IsWord.exists_capitalize (h : IsWord word) :
    ∃ small capital rest, CodePoint.IsPair small capital ∧ (∀ c ∈ rest, c.isSmall) ∧
      word = small :: rest ∧ word.capitalize = capital :: rest := by
  obtain ⟨some, letters⟩ := h
  obtain ⟨small, rest, rfl⟩ := List.exists_cons_of_ne_nil some
  obtain ⟨first, others⟩ := List.forall_mem_cons.mp letters
  obtain ⟨capital, pair⟩ := CodePoint.exists_capital first
  exact ⟨small, capital, rest, pair, others, rfl, capitalize_cons pair others⟩

theorem IsWord.flatMap_lower_capitalize (h : IsWord word) :
    word.capitalize.flatMap CodePoint.lower = word := by
  obtain ⟨small, capital, rest, pair, others, same, tag⟩ := h.exists_capitalize
  rw [tag, List.flatMap_cons, pair.lower_capital, flatMap_lower_of_small others, same,
    List.singleton_append]

theorem IsWord.underscore_notMem (h : IsWord word) : underscore ∉ word :=
  fun member => absurd (h.2 _ member) (by decide)

end Words

/-- Grammar names are words with single underscores between them. -/
def IsGrammarName (kind : Text) : Prop :=
  ∃ words : List Text, words ≠ [] ∧ (∀ word ∈ words, IsWord word) ∧ kind = Text.join "_" words

/-- The tags of grammar names: letters, a capital first. -/
def IsTagName : Text → Prop
  | [] => False
  | first :: rest => first.isCapital ∧ ∀ c ∈ rest, c.isCapital ∨ c.isSmall

instance : DecidablePred IsTagName
  | [] => inferInstanceAs (Decidable False)
  | _ :: rest =>
    @instDecidableAnd _ _ _
      (List.decidableBAll (fun c => CodePoint.isCapital c = true ∨ CodePoint.isSmall c = true) rest)

/-- A text with an underscore before every capital, save for the first one if none came before. -/
def markWords (later : Bool) : Text → Text
  | [] => []
  | c :: rest =>
    if c.isCapital then (if later then [underscore] else []) ++ c :: markWords true rest
    else c :: markWords later rest

/-- The grammar name of a tag: an underscore before every capital but the first, and the letters in
lower case. -/
def snake (tag : Text) : Text := (markWords false tag).flatMap CodePoint.lower

section Tags

variable {words : List Text}

theorem splitAt_join_words (some : words ≠ []) (each : ∀ word ∈ words, IsWord word) :
    Text.splitAt underscore (Text.join "_" words) = words :=
  Text.splitAt_join some fun word member => (each word member).underscore_notMem

theorem isGrammarName_iff {kind : Text} :
    IsGrammarName kind ↔ ∀ part ∈ Text.splitAt underscore kind, IsWord part := by
  constructor
  · rintro ⟨words, some, each, rfl⟩
    rw [splitAt_join_words some each]
    exact each
  · intro each
    refine ⟨_, ?_, each, (Text.join_splitAt underscore kind).symm⟩
    rw [Text.splitAt_eq_splitOn]
    exact List.splitOn_ne_nil _ _

instance : DecidablePred IsGrammarName := fun _ => decidable_of_iff _ isGrammarName_iff.symm

example :
    IsGrammarName "abstract_class_declaration" ∧ ¬IsGrammarName "a__b" ∧ ¬IsGrammarName "" := by
  decide

theorem camel_join (some : words ≠ []) (each : ∀ word ∈ words, IsWord word) :
    camel (Text.join "_" words) = words.flatMap Text.capitalize := by
  rw [camel, splitAt_join_words some each]

theorem markWords_append_of_small {head : Text} (h : ∀ c ∈ head, c.isSmall) (later : Bool)
    (rest : Text) :
    markWords later (head ++ rest) = head ++ markWords later rest := by
  induction head with
  | nil => rfl
  | cons c head ih =>
    obtain ⟨first, others⟩ := List.forall_mem_cons.mp h
    rw [List.cons_append, markWords, CodePoint.isCapital_eq_false first,
      if_neg Bool.false_ne_true, ih others, List.cons_append]

/-- The capital of a word is the only place in it that is marked. -/
theorem markWords_capitalize_append {word : Text} (h : IsWord word) (later : Bool) (rest : Text) :
    markWords later (word.capitalize ++ rest) =
      (if later then [underscore] else []) ++ word.capitalize ++ markWords true rest := by
  obtain ⟨small, capital, others, pair, letters, _, tag⟩ := h.exists_capitalize
  rw [tag, List.cons_append, markWords, if_pos pair.isCapital, markWords_append_of_small letters,
    List.append_assoc, List.cons_append]

/-- Reading words behind a capital. -/
theorem flatMap_lower_markWords (each : ∀ word ∈ words, IsWord word) :
    (markWords true (words.flatMap Text.capitalize)).flatMap CodePoint.lower =
      words.flatMap ([underscore] ++ ·) := by
  have mark : [underscore].flatMap CodePoint.lower = [underscore] := by decide
  induction words with
  | nil => rfl
  | cons word words ih =>
    obtain ⟨first, others⟩ := List.forall_mem_cons.mp each
    rw [List.flatMap_cons, markWords_capitalize_append first, if_pos rfl, List.flatMap_append,
      List.flatMap_append, mark, first.flatMap_lower_capitalize, ih others, List.flatMap_cons]

theorem snake_camel {kind : Text} (h : IsGrammarName kind) : snake (camel kind) = kind := by
  obtain ⟨words, some, each, rfl⟩ := h
  rw [camel_join some each, snake]
  obtain ⟨word, words, rfl⟩ := List.exists_cons_of_ne_nil some
  obtain ⟨first, others⟩ := List.forall_mem_cons.mp each
  calc (markWords false ((word :: words).flatMap Text.capitalize)).flatMap CodePoint.lower
    _ = (word.capitalize ++ markWords true (words.flatMap Text.capitalize)).flatMap
      CodePoint.lower := by
      rw [List.flatMap_cons, markWords_capitalize_append first, if_neg Bool.false_ne_true,
        List.nil_append]
    _ = word ++ words.flatMap ([underscore] ++ ·) := by
      rw [List.flatMap_append, first.flatMap_lower_capitalize, flatMap_lower_markWords others]
    _ = Text.join "_" (word :: words) := (Text.join_cons_eq_flatMap _ _ _).symm

theorem isTagName_camel {kind : Text} (h : IsGrammarName kind) : IsTagName (camel kind) := by
  obtain ⟨words, some, each, rfl⟩ := h
  have letters : ∀ c ∈ words.flatMap Text.capitalize, c.isCapital ∨ c.isSmall := by
    intro c member
    obtain ⟨word, inside, member⟩ := List.mem_flatMap.mp member
    obtain ⟨small, capital, rest, pair, others, _, tag⟩ := (each word inside).exists_capitalize
    rw [tag] at member
    rcases List.mem_cons.mp member with rfl | member
    · exact .inl pair.isCapital
    · exact .inr (others c member)
  rw [camel_join some each]
  obtain ⟨word, words, rfl⟩ := List.exists_cons_of_ne_nil some
  obtain ⟨small, capital, rest, pair, _, _, tag⟩ := (each word List.mem_cons_self).exists_capitalize
  rw [List.flatMap_cons, tag, List.cons_append] at letters ⊢
  exact ⟨pair.isCapital, (List.forall_mem_cons.mp letters).2⟩

/-- Letters fall into small ones before the first capital and the words that capitals begin. -/
theorem exists_words {t : Text} (h : ∀ c ∈ t, c.isCapital ∨ c.isSmall) :
    ∃ (head : Text) (words : List Text), (∀ c ∈ head, c.isSmall) ∧ (∀ word ∈ words, IsWord word) ∧
      t = head ++ words.flatMap Text.capitalize := by
  induction t with
  | nil => exact ⟨[], [], List.forall_mem_nil _, List.forall_mem_nil _, rfl⟩
  | cons c rest ih =>
    obtain ⟨first, others⟩ := List.forall_mem_cons.mp h
    obtain ⟨head, words, small, each, rfl⟩ := ih others
    rcases first with isCapital | isSmall
    · -- the small letters behind a capital are the rest of its word
      obtain ⟨d, pair⟩ := CodePoint.exists_small isCapital
      have word : IsWord (d :: head) :=
        ⟨List.cons_ne_nil _ _, List.forall_mem_cons.mpr ⟨pair.isSmall, small⟩⟩
      refine ⟨[], (d :: head) :: words, List.forall_mem_nil _,
        List.forall_mem_cons.mpr ⟨word, each⟩, ?_⟩
      rw [List.flatMap_cons, capitalize_cons pair small, List.nil_append, List.cons_append]
    · exact ⟨c :: head, words, List.forall_mem_cons.mpr ⟨isSmall, small⟩, each, rfl⟩

theorem exists_camel_eq {tag : Text} (h : IsTagName tag) :
    ∃ kind, IsGrammarName kind ∧ camel kind = tag := by
  cases tag with
  | nil => exact h.elim
  | cons first rest =>
    obtain ⟨isCapital, letters⟩ := h
    obtain ⟨head, words, small, each, same⟩ :=
      exists_words (List.forall_mem_cons.mpr ⟨.inl isCapital, letters⟩)
    cases head with
    | cons c head =>
      -- a tag has no letters before its first capital
      obtain ⟨rfl, _⟩ := List.cons.inj same
      rw [CodePoint.isCapital_eq_false (small first List.mem_cons_self)] at isCapital
      cases isCapital
    | nil =>
      have some : words ≠ [] := by
        rintro rfl
        cases same
      exact ⟨_, ⟨words, some, each, rfl⟩, (camel_join some each).trans same.symm⟩

theorem camel_snake {tag : Text} (h : IsTagName tag) :
    IsGrammarName (snake tag) ∧ camel (snake tag) = tag := by
  obtain ⟨kind, name, rfl⟩ := exists_camel_eq h
  rw [snake_camel name]
  exact ⟨name, rfl⟩

end Tags

/-- The grammar names, those of the forms left out, whose nodes are described under a tag. -/
def fallbackKinds (tag : Text) : Set Text :=
  {kind | IsGrammarName kind ∧ Form.ofKind kind = .other ∧
    ∃ bytes t v, Tree.kind t = kind ∧ statement bytes t = .ok v ∧ v.tag = .text tag}

theorem statement_of_other {t : Tree} (bytes : Bytes) (h : Form.ofKind t.kind = .other) :
    statement bytes t = .ok (document bytes t.label (camel t.kind) []) := by
  rw [statement_eq_assemble, assemble, h]

theorem mem_fallbackKinds_iff {tag kind : Text} :
    kind ∈ fallbackKinds tag ↔ IsGrammarName kind ∧ Form.ofKind kind = .other ∧
      camel kind = tag := by
  constructor
  · rintro ⟨name, other, bytes, t, v, rfl, built, tagged⟩
    rw [statement_of_other bytes other] at built
    cases built
    rw [tag_document] at tagged
    cases tagged
    exact ⟨name, other, rfl⟩
  · rintro ⟨name, other, rfl⟩
    let t : Tree := .node { kind, start := ⟨0, 0, 0⟩, stop := ⟨0, 0, 0⟩ } []
    exact ⟨name, other, [], t, _, rfl, statement_of_other (t := t) [] other, tag_document _ _ _ _⟩

/-- Grammar names and their tags determine each other: a grammar name is what its tag spells with an
underscore before every capital but the first, in lower case.  So the tag of an exportable
declaration, of an import or of an export is given to nodes of at most one name that is no form: the
one that it spells. -/
theorem camel_invertible :
    Set.BijOn camel {kind | IsGrammarName kind} {tag | IsTagName tag} ∧
    Set.InvOn snake camel {kind | IsGrammarName kind} {tag | IsTagName tag} ∧
    ∀ tag ∈ exportableTags ++ moduleTags, (fallbackKinds tag).Subsingleton ∧
      ∀ kind, kind ∈ fallbackKinds tag ↔ kind = snake tag ∧ Form.ofKind kind = .other := by
  have inverse : Set.InvOn snake camel {kind | IsGrammarName kind} {tag | IsTagName tag} :=
    ⟨fun _ name => snake_camel name, fun _ name => (camel_snake name).2⟩
  have bijective : Set.BijOn camel {kind | IsGrammarName kind} {tag | IsTagName tag} :=
    inverse.bijOn (fun _ name => isTagName_camel name) (fun _ name => (camel_snake name).1)
  refine ⟨bijective, inverse, fun tag listed => ⟨?_, fun kind => ?_⟩⟩
  · intro kind member kind' member'
    obtain ⟨name, _, same⟩ := mem_fallbackKinds_iff.mp member
    obtain ⟨name', _, same'⟩ := mem_fallbackKinds_iff.mp member'
    exact bijective.injOn name name' (same.trans same'.symm)
  · have names : ∀ tag ∈ exportableTags ++ moduleTags, IsTagName tag := by decide +kernel
    obtain ⟨spelled, back⟩ := camel_snake (names tag listed)
    rw [mem_fallbackKinds_iff]
    constructor
    · rintro ⟨name, other, rfl⟩
      exact ⟨(snake_camel name).symm, other⟩
    · rintro ⟨rfl, other⟩
      exact ⟨spelled, other, back⟩

/-- `TSDeclareFunction` is the tag of one made-up name beside its form, `ClassDeclaration` that of
forms alone. -/
theorem camel_invertible_declareFunction :
    camel "ts_declare_function" ≠ camel "t_s_declare_function" ∧
    Text.ofString "TSDeclareFunction" ∈ exportableTags ++ moduleTags ∧
    fallbackKinds "TSDeclareFunction" = {Text.ofString "t_s_declare_function"} ∧
    Text.ofString "ClassDeclaration" ∈ exportableTags ++ moduleTags ∧
    fallbackKinds "ClassDeclaration" = ∅ := by
  have declared : Text.ofString "TSDeclareFunction" ∈ exportableTags ++ moduleTags := by decide
  have classes : Text.ofString "ClassDeclaration" ∈ exportableTags ++ moduleTags := by decide
  refine ⟨fun same => ?_, declared, ?_, classes, ?_⟩
  · have joined : IsGrammarName "ts_declare_function" := by decide +kernel
    have apart : IsGrammarName "t_s_declare_function" := by decide +kernel
    exact absurd (camel_invertible.1.injOn joined apart same) (by decide)
  · have spelled : snake "TSDeclareFunction" = "t_s_declare_function" := by decide +kernel
    ext kind
    rw [(camel_invertible.2.2 _ declared).2, spelled, Set.mem_singleton_iff]
    exact and_iff_left_of_imp fun same => same ▸ by decide +kernel
  · have spelled : snake "ClassDeclaration" = "class_declaration" := by decide +kernel
    ext kind
    rw [(camel_invertible.2.2 _ classes).2, spelled]
    refine iff_of_false ?_ (Set.notMem_empty _)
    rintro ⟨rfl, other⟩
    exact absurd other (by decide)

end Concrete

end ExportList
