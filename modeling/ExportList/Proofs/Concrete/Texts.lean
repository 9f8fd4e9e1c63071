import ExportList.Proofs.Concrete.Description

/-!
The texts in the program of a tree: names, quoted names, and the words with which declarations of
variables begin.  Each is what the bytes of a node decode to.  Where nodes begin and end between
characters, these are the characters of the document there, and a program can fail to be built only
at a node that does not.
-/

set_option autoImplicit false

namespace ExportList

theorem Text.between_isInfix (t : Text) (start stop : Nat) : t.between start stop <:+: t := by
  have first : t.between start stop <+: t.fromByte start := ⟨_, Text.upToByte_append_fromByte _ _⟩
  have last : t.fromByte start <:+ t := ⟨_, Text.upToByte_append_fromByte start t⟩
  exact first.isInfix.trans last.isInfix

namespace Concrete

def IsAt (v : Value) (t : Tree) : Prop :=
  v.field? "range" = some (.list [.nat t.label.start.offset, .nat t.label.stop.offset])

/-- The texts that a document in the program of a tree may carry under a key. -/
inductive GivesText (source : Text) (root : Tree) (v : Value) : String → Text → Prop
  | name {t : Tree} (member : t ∈ root.nodes) (place : IsAt v t) :
    GivesText source root v "name" (t.characters source)
  | globalName {t : Tree} (member : t ∈ root.nodes) (place : IsAt v t)
    (isGlobal : t.isGlobal = true) :
    GivesText source root v "name" "global"
  -- the quotes are left out
  | value {t : Tree} (member : t ∈ root.nodes) (place : IsAt v t)
    (quoted : t.isKind "string" = true) :
    GivesText source root v "value" ((t.characters source).drop 1).dropLast
  -- a declaration of variables may be placed at a wrapper of it
  | kind {t inner first : Tree} (member : t ∈ root.nodes) (place : IsAt v t)
    (about : t.unwrap = some inner) (declares : inner.kind ∈ variableKinds)
    (begins : inner.children.head? = some first) :
    GivesText source root v "kind" (first.characters source)
  | defaultKind {t inner : Tree} (member : t ∈ root.nodes) (place : IsAt v t)
    (about : t.unwrap = some inner) (declares : inner.kind ∈ variableKinds)
    (bare : inner.children = []) : GivesText source root v "kind" "var"

/-- The tags of the documents that carry texts, with the keys of the texts. -/
def textFields : List (String × String) :=
  [("Identifier", "name"), ("StringLiteral", "value"), ("VariableDeclaration", "kind")]

/-- The text that a value carries, if it carries one, is one that a tree gives. -/
def HasTexts (source : Text) (root : Tree) (v : Value) : Prop :=
  ∀ entry ∈ textFields, v.field? "type" = some (.string entry.1) → ∀ w, v.field? entry.2 = some w →
    ∃ text, w = .text text ∧ GivesText source root v entry.2 text

section Trees

variable {source : Text} {root : Tree}

/-- Two words apart, the texts of a program stand in the document. -/
theorem GivesText.isInfix {v : Value} {key : String} {text : Text}
    (h : GivesText source root v key text) :
    text = "global" ∨ text = "var" ∨ text <:+: source := by
  cases h with
  | name member place => exact .inr (.inr (source.between_isInfix _ _))
  | globalName member place isGlobal => exact .inl rfl
  | @value t member place quoted =>
    have inside := (List.dropLast_prefix _).isInfix.trans
      (List.drop_suffix 1 (t.characters source)).isInfix
    exact .inr (.inr (inside.trans (source.between_isInfix _ _)))
  | kind member place about declares begins => exact .inr (.inr (source.between_isInfix _ _))
  | defaultKind member place about declares bare => exact .inr (.inl rfl)

theorem GivesText.isScalar {v : Value} {key : String} {text : Text}
    (h : GivesText source root v key text) (plain : source.IsScalar) : text.IsScalar := by
  rcases h.isInfix with rfl | rfl | inside
  · exact Text.isScalar_ofString "global"
  · exact Text.isScalar_ofString "var"
  · exact fun c member => plain c (inside.subset member)

end Trees

section Documents

variable {source : Text} {bytes : Bytes} {root t : Tree}

theorem isAt_document (tag : Text) (fields : Fields) :
    IsAt (document bytes t.label tag fields) t := by
  simp [IsAt, document, base, Value.field?]

private theorem field?_document {label : Label} {tag : Text} {fields : Fields} {key : String}
    (other : key ∉ placeKeys) :
    (document bytes label tag fields).field? key = Fields.get? fields key := by
  simp only [placeKeys, List.mem_cons, List.not_mem_nil, or_false, not_or] at other
  obtain ⟨noTag, noPlace, noRange⟩ := other
  simp [Value.field?, document, base, Ne.symm noTag, Ne.symm noPlace, Ne.symm noRange]

/-- Tag and place carry no text. -/
private theorem hasTexts_document {label : Label} {tag : Text} {fields : Fields}
    (own : ∀ key ∈ textKeys, ∀ w, Fields.get? fields key = some w →
      ∃ text, w = .text text ∧ GivesText source root (document bytes label tag fields) key text) :
    HasTexts source root (document bytes label tag fields) := by
  have keys : ∀ entry ∈ textFields, entry.2 ∈ textKeys ∧ entry.2 ∉ placeKeys := by decide
  intro entry member _ w found
  obtain ⟨isText, other⟩ := keys entry member
  rw [field?_document other] at found
  exact own entry.2 isText w found

/-- A document with a single field. -/
private theorem hasTexts_singleton {label : Label} {tag : Text} {key : String} {text : Text}
    (given : GivesText source root (document bytes label tag [(key, .text text)]) key text) :
    HasTexts source root (document bytes label tag [(key, .text text)]) := by
  apply hasTexts_document
  intro key' _ w found
  rw [Fields.get?_cons] at found
  split_ifs at found with same
  · cases found
    exact ⟨text, rfl, Text.ofString_inj.mp same ▸ given⟩
  · cases found

theorem hasTexts_identifier {v : Value} (reads : root.Reads source bytes) (member : t ∈ root.nodes)
    (h : identifier bytes t = .ok v) : HasTexts source root v := by
  obtain ⟨text, read, h⟩ := bind_eq_ok_iff.mp h
  have same : t.characters source = text := Except.ok.inj ((reads t member).symm.trans read)
  split_ifs at h with quoted
  · cases h
    exact hasTexts_singleton (same ▸ .value member (isAt_document _ _) quoted)
  · cases h
    exact hasTexts_singleton (same ▸ .name member (isAt_document _ _))

/-- The word before declared variables. -/
private theorem givesText_keyword {v : Value} {inner : Tree} {word : Text}
    (reads : root.Reads source bytes) (member : t ∈ root.nodes) (place : IsAt v t)
    (about : t.unwrap = some inner) (declares : inner.kind ∈ variableKinds)
    (h : keyword bytes inner = .ok word) : GivesText source root v "kind" word := by
  have inside : inner ∈ root.nodes := Tree.mem_nodes_trans (Tree.unwrap_eq_some about).1 member
  rw [keyword] at h
  cases children : inner.children with
  | nil =>
    rw [children] at h
    cases h
    exact .defaultKind member place about declares children
  | cons first rest =>
    rw [children] at h
    have child : first ∈ inner.children := children ▸ List.mem_cons_self
    have same : first.characters source = word :=
      Except.ok.inj (((reads.node inside).child child).self.symm.trans h)
    exact same ▸ .kind member place about declares (congrArg List.head? children)

theorem hasTexts_of_ownTexts {tag : Text} {fields : Fields} (reads : root.Reads source bytes)
    (member : t ∈ root.nodes) (own : OwnTexts bytes t fields) :
    HasTexts source root (document bytes t.label tag fields) := by
  apply hasTexts_document
  intro key isText w found
  simp only [textKeys, List.mem_cons, List.not_mem_nil, or_false] at isText
  rcases isText with rfl | rfl | rfl
  · rw [own.name] at found
    cases found
  · rw [own.value] at found
    cases found
  · obtain ⟨inner, word, about, declares, read, rfl⟩ := own.kind w found
    exact ⟨word, rfl, givesText_keyword reads member (isAt_document _ _) about declares read⟩

theorem Composed.everywhere_hasTexts {v : Value} (reads : root.Reads source bytes)
    (h : Composed bytes root v) : v.Everywhere (HasTexts source root) := by
  refine h.everywhere ?_ ?_ ?_ ?_
  · intro v untagged entry _ tagged
    rw [untagged] at tagged
    cases tagged
  · exact fun t member _ v read => hasTexts_identifier reads member read
  · exact fun t member isGlobal =>
      hasTexts_singleton (.globalName member (isAt_document _ _) isGlobal)
  · exact fun t member tag fields _ own => hasTexts_of_ownTexts reads member own

end Documents

/-- A tree whose nodes begin and end between characters has a program.  Each name in it is made of
the characters between the offsets of a node, a quoted name of these without the quotes, and the
word before variables of those of the first child, so that all of them stand in the document and
hold no surrogates. Any other tree can fail only by a node whose bytes cannot be decoded. -/
theorem texts_of_tree {source : Text} {bytes : Bytes} (encoded : Utf8.encode? source = some bytes)
    (tree : Tree) :
    (tree.OnBoundaries source →
      (∃ v, program bytes tree = .ok v ∧ v.Everywhere (HasTexts source tree)) ∧
      ∀ v key text, GivesText source tree v key text →
        (text = "global" ∨ text = "var" ∨ text <:+: source) ∧ text.IsScalar) ∧
    ∀ fault, program bytes tree = .error fault → ∃ t ∈ tree.nodes, t.text bytes = .error fault := by
  refine ⟨fun boundaries => ⟨?_, fun v key text given => ⟨given.isInfix, ?_⟩⟩, program_fails tree⟩
  · have reads := boundaries.reads encoded
    obtain ⟨body, built⟩ := statements_ok reads
    have whole : program bytes tree =
        .ok (document bytes tree.label "Program" [("body", .list body)]) := by
      rw [program]
      exact bind_eq_ok_iff.mpr ⟨body, built, rfl⟩
    exact ⟨_, whole, (composedFor_program whole).composed.everywhere_hasTexts reads⟩
  · exact given.isScalar (Utf8.exists_encode?_iff.mp ⟨bytes, encoded⟩)

/-- The tree of an ambient variable and an import, with the offset at which the variable ends. -/
def declaredImport (stop : Nat) : Tree :=
  .onRow 0 0 "program" 0 29
    [.onRow 0 0 "ambient_declaration" 0 15
      [.asToken (.onRow 0 0 "declare" 0 7 []),
        .onRow 0 0 "lexical_declaration" 8 15
          [.inField "kind" (.asToken (.onRow 0 0 "let" 8 11 [])),
            .onRow 0 0 "variable_declarator" 12 stop
              [.inField "name" (.onRow 0 0 "identifier" 12 stop [])],
            .asToken (.onRow 0 0 ";" 14 15 [])]],
      .onRow 0 0 "import_statement" 16 29
        [.asToken (.onRow 0 0 "import" 16 22 []), .inField "source" (.onRow 0 0 "string" 23 29 [])]]

theorem texts_of_declaredImport :
    ∃ bytes, Utf8.encode? "declare let é; import \"😀\"" = some bytes ∧
      (∃ v, program bytes (declaredImport 14) = .ok v ∧
        v.Everywhere (HasTexts "declare let é; import \"😀\"" (declaredImport 14)) ∧
        (v.field "body").items.map (fun s => (s.field "kind",
            (s.field "declarations").items.map fun d => (d.field "id").field "name",
            (s.field "source").field "value")) =
          [(.string "let", [.string "é"], .null), (.null, [], .string "😀")]) ∧
      ∃ fault, program bytes (declaredImport 13) = .error fault ∧
        ∃ t ∈ (declaredImport 13).nodes, t.text bytes = .error fault := by
  let bytes : Bytes := [100, 101, 99, 108, 97, 114, 101, 32, 108, 101, 116, 32, 195, 169, 59,
    32, 105, 109, 112, 111, 114, 116, 32, 34, 240, 159, 152, 128, 34]
  have encoded : Utf8.encode? (Text.ofString "declare let é; import \"😀\"") = some bytes := rfl
  have boundaries : (declaredImport 14).OnBoundaries "declare let é; import \"😀\"" := by decide
  obtain ⟨v, built, texts⟩ := ((texts_of_tree encoded (declaredImport 14)).1 boundaries).1
  obtain ⟨fault, failed⟩ : ∃ fault, program bytes (declaredImport 13) = .error fault := ⟨_, rfl⟩
  refine ⟨bytes, encoded, ⟨v, built, texts, ?_⟩, fault, failed,
    (texts_of_tree encoded _).2 fault failed⟩
  cases built
  rfl

end Concrete

end ExportList
