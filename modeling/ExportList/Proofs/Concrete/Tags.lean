import ExportList.Proofs.Concrete.Statement

/-!
The tags of statements.  A statement that is no wrapper declares one name, or variables, or nothing
that could be exported; its grammar name says which, and its document has tag and parts accordingly.
-/

set_option autoImplicit false

namespace ExportList.Concrete

def namedKinds : List Text :=
  ["function_declaration", "generator_function_declaration", "function_signature",
    "class_declaration", "abstract_class_declaration", "interface_declaration",
    "type_alias_declaration", "enum_declaration"]

def variableKinds : List Text := ["lexical_declaration", "variable_declaration"]

def namedTags : List Text :=
  ["FunctionDeclaration", "TSDeclareFunction", "ClassDeclaration", "TSInterfaceDeclaration",
    "TSTypeAliasDeclaration", "TSEnumDeclaration"]

def exportTags : List Text :=
  ["ExportDefaultDeclaration", "TSExportAssignment", "TSNamespaceExportDeclaration",
    "ExportAllDeclaration", "ExportNamedDeclaration"]

/-- The tags of statements that neither export nor declare what could be exported. -/
def neutralTags : List Text :=
  ["TSModuleDeclaration", "AmbientDeclaration", "ExpressionStatement", "ImportDeclaration",
    "TSImportEqualsDeclaration"]

/-- The tags that documents of a form can have.  Any other node has its tag from its grammar
name. -/
def Form.tags (kind : Text) : Form → List Text
  | .function _ => ["FunctionDeclaration"]
  | .signature => ["TSDeclareFunction"]
  | .classDeclaration _ => ["ClassDeclaration"]
  | .interface => ["TSInterfaceDeclaration"]
  | .typeAlias => ["TSTypeAliasDeclaration"]
  | .enumeration => ["TSEnumDeclaration"]
  | .variableList => ["VariableDeclaration"]
  | .moduleDeclaration => ["TSModuleDeclaration"]
  | .ambient => ["TSModuleDeclaration", "AmbientDeclaration"]
  | .expression => ["TSModuleDeclaration", "ExpressionStatement"]
  | .importStatement => ["ImportDeclaration", "TSImportEqualsDeclaration"]
  | .importAlias => ["TSImportEqualsDeclaration"]
  | .exportStatement => exportTags
  | .other => [camel kind]

section Tags

variable {bytes : Bytes} {t : Tree} {v : Value}

theorem Form.ofKind_eq (kind : Text) :
    (∃ entry ∈ Form.table, kind = entry.1 ∧ Form.ofKind kind = entry.2) ∨
      Form.ofKind kind = .other := by
  unfold Form.ofKind
  cases h : Form.table.find? fun entry => entry.1 = kind with
  | none => exact .inr rfl
  | some entry =>
    have same := List.find?_some h
    exact .inl ⟨entry, List.mem_of_find?_eq_some h, (of_decide_eq_true same).symm, rfl⟩

theorem Form.mem_table {kind : Text} {form : Form} (h : Form.ofKind kind = form)
    (known : form ≠ .other) : (kind, form) ∈ Form.table := by
  rcases Form.ofKind_eq kind with ⟨entry, member, rfl, same⟩ | other
  · rw [← h, same]
    exact member
  · exact absurd (h.symm.trans other) known

private theorem of_named {tag : Text} {extra : Fields} (h : named bytes t tag extra = .ok v) :
    v.tag = .text tag ∧ identifier? bytes (t.child? "name") = .ok (v.field "id") := by
  obtain ⟨id, hid, h⟩ := bind_eq_ok_iff.mp h
  cases h
  exact ⟨tag_document _ _ _ _, by rw [hid, field_document _ _ _ _ (by simp)]; simp⟩

/-- The document of a declaration of one name holds that name. -/
theorem statement_named (kind : t.kind ∈ namedKinds) (h : statement bytes t = .ok v) :
    (∃ tag ∈ namedTags, v.tag = .text tag) ∧
      identifier? bytes (t.child? "name") = .ok (v.field "id") := by
  have shape : ∃ tag ∈ namedTags, ∃ extra, statement bytes t = named bytes t tag extra := by
    simp only [namedKinds, List.mem_cons, List.not_mem_nil, or_false] at kind
    rw [statement_eq_assemble, assemble]
    rcases kind with kind | kind | kind | kind | kind | kind | kind | kind <;>
      rw [kind] <;> exact ⟨_, by simp [namedTags], _, rfl⟩
  obtain ⟨tag, ht, extra, hs⟩ := shape
  obtain ⟨hv, hid⟩ := of_named (hs ▸ h)
  exact ⟨⟨tag, ht, hv⟩, hid⟩

/-- The document of a declaration of variables holds its declarators. -/
theorem statement_variables (kind : t.kind ∈ variableKinds) (h : statement bytes t = .ok v) :
    v.tag = .text "VariableDeclaration" ∧
      (declarators t).mapM (declarator bytes) = .ok (v.field "declarations").items := by
  have form : Form.ofKind t.kind = .variableList := by
    simp only [variableKinds, List.mem_cons, List.not_mem_nil, or_false] at kind
    rcases kind with kind | kind <;> rw [kind] <;> rfl
  rw [statement_eq_assemble, assemble, form, variableList_eq] at h
  obtain ⟨word, _, h⟩ := bind_eq_ok_iff.mp h
  obtain ⟨values, hd, h⟩ := bind_eq_ok_iff.mp h
  cases h
  exact ⟨tag_document _ _ _ _, by rw [hd, field_document _ _ _ _ (by simp)]; simp⟩

private theorem tag_of_exportStatement
    (h : exportStatement bytes t (statements bytes t.children) = .ok v) :
    ∃ tag ∈ exportTags, v.tag = .text tag := by
  rw [exportStatement_eq] at h
  split_ifs at h
  · obtain ⟨_, _, h⟩ := bind_eq_ok_iff.mp h
    cases h
    exact ⟨_, by simp [exportTags], tag_document _ _ _ _⟩
  · cases h
    exact ⟨_, by simp [exportTags], tag_document _ _ _ _⟩
  · obtain ⟨_, _, h⟩ := bind_eq_ok_iff.mp h
    cases h
    exact ⟨_, by simp [exportTags], tag_document _ _ _ _⟩
  · obtain ⟨_, _, h⟩ := bind_eq_ok_iff.mp h
    cases h
    exact ⟨_, by simp [exportTags], tag_document _ _ _ _⟩
  · obtain ⟨_, _, h⟩ := bind_eq_ok_iff.mp h
    obtain ⟨_, _, h⟩ := bind_eq_ok_iff.mp h
    obtain ⟨_, _, h⟩ := bind_eq_ok_iff.mp h
    cases h
    exact ⟨_, by simp [exportTags], tag_document _ _ _ _⟩

private theorem tag_of_ambient (w : t.isWrapper = false) (kind : t.kind = "ambient_declaration")
    (h : ambient bytes t (statements bytes t.children) = .ok v) :
    ∃ tag ∈ Form.ambient.tags t.kind, v.tag = .text tag := by
  rw [ambient_eq] at h
  split at h
  · cases h
    exact ⟨_, by simp [Form.tags], tag_document _ _ _ _⟩
  · split_ifs at h with isGlobal isModule
    · cases h
      exact ⟨_, by simp [Form.tags], tag_document _ _ _ _⟩
    · cases h
      exact ⟨_, by simp [Form.tags], tag_document _ _ _ _⟩
    · rw [Bool.not_eq_true] at isGlobal isModule
      rw [Tree.isWrapper, Tree.isKind, kind, isGlobal, isModule] at w
      exact absurd w (by decide)

/-- An expression statement is one, or a namespace. -/
theorem tag_of_expressionStatement (h : expressionStatement bytes t = .ok v) :
    ∃ tag ∈ [Text.ofString "TSModuleDeclaration", "ExpressionStatement"], v.tag = .text tag := by
  unfold expressionStatement at h
  split at h
  · split_ifs at h
    · exact ⟨_, by simp, (of_named h).1⟩
    · cases h
      exact ⟨_, by simp, tag_document _ _ _ _⟩
  · cases h
    exact ⟨_, by simp, tag_document _ _ _ _⟩

private theorem tag_of_importStatement (h : importStatement bytes t = .ok v) :
    ∃ tag ∈ Form.importStatement.tags t.kind, v.tag = .text tag := by
  unfold importStatement at h
  split_ifs at h
  · cases h
    exact ⟨_, by simp [Form.tags], tag_document _ _ _ _⟩
  · obtain ⟨_, _, h⟩ := bind_eq_ok_iff.mp h
    cases h
    exact ⟨_, by simp [Form.tags], tag_document _ _ _ _⟩

/-- A statement that is no wrapper has one of the tags of its form. -/
theorem tag_of_statement (w : t.isWrapper = false) (h : statement bytes t = .ok v) :
    ∃ tag ∈ (Form.ofKind t.kind).tags t.kind, v.tag = .text tag := by
  rw [statement_eq_assemble, assemble] at h
  generalize formed : Form.ofKind t.kind = form at h ⊢
  cases form with
  | function => exact ⟨_, List.mem_singleton_self _, (of_named h).1⟩
  | signature => exact ⟨_, List.mem_singleton_self _, (of_named h).1⟩
  | classDeclaration => exact ⟨_, List.mem_singleton_self _, (of_named h).1⟩
  | interface => exact ⟨_, List.mem_singleton_self _, (of_named h).1⟩
  | typeAlias => exact ⟨_, List.mem_singleton_self _, (of_named h).1⟩
  | enumeration => exact ⟨_, List.mem_singleton_self _, (of_named h).1⟩
  | variableList =>
    rw [variableList_eq] at h
    obtain ⟨_, _, h⟩ := bind_eq_ok_iff.mp h
    obtain ⟨_, _, h⟩ := bind_eq_ok_iff.mp h
    cases h
    exact ⟨_, List.mem_singleton_self _, tag_document _ _ _ _⟩
  | moduleDeclaration => exact ⟨_, List.mem_singleton_self _, (of_named h).1⟩
  | ambient =>
    have kinds : ∀ entry ∈ Form.table, entry.2 = .ambient →
        entry.1 = "ambient_declaration" := by decide
    exact tag_of_ambient w (kinds _ (Form.mem_table formed (by decide)) rfl) h
  | expression => exact tag_of_expressionStatement h
  | importStatement => exact tag_of_importStatement h
  | importAlias =>
    cases h
    exact ⟨_, List.mem_singleton_self _, tag_document _ _ _ _⟩
  | exportStatement => exact tag_of_exportStatement h
  | other =>
    cases h
    exact ⟨_, List.mem_singleton_self _, tag_document _ _ _ _⟩

/-- The tags of statements that declare no name to export. -/
theorem statement_other (w : t.isWrapper = false) (notNamed : t.kind ∉ namedKinds)
    (notVariables : t.kind ∉ variableKinds) (h : statement bytes t = .ok v) :
    ∃ tag, v.tag = .text tag ∧
      (tag ∈ neutralTags ∨ t.kind = "export_statement" ∧ tag ∈ exportTags ∨
        Form.ofKind t.kind = .other ∧ tag = camel t.kind) := by
  have known : ∀ entry ∈ Form.table, entry.1 ∉ namedKinds → entry.1 ∉ variableKinds →
      ∀ tag ∈ entry.2.tags entry.1,
        tag ∈ neutralTags ∨ entry.1 = "export_statement" ∧ tag ∈ exportTags := by
    decide
  obtain ⟨tag, among, hv⟩ := tag_of_statement w h
  refine ⟨tag, hv, ?_⟩
  rcases Form.ofKind_eq t.kind with ⟨entry, member, kind, form⟩ | form
  · rw [form, kind] at among
    rw [kind] at notNamed notVariables ⊢
    rcases known entry member notNamed notVariables tag among with neutral | exports
    · exact .inl neutral
    · exact .inr (.inl exports)
  · rw [form] at among
    exact .inr (.inr ⟨form, List.mem_singleton.mp among⟩)

theorem exists_tag (h : statement bytes t = .ok v) : ∃ tag, v.tag = .text tag := by
  have view := statement_unwrap h
  cases hu : t.unwrap with
  | none =>
    rw [hu] at view
    exact ⟨_, view⟩
  | some inner =>
    rw [hu] at view
    obtain ⟨u, hs, same⟩ := view
    have sameTag : v.tag = u.tag := same "type" (by simp [relevantKeys])
    obtain ⟨tag, _, hv⟩ := tag_of_statement (Tree.unwrap_eq_some hu).2 hs
    exact ⟨tag, sameTag.trans hv⟩

theorem isNull_statement (h : statement bytes t = .ok v) : v.isNull = false := by
  obtain ⟨tag, hv⟩ := exists_tag h
  cases v with
  | null => cases hv
  | _ => rfl

end Tags

end ExportList.Concrete
