import ExportList.Proofs.Concrete.Names

/-!
Modules and scripts.  Whether the program of a tree is a module is decided by the nodes below the
root alone, seen through wrappers: imports and exports make it one in all their forms, and what
stands deeper in a statement does not count.
-/

set_option autoImplicit false

namespace ExportList.Concrete

def moduleKinds : List Text := ["import_statement", "import_alias", "export_statement"]

/-- The grammar names of statements that can have other statements in them: namespaces, also those
read as expressions, modules, and declarations of the global scope. -/
def enclosingKinds : List Text :=
  ["internal_module", "expression_statement", "module", "ambient_declaration"]

/-- Only imports and exports have their tags: no other node is tagged so by its grammar name. -/
def Tree.OnlyModuleTags (t : Tree) : Prop :=
  ∀ s ∈ t.nodes, Form.ofKind s.kind = .other → camel s.kind ∉ moduleTags

instance (t : Tree) : Decidable t.OnlyModuleTags :=
  inferInstanceAs (Decidable (∀ s ∈ t.nodes, _ → _))

section Statements

variable {bytes : Bytes} {t : Tree} {v : Value}

theorem hasTagAmong_iff {tags : List Text} {tag : Text} (h : v.tag = .text tag) :
    hasTagAmong tags v = true ↔ tag ∈ tags := by
  rw [hasTagAmong, h, List.contains_iff_mem]

/-- All tags of imports and exports are among those of modules, and no other tags are. -/
theorem isModule_iff_of_not_wrapper (w : t.isWrapper = false)
    (other : Form.ofKind t.kind = .other → camel t.kind ∉ moduleTags)
    (h : statement bytes t = .ok v) :
    hasTagAmong moduleTags v = true ↔ t.kind ∈ moduleKinds := by
  have known : ∀ entry ∈ Form.table, ∀ tag ∈ entry.2.tags entry.1,
      tag ∈ moduleTags ↔ entry.1 ∈ moduleKinds := by decide
  obtain ⟨tag, among, hv⟩ := tag_of_statement w h
  rw [hasTagAmong_iff hv]
  rcases Form.ofKind_eq t.kind with ⟨entry, member, kind, form⟩ | form
  · rw [form, kind] at among
    rw [kind]
    exact known entry member tag among
  · have handled : ∀ kind ∈ moduleKinds, Form.ofKind kind ≠ .other := by decide
    rw [form] at among
    rw [List.mem_singleton.mp among]
    exact iff_of_false (other form) fun member => handled _ member form

/-- A statement makes a program a module if what it is about is an import or an export. -/
theorem isModule_iff (only : t.OnlyModuleTags) (h : statement bytes t = .ok v) :
    hasTagAmong moduleTags v = true ↔ ∃ inner, t.unwrap = some inner ∧
      inner.kind ∈ moduleKinds := by
  have view := statement_unwrap h
  cases about : t.unwrap with
  | none =>
    rw [about] at view
    rw [hasTagAmong_iff view]
    refine iff_of_false (by decide) ?_
    rintro ⟨inner, found, _⟩
    cases found
  | some inner =>
    rw [about] at view
    obtain ⟨u, built, same⟩ := view
    obtain ⟨member, plain⟩ := Tree.unwrap_eq_some about
    have sameTag : v.tag = u.tag := same "type" (by decide)
    have inside := isModule_iff_of_not_wrapper plain (only inner member) built
    rw [hasTagAmong, sameTag, ← hasTagAmong, inside]
    constructor
    · exact fun kind => ⟨inner, rfl, kind⟩
    · rintro ⟨inner', found, kind⟩
      cases found
      exact kind

end Statements

theorem sourceType_eq_module_iff {statements : List Value} :
    sourceType statements = .module ↔ ∃ v ∈ statements, hasTagAmong moduleTags v = true := by
  rw [sourceType, ← List.any_eq_true]
  split_ifs with found
  · exact iff_of_true rfl found
  · exact iff_of_false (by decide) found

/-- A tree that is read makes a module exactly if some statement below its root is, seen through
wrappers, an import or an export, whatever its tokens and children.  Where all statements are ones
that enclose others, the program is a script, whatever is exported inside. -/
theorem sourceType_of_tree {source sourceName : Text} {tree : Tree} {parsed : Parsed}
    (read : parseTree source sourceName tree = .ok parsed) (only : tree.OnlyModuleTags) :
    (parsed.sourceType = .module ↔
      ∃ t ∈ tree.statementNodes, ∃ inner, t.unwrap = some inner ∧ inner.kind ∈ moduleKinds) ∧
    ((∀ t ∈ tree.statementNodes, ∀ inner, t.unwrap = some inner → inner.kind ∈ enclosingKinds) →
      parsed.sourceType = .script) := by
  obtain ⟨bytes, _, _, each⟩ := of_parseTree_ok read
  have below : ∀ t ∈ tree.statementNodes, t.OnlyModuleTags := fun t member s inside =>
    only s (Tree.mem_nodes_of_child (Tree.mem_children_of_statementNodes member) inside)
  have decided : parsed.sourceType = .module ↔
      ∃ t ∈ tree.statementNodes, ∃ inner, t.unwrap = some inner ∧ inner.kind ∈ moduleKinds := by
    rw [sourceType_of_parseTree read, sourceType_eq_module_iff]
    constructor
    · rintro ⟨v, listed, isModule⟩
      obtain ⟨t, member, built⟩ := (mem_of_mapM_ok each).mp listed
      exact ⟨t, member, (isModule_iff (below t member) built).mp isModule⟩
    · rintro ⟨t, member, about⟩
      obtain ⟨v, built⟩ := exists_ok_of_mapM_ok each member
      exact ⟨v, (mem_of_mapM_ok each).mpr ⟨t, member, built⟩,
        (isModule_iff (below t member) built).mpr about⟩
  refine ⟨decided, fun enclosing => ?_⟩
  have apart : ∀ kind ∈ enclosingKinds, kind ∉ moduleKinds := by decide
  cases kind : parsed.sourceType with
  | script => rfl
  | module =>
    obtain ⟨t, member, inner, about, isModule⟩ := decided.mp kind
    exact absurd isModule (apart inner.kind (enclosing t member inner about))

/-- The tree of `declare import a = N.b`. -/
def ambientImport : Tree :=
  .onRow 0 0 "program" 0 22
    [.onRow 0 0 "ambient_declaration" 0 22
      [.asToken (.onRow 0 0 "declare" 0 7 []),
        .onRow 0 0 "import_alias" 8 22
          [.asToken (.onRow 0 0 "import" 8 14 []), .onRow 0 0 "identifier" 15 16 [],
            .asToken (.onRow 0 0 "=" 17 18 []), .onRow 0 0 "nested_identifier" 19 22 []]]]

/-- The tree of `namespace N{export{}}`. -/
def exportingNamespace : Tree :=
  .onRow 0 0 "program" 0 21
    [.onRow 0 0 "expression_statement" 0 21
      [.onRow 0 0 "internal_module" 0 21
        [.asToken (.onRow 0 0 "namespace" 0 9 []),
          .inField "name" (.onRow 0 0 "identifier" 10 11 []),
          .inField "body" (.onRow 0 0 "statement_block" 11 21
            [.onRow 0 0 "export_statement" 12 20
              [.asToken (.onRow 0 0 "export" 12 18 []), .onRow 0 0 "export_clause" 18 20 []]])]]]

theorem sourceType_of_nested :
    (∃ parsed, parseTree "declare import a = N.b" "a.ts" ambientImport = .ok parsed ∧
      ambientImport.OnlyModuleTags ∧ parsed.sourceType = .module) ∧
    ∃ parsed, parseTree "namespace N\x7bexport\x7b\x7d\x7d" "a.ts" exportingNamespace = .ok parsed ∧
      exportingNamespace.OnlyModuleTags ∧ parsed.sourceType = .script := by
  constructor
  · let bytes : Bytes := [100, 101, 99, 108, 97, 114, 101, 32, 105, 109, 112, 111, 114, 116, 32, 97,
      32, 61, 32, 78, 46, 98]
    obtain ⟨v, built⟩ : ∃ v, program bytes ambientImport = .ok v := ⟨_, rfl⟩
    have read : parseTree "declare import a = N.b" "a.ts" ambientImport = .ok _ :=
      parseTree_eq_ok_iff.mpr ⟨bytes, v, rfl, rfl, built, rfl⟩
    have only : ambientImport.OnlyModuleTags := by decide
    exact ⟨_, read, only, (sourceType_of_tree read only).1.mpr ⟨_, .head _, _, rfl, by decide⟩⟩
  · let bytes : Bytes := [110, 97, 109, 101, 115, 112, 97, 99, 101, 32, 78, 123, 101, 120, 112, 111,
      114, 116, 123, 125, 125]
    obtain ⟨v, built⟩ : ∃ v, program bytes exportingNamespace = .ok v := ⟨_, rfl⟩
    have read : parseTree "namespace N\x7bexport\x7b\x7d\x7d" "a.ts" exportingNamespace = .ok _ :=
      parseTree_eq_ok_iff.mpr ⟨bytes, v, rfl, rfl, built, rfl⟩
    have only : exportingNamespace.OnlyModuleTags := by decide
    refine ⟨_, read, only, (sourceType_of_tree read only).2 ?_⟩
    have enclosing : ∀ t ∈ exportingNamespace.statementNodes, ∀ inner ∈ t.unwrap,
        inner.kind ∈ enclosingKinds := by decide
    exact enclosing

end ExportList.Concrete
