import ExportList.Proofs.Concrete.Nodes

/-!
The documents of statements.  They are missing only where the bytes of a node are no text, and the
document of an ambient declaration looks like that of what it declares.
-/

set_option autoImplicit false

namespace ExportList.Concrete

@[simp] theorem tag_document (bytes : Bytes) (label : Label) (tag : Text) (fields : Fields) :
    (document bytes label tag fields).tag = .text tag := by
  simp [Value.tag, document, base]

@[simp] theorem field_document (bytes : Bytes) (label : Label) (tag : Text) (fields : Fields)
    {key : String} (h : key ∉ ["type", "loc", "range"]) :
    (document bytes label tag fields).field (Text.ofString key) =
      (Fields.get? fields (Text.ofString key)).getD .null := by
  simp only [List.mem_cons, List.not_mem_nil, or_false, not_or] at h
  simp [document, base, Ne.symm h.1, Ne.symm h.2.1, Ne.symm h.2.2]

theorem statements_eq_map (bytes : Bytes) (children : List Tree) :
    statements bytes children = children.map fun t => ⟨t, statement bytes t⟩ := by
  induction children with
  | nil => rfl
  | cons t rest ih => rw [statements, ih, List.map_cons]

theorem statement_eq_assemble (bytes : Bytes) (t : Tree) :
    statement bytes t = assemble bytes t (statements bytes t.children) := by
  cases t
  rw [statement]
  rfl

theorem builtChild?_statements (bytes : Bytes) (t : Tree) (role : Text) :
    builtChild? (statements bytes t.children) role =
      (t.child? role).map fun child => ⟨child, statement bytes child⟩ := by
  rw [statements_eq_map, builtChild?, List.find?_map]
  rfl

def keyword (bytes : Bytes) (t : Tree) : Except Utf8.Fault Text :=
  match t.children with
  | [] => .ok (Text.ofString "var")
  | first :: _ => first.text bytes

def declarators (t : Tree) : List Tree :=
  t.namedChildren.filter fun child => child.isKind "variable_declarator"

def clause? (t : Tree) : Option Tree :=
  t.namedChildren.find? fun child => child.isKind "export_clause"

def wildcard? (t : Tree) : Option Tree :=
  t.namedChildren.find? fun child => child.isKind "namespace_export"

/-- The specifiers of an export that is neither a default nor a plain `*`. -/
def specifiersOf (bytes : Bytes) (t : Tree) : Except Utf8.Fault (List Value) :=
  match wildcard? t, clause? t with
  | some wildcard, _ => (namespaceSpecifier bytes wildcard).map fun specifier => [specifier]
  | none, some clause => exportSpecifiers bytes clause
  | none, none => .ok []

/-- The document of a child as a statement; null if there is no such child. -/
def childStatement (bytes : Bytes) : Option Tree → Except Utf8.Fault Value
  | none => .ok .null
  | some child => statement bytes child

/-- The document of what an ambient declaration declares, at the place of the whole. -/
def declaredAt (bytes : Bytes) (label : Label) : Value → Value
  | .object fields =>
    .object ((Fields.update fields ((base bytes label []).drop 1)).set "declare" (.bool true))
  | other => other

theorem variableList_eq (bytes : Bytes) (t : Tree) :
    variableList bytes t = (do
      let kind ← keyword bytes t
      let values ← (declarators t).mapM (declarator bytes)
      return document bytes t.label "VariableDeclaration"
        [("kind", .text kind), ("declarations", .list values)]) := by
  unfold variableList keyword
  cases t.children <;> rfl

theorem ambient_eq (bytes : Bytes) (t : Tree) :
    ambient bytes t (statements bytes t.children) =
      match t.children.find? Tree.isStatement with
      | none => .ok (document bytes t.label "AmbientDeclaration" [])
      | some inner =>
        if t.tokens.contains "global" then
          .ok (document bytes t.label "TSModuleDeclaration"
            [("id", document bytes t.label "Identifier" [("name", .string "global")]),
              ("global", .bool true), ("declare", .bool true)])
        else if t.tokens.contains "module" then
          .ok (document bytes t.label "AmbientDeclaration" [("declare", .bool true)])
        else (statement bytes inner).map (declaredAt bytes t.label) := by
  have found : (statements bytes t.children).find?
      (fun child => child.tree.label.named && !child.tree.isSkipped) =
      (t.children.find? Tree.isStatement).map fun child => ⟨child, statement bytes child⟩ := by
    rw [statements_eq_map, List.find?_map]
    rfl
  rw [ambient, found]
  cases t.children.find? Tree.isStatement with
  | none => rfl
  | some inner =>
    simp only [Option.map_some]
    cases statement bytes inner with
    | error e => rfl
    | ok v => cases v <;> rfl

private theorem documentOf_builtChild? (bytes : Bytes) (t : Tree) (role : Text) :
    documentOf (builtChild? (statements bytes t.children) role) =
      childStatement bytes (t.child? role) := by
  rw [builtChild?_statements]
  cases t.child? role <;> rfl

private theorem documentOf_or_builtChild? (bytes : Bytes) (t : Tree) (first second : Text) :
    documentOf ((builtChild? (statements bytes t.children) first).or
        (builtChild? (statements bytes t.children) second)) =
      childStatement bytes ((t.child? first).or (t.child? second)) := by
  rw [builtChild?_statements, builtChild?_statements]
  cases t.child? first with
  | none => cases t.child? second <;> rfl
  | some child => rfl

theorem exportStatement_eq (bytes : Bytes) (t : Tree) :
    exportStatement bytes t (statements bytes t.children) =
      if t.tokens.contains "default" then do
        let value ← childStatement bytes ((t.child? "declaration").or (t.child? "value"))
        return document bytes t.label "ExportDefaultDeclaration" [("declaration", value)]
      else if t.tokens.contains "=" then
        .ok (document bytes t.label "TSExportAssignment" [])
      else if t.tokens.contains "namespace" && (clause? t).isNone && (wildcard? t).isNone then do
        let id ← identifier? bytes (t.namedChildren.find? fun child => child.isKind "identifier")
        return document bytes t.label "TSNamespaceExportDeclaration" [("id", id)]
      else if t.tokens.contains "*" && (wildcard? t).isNone then do
        let origin ← identifier? bytes (t.child? "source")
        return document bytes t.label "ExportAllDeclaration" [("source", origin)]
      else do
        let value ← childStatement bytes (t.child? "declaration")
        let specifiers ← specifiersOf bytes t
        let origin ← identifier? bytes (t.child? "source")
        return document bytes t.label "ExportNamedDeclaration"
          [("declaration", value), ("specifiers", .list specifiers), ("source", origin),
            ("exportKind", exportKind t)] := by
  simp only [exportStatement, documentOf_or_builtChild?, documentOf_builtChild?, specifiersOf]
  cases hw : wildcard? t with
  | some wildcard =>
    rw [wildcard?] at hw
    simp only [hw]
    rfl
  | none =>
    cases hc : clause? t with
    | some clause =>
      rw [wildcard?] at hw
      rw [clause?] at hc
      simp only [hw, hc]
      rfl
    | none =>
      rw [wildcard?] at hw
      rw [clause?] at hc
      simp only [hw, hc]
      rfl

theorem identifier_of_text {bytes : Bytes} {t : Tree} {name : Text} (h : t.text bytes = .ok name) :
    identifier bytes t = .ok (if t.isKind "string" then
      document bytes t.label "StringLiteral" [("value", .text (name.drop 1).dropLast)]
    else document bytes t.label "Identifier" [("name", .text name)]) := by
  unfold identifier
  rw [h]
  by_cases s : t.isKind "string" <;> simp only [s] <;> rfl

/-- A fault in the bytes of some node of a tree. -/
def Tree.Faults (bytes : Bytes) (t : Tree) (fault : Utf8.Fault) : Prop :=
  ∃ s ∈ t.nodes, s.text bytes = .error fault

section Faults

variable {bytes : Bytes} {t : Tree}

private theorem text_fails (t : Tree) : FailsOnly (t.Faults bytes) (t.text bytes) :=
  fun _ failed => ⟨t, t.mem_nodes_self, failed⟩

/-- What fails in a child fails in its parent. -/
private theorem fails_of_child {α : Type} {child : Tree} {x : Except Utf8.Fault α}
    (h : FailsOnly (child.Faults bytes) x) (hc : child ∈ t.children) :
    FailsOnly (t.Faults bytes) x := by
  refine h.mono ?_
  rintro fault ⟨s, hs, failed⟩
  exact ⟨s, Tree.mem_nodes_of_child hc hs, failed⟩

private theorem identifier_fails (t : Tree) : FailsOnly (t.Faults bytes) (identifier bytes t) := by
  refine (text_fails t).bind fun name => ?_
  split_ifs
  · exact .ok _
  · exact .ok _

private theorem identifier?_fails {o : Option Tree} (ho : ∀ child ∈ o, child ∈ t.children) :
    FailsOnly (t.Faults bytes) (identifier? bytes o) := by
  cases o with
  | none => exact .ok _
  | some child => exact fails_of_child (identifier_fails child) (ho child rfl)

private theorem named_fails (t : Tree) (tag : Text) (extra : Fields) :
    FailsOnly (t.Faults bytes) (named bytes t tag extra) :=
  (identifier?_fails fun _ => Tree.mem_children_of_child?).bind fun _ => .ok _

private theorem declarator_fails (t : Tree) : FailsOnly (t.Faults bytes) (declarator bytes t) := by
  refine FailsOnly.bind ?_ fun _ => .ok _
  cases name : t.child? "name" with
  | none => exact .ok _
  | some child =>
    rw [bindingTarget]
    split_ifs
    · exact fails_of_child (identifier_fails child) (Tree.mem_children_of_child? name)
    · exact .ok _

private theorem variableList_fails (t : Tree) :
    FailsOnly (t.Faults bytes) (variableList bytes t) := by
  have word : FailsOnly (t.Faults bytes) (keyword bytes t) := by
    unfold keyword
    cases children : t.children with
    | nil => exact .ok _
    | cons first rest => exact fails_of_child (text_fails first) (children ▸ List.mem_cons_self)
  rw [variableList_eq]
  refine word.bind fun kind => FailsOnly.bind (FailsOnly.mapM ?_) fun _ => .ok _
  intro child hc
  exact fails_of_child (declarator_fails child)
    (Tree.mem_children_of_namedChildren (List.mem_filter.mp hc).1)

private theorem importStatement_fails (t : Tree) :
    FailsOnly (t.Faults bytes) (importStatement bytes t) := by
  unfold importStatement
  split_ifs
  · exact .ok _
  · exact (identifier?_fails fun _ => Tree.mem_children_of_child?).bind fun _ => .ok _

private theorem expressionStatement_fails (t : Tree) :
    FailsOnly (t.Faults bytes) (expressionStatement bytes t) := by
  unfold expressionStatement
  split
  · rename_i only single
    split_ifs
    · have member : only ∈ t.namedChildren := single ▸ List.mem_singleton_self only
      exact fails_of_child (named_fails only _ _) (Tree.mem_children_of_namedChildren member)
    · exact .ok _
  · exact .ok _

private theorem exportSpecifier_fails (t : Tree) :
    FailsOnly (t.Faults bytes) (exportSpecifier bytes t) := by
  refine (identifier?_fails fun _ => Tree.mem_children_of_child?).bind fun _ => ?_
  exact (identifier?_fails fun _ => Tree.mem_children_of_child?_or).bind fun _ => .ok _

private theorem namespaceSpecifier_fails (t : Tree) :
    FailsOnly (t.Faults bytes) (namespaceSpecifier bytes t) := by
  refine (identifier?_fails ?_).bind fun _ => .ok _
  intro child first
  exact Tree.mem_children_of_namedChildren (List.mem_of_head? first)

private theorem specifiersOf_fails (t : Tree) :
    FailsOnly (t.Faults bytes) (specifiersOf bytes t) := by
  unfold specifiersOf
  cases star : wildcard? t with
  | some wildcard =>
    have member := Tree.mem_children_of_namedChildren (List.mem_of_find?_eq_some star)
    exact (fails_of_child (namespaceSpecifier_fails wildcard) member).map _
  | none =>
    cases list : clause? t with
    | none => exact .ok _
    | some clause =>
      have member := Tree.mem_children_of_namedChildren (List.mem_of_find?_eq_some list)
      refine fails_of_child (FailsOnly.mapM ?_) member
      intro child hc
      exact fails_of_child (exportSpecifier_fails child)
        (Tree.mem_children_of_namedChildren (List.mem_filter.mp hc).1)

private theorem childStatement_fails {o : Option Tree}
    (below : ∀ child ∈ t.children, FailsOnly (child.Faults bytes) (statement bytes child))
    (ho : ∀ child ∈ o, child ∈ t.children) :
    FailsOnly (t.Faults bytes) (childStatement bytes o) := by
  cases o with
  | none => exact .ok _
  | some child => exact fails_of_child (below child (ho child rfl)) (ho child rfl)

private theorem exportStatement_fails
    (below : ∀ child ∈ t.children, FailsOnly (child.Faults bytes) (statement bytes child)) :
    FailsOnly (t.Faults bytes) (exportStatement bytes t (statements bytes t.children)) := by
  rw [exportStatement_eq]
  split_ifs
  · exact (childStatement_fails below fun _ => Tree.mem_children_of_child?_or).bind fun _ => .ok _
  · exact .ok _
  · refine (identifier?_fails ?_).bind fun _ => .ok _
    intro child found
    exact Tree.mem_children_of_namedChildren (List.mem_of_find?_eq_some found)
  · exact (identifier?_fails fun _ => Tree.mem_children_of_child?).bind fun _ => .ok _
  · refine (childStatement_fails below fun _ => Tree.mem_children_of_child?).bind fun _ => ?_
    refine (specifiersOf_fails t).bind fun _ => ?_
    exact (identifier?_fails fun _ => Tree.mem_children_of_child?).bind fun _ => .ok _

private theorem ambient_fails
    (below : ∀ child ∈ t.children, FailsOnly (child.Faults bytes) (statement bytes child)) :
    FailsOnly (t.Faults bytes) (ambient bytes t (statements bytes t.children)) := by
  rw [ambient_eq]
  cases found : t.children.find? Tree.isStatement with
  | none => exact .ok _
  | some inner =>
    have member := List.mem_of_find?_eq_some found
    simp only
    split_ifs
    · exact .ok _
    · exact .ok _
    · exact (fails_of_child (below inner member) member).map _

/-- The document of a statement is missing only because the bytes of a node are no text. -/
theorem statement_fails (t : Tree) : FailsOnly (t.Faults bytes) (statement bytes t) := by
  induction t using Tree.induct with
  | node label children ih =>
    rw [statement_eq_assemble, assemble]
    cases Form.ofKind (Tree.node label children).kind with
    | function => exact named_fails _ _ _
    | signature => exact named_fails _ _ _
    | classDeclaration => exact named_fails _ _ _
    | interface => exact named_fails _ _ _
    | typeAlias => exact named_fails _ _ _
    | enumeration => exact named_fails _ _ _
    | variableList => exact variableList_fails _
    | moduleDeclaration => exact named_fails _ _ _
    | ambient => exact ambient_fails ih
    | expression => exact expressionStatement_fails _
    | importStatement => exact importStatement_fails _
    | importAlias => exact .ok _
    | exportStatement => exact exportStatement_fails ih
    | other => exact .ok _

theorem program_fails (root : Tree) : FailsOnly (root.Faults bytes) (program bytes root) := by
  refine FailsOnly.bind (FailsOnly.mapM ?_) fun _ => .ok _
  intro t ht
  exact fails_of_child (statement_fails t) (Tree.mem_children_of_statementNodes ht)

/-- A tree whose nodes can be read has documents for its statements. -/
theorem statements_ok {source : Text} {root : Tree} (h : root.Reads source bytes) :
    ∃ body, root.statementNodes.mapM (statement bytes) = .ok body := by
  apply exists_ok_mapM
  intro t ht
  apply (statement_fails t).exists_ok
  rintro fault ⟨s, hs, failed⟩
  rw [h s (Tree.mem_nodes_of_child (Tree.mem_children_of_statementNodes ht) hs)] at failed
  cases failed

end Faults

theorem field_declaredAt (bytes : Bytes) (label : Label) (v : Value) {key : Text}
    (h : key ∈ relevantKeys) : (declaredAt bytes label v).field key = v.field key := by
  cases v with
  | object fields =>
    simp only [relevantKeys, List.mem_cons, List.not_mem_nil, or_false] at h
    simp only [declaredAt, base, List.drop_succ_cons, List.drop_zero, Fields.update, List.foldl,
      Value.field_object, Fields.get?_set]
    rcases h with rfl | rfl | rfl | rfl | rfl <;> simp
  | _ => rfl

private theorem statement_wrapper {bytes : Bytes} {t : Tree} {v : Value} (w : t.isWrapper)
    (h : statement bytes t = .ok v) :
    match t.children.find? Tree.isStatement with
    | none => v.tag = .text "AmbientDeclaration"
    | some child => ∃ u, statement bytes child = .ok u ∧
        ∀ key ∈ relevantKeys, v.field key = u.field key := by
  simp only [Tree.isWrapper, Bool.and_eq_true, Bool.not_eq_true', Tree.isKind,
    decide_eq_true_eq] at w
  obtain ⟨⟨kind, noGlobal⟩, noModule⟩ := w
  have form : Form.ofKind t.kind = .ambient := by
    rw [kind]
    rfl
  rw [statement_eq_assemble, assemble, form] at h
  simp only [ambient_eq, noGlobal, noModule] at h
  cases hf : t.children.find? Tree.isStatement with
  | none =>
    rw [hf] at h
    cases h
    exact tag_document _ _ _ _
  | some child =>
    rw [hf] at h
    obtain ⟨u, hu, rfl⟩ := map_eq_ok_iff.mp h
    exact ⟨u, hu, fun key hk => field_declaredAt _ _ _ hk⟩

/-- The document of a statement looks like that of the node that it is about. -/
theorem statement_unwrap {bytes : Bytes} {t : Tree} {v : Value} (h : statement bytes t = .ok v) :
    match t.unwrap with
    | none => v.tag = .text "AmbientDeclaration"
    | some inner => ∃ u, statement bytes inner = .ok u ∧
        ∀ key ∈ relevantKeys, v.field key = u.field key := by
  induction t using Tree.induct generalizing v with
  | node label children ih =>
    rw [Tree.unwrap_eq]
    by_cases w : Tree.isWrapper (.node label children)
    · have wrapped := statement_wrapper w h
      rw [if_pos w]
      cases hf : (Tree.node label children).children.find? Tree.isStatement with
      | none =>
        rw [hf] at wrapped
        exact wrapped
      | some child =>
        rw [hf] at wrapped
        obtain ⟨u, hu, same⟩ := wrapped
        have below := ih child (List.mem_of_find?_eq_some hf) hu
        rw [Option.bind_some]
        cases hi : child.unwrap with
        | none =>
          rw [hi] at below
          exact (same "type" (by simp [relevantKeys])).trans below
        | some inner =>
          rw [hi] at below
          obtain ⟨x, hx, same'⟩ := below
          exact ⟨x, hx, fun key hk => (same key hk).trans (same' key hk)⟩
    · rw [if_neg w]
      exact ⟨v, h, fun _ _ => rfl⟩

end ExportList.Concrete
