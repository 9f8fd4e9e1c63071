import ExportList.Proofs.Concrete.Tags
import ExportList.Proofs.Source

/-!
The names that a concrete tree declares and exports, told from its nodes alone.  The names that are
collected from the program of a tree are these.
-/

set_option autoImplicit false

namespace ExportList.Concrete

/-- Why the names that a tree declares cannot be told. -/
inductive DeclarationFault where
  /-- A declarator binds something other than one identifier. -/
  | pattern (declarator : Tree)
  /-- A statement declares something without a name. -/
  | unnamed (statement : Tree)

def DeclarationFault.error (bytes : Bytes) : DeclarationFault → Except Utf8.Fault NameError
  | .pattern d => (declarator bytes d).map .unsupportedPattern
  | .unnamed t => (statement bytes t).map .missingIdentifier

namespace Tree

def boundName (source : Text) (d : Tree) : Except DeclarationFault Text :=
  match d.child? "name" with
  | some name =>
    if name.isKind "identifier" then .ok (name.characters source) else .error (.pattern d)
  | none => .error (.pattern d)

/-- The name of a declaration, if it is written and not quoted. -/
def plainName? (source : Text) (t : Tree) : Option Text :=
  match t.child? "name" with
  | some name => if name.isKind "string" then none else some (name.characters source)
  | none => none

def declared (source : Text) (t : Tree) : Except DeclarationFault (List Text) :=
  match t.unwrap with
  | none => .ok []
  | some inner =>
    if namedKinds.contains inner.kind then
      match inner.plainName? source with
      | some name => .ok [name]
      | none => .error (.unnamed t)
    else if variableKinds.contains inner.kind then (declarators inner).mapM (boundName source)
    else .ok []

/-- The names that a program declares, each once. -/
def declaredNames (source : Text) (root : Tree) : Except DeclarationFault (List Text) :=
  (root.statementNodes.mapM (declared source)).map fun names => names.flatten.eraseDups

/-- Whether a node is an export that can have a list of names: it has none of the words and signs of
the other exports, and no declaration. -/
def isListExport (t : Tree) : Bool :=
  t.isKind "export_statement" && !t.tokens.contains "default" && !t.tokens.contains "=" &&
    !t.tokens.contains "*" && (t.child? "declaration").isNone && (wildcard? t).isNone

def specifierNodes (clause : Tree) : List Tree :=
  clause.namedChildren.filter fun child => child.isKind "export_specifier"

def clauseNames (source : Text) (t : Tree) : List Text :=
  if t.isListExport then
    match clause? t with
    | some clause => (specifierNodes clause).filterMap (plainName? source)
    | none => []
  else []

def listed (source : Text) (t : Tree) : List Text :=
  match t.unwrap with
  | none => []
  | some inner => inner.clauseNames source

/-- The names that a program exports by lists, each once. -/
def listedNames (source : Text) (root : Tree) : List Text :=
  (root.statementNodes.flatMap (listed source)).eraseDups

/-- Only identifiers have the tag of identifiers. -/
def OnlyIdentifiers (t : Tree) : Prop :=
  ∀ s ∈ t.nodes, camel s.kind = "Identifier" → s.kind = "identifier"

theorem OnlyIdentifiers.node {t s : Tree} (h : t.OnlyIdentifiers) (hs : s ∈ t.nodes) :
    s.OnlyIdentifiers :=
  fun r hr => h r (mem_nodes_trans hr hs)

end Tree

section Contributions

variable {source : Text} {bytes : Bytes}

private theorem exportableIn_of_namedTag {v : Value} {tag : Text} (h : v.tag = .text tag)
    (ht : tag ∈ namedTags) :
    exportableIn v = match (v.field "id").field "name" with
      | .text name => .ok [name]
      | _ => .error (.missingIdentifier v) := by
  have facts : ∀ tag ∈ namedTags, isExportable tag ∧ tag ≠ "VariableDeclaration" := by
    simp [namedTags, isExportable, exportableTags]
  have exportable : isExportableStatement v := by
    rw [isExportableStatement, hasTagAmong, h]
    exact (facts tag ht).1
  have notVariables : isVariableDeclaration v = false := by
    simp [isVariableDeclaration, Value.hasTag, h, Value.isText, (facts tag ht).2]
  rw [exportableIn, if_pos exportable, boundNames, notVariables]
  rfl

private theorem exportableIn_of_variables {v : Value} (h : v.tag = .text "VariableDeclaration") :
    exportableIn v = (v.field "declarations").items.mapM declaratorName := by
  have exportable : isExportableStatement v := by
    rw [isExportableStatement, hasTagAmong, h]
    decide
  have isVariables : isVariableDeclaration v := by
    rw [isVariableDeclaration, Value.hasTag, h]
    decide
  rw [exportableIn, if_pos exportable, boundNames, if_pos isVariables]

private theorem name_of_identifier? {t : Tree} {id : Value} (reads : t.Reads source bytes)
    (h : identifier? bytes (t.child? "name") = .ok id) :
    match t.plainName? source with
    | some name => id.tag = .text "Identifier" ∧ id.field "name" = .text name
    | none => id.hasTag "Identifier" = false ∧ id.field "name" = .null := by
  unfold Tree.plainName?
  cases hc : t.child? "name" with
  | none =>
    rw [hc] at h
    cases h
    exact ⟨rfl, rfl⟩
  | some name =>
    rw [hc, identifier?,
      identifier_of_text (reads.child (Tree.mem_children_of_child? hc)).self] at h
    by_cases quoted : name.isKind "string"
    · rw [if_pos quoted] at h
      cases h
      simp only [quoted, if_true, Value.hasTag, tag_document]
      exact ⟨by decide, by rw [field_document _ _ _ _ (by simp)]; simp⟩
    · rw [if_neg quoted] at h
      cases h
      simp only [quoted, tag_document]
      exact ⟨trivial, by rw [field_document _ _ _ _ (by simp)]; simp⟩

private theorem agree_boundName {d : Tree} {v : Value} (reads : d.Reads source bytes)
    (h : declarator bytes d = .ok v) :
    Agree (fun fault e => d.OnlyIdentifiers → fault.error bytes = .ok e) (d.boundName source)
      (declaratorName v) := by
  have fault : (DeclarationFault.pattern d).error bytes = .ok (.unsupportedPattern v) := by
    rw [DeclarationFault.error, h]
    rfl
  obtain ⟨id, hid, h⟩ := bind_eq_ok_iff.mp h
  have target : v.field "id" = id := by
    cases h
    rw [field_document _ _ _ _ (by simp)]
    simp
  unfold Tree.boundName
  rw [declaratorName, target]
  cases hc : d.child? "name" with
  | none =>
    rw [hc] at hid
    cases hid
    exact fun _ => fault
  | some name =>
    have member := Tree.mem_children_of_child? hc
    rw [hc, bindingTarget] at hid
    by_cases isName : name.isKind "identifier"
    · have notQuoted : name.isKind "string" = false := by
        rw [Tree.isKind, decide_eq_true_eq] at isName
        rw [Tree.isKind, isName]
        decide
      rw [if_pos isName, identifier_of_text (reads.child member).self, notQuoted] at hid
      cases hid
      simp [isName, identifierName, Value.hasTag, Value.isText, Agree]
    · rw [if_neg isName] at hid
      cases hid
      simp only [isName, Value.hasTag, tag_document, Value.isText, Bool.false_eq_true, if_false]
      by_cases tag : camel name.kind = "Identifier"
      · -- such a node is taken for an identifier, and found to have no name
        have none : identifierName (document bytes name.label (camel name.kind) []) =
            .error .nameless := by
          rw [identifierName, field_document _ _ _ _ (by simp)]
          rfl
        rw [decide_eq_true tag, if_pos rfl, none]
        intro only
        have := only name (Tree.mem_nodes_of_child member name.mem_nodes_self) tag
        exact absurd (decide_eq_true this) isName
      · simp only [tag]
        exact fun _ => fault

/-- A statement adds the names that its tree declares to those that could be exported. -/
theorem agree_declared {t : Tree} {v : Value} (reads : t.Reads source bytes)
    (tags : ∀ s ∈ t.nodes, Form.ofKind s.kind = .other → isExportable (camel s.kind) = false)
    (h : statement bytes t = .ok v) :
    Agree (fun fault e => t.OnlyIdentifiers → fault.error bytes = .ok e) (t.declared source)
      (exportableIn v) := by
  have fault : (DeclarationFault.unnamed t).error bytes = .ok (.missingIdentifier v) := by
    rw [DeclarationFault.error, h]
    rfl
  have view := statement_unwrap h
  unfold Tree.declared
  cases hu : t.unwrap with
  | none =>
    rw [hu] at view
    rw [exportableIn_of_tag view (by simp [isExportable, exportableTags])]
    exact rfl
  | some inner =>
    rw [hu] at view
    obtain ⟨u, hs, same⟩ := view
    obtain ⟨member, plain⟩ := Tree.unwrap_eq_some hu
    have inside := reads.node member
    have sameTag : v.tag = u.tag := same "type" (by simp [relevantKeys])
    -- What the statement is about has a name of its own, declares variables, or does neither.
    by_cases isNamed : inner.kind ∈ namedKinds
    · obtain ⟨⟨tag, ht, hv⟩, hid⟩ := statement_named isNamed hs
      have name := name_of_identifier? inside hid
      rw [← same "id" (by simp [relevantKeys])] at name
      rw [exportableIn_of_namedTag (sameTag.trans hv) ht]
      simp only [List.contains_iff_mem, isNamed, if_true]
      cases hn : inner.plainName? source with
      | some text =>
        rw [hn] at name
        simp [name.2, Agree]
      | none =>
        rw [hn] at name
        simp only [name.2]
        exact fun _ => fault
    · by_cases isVariables : inner.kind ∈ variableKinds
      · obtain ⟨hv, hd⟩ := statement_variables isVariables hs
        rw [exportableIn_of_variables (sameTag.trans hv),
          same "declarations" (by simp [relevantKeys])]
        simp only [List.contains_iff_mem, isNamed, isVariables, if_false, if_true]
        refine Agree.mapM (forall₂_of_mapM_ok hd ?_)
        intro d member' value hd'
        have child := Tree.mem_children_of_namedChildren (List.mem_filter.mp member').1
        refine (agree_boundName (inside.child child) hd').mono ?_
        intro fault e he only
        exact he ((only.node member).node (Tree.mem_nodes_of_child child d.mem_nodes_self))
      · obtain ⟨tag, hv, origin⟩ := statement_other plain isNamed isVariables hs
        have neutral : ∀ tag ∈ neutralTags, isExportable tag = false := by
          simp [neutralTags, isExportable, exportableTags]
        have exports : ∀ tag ∈ exportTags, isExportable tag = false := by
          simp [exportTags, isExportable, exportableTags]
        simp only [List.contains_iff_mem, isNamed, isVariables, if_false]
        rw [exportableIn_of_tag (sameTag.trans hv)]
        · exact rfl
        · rcases origin with ht | ⟨_, ht⟩ | ⟨form, rfl⟩
          · exact neutral tag ht
          · exact exports tag ht
          · exact tags inner member form

private theorem specifierNames_eq {t : Tree} {v : Value} (reads : t.Reads source bytes)
    (h : exportSpecifier bytes t = .ok v) :
    specifierNames v = .ok (t.plainName? source).toList := by
  obtain ⟨inner, hi, h⟩ := bind_eq_ok_iff.mp h
  obtain ⟨outer, _, h⟩ := bind_eq_ok_iff.mp h
  have mentioned : v.field "local" = inner := by
    cases h
    rw [field_document _ _ _ _ (by simp)]
    simp
  have name := name_of_identifier? reads hi
  rw [specifierNames, mentioned]
  cases hn : t.plainName? source with
  | some text =>
    rw [hn] at name
    simp [Value.hasTag, name.1, Value.isText, identifierName, name.2, Except.map]
  | none =>
    rw [hn] at name
    simp [name.1]

private theorem specifierNames_of_exportSpecifiers {clause : Tree} {vs : List Value}
    (reads : clause.Reads source bytes) (h : exportSpecifiers bytes clause = .ok vs) :
    ∃ parts, vs.mapM specifierNames = .ok parts ∧
      parts.flatten = clause.specifierNodes.filterMap (Tree.plainName? source) := by
  refine ⟨clause.specifierNodes.map fun t => (t.plainName? source).toList, ?_, ?_⟩
  · rw [mapM_eq_ok_iff, List.forall₂_map_right_iff]
    refine (forall₂_of_mapM_ok h ?_).flip
    intro t member v hv
    have child := Tree.mem_children_of_namedChildren (List.mem_filter.mp member).1
    exact specifierNames_eq (reads.child child) hv
  · rw [List.filterMap_eq_flatMap_toList, List.flatMap]

private theorem specifierNames_of_specifiersOf {t : Tree} {vs : List Value}
    (reads : t.Reads source bytes) (h : specifiersOf bytes t = .ok vs) :
    ∃ parts, vs.mapM specifierNames = .ok parts ∧
      parts.flatten = match wildcard? t, clause? t with
        | none, some clause => clause.specifierNodes.filterMap (Tree.plainName? source)
        | _, _ => [] := by
  unfold specifiersOf at h
  cases hw : wildcard? t with
  | some wildcard =>
    rw [hw] at h
    obtain ⟨v, hv, rfl⟩ := map_eq_ok_iff.mp h
    obtain ⟨exposed, _, hv⟩ := bind_eq_ok_iff.mp hv
    cases hv
    refine ⟨[[]], ?_, rfl⟩
    have none : specifierNames (document bytes wildcard.label "ExportNamespaceSpecifier"
        [("exported", exposed)]) = .ok [] := by
      rw [specifierNames, field_document _ _ _ _ (by simp)]
      simp [Value.hasTag, Value.tag, Value.isText]
    rw [mapM_eq_ok_iff]
    exact .cons none .nil
  | none =>
    cases hc : clause? t with
    | some clause =>
      rw [hw, hc] at h
      have child := Tree.mem_children_of_namedChildren (List.mem_of_find?_eq_some hc)
      exact specifierNames_of_exportSpecifiers (reads.child child) h
    | none =>
      rw [hw, hc] at h
      cases h
      exact ⟨[], rfl, rfl⟩

/-- The names that an export by name adds: those of its specifiers, unless it has a declaration. -/
theorem exportedIn_document (label : Label) (value origin kind : Value) {specifiers : List Value}
    {parts : List (List Text)} (h : specifiers.mapM specifierNames = .ok parts) :
    exportedIn (document bytes label "ExportNamedDeclaration"
        [("declaration", value), ("specifiers", .list specifiers), ("source", origin),
          ("exportKind", kind)]) =
      .ok (if value.isNull then parts.flatten else []) := by
  rw [exportedIn, isExportList, Value.hasTag, tag_document, listedNames,
    field_document _ _ _ _ (by simp), field_document _ _ _ _ (by simp)]
  cases hn : value.isNull with
  | false => simp [Value.isText, hn]
  | true =>
    cases specifiers with
    | nil =>
      cases h
      simp [Value.isText, hn]
    | cons first rest => simp [Value.isText, hn, h, Except.map]

/-- An export statement adds the names of its list to those that are exported. -/
theorem exportedIn_exportStatement {t : Tree} {v : Value} (reads : t.Reads source bytes)
    (kind : t.kind = "export_statement") (h : statement bytes t = .ok v) :
    exportedIn v = .ok (t.clauseNames source) := by
  have form : Form.ofKind t.kind = .exportStatement := by
    rw [kind]
    rfl
  have isExport : t.isKind "export_statement" := decide_eq_true kind
  rw [statement_eq_assemble, assemble, form, exportStatement_eq] at h
  unfold Tree.clauseNames Tree.isListExport
  -- Only the last of the five forms can have a list of names.
  split_ifs at h with isDefault isAssignment isNamespace isWildcard
  · obtain ⟨value, _, h⟩ := bind_eq_ok_iff.mp h
    cases h
    rw [exportedIn_of_tag (tag_document _ _ _ _) (by simp), isDefault]
    simp
  · cases h
    rw [exportedIn_of_tag (tag_document _ _ _ _) (by simp), isAssignment]
    simp
  · obtain ⟨id, _, h⟩ := bind_eq_ok_iff.mp h
    cases h
    rw [exportedIn_of_tag (tag_document _ _ _ _) (by simp)]
    have noClause : clause? t = none := by
      simp only [Bool.and_eq_true, Option.isNone_iff_eq_none] at isNamespace
      exact isNamespace.1.2
    simp [noClause]
  · obtain ⟨origin, _, h⟩ := bind_eq_ok_iff.mp h
    cases h
    rw [exportedIn_of_tag (tag_document _ _ _ _) (by simp),
      (Bool.and_eq_true_iff.mp isWildcard).1]
    simp
  · obtain ⟨value, hvalue, h⟩ := bind_eq_ok_iff.mp h
    obtain ⟨specifiers, hs, h⟩ := bind_eq_ok_iff.mp h
    obtain ⟨origin, _, h⟩ := bind_eq_ok_iff.mp h
    obtain ⟨parts, hp, flat⟩ := specifierNames_of_specifiersOf reads hs
    cases h
    rw [exportedIn_document _ _ _ _ hp, flat]
    cases hd : t.child? "declaration" with
    | some child =>
      rw [hd] at hvalue
      simp [isNull_statement hvalue]
    | none =>
      rw [hd] at hvalue
      cases hvalue
      cases hw : wildcard? t with
      | some wildcard => simp
      | none =>
        simp only [hw, Option.isNone_none, Bool.and_true] at isWildcard
        rw [Bool.not_eq_true] at isDefault isAssignment isWildcard
        rw [isExport, isDefault, isAssignment, isWildcard]
        cases clause? t <;> simp [Value.isNull]

/-- A statement adds the names that its tree lists to those that are exported. -/
theorem exportedIn_eq_listed {t : Tree} {v : Value} (reads : t.Reads source bytes)
    (h : statement bytes t = .ok v) : exportedIn v = .ok (t.listed source) := by
  have view := statement_unwrap h
  unfold Tree.listed
  cases hu : t.unwrap with
  | none =>
    rw [hu] at view
    exact exportedIn_of_tag view (by simp)
  | some inner =>
    rw [hu] at view
    obtain ⟨u, hs, same⟩ := view
    obtain ⟨member, plain⟩ := Tree.unwrap_eq_some hu
    rw [((Alike.refl u).of_fields same fun _ _ => rfl).exportedIn]
    by_cases isExport : inner.kind = "export_statement"
    · exact exportedIn_exportStatement (reads.node member) isExport hs
    · have none : inner.clauseNames source = [] := by
        simp [Tree.clauseNames, Tree.isListExport, Tree.isKind, isExport]
      change exportedIn u = .ok (inner.clauseNames source)
      rw [none]
      by_cases isNamed : inner.kind ∈ namedKinds
      · obtain ⟨tag, ht, hv⟩ := (statement_named isNamed hs).1
        have other : ∀ tag ∈ namedTags, tag ≠ "ExportNamedDeclaration" := by
          simp [namedTags]
        exact exportedIn_of_tag hv (other tag ht)
      · by_cases isVariables : inner.kind ∈ variableKinds
        · exact exportedIn_of_tag (statement_variables isVariables hs).1 (by simp)
        · obtain ⟨tag, hv, ht | ⟨isExport', _⟩ | ⟨form, _⟩⟩ :=
            statement_other plain isNamed isVariables hs
          · have other : ∀ tag ∈ neutralTags, tag ≠ "ExportNamedDeclaration" := by
              simp [neutralTags]
            exact exportedIn_of_tag hv (other tag ht)
          · exact absurd isExport' isExport
          · -- whatever its tag, a statement of another kind has no specifiers
            rw [statement_eq_assemble, assemble, form] at hs
            cases hs
            rw [exportedIn, isExportList, field_document _ _ _ _ (by simp),
              field_document _ _ _ _ (by simp)]
            simp

end Contributions

/-- A document that was read has a UTF-8 form and a tree without faults, and its statements are the
documents of the nodes below the root. -/
theorem of_parseTree_ok {source sourceName : Text} {tree : Tree} {parsed : Parsed}
    (h : parseTree source sourceName tree = .ok parsed) :
    ∃ bytes, Utf8.encode? source = some bytes ∧ tree.firstFault? = none ∧
      tree.statementNodes.mapM (statement bytes) = .ok parsed.statements := by
  obtain ⟨bytes, root, encoded, faultless, hr, rfl⟩ := parseTree_eq_ok_iff.mp h
  obtain ⟨body, hb, hr⟩ := bind_eq_ok_iff.mp hr
  cases hr
  refine ⟨bytes, encoded, faultless, ?_⟩
  rw [Parsed.statements, Parsed.ofProgram, field_document _ _ _ _ (by simp)]
  simpa [Tree.statementNodes] using hb

theorem parseTree_ok (sourceName : Text) {source : Text} {bytes : Bytes} {tree : Tree}
    {body : List Value} (encoded : Utf8.encode? source = some bytes)
    (faultless : tree.firstFault? = none)
    (h : tree.statementNodes.mapM (statement bytes) = .ok body) :
    ∃ parsed, parseTree source sourceName tree = .ok parsed ∧ parsed.statements = body := by
  have root : program bytes tree =
      .ok (document bytes tree.label "Program" [("body", .list body)]) :=
    bind_eq_ok_iff.mpr ⟨body, h, rfl⟩
  refine ⟨Parsed.ofProgram .typescript sourceName bytes
    (document bytes tree.label "Program" [("body", .list body)]), ?_, ?_⟩
  · exact parseTree_eq_ok_iff.mpr ⟨bytes, _, encoded, faultless, root, rfl⟩
  · rw [Parsed.statements, Parsed.ofProgram, field_document _ _ _ _ (by simp)]
    simp

/-- The names that the program of a tree could export are those that the tree declares; where the
tree does not tell them, the error is about the first node at fault. -/
theorem exportableNames_of_tree (sourceName : Text) {source : Text} {bytes : Bytes} {tree : Tree}
    (encoded : Utf8.encode? source = some bytes) (faultless : tree.firstFault? = none)
    (boundaries : tree.OnBoundaries source)
    (tags : ∀ t ∈ tree.nodes, Form.ofKind t.kind = .other → isExportable (camel t.kind) = false) :
    ∃ parsed, parseTree source sourceName tree = .ok parsed ∧
      match tree.declaredNames source with
      | .ok names => exportableNames parsed.statements = .ok names
      | .error fault => ∃ e, exportableNames parsed.statements = .error e ∧
          (tree.OnlyIdentifiers → fault.error bytes = .ok e) := by
  have reads := boundaries.reads encoded
  obtain ⟨body, hs⟩ := statements_ok reads
  obtain ⟨parsed, hp, rfl⟩ := parseTree_ok sourceName encoded faultless hs
  refine ⟨parsed, hp, ?_⟩
  have agree : Agree (fun fault e => tree.OnlyIdentifiers → fault.error bytes = .ok e)
      (tree.declaredNames source) (exportableNames parsed.statements) := by
    rw [exportableNames_eq]
    refine Agree.map _ (Agree.mapM (forall₂_of_mapM_ok hs ?_))
    intro t member v hv
    have node := Tree.mem_nodes_of_child (Tree.mem_children_of_statementNodes member)
      t.mem_nodes_self
    refine (agree_declared (reads.node node)
      (fun s hs => tags s (Tree.mem_nodes_trans hs node)) hv).mono ?_
    intro fault e he only
    exact he (only.node node)
  cases hd : tree.declaredNames source with
  | ok names =>
    rw [hd] at agree
    exact agree.ok rfl
  | error fault =>
    rw [hd] at agree
    cases he : exportableNames parsed.statements with
    | ok names =>
      rw [he] at agree
      exact agree.elim
    | error e =>
      rw [he] at agree
      exact ⟨e, rfl, agree⟩

/-- The tree of `declare let é, b`. -/
def ambientVariables : Tree :=
  .onRow 0 0 "program" 0 17
    [.onRow 0 0 "ambient_declaration" 0 17
      [.asToken (.onRow 0 0 "declare" 0 7 []),
        .onRow 0 0 "lexical_declaration" 8 17
          [.inField "kind" (.asToken (.onRow 0 0 "let" 8 11 [])),
            .onRow 0 0 "variable_declarator" 12 14
              [.inField "name" (.onRow 0 0 "identifier" 12 14 [])],
            .asToken (.onRow 0 0 "," 14 15 []),
            .onRow 0 0 "variable_declarator" 16 17
              [.inField "name" (.onRow 0 0 "identifier" 16 17 [])]]]]

theorem exportableNames_of_ambientVariables :
    ∃ parsed, parseTree "declare let é, b" "a.ts" ambientVariables = .ok parsed ∧
      exportableNames parsed.statements = .ok ["é", "b"] := by
  have tags : ∀ t ∈ ambientVariables.nodes,
      Form.ofKind t.kind = .other → isExportable (camel t.kind) = false := by decide +kernel
  exact exportableNames_of_tree "a.ts" rfl (by decide) (by decide) tags

/-- The names that the export lists of a tree's program mention can always be told, and are those
that the tree lists. -/
theorem exportedNames_of_tree (sourceName : Text) {source : Text} {bytes : Bytes} {tree : Tree}
    (encoded : Utf8.encode? source = some bytes) (faultless : tree.firstFault? = none)
    (boundaries : tree.OnBoundaries source) :
    ∃ parsed, parseTree source sourceName tree = .ok parsed ∧
      exportedNames parsed.statements = .ok (tree.listedNames source) := by
  have reads := boundaries.reads encoded
  obtain ⟨body, hs⟩ := statements_ok reads
  obtain ⟨parsed, hp, rfl⟩ := parseTree_ok sourceName encoded faultless hs
  refine ⟨parsed, hp, ?_⟩
  have parts : parsed.statements.mapM exportedIn =
      .ok (tree.statementNodes.map (Tree.listed source)) := by
    rw [mapM_eq_ok_iff, List.forall₂_map_right_iff]
    refine (forall₂_of_mapM_ok hs ?_).flip
    intro t member v hv
    exact exportedIn_eq_listed (reads.child (Tree.mem_children_of_statementNodes member)) hv
  rw [exportedNames_eq, parts]
  rfl

/-- The tree of `export { é as b, é }`. -/
def repeatedExport : Tree :=
  .onRow 0 0 "program" 0 22
    [.onRow 0 0 "export_statement" 0 22
      [.asToken (.onRow 0 0 "export" 0 6 []),
        .onRow 0 0 "export_clause" 7 22
          [.asToken (.onRow 0 0 "\x7b" 7 8 []),
            .onRow 0 0 "export_specifier" 9 16
              [.inField "name" (.onRow 0 0 "identifier" 9 11 []),
                .asToken (.onRow 0 0 "as" 12 14 []),
                .inField "alias" (.onRow 0 0 "identifier" 15 16 [])],
            .asToken (.onRow 0 0 "," 16 17 []),
            .onRow 0 0 "export_specifier" 18 20
              [.inField "name" (.onRow 0 0 "identifier" 18 20 [])],
            .asToken (.onRow 0 0 "\x7d" 21 22 [])]]]

theorem exportedNames_of_repeatedExport :
    ∃ parsed, parseTree "export \x7b é as b, é \x7d" "a.ts" repeatedExport = .ok parsed ∧
      exportedNames parsed.statements = .ok ["é"] :=
  exportedNames_of_tree "a.ts" rfl (by decide) (by decide)

end ExportList.Concrete
