import ExportList.Proofs.Concrete.Texts
import ExportList.Proofs.Source

/-!
The ranges of documents.  Documents skip levels of the tree they come from, and that of an ambient
declaration moves to the place of the whole.  All the same, where the nodes of a tree lie within
their parents and behind each other, so do the documents of its program.
-/

set_option autoImplicit false

namespace ExportList

namespace Value

def Spans (v : Value) (start stop : Nat) : Prop :=
  v.field? "range" = some (.list [.nat start, .nat stop])

/-- Whether a value is the document of a node: an object with a tag. -/
def isNode (v : Value) : Bool := (v.field? "type").isSome

mutual

/-- The nearest documents of nodes: the value itself or, if it is none, those in its elements or
fields. -/
def topNodes : Value → List Value
  | .list items => topNodesOfItems items
  | .object fields => if isNode (.object fields) then [.object fields] else topNodesOfFields fields
  | _ => []

def topNodesOfItems : List Value → List Value
  | [] => []
  | v :: rest => v.topNodes ++ topNodesOfItems rest

def topNodesOfFields : List (Text × Value) → List Value
  | [] => []
  | (_, v) :: rest => v.topNodes ++ topNodesOfFields rest

end

/-- The documents whose parent a document is: those in its fields with no other one between. -/
def childNodes : Value → List Value
  | .object fields => topNodesOfFields fields
  | _ => []

def Encloses (v w : Value) : Prop :=
  ∃ start stop start' stop', v.Spans start stop ∧ w.Spans start' stop' ∧
    start ≤ start' ∧ start' ≤ stop' ∧ stop' ≤ stop

def Precedes (v w : Value) : Prop :=
  ∃ start stop start' stop', v.Spans start stop ∧ w.Spans start' stop' ∧ stop ≤ start'

def listKeys : List String := ["body", "declarations", "specifiers"]

/-- A document encloses those whose parent it is, and those in its lists come one behind the
other. -/
structure IsOrderly (v : Value) : Prop where
  own : ∃ start stop, v.Spans start stop ∧ start ≤ stop
  encloses : ∀ w ∈ v.childNodes, v.Encloses w
  ordered : ∀ key ∈ listKeys, (v.field key).items.Pairwise Precedes

private theorem mem_topNodesOfItems {items : List Value} {w : Value} :
    w ∈ topNodesOfItems items ↔ ∃ v ∈ items, w ∈ v.topNodes := by
  induction items with
  | nil => simp [topNodesOfItems]
  | cons v rest ih => rw [topNodesOfItems, List.mem_append, ih, List.exists_mem_cons_iff]

private theorem mem_topNodesOfFields {fields : Fields} {w : Value} :
    w ∈ topNodesOfFields fields ↔ ∃ field ∈ fields, w ∈ field.2.topNodes := by
  induction fields with
  | nil => simp [topNodesOfFields]
  | cons field rest ih => rw [topNodesOfFields, List.mem_append, ih, List.exists_mem_cons_iff]

end Value

namespace Concrete

namespace Tree

def start (t : Tree) : Nat := t.label.start.offset

def stop (t : Tree) : Nat := t.label.stop.offset

theorem filter_namedChildren_sublist (t : Tree) (p : Tree → Bool) :
    (t.namedChildren.filter p).Sublist t.children :=
  List.filter_sublist.trans List.filter_sublist

/-- Every node of a tree ends behind its start and encloses its children, and these come one behind
the other. -/
def LaidOut (t : Tree) : Prop :=
  ∀ s ∈ t.nodes, s.start ≤ s.stop ∧
    (∀ child ∈ s.children, s.start ≤ child.start ∧ child.stop ≤ s.stop) ∧
    s.children.Pairwise fun a b => a.stop ≤ b.start

instance (t : Tree) : Decidable t.LaidOut := inferInstanceAs (Decidable (∀ s ∈ t.nodes, _ ∧ _ ∧ _))

namespace LaidOut

variable {t inner : Tree}

theorem child (h : t.LaidOut) (member : inner ∈ t.children) : inner.LaidOut :=
  fun s inside => h s (mem_nodes_of_child member inside)

theorem start_le_stop (h : t.LaidOut) : t.start ≤ t.stop := (h t t.mem_nodes_self).1

theorem within (h : t.LaidOut) (member : inner ∈ t.children) :
    t.start ≤ inner.start ∧ inner.stop ≤ t.stop :=
  (h t t.mem_nodes_self).2.1 inner member

theorem ordered (h : t.LaidOut) : t.children.Pairwise fun a b => a.stop ≤ b.start :=
  (h t t.mem_nodes_self).2.2

end LaidOut

end Tree

/-- The values whose documents lie between two offsets, each within its parent and lists in
order. -/
inductive Nested (bytes : Bytes) : Nat → Nat → Value → Prop
  | null {start stop : Nat} : Nested bytes start stop .null
  | flag {start stop : Nat} (b : Bool) : Nested bytes start stop (.bool b)
  | text {start stop : Nat} (t : Text) : Nested bytes start stop (.text t)
  | list {start stop : Nat} {items : List Value} (each : ∀ v ∈ items, Nested bytes start stop v)
    (ordered : items.Pairwise Value.Precedes) : Nested bytes start stop (.list items)
  | node {start stop : Nat} {t : Tree} {tag : Text} {fields : Fields} (lower : start ≤ t.start)
    (own : t.start ≤ t.stop) (upper : t.stop ≤ stop)
    (each : ∀ field ∈ fields, Nested bytes t.start t.stop field.2) :
    Nested bytes start stop (document bytes t.label tag fields)

section Nested

variable {bytes : Bytes} {start stop : Nat} {v : Value}

theorem spans_document (bytes : Bytes) (t : Tree) (tag : Text) (fields : Fields) :
    (document bytes t.label tag fields).Spans t.start t.stop :=
  isAt_document tag fields

theorem Nested.mono {start' stop' : Nat} (h : Nested bytes start stop v) (lower : start' ≤ start)
    (upper : stop ≤ stop') : Nested bytes start' stop' v := by
  induction h with
  | null => exact .null
  | flag b => exact .flag b
  | text t => exact .text t
  | list each ordered ih => exact .list (fun v member => ih v member lower upper) ordered
  | node lower' own upper' each =>
    exact .node (Nat.le_trans lower lower') own (Nat.le_trans upper' upper) each

theorem Nested.pairwise_items (h : Nested bytes start stop v) :
    v.items.Pairwise Value.Precedes := by
  cases h with
  | list each ordered => exact ordered
  | _ => exact .nil

theorem isNode_document (bytes : Bytes) (label : Label) (tag : Text) (fields : Fields) :
    (document bytes label tag fields).isNode = true := by
  simp [Value.isNode, document, base, Value.field?]

private theorem topNodes_document (label : Label) (tag : Text) (fields : Fields) :
    (document bytes label tag fields).topNodes = [document bytes label tag fields] := by
  have isNode := isNode_document bytes label tag fields
  rw [document] at isNode ⊢
  rw [Value.topNodes, if_pos isNode]

private theorem mem_childNodes_document {label : Label} {tag : Text} {fields : Fields} {w : Value} :
    w ∈ (document bytes label tag fields).childNodes ↔ ∃ field ∈ fields, w ∈ field.2.topNodes := by
  have place : ∀ field ∈ base bytes label tag, field.2.topNodes = [] := by
    simp [base, position, Value.topNodes, Value.topNodesOfItems, Value.topNodesOfFields,
      Value.isNode, Value.field?, Value.nat]
  rw [document, Value.childNodes, Value.mem_topNodesOfFields]
  constructor
  · rintro ⟨field, member, inside⟩
    rcases List.mem_append.mp member with member | member
    · rw [place field member] at inside
      cases inside
    · exact ⟨field, member, inside⟩
  · rintro ⟨field, member, inside⟩
    exact ⟨field, List.mem_append_right _ member, inside⟩

/-- The nearest documents lie between the offsets. -/
theorem Nested.of_mem_topNodes {w : Value} (h : Nested bytes start stop v)
    (member : w ∈ v.topNodes) :
    ∃ start' stop', w.Spans start' stop' ∧ start ≤ start' ∧ start' ≤ stop' ∧ stop' ≤ stop := by
  induction h with
  | null => cases member
  | flag b => cases member
  | text t => cases member
  | list each ordered ih =>
    rw [Value.topNodes] at member
    obtain ⟨v, among, member⟩ := Value.mem_topNodesOfItems.mp member
    exact ih v among member
  | @node start stop t tag fields lower own upper each ih =>
    rw [topNodes_document] at member
    rw [List.mem_singleton.mp member]
    exact ⟨t.start, t.stop, spans_document bytes t tag fields, lower, own, upper⟩

/-- All documents in a nested value are orderly. -/
theorem Nested.everywhere_isOrderly (h : Nested bytes start stop v) :
    v.Everywhere fun w => w.isNode = true → w.IsOrderly := by
  have plain : ∀ w : Value, w.field? "type" = none → w.isNode = true → w.IsOrderly := by
    intro w untagged isNode
    rw [Value.isNode, untagged] at isNode
    cases isNode
  induction h with
  | null => exact Value.everywhere_null.mpr (plain _ rfl)
  | flag b => exact Value.everywhere_bool.mpr (plain _ rfl)
  | text t => exact Value.everywhere_text.mpr (plain _ rfl)
  | list each ordered ih => exact Value.everywhere_list.mpr ⟨plain _ rfl, ih⟩
  | @node start stop t tag fields lower own upper each ih =>
    have range := spans_document bytes t tag fields
    refine Value.everywhere_object.mpr ⟨fun _ => ⟨⟨t.start, t.stop, range, own⟩, ?_, ?_⟩,
      List.forall_mem_append.mpr ⟨everywhere_base plain, ih⟩⟩
    · intro w member
      obtain ⟨field, among, member⟩ := mem_childNodes_document.mp member
      obtain ⟨start', stop', inner, bounds⟩ := (each field among).of_mem_topNodes member
      exact ⟨t.start, t.stop, start', stop', range, inner, bounds⟩
    · intro key isKey
      -- No list stands under a key of tag and place.
      have apart : ∀ key ∈ Value.listKeys, key ∉ placeKeys := by decide
      change ((document bytes t.label tag fields).field key).items.Pairwise _
      rw [field_document _ _ _ _ (apart key isKey)]
      cases found : Fields.get? fields key with
      | none => exact .nil
      | some w =>
        obtain ⟨field, first, rfl⟩ := Option.map_eq_some_iff.mp found
        exact (each field (List.mem_of_find?_eq_some first)).pairwise_items

end Nested

/-- The documents that nodes have as statements, at the place of the node or of one within it. -/
def NestedFor (bytes : Bytes) (t : Tree) (v : Value) : Prop :=
  ∃ (s : Tree) (tag : Text) (fields : Fields), t.start ≤ s.start ∧ s.start ≤ s.stop ∧
    s.stop ≤ t.stop ∧ (∀ field ∈ fields, Nested bytes s.start s.stop field.2) ∧
    document bytes s.label tag fields = v

section Statements

variable {bytes : Bytes} {t : Tree} {v : Value}

theorem NestedFor.nested (h : NestedFor bytes t v) : Nested bytes t.start t.stop v := by
  obtain ⟨s, tag, fields, lower, own, upper, each, rfl⟩ := h
  exact .node lower own upper each

theorem NestedFor.precedes {t' : Tree} {w : Value} (h : NestedFor bytes t v)
    (h' : NestedFor bytes t' w) (before : t.stop ≤ t'.start) : v.Precedes w := by
  obtain ⟨s, tag, fields, _, _, upper, _, rfl⟩ := h
  obtain ⟨s', tag', fields', lower, _, _, _, rfl⟩ := h'
  refine ⟨_, _, _, _, spans_document _ s tag fields, spans_document _ s' tag' fields', ?_⟩
  omega

/-- A document at the place of its node. -/
private theorem nestedFor_document (laidOut : t.LaidOut) (tag : Text) {fields : Fields}
    (each : ∀ field ∈ fields, Nested bytes t.start t.stop field.2) :
    NestedFor bytes t (document bytes t.label tag fields) :=
  ⟨t, tag, fields, Nat.le_refl _, laidOut.start_le_stop, Nat.le_refl _, each, rfl⟩

private theorem nestedFor_bare (laidOut : t.LaidOut) (tag : Text) :
    NestedFor bytes t (document bytes t.label tag []) :=
  nestedFor_document laidOut tag (List.forall_mem_nil _)

/-- What lies within a child lies within its parent. -/
theorem Tree.LaidOut.nested_child {child : Tree} (laidOut : t.LaidOut) (member : child ∈ t.children)
    (h : Nested bytes child.start child.stop v) : Nested bytes t.start t.stop v := by
  obtain ⟨lower, upper⟩ := laidOut.within member
  exact h.mono lower upper

/-- Documents of children, in the order of these. -/
private theorem nested_list {children : List Tree} {f : Tree → Except Utf8.Fault Value}
    {values : List Value} (laidOut : t.LaidOut) (among : children.Sublist t.children)
    (built : children.mapM f = .ok values)
    (each : ∀ child ∈ children, ∀ v, f child = .ok v → NestedFor bytes child v) :
    Nested bytes t.start t.stop (.list values) := by
  refine .list ?_ ?_
  · intro v member
    obtain ⟨child, inside, built⟩ := (mem_of_mapM_ok built).mp member
    exact laidOut.nested_child (among.subset inside) (each child inside v built).nested
  · refine pairwise_of_mapM_ok built (laidOut.ordered.sublist among) ?_
    intro a ha b hb v w built built' before
    exact (each a ha v built).precedes (each b hb w built') before

private theorem nested_identifier (laidOut : t.LaidOut) (h : identifier bytes t = .ok v) :
    Nested bytes t.start t.stop v := by
  obtain ⟨name, _, h⟩ := bind_eq_ok_iff.mp h
  split_ifs at h
  · cases h
    exact (nestedFor_document laidOut _ (List.forall_mem_singleton.mpr (.text _))).nested
  · cases h
    exact (nestedFor_document laidOut _ (List.forall_mem_singleton.mpr (.text _))).nested

private theorem nested_identifier? {o : Option Tree} (laidOut : t.LaidOut)
    (among : ∀ child ∈ o, child ∈ t.children) (h : identifier? bytes o = .ok v) :
    Nested bytes t.start t.stop v := by
  cases o with
  | none =>
    cases h
    exact .null
  | some child =>
    have member := among child rfl
    exact laidOut.nested_child member (nested_identifier (laidOut.child member) h)

private theorem nested_field {role : Text} (laidOut : t.LaidOut)
    (h : identifier? bytes (t.child? role) = .ok v) :
    Nested bytes t.start t.stop v :=
  nested_identifier? laidOut (fun _ => Tree.mem_children_of_child?) h

private theorem nestedFor_named {tag : Text} {extra : Fields} (laidOut : t.LaidOut)
    (each : ∀ field ∈ extra, Nested bytes t.start t.stop field.2)
    (h : named bytes t tag extra = .ok v) :
    NestedFor bytes t v := by
  obtain ⟨id, read, h⟩ := bind_eq_ok_iff.mp h
  cases h
  exact nestedFor_document laidOut tag (List.forall_mem_cons.mpr ⟨nested_field laidOut read, each⟩)

private theorem nestedFor_declarator (laidOut : t.LaidOut) (h : declarator bytes t = .ok v) :
    NestedFor bytes t v := by
  obtain ⟨id, bound, h⟩ := bind_eq_ok_iff.mp h
  cases h
  refine nestedFor_document laidOut _ (List.forall_mem_singleton.mpr ?_)
  cases name : t.child? "name" with
  | none =>
    rw [name] at bound
    cases bound
    exact .null
  | some child =>
    have member := Tree.mem_children_of_child? name
    apply laidOut.nested_child member
    rw [name, bindingTarget] at bound
    split_ifs at bound
    · exact nested_identifier (laidOut.child member) bound
    · cases bound
      exact (nestedFor_bare (laidOut.child member) _).nested

private theorem nestedFor_variableList (laidOut : t.LaidOut) (h : variableList bytes t = .ok v) :
    NestedFor bytes t v := by
  rw [variableList_eq] at h
  obtain ⟨word, _, h⟩ := bind_eq_ok_iff.mp h
  obtain ⟨values, declared, h⟩ := bind_eq_ok_iff.mp h
  cases h
  have among : (declarators t).Sublist t.children := t.filter_namedChildren_sublist _
  have list := nested_list laidOut among declared fun child member v built =>
    nestedFor_declarator (laidOut.child (among.subset member)) built
  exact nestedFor_document laidOut _
    (List.forall_mem_cons.mpr ⟨.text _, List.forall_mem_singleton.mpr list⟩)

private theorem nestedFor_importStatement (laidOut : t.LaidOut)
    (h : importStatement bytes t = .ok v) :
    NestedFor bytes t v := by
  rw [importStatement] at h
  split_ifs at h
  · cases h
    exact nestedFor_bare laidOut _
  · obtain ⟨origin, read, h⟩ := bind_eq_ok_iff.mp h
    cases h
    exact nestedFor_document laidOut _
      (List.forall_mem_cons.mpr ⟨.text _,
        List.forall_mem_singleton.mpr (nested_field laidOut read)⟩)

/-- A namespace that was read as an expression has its document at its own place. -/
private theorem nestedFor_expressionStatement (laidOut : t.LaidOut)
    (h : expressionStatement bytes t = .ok v) :
    NestedFor bytes t v := by
  rw [expressionStatement] at h
  split at h
  · rename_i only single
    have member : only ∈ t.children :=
      Tree.mem_children_of_namedChildren (single ▸ List.mem_singleton_self only)
    split_ifs at h
    · obtain ⟨s, tag, fields, lower, own, upper, each, same⟩ :=
        nestedFor_named (laidOut.child member) (List.forall_mem_nil _) h
      obtain ⟨lower', upper'⟩ := laidOut.within member
      exact ⟨s, tag, fields, Nat.le_trans lower' lower, own, Nat.le_trans upper upper', each, same⟩
    · cases h
      exact nestedFor_bare laidOut _
  · cases h
    exact nestedFor_bare laidOut _

private theorem nestedFor_exportSpecifier (laidOut : t.LaidOut)
    (h : exportSpecifier bytes t = .ok v) :
    NestedFor bytes t v := by
  obtain ⟨inner, readInner, h⟩ := bind_eq_ok_iff.mp h
  obtain ⟨outer, readOuter, h⟩ := bind_eq_ok_iff.mp h
  cases h
  have exposed := nested_identifier? laidOut (fun _ => Tree.mem_children_of_child?_or) readOuter
  exact nestedFor_document laidOut _ (List.forall_mem_cons.mpr ⟨nested_field laidOut readInner,
    List.forall_mem_cons.mpr ⟨exposed, List.forall_mem_singleton.mpr (.text _)⟩⟩)

private theorem nestedFor_namespaceSpecifier (laidOut : t.LaidOut)
    (h : namespaceSpecifier bytes t = .ok v) :
    NestedFor bytes t v := by
  obtain ⟨exposed, read, h⟩ := bind_eq_ok_iff.mp h
  cases h
  refine nestedFor_document laidOut _
    (List.forall_mem_singleton.mpr (nested_identifier? laidOut ?_ read))
  intro child first
  exact Tree.mem_children_of_namedChildren (List.mem_of_head? first)

private theorem nested_specifiersOf {values : List Value} (laidOut : t.LaidOut)
    (h : specifiersOf bytes t = .ok values) : Nested bytes t.start t.stop (.list values) := by
  rw [specifiersOf] at h
  cases wildcard : wildcard? t with
  | some star =>
    have member := Tree.mem_children_of_namedChildren (List.mem_of_find?_eq_some wildcard)
    rw [wildcard] at h
    obtain ⟨v, read, rfl⟩ := map_eq_ok_iff.mp h
    have specifier := nestedFor_namespaceSpecifier (laidOut.child member) read
    exact .list (List.forall_mem_singleton.mpr (laidOut.nested_child member specifier.nested))
      (List.pairwise_singleton _ _)
  | none =>
    cases clause : clause? t with
    | some list =>
      have member := Tree.mem_children_of_namedChildren (List.mem_of_find?_eq_some clause)
      rw [wildcard, clause] at h
      have below := laidOut.child member
      have among := list.filter_namedChildren_sublist fun child => child.isKind "export_specifier"
      apply laidOut.nested_child member
      exact nested_list below among h fun child inside v built =>
        nestedFor_exportSpecifier (below.child (among.subset inside)) built
    | none =>
      rw [wildcard, clause] at h
      cases h
      exact .list (List.forall_mem_nil _) .nil

/-- Statements among the children of a node. -/
private theorem nested_childStatement {o : Option Tree} (laidOut : t.LaidOut)
    (below : ∀ child ∈ t.children, ∀ v, statement bytes child = .ok v → NestedFor bytes child v)
    (among : ∀ child ∈ o, child ∈ t.children) (h : childStatement bytes o = .ok v) :
    Nested bytes t.start t.stop v := by
  cases o with
  | none =>
    cases h
    exact .null
  | some child =>
    have member := among child rfl
    exact laidOut.nested_child member (below child member v h).nested

private theorem nestedFor_exportStatement (laidOut : t.LaidOut)
    (below : ∀ child ∈ t.children, ∀ v, statement bytes child = .ok v → NestedFor bytes child v)
    (h : exportStatement bytes t (statements bytes t.children) = .ok v) : NestedFor bytes t v := by
  rw [exportStatement_eq] at h
  split_ifs at h
  · obtain ⟨value, built, h⟩ := bind_eq_ok_iff.mp h
    cases h
    have inner := nested_childStatement laidOut below
      (fun _ => Tree.mem_children_of_child?_or) built
    exact nestedFor_document laidOut _ (List.forall_mem_singleton.mpr inner)
  · cases h
    exact nestedFor_bare laidOut _
  · obtain ⟨id, read, h⟩ := bind_eq_ok_iff.mp h
    cases h
    have name := nested_identifier? laidOut (fun child found =>
      Tree.mem_children_of_namedChildren (List.mem_of_find?_eq_some found)) read
    exact nestedFor_document laidOut _ (List.forall_mem_singleton.mpr name)
  · obtain ⟨origin, read, h⟩ := bind_eq_ok_iff.mp h
    cases h
    exact nestedFor_document laidOut _ (List.forall_mem_singleton.mpr (nested_field laidOut read))
  · obtain ⟨value, built, h⟩ := bind_eq_ok_iff.mp h
    obtain ⟨specifiers, listed, h⟩ := bind_eq_ok_iff.mp h
    obtain ⟨origin, read, h⟩ := bind_eq_ok_iff.mp h
    cases h
    have inner := nested_childStatement laidOut below (fun _ => Tree.mem_children_of_child?) built
    refine nestedFor_document laidOut _ (List.forall_mem_cons.mpr ⟨inner, List.forall_mem_cons.mpr
      ⟨nested_specifiersOf laidOut listed,
        List.forall_mem_cons.mpr ⟨nested_field laidOut read, ?_⟩⟩⟩)
    exact List.forall_mem_singleton.mpr (.text _)

private theorem nestedFor_ambient (laidOut : t.LaidOut)
    (below : ∀ child ∈ t.children, ∀ v, statement bytes child = .ok v → NestedFor bytes child v)
    (h : ambient bytes t (statements bytes t.children) = .ok v) : NestedFor bytes t v := by
  rw [ambient_eq] at h
  cases found : t.children.find? Tree.isStatement with
  | none =>
    rw [found] at h
    cases h
    exact nestedFor_bare laidOut _
  | some inner =>
    have member := List.mem_of_find?_eq_some found
    rw [found] at h
    simp only at h
    split_ifs at h
    · cases h
      have name : NestedFor bytes t (document bytes t.label "Identifier"
          [("name", .string "global")]) :=
        nestedFor_document laidOut _ (List.forall_mem_singleton.mpr (.text _))
      exact nestedFor_document laidOut _ (List.forall_mem_cons.mpr ⟨name.nested,
        List.forall_mem_cons.mpr ⟨.flag true, List.forall_mem_singleton.mpr (.flag true)⟩⟩)
    · cases h
      exact nestedFor_document laidOut _ (List.forall_mem_singleton.mpr (.flag true))
    · -- the document moves to a wider place, so what lies in it stays within
      obtain ⟨u, built, rfl⟩ := map_eq_ok_iff.mp h
      obtain ⟨s, tag, fields, lower, _, upper, each, rfl⟩ := below inner member u built
      obtain ⟨lower', upper'⟩ := laidOut.within member
      rw [declaredAt_document]
      refine nestedFor_document laidOut tag fun field inside => ?_
      rcases Fields.mem_set inside with rfl | inside
      · exact .flag true
      · exact (each field inside).mono (Nat.le_trans lower' lower) (Nat.le_trans upper upper')

/-- The document of a statement lies within its node, and all in it is nested. -/
theorem nestedFor_statement (laidOut : t.LaidOut) (h : statement bytes t = .ok v) :
    NestedFor bytes t v := by
  induction t using Tree.induct generalizing v with
  | node label children ih =>
    have below : ∀ child ∈ children, ∀ v, statement bytes child = .ok v → NestedFor bytes child v :=
      fun child member v => ih child member (laidOut.child member)
    have noFields : ∀ field ∈ ([] : Fields),
        Nested bytes label.start.offset label.stop.offset field.2 :=
      List.forall_mem_nil _
    rw [statement_eq_assemble, assemble] at h
    generalize Form.ofKind (Tree.node label children).kind = form at h
    cases form with
    | function =>
      exact nestedFor_named laidOut
        (List.forall_mem_cons.mpr ⟨.flag _, List.forall_mem_singleton.mpr (.flag _)⟩) h
    | signature => exact nestedFor_named laidOut noFields h
    | classDeclaration => exact nestedFor_named laidOut (List.forall_mem_singleton.mpr (.flag _)) h
    | interface => exact nestedFor_named laidOut noFields h
    | typeAlias => exact nestedFor_named laidOut noFields h
    | enumeration => exact nestedFor_named laidOut (List.forall_mem_singleton.mpr (.flag _)) h
    | variableList => exact nestedFor_variableList laidOut h
    | moduleDeclaration => exact nestedFor_named laidOut noFields h
    | ambient => exact nestedFor_ambient laidOut below h
    | expression => exact nestedFor_expressionStatement laidOut h
    | importStatement => exact nestedFor_importStatement laidOut h
    | importAlias =>
      cases h
      exact nestedFor_bare laidOut _
    | exportStatement => exact nestedFor_exportStatement laidOut below h
    | other =>
      cases h
      exact nestedFor_bare laidOut _

theorem nestedFor_program {root : Tree} (laidOut : root.LaidOut) (h : program bytes root = .ok v) :
    NestedFor bytes root v := by
  obtain ⟨body, built, h⟩ := bind_eq_ok_iff.mp h
  cases h
  have among : root.statementNodes.Sublist root.children := root.filter_namedChildren_sublist _
  have list := nested_list laidOut among built fun child member v built =>
    nestedFor_statement (laidOut.child (among.subset member)) built
  exact nestedFor_document laidOut _ (List.forall_mem_singleton.mpr list)

end Statements

/-- Where the nodes of a tree end behind their starts, lie within their parents and come one behind
the other, so do the documents of its program: statements do not overlap, every document lies within
its parent, and declarators and specifiers do not overlap either. -/
theorem ranges_of_tree {source sourceName : Text} {tree : Tree} {parsed : Parsed}
    (read : parseTree source sourceName tree = .ok parsed) (laidOut : tree.LaidOut) :
    parsed.statements.Pairwise Value.Precedes ∧
      parsed.program.Everywhere fun v => v.isNode = true → v.IsOrderly := by
  obtain ⟨bytes, program, _, _, built, rfl⟩ := parseTree_eq_ok_iff.mp read
  have orderly := (nestedFor_program laidOut built).nested.everywhere_isOrderly
  refine ⟨?_, orderly⟩
  obtain ⟨s, tag, fields, _, _, _, _, rfl⟩ := nestedFor_program laidOut built
  exact (orderly.self (isNode_document _ _ _ _)).ordered "body" (by decide)

/-- The tree of `declare let a,b;namespace N{}export{a as c,b}from"m"`. -/
def exportedVariables : Tree :=
  .onRow 0 0 "program" 0 52
    [.onRow 0 0 "ambient_declaration" 0 16
      [.asToken (.onRow 0 0 "declare" 0 7 []),
        .onRow 0 0 "lexical_declaration" 8 16
          [.asToken (.onRow 0 0 "let" 8 11 []),
            .onRow 0 0 "variable_declarator" 12 13
              [.inField "name" (.onRow 0 0 "identifier" 12 13 [])],
            .asToken (.onRow 0 0 "," 13 14 []),
            .onRow 0 0 "variable_declarator" 14 15
              [.inField "name" (.onRow 0 0 "identifier" 14 15 [])],
            .asToken (.onRow 0 0 ";" 15 16 [])]],
      .onRow 0 0 "expression_statement" 16 29
        [.onRow 0 0 "internal_module" 16 29
          [.asToken (.onRow 0 0 "namespace" 16 25 []),
            .inField "name" (.onRow 0 0 "identifier" 26 27 []),
            .inField "body" (.onRow 0 0 "statement_block" 27 29 [])]],
      .onRow 0 0 "export_statement" 29 52
        [.asToken (.onRow 0 0 "export" 29 35 []),
          .onRow 0 0 "export_clause" 35 45
            [.onRow 0 0 "export_specifier" 36 42
              [.inField "name" (.onRow 0 0 "identifier" 36 37 []),
                .asToken (.onRow 0 0 "as" 38 40 []),
                .inField "alias" (.onRow 0 0 "identifier" 41 42 [])],
              .onRow 0 0 "export_specifier" 43 44
                [.inField "name" (.onRow 0 0 "identifier" 43 44 [])]],
          .asToken (.onRow 0 0 "from" 45 49 []), .inField "source" (.onRow 0 0 "string" 49 52 [])]]

theorem ranges_of_exportedVariables :
    ∃ parsed,
      parseTree "declare let a,b;namespace N\x7b\x7dexport\x7ba as c,b\x7dfrom\"m\"" "a.ts"
        exportedVariables = .ok parsed ∧
      exportedVariables.LaidOut ∧
      parsed.program.childNodes.map (fun s => s.childNodes.length) = [2, 1, 3] ∧
      parsed.statements.Pairwise Value.Precedes ∧
      parsed.program.Everywhere fun v => v.isNode = true → v.IsOrderly := by
  let bytes : Bytes := [100, 101, 99, 108, 97, 114, 101, 32, 108, 101, 116, 32, 97, 44, 98, 59, 110,
    97, 109, 101, 115, 112, 97, 99, 101, 32, 78, 123, 125, 101, 120, 112, 111, 114, 116, 123, 97,
    32, 97, 115, 32, 99, 44, 98, 125, 102, 114, 111, 109, 34, 109, 34]
  obtain ⟨v, built, shape⟩ : ∃ v, program bytes exportedVariables = .ok v ∧
      v.childNodes.map (fun s => s.childNodes.length) = [2, 1, 3] := ⟨_, rfl, rfl⟩
  have read : parseTree "declare let a,b;namespace N\x7b\x7dexport\x7ba as c,b\x7dfrom\"m\"" "a.ts"
      exportedVariables = .ok _ := parseTree_eq_ok_iff.mpr ⟨bytes, v, rfl, rfl, built, rfl⟩
  have laidOut : exportedVariables.LaidOut := by decide
  exact ⟨_, read, laidOut, shape, ranges_of_tree read laidOut⟩

end Concrete

end ExportList
