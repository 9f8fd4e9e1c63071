import ExportList.Proofs.Concrete.Tags
import ExportList.Proofs.Document.Parts

/-!
What the documents of statements are made of: flags, fixed words, texts of nodes, lists, and
documents of nodes.  Facts about all values in a program follow from this by induction.
-/

set_option autoImplicit false

namespace ExportList

namespace Fields

theorem get?_eq_none_of_notMem {fields : Fields} {key : Text} (h : key ∉ fields.map Prod.fst) :
    get? fields key = none := by
  rw [get?, Option.map_eq_none_iff, List.find?_eq_none]
  intro field member same
  exact h (List.mem_map.mpr ⟨field, member, of_decide_eq_true same⟩)

theorem mem_set {fields : Fields} {key : Text} {value : Value} {field : Text × Value}
    (h : field ∈ fields.set key value) : field = (key, value) ∨ field ∈ fields := by
  induction fields with
  | nil => exact .inl (List.mem_singleton.mp h)
  | cons first fields ih =>
    rw [set] at h
    split_ifs at h with same
    · rcases List.mem_cons.mp h with rfl | h
      · exact .inl rfl
      · exact .inr (List.mem_cons_of_mem _ h)
    · rcases List.mem_cons.mp h with rfl | h
      · exact .inr List.mem_cons_self
      · rcases ih h with rfl | h
        · exact .inl rfl
        · exact .inr (List.mem_cons_of_mem _ h)

end Fields

namespace Concrete

def placeKeys : List String := ["type", "loc", "range"]

/-- Fields that may stand behind tag and place: their keys are words, all of them distinct. -/
def HasKeys (fields : Fields) : Prop :=
  ∃ keys : List String, fields.map Prod.fst = keys.map Text.ofString ∧ (placeKeys ++ keys).Nodup

/-- The tag of some document: a word, or the tag of a node's grammar name. -/
def IsTag (root : Tree) (tag : Text) : Prop :=
  (∃ word : String, tag = word) ∨ ∃ t ∈ root.nodes, tag = camel t.kind

/-- The values that describe a tree. -/
inductive Described (bytes : Bytes) (root : Tree) : Value → Prop
  | null : Described bytes root .null
  | flag (b : Bool) : Described bytes root (.bool b)
  | word (s : String) : Described bytes root (.text s)
  | text {t : Tree} {name : Text} (member : t ∈ root.nodes) (read : t.text bytes = .ok name) :
    Described bytes root (.text name)
  | quoted {t : Tree} {name : Text} (member : t ∈ root.nodes) (read : t.text bytes = .ok name) :
    Described bytes root (.text (name.drop 1).dropLast)
  | list {items : List Value} (each : ∀ v ∈ items, Described bytes root v) :
    Described bytes root (.list items)
  | node {t : Tree} {tag : Text} {fields : Fields} (member : t ∈ root.nodes)
    (isTag : IsTag root tag)
    (keys : HasKeys fields) (each : ∀ field ∈ fields, Described bytes root field.2) :
    Described bytes root (document bytes t.label tag fields)

def IsDocument (bytes : Bytes) (root : Tree) (v : Value) : Prop :=
  ∃ t tag fields, t ∈ root.nodes ∧ IsTag root tag ∧ HasKeys fields ∧
    (∀ field ∈ fields, Described bytes root field.2) ∧ document bytes t.label tag fields = v

theorem IsDocument.described {bytes : Bytes} {root : Tree} {v : Value}
    (h : IsDocument bytes root v) :
    Described bytes root v := by
  obtain ⟨t, tag, fields, member, isTag, keys, each, rfl⟩ := h
  exact .node member isTag keys each

def textKeys : List String := ["name", "value", "kind"]

/-- Fields of the document of a node that is no name: they carry no text but the word with which a
declaration of variables begins. -/
structure OwnTexts (bytes : Bytes) (t : Tree) (fields : Fields) : Prop where
  name : Fields.get? fields "name" = none
  value : Fields.get? fields "value" = none
  kind : ∀ v, Fields.get? fields "kind" = some v → ∃ inner word, t.unwrap = some inner ∧
    inner.kind ∈ variableKinds ∧ keyword bytes inner = .ok word ∧ v = .text word

def Tree.isGlobal (t : Tree) : Bool := t.isKind "ambient_declaration" && t.tokens.contains "global"

/-- Whether a node is picked for its field in the parent or for being no comment. -/
def Tree.isPicked (t : Tree) : Bool := t.label.role.isSome || !t.isSkipped

theorem Tree.isPicked_of_child? {t child : Tree} {role : Text} (h : t.child? role = some child) :
    child.isPicked := by
  have field : child.label.role = some role := by simpa using List.find?_some h
  rw [isPicked, field]
  rfl

theorem Tree.isPicked_of_child?_or {t child : Tree} {first second : Text}
    (h : (t.child? first).or (t.child? second) = some child) : child.isPicked := by
  rcases Option.or_eq_some_iff.mp h with h | ⟨_, h⟩
  · exact isPicked_of_child? h
  · exact isPicked_of_child? h

theorem Tree.isPicked_of_isKind {t : Tree} {kind : Text} (h : t.isKind kind = true)
    (other : skippedKinds.contains kind = false) : t.isPicked := by
  rw [isPicked, isSkipped, of_decide_eq_true h, other, Bool.not_false, Bool.or_true]

theorem Tree.isPicked_of_isStatement {t : Tree} (h : t.isStatement) : t.isPicked := by
  rw [isPicked, (Bool.and_eq_true_iff.mp h).2, Bool.or_true]

/-- A node comes first in some `* as name`, where a name is looked for. -/
def Tree.LeadsWildcard (root t : Tree) : Prop :=
  ∃ star ∈ root.nodes, star.isKind "namespace_export" = true ∧ star.namedChildren.head? = some t

/-- How the values in the program of a tree come about. -/
inductive Composed (bytes : Bytes) (root : Tree) : Value → Prop
  | null : Composed bytes root .null
  | flag (b : Bool) : Composed bytes root (.bool b)
  | word (s : String) : Composed bytes root (.text s)
  | text {t : Tree} {name : Text} (member : t ∈ root.nodes) (read : t.text bytes = .ok name) :
    Composed bytes root (.text name)
  | list {items : List Value} (each : ∀ v ∈ items, Composed bytes root v) :
    Composed bytes root (.list items)
  | name {t : Tree} {v : Value} (member : t ∈ root.nodes)
    (chosen : t.isPicked ∨ root.LeadsWildcard t)
    (read : identifier bytes t = .ok v) : Composed bytes root v
  | globalName {t : Tree} (member : t ∈ root.nodes) (isGlobal : t.isGlobal = true) :
    Composed bytes root (document bytes t.label "Identifier" [("name", .string "global")])
  | node {t : Tree} {tag : Text} {fields : Fields} (member : t ∈ root.nodes)
    (chosen : t.isPicked ∨ tag = "Program") (isTag : IsTag root tag) (keys : HasKeys fields)
    (own : OwnTexts bytes t fields) (each : ∀ field ∈ fields, Composed bytes root field.2) :
    Composed bytes root (document bytes t.label tag fields)

/-- The documents that nodes have as statements, at the place of the node or of one in it. -/
def ComposedFor (bytes : Bytes) (root t : Tree) (v : Value) : Prop :=
  ∃ (s : Tree) (tag : Text) (fields : Fields),
    s ∈ root.nodes ∧ (s.isPicked ∨ tag = "Program") ∧ IsTag root tag ∧ HasKeys fields ∧
    OwnTexts bytes s fields ∧ OwnTexts bytes t fields ∧
    (∀ field ∈ fields, Composed bytes root field.2) ∧ document bytes s.label tag fields = v

theorem ComposedFor.composed {bytes : Bytes} {root t : Tree} {v : Value}
    (h : ComposedFor bytes root t v) : Composed bytes root v := by
  obtain ⟨s, tag, fields, member, chosen, isTag, keys, own, _, each, rfl⟩ := h
  exact .node member chosen isTag keys own each

/-- What holds of all values without a tag holds of those in tag and place. -/
theorem everywhere_base {P : Value → Prop} {bytes : Bytes} {label : Label} {tag : Text}
    (plain : ∀ v, v.field? "type" = none → P v) :
    ∀ field ∈ base bytes label tag, field.2.Everywhere P := by
  have number : ∀ n, P (.int n) := fun _ => plain _ rfl
  have text : ∀ t, P (.text t) := fun _ => plain _ rfl
  have list : ∀ items, P (.list items) := fun _ => plain _ rfl
  simp [base, position, Value.everywhere_object, Value.everywhere_list, Value.nat, plain,
    Value.field?, number, text, list]

section Parts

variable {bytes : Bytes} {root : Tree}

private theorem ownTexts_of_keys {t : Tree} {fields : Fields} {keys : List String}
    (same : fields.map Prod.fst = keys.map Text.ofString) (other : ∀ key ∈ textKeys, key ∉ keys) :
    OwnTexts bytes t fields := by
  have absent : ∀ key ∈ textKeys, Fields.get? fields (Text.ofString key) = none := by
    intro key member
    apply Fields.get?_eq_none_of_notMem
    rw [same]
    intro found
    obtain ⟨key', inside, equal⟩ := List.mem_map.mp found
    exact other key member (Text.ofString_inj.mp equal ▸ inside)
  refine ⟨absent "name" (by decide), absent "value" (by decide), ?_⟩
  intro v found
  rw [absent "kind" (by decide)] at found
  cases found

/-- A document under a fixed tag. -/
private theorem composedFor_of_word {s t : Tree} {fields : Fields} (member : s ∈ root.nodes)
    (tag : String) (chosen : s.isPicked ∨ Text.ofString tag = "Program") (keys : List String)
    (same : fields.map Prod.fst = keys.map Text.ofString)
    (distinct : (placeKeys ++ keys).Nodup) (other : ∀ key ∈ textKeys, key ∉ keys)
    (each : ∀ field ∈ fields, Composed bytes root field.2) :
    ComposedFor bytes root t (document bytes s.label tag fields) :=
  ⟨s, tag, fields, member, chosen, .inl ⟨tag, rfl⟩, ⟨keys, same, distinct⟩,
    ownTexts_of_keys same other, ownTexts_of_keys same other, each, rfl⟩

/-- A document with nothing but tag and place. -/
private theorem composedFor_bare {s t : Tree} {tag : Text} (member : s ∈ root.nodes)
    (picked : s.isPicked) (isTag : IsTag root tag) :
    ComposedFor bytes root t (document bytes s.label tag []) := by
  have same : ([] : Fields).map Prod.fst = ([] : List String).map Text.ofString := rfl
  have none : ∀ t, OwnTexts bytes t [] := fun t => ownTexts_of_keys same (by decide)
  exact ⟨s, tag, [], member, .inl picked, isTag, ⟨[], rfl, by decide⟩, none s, none t,
    List.forall_mem_nil _, rfl⟩

private theorem mem_nodes_child {t child : Tree} (member : t ∈ root.nodes)
    (h : child ∈ t.children) :
    child ∈ root.nodes :=
  Tree.mem_nodes_trans (Tree.mem_nodes_of_child h child.mem_nodes_self) member

private theorem composed_identifier? {t : Tree} {o : Option Tree} {v : Value}
    (member : t ∈ root.nodes) (among : ∀ child ∈ o, child ∈ t.children)
    (chosen : ∀ child ∈ o, child.isPicked ∨ root.LeadsWildcard child)
    (h : identifier? bytes o = .ok v) :
    Composed bytes root v := by
  cases o with
  | none =>
    cases h
    exact .null
  | some child => exact .name (mem_nodes_child member (among child rfl)) (chosen child rfl) h

private theorem composed_field {t : Tree} {role : Text} {v : Value} (member : t ∈ root.nodes)
    (h : identifier? bytes (t.child? role) = .ok v) : Composed bytes root v :=
  composed_identifier? member (fun _ => Tree.mem_children_of_child?)
    (fun _ found => .inl (Tree.isPicked_of_child? found)) h

private theorem composedFor_named {s t : Tree} {tag : String} {extra : Fields} {v : Value}
    (member : s ∈ root.nodes) (picked : s.isPicked) (keys : List String)
    (same : extra.map Prod.fst = keys.map Text.ofString)
    (distinct : (placeKeys ++ "id" :: keys).Nodup) (other : ∀ key ∈ textKeys, key ∉ "id" :: keys)
    (each : ∀ field ∈ extra, Composed bytes root field.2) (h : named bytes s tag extra = .ok v) :
    ComposedFor bytes root t v := by
  obtain ⟨id, read, h⟩ := bind_eq_ok_iff.mp h
  cases h
  have composed := composed_field member read
  refine composedFor_of_word member tag (.inl picked) ("id" :: keys) ?_ distinct other
    (List.forall_mem_cons.mpr ⟨composed, each⟩)
  rw [List.map_cons, List.map_cons, same]

private theorem composed_declarator {t : Tree} {v : Value} (member : t ∈ root.nodes)
    (picked : t.isPicked) (h : declarator bytes t = .ok v) : Composed bytes root v := by
  obtain ⟨id, bound, h⟩ := bind_eq_ok_iff.mp h
  cases h
  apply (composedFor_of_word (t := t) member _ (.inl picked) ["id"] rfl (by decide)
    (by decide) ?_).composed
  refine List.forall_mem_singleton.mpr ?_
  cases name : t.child? "name" with
  | none =>
    rw [name] at bound
    cases bound
    exact .null
  | some child =>
    have inside := mem_nodes_child member (Tree.mem_children_of_child? name)
    have field := Tree.isPicked_of_child? name
    rw [name, bindingTarget] at bound
    split_ifs at bound
    · exact .name inside (.inl field) bound
    · cases bound
      exact (composedFor_bare (t := child) inside field (.inr ⟨child, inside, rfl⟩)).composed

private theorem composedFor_variableList {t : Tree} {v : Value} (member : t ∈ root.nodes)
    (picked : t.isPicked) (kind : t.kind ∈ variableKinds) (h : variableList bytes t = .ok v) :
    ComposedFor bytes root t v := by
  rw [variableList_eq] at h
  obtain ⟨word, first, h⟩ := bind_eq_ok_iff.mp h
  obtain ⟨values, declared, h⟩ := bind_eq_ok_iff.mp h
  cases h
  have self : t.unwrap = some t := by
    have other : ∀ kind ∈ variableKinds, kind ≠ "ambient_declaration" := by decide
    rw [Tree.unwrap_eq, if_neg]
    simp [Tree.isWrapper, Tree.isKind, other t.kind kind]
  have own : OwnTexts bytes t [("kind", .text word), ("declarations", .list values)] := by
    refine ⟨by simp, by simp, fun v found => ⟨t, word, self, kind, first, ?_⟩⟩
    simpa [eq_comm] using found
  refine ⟨t, _, _, member, .inl picked, .inl ⟨_, rfl⟩,
    ⟨["kind", "declarations"], rfl, by decide⟩, own, own, ?_, rfl⟩
  refine List.forall_mem_cons.mpr ⟨?_, List.forall_mem_singleton.mpr (.list fun v inside => ?_)⟩
  · rw [keyword] at first
    cases children : t.children with
    | nil =>
      rw [children] at first
      cases first
      exact .word "var"
    | cons child rest =>
      rw [children] at first
      exact .text (mem_nodes_child member (children ▸ List.mem_cons_self)) first
  · obtain ⟨child, among, declared⟩ := (mem_of_mapM_ok declared).mp inside
    obtain ⟨among, isDeclarator⟩ := List.mem_filter.mp among
    have inside := mem_nodes_child member (Tree.mem_children_of_namedChildren among)
    exact composed_declarator inside (Tree.isPicked_of_isKind isDeclarator (by decide)) declared

private theorem composedFor_importStatement {t : Tree} {v : Value} (member : t ∈ root.nodes)
    (picked : t.isPicked) (h : importStatement bytes t = .ok v) : ComposedFor bytes root t v := by
  rw [importStatement] at h
  split_ifs at h
  · cases h
    exact composedFor_bare member picked (.inl ⟨_, rfl⟩)
  · obtain ⟨origin, read, h⟩ := bind_eq_ok_iff.mp h
    cases h
    have composed := composed_field member read
    apply composedFor_of_word member _ (.inl picked) ["importKind", "source"] rfl
      (by decide) (by decide)
    exact List.forall_mem_cons.mpr ⟨.word _, List.forall_mem_singleton.mpr composed⟩

private theorem composedFor_expressionStatement {t : Tree} {v : Value} (member : t ∈ root.nodes)
    (picked : t.isPicked) (h : expressionStatement bytes t = .ok v) :
    ComposedFor bytes root t v := by
  rw [expressionStatement] at h
  split at h
  · rename_i only single
    have inside : only ∈ root.nodes :=
      mem_nodes_child member (Tree.mem_children_of_namedChildren
        (single ▸ List.mem_singleton_self only))
    split_ifs at h with isModule
    · exact composedFor_named inside (Tree.isPicked_of_isKind isModule (by decide))
        [] rfl (by decide)
        (by decide) (List.forall_mem_nil _) h
    · cases h
      exact composedFor_bare member picked (.inl ⟨_, rfl⟩)
  · cases h
    exact composedFor_bare member picked (.inl ⟨_, rfl⟩)

private theorem composed_exportSpecifier {t : Tree} {v : Value} (member : t ∈ root.nodes)
    (picked : t.isPicked) (h : exportSpecifier bytes t = .ok v) : Composed bytes root v := by
  obtain ⟨inner, readInner, h⟩ := bind_eq_ok_iff.mp h
  obtain ⟨outer, readOuter, h⟩ := bind_eq_ok_iff.mp h
  cases h
  have composed := composed_field member readInner
  have composed' := composed_identifier? member (fun _ => Tree.mem_children_of_child?_or)
    (fun _ found => .inl (Tree.isPicked_of_child?_or found)) readOuter
  apply (composedFor_of_word (t := t) member _ (.inl picked) ["local", "exported", "exportKind"] rfl
    (by decide) (by decide) ?_).composed
  exact List.forall_mem_cons.mpr ⟨composed, List.forall_mem_cons.mpr ⟨composed',
    List.forall_mem_singleton.mpr (.word _)⟩⟩

private theorem composed_namespaceSpecifier {t : Tree} {v : Value} (member : t ∈ root.nodes)
    (isStar : t.isKind "namespace_export" = true) (h : namespaceSpecifier bytes t = .ok v) :
    Composed bytes root v := by
  obtain ⟨exposed, read, h⟩ := bind_eq_ok_iff.mp h
  cases h
  have composed := composed_identifier? member
    (fun child first => Tree.mem_children_of_namedChildren (List.mem_of_head? first))
    (fun child first => .inr ⟨t, member, isStar, first⟩) read
  have picked := Tree.isPicked_of_isKind isStar (by decide)
  exact (composedFor_of_word (t := t) member _ (.inl picked) ["exported"] rfl
    (by decide) (by decide)
    (List.forall_mem_singleton.mpr composed)).composed

private theorem composed_specifiersOf {t : Tree} {vs : List Value} (member : t ∈ root.nodes)
    (h : specifiersOf bytes t = .ok vs) : ∀ v ∈ vs, Composed bytes root v := by
  rw [specifiersOf] at h
  cases wildcard : wildcard? t with
  | some star =>
    have inside := mem_nodes_child member
      (Tree.mem_children_of_namedChildren (List.mem_of_find?_eq_some wildcard))
    rw [wildcard] at h
    obtain ⟨v, read, rfl⟩ := map_eq_ok_iff.mp h
    have isStar := List.find?_some wildcard
    exact List.forall_mem_singleton.mpr (composed_namespaceSpecifier inside isStar read)
  | none =>
    cases clause : clause? t with
    | some list =>
      have inside := mem_nodes_child member
        (Tree.mem_children_of_namedChildren (List.mem_of_find?_eq_some clause))
      rw [wildcard, clause] at h
      intro v listed
      obtain ⟨child, among, read⟩ := (mem_of_mapM_ok h).mp listed
      obtain ⟨among, isSpecifier⟩ := List.mem_filter.mp among
      have within := mem_nodes_child inside (Tree.mem_children_of_namedChildren among)
      exact composed_exportSpecifier within (Tree.isPicked_of_isKind isSpecifier (by decide)) read
    | none =>
      rw [wildcard, clause] at h
      cases h
      exact List.forall_mem_nil _

/-- The statements among the children of a node. -/
private theorem composed_childStatement {t : Tree} {o : Option Tree} {v : Value}
    (below : ∀ child ∈ t.children, child.isPicked → ∀ v, statement bytes child = .ok v →
      ComposedFor bytes root child v)
    (among : ∀ child ∈ o, child ∈ t.children ∧ child.isPicked)
    (h : childStatement bytes o = .ok v) :
    Composed bytes root v := by
  cases o with
  | none =>
    cases h
    exact .null
  | some child =>
    obtain ⟨inside, picked⟩ := among child rfl
    exact (below child inside picked v h).composed

private theorem composedFor_exportStatement {t : Tree} {v : Value} (member : t ∈ root.nodes)
    (picked : t.isPicked)
    (below : ∀ child ∈ t.children, child.isPicked → ∀ v, statement bytes child = .ok v →
      ComposedFor bytes root child v)
    (h : exportStatement bytes t (statements bytes t.children) = .ok v) :
    ComposedFor bytes root t v := by
  rw [exportStatement_eq] at h
  split_ifs at h
  · obtain ⟨value, built, h⟩ := bind_eq_ok_iff.mp h
    cases h
    have composed := composed_childStatement below
      (fun _ found => ⟨Tree.mem_children_of_child?_or found, Tree.isPicked_of_child?_or found⟩)
        built
    apply composedFor_of_word member _ (.inl picked) ["declaration"] rfl (by decide) (by decide)
    exact List.forall_mem_singleton.mpr composed
  · cases h
    exact composedFor_bare member picked (.inl ⟨_, rfl⟩)
  · obtain ⟨id, read, h⟩ := bind_eq_ok_iff.mp h
    cases h
    have isName : ∀ child ∈ t.namedChildren.find? fun child => child.isKind "identifier",
        child.isKind "identifier" = true := by
      intro child found
      have named := List.find?_some found
      exact named
    have composed := composed_identifier? member
      (fun child found => Tree.mem_children_of_namedChildren (List.mem_of_find?_eq_some found))
      (fun child found => .inl (Tree.isPicked_of_isKind (isName child found) (by decide))) read
    apply composedFor_of_word member _ (.inl picked) ["id"] rfl (by decide) (by decide)
    exact List.forall_mem_singleton.mpr composed
  · obtain ⟨origin, read, h⟩ := bind_eq_ok_iff.mp h
    cases h
    have composed := composed_field member read
    apply composedFor_of_word member _ (.inl picked) ["source"] rfl (by decide) (by decide)
    exact List.forall_mem_singleton.mpr composed
  · obtain ⟨value, built, h⟩ := bind_eq_ok_iff.mp h
    obtain ⟨specifiers, listed, h⟩ := bind_eq_ok_iff.mp h
    obtain ⟨origin, read, h⟩ := bind_eq_ok_iff.mp h
    cases h
    have composed := composed_childStatement below
      (fun _ found => ⟨Tree.mem_children_of_child? found, Tree.isPicked_of_child? found⟩) built
    have composed' := composed_field member read
    apply composedFor_of_word member _ (.inl picked)
      ["declaration", "specifiers", "source", "exportKind"] rfl (by decide) (by decide)
    exact List.forall_mem_cons.mpr ⟨composed, List.forall_mem_cons.mpr
      ⟨.list (composed_specifiersOf member listed), List.forall_mem_cons.mpr
        ⟨composed', List.forall_mem_singleton.mpr (.word _)⟩⟩⟩

/-- What an ambient declaration declares keeps its tag and its fields, and is marked. -/
theorem declaredAt_document (bytes : Bytes) (label inner : Label) (tag : Text) (fields : Fields) :
    declaredAt bytes label (document bytes inner tag fields) =
      document bytes label tag (fields.set "declare" (.bool true)) := by
  simp [declaredAt, document, base, Fields.update, Fields.set]

private theorem hasKeys_set {fields : Fields} (h : HasKeys fields) (value : Value) :
    HasKeys (fields.set "declare" value) := by
  obtain ⟨keys, same, distinct⟩ := h
  by_cases known : Text.ofString "declare" ∈ fields.map Prod.fst
  · exact ⟨keys, by rw [Fields.map_fst_set_of_mem value known, same], distinct⟩
  · refine ⟨keys ++ ["declare"], ?_, ?_⟩
    · rw [Fields.set_of_notMem value known, List.map_append, List.map_append, same]
      rfl
    have new : "declare" ∉ keys := fun member => known (same ▸ List.mem_map_of_mem member)
    have other : "declare" ∉ placeKeys := by decide
    rw [← List.append_assoc, List.nodup_append]
    refine ⟨distinct, by simp, ?_⟩
    intro key member last single same
    rw [same, List.mem_singleton.mp single] at member
    rcases List.mem_append.mp member with member | member
    · exact other member
    · exact new member

/-- A mark leaves the texts of a document alone, and a wrapper is about what it wraps. -/
private theorem OwnTexts.set {s t : Tree} {fields : Fields} (h : OwnTexts bytes s fields)
    (same : t.unwrap = s.unwrap) (value : Value) :
    OwnTexts bytes t (fields.set "declare" value) := by
  refine ⟨?_, ?_, ?_⟩
  · rw [Fields.get?_set, if_neg (by simp)]
    exact h.name
  · rw [Fields.get?_set, if_neg (by simp)]
    exact h.value
  · rw [Fields.get?_set, if_neg (by simp), same]
    exact h.kind

private theorem composedFor_ambient {t : Tree} {v : Value} (member : t ∈ root.nodes)
    (picked : t.isPicked) (kind : t.kind = "ambient_declaration")
    (below : ∀ child ∈ t.children, child.isPicked → ∀ v, statement bytes child = .ok v →
      ComposedFor bytes root child v)
    (h : ambient bytes t (statements bytes t.children) = .ok v) : ComposedFor bytes root t v := by
  rw [ambient_eq] at h
  cases found : t.children.find? Tree.isStatement with
  | none =>
    rw [found] at h
    cases h
    exact composedFor_bare member picked (.inl ⟨_, rfl⟩)
  | some inner =>
    rw [found] at h
    simp only at h
    split_ifs at h with global module
    · cases h
      have isGlobal : t.isGlobal = true := by
        rw [Tree.isGlobal, Tree.isKind, decide_eq_true kind, global]
        rfl
      apply composedFor_of_word member _ (.inl picked) ["id", "global", "declare"] rfl
        (by decide) (by decide)
      exact List.forall_mem_cons.mpr ⟨.globalName member isGlobal, List.forall_mem_cons.mpr
        ⟨.flag true, List.forall_mem_singleton.mpr (.flag true)⟩⟩
    · cases h
      apply composedFor_of_word member _ (.inl picked) ["declare"] rfl (by decide) (by decide)
      exact List.forall_mem_singleton.mpr (.flag true)
    · -- the inner document moves to the place of the ambient one
      obtain ⟨u, built, rfl⟩ := map_eq_ok_iff.mp h
      obtain ⟨s, tag, fields, _, _, isTag, keys, _, own, each, rfl⟩ :=
        below inner (List.mem_of_find?_eq_some found)
          (Tree.isPicked_of_isStatement (List.find?_some found))
          u built
      have wraps : t.unwrap = inner.unwrap := by
        have wrapper : t.isWrapper = true := by
          rw [Bool.not_eq_true] at global module
          rw [Tree.isWrapper, Tree.isKind, decide_eq_true kind, global, module]
          rfl
        rw [Tree.unwrap_eq, if_pos wrapper, found, Option.bind_some]
      have own' := own.set wraps (.bool true)
      rw [declaredAt_document]
      refine ⟨t, tag, _, member, .inl picked, isTag, hasKeys_set keys _, own', own',
        fun field inside => ?_, rfl⟩
      rcases Fields.mem_set inside with rfl | inside
      · exact .flag true
      · exact each field inside

end Parts

theorem composedFor_statement {bytes : Bytes} {root t : Tree} {v : Value} (member : t ∈ root.nodes)
    (picked : t.isPicked) (h : statement bytes t = .ok v) : ComposedFor bytes root t v := by
  induction t using Tree.induct generalizing v with
  | node label children ih =>
    have below : ∀ child ∈ children, child.isPicked → ∀ v, statement bytes child = .ok v →
        ComposedFor bytes root child v :=
      fun child inside chosen v => ih child inside (mem_nodes_child member inside) chosen
    have noFields : ∀ field ∈ ([] : Fields), Composed bytes root field.2 := List.forall_mem_nil _
    rw [statement_eq_assemble, assemble] at h
    generalize formed : Form.ofKind (Tree.node label children).kind = form at h
    cases form with
    | function =>
      exact composedFor_named member picked ["generator", "async"] rfl (by decide) (by decide)
        (List.forall_mem_cons.mpr ⟨.flag _, List.forall_mem_singleton.mpr (.flag _)⟩) h
    | signature =>
      exact composedFor_named member picked [] rfl (by decide) (by decide) noFields h
    | classDeclaration =>
      exact composedFor_named member picked ["abstract"] rfl (by decide) (by decide)
        (List.forall_mem_singleton.mpr (.flag _)) h
    | interface =>
      exact composedFor_named member picked [] rfl (by decide) (by decide) noFields h
    | typeAlias =>
      exact composedFor_named member picked [] rfl (by decide) (by decide) noFields h
    | enumeration =>
      exact composedFor_named member picked ["const"] rfl (by decide) (by decide)
        (List.forall_mem_singleton.mpr (.flag _)) h
    | variableList =>
      have kinds : ∀ entry ∈ Form.table, entry.2 = .variableList →
          entry.1 ∈ variableKinds := by decide
      exact composedFor_variableList member picked
        (kinds _ (Form.mem_table formed (by decide)) rfl) h
    | moduleDeclaration =>
      exact composedFor_named member picked [] rfl (by decide) (by decide) noFields h
    | ambient =>
      have kinds : ∀ entry ∈ Form.table, entry.2 = .ambient →
          entry.1 = "ambient_declaration" := by decide
      exact composedFor_ambient member picked
        (kinds _ (Form.mem_table formed (by decide)) rfl) below h
    | expression =>
      exact composedFor_expressionStatement member picked h
    | importStatement =>
      exact composedFor_importStatement member picked h
    | importAlias =>
      cases h
      exact composedFor_bare member picked (.inl ⟨_, rfl⟩)
    | exportStatement =>
      exact composedFor_exportStatement member picked below h
    | other =>
      cases h
      exact composedFor_bare member picked (.inr ⟨_, member, rfl⟩)

theorem composedFor_program {bytes : Bytes} {root : Tree} {v : Value}
    (h : program bytes root = .ok v) :
    ComposedFor bytes root root v := by
  obtain ⟨body, built, h⟩ := bind_eq_ok_iff.mp h
  cases h
  apply composedFor_of_word root.mem_nodes_self _ (.inr rfl) ["body"] rfl (by decide) (by decide)
  refine List.forall_mem_singleton.mpr (.list fun v inside => ?_)
  obtain ⟨t, among, built⟩ := (mem_of_mapM_ok built).mp inside
  have inside := mem_nodes_child root.mem_nodes_self (Tree.mem_children_of_statementNodes among)
  have picked : t.isPicked := by
    rw [Tree.isPicked, (List.mem_filter.mp among).2, Bool.or_true]
  exact (composedFor_statement inside picked built).composed

/-- What holds of all values without a tag, of the names and of the other documents of nodes holds
of all values in a program. -/
theorem Composed.everywhere {P : Value → Prop} {bytes : Bytes} {root : Tree} {v : Value}
    (h : Composed bytes root v) (plain : ∀ v, v.field? "type" = none → P v)
    (name : ∀ t ∈ root.nodes, t.isPicked ∨ root.LeadsWildcard t →
      ∀ v, identifier bytes t = .ok v → P v)
    (globalName : ∀ t ∈ root.nodes, t.isGlobal = true →
      P (document bytes t.label "Identifier" [("name", .string "global")]))
    (node : ∀ t ∈ root.nodes, ∀ (tag : Text) fields, t.isPicked ∨ tag = "Program" →
      OwnTexts bytes t fields → P (document bytes t.label tag fields)) :
    v.Everywhere P := by
  have leaf : ∀ text, (Value.text text).Everywhere P :=
    fun text => Value.everywhere_text.mpr (plain _ rfl)
  have tagged : ∀ {label tag} {fields : Fields}, P (document bytes label tag fields) →
      (∀ field ∈ fields, field.2.Everywhere P) →
      (document bytes label tag fields).Everywhere P := by
    intro label tag fields self each
    exact Value.everywhere_object.mpr
      ⟨self, List.forall_mem_append.mpr ⟨everywhere_base plain, each⟩⟩
  induction h with
  | null => exact Value.everywhere_null.mpr (plain _ rfl)
  | flag b => exact Value.everywhere_bool.mpr (plain _ rfl)
  | word s => exact leaf s
  | text member read => exact leaf _
  | list each ih => exact Value.everywhere_list.mpr ⟨plain _ rfl, ih⟩
  | @name t v member chosen read =>
    have self := name t member chosen v read
    obtain ⟨text, _, h⟩ := bind_eq_ok_iff.mp read
    split_ifs at h
    · cases h
      exact tagged self (List.forall_mem_singleton.mpr (leaf _))
    · cases h
      exact tagged self (List.forall_mem_singleton.mpr (leaf _))
  | globalName member isGlobal =>
    exact tagged (globalName _ member isGlobal) (List.forall_mem_singleton.mpr (leaf _))
  | node member chosen isTag keys own each ih => exact tagged (node _ member _ _ chosen own) ih

/-- What makes up a program describes its tree: names are documents of nodes like any other. -/
theorem Composed.described {bytes : Bytes} {root : Tree} {v : Value} (h : Composed bytes root v) :
    Described bytes root v := by
  induction h with
  | null => exact .null
  | flag b => exact .flag b
  | word s => exact .word s
  | text member read => exact .text member read
  | list each ih => exact .list ih
  | name member chosen read =>
    obtain ⟨name, text, h⟩ := bind_eq_ok_iff.mp read
    split_ifs at h
    · cases h
      exact .node member (.inl ⟨_, rfl⟩) ⟨["value"], rfl, by decide⟩
        (List.forall_mem_singleton.mpr (.quoted member text))
    · cases h
      exact .node member (.inl ⟨_, rfl⟩) ⟨["name"], rfl, by decide⟩
        (List.forall_mem_singleton.mpr (.text member text))
  | globalName member isGlobal =>
    exact .node member (.inl ⟨_, rfl⟩) ⟨["name"], rfl, by decide⟩
      (List.forall_mem_singleton.mpr (.word _))
  | node member chosen isTag keys own each ih => exact .node member isTag keys ih

/-- The document of a program describes its tree. -/
theorem isDocument_program {bytes : Bytes} {root : Tree} {v : Value}
    (h : program bytes root = .ok v) :
    IsDocument bytes root v := by
  obtain ⟨t, tag, fields, member, _, isTag, keys, _, _, each, rfl⟩ := composedFor_program h
  exact ⟨t, tag, fields, member, isTag, keys, fun field inside =>
    (each field inside).described, rfl⟩

end Concrete

end ExportList
