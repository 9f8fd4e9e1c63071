import ExportList.Concrete.Program
import ExportList.Proofs.Document
import ExportList.Proofs.Span

/-!
The nodes of a concrete syntax tree, the characters they span, and the statement that an ambient
declaration declares.
-/

set_option autoImplicit false

namespace ExportList.Concrete

namespace Tree

/-- What holds of a node as soon as it holds of its children holds of every tree. -/
@[elab_as_elim]
theorem induct {P : Tree → Prop}
    (node : ∀ label children, (∀ child ∈ children, P child) → P (.node label children)) :
    ∀ t, P t
  | .node label children => node label children fun child member =>
    have := List.sizeOf_lt_of_mem member
    induct node child

/-- A node between two columns of a row that begins at a given offset. -/
def onRow (row offset : Nat) (kind : Text) (start stop : Nat) (children : List Tree) : Tree :=
  .node { kind, start := ⟨offset + start, row, start⟩, stop := ⟨offset + stop, row, stop⟩ } children

def asToken : Tree → Tree
  | .node label children => .node { label with named := false } children

def inField (role : Text) : Tree → Tree
  | .node label children => .node { label with role := some role } children

mutual

/-- All nodes of a tree, each before its children. -/
def nodes : Tree → List Tree
  | .node label children => .node label children :: nodesAmong children

def nodesAmong : List Tree → List Tree
  | [] => []
  | t :: rest => t.nodes ++ nodesAmong rest

end

theorem mem_nodes_self (t : Tree) : t ∈ t.nodes := by
  cases t
  simp [nodes]

private theorem mem_nodesAmong_iff {children : List Tree} {s : Tree} :
    s ∈ nodesAmong children ↔ ∃ child ∈ children, s ∈ child.nodes := by
  induction children with
  | nil => simp [nodesAmong]
  | cons t rest ih => rw [nodesAmong, List.mem_append, ih, List.exists_mem_cons_iff]

theorem mem_nodes_of_child {t child s : Tree} (hc : child ∈ t.children) (hs : s ∈ child.nodes) :
    s ∈ t.nodes := by
  cases t with
  | node label children =>
    rw [nodes]
    exact List.mem_cons_of_mem _ (mem_nodesAmong_iff.mpr ⟨child, hc, hs⟩)

/-- The nodes of a node of a tree are nodes of the tree. -/
theorem mem_nodes_trans {r s t : Tree} (hr : r ∈ s.nodes) (hs : s ∈ t.nodes) : r ∈ t.nodes := by
  induction t using induct with
  | node label children ih =>
    rw [nodes, List.mem_cons] at hs
    rcases hs with rfl | hs
    · exact hr
    · obtain ⟨child, hc, hs⟩ := mem_nodesAmong_iff.mp hs
      exact mem_nodes_of_child hc (ih child hc hs)

theorem mem_children_of_child? {t child : Tree} {role : Text} (h : t.child? role = some child) :
    child ∈ t.children :=
  List.mem_of_find?_eq_some h

theorem mem_children_of_child?_or {t child : Tree} {first second : Text}
    (h : (t.child? first).or (t.child? second) = some child) : child ∈ t.children := by
  rcases Option.or_eq_some_iff.mp h with h | ⟨_, h⟩
  · exact mem_children_of_child? h
  · exact mem_children_of_child? h

theorem mem_children_of_namedChildren {t child : Tree} (h : child ∈ t.namedChildren) :
    child ∈ t.children :=
  (List.mem_filter.mp h).1

/-- Whether a node stands where statements do: it is neither a token nor a comment. -/
def isStatement (t : Tree) : Bool := t.label.named && !t.isSkipped

def statementNodes (t : Tree) : List Tree := t.namedChildren.filter fun child => !child.isSkipped

theorem mem_children_of_statementNodes {t child : Tree} (h : child ∈ t.statementNodes) :
    child ∈ t.children :=
  mem_children_of_namedChildren (List.mem_filter.mp h).1

def characters (source : Text) (t : Tree) : Text :=
  source.between t.label.start.offset t.label.stop.offset

/-- Every node of a tree begins and ends between characters of a document. -/
def OnBoundaries (source : Text) (t : Tree) : Prop :=
  ∀ s ∈ t.nodes,
    source.IsBoundary s.label.start.offset ∧ source.IsBoundary s.label.stop.offset

instance (source : Text) (t : Tree) : Decidable (t.OnBoundaries source) :=
  inferInstanceAs (Decidable (∀ s ∈ t.nodes, _ ∧ _))

/-- The nodes of a tree can be read, and as the characters of a document. -/
def Reads (source : Text) (bytes : Bytes) (t : Tree) : Prop :=
  ∀ s ∈ t.nodes, s.text bytes = .ok (s.characters source)

/-- A node begins and ends between characters of a document, with a given text between. -/
def Spans (source text : Text) (t : Tree) : Prop :=
  source.IsBoundary t.label.start.offset ∧ source.IsBoundary t.label.stop.offset ∧
    t.characters source = text

theorem Spans.text {source text : Text} {bytes : Bytes} {t : Tree}
    (encoded : Utf8.encode? source = some bytes) (h : t.Spans source text) :
    t.text bytes = .ok text := by
  obtain ⟨start, stop, rfl⟩ := h
  exact Utf8.decode_slice encoded start stop

theorem OnBoundaries.reads {source : Text} {bytes : Bytes} {t : Tree}
    (encoded : Utf8.encode? source = some bytes) (h : t.OnBoundaries source) :
    t.Reads source bytes := by
  intro s hs
  exact Spans.text encoded ⟨(h s hs).1, (h s hs).2, rfl⟩

theorem Reads.self {source : Text} {bytes : Bytes} {t : Tree} (h : t.Reads source bytes) :
    t.text bytes = .ok (t.characters source) :=
  h t t.mem_nodes_self

theorem Reads.child {source : Text} {bytes : Bytes} {t child : Tree} (h : t.Reads source bytes)
    (hc : child ∈ t.children) : child.Reads source bytes :=
  fun s hs => h s (mem_nodes_of_child hc hs)

theorem Reads.node {source : Text} {bytes : Bytes} {t s : Tree} (h : t.Reads source bytes)
    (hs : s ∈ t.nodes) : s.Reads source bytes :=
  fun r hr => h r (mem_nodes_trans hr hs)

/-- Whether a node only wraps what it declares: an ambient declaration of neither the global scope
nor a module. -/
def isWrapper (t : Tree) : Bool :=
  t.isKind "ambient_declaration" && !t.tokens.contains "global" && !t.tokens.contains "module"

mutual

/-- The node that a statement is about: below wrappers, the first child that is a statement. -/
def unwrap : Tree → Option Tree
  | .node label children =>
    if isWrapper (.node label children) then unwrapFirst children
    else some (.node label children)

def unwrapFirst : List Tree → Option Tree
  | [] => none
  | t :: rest => if t.isStatement then t.unwrap else unwrapFirst rest

end

theorem unwrapFirst_eq (children : List Tree) :
    unwrapFirst children = (children.find? isStatement).bind unwrap := by
  induction children with
  | nil => rfl
  | cons t rest ih =>
    by_cases h : t.isStatement <;> simp [unwrapFirst, h, ih]

theorem unwrap_eq (t : Tree) :
    t.unwrap = if t.isWrapper then (t.children.find? isStatement).bind unwrap else some t := by
  cases t with
  | node label children =>
    rw [unwrap, unwrapFirst_eq]
    rfl

/-- What a statement is about is a node of it, and no wrapper. -/
theorem unwrap_eq_some {t inner : Tree} (h : t.unwrap = some inner) :
    inner ∈ t.nodes ∧ inner.isWrapper = false := by
  induction t using induct with
  | node label children ih =>
    rw [unwrap_eq] at h
    by_cases w : isWrapper (.node label children)
    · rw [if_pos w] at h
      obtain ⟨child, hc, hi⟩ := Option.bind_eq_some_iff.mp h
      have member := List.mem_of_find?_eq_some hc
      obtain ⟨below, plain⟩ := ih child member hi
      exact ⟨mem_nodes_of_child member below, plain⟩
    · rw [if_neg w] at h
      cases h
      exact ⟨mem_nodes_self _, by simpa using w⟩

end Tree

end ExportList.Concrete
