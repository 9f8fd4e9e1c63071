import ExportList.Proofs.Concrete.Nodes
import ExportList.Proofs.Source

/-!
The node at which a document leaves the grammar.  The search looks only below nodes that are flagged
to hold an error, so it finds the first node at fault as long as these flags are right.
-/

set_option autoImplicit false

namespace ExportList.Concrete

namespace Tree

def isFlagged (t : Tree) : Bool := t.label.isError || t.label.isMissing

/-- The nodes that are flagged to hold an error are those with a node at fault in them. -/
def FlagsErrors (t : Tree) : Prop :=
  ∀ s ∈ t.nodes, s.label.hasError = true ↔ ∃ r ∈ s.nodes, r.isFlagged = true

instance (t : Tree) : Decidable t.FlagsErrors := inferInstanceAs (Decidable (∀ s ∈ t.nodes, _ ↔ _))

theorem FlagsErrors.child {t child : Tree} (h : t.FlagsErrors) (hc : child ∈ t.children) :
    child.FlagsErrors :=
  fun s hs => h s (mem_nodes_of_child hc hs)

theorem nodes_eq (t : Tree) : t.nodes = t :: t.children.flatMap nodes := by
  have among : ∀ children : List Tree, nodesAmong children = children.flatMap nodes := by
    intro children
    induction children with
    | nil => rfl
    | cons first rest ih => rw [nodesAmong, ih, List.flatMap_cons]
  cases t with
  | node label children =>
    rw [nodes, among]
    rfl

theorem firstFault?_eq (t : Tree) :
    t.firstFault? =
      if t.isFlagged then some t
      else if t.label.hasError then some ((t.children.findSome? firstFault?).getD t)
      else none := by
  have among : ∀ children : List Tree,
      firstFaultAmong? children = children.findSome? firstFault? := by
    intro children
    induction children with
    | nil => rfl
    | cons first rest ih =>
      rw [firstFaultAmong?, List.findSome?_cons, ih]
      cases first.firstFault? <;> rfl
  cases t with
  | node label children =>
    rw [firstFault?, among]
    cases h : label.hasError <;> simp [isFlagged, Tree.label, Tree.children, h]

theorem firstFault?_eq_none_iff {t : Tree} :
    t.firstFault? = none ↔ t.isFlagged = false ∧ t.label.hasError = false := by
  rw [firstFault?_eq]
  cases t.isFlagged <;> cases t.label.hasError <;> simp

/-- The first fault of a tree is a node of it. -/
theorem mem_nodes_of_firstFault? {t fault : Tree} (h : t.firstFault? = some fault) :
    fault ∈ t.nodes := by
  induction t using induct generalizing fault with
  | node label children ih =>
    rw [firstFault?_eq] at h
    split_ifs at h
    · cases h
      exact mem_nodes_self _
    · cases found : (Tree.node label children).children.findSome? firstFault? with
      | none =>
        rw [found] at h
        cases h
        exact mem_nodes_self _
      | some inner =>
        rw [found] at h
        cases h
        obtain ⟨child, member, own⟩ := List.exists_of_findSome?_eq_some found
        exact mem_nodes_of_child member (ih child member own)

/-- Where the flags are right, the search passes over no node at fault and does not end without
one. -/
theorem FlagsErrors.firstFault?_eq_find? {t : Tree} (h : t.FlagsErrors) :
    t.firstFault? = t.nodes.find? isFlagged := by
  induction t using induct with
  | node label children ih =>
    set t := Tree.node label children
    have below : t.children.findSome? firstFault? = (t.children.flatMap nodes).find? isFlagged := by
      have each : ∀ child ∈ t.children, child.firstFault? = child.nodes.find? isFlagged :=
        fun child member => ih child member (h.child member)
      rw [List.find?_flatMap, ← List.head?_filterMap, ← List.head?_filterMap,
        List.filterMap_congr each]
    have flags := h t t.mem_nodes_self
    rw [firstFault?_eq, below, nodes_eq, List.find?_cons]
    rw [nodes_eq, List.exists_mem_cons_iff] at flags
    cases own : t.isFlagged with
    | true => rfl
    | false =>
      -- only the nodes below count, and the flag says whether one of them is at fault
      simp only [own, Bool.false_eq_true, false_or] at flags ⊢
      cases found : (t.children.flatMap nodes).find? isFlagged with
      | some fault =>
        have held : t.label.hasError = true :=
          flags.mpr ⟨fault, List.mem_of_find?_eq_some found, List.find?_some found⟩
        rw [held]
        rfl
      | none =>
        have clear : t.label.hasError = false := by
          rw [← Bool.not_eq_true, flags]
          rintro ⟨fault, member, flagged⟩
          exact List.find?_eq_none.mp found fault member flagged
        rw [clear]
        rfl

end Tree

/-- The search finds nothing exactly if the root is flagged in no way.  Where the flags are right,
it finds the first node at fault in the order of the document, each node coming before its children,
and a document is read only if there is none. -/
theorem firstFault?_first (t : Tree) :
    (t.firstFault? = none ↔
      t.label.isError = false ∧ t.label.isMissing = false ∧ t.label.hasError = false) ∧
    (t.FlagsErrors →
      t.firstFault? = t.nodes.find? Tree.isFlagged ∧
      ∀ source sourceName,
        (∀ parsed, parseTree source sourceName t = .ok parsed →
          ∀ s ∈ t.nodes, s.isFlagged = false) ∧
        ∀ bytes fault, Utf8.encode? source = some bytes →
          t.nodes.find? Tree.isFlagged = some fault →
          parseTree source sourceName t =
            .error (.malformed (treeError bytes sourceName fault))) := by
  constructor
  · rw [Tree.firstFault?_eq_none_iff, Tree.isFlagged, Bool.or_eq_false_iff, and_assoc]
  · intro flags
    have first := flags.firstFault?_eq_find?
    refine ⟨first, fun source sourceName => ⟨?_, ?_⟩⟩
    · intro parsed read s member
      obtain ⟨bytes, program, _, faultless, _, _⟩ := parseTree_eq_ok_iff.mp read
      rw [first] at faultless
      simpa using List.find?_eq_none.mp faultless s member
    · intro bytes fault encoded found
      rw [parseTree, encodeSource_eq_ok_iff.mpr encoded, first, found]
      rfl

/-- The tree of `{ let } )`: a name is missing behind the keyword, and the last sign is left
over. -/
def missingName : Tree :=
  .node { kind := "program", hasError := true, start := ⟨0, 0, 0⟩, stop := ⟨9, 0, 9⟩ }
    [.node { kind := "statement_block", hasError := true, start := ⟨0, 0, 0⟩, stop := ⟨7, 0, 7⟩ }
      [.asToken (.onRow 0 0 "\x7b" 0 1 []),
        .node
          { kind := "lexical_declaration", hasError := true, start := ⟨2, 0, 2⟩, stop := ⟨5, 0, 5⟩ }
          [.asToken (.onRow 0 0 "let" 2 5 []),
            .node
              { kind := "identifier", isMissing := true, hasError := true, start := ⟨5, 0, 5⟩
                stop := ⟨5, 0, 5⟩ } []],
        .asToken (.onRow 0 0 "\x7d" 6 7 [])],
      .node
        { kind := "ERROR", isError := true, hasError := true, start := ⟨8, 0, 8⟩
          stop := ⟨9, 0, 9⟩ } []]

theorem firstFault?_first_missingName :
    missingName.FlagsErrors ∧ ∃ fault, missingName.firstFault? = some fault ∧
      missingName.nodes.find? Tree.isFlagged = some fault ∧ fault.label.isMissing = true ∧
      ∃ e, parseTree "\x7b let \x7d )" "a.ts" missingName = .error (.malformed e) ∧
        e.description = "Missing identifier" ∧ e.column = some 5 := by
  have flags : missingName.FlagsErrors := by decide
  obtain ⟨first, read⟩ := (firstFault?_first missingName).2 flags
  obtain ⟨fault, found, missing⟩ : ∃ fault, missingName.nodes.find? Tree.isFlagged = some fault ∧
      fault.label.isMissing = true := ⟨_, rfl, rfl⟩
  have refused := (read "\x7b let \x7d )" "a.ts").2 _ _ rfl rfl
  exact ⟨flags, fault, first.trans found, found, missing, _, refused, rfl, rfl⟩

end ExportList.Concrete
