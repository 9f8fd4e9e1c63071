import ExportList.Proofs.Concrete.Embedding

/-!
One tree over two documents.  Where both read the same at every node of the tree, its statements
look alike in both; places in them may differ.  So it is when a document grows at its end and the
nodes stay within what was there before.
-/

set_option autoImplicit false

namespace ExportList.Concrete

/-- Two documents read the same at every node of a tree. -/
def Tree.ReadsAlike (bytes bytes' : Bytes) (t : Tree) : Prop :=
  ∀ s ∈ t.nodes, s.text bytes' = s.text bytes

/-- The nodes of a tree lie within the first bytes of a document. -/
def Tree.Within (length : Nat) (t : Tree) : Prop :=
  ∀ s ∈ t.nodes, s.label.start.offset ≤ length ∧ s.label.stop.offset ≤ length

instance (length : Nat) (t : Tree) : Decidable (t.Within length) :=
  inferInstanceAs (Decidable (∀ s ∈ t.nodes, _ ∧ _))

theorem Tree.Within.readsAlike {bytes : Bytes} {t : Tree} (h : t.Within bytes.length)
    (more : Bytes) : t.ReadsAlike bytes (bytes ++ more) := by
  intro s hs
  obtain ⟨start, stop⟩ := h s hs
  rw [Tree.text, Tree.text, Tree.bytes, Tree.bytes,
    Bytes.slice_append start stop]

theorem Tree.ReadsAlike.child {bytes bytes' : Bytes} {t child : Tree}
    (h : t.ReadsAlike bytes bytes') (hc : child ∈ t.children) : child.ReadsAlike bytes bytes' :=
  fun s hs => h s (mem_nodes_of_child hc hs)

theorem Tree.ReadsAlike.embeds {bytes bytes' : Bytes} {t : Tree} (h : t.ReadsAlike bytes bytes') :
    t.Embeds bytes bytes' t := by
  induction t using Tree.induct with
  | node label children ih =>
    exact .node (h _ (Tree.mem_nodes_self _)) (.refl fun child hc => ih child hc (h.child hc))

/-- A statement that has a document has one in every document that reads the same, and the two look
alike. -/
theorem statement_follows {bytes bytes' : Bytes} {t : Tree} (h : t.ReadsAlike bytes bytes') :
    Follows Alike (statement bytes t) (statement bytes' t) :=
  h.embeds.statement_follows

end ExportList.Concrete
