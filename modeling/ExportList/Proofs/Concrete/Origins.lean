import ExportList.Proofs.Concrete.Faults
import ExportList.Proofs.Concrete.Texts

/-!
The nodes that names come from.  A name stands in a field, or it is picked by its kind, and comments
do neither.  Only in `* as name` the first child is taken for the name, and a comment can come first
there.
-/

set_option autoImplicit false

namespace ExportList

def Value.isName (v : Value) : Bool := v.hasTag "Identifier" || v.hasTag "StringLiteral"

namespace Concrete

namespace Tree

def CommentsLoose (t : Tree) : Prop := ∀ s ∈ t.nodes, s.isSkipped = true → s.label.role = none

instance (t : Tree) : Decidable t.CommentsLoose :=
  inferInstanceAs (Decidable (∀ s ∈ t.nodes, _ → _))

theorem CommentsLoose.isSkipped_eq_false {t s : Tree} (h : t.CommentsLoose) (member : s ∈ t.nodes)
    (picked : s.isPicked) : s.isSkipped = false := by
  cases skipped : s.isSkipped with
  | false => rfl
  | true =>
    rw [isPicked, h s member skipped, skipped] at picked
    cases picked

end Tree

/-- A name gives the byte offsets of a node that is no comment, or that comes first in `* as
name`. -/
def HasOrigin (root : Tree) (v : Value) : Prop :=
  v.isName → ∃ t ∈ root.nodes, IsAt v t ∧ (t.isSkipped = false ∨ root.LeadsWildcard t)

section Programs

variable {bytes : Bytes} {root : Tree}

private theorem isAt_identifier {t : Tree} {v : Value} (h : identifier bytes t = .ok v) :
    IsAt v t := by
  obtain ⟨text, _, h⟩ := bind_eq_ok_iff.mp h
  split_ifs at h
  · cases h
    exact isAt_document _ _
  · cases h
    exact isAt_document _ _

theorem Composed.everywhere_hasOrigin {v : Value} (loose : root.CommentsLoose)
    (h : Composed bytes root v) : v.Everywhere (HasOrigin root) := by
  refine h.everywhere ?_ ?_ ?_ ?_
  · intro v untagged isName
    rw [Value.isName, Value.hasTag, Value.hasTag, Value.tag, Value.field, untagged] at isName
    cases isName
  · intro t member chosen v read _
    exact ⟨t, member, isAt_identifier read, chosen.imp_left (loose.isSkipped_eq_false member)⟩
  · intro t member isGlobal _
    have ambient := Tree.isPicked_of_isKind (Bool.and_eq_true_iff.mp isGlobal).1 (by decide)
    exact ⟨t, member, isAt_document _ _, .inl (loose.isSkipped_eq_false member ambient)⟩
  · intro t member tag fields chosen _ isName
    rcases chosen with picked | rfl
    · exact ⟨t, member, isAt_document _ _, .inl (loose.isSkipped_eq_false member picked)⟩
    · rw [Value.isName, Value.hasTag, Value.hasTag, tag_document] at isName
      exact absurd isName (by decide)

/-- An export of `* as name` exports under the first node there. -/
theorem exported_of_wildcard {t star first : Tree} {v : Value} (kind : t.kind = "export_statement")
    (noDefault : t.tokens.contains "default" = false) (noValue : t.tokens.contains "=" = false)
    (wildcard : wildcard? t = some star) (leads : star.namedChildren.head? = some first)
    (h : statement bytes t = .ok v) :
    ∃ specifier, (v.field "specifiers").items = [specifier] ∧
      IsAt (specifier.field "exported") first := by
  have form : Form.ofKind t.kind = .exportStatement := by
    rw [kind]
    rfl
  rw [statement_eq_assemble, assemble, form] at h
  simp only [exportStatement_eq, noDefault, noValue, wildcard, Option.isNone_some, Bool.and_false,
    Bool.false_eq_true, if_false] at h
  obtain ⟨value, _, h⟩ := bind_eq_ok_iff.mp h
  obtain ⟨specifiers, listed, h⟩ := bind_eq_ok_iff.mp h
  obtain ⟨origin, _, h⟩ := bind_eq_ok_iff.mp h
  cases h
  rw [specifiersOf, wildcard] at listed
  obtain ⟨specifier, named, rfl⟩ := map_eq_ok_iff.mp listed
  obtain ⟨exposed, read, named⟩ := bind_eq_ok_iff.mp named
  cases named
  rw [leads] at read
  refine ⟨document bytes star.label "ExportNamespaceSpecifier" [("exported", exposed)], ?_, ?_⟩
  · rw [field_document _ _ _ _ (by decide)]
    simp
  · rw [field_document _ _ _ _ (by decide)]
    simpa using isAt_identifier read

end Programs

/-- Where comments stand in no fields, every name in the program of a tree gives the byte offsets of
a node that is no comment, unless it is that of a comment before the name in some `* as name`; such
a comment is what the export exports under. -/
theorem names_of_looseComments {source sourceName : Text} {tree : Tree} {parsed : Parsed}
    (read : parseTree source sourceName tree = .ok parsed) (loose : tree.CommentsLoose) :
    parsed.program.Everywhere (HasOrigin tree) ∧
    ((∀ t, tree.LeadsWildcard t → t.isSkipped = false) → parsed.program.Everywhere fun v =>
      v.isName → ∃ t ∈ tree.nodes, IsAt v t ∧ t.isSkipped = false) ∧
    ∀ t ∈ tree.statementNodes, ∀ star first, t.kind = "export_statement" →
      t.tokens.contains "default" = false → t.tokens.contains "=" = false →
      wildcard? t = some star →
      star.namedChildren.head? = some first →
      ∃ s ∈ parsed.statements, ∃ specifier, (s.field "specifiers").items = [specifier] ∧
        IsAt (specifier.field "exported") first := by
  obtain ⟨bytes, program, _, _, built, rfl⟩ := parseTree_eq_ok_iff.mp read
  have origins := (composedFor_program built).composed.everywhere_hasOrigin loose
  refine ⟨origins, fun clear => origins.imp fun v origin isName => ?_, ?_⟩
  · obtain ⟨t, member, place, plain | leads⟩ := origin isName
    · exact ⟨t, member, place, plain⟩
    · exact ⟨t, member, place, clear t leads⟩
  · intro t member star first kind noDefault noValue wildcard leads
    obtain ⟨body, each, whole⟩ := bind_eq_ok_iff.mp built
    cases whole
    obtain ⟨v, document⟩ := exists_ok_of_mapM_ok each member
    have listed : v ∈ body := (mem_of_mapM_ok each).mpr ⟨t, member, document⟩
    refine ⟨v, ?_, exported_of_wildcard kind noDefault noValue wildcard leads document⟩
    rw [Parsed.statements, Parsed.ofProgram, field_document _ _ _ _ (by decide)]
    simpa using listed

/-- The tree of `export * as ns from "m"` with comments: nodes behind `* as`, the offset at which
the last of them ends, and nodes behind that. -/
def wildcardExport (names : List Tree) (stop : Nat) (behind : List Tree) : Tree :=
  .onRow 0 0 "program" 0 31
    [.onRow 0 0 "export_statement" 0 31
      (.asToken (.onRow 0 0 "export" 0 6 []) ::
        .onRow 0 0 "namespace_export" 7 stop
          (.asToken (.onRow 0 0 "*" 7 8 []) :: .asToken (.onRow 0 0 "as" 9 11 []) :: names) ::
        (behind ++
          [.asToken (.onRow 0 0 "from" 23 27 []),
            .inField "source" (.onRow 0 0 "string" 28 31 [])]))]

def commentBeforeName : Tree :=
  wildcardExport [.onRow 0 0 "comment" 12 19 [], .onRow 0 0 "identifier" 20 22 []] 22 []

def commentBehindName : Tree :=
  wildcardExport [.onRow 0 0 "identifier" 12 14 []] 14 [.onRow 0 0 "comment" 15 22 []]

private theorem parseTree_commentBeforeName : ∃ parsed name,
    parseTree "export * as /* c */ ns from \"m\"" "a.ts" commentBeforeName = .ok parsed ∧
    parsed.program.parts.find? Value.isName = some name ∧
    name.field? "range" = some (.list [.nat 12, .nat 19]) := by
  let bytes : Bytes := [101, 120, 112, 111, 114, 116, 32, 42, 32, 97, 115, 32, 47, 42, 32,
    99, 32, 42, 47, 32, 110, 115, 32, 102, 114, 111, 109, 32, 34, 109, 34]
  have encoded : Utf8.encode? "export * as /* c */ ns from \"m\"" = some bytes := rfl
  obtain ⟨v, name, built, found, place⟩ : ∃ v name, program bytes commentBeforeName = .ok v ∧
      v.parts.find? Value.isName = some name ∧
      name.field? "range" = some (.list [.nat 12, .nat 19]) :=
    ⟨_, _, rfl, rfl, rfl⟩
  exact ⟨_, name, parseTree_eq_ok_iff.mpr ⟨bytes, v, encoded, rfl, built, rfl⟩, found, place⟩

/-- A comment behind the name in `* as name` gives no name, and one before it gives the exported
name. -/
theorem names_of_commentedWildcards :
    (∃ parsed, parseTree "export * as ns /* c */ from \"m\"" "a.ts" commentBehindName = .ok parsed ∧
      commentBehindName.CommentsLoose ∧ parsed.program.Everywhere fun v =>
        v.isName → ∃ t ∈ commentBehindName.nodes, IsAt v t ∧ t.isSkipped = false) ∧
    ∃ parsed, parseTree "export * as /* c */ ns from \"m\"" "a.ts" commentBeforeName = .ok parsed ∧
      commentBeforeName.CommentsLoose ∧ ∃ s ∈ parsed.statements, ∃ specifier,
        (s.field "specifiers").items = [specifier] ∧
        IsAt (specifier.field "exported") (.onRow 0 0 "comment" 12 19 []) := by
  constructor
  · let bytes : Bytes := [101, 120, 112, 111, 114, 116, 32, 42, 32, 97, 115, 32, 110, 115,
      32, 47, 42, 32, 99, 32, 42, 47, 32, 102, 114, 111, 109, 32, 34, 109, 34]
    have encoded : Utf8.encode? "export * as ns /* c */ from \"m\"" = some bytes := rfl
    obtain ⟨v, built⟩ : ∃ v, program bytes commentBehindName = .ok v := ⟨_, rfl⟩
    have read : parseTree _ "a.ts" _ = .ok _ :=
      parseTree_eq_ok_iff.mpr ⟨bytes, v, encoded, rfl, built, rfl⟩
    refine ⟨_, read, by decide, (names_of_looseComments read (by decide)).2.1 ?_⟩
    have plain : ∀ star ∈ commentBehindName.nodes, star.isKind "namespace_export" = true →
        ∀ t ∈ star.namedChildren.head?, t.isSkipped = false := by decide
    rintro t ⟨star, member, isStar, leads⟩
    exact plain star member isStar t leads
  · obtain ⟨parsed, _, read, _⟩ := parseTree_commentBeforeName
    refine ⟨_, read, by decide, ?_⟩
    exact (names_of_looseComments read (by decide)).2.2 _ (.head _) _ _ rfl rfl rfl rfl rfl

/-- In `export * as /* c */ ns from "m"` the comment is taken for a name. -/
theorem comment_taken_for_name :
    ¬∀ (source sourceName : Text) (tree : Tree) (parsed : Parsed),
      parseTree source sourceName tree = .ok parsed → tree.CommentsLoose →
        parsed.program.Everywhere fun v =>
          v.isName → ∃ t ∈ tree.nodes, IsAt v t ∧ t.isSkipped = false := by
  intro h
  obtain ⟨parsed, name, read, found, place⟩ := parseTree_commentBeforeName
  have isName := List.find?_some found
  obtain ⟨t, member, at_t, plain⟩ :=
    h _ _ _ _ read (by decide) name (List.mem_of_find?_eq_some found) isName
  have only : ∀ t ∈ commentBeforeName.nodes, t.label.start.offset = 12 → t.label.stop.offset = 19 →
      t.isSkipped = true := by decide
  have offsets := at_t.symm.trans place
  simp only [Option.some.injEq, Value.list.injEq, List.cons.injEq, Value.nat, Value.int.injEq,
    Int.natCast_inj] at offsets
  cases plain.symm.trans (only t member offsets.1 offsets.2.1)

end Concrete

end ExportList
