import ExportList.Proofs.Concrete.Embedding
import ExportList.Proofs.Concrete.Faults
import ExportList.Proofs.Concrete.Names
import ExportList.Report

/-!
Comments put into a tree, anywhere among the children of its nodes.  They can change documents: the
first word of a declaration of variables, the name in `* as name`, and whether a namespace is told
from an expression.  They change nothing of what is found out about the names of a document.
-/

set_option autoImplicit false

namespace ExportList

def Report.findings (r : Report) : List Text × List Text × List Text × Option Text :=
  (r.exportable, r.exported, r.missing, r.statement)

theorem report_alike {parsed parsed' : Parsed} (options : RenderOptions)
    (h : List.Forall₂ Alike parsed.statements parsed'.statements) :
    Agree NameError.SameKind ((report options parsed).map Report.findings)
      ((report options parsed').map Report.findings) := by
  simp only [report, map_bind, exportedNames_alike h]
  refine (exportableNames_alike h).bind fun exportable => ?_
  refine (Agree.refl NameError.SameKind.refl _).bind fun exported => ?_
  exact (missingNames_alike h).bind fun missing => rfl

namespace Concrete

namespace Tree

/-- A comment that can be put into a tree of a document: it is in no field, unflagged and without
children, and begins and ends between characters. -/
structure IsComment (source : Text) (t : Tree) : Prop where
  label : t.label.IsRemark
  unflagged : (t.label.isError || t.label.isMissing || t.label.hasError) = false
  leaf : t.children = []
  start : source.IsBoundary t.label.start.offset
  stop : source.IsBoundary t.label.stop.offset

/-- A tree becomes another one when comments are put among the children of its nodes. -/
inductive Commented (source : Text) : Tree → Tree → Prop
  | node {label : Label} {children children' : List Tree}
    (below : Interspersed (IsComment source) (Commented source) children children') :
    Commented source (.node label children) (.node label children')

theorem Commented.refl {source : Text} (t : Tree) : t.Commented source t := by
  induction t using Tree.induct with
  | node label children ih => exact .node (.refl ih)

theorem Commented.embeds {source : Text} {bytes : Bytes} {t t' : Tree}
    (encoded : Utf8.encode? source = some bytes) (h : t.Commented source t') :
    t.Embeds bytes bytes t' := by
  induction t using Tree.induct generalizing t' with
  | node label children ih =>
    cases h with
    | node below =>
      refine .node rfl (below.imp_of_mem ?_ fun child member child' => ih child member)
      intro comment isComment
      exact ⟨isComment.label, _, Spans.text encoded ⟨isComment.start, isComment.stop, rfl⟩⟩

end Tree

/-- Comments anywhere in a tree that can be read change neither its kind of program nor its names,
nor the kind of the error where these cannot be told. -/
theorem analysis_of_commented {source sourceName : Text} {tree tree' : Tree} {parsed : Parsed}
    (read : parseTree source sourceName tree = .ok parsed)
    (commented : tree.Commented source tree') :
    ∃ parsed', parseTree source sourceName tree' = .ok parsed' ∧
      parsed'.sourceType = parsed.sourceType ∧
      Agree NameError.SameKind (exportableNames parsed.statements)
        (exportableNames parsed'.statements) ∧
      Agree NameError.SameKind (exportedNames parsed.statements)
        (exportedNames parsed'.statements) ∧
      Agree NameError.SameKind (missingNames parsed.statements) (missingNames parsed'.statements) ∧
      ∀ options, Agree NameError.SameKind ((report options parsed).map Report.findings)
        ((report options parsed').map Report.findings) := by
  obtain ⟨bytes, encoded, faultless, each⟩ := of_parseTree_ok read
  have embeds := commented.embeds encoded
  obtain ⟨body, each', alike⟩ := embeds.statements_follow _ each
  -- whether a tree is refused is decided by the label of its root
  have faultless' : tree'.firstFault? = none := by
    rw [Tree.firstFault?_eq_none_iff, Tree.isFlagged] at faultless ⊢
    rwa [embeds.label]
  obtain ⟨parsed', read', rfl⟩ := parseTree_ok sourceName encoded faultless' each'
  refine ⟨parsed', read', ?_, exportableNames_alike alike, ?_, missingNames_alike alike,
    fun options => report_alike options alike⟩
  · rw [sourceType_of_parseTree read, sourceType_of_parseTree read', sourceType_alike alike]
  · rw [exportedNames_alike alike]
    exact .refl NameError.SameKind.refl _

/-- The tree of `/*c*/let a;namespace N{}/*c*/`, with nodes before the word `let` and behind the
namespace. -/
def variableAndNamespace (before behind : List Tree) : Tree :=
  .onRow 0 0 "program" 0 29
    [.onRow 0 0 "lexical_declaration" 5 11 (before ++
      [.asToken (.onRow 0 0 "let" 5 8 []),
        .onRow 0 0 "variable_declarator" 9 10 [.inField "name" (.onRow 0 0 "identifier" 9 10 [])],
        .asToken (.onRow 0 0 ";" 10 11 [])]),
      .onRow 0 0 "expression_statement" 11 29 (
        .onRow 0 0 "internal_module" 11 24
          [.asToken (.onRow 0 0 "namespace" 11 20 []),
            .inField "name" (.onRow 0 0 "identifier" 21 22 []),
            .inField "body" (.onRow 0 0 "statement_block" 22 24 [])] :: behind)]

/-- The same with its comments: the first word of the declaration is read from one, and for the
other the namespace is taken for an expression. -/
def commentedNamespace : Tree :=
  variableAndNamespace [.onRow 0 0 "comment" 0 5 []] [.onRow 0 0 "comment" 24 29 []]

theorem analysis_of_commentedNamespace :
    ∃ parsed parsed',
      parseTree "/*c*/let a;namespace N{}/*c*/" "a.ts" (variableAndNamespace [] []) = .ok parsed ∧
      (variableAndNamespace [] []).Commented "/*c*/let a;namespace N{}/*c*/" commentedNamespace ∧
      parseTree "/*c*/let a;namespace N{}/*c*/" "a.ts" commentedNamespace = .ok parsed' ∧
      parsed'.sourceType = .script ∧ missingNames parsed'.statements = .ok ["a"] := by
  let bytes : Bytes := [47, 42, 99, 42, 47, 108, 101, 116, 32, 97, 59, 110, 97, 109, 101, 115,
    112, 97, 99, 101, 32, 78, 123, 125, 47, 42, 99, 42, 47]
  have encoded : Utf8.encode? "/*c*/let a;namespace N{}/*c*/" = some bytes := rfl
  obtain ⟨v, built, names, kind⟩ : ∃ v, program bytes (variableAndNamespace [] []) = .ok v ∧
      missingNames (v.field "body").items = .ok ["a"] ∧
      sourceType (v.field "body").items = .script :=
    ⟨_, rfl, rfl, rfl⟩
  have read : parseTree _ "a.ts" _ = .ok _ :=
    parseTree_eq_ok_iff.mpr ⟨bytes, v, encoded, rfl, built, rfl⟩
  have first : Tree.IsComment "/*c*/let a;namespace N{}/*c*/" (.onRow 0 0 "comment" 0 5 []) :=
    ⟨⟨rfl, by decide, rfl⟩, rfl, rfl, by decide, by decide⟩
  have last : Tree.IsComment "/*c*/let a;namespace N{}/*c*/" (.onRow 0 0 "comment" 24 29 []) :=
    ⟨⟨rfl, by decide, rfl⟩, rfl, rfl, by decide, by decide⟩
  have commented : (variableAndNamespace [] []).Commented "/*c*/let a;namespace N{}/*c*/"
      commentedNamespace := by
    refine .node (.keep (.node (.insert first (.refl fun t _ => .refl t))) (.keep (.node ?_) .nil))
    exact .keep (.refl _) (.insert last .nil)
  obtain ⟨parsed', read', sameKind, _, _, missing, _⟩ := analysis_of_commented read commented
  exact ⟨_, parsed', read, commented, read', sameKind.trans kind, missing.ok names⟩

end Concrete

end ExportList
