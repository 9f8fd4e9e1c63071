import ExportList.Proofs.Concrete.Extension
import ExportList.Proofs.Concrete.Names
import ExportList.Proofs.Effects

/-!
Writing missing names back to a file.  A run that appends the export of the missing names leaves a
file in which none is missing: what was declared and exported before still is, since the nodes of
the old text read the same in the new one, and the new statement lists the names that were missing.
So the next run changes nothing.
-/

set_option autoImplicit false

namespace ExportList

namespace Concrete

/-- A specifier of an export list mentions a name by an identifier; what it is exported as, if that
is written, can be read too. -/
def Tree.Mentions (source : Text) (specifier : Tree) (name : Text) : Prop :=
  (∃ child, specifier.child? "name" = some child ∧ child.isKind "identifier" ∧
    child.Spans source name) ∧
  ∀ child, specifier.child? "alias" = some child → ∃ text, child.Spans source text

/-- A node is an export that consists of a list of names. -/
structure Tree.Exports (source : Text) (names : List Text) (t : Tree) : Prop where
  kind : t.kind = "export_statement"
  declaration : t.child? "declaration" = none
  origin : t.child? "source" = none
  tokens : ∀ token ∈ ["default", "=", "*", "namespace"], Text.ofString token ∉ t.tokens
  wildcard : wildcard? t = none
  clause : ∃ clause, clause? t = some clause ∧
    List.Forall₂ (Tree.Mentions source) clause.specifierNodes names

section NewStatement

variable {source : Text} {bytes : Bytes}

private theorem exportSpecifier_of_mentions {specifier : Tree} {name : Text}
    (encoded : Utf8.encode? source = some bytes) (h : specifier.Mentions source name) :
    ∃ v, exportSpecifier bytes specifier = .ok v ∧ specifierNames v = .ok [name] := by
  obtain ⟨⟨child, named, kind, spans⟩, exposes⟩ := h
  have plain : child.isKind "string" = false := by
    rw [Tree.isKind, decide_eq_true_eq] at kind
    rw [Tree.isKind, kind]
    decide
  have inner : identifier? bytes (specifier.child? "name") =
      .ok (document bytes child.label "Identifier" [("name", .text name)]) := by
    rw [named, identifier?, identifier_of_text (spans.text encoded), plain]
    rfl
  have outer : ∃ v, identifier? bytes ((specifier.child? "alias").or (specifier.child? "name")) =
      .ok v := by
    cases written : specifier.child? "alias" with
    | none =>
      rw [Option.none_or]
      exact ⟨_, inner⟩
    | some exposed =>
      obtain ⟨text, spans'⟩ := exposes exposed written
      exact ⟨_, identifier_of_text (spans'.text encoded)⟩
  obtain ⟨exposed, outer⟩ := outer
  refine ⟨_, bind_eq_ok_iff.mpr ⟨_, inner, bind_eq_ok_iff.mpr ⟨_, outer, rfl⟩⟩, ?_⟩
  rw [specifierNames, field_document _ _ _ _ (by decide)]
  simp [Value.hasTag, Value.isText, identifierName, Except.map]

private theorem specifiers_of_mentions {specifiers : List Tree} {names : List Text}
    (encoded : Utf8.encode? source = some bytes)
    (h : List.Forall₂ (Tree.Mentions source) specifiers names) :
    ∃ vs, specifiers.mapM (exportSpecifier bytes) = .ok vs ∧
      vs.mapM specifierNames = .ok (names.map fun name => [name]) := by
  induction h with
  | nil => exact ⟨[], rfl, rfl⟩
  | cons first _ ih =>
    obtain ⟨v, hv, listed⟩ := exportSpecifier_of_mentions encoded first
    obtain ⟨vs, hvs, rest⟩ := ih
    rw [mapM_eq_ok_iff] at hvs rest
    exact ⟨v :: vs, mapM_eq_ok_iff.mpr (.cons hv hvs), mapM_eq_ok_iff.mpr (.cons listed rest)⟩

/-- An export of a list of names adds these, and nothing that could be exported. -/
theorem Tree.Exports.statement_ok {t : Tree} {names : List Text} (h : t.Exports source names)
    (encoded : Utf8.encode? source = some bytes) :
    ∃ v, statement bytes t = .ok v ∧ exportableIn v = .ok [] ∧ exportedIn v = .ok names := by
  obtain ⟨clause, hc, mentions⟩ := h.clause
  obtain ⟨vs, hvs, listed⟩ := specifiers_of_mentions encoded mentions
  have form : Form.ofKind t.kind = .exportStatement := by
    rw [h.kind]
    rfl
  have absent : ∀ token ∈ ["default", "=", "*", "namespace"],
      t.tokens.contains (Text.ofString token) = false := by
    intro token member
    simpa using h.tokens token member
  have specifiers : specifiersOf bytes t = .ok vs := by
    rw [specifiersOf, h.wildcard, hc]
    exact hvs
  have built : statement bytes t = .ok (document bytes t.label "ExportNamedDeclaration"
      [("declaration", .null), ("specifiers", .list vs), ("source", .null),
        ("exportKind", exportKind t)]) := by
    rw [statement_eq_assemble, assemble, form]
    simp only [exportStatement_eq, absent "default" (by simp), absent "=" (by simp),
      absent "*" (by simp), absent "namespace" (by simp), h.declaration, h.origin, specifiers]
    rfl
  refine ⟨_, built, exportableIn_of_tag (tag_document _ _ _ _) (by decide), ?_⟩
  rw [exportedIn_document _ _ _ _ listed]
  simp [Value.isNull, ← List.flatMap_def]

end NewStatement

end Concrete

/-- Behind statements that look like those from which names are missing, an export of these names
leaves none missing. -/
theorem missingNames_append_export {before after : List Value} {added : Value}
    {missing : List Text} (alike : List.Forall₂ Alike before after)
    (names : missingNames before = .ok missing) (exportable : exportableIn added = .ok [])
    (exported : exportedIn added = .ok missing) : missingNames (after ++ [added]) = .ok [] := by
  obtain ⟨listed, hl, names⟩ := bind_eq_ok_iff.mp names
  obtain ⟨declared, hd, names⟩ := bind_eq_ok_iff.mp names
  cases names
  have hd' := (exportableNames_alike alike).ok hd
  rw [exportedNames_alike alike] at hl
  rw [exportableNames_eq] at hd'
  rw [exportedNames_eq] at hl
  obtain ⟨parts, hp, same⟩ := map_eq_ok_iff.mp hd'
  obtain ⟨parts', hp', rfl⟩ := map_eq_ok_iff.mp hl
  have declared' : exportableNames (after ++ [added]) = .ok declared := by
    rw [exportableNames_eq]
    refine map_eq_ok_iff.mpr ⟨_, mapM_append_singleton_ok hp exportable, ?_⟩
    simpa using same
  set missing := declared.filter fun name => !parts'.flatten.eraseDups.contains name
  have listed' : exportedNames (after ++ [added]) =
      .ok (parts' ++ [missing]).flatten.eraseDups := by
    rw [exportedNames_eq]
    exact map_eq_ok_iff.mpr ⟨_, mapM_append_singleton_ok hp' exported, rfl⟩
  rw [missingNames_eq_filter declared' listed', Except.ok.injEq, List.filter_eq_nil_iff]
  intro name member
  simp only [Bool.not_eq_true', Bool.not_eq_false, List.contains_iff_mem, List.mem_eraseDups,
    List.flatten_append, List.mem_append, List.flatten_singleton]
  -- a declared name was listed before, or it was missing and is listed now
  by_cases listedBefore : name ∈ parts'.flatten
  · exact .inl listedBefore
  · exact .inr (List.mem_filter.mpr ⟨member, by simpa using listedBefore⟩)

namespace Command

/-- A request to write the missing names of a file back to it, read as TypeScript; names that are
listed already are left out, and no result is kept. -/
structure WriteBack extends ScanRequest where
  write : settings.write = true
  missingOnly : settings.all = false
  uncached : settings.cacheDirectory = none
  typescript : dialectOrDefault settings.dialect = .typescript

namespace WriteBack

def jsx (w : WriteBack) : Bool := w.settings.jsx || impliesJsx w.path

def statement (w : WriteBack) (names : List Text) : Text :=
  renderExport names { semicolon := w.settings.semicolon }

variable (w : WriteBack) (trees : TreeSource) {s : Store}

/-- A run on a file that can be read delivers its missing names. -/
theorem outcome_eq_deliver {source : Text} {parsed : Parsed} {missing : List Text}
    (read : s.readText w.path = .ok source)
    (parse : parseTree source w.path.text (trees w.jsx source) = .ok parsed)
    (names : missingNames parsed.statements = .ok missing) :
    ∃ events, w.outcome trees s = deliver s w.settings w.path events missing := by
  obtain ⟨listed, hl, rest⟩ := bind_eq_ok_iff.mp names
  obtain ⟨declared, hd, _⟩ := bind_eq_ok_iff.mp rest
  obtain ⟨r, hr, described⟩ := report_eq_of_ok { semicolon := w.settings.semicolon } hd hl
  have same : r.missing = missing := Except.ok.inj (described.missing_eq.symm.trans names)
  have parse' : (w.document source).parse trees = .ok parsed := by
    simp only [ScanRequest.document, Document.parse, w.typescript]
    exact parse
  have uncached : w.cache = none := by
    rw [ScanRequest.cache, w.uncached]
    rfl
  have reported : w.reported trees s source = (s, .ok r) := by
    simp only [ScanRequest.reported, Store.report, parse', uncached, ScanRequest.options, hr]
  obtain ⟨events, ended⟩ := w.outcome_of_report trees read reported
  refine ⟨events, ended.trans ?_⟩
  rw [ScanRequest.selected, w.missingOnly, ← same]
  rfl

/-- A run that exits in good order has put the export of the missing names behind the file. -/
theorem readText_outcome {source : Text} {parsed : Parsed} {missing : List Text}
    (read : s.readText w.path = .ok source)
    (parse : parseTree source w.path.text (trees w.jsx source) = .ok parsed)
    (names : missingNames parsed.statements = .ok missing) (nonempty : missing ≠ [])
    (noReturn : ∀ name ∈ missing, CodePoint.ofChar '\r' ∉ name)
    (exit : (w.outcome trees s).ending = .exit 0) :
    (∃ added, Utf8.encode? (statementLine source (w.statement missing)) = some added) ∧
      (w.outcome trees s).store.readText w.path =
        .ok (source ++ statementLine source (w.statement missing)) := by
  obtain ⟨events, delivered⟩ := w.outcome_eq_deliver trees read parse names
  have some : missing.isEmpty = false := by simpa using nonempty
  rw [delivered] at exit ⊢
  simp only [deliver, some, w.write] at exit ⊢
  rw [show renderExport missing _ = w.statement missing from rfl] at exit ⊢
  cases appended : s.appendStatement w.path (w.statement missing) with
  | mk s' result =>
    cases result with
    | error e =>
      rw [appended] at exit
      cases exit
    | ok =>
      obtain ⟨bytes, added, _, encoded, _⟩ := Store.appendStatement_eq_ok read appended
      have head := head?_renderExport missing { semicolon := w.settings.semicolon }
      refine ⟨⟨added, encoded⟩, Store.readText_appendStatement read appended
        (noReturn_renderExport _ noReturn) ?_ ?_⟩
      · rw [statement, head]
        decide
      · exact Text.dropTrailing_ne_nil (List.mem_of_head? head) (by decide)

/-- Once the missing names of a file have been written back to it, none is missing: if the tree of
the new text has the statements of the old one, and behind them an export of these names, then a
second run exits in good order, prints nothing, says that there is nothing to export, and leaves all
files as they are. -/
theorem second_run_unchanged {before after : Text} {parsed : Parsed} {missing : List Text}
    {added : Concrete.Tree} (read : s.readText w.path = .ok before)
    (within : (trees w.jsx before).Within before.width)
    (parse : parseTree before w.path.text (trees w.jsx before) = .ok parsed)
    (names : missingNames parsed.statements = .ok missing) (nonempty : missing ≠ [])
    (noReturn : ∀ name ∈ missing, CodePoint.ofChar '\r' ∉ name)
    (exit : (w.outcome trees s).ending = .exit 0)
    (reread : (w.outcome trees s).store.readText w.path = .ok after)
    (faultless : (trees w.jsx after).firstFault? = none)
    (nodes : (trees w.jsx after).statementNodes = (trees w.jsx before).statementNodes ++ [added])
    (exports : added.Exports after missing) :
    (w.outcome trees (w.outcome trees s).store).ending = .exit 0 ∧
      (w.outcome trees (w.outcome trees s).store).output = [] ∧
      (w.outcome trees (w.outcome trees s).store).notice =
        "INFO " ++ w.path.text ++ ": nothing to export\n" ∧
      (w.outcome trees (w.outcome trees s).store).store = (w.outcome trees s).store := by
  obtain ⟨⟨more, encodedLine⟩, reread'⟩ :=
    w.readText_outcome trees read parse names nonempty noReturn exit
  cases reread.symm.trans reread'
  obtain ⟨bytes, encoded, _, statements⟩ := Concrete.of_parseTree_ok parse
  have encoded' : Utf8.encode? (before ++ statementLine before (w.statement missing)) =
      some (bytes ++ more) :=
    Utf8.encode?_append_eq_some_iff.mpr ⟨bytes, more, encoded, encodedLine, rfl⟩
  obtain ⟨last, hl, exportable, exported⟩ := exports.statement_ok encoded'
  rw [← Utf8.length_of_encode? encoded] at within
  -- the old nodes read the same, so their statements look alike in the longer text
  obtain ⟨statements', hs, alike⟩ : ∃ statements',
      (trees w.jsx before).statementNodes.mapM (Concrete.statement (bytes ++ more)) =
        .ok statements' ∧ List.Forall₂ Alike parsed.statements statements' := by
    refine Follows.mapM (fun t ht => Concrete.statement_follows ?_) _ statements
    exact (within.readsAlike more).child (Concrete.Tree.mem_children_of_statementNodes ht)
  have body := mapM_append_singleton_ok hs hl
  rw [← nodes] at body
  obtain ⟨parsed', parse', same⟩ := Concrete.parseTree_ok w.path.text encoded' faultless body
  have none := missingNames_append_export alike names exportable exported
  rw [← same] at none
  obtain ⟨events, second⟩ := w.outcome_eq_deliver trees reread parse' none
  rw [second]
  exact ⟨rfl, rfl, rfl, rfl⟩

/-- The request `scan /a.ts --write` is one to write back. -/
def ofScan : WriteBack where
  toScanRequest := .ofWrite
  write := rfl
  missingOnly := rfl
  uncached := rfl
  typescript := rfl

open ScanRequest (exportTree variableTrees variableStore)

private theorem exports_exportTree :
    exportTree.Exports "let é\nexport \x7b é \x7d\n" ["é"] where
  kind := rfl
  declaration := rfl
  origin := rfl
  tokens := by decide
  wildcard := rfl
  clause := by
    refine ⟨_, rfl, .cons ⟨⟨_, rfl, rfl, by decide, by decide, rfl⟩, ?_⟩ .nil⟩
    intro child unwritten
    cases unwritten

theorem second_run_unchanged_variable :
    (ofScan.outcome variableTrees (ofScan.outcome variableTrees variableStore).store).ending =
        .exit 0 ∧
      (ofScan.outcome variableTrees (ofScan.outcome variableTrees variableStore).store).output =
        [] ∧
      (ofScan.outcome variableTrees (ofScan.outcome variableTrees variableStore).store).notice =
        "INFO " ++ ofScan.path.text ++ ": nothing to export\n" ∧
      (ofScan.outcome variableTrees (ofScan.outcome variableTrees variableStore).store).store =
        (ofScan.outcome variableTrees variableStore).store := by
  have read : variableStore.readText ofScan.path = .ok "let é\n" := by rfl
  have within : (variableTrees ofScan.jsx "let é\n").Within (Text.width "let é\n") := by decide
  obtain ⟨parsed, parse, names⟩ : ∃ parsed,
      parseTree "let é\n" ofScan.path.text (variableTrees ofScan.jsx "let é\n") = .ok parsed ∧
        missingNames parsed.statements = .ok ["é"] := ⟨_, rfl, rfl⟩
  obtain ⟨events, delivered⟩ := ofScan.outcome_eq_deliver variableTrees read parse names
  have exit : (ofScan.outcome variableTrees variableStore).ending = .exit 0 := by
    rw [delivered]
    rfl
  have reread : (ofScan.outcome variableTrees variableStore).store.readText ofScan.path =
      .ok "let é\nexport \x7b é \x7d\n" := by
    rw [delivered]
    rfl
  exact ofScan.second_run_unchanged variableTrees read within parse names (by decide) (by decide)
    exit reread rfl rfl exports_exportTree

end WriteBack

end Command

end ExportList
