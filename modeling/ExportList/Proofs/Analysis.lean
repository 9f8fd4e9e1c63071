import ExportList.Proofs.Sequence
import ExportList.Report

/-!
What a report says of the statements of a program.  The names that could be exported are those that
an exportable declaration binds, the names that are missing are those of them that no export list
mentions, and a report fails exactly when one of these two collections does.
-/

set_option autoImplicit false

namespace ExportList

def IsIdentifier (node : Value) (name : Text) : Prop :=
  node.hasTag "Identifier" ∧ node.field "name" = .text name

def Binds (node : Value) (name : Text) : Prop :=
  if isVariableDeclaration node then
    ∃ declarator ∈ (node.field "declarations").items, IsIdentifier (declarator.field "id") name
  else (node.field "id").field "name" = .text name

/-- A statement without a declaration of its own exports a name by a specifier. -/
def Lists (statement : Value) (name : Text) : Prop :=
  statement.hasTag "ExportNamedDeclaration" ∧ (statement.field "declaration").isNull ∧
    ∃ specifier ∈ (statement.field "specifiers").items,
      IsIdentifier (specifier.field "local") name

def Value.text? : Value → Option Text
  | .text t => some t
  | _ => none

theorem Value.text?_eq_some_iff {v : Value} {t : Text} : v.text? = some t ↔ v = .text t := by
  cases v <;> simp [Value.text?]

/-- The bindings that a declaration makes, in order and with repetitions. -/
def bindingsOf (node : Value) : List Text :=
  if isVariableDeclaration node then
    (node.field "declarations").items.filterMap fun declarator =>
      ((declarator.field "id").field "name").text?
  else (((node.field "id").field "name").text?).toList

/-- The bindings that the exportable declarations of a program make, in program order. -/
def bindings (statements : List Value) : List Text :=
  (exportableStatements statements).flatMap bindingsOf

theorem identifierName_eq_ok_iff {node : Value} {name : Text} :
    identifierName node = .ok name ↔ node.field "name" = .text name := by
  unfold identifierName
  split
  · rename_i t h
    simp [h]
  · rename_i h
    simp only [reduceCtorEq, false_iff]
    exact h name

theorem declaratorName_eq_ok_iff {declarator : Value} {name : Text} :
    declaratorName declarator = .ok name ↔ IsIdentifier (declarator.field "id") name := by
  unfold declaratorName IsIdentifier
  by_cases h : (declarator.field "id").hasTag "Identifier"
  · simp only [h, if_true, true_and, identifierName_eq_ok_iff]
  · simp [h]

/-- A declaration whose names can be told tells exactly the names it binds. -/
theorem mem_of_boundNames_ok {node : Value} {names : List Text} (h : boundNames node = .ok names)
    {name : Text} : name ∈ names ↔ Binds node name := by
  unfold boundNames at h
  unfold Binds
  by_cases v : isVariableDeclaration node
  · simp only [v, if_true] at h ⊢
    simp only [mem_of_mapM_ok h, declaratorName_eq_ok_iff]
  · simp only [v, Bool.false_eq_true, if_false] at h ⊢
    split at h
    · rename_i bound hb
      cases h
      simp [hb, eq_comm]
    · cases h

private theorem bindingsOf_eq {node : Value} {names : List Text}
    (h : boundNames node = .ok names) : bindingsOf node = names := by
  unfold boundNames at h
  unfold bindingsOf
  by_cases v : isVariableDeclaration node
  · simp only [v, if_true] at h ⊢
    apply filterMap_eq_of_mapM_ok h
    intro declarator name hd
    simp only [(declaratorName_eq_ok_iff.mp hd).2, Value.text?]
  · simp only [v, Bool.false_eq_true, if_false] at h ⊢
    split at h
    · rename_i bound hb
      cases h
      simp [hb, Value.text?]
    · cases h

/-- The names that could be exported are the bindings, each once. -/
theorem exportableNames_eq_bindings {statements : List Value} {names : List Text}
    (h : exportableNames statements = .ok names) : names = (bindings statements).eraseDups := by
  unfold exportableNames boundNamesOfAll at h
  obtain ⟨parts, hp, rfl⟩ := map_eq_ok_iff.mp h
  have each := map_eq_of_mapM_ok hp fun _ _ => bindingsOf_eq
  rw [bindings, List.flatMap_def, each]

theorem mem_of_exportableNames_ok {statements : List Value} {names : List Text}
    (h : exportableNames statements = .ok names) {name : Text} :
    name ∈ names ↔ ∃ s ∈ statements, isExportableStatement s ∧ Binds s name := by
  unfold exportableNames boundNamesOfAll at h
  obtain ⟨parts, hp, rfl⟩ := map_eq_ok_iff.mp h
  rw [List.mem_eraseDups, mem_flatten_of_mapM_ok hp]
  constructor
  · rintro ⟨s, hs, bound, hb, hn⟩
    obtain ⟨hs, he⟩ := List.mem_filter.mp hs
    exact ⟨s, hs, he, (mem_of_boundNames_ok hb).mp hn⟩
  · rintro ⟨s, hs, he, hn⟩
    have hs : s ∈ exportableStatements statements := List.mem_filter.mpr ⟨hs, he⟩
    obtain ⟨bound, hb⟩ := exists_ok_of_mapM_ok hp hs
    exact ⟨s, hs, bound, hb, (mem_of_boundNames_ok hb).mpr hn⟩

private theorem mem_of_specifierNames_ok {specifier : Value} {names : List Text}
    (h : specifierNames specifier = .ok names) {name : Text} :
    name ∈ names ↔ IsIdentifier (specifier.field "local") name := by
  unfold specifierNames at h
  unfold IsIdentifier
  by_cases t : (specifier.field "local").hasTag "Identifier"
  · simp only [t, if_true] at h
    obtain ⟨inner, hi, rfl⟩ := map_eq_ok_iff.mp h
    rw [identifierName_eq_ok_iff] at hi
    simp [t, hi, eq_comm]
  · simp only [t, Bool.false_eq_true, if_false, Except.ok.injEq] at h
    simp [t, ← h]

theorem mem_of_listedNames_ok {statement : Value} {names : List Text}
    (h : listedNames statement = .ok names) {name : Text} :
    name ∈ names ↔ ∃ specifier ∈ (statement.field "specifiers").items,
      IsIdentifier (specifier.field "local") name := by
  obtain ⟨parts, hp, rfl⟩ := map_eq_ok_iff.mp h
  rw [mem_flatten_of_mapM_ok hp]
  constructor
  · rintro ⟨specifier, hs, bs, hb, hn⟩
    exact ⟨specifier, hs, (mem_of_specifierNames_ok hb).mp hn⟩
  · rintro ⟨specifier, hs, hn⟩
    obtain ⟨bs, hb⟩ := exists_ok_of_mapM_ok hp hs
    exact ⟨specifier, hs, bs, hb, (mem_of_specifierNames_ok hb).mpr hn⟩

theorem mem_of_exportedNames_ok {statements : List Value} {names : List Text}
    (h : exportedNames statements = .ok names) {name : Text} :
    name ∈ names ↔ ∃ s ∈ statements, Lists s name := by
  obtain ⟨parts, hp, rfl⟩ := map_eq_ok_iff.mp h
  rw [List.mem_eraseDups, mem_flatten_of_mapM_ok hp]
  constructor
  · rintro ⟨s, hs, listed, hl, hn⟩
    obtain ⟨hs, he⟩ := List.mem_filter.mp hs
    simp only [isExportList, Bool.and_eq_true] at he
    exact ⟨s, hs, he.1.1, he.1.2, (mem_of_listedNames_ok hl).mp hn⟩
  · rintro ⟨s, hs, ht, hd, specifier, hm, hn⟩
    -- A statement that lists a name has a specifier, so it counts as an export list.
    have some : ((s.field "specifiers").items.isEmpty) = false := by
      rw [List.isEmpty_eq_false_iff]
      exact List.ne_nil_of_mem hm
    have he : isExportList s = true := by simp [isExportList, ht, hd, some]
    have hs : s ∈ exportLists statements := List.mem_filter.mpr ⟨hs, he⟩
    obtain ⟨listed, hl⟩ := exists_ok_of_mapM_ok hp hs
    exact ⟨s, hs, listed, hl, (mem_of_listedNames_ok hl).mpr ⟨specifier, hm, hn⟩⟩

theorem nodup_of_exportableNames_ok {statements : List Value} {names : List Text}
    (h : exportableNames statements = .ok names) : names.Nodup := by
  rw [exportableNames_eq_bindings h]
  exact nodup_eraseDups _

theorem nodup_of_exportedNames_ok {statements : List Value} {names : List Text}
    (h : exportedNames statements = .ok names) : names.Nodup := by
  obtain ⟨parts, _, rfl⟩ := map_eq_ok_iff.mp h
  exact nodup_eraseDups _

/-- The missing names are known as soon as both other collections are. -/
theorem missingNames_eq_filter {statements : List Value} {names exported : List Text}
    (hn : exportableNames statements = .ok names) (he : exportedNames statements = .ok exported) :
    missingNames statements = .ok (names.filter fun name => !exported.contains name) := by
  simp only [missingNames, he, hn]
  rfl

theorem exists_of_missingNames_ok {statements : List Value} {missing : List Text}
    (h : missingNames statements = .ok missing) :
    ∃ names exported, exportableNames statements = .ok names ∧
      exportedNames statements = .ok exported ∧
        missing = names.filter fun name => !exported.contains name := by
  obtain ⟨exported, he, rest⟩ := bind_eq_ok_iff.mp h
  obtain ⟨names, hn, _⟩ := bind_eq_ok_iff.mp rest
  exact ⟨names, exported, hn, he, Except.ok.inj (h.symm.trans (missingNames_eq_filter hn he))⟩

theorem mem_of_missingNames_ok {statements : List Value} {missing : List Text}
    (h : missingNames statements = .ok missing) {name : Text} :
    name ∈ missing ↔
      (∃ s ∈ statements, isExportableStatement s ∧ Binds s name) ∧
        ¬∃ s ∈ statements, Lists s name := by
  obtain ⟨names, exported, hn, he, rfl⟩ := exists_of_missingNames_ok h
  rw [← mem_of_exportableNames_ok hn, ← mem_of_exportedNames_ok he]
  simp

theorem nodup_of_missingNames_ok {statements : List Value} {missing : List Text}
    (h : missingNames statements = .ok missing) : missing.Nodup := by
  obtain ⟨names, exported, hn, _, rfl⟩ := exists_of_missingNames_ok h
  rw [exportableNames_eq_bindings hn]
  exact (nodup_eraseDups (bindings statements)).filter _

/-- What a report on statements without faults says of them. -/
structure Report.Describes (r : Report) (statements : List Value) (options : RenderOptions) :
    Prop where
  exportable_eq : exportableNames statements = .ok r.exportable
  exported_eq : exportedNames statements = .ok r.exported
  missing_eq : missingNames statements = .ok r.missing
  exportable_nodup : r.exportable.Nodup
  exported_nodup : r.exported.Nodup
  missing_nodup : r.missing.Nodup
  missing_sublist : r.missing.Sublist r.exportable
  mem_missing : ∀ name, name ∈ r.missing ↔
    (∃ s ∈ statements, isExportableStatement s ∧ Binds s name) ∧ ¬∃ s ∈ statements, Lists s name
  /-- The names stand in the order of their first bindings. -/
  missing_order : r.missing.Pairwise fun x y =>
    (bindings statements).idxOf x < (bindings statements).idxOf y
  statement_none : r.statement = none ↔ r.missing = []
  statement_some : r.missing ≠ [] → r.statement = some (renderExport r.missing options)

theorem report_eq_of_ok (options : RenderOptions) {parsed : Parsed}
    {names exported : List Text} (hn : exportableNames parsed.statements = .ok names)
    (he : exportedNames parsed.statements = .ok exported) :
    ∃ r, report options parsed = .ok r ∧ r.Describes parsed.statements options := by
  have hm := missingNames_eq_filter hn he
  have order := exportableNames_eq_bindings hn ▸
    pairwise_idxOf_eraseDups (bindings parsed.statements)
  have nodup := exportableNames_eq_bindings hn ▸ nodup_eraseDups (bindings parsed.statements)
  set missing := names.filter fun name => !exported.contains name with missing_def
  have sub : missing.Sublist names := List.filter_sublist
  refine ⟨⟨parsed, names, exported, missing,
    if missing.isEmpty then none else some (renderExport missing options)⟩, ?_, ?_⟩
  · simp only [report, hn, he, hm]
    rfl
  · refine
      { exportable_eq := hn
        exported_eq := he
        missing_eq := hm
        exportable_nodup := nodup
        exported_nodup := nodup_of_exportedNames_ok he
        missing_nodup := nodup.sublist sub
        missing_sublist := sub
        mem_missing := fun _ => mem_of_missingNames_ok hm
        missing_order := order.sublist sub
        statement_none := ?_
        statement_some := ?_ }
    · simp
    · intro some
      simp [some]

theorem describes_of_report_ok {options : RenderOptions} {parsed : Parsed} {r : Report}
    (h : report options parsed = .ok r) : r.Describes parsed.statements options := by
  obtain ⟨names, hn, rest⟩ := bind_eq_ok_iff.mp h
  obtain ⟨exported, he, _⟩ := bind_eq_ok_iff.mp rest
  obtain ⟨r', hr, described⟩ := report_eq_of_ok options hn he
  cases h.symm.trans hr
  exact described

/-- A report fails with the error of the exportable names if these cannot be told and else with that
of the exported ones, and if both can be told it describes the statements. -/
theorem report_consistent (options : RenderOptions) (parsed : Parsed) :
    ((∃ r, report options parsed = .ok r) ↔
      (∃ names, exportableNames parsed.statements = .ok names) ∧
        ∃ names, exportedNames parsed.statements = .ok names) ∧
    (∀ e, report options parsed = .error e ↔
      exportableNames parsed.statements = .error e ∨
        (∃ names, exportableNames parsed.statements = .ok names) ∧
          exportedNames parsed.statements = .error e) ∧
    ∀ r, report options parsed = .ok r → r.Describes parsed.statements options := by
  cases hn : exportableNames parsed.statements with
  | error e =>
    have failed : report options parsed = .error e := by
      simp only [report, hn]
      rfl
    simp [failed]
  | ok names =>
    cases he : exportedNames parsed.statements with
    | error e =>
      have failed : report options parsed = .error e := by
        simp only [report, hn, he]
        rfl
      simp [failed]
    | ok exported =>
      obtain ⟨r, hr, described⟩ := report_eq_of_ok options hn he
      refine ⟨by simp [hr], by simp [hr], ?_⟩
      intro r' hr'
      cases hr.symm.trans hr'
      exact described

end ExportList
