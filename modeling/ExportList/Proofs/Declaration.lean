import ExportList.Proofs.Exports

/-!
The names bound by several declarations.  They are the names of each declaration in turn, without
those that came before; if the names of some declaration cannot be told, nothing is told but the
error of the first one.
-/

set_option autoImplicit false

namespace ExportList

/-- The error about a declarator that does not bind an identifier with a name. -/
def declaratorError (declarator : Value) : NameError :=
  if (declarator.field "id").hasTag "Identifier" then .nameless else .unsupportedPattern declarator

theorem declaratorName_eq_error_iff {declarator : Value} {e : NameError} :
    declaratorName declarator = .error e ↔
      (∀ name, ¬IsIdentifier (declarator.field "id") name) ∧ e = declaratorError declarator := by
  have told : (∀ name, ¬IsIdentifier (declarator.field "id") name) ↔
      ∀ name, declaratorName declarator ≠ .ok name :=
    forall_congr' fun _ => not_congr declaratorName_eq_ok_iff.symm
  rw [told]
  unfold declaratorName declaratorError
  by_cases isIdentifier : (declarator.field "id").hasTag "Identifier"
  · rw [if_pos isIdentifier, if_pos isIdentifier, identifierName]
    split
    · simp
    · simp [eq_comm]
  · rw [if_neg isIdentifier, if_neg isIdentifier]
    simp [eq_comm]

/-- The names of a variable declaration cannot be told because of its first declarator that does not
bind an identifier with a name. -/
theorem boundNames_eq_error_iff_of_variables {node : Value} {e : NameError}
    (h : isVariableDeclaration node) :
    boundNames node = .error e ↔
      ∃ before declarator after, (node.field "declarations").items = before ++ declarator :: after ∧
        (∀ earlier ∈ before, ∃ name, IsIdentifier (earlier.field "id") name) ∧
        (∀ name, ¬IsIdentifier (declarator.field "id") name) ∧ e = declaratorError declarator := by
  rw [boundNames, if_pos h, mapM_eq_error_iff]
  simp only [FirstError, declaratorName_eq_ok_iff, declaratorName_eq_error_iff]
  constructor
  · rintro ⟨declarator, before, after, rest⟩
    exact ⟨before, declarator, after, rest⟩
  · rintro ⟨before, declarator, after, rest⟩
    exact ⟨declarator, before, after, rest⟩

theorem boundNames_eq_error_iff_of_not_variables {node : Value} {e : NameError}
    (h : ¬isVariableDeclaration node) :
    boundNames node = .error e ↔
      (∀ name, (node.field "id").field "name" ≠ .text name) ∧ e = .missingIdentifier node := by
  rw [boundNames, if_neg h]
  split
  · rename_i name found
    simp [found]
  · rename_i other
    simp only [Except.error.injEq]
    exact ⟨fun same => ⟨other, same.symm⟩, fun same => same.2.symm⟩

theorem boundNamesOfAll_eq_ok_iff {nodes : List Value} {names : List Text} :
    boundNamesOfAll nodes = .ok names ↔
      ∃ parts, List.Forall₂ (fun node part => boundNames node = .ok part) nodes parts ∧
        names = firstOccurrences parts.flatten := by
  rw [boundNamesOfAll, map_eq_ok_iff]
  refine exists_congr fun parts => ?_
  rw [mapM_eq_ok_iff, eraseDups_eq_firstOccurrences, eq_comm (a := names)]

theorem boundNamesOfAll_append {xs ys : List Value} {names more : List Text}
    (hx : boundNamesOfAll xs = .ok names) (hy : boundNamesOfAll ys = .ok more) :
    boundNamesOfAll (xs ++ ys) = .ok (names ++ more.filter fun name => !names.contains name) := by
  obtain ⟨parts, px, rfl⟩ := map_eq_ok_iff.mp hx
  obtain ⟨parts', py, rfl⟩ := map_eq_ok_iff.mp hy
  have both : (xs ++ ys).mapM boundNames = .ok (parts ++ parts') := by
    rw [List.mapM_append, px, py]
    rfl
  refine map_eq_ok_iff.mpr ⟨_, both, ?_⟩
  rw [List.flatten_append, eraseDups_append_eq]

/-- The names of several declarations cannot be told exactly if those of some declaration cannot;
the error is that of the first such declaration, and in a variable declaration that of the first
declarator at fault.  Otherwise they are all names in order, without repetitions, so that further
declarations add the names that are new. -/
theorem boundNamesOfAll_in_order (nodes : List Value) :
    ((∃ e, boundNamesOfAll nodes = .error e) ↔ ∃ node ∈ nodes, ∃ e, boundNames node = .error e) ∧
    (∀ e, boundNamesOfAll nodes = .error e ↔ ∃ node, FirstError boundNames nodes node e) ∧
    (∀ node e, boundNames node = .error e ↔
      if isVariableDeclaration node then
        ∃ before declarator after,
          (node.field "declarations").items = before ++ declarator :: after ∧
          (∀ earlier ∈ before, ∃ name, IsIdentifier (earlier.field "id") name) ∧
          (∀ name, ¬IsIdentifier (declarator.field "id") name) ∧ e = declaratorError declarator
      else (∀ name, (node.field "id").field "name" ≠ .text name) ∧ e = .missingIdentifier node) ∧
    (∀ names, boundNamesOfAll nodes = .ok names ↔
      ∃ parts, List.Forall₂ (fun node part => boundNames node = .ok part) nodes parts ∧
        names = firstOccurrences parts.flatten) ∧
    ∀ more names moreNames,
      boundNamesOfAll nodes = .ok names → boundNamesOfAll more = .ok moreNames →
      boundNamesOfAll (nodes ++ more) =
        .ok (names ++ moreNames.filter fun name => !names.contains name) := by
  refine ⟨?_, ?_, ?_, fun _ => boundNamesOfAll_eq_ok_iff, fun _ _ _ => boundNamesOfAll_append⟩
  · simp only [boundNamesOfAll, map_eq_error_iff]
    exact exists_mapM_error_iff
  · intro e
    rw [boundNamesOfAll, map_eq_error_iff, mapM_eq_error_iff]
  · intro node e
    split_ifs with isVariables
    · exact boundNames_eq_error_iff_of_variables isVariables
    · exact boundNames_eq_error_iff_of_not_variables isVariables

/-- A declaration of variables on the first line, each with the column at which it stands. -/
def variablesNode (targets : List (Value × Nat)) : Value :=
  .object
    [("type", .string "VariableDeclaration"),
      ("declarations", .list (targets.map fun target =>
        .object
          [("type", .string "VariableDeclarator"),
            ("loc", .object [("start", .object [("line", .nat 1), ("column", .nat target.2)])]),
            ("id", target.1)]))]

def functionNode (name : Text) : Value :=
  .object [("type", .string "FunctionDeclaration"), ("id", identifierOf name)]

theorem boundNamesOfAll_in_order_variables :
    boundNamesOfAll
      ([functionNode "a", variablesNode [(identifierOf "b", 4), (identifierOf "a", 7)]] ++
      [variablesNode [(identifierOf "b", 4), (identifierOf "c", 7)]]) = .ok ["a", "b", "c"] ∧
    ∃ e, boundNamesOfAll
        [functionNode "a",
          variablesNode [(identifierOf "b", 4), (.object [("type", .string "ArrayPattern")], 7)],
          .object [("type", .string "ClassDeclaration"), ("id", .null)]] = .error e ∧
      e.message = "Unsupported binding pattern: ArrayPattern (line 1, column 7)" := by
  constructor
  · obtain ⟨_, _, _, _, appended⟩ := boundNamesOfAll_in_order
      [functionNode "a", variablesNode [(identifierOf "b", 4), (identifierOf "a", 7)]]
    exact appended _ ["a", "b"] ["b", "c"] rfl rfl
  · obtain ⟨_, failed, _⟩ := boundNamesOfAll_in_order
      [functionNode "a",
        variablesNode [(identifierOf "b", 4), (.object [("type", .string "ArrayPattern")], 7)],
        .object [("type", .string "ClassDeclaration"), ("id", .null)]]
    refine ⟨_, (failed _).mpr ⟨_, [_], [_], rfl, ?_, rfl⟩, ?_⟩
    · exact List.forall_mem_singleton.mpr ⟨["a"], rfl⟩
    · decide

end ExportList
