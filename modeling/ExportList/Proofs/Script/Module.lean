import ExportList.Proofs.Script.Statement

/-!
Imports, exports and whole programs on a document and on the document with an export list behind it.
-/

set_option autoImplicit false

namespace ExportList.Script

variable {e : Setting} {m : Mode} {x : Exit} {g g' : Grammar}

theorem moduleName_reads : Reads e .near moduleName moduleName :=
  .mark fun _ => .probe dull_string.probes (.ite nofun fun _ => .advance fun _ _ => .finish)
    (.ite (fun _ => .of_never never_refuse) fun no => (no rfl).elim)

theorem never_missingFrom {α : Type} : Never (missingFrom : Parse α) :=
  .bind_right fun _ => never_refuse

theorem fromClause_reads : Reads e .near fromClause fromClause :=
  .probe (probes_word _) (.ite nofun fun _ => .advance fun _ _ => moduleName_reads.sim)
    (.ite (fun _ => .of_never never_missingFrom) fun no => (no rfl).elim)

theorem importSpecifier_reads : Reads e .near importSpecifier importSpecifier := by
  refine .mark fun start => .sees fun isPlain => ?_
  have rest : ∀ imported, Sim e .near .near (do
      let inner ←
        if ← atWord "as" then
          let _ ← advance
          variableName none
        else if isPlain then pure imported
        else unexpected (← advance)
      finish start "ImportSpecifier" [("local", inner), ("imported", imported)]) (do
      let inner ←
        if ← atWord "as" then
          let _ ← advance
          variableName none
        else if isPlain then pure imported
        else unexpected (← advance)
      finish start "ImportSpecifier" [("local", inner), ("imported", imported)]) := fun imported =>
    .choose (probes_word _) (.advance fun _ _ =>
      .read (variableName_reads none) fun _ => .finish) <|
      .ite (fun _ => .bind (.pure _) fun _ => .finish) fun _ =>
        .of_never (.bind_right fun _ => never_unexpected.bind)
  exact .ite (fun _ => .bind (variableName_reads none) rest) fun _ => .bind anyName_reads rest

theorem listSeparator_sim : Sim e .near .near listSeparator listSeparator :=
  .probe (probes_mark _) (.ite nofun fun _ => .pure ())
    (.ite (fun _ => (expect_reads _).sim) fun no => (no rfl).elim)

theorem namedImports_reads : Reads e .near namedImports namedImports :=
  .bind (expect_reads _) fun _ =>
    .then (collectWhile_inner (y := .near) (.bind importSpecifier_reads fun _ =>
      .bind listSeparator_sim fun _ => .pure _)) fun _ =>
    .bind (expect_reads _) fun _ => .pure _

theorem defaultImport_reads : Reads e .near defaultImport defaultImport :=
  .mark fun _ => .bind anyName_reads fun _ => .finish

theorem namespaceImport_reads : Reads e .near namespaceImport namespaceImport :=
  .mark fun _ => .bind (expect_reads _) fun _ => .probe (probes_word _)
    (.ite nofun fun _ => .advance fun _ _ => .read anyName_reads fun _ => .finish)
    (.ite (fun _ => .of_never never_refuse) fun no => (no rfl).elim)

theorem importSpecifiers_reads : Reads e .near importSpecifiers importSpecifiers := by
  refine .look_any fun t => .ite (fun _ => namedImports_reads) fun _ =>
    .ite (fun _ => .bind namespaceImport_reads fun _ => .pure _) fun _ =>
    .ite (fun _ => ?_) fun _ => .of_never (.bind_right fun _ => never_unexpected)
  refine .bind defaultImport_reads fun first =>
    .choose (probes_mark _) (.advance fun _ _ => ?_) (.pure _)
  exact .choose (probes_mark _) (.read namespaceImport_reads fun _ => .pure _) <|
    .choose (probes_mark _) (.read namedImports_reads fun _ => .pure _) <|
    .of_never (.bind_right fun _ => never_unexpected)

theorem importDeclaration_reads : Reads e .loose importDeclaration importDeclaration := by
  refine .context fun _ => .ite (fun _ => .of_never never_refuse) fun _ => .mark fun _ =>
    .bind (expectKeyword_reads _) fun _ => .choose dull_string.probes
      (.read moduleName_reads fun _ => .bind (.pure _) fun _ => .endStatement) ?_
  exact .read importSpecifiers_reads fun _ => .read fromClause_reads fun _ =>
    .bind (.pure _) fun _ => .endStatement

theorem exportSpecifier_reads : Reads e .near exportSpecifier exportSpecifier :=
  .mark fun _ => .bind anyName_reads fun _ => .choose (probes_word _)
    (.advance fun _ _ => .read anyName_reads fun _ => .finish) (.bind (.pure _) fun _ => .finish)

theorem exportEntry_reads : Reads e .near exportEntry exportEntry :=
  .sees fun _ => .bind exportSpecifier_reads fun _ => .bind listSeparator_sim fun _ => .pure _

theorem namedExports_reads : Reads e .near namedExports namedExports :=
  .bind (expect_reads _) fun _ => .then (collectWhile_inner exportEntry_reads) fun _ =>
    .bind (expect_reads _) fun _ => .pure _

theorem bareExport_reads : Reads e .near bareExport bareExport :=
  .mark fun _ => .bind anyName_reads fun _ => .finish

theorem listAfterBare_sim : Sim e .near .near listAfterBare listAfterBare :=
  .choose (probes_mark _) (.advance fun _ _ => namedExports_reads.sim) (.pure _)

theorem exportOrigin_sim (start : Marker) (specifiers : List Value) (hasDefault : Bool) :
    Sim e .near .loose (exportOrigin start specifiers hasDefault)
      (exportOrigin start specifiers hasDefault) :=
  .choose (probes_word _) (.read fromClause_reads fun _ => .endStatement) <|
    .ite (fun _ => .of_never never_missingFrom) fun _ => .endStatement

theorem exportNames_reads (start : Marker) :
    Reads e .loose (exportNames start) (exportNames start) :=
  .choose dull_identifier.probes
    (.read bareExport_reads fun _ => .bind listAfterBare_sim fun _ => exportOrigin_sim start _ _)
    (.bind namedExports_reads fun _ => exportOrigin_sim start _ _)

section

variable (h : g.Alike g')

include h

theorem defaultValue_reads : Reads e .near (defaultValue g) (defaultValue g') :=
  .choose (probes_mark _) (object_reads h).live <|
    .choose (probes_mark _) (array_reads h).live h.assignment

theorem defaultExport_reads : Reads e .loose (defaultExport g) (defaultExport g') := by
  refine .choose (probes_keyword (by decide)) (functionDeclaration_reads h true).live.loose <|
    .choose (probes_keyword (by decide)) (classDeclaration_reads h true).live.loose <|
    .choose (probes_word _) (.choose probes_asyncFunction
      (functionDeclaration_reads h true).live.loose
      h.assignment.live.loose) <|
    .choose (probes_word _) (.of_never never_refuse) ?_
  exact .bind (defaultValue_reads h) fun _ => .split endStatement_sim (fun _ => .pure _) fun _ _ =>
    .pure_past _ _

theorem exportedDeclaration_sim :
    Sim e .live .loose (exportedDeclaration g) (exportedDeclaration g') :=
  .look fun _ _ => .ite (fun _ => lexicalDeclaration_sim h) fun _ =>
    .ite (fun _ => h.item.live) fun _ => .of_never never_unexpected

theorem exportDeclaration_reads : Reads e .loose (exportDeclaration g) (exportDeclaration g') := by
  refine .context fun _ => .ite (fun _ => .of_never never_refuse) fun _ => .mark fun start =>
    .then (expectKeyword_reads _) fun _ => .look (fun t isEnd => ?_) fun t _ => ?_
  · have isKeyword : t.isKeyword "default" = false := (dull_keyword (by decide)).isEnd t isEnd
    have isMark : t.isMark "*" = false := (dull_mark _).isEnd t isEnd
    simp only [isKeyword, isMark, Bool.false_eq_true, if_false, lexeme_of_isEnd isEnd]
    exact .choose (probes_asyncFunction (e := e)).ended (exportNames_reads (e := e) start).fails
  · refine .ite (fun _ => .advance fun _ _ => ?_) fun _ =>
      .ite (fun _ => .advance fun _ _ => ?_) fun _ => ?_
    · exact .split (defaultExport_reads h).sim (fun _ => .finish) fun _ _ => .finish_past
    · exact .read fromClause_reads fun _ => .endStatement
    · have named : Sim e .live .loose (do
          if ← atAsyncFunction then
            namedExportNode start (← functionDeclaration g false) [] .null
          else exportNames start) (do
          if ← atAsyncFunction then
            namedExportNode start (← functionDeclaration g' false) [] .null
          else exportNames start) :=
        .choose probes_asyncFunction (.read (functionDeclaration_reads h false) fun _ => .finish)
          (exportNames_reads start).live
      cases t.lexeme with
      | keyword _ =>
        exact .split (exportedDeclaration_sim h) (fun _ => .finish) fun _ _ => .finish_past
      | _ => exact named

theorem item_reads : Reads e .loose (item g) (item g') := by
  refine .modifyContext (fun _ => ⟨rfl, rfl⟩) <| .look (fun t isEnd => ?_) fun t _ =>
    .context fun c _ => ?_
  · have unseen : ∀ word, t.isKeyword word = false := fun word => by
      simp [Token.isKeyword, lexeme_of_isEnd isEnd]
    simp only [unseen, Bool.false_eq_true, if_false]
    exact .context fun _ => (statement_reads (e := e) h).fails
  · refine .ite (fun _ => .ite (fun _ => (exportDeclaration_reads h).live) fun _ =>
      .of_never never_refuseToken)
      fun _ => .ite (fun _ => ?_) fun _ => .ite (fun _ => lexicalDeclaration_sim h) fun _ =>
      .ite (fun _ => (functionDeclaration_reads h false).live.loose) fun _ =>
      .ite (fun _ => (classDeclaration_reads h false).live.loose) fun _ =>
      .ite (fun _ => atLexicalDeclaration_sim fun _ => ?_) fun _ => (statement_reads h).live
    · exact .choose probes_importCall (expressionStatement_reads h).live <|
        .ite (fun _ => importDeclaration_reads.live) fun _ => .of_never never_refuseToken
    · exact .ite (fun _ => lexicalDeclaration_sim h) fun _ => (statement_reads h).live

end

theorem grammar_alike {depth depth' : Nat} (le : depth ≤ depth') :
    (grammar depth).Alike (grammar depth') := by
  induction depth generalizing depth' with
  | zero =>
    exact ⟨.of_never never_giveUp, .of_never never_giveUp, .of_never never_giveUp,
      .of_never never_giveUp, .of_never never_giveUp, .of_never never_giveUp,
      .of_never never_giveUp, fun _ => .of_never never_giveUp⟩
  | succ depth ih =>
    obtain ⟨depth', rfl⟩ : ∃ n, depth' = n + 1 := ⟨depth' - 1, by omega⟩
    have h := ih (Nat.le_of_succ_le_succ le)
    exact ⟨assignment_reads h, unary_reads h, power_reads h, chain_reads h, member_reads h,
      statement_reads h, item_reads h, bindingPattern_reads h⟩

end ExportList.Script
