import ExportList.Proofs.Script.Expression

/-!
Statements read the same on a document and on the document with an export list behind it, but for a
last one that the end of the document ends.
-/

set_option autoImplicit false

namespace ExportList.Script

variable {e : Setting} {m : Mode} {x : Exit} {g g' : Grammar}

theorem checkVariable_sim (id : Value) : Sim e .near .near (checkVariable id) (checkVariable id) :=
  .context fun _ _ => .ite (fun _ => .of_never never_refuseOnLine) fun _ => .pure ()

theorem commaSeparated_reads {item item' : Parse Value} (hi : Reads e .near item item') :
    Reads e .near (commaSeparated item) (commaSeparated item') :=
  .bind hi fun _ => .bind (collectWhile_near (.advance fun _ _ => hi.sim) (dull_mark _)) fun _ =>
    .pure _

/-- A statement that a semicolon, a new line or the end of the document ends. -/
theorem Sim.endStatement {tag : Text} {start : Marker} {fields : Fields} :
    Sim e m .loose (endStatement >>= fun _ => Script.finish start tag fields)
      (endStatement >>= fun _ => Script.finish start tag fields) :=
  .split endStatement_sim (fun _ => .finish) fun _ _ => .finish_past

section

variable (h : g.Alike g')

include h

theorem block_reads : Reads e .near (block g) (block g') :=
  .mark fun _ => .bind (expect_reads _) fun _ => .then (collectWhile_inner h.item) fun _ =>
    .bind (expect_reads _) fun _ => .finish

theorem initializer_reads : Reads e .near (initializer g) (initializer g') :=
  .bind (expect_reads _) fun _ => h.assignment.isolate.sim

theorem constantInit_sim : Sim e .near .near (constantInit g) (constantInit g') := by
  refine .either (probes_keyword (by decide)) (probes_word _) (fun a₁ a₂ yes => ?_) ?_
  · exact .ite (fun _ => .pure _) fun no => (no yes).elim
  · exact .choose (probes_mark _) (initializer_reads h).live (.of_never never_refuse)

theorem lexicalInit_sim (kind : Text) (isRequired : Bool) :
    Sim e .near .near (lexicalInit g kind isRequired) (lexicalInit g' kind isRequired) := by
  refine .ite (fun _ => constantInit_sim h) fun _ => .probe (probes_mark _) ?_ ?_
  · exact .ite (fun _ => (initializer_reads h).live) fun _ => .pure _
  · exact .ite (fun _ => (initializer_reads h).sim) fun _ => .pure _

theorem lexicalBinding_reads (kind : Text) (inFor : Bool) :
    Reads e .near (lexicalBinding g kind inFor) (lexicalBinding g' kind inFor) :=
  .mark fun _ => .bind (h.pattern _) fun ⟨id, _⟩ => .bind (checkVariable_sim id) fun _ =>
    .bind (lexicalInit_sim h kind _) fun _ => .finish

theorem variableBinding_reads (inFor : Bool) :
    Reads e .near (variableBinding g inFor) (variableBinding g' inFor) := by
  refine .mark fun start => .bind (h.pattern _) fun ⟨id, _⟩ => .bind (checkVariable_sim id) fun _ =>
    .choose (probes_mark _) (.read (initializer_reads h) fun _ => .finish) <|
    .ite (fun _ => ?_) fun _ => .bind (.pure _) fun _ => .finish
  exact .read (expect_reads _) fun _ => .bind (.pure _) fun _ => .finish

theorem lexicalDeclaration_sim :
    Sim e .live .loose (lexicalDeclaration g) (lexicalDeclaration g') :=
  .mark fun _ => .advance fun _ _ =>
    .read (commaSeparated_reads (lexicalBinding_reads h _ false)) fun _ => .endStatement

theorem variableStatement_reads : Reads e .loose (variableStatement g) (variableStatement g') :=
  .mark fun _ => .bind (expectKeyword_reads _) fun _ =>
    .read (commaSeparated_reads (variableBinding_reads h false)) fun _ => .endStatement

omit h in
theorem atLexicalDeclaration_sim {β : Type} {b b' : Bool → Parse β}
    (hb : ∀ a, Sim e .live x (b a) (b' a)) :
    Sim e .live x (atLexicalDeclaration >>= b) (atLexicalDeclaration >>= b') := by
  intro s s' live r ok
  obtain ⟨⟨answer, t⟩, asked, rest⟩ := bind_ok.mp ok
  obtain ⟨⟨next, t⟩, read, done⟩ := bind_ok.mp asked
  cases done
  obtain ⟨next', t', read', live', same⟩ := lookSecond_live live read
  have dull : Dull fun t => t.isIdentifier || t.isMark "[" || t.isMark openBrace ||
      t.isKeyword "let" || t.isKeyword "yield" :=
    ⟨fun t isEnd => by
        simp [Token.isIdentifier, Token.isMark, Token.isKeyword, lexeme_of_isEnd isEnd],
      fun t word => by
        simp only [Token.isIdentifier, Token.isMark, Token.isKeyword, word]
        decide⟩
  have asked' : atLexicalDeclaration s' = .ok (next.isIdentifier || next.isMark "[" ||
      next.isMark openBrace || next.isKeyword "let" || next.isKeyword "yield", t') := by
    unfold atLexicalDeclaration
    rw [bind_run _ read']
    rcases same with rfl | ⟨isEnd, word⟩
    · rfl
    · have no := dull.isEnd next isEnd
      have no' := dull.export' next' word
      rw [no, no']
      rfl
  rw [bind_run b' asked']
  exact hb _ live' rest

theorem guarded_reads : Reads e .loose (guarded g) (guarded g') := by
  refine .context fun c => .probe (probes_keyword (by decide))
    ?_ (.ite (fun no => ?_) fun _ => h.statement)
  · exact .ite (fun _ => .of_never never_refuseOnLine) fun _ => h.statement.live
  · simp only [Bool.and_false, Bool.false_eq_true] at no

theorem ifStatement_reads : Reads e .loose (ifStatement g) (ifStatement g') := by
  refine .mark fun start => .bind (expectKeyword_reads _) fun _ => .read (expect_reads _) fun _ =>
    .read (expression_reads h) fun test => .read (expect_reads _) fun _ =>
    .split (guarded_reads h).sim (fun consequent => ?_) fun consequent consequent' => ?_
  · refine .probe (probes_keyword (by decide)) (.advance fun _ _ => ?_) ?_
    · exact .split (guarded_reads h).sim (fun _ => .finish) fun _ _ => .finish_past
    · exact .bind (.pure _) fun _ => .finish
  · exact .unseen (probes_keyword (by decide)) <| .still (.pure _) (.pure _) fun _ _ => .finish_past

theorem doStatement_reads : Reads e .near (doStatement g) (doStatement g') := by
  refine .mark fun start => .bind (expectKeyword_reads _) fun _ =>
    .then h.statement.inLoop.sim fun body => .bind (expectKeyword_reads _) fun _ =>
    .read (expect_reads _) fun _ => .read (expression_reads h) fun _ =>
    .read (expect_reads _) fun _ => .probe (probes_mark _) (.advance fun _ _ => .finish) .finish

theorem whileStatement_reads : Reads e .loose (whileStatement g) (whileStatement g') :=
  .mark fun _ => .bind (expectKeyword_reads _) fun _ => .read (expect_reads _) fun _ =>
    .read (expression_reads h) fun _ => .read (expect_reads _) fun _ =>
    .split h.statement.inLoop.sim (fun _ => .finish) fun _ _ => .finish_past

theorem keysOf_sim (left : Value) : Sim e .live .near (keysOf g left) (keysOf g' left) :=
  .advance fun _ _ => .read (expression_reads h) fun _ => .pure _

theorem valuesOf_sim (left : Value) : Sim e .live .near (valuesOf g left) (valuesOf g' left) :=
  .advance fun _ _ => .read h.assignment fun _ => .pure _

theorem varHead_sim : Sim e .live .inner (varHead g) (varHead g') := by
  refine .mark fun start => .advance fun _ _ =>
    .read (commaSeparated_reads (variableBinding_reads h true)).withAllowIn fun declarations =>
    .near (.sees fun _ => .ite (fun _ => ?_) fun _ => .sees fun _ => .ite (fun _ => ?_) fun _ => ?_)
      (.of_fails (.probe (dull_keyword (by decide)).quiet ?_))
  · refine .context fun c _ => .ite (fun _ => .of_never never_refuseOnLine) fun _ => ?_
    exact .bind_still .finish (still_finish _ _ _) fun _ => (keysOf_sim h _).inner
  · exact .bind_still .finish (still_finish _ _ _) fun _ => (valuesOf_sim h _).inner
  · exact .bind .finish fun _ => .read (expect_reads _) fun _ => .pure _
  · simp only [Bool.and_false, Bool.false_eq_true, if_false]
    refine .probe (dull_word _).quiet ?_
    simp only [Bool.and_false, Bool.false_eq_true, if_false]
    exact Stays.finish.fails fun _ => (expect_reads (e := e) _).fails.bind

theorem lexicalHead_sim : Sim e .live .inner (lexicalHead g) (lexicalHead g') := by
  refine .mark fun start => .advance fun word _ => .context fun c _ =>
    .near (.look fun t _ => .ite (fun _ => ?_) fun _ => ?_)
      (.of_fails (.look fun t isEnd => .ite (fun yes => ?_) fun _ => ?_))
  · exact .bind_still .finish (still_finish _ _ _) fun _ => (keysOf_sim h _).inner
  · have declared : ∀ {m : Mode} declarations, Sim e m .inner
        (endStatement >>= fun _ => variablesNode start declarations word.text >>= fun d =>
          pure (.counting d))
        (endStatement >>= fun _ => variablesNode start declarations word.text >>= fun d =>
          pure (LoopHead.counting d)) := fun _ =>
      .within endStatement_sim (fun _ => .bind .finish fun _ => .pure _) fun _ =>
        .bind .finish fun _ => .pure _
    refine .read (commaSeparated_reads (lexicalBinding_reads h _ true)).withAllowIn
      fun declarations => .near
        (.sees fun _ => .ite (fun _ => ?_) fun _ => .sees fun _ => .ite (fun _ => ?_) fun _ => ?_)
        (.unseen (probes_keyword (by decide)) (.ite (fun no => ?_) fun _ =>
          .unseen (probes_word _) (.ite (fun no => ?_) fun _ => ?_)))
    · exact .bind_still .finish (still_finish _ _ _) fun _ => (keysOf_sim h _).inner
    · exact .bind_still .finish (still_finish _ _ _) fun _ => (valuesOf_sim h _).inner
    · exact declared _
    · simp only [Bool.and_false, Bool.false_eq_true] at no
    · simp only [Bool.and_false, Bool.false_eq_true] at no
    · exact declared _
  · simp [Token.text, lexeme_of_isEnd isEnd, Text.ofString] at yes
  · exact (commaSeparated_reads (lexicalBinding_reads (e := e) h _ true)).withAllowIn.fails.bind

theorem expressionHead_reads : Reads e .inner (expressionHead g) (expressionHead g') := by
  refine .look_read h.assignment.inherit.withAllowIn fun start init => .context fun c _ =>
    .choose (probes_keyword (by decide)) ?_ <| .choose (probes_word _) ?_ <|
      .choose (probes_mark _) ?_ ?_
  · exact .ite (fun _ => .of_never never_refuseOnLine) fun _ => (keysOf_sim h _).inner
  · exact .ite (fun _ => .of_never never_refuseOnLine) fun _ => (valuesOf_sim h _).inner
  · exact .bind (collectWhile_near (.advance fun _ _ => h.assignment.isolate.sim)
      (dull_mark _)).live fun _ => .bind .finish fun _ => .read (expect_reads _) fun _ => .pure _
  · exact .bind (.pure _) fun _ => .read (expect_reads _) fun _ => .pure _

theorem loopHead_reads : Reads e .inner (loopHead g) (loopHead g') := by
  refine .choose (probes_mark _) (.advance fun _ _ => .pure _) <|
    .choose (probes_keyword (by decide)) (varHead_sim h) <|
    .either (probes_keyword (by decide)) (probes_keyword (by decide)) (fun a₁ a₂ yes => ?_)
      (expressionHead_reads h)
  exact .ite (fun _ => lexicalHead_sim h) fun no => (no yes).elim

theorem loopFields_counting_reads (init : Value) :
    Reads e .near (loopFields g (.counting init)) (loopFields g' (.counting init)) := by
  have update : ∀ test, Sim e .near .near (do
      expect ";"
      let update ← if ← atMark ")" then pure .null else expression g
      return (Text.ofString "ForStatement",
        ([("init", init), ("test", test), ("update", update)] : Fields)))
      (do
      expect ";"
      let update ← if ← atMark ")" then pure .null else expression g'
      return (Text.ofString "ForStatement",
        ([("init", init), ("test", test), ("update", update)] : Fields))) := fun _ =>
    .read (expect_reads _) fun _ => .choose (probes_mark _) (.bind (.pure _) fun _ => .pure _)
      (.read (expression_reads h) fun _ => .pure _)
  exact .choose (probes_mark _) (.bind (.pure _) update) (.bind (expression_reads h) update)

theorem forStatement_reads : Reads e .loose (forStatement g) (forStatement g') := by
  refine .mark fun start => .bind (expectKeyword_reads _) fun _ => .read (expect_reads _) fun _ =>
    .then (loopHead_reads h).sim fun head => ?_
  have body : ∀ tag fields, Reads e .loose (do
      expect ")"
      let body ← inLoop (isolate g.statement)
      finish start tag (fields ++ ([("body", body)] : Fields))) (do
      expect ")"
      let body ← inLoop (isolate g'.statement)
      finish start tag (fields ++ ([("body", body)] : Fields))) := fun tag fields =>
    .bind (expect_reads _) fun _ =>
      .split h.statement.isolate.inLoop.sim (fun _ => .finish) fun _ _ => .finish_past
  cases head with
  | keys left right => exact body _ _
  | values left right => exact body _ _
  | counting init =>
    exact .bind (loopFields_counting_reads h init) fun ⟨tag, fields⟩ => (body tag fields).sim

omit h in
theorem jumpLabel_sim : Sim e .near .near jumpLabel jumpLabel := by
  refine .probe dull_identifier.probes (.atLineBreak fun _ => .ite (fun _ => ?_) fun _ => .pure _)
    (.near (.atLineBreak fun _ => .pure _) (.atLineBreak_over fun _ => .pure _))
  exact .read (variableName_reads none) fun _ => .context fun _ _ =>
    .ite (fun _ => .pure _) fun _ => .of_never never_refuse

omit h in
theorem continueStatement_reads : Reads e .loose continueStatement continueStatement := by
  refine .mark fun start => .bind (expectKeyword_reads _) fun _ => .bind jumpLabel_sim fun label =>
    .split endStatement_sim (fun _ => ?_) fun _ _ => ?_
  · exact .context fun _ _ => .ite (fun _ => .of_never never_refuse) fun _ => .finish
  · exact .context fun _ _ => .ite (fun _ => .of_never never_refuse) fun _ => .finish_past

omit h in
theorem breakStatement_reads : Reads e .loose breakStatement breakStatement := by
  refine .mark fun start => .bind (expectKeyword_reads _) fun _ => .bind jumpLabel_sim fun label =>
    .split endStatement_sim (fun _ => ?_) fun _ _ => ?_
  · exact .context fun _ _ => .ite (fun _ => .of_never never_refuse) fun _ => .finish
  · exact .context fun _ _ => .ite (fun _ => .of_never never_refuse) fun _ => .finish_past

theorem returnStatement_reads : Reads e .loose (returnStatement g) (returnStatement g') := by
  refine .context fun c => .ite (fun _ => .of_never never_refuseOnLine) fun _ => .mark fun start =>
    .bind (expectKeyword_reads _) fun _ => .near (.look fun t _ => .atLineBreak fun _ => ?_)
      (.look_over fun t t' isEnd word => .atLineBreak_over fun isBroken => ?_)
  · exact .ite (fun _ => .read (expression_reads h) fun _ => .endStatement) fun _ =>
      .bind (.pure _) fun _ => .endStatement
  · simp only [isEnd, dull_string.isEnd t isEnd, dull_template.isEnd t isEnd,
      dull_string.export' t' word, dull_template.export' t' word, Bool.not_true, Bool.and_false,
      Bool.false_and, Bool.or_self, Bool.false_eq_true, if_false]
    exact .bind (.pure _) fun _ => .endStatement

theorem throwStatement_reads : Reads e .loose (throwStatement g) (throwStatement g') := by
  refine .mark fun start => .bind (expectKeyword_reads _) fun _ => .near (.atLineBreak fun _ => ?_)
    (.of_fails (.atLineBreak fun _ => ?_))
  · exact .ite (fun _ => .of_never never_refuse) fun _ => .read (expression_reads h) fun _ =>
      .endStatement
  · exact .ite (fun _ => never_refuse.fails) fun _ => (expression_reads (e := e) h).fails.bind

theorem withStatement_reads : Reads e .loose (withStatement g) (withStatement g') :=
  .context fun _ => .ite (fun _ => .of_never never_refuseOnLine) fun _ => .mark fun _ =>
    .bind (expectKeyword_reads _) fun _ => .read (expect_reads _) fun _ =>
    .read (expression_reads h) fun _ => .read (expect_reads _) fun _ =>
    .split h.statement.sim (fun _ => .finish) fun _ _ => .finish_past

theorem caseBody_reads : Reads e .inner (caseBody g) (caseBody g') :=
  .bind (expect_reads _) fun _ => collectWhile_inner h.item

theorem switchCase_reads : Reads e .inner (switchCase g) (switchCase g') := by
  refine .mark fun start => .probe (probes_keyword (by decide))
    (.bind (.advance fun _ _ => .pure _) fun test => ?_)
    (.bind (.bind (expectKeyword_reads _) fun _ => (expression_reads h).sim) fun test => ?_)
  all_goals
    exact .within (caseBody_reads h).sim (fun _ => .bind .finish fun _ => .pure _) fun _ =>
      .bind .finish fun _ => .pure _

theorem switchCases_reads {fuel fuel' : Nat} (le : fuel ≤ fuel') (hasDefault : Bool) :
    Reads e .near (switchCases g fuel hasDefault) (switchCases g' fuel' hasDefault) := by
  induction fuel generalizing fuel' hasDefault with
  | zero => exact .of_never never_giveUp
  | succ fuel ih =>
    obtain ⟨fuel', rfl⟩ : ∃ n, fuel' = n + 1 := ⟨fuel' - 1, by omega⟩
    refine .choose (probes_mark _) (.pure [])
      (.then (switchCase_reads h) fun ⟨first, isDefault⟩ => ?_)
    exact .ite (fun _ => .of_never never_refuse) fun _ => .bind (ih (by omega) _) fun _ => .pure _

theorem switchStatement_reads : Reads e .near (switchStatement g) (switchStatement g') :=
  .mark fun _ => .bind (expectKeyword_reads _) fun _ => .read (expect_reads _) fun _ =>
    .read (expression_reads h) fun _ => .read (expect_reads _) fun _ => .context fun _ _ =>
    .modifyContext (fun _ => ⟨rfl, rfl⟩) <| .read (expect_reads _) fun _ => .tokenBound <|
    .read (switchCases_reads h e.size_le false) fun _ => .read (expect_reads _) fun _ =>
    .modifyContext (fun _ => ⟨rfl, rfl⟩) .finish

theorem labelledBody_reads : Reads e .loose (labelledBody g) (labelledBody g') := by
  refine .look (fun t isEnd => ?_) fun t _ => .ite (fun _ => .of_never never_unexpected) fun _ =>
    .ite (fun _ => ?_) fun _ => h.statement.live
  · refine .ite (fun _ => never_unexpected.fails) fun _ => .ite (fun _ => ?_) fun _ =>
      (h.statement (e := e)).fails
    exact (functionDeclaration_reads (e := e) h false).fails.bind
  · refine .read (functionDeclaration_reads h false) fun declaration => .context fun _ _ =>
      .ite (fun _ => .of_never never_refuseToken) fun _ => ?_
    exact .ite (fun _ => .of_never never_refuseToken) fun _ => .pure _

theorem namedStatement_reads : Reads e .loose (namedStatement g) (namedStatement g') := by
  refine .mark fun start => .bind (expression_reads h) fun expr =>
    .probe (probes_mark _) (.ite (fun _ => .advance fun _ _ => .context fun _ _ => ?_) fun _ =>
      .endStatement)
      (.ite (fun no => ?_) fun _ => .endStatement)
  · refine .ite (fun _ => .of_never never_refuse) fun _ => .modifyContext (fun _ => ⟨rfl, rfl⟩) <|
      .split (labelledBody_reads h).sim (fun _ => ?_) fun _ _ => ?_
    · exact .modifyContext (fun _ => ⟨rfl, rfl⟩) .finish
    · exact .modifyContext (fun _ => ⟨rfl, rfl⟩) .finish_past
  · simp only [Bool.and_false, Bool.false_eq_true] at no

theorem catchClause_reads : Reads e .near (catchClause g) (catchClause g') := by
  refine .mark fun start => .bind (expectKeyword_reads _) fun _ => .read (expect_reads _) fun _ =>
    .choose (probes_mark _) (.of_never (.bind_right fun _ => never_unexpected)) <|
    .read (h.pattern none) fun ⟨param, bound⟩ => ?_
  dsimp only
  cases firstRepeated? [] (bound.map Token.text) with
  | some name => exact .of_never never_refuseOnLine
  | none =>
    exact .context fun _ _ => .ite (fun _ => .of_never never_refuseOnLine) fun _ =>
      .read (expect_reads _) fun _ => .read (block_reads h) fun _ => .finish

theorem finallyClause_sim : Sim e .near .near (finallyClause g) (finallyClause g') :=
  .choose (probes_keyword (by decide)) (.advance fun _ _ => (block_reads h).sim) (.pure _)

theorem tryStatement_reads : Reads e .near (tryStatement g) (tryStatement g') := by
  refine .mark fun start => .bind (expectKeyword_reads _) fun _ => .read (block_reads h) fun body =>
    .probe (probes_keyword (by decide)) ?_ ?_
  · exact .read (catchClause_reads h) fun _ => .bind (finallyClause_sim h) fun _ =>
      .ite (fun _ => .of_never never_refuse) fun _ => .finish
  · exact .bind (.pure _) fun _ => .bind (finallyClause_sim h) fun _ =>
      .ite (fun _ => .of_never never_refuse) fun _ => .finish

omit h in
theorem debuggerStatement_reads : Reads e .loose debuggerStatement debuggerStatement :=
  .mark fun _ => .bind (expectKeyword_reads _) fun _ => .endStatement

omit h in
theorem emptyStatement_reads : Reads e .near emptyStatement emptyStatement :=
  .mark fun _ => .bind (expect_reads _) fun _ => .finish

theorem expressionStatement_reads :
    Reads e .loose (expressionStatement g) (expressionStatement g') :=
  .mark fun _ => .bind (expression_reads h) fun _ => .endStatement

theorem keywordStatements_reads : List.Forall₂ (fun entry entry' => entry.1 = entry'.1 ∧
    Reads e .loose entry.2 entry'.2) (keywordStatements g) (keywordStatements g') := by
  simp only [keywordStatements, List.forall₂_cons, List.Forall₂.nil, true_and, and_true]
  exact ⟨breakStatement_reads, continueStatement_reads, debuggerStatement_reads,
    (doStatement_reads h).loose, forStatement_reads h, (functionDeclaration_reads h false).loose,
    ifStatement_reads h, returnStatement_reads h, (switchStatement_reads h).loose,
    throwStatement_reads h, (tryStatement_reads h).loose, variableStatement_reads h,
    whileStatement_reads h, withStatement_reads h⟩

omit h in
theorem Reads.of_keyword {table table' : List (Text × Parse Value)} {other other' : Parse Value}
    (alike : List.Forall₂ (fun entry entry' => entry.1 = entry'.1 ∧ Reads e x entry.2 entry'.2)
      table table')
    (ho : Reads e x other other') (word : Text) :
    Reads e x
      (match table.find? fun entry => entry.1 = word with
        | some entry => entry.2
        | none => other)
      (match table'.find? fun entry => entry.1 = word with
        | some entry => entry.2
        | none => other') := by
  induction alike with
  | nil => exact ho
  | @cons entry entry' _ _ first _ ih =>
    obtain ⟨same, reads⟩ := first
    by_cases eq : entry.1 = word
    · simp only [List.find?_cons, eq, ← same, decide_true]
      exact reads
    · simp only [List.find?_cons, eq, ← same, decide_false]
      exact ih

theorem statement_reads : Reads e .loose (statement g) (statement g') := by
  refine .look (fun t isEnd => ?_) fun t notEnd => ?_
  · rw [lexeme_of_isEnd isEnd]
    exact never_unexpected.fails
  · cases lexeme : t.lexeme with
    | endOfInput => exact .of_never never_unexpected
    | mark text =>
      exact .ite (fun _ => (block_reads h).live.loose) fun _ =>
        .ite (fun _ => emptyStatement_reads.live.loose) fun _ => (expressionStatement_reads h).live
    | identifier name =>
      exact .choose probes_asyncFunction (functionDeclaration_reads h false).live.loose
        (namedStatement_reads h).live
    | keyword word =>
      exact (Reads.of_keyword (keywordStatements_reads h) (expressionStatement_reads h) word).live
    | _ => exact (expressionStatement_reads h).live

end

end ExportList.Script
