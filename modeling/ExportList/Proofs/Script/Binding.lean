import ExportList.Proofs.Script.Simulation

/-!
Patterns, functions and classes read the same on a document and on the document with an export list
behind it.
-/

set_option autoImplicit false

namespace ExportList.Script

variable {e : Setting} {m : Mode} {x : Exit} {g g' : Grammar}

theorem variableName_reads (kind : Option Text) :
    Reads e .near (variableName kind) (variableName kind) := by
  refine .mark fun start => .advance (fun t isEnd => ?_) fun t _ => .context fun c _ => ?_
  · refine .bind_right fun c => ?_
    obtain ⟨lexeme, _, _, _, _, _⟩ := t
    cases lexeme_of_isEnd isEnd
    have other : ([] : Text) ≠ Text.ofString "let" := by decide
    simp only [Token.text, ne_eq, other, not_false_eq_true, decide_true, Bool.or_true, Bool.true_or,
      if_true]
    exact never_unexpected
  · obtain ⟨lexeme, _, _, _, _, _⟩ := t
    cases lexeme with
    | keyword word =>
      refine .ite (fun _ => ?_) fun _ => ?_
      · exact .ite (fun _ => .of_never never_refuseToken) fun _ =>
          .ite (fun _ => .of_never never_unexpected) fun _ => .finish
      · exact .ite (fun _ => .of_never never_refuseToken) fun _ =>
          .ite (fun _ => .of_never never_unexpected) fun _ => .finish
    | identifier name => exact .ite (fun _ => .of_never never_unexpected) fun _ => .finish
    | _ => exact .ite (fun _ => .of_never never_unexpected) fun _ => .finish

theorem anyName_reads : Reads e .near anyName anyName := by
  refine .mark fun start => .advance (fun t isEnd => ?_) fun t _ => ?_
  · have other : t.isName = false := by simp [Token.isName, lexeme_of_isEnd isEnd]
    simp only [other, Bool.false_eq_true, if_false]
    exact never_unexpected
  · exact .ite (fun _ => .finish) fun _ => .of_never never_unexpected

section

variable (h : g.Alike g')

include h

theorem propertyKey_reads : Reads e .near (propertyKey g) (propertyKey g') := by
  refine .mark fun start => .advance (fun t isEnd => ?_) fun t _ => ?_
  · obtain ⟨lexeme, _, _, _, _, _⟩ := t
    cases lexeme_of_isEnd isEnd
    exact never_unexpected
  · obtain ⟨lexeme, _, _, _, _, _⟩ := t
    have literal : ∀ t : Token, Sim e .near .near
        (context >>= fun c => if (c.strict && t.isOctal) = true then refuseToken t .strictOctal
          else literalNode start t)
        (context >>= fun c => if (c.strict && t.isOctal) = true then refuseToken t .strictOctal
          else literalNode start t) := fun t =>
      .context fun c _ => .ite (fun _ => .of_never never_refuseToken) fun _ => .finish
    cases lexeme with
    | string value octal => exact literal _
    | number value octal => exact literal _
    | identifier name => exact .finish
    | boolean value => exact .finish
    | null => exact .finish
    | keyword word => exact .finish
    | mark text =>
      refine .ite (fun _ => ?_) fun _ => .of_never never_unexpected
      exact .read h.assignment.isolate fun key => .read (expect_reads _) fun _ => .pure key
    | _ => exact .of_never never_unexpected

theorem patternWithDefault_reads (kind : Option Text) :
    Reads e .near (patternWithDefault g kind) (patternWithDefault g' kind) := by
  refine .look (fun t _ => (h.pattern (e := e) kind).fails.bind) fun t _ =>
    .read (h.pattern kind) fun ⟨target, bound⟩ => ?_
  refine .probe (probes_mark _) (.advance fun _ _ => ?_) (.pure (target, bound))
  exact .read h.assignment.isolate.withAllowYield fun right => .bind .finish fun whole => .pure _

theorem restElement_reads (kind : Option Text) :
    Reads e .near (restElement g kind) (restElement g' kind) :=
  .mark fun _ => .bind (expect_reads _) fun _ => .read (h.pattern kind) fun _ =>
    .bind .finish fun _ => .pure _

theorem arrayPatternElements_reads (kind : Option Text) {fuel fuel' : Nat} (le : fuel ≤ fuel') :
    Reads e .near (arrayPatternElements g kind fuel) (arrayPatternElements g' kind fuel') := by
  induction fuel generalizing fuel' with
  | zero => exact .of_never never_giveUp
  | succ fuel ih =>
    obtain ⟨fuel', rfl⟩ : ∃ n, fuel' = n + 1 := ⟨fuel' - 1, by omega⟩
    have ih := @ih fuel' (by omega)
    refine .probe (probes_mark _) (.pure _)
      (.probe (probes_mark _) ?_ (.probe (probes_mark _) ?_ ?_))
    · exact .advance fun _ _ => .read ih fun ⟨elements, bound⟩ => .pure _
    · exact .read (restElement_reads h kind) fun ⟨element, bound⟩ => .pure _
    · refine .bind (patternWithDefault_reads h kind) fun ⟨element, bound⟩ =>
        .probe (probes_mark _) ?_ ?_
      · exact .read ih fun ⟨elements, later⟩ => .pure _
      · exact .read (expect_reads _) fun _ => .read ih fun ⟨elements, later⟩ => .pure _

theorem arrayPattern_reads (kind : Option Text) :
    Reads e .near (arrayPattern g kind) (arrayPattern g' kind) := by
  refine .mark fun start => .bind (expect_reads _) fun _ => .tokenBound ?_
  exact .read (arrayPatternElements_reads h kind e.size_le) fun ⟨elements, bound⟩ =>
    .read (expect_reads _) fun _ => .bind .finish fun _ => .pure _

theorem propertyPattern_reads (kind : Option Text) :
    Reads e .near (propertyPattern g kind) (propertyPattern g' kind) := by
  refine .mark fun start => .look (fun t isEnd => ?_) fun t _ => .ite (fun _ => ?_) fun _ => ?_
  · refine .ite (fun isName => ?_) fun _ => ?_
    · rw [dull_identifier.isEnd t isEnd] at isName
      cases isName
    · exact .probe (quiet_mark _) (propertyKey_reads (e := e) h).fails.bind
  · refine .read (variableName_reads none) fun key => .bind .finish fun init => ?_
    refine .probe (probes_mark _) (.advance fun _ _ => ?_) (.probe (probes_mark _) ?_ ?_)
    · exact .read h.assignment fun right => .bind .finish fun value =>
        .bind .finish fun _ => .pure _
    · exact .read (expect_reads _) fun _ => .read (patternWithDefault_reads h kind) fun _ =>
        .bind .finish fun _ => .pure _
    · exact .bind .finish fun _ => .pure _
  · exact .sees fun computed => .read (propertyKey_reads h) fun _ => .read (expect_reads _) fun _ =>
      .read (patternWithDefault_reads h kind) fun _ => .bind .finish fun _ => .pure _

theorem restProperty_reads : Reads e .near (restProperty g) (restProperty g') := by
  refine .mark fun start => .bind (expect_reads _) fun _ => .read (h.pattern none) fun _ => ?_
  refine .probe (probes_mark _) (.of_never never_refuse) (.probe (probes_mark _) ?_ ?_)
  · exact .bind .finish fun _ => .pure _
  · exact .of_never never_refuse

theorem objectPattern_reads (kind : Option Text) :
    Reads e .near (objectPattern g kind) (objectPattern g' kind) := by
  refine .mark fun start => .bind (expect_reads _) fun _ => ?_
  refine .then (collectWhile_inner (y := .near) (.probe (probes_mark _) ?_ ?_)) fun entries =>
    .bind (expect_reads _) fun _ => .bind .finish fun _ => .pure _
  · exact .read (restProperty_reads h) fun entry =>
      .probe (probes_mark _) (.pure _) (.read (expect_reads _) fun _ => .pure _)
  · exact .bind (propertyPattern_reads h kind) fun entry =>
      .probe (probes_mark _) (.pure _) (.read (expect_reads _) fun _ => .pure _)

theorem bindingPattern_reads (kind : Option Text) :
    Reads e .near (bindingPattern g kind) (bindingPattern g' kind) := by
  refine .probe (probes_mark _) (arrayPattern_reads h kind).live
    (.probe (probes_mark _) (objectPattern_reads h kind).live (.look (fun t _ => ?_) fun t _ => ?_))
  · exact .ite (fun _ => never_refuseToken.fails) fun _ =>
      (variableName_reads (e := e) kind).fails.bind
  · exact .ite (fun _ => .of_never never_refuseToken) fun _ =>
      .read (variableName_reads kind) fun _ => .pure _

theorem restParameter_reads : Reads e .near (restParameter g) (restParameter g') := by
  refine .mark fun start => .bind (expect_reads _) fun _ => .read (h.pattern none) fun _ => ?_
  refine .probe (probes_mark _) (.of_never never_refuse) (.probe (probes_mark _) ?_ ?_)
  · exact .bind .finish fun _ => .pure _
  · exact .of_never never_refuse

theorem parameter_reads (p : Parameters) : Reads e .near (parameter g p) (parameter g' p) := by
  refine .probe (probes_mark _) ?_ ?_
  · exact .read (restParameter_reads h) fun _ => .context fun _ _ => .pure _
  · exact .bind (patternWithDefault_reads h none) fun _ => .context fun _ _ => .pure _

omit h in
theorem parametersRest_stays (fails : ∀ p, Fails (parameter g p)) {fuel : Nat} {p : Parameters} :
    Stays (parametersRest g fuel p) := by
  cases fuel with
  | zero => exact never_giveUp.fails.stays
  | succ fuel => exact .sees fun isEnd => .ite (fun _ => .pure p) fun _ => (fails p).bind.stays

theorem parametersRest_inner {fuel fuel' : Nat} (le : fuel ≤ fuel') (p : Parameters) :
    Sim e m .inner (parametersRest g fuel p) (parametersRest g' fuel' p) := by
  have stays : ∀ {fuel p}, Stays (parametersRest g fuel p) :=
    parametersRest_stays fun p => (parameter_reads (e := e) h p).fails
  refine .of_modes ?_ (.of_stays stays)
  induction fuel generalizing fuel' p with
  | zero => exact .of_never never_giveUp
  | succ fuel ih =>
    obtain ⟨fuel', rfl⟩ : ∃ n, fuel' = n + 1 := ⟨fuel' - 1, by omega⟩
    refine .sees fun isEnd => .ite (fun _ => .pure p) fun _ =>
      .read (parameter_reads h p) fun p => ?_
    refine .probe (probes_mark _) (.pure p) (.read (expect_reads _) fun _ => ?_)
    exact .probe (probes_mark _) (.pure p) (.near (ih (by omega) p) (.of_stays stays))

theorem parameters_reads (restricted : Option Offender) (fault : Option Fault) :
    Reads e .near (parameters g restricted fault) (parameters g' restricted fault) := by
  refine .bind (expect_reads _) fun _ => .probe (probes_mark _) ?_ (.tokenBound ?_)
  · exact .bind (.pure _) fun p => .read (expect_reads _) fun _ => .pure p
  · exact .then (parametersRest_inner h e.size_le _) fun p =>
      .bind (expect_reads _) fun _ => .pure p

theorem expression_reads : Reads e .near (expression g) (expression g') := by
  refine .look (fun t _ => (h.assignment (e := e)).isolate.fails.bind) fun t _ =>
    .read h.assignment.isolate fun first => .probe (probes_mark _) ?_ (.pure first)
  refine .bind (collectWhile_near ?_ (dull_mark _)).live fun others => .finish
  exact .advance fun _ _ => h.assignment.isolate.sim

theorem directive_reads : Reads e .near (directive g) (directive g') :=
  .look (fun _ _ => (expression_reads (e := e) h).fails.bind) fun _ _ =>
    .read (expression_reads h) fun _ => .pure _

omit h in
theorem directiveNode_sim [m.Close] {start : Marker} {expr : Value} {words : Text} :
    Sim e m x (directiveNode start expr words) (directiveNode start expr words) :=
  .ite (fun _ => .finish) fun _ => .finish

omit h in
theorem still_directiveNode {start : Marker} {expr : Value} {words : Text} :
    Still (directiveNode start expr words) := by
  unfold directiveNode
  split
  · exact still_finish _ _ _
  · exact still_finish _ _ _

omit h in
theorem directives_stays {fuel : Nat} {octal : Option Token} : Stays (directives g fuel octal) := by
  cases fuel with
  | zero => exact never_giveUp.fails.stays
  | succ fuel =>
    refine .look fun t isEnd => ?_
    simp only [dull_string.isEnd t isEnd, Bool.not_false, if_true]
    exact .pure []

theorem directives_loose {fuel fuel' : Nat} (le : fuel ≤ fuel') (octal : Option Token) :
    Sim e m .loose (directives g fuel octal) (directives g' fuel' octal) := by
  induction fuel generalizing m fuel' octal with
  | zero => exact .of_never never_giveUp
  | succ fuel ih =>
    obtain ⟨fuel', rfl⟩ : ∃ n, fuel' = n + 1 := ⟨fuel' - 1, by omega⟩
    have ih := fun {m : Mode} => @ih m fuel' (by omega)
    refine .of_modes (.look fun t _ => .ite (fun _ => .pure []) fun _ => ?_)
      (.look_over fun t t' isEnd word => ?_)
    · refine .mark fun start => .read (directive_reads h) fun ⟨expr, words⟩ =>
        .split endStatement_sim (fun _ => ?_) fun _ _ => ?_
      · refine .bind directiveNode_sim fun statement => .ite (fun _ => .pure _) fun _ =>
          .ite (fun _ => .modifyContext (fun _ => ⟨rfl, rfl⟩) ?_) fun _ => ?_
        · cases octal with
          | some t => exact .of_never never_refuseToken
          | none =>
            refine .context fun c _ => .ite (fun _ => .of_never never_refuseToken) fun _ => ?_
            exact .split (ih none) (fun _ => .pure _) fun _ _ => .pure_past _ _
        · exact .split (ih _) (fun _ => .pure _) fun _ _ => .pure_past _ _
      · -- The document ends with this directive, so there is no other one.
        refine .still still_directiveNode still_directiveNode fun statement statement' =>
          .ite (fun _ => .pure_past _ _) fun _ =>
          .ite (fun _ => .modifyContext (fun _ => ⟨rfl, rfl⟩) ?_) fun _ => ?_
        · cases octal with
          | some t => exact .of_never never_refuseToken
          | none =>
            refine .context fun c _ => .ite (fun _ => .of_never never_refuseToken) fun _ => ?_
            exact .remain (ih none) directives_stays fun _ _ => .pure_past _ _
        · exact .remain (ih _) directives_stays fun _ _ => .pure_past _ _
    · have noString : t.isString = false := dull_string.isEnd t isEnd
      have noString' : t'.isString = false := dull_string.export' t' word
      simp only [noString, noString', Bool.not_false, if_true]
      exact .pure_past _ _

theorem functionBody_reads : Reads e .near (functionBody g) (functionBody g') := by
  refine .mark fun start => .bind (expect_reads _) fun _ => .tokenBound ?_
  refine .then (directives_loose h e.size_le none) fun opening =>
    .bind (.inFunction ?_) fun statements => .finish
  refine ⟨?_, ?_⟩
  · exact (collectWhile_stays (h.item (e := e)).fails).fails fun _ =>
      (expect_reads (e := e) _).fails.bind
  · exact .then (collectWhile_inner h.item) fun _ => .bind (expect_reads _) fun _ => .pure _

omit h in
theorem never_refuseOffender {α : Type} {offender : Offender} {fault : Fault} :
    Never (refuseOffender offender fault : Parse α) := by
  cases offender with
  | token t => exact never_refuseToken
  | expression => exact never_refuse

omit h in
theorem check_sim (p : Parameters) : Sim e .near .near p.check p.check := by
  refine .context fun c _ => .ite (fun _ => ?_) fun _ => .pure ()
  cases p.restricted.or p.stricted with
  | none => exact .pure ()
  | some offender =>
    cases p.fault with
    | none => exact .pure ()
    | some fault => exact .of_never never_refuseOffender

omit h in
theorem bodyAfter_reads (p : Parameters) {body body' : Parse Value}
    (hb : Reads e .near body body') :
    Reads e .near (bodyAfter p body) (bodyAfter p body') :=
  .context fun _ => .modifyContext (fun _ => ⟨rfl, rfl⟩) <| .bind hb fun _ =>
    .bind (check_sim p) fun _ => .modifyContext (fun _ => ⟨rfl, rfl⟩) (.pure _)

omit h in
theorem functionNode_sim [m.Close] {start : Marker} {tag : Text} {kind : FunctionKind} {id : Value}
    {nodes : List Value} {body : Value} :
    Sim e m x (functionNode start tag kind id nodes body)
      (functionNode start tag kind id nodes body) :=
  .ite (fun _ => .finish) fun _ => .finish

theorem methodBody_reads (p : Parameters) : Reads e .near (methodBody g p) (methodBody g' p) :=
  .markUnassignable (bodyAfter_reads p (functionBody_reads h).isolate)

theorem method_reads (kind : FunctionKind) : Reads e .near (method g kind) (method g' kind) := by
  refine .mark fun start => .context fun before => .modifyContext (fun _ => ⟨rfl, rfl⟩) <|
    .bind (parameters_reads h none none) fun p => ?_
  have rest : Sim e .near .near (do
      let body ← methodBody g p
      modifyContext fun c => { c with allowYield := before.allowYield, isAsync := before.isAsync }
      functionNode start "FunctionExpression" kind .null p.nodes body) (do
      let body ← methodBody g' p
      modifyContext fun c => { c with allowYield := before.allowYield, isAsync := before.isAsync }
      functionNode start "FunctionExpression" kind .null p.nodes body) :=
    .read (methodBody_reads h p) fun _ => .modifyContext (fun _ => ⟨rfl, rfl⟩) functionNode_sim
  exact .ite (fun _ => .modifyContext (fun _ => ⟨rfl, rfl⟩) rest) fun _ => rest

theorem getter_reads : Reads e .near (getter g) (getter g') := by
  refine .mark fun start => .withAllowYield <| .bind (parameters_reads h none none) fun p =>
    .ite (fun _ => .of_never never_refuseOnLine) fun _ => ?_
  exact .read (methodBody_reads h p) fun _ => functionNode_sim

theorem setter_reads : Reads e .near (setter g) (setter g') := by
  refine .mark fun start => .withAllowYield <| .bind (parameters_reads h none none) fun p => ?_
  cases nodes : p.nodes with
  | nil => exact .of_never never_refuseOnLine
  | cons only others =>
    cases others with
    | nil =>
      refine .ite (fun _ => .of_never never_refuseOnLine) fun _ => ?_
      exact .read (methodBody_reads h p) fun _ => functionNode_sim
    | cons _ _ => exact .of_never never_refuseOnLine

omit h in
/-- Where the document ends behind the word `async`, no function comes. -/
theorem probes_asyncFunction : Probes e atAsyncFunction := by
  refine (dull_word "async").probes_if fun {s s'} live r ok => ?_
  have asked : (lookSecond >>= fun next =>
      pure (decide (next.line = s.scanner.cursor.line) && next.isKeyword "function") : Parse Bool)
      s = .ok r := ok
  obtain ⟨⟨next, t⟩, read, rest⟩ := bind_ok.mp asked
  cases rest
  obtain ⟨next', t', read', live', same⟩ := lookSecond_live live read
  have line : s'.scanner.cursor.line = s.scanner.cursor.line := by
    rw [live.same]
    rfl
  have answer : (decide (next'.line = s.scanner.cursor.line) && next'.isKeyword "function") =
      (decide (next.line = s.scanner.cursor.line) && next.isKeyword "function") := by
    have dull : Dull fun t => t.isKeyword "function" := dull_keyword (by decide)
    rcases same with rfl | ⟨isEnd, word⟩
    · rfl
    · rw [dull.isEnd next isEnd, dull.export' next' word, Bool.and_false, Bool.and_false]
  refine ⟨t', ?_, live'⟩
  change (lookSecond >>= fun next =>
    pure (decide (next.line = s'.scanner.cursor.line) && next.isKeyword "function") : Parse Bool)
      s' = _
  rw [line, bind_run _ read', ← answer]
  rfl

omit h in
theorem functionHead_reads : Reads e .near functionHead functionHead := by
  refine .probe (probes_word _) (.advance fun _ _ => ?_) (.bind (expectKeyword_reads _) fun _ => ?_)
  · exact .read (expectKeyword_reads _) fun _ => .pure _
  · exact .probe (probes_mark _) (.advance fun _ _ => .pure _) (.pure _)

omit h in
theorem nameObjection_sim [m.Close] (t : Token) :
    Sim e m .near (nameObjection t) (nameObjection t) := by
  refine .context fun c _ => .ite (fun _ => ?_) fun _ => ?_
  · exact .ite (fun _ => .of_never never_refuseToken) fun _ => .pure _
  · exact .ite (fun _ => .pure _) fun _ => .ite (fun _ => .pure _) fun _ => .pure _

theorem functionRest_reads (before : Context) (restricted : Option Offender)
    (fault : Option Fault) :
    Reads e .near (functionRest g before restricted fault)
      (functionRest g' before restricted fault) :=
  .bind (parameters_reads h restricted fault) fun p =>
    .read (bodyAfter_reads p (functionBody_reads h))
    fun _ => .modifyContext (fun _ => ⟨rfl, rfl⟩) (.pure _)

theorem functionAfterName_sim (before : Context) (start : Marker) (tag : Text) (kind : FunctionKind)
    (id : Value) (restricted : Option Offender) (fault : Option Fault) :
    Sim e .near .near (do
      let (nodes, body) ← functionRest g before restricted fault
      functionNode start tag kind id nodes body) (do
      let (nodes, body) ← functionRest g' before restricted fault
      functionNode start tag kind id nodes body) :=
  .read (functionRest_reads h before restricted fault) fun _ => functionNode_sim

theorem functionEntered_sim (start : Marker) (kind : FunctionKind) (id : Value)
    (restricted : Option Offender) (fault : Option Fault) :
    Sim e .near .near (do
      let before ← context
      enterFunction kind
      let (nodes, body) ← functionRest g before restricted fault
      functionNode start "FunctionDeclaration" kind id nodes body) (do
      let before ← context
      enterFunction kind
      let (nodes, body) ← functionRest g' before restricted fault
      functionNode start "FunctionDeclaration" kind id nodes body) :=
  .context fun before _ => .modifyContext (fun _ => ⟨rfl, rfl⟩) <|
    functionAfterName_sim h before start _ kind id restricted fault

theorem functionDeclaration_reads (isNameOptional : Bool) :
    Reads e .near (functionDeclaration g isNameOptional)
      (functionDeclaration g' isNameOptional) := by
  refine .mark fun start => .bind functionHead_reads fun kind => ?_
  have rest := functionEntered_sim (e := e) h start kind
  have fails := (variableName_reads (e := e) none).fails
  cases isNameOptional with
  | true =>
    refine .probe (probes_mark _) (.look fun t _ => ?_) (.near (.look fun t _ => ?_) ?_)
    · exact .bind (.pure _) fun id => .bind (.pure _) fun _ => rest id _ _
    · exact .read (variableName_reads none) fun id =>
        .bind (nameObjection_sim t) fun _ => rest id _ _
    · exact .look_over fun _ _ _ _ => .of_fails fails.bind
  | false =>
    refine .probe (probes_mark _) (.look fun t _ => ?_) (.near (.look fun t _ => ?_) ?_)
    · exact .read (variableName_reads none) fun id =>
        .bind (nameObjection_sim t) fun _ => rest id _ _
    · exact .read (variableName_reads none) fun id =>
        .bind (nameObjection_sim t) fun _ => rest id _ _
    · exact .look_over fun _ _ _ _ => .of_fails fails.bind

theorem functionExpression_reads :
    Reads e .near (functionExpression g) (functionExpression g') := by
  refine .mark fun start => .bind functionHead_reads fun kind => .context fun before _ =>
    .modifyContext (fun _ => ⟨rfl, rfl⟩) ?_
  have rest := functionAfterName_sim (e := e) h before start "FunctionExpression" kind
  refine .probe (probes_mark _) (.look fun t _ => ?_) (.near (.look fun t _ => ?_) ?_)
  · exact .bind (.pure _) fun id => .bind (.pure _) fun _ => rest id _ _
  · refine .ite (fun no => absurd no (by decide)) fun _ => .ite (fun _ => ?_) fun _ => ?_
    · exact .read anyName_reads fun id => .bind (nameObjection_sim t) fun _ => rest id _ _
    · exact .read (variableName_reads none) fun id =>
        .bind (nameObjection_sim t) fun _ => rest id _ _
  · refine .look_over fun t t' isEnd _ => .of_fails ?_
    refine .ite (fun no => absurd no (by decide)) fun _ => .ite (fun _ => ?_) fun _ => ?_
    · exact (anyName_reads (e := e)).fails.bind
    · exact (variableName_reads (e := e) none).fails.bind

theorem staticHead_inner (t : Token) (key : Value) (computed : Bool) :
    Sim e .near .inner (staticHead g t key computed) (staticHead g' t key computed) := by
  have fails := (propertyKey_reads (e := e) h).fails
  refine .near (.look fun next _ => .ite (fun _ => ?_) fun _ => .pure _) (.of_stays ?_)
  · exact .sees fun computed => .probe (probes_mark _) (.advance fun _ _ => .pure _)
      (.read (propertyKey_reads h) fun _ => .pure _)
  · refine .look fun next _ => .ite (fun _ => ?_) fun _ => .pure _
    exact .probe (quiet_mark _) (.probe (quiet_mark _) fails.bind.stays)

omit h in
theorem asyncHead_stays (fails : Fails (propertyKey g)) (head : MemberHead) :
    Stays (asyncHead g head) :=
  .look fun _ _ => .atLineBreak fun _ => .ite (fun _ => fails.bind.stays) fun _ => .pure _

theorem asyncHead_inner (head : MemberHead) :
    Sim e .live .inner (asyncHead g head) (asyncHead g' head) := by
  refine .look fun after _ => .atLineBreak fun _ => .ite (fun _ => ?_) fun _ => .pure _
  exact .read (propertyKey_reads h) fun _ =>
    .ite (fun _ => .of_never never_refuseToken) fun _ => .pure _

theorem memberHead_reads : Reads e .inner (memberHead g) (memberHead g') := by
  have fails := (propertyKey_reads (e := e) h).fails
  refine .look (fun t _ => ?_) fun t _ => .probe (probes_mark _) (.advance fun _ _ => .pure _) ?_
  · exact .probe (quiet_mark _) (.probe (quiet_mark _) fails.bind)
  · exact .sees fun computed => .read (propertyKey_reads h) fun key =>
      .within (staticHead_inner h t key computed) (asyncHead_stays fails) (asyncHead_inner h)

theorem memberValue_reads (head : MemberHead) :
    Reads e .near (memberValue g head) (memberValue g' head) := by
  have keyed : Reads e .near (do
      let computed ← atMark "["
      let key ← propertyKey g
      return ({ head with key := key, computed := computed } : MemberHead)) (do
      let computed ← atMark "["
      let key ← propertyKey g'
      return ({ head with key := key, computed := computed } : MemberHead)) :=
    .sees fun computed => .bind (propertyKey_reads h) fun _ => .pure _
  refine .look (fun t isEnd => ?_) fun t _ => ?_
  · have none : t.isPropertyStart = false := by simp [Token.isPropertyStart, lexeme_of_isEnd isEnd]
    simp only [none, Bool.and_false, Bool.false_eq_true, if_false]
    refine .probe (quiet_mark _) ?_
    simp only [Bool.and_false, Bool.false_eq_true, if_false]
    exact (Never.bind_right fun _ => never_unexpected).fails
  · refine .ite (fun _ => ?_) fun _ => .ite (fun _ => ?_) fun _ => .ite (fun _ => ?_) fun _ => ?_
    · exact .read keyed fun _ => .modifyContext (fun _ => ⟨rfl, rfl⟩) <|
        .read (getter_reads h) fun _ => .pure _
    · exact .read keyed fun _ => .read (setter_reads h) fun _ => .pure _
    · exact .read keyed fun _ => .read (method_reads h _) fun _ => .pure _
    · refine .probe (probes_mark _) (.ite (fun _ => ?_) fun _ => ?_)
        (.ite (fun _ => ?_) fun _ => ?_)
      · exact .read (method_reads h _) fun _ => .pure _
      · exact .of_never (.bind_right fun _ => never_unexpected)
      · exact .read (method_reads h _) fun _ => .pure _
      · exact .of_never (.bind_right fun _ => never_unexpected)

theorem classMember_reads (hasConstructor : Bool) :
    Reads e .near (classMember g hasConstructor) (classMember g' hasConstructor) := by
  refine .mark fun start => .then (memberHead_reads h) fun head =>
    .bind (memberValue_reads h head) fun ⟨head, kind, value⟩ => ?_
  exact .ite (fun _ => .of_never never_refuseToken) fun _ =>
    .ite (fun _ => .of_never never_refuseToken)
    fun _ => .ite (fun _ => .of_never never_refuseToken) fun _ => .bind .finish fun _ => .pure _

theorem classMembers_reads {fuel fuel' : Nat} (le : fuel ≤ fuel') (hasConstructor : Bool) :
    Reads e .near (classMembers g fuel hasConstructor) (classMembers g' fuel' hasConstructor) := by
  induction fuel generalizing fuel' hasConstructor with
  | zero => exact .of_never never_giveUp
  | succ fuel ih =>
    obtain ⟨fuel', rfl⟩ : ∃ n, fuel' = n + 1 := ⟨fuel' - 1, by omega⟩
    have ih := @ih fuel' (by omega)
    refine .probe (probes_mark _) (.pure []) (.probe (probes_mark _) (.advance fun _ _ => ?_) ?_)
    · exact (ih hasConstructor).sim
    · exact .bind (classMember_reads h hasConstructor) fun ⟨member, hasConstructor⟩ =>
        .read (ih hasConstructor) fun _ => .pure _

theorem classBody_reads : Reads e .near (classBody g) (classBody g') :=
  .mark fun _ => .bind (expect_reads _) fun _ => .tokenBound <|
    .read (classMembers_reads h e.size_le false) fun _ => .read (expect_reads _) fun _ => .finish

theorem classNode_reads (tag : Text) {name name' : Parse Value}
    (hn : Sim e .near .near name name') :
    Reads e .near (classNode g tag name) (classNode g' tag name') := by
  refine .mark fun start => .context fun before => .modifyContext (fun _ => ⟨rfl, rfl⟩) <|
    .bind (expectKeyword_reads _) fun _ => .bind hn fun id => ?_
  have rest : ∀ superClass, Sim e .near .near (do
      let body ← classBody g
      modifyContext fun c => { c with strict := before.strict }
      finish start tag [("id", id), ("superClass", superClass), ("body", body)]) (do
      let body ← classBody g'
      modifyContext fun c => { c with strict := before.strict }
      finish start tag [("id", id), ("superClass", superClass), ("body", body)]) := fun _ =>
    .read (classBody_reads h) fun _ => .modifyContext (fun _ => ⟨rfl, rfl⟩) .finish
  refine .probe (probes_keyword (by decide)) (.advance fun _ _ => ?_) ?_
  · exact .read h.chain.isolate fun superClass => rest superClass
  · exact .bind (.pure _) fun superClass => rest superClass

theorem classDeclaration_reads (isNameOptional : Bool) :
    Reads e .near (classDeclaration g isNameOptional) (classDeclaration g' isNameOptional) := by
  refine classNode_reads h _ (.probe dull_identifier.probes ?_ ?_)
  · exact .ite (fun _ => .pure _) fun _ => (variableName_reads none).sim
  · exact .ite (fun _ => .pure _) fun _ => (variableName_reads none).sim

theorem classExpression_reads : Reads e .near (classExpression g) (classExpression g') :=
  classNode_reads h _ (.probe dull_identifier.probes (variableName_reads none).sim (.pure _))

end

end ExportList.Script
