import ExportList.Proofs.Script.Binding

/-!
Expressions read the same on a document and on the document with an export list behind it.
-/

set_option autoImplicit false

namespace ExportList.Script

variable {e : Setting} {m : Mode} {x : Exit} {g g' : Grammar}

theorem templatePart_reads : Reads e .near templatePart templatePart := by
  refine .mark fun start => .advance (fun t isEnd => ?_) fun t _ => ?_
  · obtain ⟨lexeme, _, _, _, _, _⟩ := t
    cases lexeme_of_isEnd isEnd
    exact never_refuse
  · obtain ⟨lexeme, _, _, _, _, _⟩ := t
    cases lexeme with
    | template raw cooked isHead isTail => exact .bind .finish fun _ => .pure _
    | _ => exact .of_never never_refuse

section

variable (h : g.Alike g')

include h

theorem templateRest_sim {fuel fuel' : Nat} (le : fuel ≤ fuel') (isTail : Bool) :
    Sim e .near .near (templateRest g fuel isTail) (templateRest g' fuel' isTail) := by
  cases isTail with
  | true =>
    simp only [templateRest]
    exact .pure _
  | false =>
    induction fuel generalizing fuel' with
    | zero => exact .of_never never_giveUp
    | succ fuel ih =>
      obtain ⟨fuel', rfl⟩ : ∃ n, fuel' = n + 1 := ⟨fuel' - 1, by omega⟩
      refine .read (expression_reads h) fun expr =>
        .probe dull_template.probes ?_ (.of_never never_refuse)
      refine .read templatePart_reads fun ⟨part, isTail⟩ => ?_
      cases isTail with
      | true =>
        simp only [templateRest]
        exact .bind (.pure _) fun _ => .pure _
      | false => exact .bind (ih (by omega)) fun _ => .pure _

theorem template_reads : Reads e .near (template g) (template g') := by
  refine .mark fun start => .probe dull_templateHead.probes ?_
    (.of_never (.bind_right fun _ => never_unexpected))
  refine .read templatePart_reads fun ⟨head, isTail⟩ => .tokenBound ?_
  exact .bind (templateRest_sim h e.size_le isTail) fun _ => .finish

theorem spread_reads : Reads e .near (spread g) (spread g') :=
  .mark fun _ => .bind (expect_reads _) fun _ => .read h.assignment.inherit fun _ => .finish

theorem arrayElements_reads {fuel fuel' : Nat} (le : fuel ≤ fuel') :
    Reads e .near (arrayElements g fuel) (arrayElements g' fuel') := by
  induction fuel generalizing fuel' with
  | zero => exact .of_never never_giveUp
  | succ fuel ih =>
    obtain ⟨fuel', rfl⟩ : ∃ n, fuel' = n + 1 := ⟨fuel' - 1, by omega⟩
    have ih := @ih fuel' (by omega)
    refine .probe (probes_mark _) (.pure []) (.probe (probes_mark _) (.advance fun _ _ => ?_)
      (.probe (probes_mark _) ?_ ?_))
    · exact .read ih fun _ => .pure _
    · refine .read (spread_reads h) fun element => .probe (probes_mark _) ?_ (.markUnassignable ?_)
      · exact .read ih fun _ => .pure _
      · exact .read (expect_reads _) fun _ => .read ih fun _ => .pure _
    · refine .bind h.assignment.inherit fun element => .probe (probes_mark _) ?_ ?_
      · exact .read ih fun _ => .pure _
      · exact .read (expect_reads _) fun _ => .read ih fun _ => .pure _

theorem array_reads : Reads e .near (array g) (array g') :=
  .mark fun _ => .bind (expect_reads _) fun _ => .tokenBound <|
    .read (arrayElements_reads h e.size_le) fun _ => .read (expect_reads _) fun _ => .finish

section Properties

variable (start : Marker) (t : Token) (key : Value) (computed isAsync hasPrototype : Bool)

theorem methodOrShorthand_sim : Sim e .live .near (methodOrShorthand g start t key computed isAsync)
    (methodOrShorthand g' start t key computed isAsync) := by
  refine .choose (probes_mark _) (.read (method_reads h _) fun _ => .finish)
    (.ite (fun _ => ?_) fun _ => ?_)
  · refine .bind .finish fun id => .probe (probes_mark _) (.look fun mark _ => ?_) .finish
    exact .modifyContext (fun _ => ⟨rfl, rfl⟩) <| .advance fun _ _ =>
      .read h.assignment.isolate fun _ => .bind .finish fun _ => .finish
  · exact .of_never (.bind_right fun _ => never_unexpected)

omit h in
theorem methodOrShorthand_stays :
    Stays (methodOrShorthand g start t key computed isAsync) := by
  refine .choose (quiet_mark _) (.ite (fun _ => ?_) fun _ => ?_)
  · exact .bind .finish fun _ => .probe (quiet_mark _) .finish
  · exact (Never.bind_right fun _ => never_unexpected).fails.stays

theorem propertyRest_sim :
    Sim e .live .near (propertyRest g start t key computed isAsync hasPrototype)
      (propertyRest g' start t key computed isAsync hasPrototype) := by
  have other : Sim e .live .near
      (methodOrShorthand g start t key computed isAsync >>= fun value => pure (value, hasPrototype))
      (methodOrShorthand g' start t key computed isAsync >>= fun value =>
        pure (value, hasPrototype)) :=
    .bind (methodOrShorthand_sim h start t key computed isAsync) fun _ => .pure _
  refine .probe (probes_mark _) (.ite (fun _ => ?_) fun _ => other) (.ite nofun fun _ => other)
  refine .ite (fun _ => .of_never never_refuseOnLine) fun _ => .advance fun _ _ => ?_
  exact .read h.assignment.inherit fun _ => .bind .finish fun _ => .pure _

omit h in
theorem propertyRest_stays :
    Stays (propertyRest g start t key computed isAsync hasPrototype) := by
  refine .probe (quiet_mark _) (.ite nofun fun _ => ?_)
  exact .bind (methodOrShorthand_stays start t key computed isAsync) fun _ => .pure _

theorem propertyAfter_sim :
    Sim e .live .near (propertyAfter g start t key computed isAsync hasPrototype)
      (propertyAfter g' start t key computed isAsync hasPrototype) := by
  refine .look fun next _ => .ite (fun _ => ?_) fun _ => .ite (fun _ => ?_) fun _ =>
    .ite (fun _ => ?_) fun _ => .ite (fun _ => ?_) fun _ => ?_
  · exact .sees fun computed => .read (propertyKey_reads h) fun _ =>
      .modifyContext (fun _ => ⟨rfl, rfl⟩) <| .read (getter_reads h) fun _ =>
        .bind .finish fun _ => .pure _
  · exact .sees fun computed => .read (propertyKey_reads h) fun _ => .read (setter_reads h) fun _ =>
      .bind .finish fun _ => .pure _
  · exact .sees fun computed => .read (propertyKey_reads h) fun _ =>
      .read (method_reads h _) fun _ => .bind .finish fun _ => .pure _
  · exact .of_never (.bind_right fun _ => never_unexpected)
  · exact propertyRest_sim h start t key computed isAsync hasPrototype

omit h in
theorem propertyAfter_stays :
    Stays (propertyAfter g start t key computed isAsync hasPrototype) := by
  refine .look fun next isEnd => ?_
  have none : next.isPropertyStart = false := by simp [Token.isPropertyStart, lexeme_of_isEnd isEnd]
  simp only [none, Bool.and_false, Bool.false_eq_true, if_false]
  refine .ite (fun _ => ?_) fun _ => propertyRest_stays start t key computed isAsync hasPrototype
  exact (Never.bind_right fun _ => never_unexpected).fails.stays

theorem propertyHead_inner :
    Sim e .live .inner (propertyHead g start t) (propertyHead g' start t) := by
  have fails := (propertyKey_reads (e := e) h).fails
  refine .ite (fun _ => .advance fun _ _ => .near ?_ (.of_stays ?_)) fun _ =>
    .probe (probes_mark _) (.advance fun _ _ => .pure _) ?_
  · exact .sees fun computed => .look fun next _ => .atLineBreak fun isBroken => .ite
      (fun _ => .read (propertyKey_reads h) fun _ => .pure _) fun _ =>
        .bind .finish fun _ => .pure _
  · exact .probe (quiet_mark _) <| .look fun _ _ => .atLineBreak fun _ => .ite
      (fun _ => fails.bind.stays) fun _ => .bind .finish fun _ => .pure _
  · exact .sees fun computed => .read (propertyKey_reads h) fun _ => .pure _

theorem property_reads : Reads e .inner (property g hasPrototype) (property g' hasPrototype) := by
  refine .mark fun start => .look (fun t isEnd => ?_) fun t _ => ?_
  · refine Fails.bind (.ite (fun isName => ?_) fun _ => ?_)
    · rw [dull_identifier.isEnd t isEnd] at isName
      cases isName
    · exact .probe (quiet_mark _) (.probe (quiet_mark _) (propertyKey_reads (e := e) h).fails.bind)
  · exact .within (propertyHead_inner h start t)
      (fun ⟨key, computed, isAsync⟩ =>
        propertyAfter_stays start t key computed isAsync hasPrototype)
      fun ⟨key, computed, isAsync⟩ =>
        (propertyAfter_sim h start t key computed isAsync hasPrototype).inner

end Properties

theorem properties_reads {fuel fuel' : Nat} (le : fuel ≤ fuel') (hasPrototype : Bool) :
    Reads e .near (properties g fuel hasPrototype) (properties g' fuel' hasPrototype) := by
  induction fuel generalizing fuel' hasPrototype with
  | zero => exact .of_never never_giveUp
  | succ fuel ih =>
    obtain ⟨fuel', rfl⟩ : ∃ n, fuel' = n + 1 := ⟨fuel' - 1, by omega⟩
    have ih := @ih fuel' (by omega)
    refine .probe (probes_mark _) (.pure []) (.probe (probes_mark _) ?_ ?_)
    · refine .read (spread_reads h) fun entry => .bind (.pure _) fun ⟨entry, hasPrototype⟩ =>
        .probe (probes_mark _) ?_ ?_
      · exact .read (ih hasPrototype) fun _ => .pure _
      · exact .read (expect_reads _) fun _ => .read (ih hasPrototype) fun _ => .pure _
    · refine .then (property_reads h hasPrototype) fun ⟨entry, hasPrototype⟩ =>
        .probe (probes_mark _) ?_ ?_
      · exact .read (ih hasPrototype) fun _ => .pure _
      · exact .bind (expect_reads _) fun _ => .read (ih hasPrototype) fun _ => .pure _

theorem object_reads : Reads e .near (object g) (object g') :=
  .mark fun _ => .bind (expect_reads _) fun _ => .tokenBound <|
    .read (properties_reads h e.size_le false) fun _ => .read (expect_reads _) fun _ => .finish

omit h in
theorem requireArrow_reads : Reads e .near requireArrow requireArrow :=
  .probe (probes_mark _) (.pure ()) (expect_reads _)

theorem groupRest_sim {fuel fuel' : Nat} (le : fuel ≤ fuel') (exprs : List Value) :
    Sim e .near .near (groupRest g fuel exprs) (groupRest g' fuel' exprs) := by
  induction fuel generalizing fuel' exprs with
  | zero => exact .of_never never_giveUp
  | succ fuel ih =>
    obtain ⟨fuel', rfl⟩ : ∃ n, fuel' = n + 1 := ⟨fuel' - 1, by omega⟩
    refine .probe (probes_mark _) (.advance fun _ _ =>
      .probe (probes_mark _) (.advance fun _ _ => .pure _)
      (.probe (probes_mark _) (.context fun c _ => .ite (fun _ => ?_) fun _ => ?_) ?_)) (.pure _)
    · exact .of_never (.bind_right fun _ => never_unexpected)
    · exact .read (restParameter_reads h) fun _ => .read (expect_reads _) fun _ =>
        .read requireArrow_reads fun _ => .modifyContext (fun _ => ⟨rfl, rfl⟩) (.pure _)
    · exact .read h.assignment.inherit fun expr => ih (by omega) (expr :: exprs)

omit h in
theorem groupOrParameters_reads (expr : Value) :
    Reads e .near (groupOrParameters expr) (groupOrParameters expr) := by
  refine .bind (expect_reads _) fun _ => .choose (probes_mark _) (.ite (fun _ => ?_) fun _ => ?_) ?_
  · exact .bind (.pure _) fun _ => .modifyContext (fun _ => ⟨rfl, rfl⟩) (.pure _)
  · refine .context fun c _ => .ite (fun _ => ?_) fun _ => .ite (fun _ => ?_) fun _ => ?_
    · exact .of_never (.bind_right fun _ => never_unexpected.bind)
    · exact .bind (.pure _) fun _ => .modifyContext (fun _ => ⟨rfl, rfl⟩) (.pure _)
    · exact .bind (.pure _) fun _ => .modifyContext (fun _ => ⟨rfl, rfl⟩) (.pure _)
  · exact .bind (.pure _) fun _ => .modifyContext (fun _ => ⟨rfl, rfl⟩) (.pure _)

theorem group_reads : Reads e .near (group g) (group g') := by
  refine .bind (expect_reads _) fun _ => .probe (probes_mark _) (.advance fun _ _ => ?_) ?_
  · exact .read requireArrow_reads fun _ => .pure _
  · refine .near (.look fun startToken _ => .choose (probes_mark _) ?_ ?_)
      (.look_over fun _ _ _ _ => ?_)
    · exact .read (restParameter_reads h) fun _ => .read (expect_reads _) fun _ =>
        .read requireArrow_reads fun _ => .pure _
    · refine .modifyContext (fun _ => ⟨rfl, rfl⟩) <| .read h.assignment.inherit fun first =>
        .choose (probes_mark _) ?_ (groupOrParameters_reads first).sim
      refine .modifyContext (fun _ => ⟨rfl, rfl⟩) <| .tokenBound <|
        .bind (groupRest_sim h e.size_le [first]).live fun ⟨exprs, parameters⟩ => ?_
      cases parameters with
      | some parameters => exact .pure _
      | none => exact .bind .finish fun sequence => (groupOrParameters_reads sequence).sim
    · exact .of_fails <| .probe (quiet_mark _) <|
        .modifyContext (h.assignment (e := e)).inherit.fails.bind

omit h in
theorem probes_importCall : Probes e atImportCall := by
  refine (dull_keyword (by decide)).probes_if fun {s s'} live r ok => ?_
  obtain ⟨⟨next, t⟩, read, rest⟩ := bind_ok.mp ok
  cases rest
  obtain ⟨next', t', read', live', same⟩ := lookSecond_live live read
  have answer : next'.isMark "(" = next.isMark "(" := by
    rcases same with rfl | ⟨isEnd, word⟩
    · rfl
    · rw [(dull_mark "(").isEnd next isEnd, (dull_mark "(").export' next' word]
  refine ⟨t', ?_, live'⟩
  rw [bind_run _ read', answer]
  rfl

omit h in
theorem regularExpression_sim : Sim e .live .near regularExpression regularExpression := by
  refine .mark fun start => .markUnassignable <| .rereadPattern <| .advance fun token _ => ?_
  obtain ⟨lexeme, _, _, _, _, _⟩ := token
  cases lexeme with
  | pattern body flags => exact .finish
  | _ => exact .of_never never_unexpected

theorem keywordExpression_sim : Sim e .live .near (keywordExpression g) (keywordExpression g') := by
  refine .mark fun start => .context fun c _ => .sees fun _ =>
    .ite (fun _ => anyName_reads.live) fun _ => .sees fun _ =>
    .ite (fun _ => .advance fun _ _ => .finish) fun _ => .markUnassignable ?_
  refine .choose (probes_keyword (by decide)) (functionExpression_reads h).live <|
    .choose (probes_keyword (by decide)) (.advance fun _ _ => .finish) <|
    .choose (probes_keyword (by decide)) (classExpression_reads h).live <|
    .choose probes_importCall (.read (expectKeyword_reads _) fun _ => .finish) ?_
  exact .of_never (.bind_right fun _ => never_unexpected)

theorem primary_reads : Reads e .near (primary g) (primary g') := by
  refine .mark fun start => .look (fun t isEnd => ?_) fun t _ => ?_
  · obtain ⟨lexeme, _, _, _, _, _⟩ := t
    cases lexeme_of_isEnd isEnd
    exact (Never.bind_right fun _ => never_unexpected).fails
  · have literal : ∀ t : Token, Sim e .live .near
        (context >>= fun c => if (c.strict && t.isOctal) = true then refuseToken t .strictOctal
          else markUnassignable >>= fun _ => advance >>= fun t => literalNode start t)
        (context >>= fun c => if (c.strict && t.isOctal) = true then refuseToken t .strictOctal
          else markUnassignable >>= fun _ => advance >>= fun t => literalNode start t) := fun t =>
      .context fun c _ => .ite (fun _ => .of_never never_refuseToken) fun _ =>
        .markUnassignable <| .advance fun _ _ => .finish
    obtain ⟨lexeme, _, _, _, _, _⟩ := t
    cases lexeme with
    | identifier name =>
      refine .context fun c _ => .ite (fun _ => .of_never never_unexpected) fun _ => ?_
      exact .choose probes_asyncFunction (functionExpression_reads h).live
        (.advance fun _ _ => .finish)
    | number value octal => exact literal _
    | string value octal => exact literal _
    | boolean value => exact .markUnassignable <| .advance fun _ _ => .finish
    | null => exact .markUnassignable <| .advance fun _ _ => .finish
    | template raw cooked isHead isTail => exact (template_reads h).live
    | keyword word => exact keywordExpression_sim h
    | mark text =>
      refine .ite (fun _ => ?_) fun _ => .ite (fun _ => (array_reads h).inherit.live) fun _ =>
        .ite (fun _ => (object_reads h).inherit.live) fun _ =>
        .ite (fun _ => regularExpression_sim) fun _ =>
          .of_never (.bind_right fun _ => never_unexpected)
      exact .modifyContext (fun _ => ⟨rfl, rfl⟩) (group_reads h).inherit.live
    | _ => exact .of_never (.bind_right fun _ => never_unexpected)

theorem argumentsRest_reads {argument argument' : Parse Value}
    (ha : Reads e .near argument argument') {fuel fuel' : Nat} (le : fuel ≤ fuel') :
    Reads e .near (argumentsRest g argument fuel) (argumentsRest g' argument' fuel') := by
  induction fuel generalizing fuel' with
  | zero => exact .of_never never_giveUp
  | succ fuel ih =>
    obtain ⟨fuel', rfl⟩ : ∃ n, fuel' = n + 1 := ⟨fuel' - 1, by omega⟩
    have ih := @ih fuel' (by omega)
    refine .probe (probes_mark _) ?_ ?_
    · exact .read (spread_reads h) fun first => .choose (probes_mark _) (.pure _) <|
        .read (expect_reads _) fun _ => .choose (probes_mark _) (.pure _) <|
          .read ih fun _ => .pure _
    · exact .bind ha.isolate fun first => .choose (probes_mark _) (.pure _) <|
        .read (expect_reads _) fun _ => .choose (probes_mark _) (.pure _) <|
          .read ih fun _ => .pure _

theorem callArguments_reads {argument argument' : Parse Value}
    (ha : Reads e .near argument argument') :
    Reads e .near (callArguments g argument) (callArguments g' argument') := by
  refine .bind (expect_reads _) fun _ => .probe (probes_mark _) ?_ (.tokenBound ?_)
  · exact .bind (.pure _) fun _ => .read (expect_reads _) fun _ => .pure _
  · exact .read (argumentsRest_reads h ha e.size_le) fun _ =>
      .read (expect_reads _) fun _ => .pure _

theorem asyncArgument_reads : Reads e .near (asyncArgument g) (asyncArgument g') :=
  .bind h.assignment fun _ => .modifyContext (fun _ => ⟨rfl, rfl⟩) (.pure _)

omit h in
theorem staticMember_reads (start : Marker) (object : Value) :
    Reads e .near (staticMember start object) (staticMember start object) :=
  .modifyContext (fun _ => ⟨rfl, rfl⟩) <| .bind (expect_reads _) fun _ =>
    .read anyName_reads fun _ => .finish

theorem computedMember_reads (start : Marker) (object : Value) :
    Reads e .near (computedMember g start object) (computedMember g' start object) :=
  .modifyContext (fun _ => ⟨rfl, rfl⟩) <| .bind (expect_reads _) fun _ =>
    .read (expression_reads h).isolate fun _ => .read (expect_reads _) fun _ => .finish

theorem taggedTemplate_reads (start : Marker) (tag : Value) :
    Reads e .near (taggedTemplate g start tag) (taggedTemplate g' start tag) :=
  .bind (template_reads h) fun _ => .finish

theorem creation_reads : Reads e .near (creation g) (creation g') := by
  refine .mark fun start => .bind anyName_reads fun id =>
    .choose (probes_mark _) (.advance fun _ _ => ?_) <|
    .choose (probes_keyword (by decide)) (.of_never (.bind_right fun _ => never_unexpected)) ?_
  · refine .near (.look fun t _ => .context fun c _ => .ite (fun _ => ?_) fun _ => ?_)
      (.look_over fun t t' isEnd _ => .context fun c _ =>
        .of_fails (.ite (fun isTarget => ?_) fun _ => ?_))
    · exact .read anyName_reads fun _ => .finish
    · exact .of_never never_unexpected
    · exact (anyName_reads (e := e)).fails.bind
    · exact never_unexpected.fails
  · refine .read h.member.isolate fun callee => .probe (probes_mark _) ?_ ?_
    · exact .read (callArguments_reads h h.assignment) fun _ => .markUnassignable .finish
    · exact .bind (.pure _) fun _ => .markUnassignable .finish

theorem memberStep_sim (start : Marker) (expr : Value) :
    Sim e .near .near (memberStep g start expr) (memberStep g' start expr) :=
  .choose (probes_mark _) (.map _ (computedMember_reads h start expr)) <|
    .choose (probes_mark _) (.map _ (staticMember_reads start expr)) <|
    .choose dull_templateHead.probes (.map _ (taggedTemplate_reads h start expr)) (.pure none)

theorem callStep_sim (startToken : Token) (maybeAsync : Bool) (expr : Value) :
    Sim e .near .near (callStep g startToken maybeAsync expr)
      (callStep g' startToken maybeAsync expr) := by
  refine .choose (probes_mark _) (.map _ (staticMember_reads _ expr)) <|
    .choose (probes_mark _) (.look fun t _ => .markUnassignable ?_) <|
    .choose (probes_mark _) (.map _ (computedMember_reads h _ expr)) <|
    .choose dull_templateHead.probes (.map _ (taggedTemplate_reads h _ expr)) (.pure none)
  refine .read (callArguments_reads h (.ite (fun _ => asyncArgument_reads h) fun _ => h.assignment))
    fun arguments => .ite (fun _ => .of_never never_refuseOnLine) fun _ => .bind .finish fun call =>
      .probe (probes_mark _) (.ite (fun _ => .pure _) fun _ => .pure _) ?_
  exact .ite (fun _ => .pure _) fun _ => .pure _

theorem newOrPrimary_reads :
    Reads e .near
      (atKeyword "new" >>= fun a => if a = true then inherit (creation g) else inherit (primary g))
      (atKeyword "new" >>= fun a =>
        if a = true then inherit (creation g') else inherit (primary g')) :=
  .choose (probes_keyword (by decide)) (creation_reads h).inherit.live (primary_reads h).inherit

theorem chainHead_reads : Reads e .near (chainHead g) (chainHead g') := by
  have other := newOrPrimary_reads (e := e) h
  refine .probe (probes_keyword (by decide))
    (.context fun c _ => .ite (fun _ => ?_) fun _ => other.live)
    (.context fun c => .ite nofun fun _ => other)
  refine .mark fun start => .advance fun _ _ => .bind .finish fun node =>
    .either (probes_mark _) (probes_mark _) (fun a₁ a₂ _ => ?_) ?_
  · refine .sees fun a₃ => .ite (fun _ => .pure _) fun _ => ?_
    exact .of_never (.bind_right fun _ => never_unexpected)
  · refine .probe (probes_mark _) (.pure _) ?_
    exact .of_never (.bind_right fun _ => never_unexpected)

theorem chain_reads : Reads e .near (chain g) (chain g') :=
  .look_any fun _ => .sees fun _ => .withAllowIn <|
    .bind (chainHead_reads h) fun first => .tokenBound
    (iterate_near (callStep_sim h _ _) e.size_le first)

theorem calleeHead_reads : Reads e .near (calleeHead g) (calleeHead g') := by
  have other := newOrPrimary_reads (e := e) h
  refine .probe (probes_keyword (by decide))
    (.context fun c _ => .ite (fun _ => ?_) fun _ => other.live)
    (.context fun c => .ite nofun fun _ => other)
  refine .mark fun start => .read (expectKeyword_reads _) fun _ =>
    .either (probes_mark _) (probes_mark _) (fun a₁ a₂ _ => ?_) ?_
  · exact .ite (fun _ => .finish) fun _ => .of_never (.bind_right fun _ => never_unexpected)
  · exact .of_never (.bind_right fun _ => never_unexpected)

theorem member_reads : Reads e .near (member g) (member g') :=
  .look_read (calleeHead_reads h) fun _ first => .tokenBound
    (iterate_near (memberStep_sim h _) e.size_le first)

theorem update_reads : Reads e .near (update g) (update g') := by
  refine .look (fun t _ => ?_) fun t _ =>
    .either (probes_mark _) (probes_mark _) (fun a₁ a₂ yes => ?_) ?_
  · exact .probe (quiet_mark _) (.probe (quiet_mark _) (chain_reads (e := e) h).inherit.fails.bind)
  · refine .ite (fun _ => .advance fun t _ => ?_) fun no => (no yes).elim
    refine .read h.unary.inherit fun argument => .context fun c _ =>
      .ite (fun _ => .of_never never_refuseOnLine) fun _ => .context fun c _ =>
      .ite (fun _ => .of_never never_refuseOnLine) fun _ => .bind .finish fun _ =>
        .markUnassignable (.pure _)
  · refine .read (chain_reads h).inherit fun argument => .near (.atLineBreak fun isBroken => ?_)
      (.atLineBreak_over fun isBroken => ?_)
    · refine .sees fun a₁ => .sees fun a₂ => .ite (fun _ => ?_) fun _ => .pure _
      exact .context fun c _ => .ite (fun _ => .of_never never_refuseOnLine) fun _ =>
        .context fun c _ => .ite (fun _ => .of_never never_refuseOnLine) fun _ =>
        .markUnassignable <| .advance fun t _ => .finish
    · refine .unseen (probes_mark _) (.unseen (probes_mark _) ?_)
      simp only [Bool.or_self, Bool.and_false, Bool.false_eq_true, if_false]
      exact .pure argument

omit h in
theorem dull_unaryOperator : Dull fun t =>
    ["+", "-", "~", "!"].any (fun text => t.isMark (Text.ofString text)) ||
      ["delete", "void", "typeof"].any fun word => t.isKeyword (Text.ofString word) where
  isEnd t h := by simp [Token.isMark, Token.isKeyword, lexeme_of_isEnd h]
  export' t h := by
    simp only [Token.isMark, Token.isKeyword, h, List.any_cons, List.any_nil]
    decide

theorem unary_reads : Reads e .near (unary g) (unary g') := by
  refine .choose dull_unaryOperator.probes (.look fun t _ => .advance fun t _ => ?_) ?_
  · exact .read h.unary.inherit fun argument => .bind .finish fun result => .context fun c _ =>
      .ite (fun _ => .of_never never_refuseOnLine) fun _ => .markUnassignable (.pure _)
  · refine .context fun c => .probe (probes_word _)
      (.ite (fun _ => ?_) fun _ => (update_reads h).live) ?_
    · exact .mark fun start => .advance fun _ _ => .read h.unary fun _ => .finish
    · refine .ite (fun no => ?_) fun _ => update_reads h
      simp only [Bool.and_false, Bool.false_eq_true] at no

omit h in
theorem binaryNode_sim [m.Close] {start : Marker} {operator : Text} {left right : Value} :
    Sim e m x (binaryNode start operator left right) (binaryNode start operator left right) :=
  .finish

theorem power_reads : Reads e .near (power g) (power g') := by
  refine .look_read (unary_reads h).inherit fun startToken left => .probe (probes_mark _) ?_ ?_
  · refine .ite (fun _ => .advance fun _ _ => .markUnassignable ?_) fun _ => .pure _
    exact .read h.power.isolate fun _ => binaryNode_sim
  · refine .ite (fun no => ?_) fun _ => .pure _
    simp only [Bool.and_false, Bool.false_eq_true] at no

omit h in
theorem precedence_of_isEnd {allowIn : Bool} {t : Token} (isEnd : t.isEnd = true) :
    precedence allowIn t = 0 := by
  simp [precedence, lexeme_of_isEnd isEnd]

omit h in
theorem precedence_export {allowIn : Bool} {t : Token} (word : t.lexeme = .keyword "export") :
    precedence allowIn t = 0 := by
  have other : Text.ofString "export" ≠ Text.ofString "instanceof" := by decide
  have other' : Text.ofString "export" ≠ Text.ofString "in" := by decide
  simp [precedence, word, other, other']

omit h in
theorem reduceWhile_sim (next : Nat) (top : Waiting) (below : List Waiting) :
    Sim e .near .near (reduceWhile next top below) (reduceWhile next top below) := by
  induction below generalizing top with
  | nil => exact .pure _
  | cons left below ih =>
    exact .ite (fun _ => .bind binaryNode_sim fun joined => ih _) fun _ => .pure _

omit h in
theorem still_reduceWhile (next : Nat) (top : Waiting) (below : List Waiting) :
    Still (reduceWhile next top below) := by
  induction below generalizing top with
  | nil => exact .pure _
  | cons left below ih =>
    unfold reduceWhile
    split
    · exact .bind (still_finish _ _ _) fun joined => ih _
    · exact .pure _

omit h in
theorem reduceAll_sim (expr : Value) (last : Token) (operator : Text) (below : List Waiting) :
    Sim e .near .near (reduceAll expr last operator below)
      (reduceAll expr last operator below) := by
  induction below generalizing expr last operator with
  | nil => exact .pure _
  | cons left below ih => exact .bind binaryNode_sim fun joined => ih _ _ _

section Operands

variable {operand operand' : Parse Value} (ho : Reads e .near operand operand')

omit h

include ho

/-- No operator follows at the end of the document, nor is the word `export` one. -/
theorem binaryRest_sim {fuel fuel' : Nat} (le : fuel ≤ fuel') (top : Waiting)
    (below : List Waiting) :
    Sim e .near .near (binaryRest operand fuel top below)
      (binaryRest operand' fuel' top below) := by
  induction fuel generalizing fuel' top below with
  | zero => exact .of_never never_giveUp
  | succ fuel ih =>
    obtain ⟨fuel', rfl⟩ : ∃ n, fuel' = n + 1 := ⟨fuel' - 1, by omega⟩
    have last := reduceAll_sim (e := e) top.node top.start top.operator below
    refine .near (.look fun t _ => .context fun c _ => .ite (fun _ => last.live) fun _ => ?_)
      (.look_over fun t t' isEnd word => .context fun c _ => ?_)
    · refine .bind_still (reduceWhile_sim _ top below).live (still_reduceWhile _ top below)
        fun stack => .advance fun _ _ => .look_read ho.isolate fun start node => ?_
      exact ih (by omega) _ stack
    · simp only [precedence_of_isEnd isEnd, precedence_export word, if_true]
      exact last.stopped

theorem binary_reads : Reads e .near (binary operand) (binary operand') := by
  refine .look_read ho.inherit fun startToken first => .near (.look fun t _ => .context fun c _ =>
    .ite (fun _ => .pure _) fun _ => ?_) (.look_over fun t t' isEnd word => .context fun c _ => ?_)
  · refine .advance fun _ _ => .markUnassignable <| .look_read ho.isolate fun start second =>
      .tokenBound ?_
    exact binaryRest_sim ho e.size_le _ _
  · simp only [precedence_of_isEnd isEnd, precedence_export word, if_true]
    exact .pure first

end Operands

theorem conditional_reads : Reads e .near (conditional g) (conditional g') := by
  refine .look_read (binary_reads (power_reads h)).inherit fun startToken test =>
    .choose (probes_mark _) (.advance fun _ _ => ?_) (.pure _)
  exact .read h.assignment.isolate.withAllowIn fun consequent => .read (expect_reads _) fun _ =>
    .read h.assignment.isolate fun alternate => .bind .finish fun _ => .markUnassignable (.pure _)

theorem yieldExpression_sim : Sim e .live .near (yieldExpression g) (yieldExpression g') := by
  refine .mark fun start => .read (expectKeyword_reads _) fun _ =>
    .near (.atLineBreak fun isBroken => ?_)
    (.atLineBreak_over fun isBroken => ?_)
  · refine .ite (fun _ => .bind (.pure _) fun _ => .finish) fun _ =>
      .bind (withAllowYield_sim ?_) fun _ => .finish
    refine .choose (probes_mark _) (.advance fun _ _ => .read h.assignment fun _ => .pure _) ?_
    exact .sees fun _ => .ite (fun _ => .read h.assignment fun _ => .pure _) fun _ => .pure _
  · cases isBroken with
    | true => exact .bind (.pure _) fun _ => .finish
    | false =>
      refine .of_fails (.bind (.surrounded (.choose (quiet_mark _) (.sees fun t isEnd => ?_))))
      have isStart := lexeme_of_isEnd isEnd
      obtain ⟨lexeme, _, _, _, _, _⟩ := t
      cases isStart
      exact (h.assignment (e := e)).fails.bind

omit h in
theorem arrowParameter_sim (isAsync : Bool) (v : Value) :
    Sim e .near .near (arrowParameter isAsync v) (arrowParameter isAsync v) := by
  refine .ite (fun _ => .ite (fun _ => .ite (fun _ => ?_) fun _ => ?_) fun _ => .pure _) fun _ =>
    .ite (fun _ => ?_) fun _ => .pure _
  · exact .of_never (.bind_right fun _ => never_unexpected)
  · cases v with
    | object fields => exact .pure _
    | _ => exact .pure _
  · exact .of_never (.bind_right fun _ => never_unexpected)

omit h in
theorem arrowFormals_sim (expr : Value) :
    Sim e .near .near (arrowFormals expr) (arrowFormals expr) := by
  unfold arrowFormals
  cases arrowNodes? expr with
  | none => exact .pure _
  | some nodes =>
    refine .bind (mapM_near (arrowParameter_sim _) _) fun nodes => .context fun c _ =>
      .ite (fun _ => ?_) fun _ => .ite (fun _ => .of_never never_refuse) fun _ => .pure _
    exact .of_never (.bind_right fun _ => never_unexpected)

theorem arrowFunction_reads (startToken : Token) (isAsync : Bool) (p : Parameters) :
    Reads e .near (arrowFunction g startToken isAsync p)
      (arrowFunction g' startToken isAsync p) := by
  refine .atLineBreak fun isBroken => .ite (fun _ => ?_) fun _ => .context fun before =>
    .modifyContext (fun _ => ⟨rfl, rfl⟩) <| .bind (expect_reads _) fun _ =>
      .probe (probes_mark _) ?_ ?_
  · exact .of_never (.bind_right fun _ => never_unexpected)
  · exact .read (functionBody_reads h).withAllowIn fun body => .bind (check_sim p) fun _ =>
      .bind .finish fun _ => .modifyContext (fun _ => ⟨rfl, rfl⟩) (.pure _)
  · exact .read h.assignment.isolate fun body => .bind (check_sim p) fun _ =>
      .bind .finish fun _ => .modifyContext (fun _ => ⟨rfl, rfl⟩) (.pure _)

theorem assignTo_sim (startToken : Token) (target : Value) :
    Sim e .live .near (assignTo g startToken target) (assignTo g' startToken target) := by
  refine .context fun c _ => .ite (fun _ => .of_never never_refuseOnLine) fun _ =>
    .ite (fun _ => .of_never never_refuseToken) fun _ =>
      .ite (fun _ => .of_never never_refuseToken) fun _ =>
    .probe (probes_mark _) ?_ (.markUnassignable ?_)
  · exact .bind_still (.pure _) (.pure _) fun target => .advance fun t _ =>
      .read h.assignment.isolate fun _ => .bind .finish fun _ =>
        .modifyContext (fun _ => ⟨rfl, rfl⟩) (.pure _)
  · exact .bind_still (.pure _) (.pure _) fun target => .advance fun t _ =>
      .read h.assignment.isolate fun _ => .bind .finish fun _ =>
        .modifyContext (fun _ => ⟨rfl, rfl⟩) (.pure _)

theorem asyncParameter_sim (startToken : Token) (expr : Value) :
    Sim e .near .near (asyncParameter g startToken expr) (asyncParameter g' startToken expr) := by
  refine .near (.look fun next _ => .ite (fun _ => ?_) fun _ => .pure _)
    (.look_over fun next next' isEnd word => ?_)
  · exact .read (primary_reads h) fun _ => .pure _
  · have dull : Dull fun t => t.isIdentifier || t.isKeyword "yield" :=
      ⟨fun t isEnd => by simp [Token.isIdentifier, Token.isKeyword, lexeme_of_isEnd isEnd],
        fun t word => by simp only [Token.isIdentifier, Token.isKeyword, word]; decide⟩
    simp only [dull.isEnd next isEnd, dull.export' next' word, Bool.and_false,
      Bool.false_eq_true, if_false]
    exact .pure expr

omit h in
theorem dull_assignment : Dull fun t => assignmentMarks.any t.isMark where
  isEnd t h := by simp [Token.isMark, lexeme_of_isEnd h]
  export' t h := by simp [Token.isMark, h]

theorem arrowAfter_sim (startToken : Token) (expr : Value) :
    Sim e .near .near (markUnassignable >>= fun _ => arrowFormals expr >>= fun formals =>
      match formals with
      | some p => arrowFunction g startToken (expr.field "async" matches .bool true) p
      | none => pure expr)
      (markUnassignable >>= fun _ => arrowFormals expr >>= fun formals =>
      match formals with
      | some p => arrowFunction g' startToken (expr.field "async" matches .bool true) p
      | none => pure expr) := by
  refine .markUnassignable <| .bind (arrowFormals_sim expr) fun formals => ?_
  cases formals with
  | some p => exact (arrowFunction_reads h startToken _ p).sim
  | none => exact .pure expr

theorem assignmentRest_sim (startToken : Token) (expr : Value) :
    Sim e .near .near (assignmentRest g startToken expr) (assignmentRest g' startToken expr) := by
  have arrow := arrowAfter_sim (e := e) h startToken expr
  have other : Sim e .near .near
      (atAssignment >>= fun a => if a = true then assignTo g startToken expr else pure expr)
      (atAssignment >>= fun a => if a = true then assignTo g' startToken expr else pure expr) :=
    .choose dull_assignment.probes (assignTo_sim h startToken expr) (.pure expr)
  exact .probe (probes_mark _) (.ite (fun _ => arrow.live) fun _ => other.live)
    (.ite (fun _ => arrow) fun _ => other)

theorem assignment_reads : Reads e .near (assignment g) (assignment g') := by
  have other : Reads e .near (do
      let startToken ← look
      let expr ← conditional g
      assignmentRest g startToken (← asyncParameter g startToken expr)) (do
      let startToken ← look
      let expr ← conditional g'
      assignmentRest g' startToken (← asyncParameter g' startToken expr)) :=
    .look_read (conditional_reads h) fun startToken expr =>
      .bind (asyncParameter_sim h startToken expr) (assignmentRest_sim h startToken)
  refine .context fun c => .probe (probes_keyword (by decide))
    ?_ (.ite (fun no => ?_) fun _ => other)
  · exact .ite (fun _ => yieldExpression_sim h) fun _ => other.live
  · simp only [Bool.and_false, Bool.false_eq_true] at no

end

end ExportList.Script
