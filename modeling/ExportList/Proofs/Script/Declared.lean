import ExportList.Proofs.Analysis
import ExportList.Proofs.Document
import ExportList.Proofs.Script.Simulation

/-!
The names that the declarations of a program bind.  A keyword is no name of a variable, but for the
two that only strict code reserves; so no declaration binds the word `default`.
-/

set_option autoImplicit false

namespace ExportList.Script

variable {α β : Type} {g : Grammar}

/-- A parser whose results are all of a kind. -/
def Yields (p : Parse α) (good : α → Prop) : Prop := ∀ s r, p s = .ok r → good r.1

section Rules

variable {p q : Parse α} {k : α → Parse β} {good : α → Prop} {fine : β → Prop}

theorem Yields.of_never (h : Never p) : Yields p good := fun s r ok => (h s r ok).elim

theorem Yields.pure {a : α} (h : good a) : Yields (pure a) good := fun _ _ ok => by
  cases ok
  exact h

theorem Yields.after (hp : Yields p good) (hk : ∀ a, good a → Yields (k a) fine) :
    Yields (p >>= k) fine := by
  intro s r ok
  obtain ⟨q, read, rest⟩ := bind_ok.mp ok
  exact hk q.1 (hp s q read) q.2 r rest

theorem Yields.bind (hk : ∀ a, Yields (k a) fine) : Yields (p >>= k) fine := by
  intro s r ok
  obtain ⟨q, _, rest⟩ := bind_ok.mp ok
  exact hk q.1 q.2 r rest

theorem Yields.ite {c : Prop} [Decidable c] (yes : c → Yields p good) (no : ¬c → Yields q good) :
    Yields (if c then p else q) good := by
  split
  · exact yes ‹_›
  · exact no ‹_›

theorem Yields.finish {start : Marker} {tag : Text} {fields : Fields} {good : Value → Prop}
    (h : ∀ stop, good (node tag fields start stop)) : Yields (finish start tag fields) good :=
  fun _ _ ok => by
  cases ok
  exact h _

theorem collectUntil_yields {stop : Token → Bool} (h : Yields p good) {fuel : Nat} :
    Yields (collectUntil stop p fuel) fun results => ∀ a ∈ results, good a := by
  induction fuel with
  | zero => exact .of_never never_giveUp
  | succ fuel ih =>
    refine .bind fun isStop => .ite (fun _ => .pure nofun) fun _ => ?_
    exact .after h fun first isGood => .after ih fun others areGood =>
      .pure (List.forall_mem_cons.mpr ⟨isGood, areGood⟩)

theorem collectWhile_yields {more : Token → Bool} (h : Yields p good) :
    Yields (collectWhile more p) fun results => ∀ a ∈ results, good a :=
  .bind fun _ => collectUntil_yields h

end Rules

section Nodes

variable {tag : Text} {fields : Fields} {start stop : Marker}

theorem tag_node : (node tag fields start stop).tag = .text tag := by simp [node, Value.tag]

/-- What holds of null and of the values that a node is given for a key holds of its field. -/
theorem field_node {P : Value → Prop} {key : Text}
    (other : key ∉ [Text.ofString "type", "range", "loc"]) (null : P .null)
    (h : ∀ value, (key, value) ∈ fields → P value) :
    P ((node tag fields start stop).field key) := by
  simp only [List.mem_cons, List.not_mem_nil, or_false, not_or] at other
  obtain ⟨notType, notRange, notPlace⟩ := other
  unfold node
  rw [Value.field_object, Fields.get?]
  cases found : List.find? _ _ with
  | none => exact null
  | some entry =>
    obtain ⟨k, value⟩ := entry
    have same : k = key := by simpa using List.find?_some found
    subst same
    have mem := List.mem_of_find?_eq_some found
    simp only [placeFields, List.mem_cons, List.mem_append, List.mem_filter,
      List.not_mem_nil, or_false, Prod.mk.injEq, notType, notRange, notPlace, false_and, false_or]
      at mem
    exact h value mem.1

/-- A node that is not an identifier of the name `default`. -/
def Proper (v : Value) : Prop := v.field "name" ≠ .text "default"

/-- A statement that does not bind the name `default`, should it be an exportable declaration. -/
def Tame (statement : Value) : Prop :=
  isExportableStatement statement = true → ¬Binds statement "default"

theorem proper_null : Proper .null := nofun

theorem tame_of_tag (other : exportableTags.contains tag = false) :
    Tame (node tag fields start stop) := by
  intro isExportable
  rw [isExportableStatement, hasTagAmong, tag_node] at isExportable
  have isExportable : exportableTags.contains tag = true := isExportable
  rw [other] at isExportable
  cases isExportable

theorem tame_of_id (other : tag ≠ Text.ofString "VariableDeclaration")
    (h : ∀ id, (Text.ofString "id", id) ∈ fields → Proper id) :
    Tame (node tag fields start stop) := by
  intro _
  have notVariable : isVariableDeclaration (node tag fields start stop) = false := by
    simp [isVariableDeclaration, Value.hasTag, tag_node, Value.isText, other]
  simp only [Binds, notVariable, Bool.false_eq_true, if_false]
  exact field_node (P := Proper) (by simp) proper_null h

theorem tame_variables {declarations : List Value} {kind : Text}
    (h : ∀ declarator ∈ declarations, Proper (declarator.field "id")) :
    Tame (node "VariableDeclaration" [("declarations", .list declarations), ("kind", .text kind)]
      start stop) := by
  intro _
  have isVariable : isVariableDeclaration (node "VariableDeclaration"
      [("declarations", .list declarations), ("kind", .text kind)] start stop) = true := by
    simp [isVariableDeclaration, Value.hasTag, tag_node, Value.isText]
  simp only [Binds, isVariable, if_true]
  rintro ⟨declarator, mem, isIdentifier⟩
  have each : ∀ declarator ∈ Value.items ((node "VariableDeclaration"
      [("declarations", .list declarations), ("kind", .text kind)] start stop).field
        "declarations"),
      Proper (declarator.field "id") :=
    field_node (P := fun v => ∀ declarator ∈ v.items, Proper (declarator.field "id"))
      (by simp) (by simp)
      fun value isField => by
        simp only [List.mem_cons, List.not_mem_nil, or_false, Prod.mk.injEq, Text.ofString_inj]
          at isField
        rcases isField with ⟨_, rfl⟩ | ⟨no, _⟩
        · exact h
        · simp at no
  exact each declarator mem isIdentifier.2

end Nodes

theorem identifierNode_yields {start : Marker} {name : Text} (h : name ≠ Text.ofString "default") :
    Yields (identifierNode start name) Proper :=
  .finish fun _ => field_node (P := fun v => v ≠ .text "default")
    (by simp) nofun fun value isField => by
    simp only [List.mem_cons, List.not_mem_nil, or_false, Prod.mk.injEq] at isField
    rw [isField.2]
    exact fun same => h (Value.text.inj same)

theorem variableName_yields (kind : Option Text) : Yields (variableName kind) Proper := by
  refine .bind fun start => .bind fun t => .bind fun c => ?_
  have isLet : ∀ {word : Text}, ¬(c.strict || word ≠ Text.ofString "let" ||
      kind ≠ some (Text.ofString "var")) = true → word ≠ Text.ofString "default" := fun no => by
    simp only [ne_eq, Bool.or_eq_true, decide_eq_true_eq, not_or, Decidable.not_not] at no
    rw [no.1.2]
    decide
  cases t.lexeme with
  | keyword word =>
    refine .ite (fun isYield => ?_) fun _ => ?_
    · refine .ite (fun _ => .of_never never_refuseToken) fun _ =>
        .ite (fun _ => .of_never never_unexpected)
        fun _ => identifierNode_yields ?_
      rw [isYield]
      decide
    · exact .ite (fun _ => .of_never never_refuseToken) fun _ =>
        .ite (fun _ => .of_never never_unexpected)
        fun no => identifierNode_yields (isLet no)
  | identifier name =>
    refine .ite (fun _ => .of_never never_unexpected) fun _ => identifierNode_yields fun same => ?_
    have isKeyword : Text.ofString "default" ∈ keywords := by decide
    exact name.property (same ▸ isKeyword)
  | _ => exact .ite (fun _ => .of_never never_unexpected) fun no => identifierNode_yields (isLet no)

theorem finish_yields_proper {start : Marker} {tag : Text} {fields : Fields}
    (h : ∀ value, (Text.ofString "name", value) ∉ fields) :
    Yields (finish start tag fields) Proper :=
  .finish fun _ => field_node (P := fun v => v ≠ .text "default") (by simp) nofun
    fun value isField => (h value isField).elim

theorem arrayPattern_yields (kind : Option Text) :
    Yields (arrayPattern g kind) fun r => Proper r.1 :=
  .bind fun _ => .bind fun _ => .bind fun _ => .bind fun _ => .bind fun _ =>
    .after (finish_yields_proper (by simp)) fun _ proper => .pure proper

theorem objectPattern_yields (kind : Option Text) :
    Yields (objectPattern g kind) fun r => Proper r.1 :=
  .bind fun _ => .bind fun _ => .bind fun _ => .bind fun _ =>
    .after (finish_yields_proper (by simp)) fun _ proper => .pure proper

theorem bindingPattern_yields (kind : Option Text) :
    Yields (bindingPattern g kind) fun r => Proper r.1 :=
  .bind fun _ => .ite (fun _ => arrayPattern_yields kind) fun _ => .bind fun _ =>
    .ite (fun _ => objectPattern_yields kind) fun _ => .bind fun _ =>
    .ite (fun _ => .of_never never_refuseToken) fun _ =>
    .after (variableName_yields kind) fun _ proper => .pure proper

section Declarations

variable (h : ∀ kind, Yields (g.pattern kind) fun r => Proper r.1)

theorem declaratorNode_yields {start : Marker} {id init : Value} (proper : Proper id) :
    Yields (declaratorNode start id init) fun declarator => Proper (declarator.field "id") :=
  .finish fun _ => field_node (P := Proper) (by simp) proper_null fun value isField => by
    simp only [List.mem_cons, List.not_mem_nil, or_false, Prod.mk.injEq, Text.ofString_inj]
      at isField
    rcases isField with ⟨_, rfl⟩ | ⟨no, _⟩
    · exact proper
    · simp at no

include h

theorem lexicalBinding_yields (kind : Text) (inFor : Bool) :
    Yields (lexicalBinding g kind inFor) fun declarator => Proper (declarator.field "id") :=
  .bind fun _ => .after (h _) fun _ proper => .bind fun _ => .bind fun _ =>
    declaratorNode_yields proper

theorem variableBinding_yields (inFor : Bool) :
    Yields (variableBinding g inFor) fun declarator => Proper (declarator.field "id") :=
  .bind fun _ => .after (h _) fun _ proper => .bind fun _ => .bind fun _ =>
    .ite (fun _ => .bind fun _ => declaratorNode_yields proper) fun _ =>
    .ite (fun _ => .bind fun _ => .bind fun _ => declaratorNode_yields proper) fun _ =>
    .bind fun _ => declaratorNode_yields proper

omit h in
theorem commaSeparated_yields {item : Parse Value} {good : Value → Prop} (hi : Yields item good) :
    Yields (commaSeparated item) fun results => ∀ a ∈ results, good a :=
  .after hi fun _ isGood => .after (collectWhile_yields (.bind fun _ => hi)) fun _ areGood =>
    .pure (List.forall_mem_cons.mpr ⟨isGood, areGood⟩)

theorem lexicalDeclaration_yields : Yields (lexicalDeclaration g) Tame :=
  .bind fun _ => .bind fun _ => .after (commaSeparated_yields (lexicalBinding_yields h _ _))
    fun _ proper => .bind fun _ => .finish fun _ => tame_variables proper

theorem variableStatement_yields : Yields (variableStatement g) Tame :=
  .bind fun _ => .bind fun _ => .after (commaSeparated_yields (variableBinding_yields h _))
    fun _ proper => .bind fun _ => .finish fun _ => tame_variables proper

omit h in
theorem functionNode_yields {start : Marker} {kind : FunctionKind} {id body : Value}
    {nodes : List Value} (proper : Proper id) :
    Yields (functionNode start "FunctionDeclaration" kind id nodes body) Tame :=
  .ite (fun _ => .finish fun _ => tame_of_id (by simp) fun value isField => by
      simp at isField
      exact isField ▸ proper)
    fun _ => .finish fun _ => tame_of_id (by simp) fun value isField => by
      simp at isField
      exact isField ▸ proper

omit h in
theorem functionDeclaration_yields (isNameOptional : Bool) :
    Yields (functionDeclaration g isNameOptional) Tame := by
  refine .bind fun _ => .bind fun _ => .bind fun _ => .bind fun _ =>
    .ite (fun _ => .after (variableName_yields none) fun id proper => ?_)
      fun _ => .after (.pure proper_null) fun id proper => ?_
  all_goals
    refine .ite (fun _ => .bind fun _ => ?_) fun _ => .bind fun _ => ?_
  all_goals
    exact .bind fun _ => .bind fun _ => .bind fun _ => functionNode_yields proper

omit h in
theorem classDeclaration_yields (isNameOptional : Bool) :
    Yields (classDeclaration g isNameOptional) Tame := by
  have name : Yields (do
      if isNameOptional && !(← sees Token.isIdentifier) then return .null
      else variableName none) Proper :=
    .bind fun _ => .ite (fun _ => .pure proper_null) fun _ => variableName_yields none
  refine .bind fun _ => .bind fun _ => .bind fun _ => .bind fun _ => .after name fun id proper => ?_
  have ended : ∀ {start superClass body}, Yields (finish start "ClassDeclaration"
      [("id", id), ("superClass", superClass), ("body", body)]) Tame :=
    .finish fun _ => tame_of_id (by simp) fun value isField => by
      simp at isField
      exact isField ▸ proper
  exact .bind fun _ => .ite
    (fun _ => .bind fun _ => .bind fun _ => .bind fun _ => .bind fun _ => ended)
    fun _ => .bind fun _ => .bind fun _ => .bind fun _ => ended

omit h in
theorem finish_yields_tame {start : Marker} {tag : Text} {fields : Fields}
    (other : exportableTags.contains tag = false) : Yields (finish start tag fields) Tame :=
  .finish fun _ => tame_of_tag other

omit h in
theorem block_yields : Yields (block g) Tame :=
  .bind fun _ => .bind fun _ => .bind fun _ => .bind fun _ =>
    finish_yields_tame (by simp [exportableTags])

omit h in
theorem expressionStatement_yields : Yields (expressionStatement g) Tame :=
  .bind fun _ => .bind fun _ => .bind fun _ => finish_yields_tame (by simp [exportableTags])

omit h in
theorem namedStatement_yields : Yields (namedStatement g) Tame :=
  .bind fun _ => .bind fun _ => .bind fun _ => .ite
    (fun _ => .bind fun _ => .bind fun _ => .ite (fun _ => .of_never never_refuse) fun _ =>
      .bind fun _ => .bind fun _ => .bind fun _ => finish_yields_tame (by simp [exportableTags]))
    fun _ => .bind fun _ => finish_yields_tame (by simp [exportableTags])

omit h in
theorem ifStatement_yields : Yields (ifStatement g) Tame :=
  .bind fun _ => .bind fun _ => .bind fun _ => .bind fun _ => .bind fun _ => .bind fun _ =>
    .bind fun _ => .ite
    (fun _ => .bind fun _ => .bind fun _ => finish_yields_tame (by simp [exportableTags]))
    fun _ => .bind fun _ => finish_yields_tame (by simp [exportableTags])

omit h in
theorem loopFields_yields (head : LoopHead) :
    Yields (loopFields g head) fun r => exportableTags.contains r.1 = false := by
  cases head with
  | counting init =>
    refine .bind fun _ => .ite (fun _ => .bind fun _ => ?_) fun _ => .bind fun _ => ?_
    all_goals
      refine .bind fun _ => .bind fun _ => .ite (fun _ => .bind fun _ => ?_) fun _ =>
        .bind fun _ => ?_
    all_goals exact .pure (by simp [exportableTags])
  | keys left right => exact .pure (by simp [exportableTags])
  | values left right => exact .pure (by simp [exportableTags])

omit h in
theorem forStatement_yields : Yields (forStatement g) Tame :=
  .bind fun _ => .bind fun _ => .bind fun _ => .bind fun head =>
    .after (loopFields_yields head) fun _ other => .bind fun _ => .bind fun _ =>
    finish_yields_tame other

omit h in
theorem returnStatement_yields : Yields (returnStatement g) Tame :=
  .bind fun _ => .ite (fun _ => .of_never never_refuseOnLine) fun _ => .bind fun _ => .bind fun _ =>
    .bind fun _ => .bind fun _ => .ite
      (fun _ => .bind fun _ => .bind fun _ => finish_yields_tame (by simp [exportableTags]))
      fun _ => .bind fun _ => .bind fun _ => finish_yields_tame (by simp [exportableTags])

omit h in
theorem tryStatement_yields : Yields (tryStatement g) Tame := by
  have ended : ∀ {start body handler}, Yields (finallyClause g >>= fun finalizer =>
      if (handler.isNull && finalizer.isNull) = true then refuse .missingHandler
      else finish start "TryStatement"
        [("block", body), ("handler", handler), ("finalizer", finalizer)]) Tame :=
    .bind fun _ => .ite (fun _ => .of_never never_refuse) fun _ =>
      finish_yields_tame (by simp [exportableTags])
  exact .bind fun _ => .bind fun _ => .bind fun _ => .bind fun _ =>
    .ite (fun _ => .bind fun _ => ended) fun _ => .bind fun _ => ended

omit h in
theorem doStatement_yields : Yields (doStatement g) Tame :=
  .bind fun _ => .bind fun _ => .bind fun _ => .bind fun _ => .bind fun _ => .bind fun _ =>
    .bind fun _ => .bind fun _ => .ite
    (fun _ => .bind fun _ => finish_yields_tame (by simp [exportableTags]))
      fun _ => finish_yields_tame (by simp [exportableTags])

theorem keywordStatements_yields : ∀ entry ∈ keywordStatements g, Yields entry.2 Tame := by
  simp only [keywordStatements, List.forall_mem_cons]
  refine ⟨?_, ?_, ?_, doStatement_yields, forStatement_yields, functionDeclaration_yields false,
    ifStatement_yields, returnStatement_yields, ?_, ?_, tryStatement_yields,
    variableStatement_yields h, ?_, ?_, nofun⟩
  · exact .bind fun _ => .bind fun _ => .bind fun _ => .bind fun _ => .bind fun _ =>
      .ite (fun _ => .of_never never_refuse) fun _ => finish_yields_tame (by simp [exportableTags])
  · exact .bind fun _ => .bind fun _ => .bind fun _ => .bind fun _ => .bind fun _ =>
      .ite (fun _ => .of_never never_refuse) fun _ => finish_yields_tame (by simp [exportableTags])
  · exact .bind fun _ => .bind fun _ => .bind fun _ => finish_yields_tame (by simp [exportableTags])
  · exact .bind fun _ => .bind fun _ => .bind fun _ => .bind fun _ => .bind fun _ => .bind fun _ =>
      .bind fun _ => .bind fun _ => .bind fun _ => .bind fun _ => .bind fun _ => .bind fun _ =>
        finish_yields_tame (by simp [exportableTags])
  · exact .bind fun _ => .bind fun _ => .bind fun _ =>
      .ite (fun _ => .of_never never_refuse) fun _ => .bind fun _ => .bind fun _ =>
      finish_yields_tame (by simp [exportableTags])
  · exact .bind fun _ => .bind fun _ => .bind fun _ => .bind fun _ => .bind fun _ => .bind fun _ =>
      finish_yields_tame (by simp [exportableTags])
  · exact .bind fun _ => .ite (fun _ => .of_never never_refuseOnLine) fun _ => .bind fun _ =>
      .bind fun _ => .bind fun _ => .bind fun _ => .bind fun _ => .bind fun _ =>
      finish_yields_tame (by simp [exportableTags])

theorem statement_yields : Yields (statement g) Tame := by
  refine .bind fun t => ?_
  cases t.lexeme with
  | endOfInput => exact .of_never never_unexpected
  | mark text =>
    exact .ite (fun _ => block_yields) fun _ => .ite (fun _ => .bind fun _ => .bind fun _ =>
      finish_yields_tame (by simp [exportableTags])) fun _ => expressionStatement_yields
  | identifier name =>
    exact .bind fun _ => .ite (fun _ => functionDeclaration_yields false) fun _ =>
      namedStatement_yields
  | keyword word =>
    dsimp only
    cases found : (keywordStatements g).find? fun entry => entry.1 = word with
    | some entry => exact keywordStatements_yields h entry (List.mem_of_find?_eq_some found)
    | none => exact expressionStatement_yields
  | _ => exact expressionStatement_yields

omit h in
theorem importDeclaration_yields : Yields importDeclaration Tame :=
  .bind fun _ => .ite (fun _ => .of_never never_refuse) fun _ => .bind fun _ => .bind fun _ =>
    .bind fun _ => .ite (fun _ => .bind fun _ => .bind fun _ => .bind fun _ =>
    finish_yields_tame (by simp [exportableTags]))
      fun _ => .bind fun _ => .bind fun _ => .bind fun _ => .bind fun _ =>
        finish_yields_tame (by simp [exportableTags])

omit h in
theorem exportDeclaration_yields : Yields (exportDeclaration g) Tame := by
  have named : ∀ {start declaration specifiers origin},
      Yields (namedExportNode start declaration specifiers origin) Tame :=
    finish_yields_tame (by simp [exportableTags])
  have origin : ∀ {start specifiers hasDefault},
      Yields (exportOrigin start specifiers hasDefault) Tame :=
    .bind fun _ => .ite (fun _ => .bind fun _ => .bind fun _ => named) fun _ =>
      .ite (fun _ => .of_never (.bind_right fun _ => never_refuse)) fun _ => .bind fun _ => named
  have listed : ∀ {start}, Yields (exportNames start) Tame :=
    .bind fun _ => .ite (fun _ => .bind fun _ => .bind fun _ => origin) fun _ =>
      .bind fun _ => origin
  refine .bind fun _ => .ite (fun _ => .of_never never_refuse) fun _ => .bind fun _ =>
    .bind fun _ => .bind fun t =>
    .ite (fun _ => .bind fun _ => .bind fun _ =>
      finish_yields_tame (by simp [exportableTags])) fun _ =>
    .ite (fun _ => .bind fun _ => .bind fun _ => .bind fun _ =>
      finish_yields_tame (by simp [exportableTags])) fun _ => ?_
  cases t.lexeme with
  | keyword word => exact .bind fun _ => named
  | _ => exact .bind fun _ => .ite (fun _ => .bind fun _ => named) fun _ => listed

theorem item_yields : Yields (item g) Tame :=
  .bind fun _ => .bind fun _ => .bind fun _ => .ite
    (fun _ => .ite (fun _ => exportDeclaration_yields) fun _ =>
      .of_never never_refuseToken) fun _ => .ite
    (fun _ => .bind fun _ => .ite (fun _ => expressionStatement_yields) fun _ =>
      .ite (fun _ => importDeclaration_yields) fun _ => .of_never never_refuseToken) fun _ => .ite
    (fun _ => lexicalDeclaration_yields h) fun _ => .ite
    (fun _ => functionDeclaration_yields false) fun _ => .ite
    (fun _ => classDeclaration_yields false) fun _ => .ite
    (fun _ => .bind fun _ => .ite (fun _ => lexicalDeclaration_yields h) fun _ =>
      statement_yields h) fun _ =>
    statement_yields h

end Declarations

theorem directives_yields {fuel : Nat} {octal : Option Token} :
    Yields (directives g fuel octal) fun statements => ∀ statement ∈ statements,
      Tame statement := by
  have tame : ∀ {start expr words}, Yields (directiveNode start expr words) Tame :=
    .ite (fun _ => finish_yields_tame (by simp [exportableTags]))
      fun _ => finish_yields_tame (by simp [exportableTags])
  induction fuel generalizing octal with
  | zero => exact .of_never never_giveUp
  | succ fuel ih =>
    refine .bind fun t => .ite (fun _ => .pure nofun) fun _ => .bind fun _ => .bind fun _ =>
      .bind fun _ => .after tame fun statement isTame =>
      .ite (fun _ => .pure (List.forall_mem_singleton.mpr isTame)) fun _ =>
      .ite (fun _ => .bind fun _ => ?_) fun _ => ?_
    · cases octal with
      | some t => exact .of_never never_refuseToken
      | none =>
        exact .bind fun _ => .ite (fun _ => .of_never never_refuseToken) fun _ =>
          .after ih fun _ areTame => .pure (List.forall_mem_cons.mpr ⟨isTame, areTame⟩)
    · exact .after ih fun _ areTame => .pure (List.forall_mem_cons.mpr ⟨isTame, areTame⟩)

theorem pattern_yields (depth : Nat) (kind : Option Text) :
    Yields ((grammar depth).pattern kind) fun r => Proper r.1 := by
  cases depth with
  | zero => exact .of_never never_giveUp
  | succ depth => exact bindingPattern_yields kind

theorem grammarItem_yields (depth : Nat) : Yields (grammar depth).item Tame := by
  cases depth with
  | zero => exact .of_never never_giveUp
  | succ depth => exact item_yields (pattern_yields depth)

theorem programBody_yields (depth : Nat) (isModule : Bool) :
    Yields (programBody (grammar depth) isModule) fun document =>
      ∀ statement ∈ (document.field "body").items, Tame statement := by
  refine .bind fun start => .bind fun _ => .after directives_yields fun opening isTame =>
    .after (collectWhile_yields (grammarItem_yields depth)) fun statements areTame =>
      .finish fun _ => ?_
  refine field_node (P := fun v => ∀ statement ∈ v.items, Tame statement) (by simp) nofun
    fun value isField => ?_
  simp at isField
  subst isField
  exact List.forall_mem_append.mpr ⟨isTame, areTame⟩

/-- No declaration of a program binds the word `default`. -/
theorem tame_of_parseAs {isModule : Bool} {source : List Char} {document : Value}
    (ok : parseAs isModule source = .ok document) :
    ∀ statement ∈ (document.field "body").items, Tame statement := by
  obtain ⟨s, _, ok⟩ := bind_eq_ok_iff.mp ok
  obtain ⟨r, read, done⟩ := bind_eq_ok_iff.mp ok
  cases done
  have yields : Yields (program (grammar (source.length + 2)) isModule) fun document =>
      ∀ statement ∈ (document.field "body").items, Tame statement :=
    .ite (fun _ => .bind fun _ => programBody_yields _ _) fun _ => programBody_yields _ _
  exact yields s r read

end ExportList.Script
