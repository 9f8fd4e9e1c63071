import ExportList.Proofs.Concrete.Tags

/-!
One tree within another, over two documents.  The nodes of the first stand in the second, in order
and with the same labels and texts; all else that stands there are comments.  Comments are in no
field, are no tokens and have none of the kinds that are looked for, so the statements of the two
look alike.
-/

set_option autoImplicit false

namespace ExportList

section Lists

variable {α β : Type}

/-- The elements of a list stand in another one, related and in order, with further ones among
them. -/
inductive Interspersed (extra : β → Prop) (R : α → β → Prop) : List α → List β → Prop
  | nil : Interspersed extra R [] []
  | keep {a : α} {b : β} {as : List α} {bs : List β} (related : R a b)
    (rest : Interspersed extra R as bs) : Interspersed extra R (a :: as) (b :: bs)
  | insert {b : β} {as : List α} {bs : List β} (further : extra b)
    (rest : Interspersed extra R as bs) : Interspersed extra R as (b :: bs)

namespace Interspersed

theorem refl {extra : α → Prop} {R : α → α → Prop} {l : List α} (h : ∀ a ∈ l, R a a) :
    Interspersed extra R l l := by
  induction l with
  | nil => exact .nil
  | cons a l ih =>
    obtain ⟨first, rest⟩ := List.forall_mem_cons.mp h
    exact .keep first (ih rest)

variable {extra : β → Prop} {R : α → β → Prop} {as : List α} {bs : List β}

theorem imp_of_mem {extra' : β → Prop} {R' : α → β → Prop} (h : Interspersed extra R as bs)
    (he : ∀ b, extra b → extra' b) (hR : ∀ a ∈ as, ∀ b, R a b → R' a b) :
    Interspersed extra' R' as bs := by
  induction h with
  | nil => exact .nil
  | keep related _ ih =>
    obtain ⟨first, rest⟩ := List.forall_mem_cons.mp hR
    exact .keep (first _ related) (ih rest)
  | insert further _ ih => exact .insert (he _ further) (ih hR)

theorem filter {p : α → Bool} {q : β → Bool} (h : Interspersed extra R as bs)
    (same : ∀ a b, R a b → q b = p a) :
    Interspersed (fun b => extra b ∧ q b) R (as.filter p) (bs.filter q) := by
  induction h with
  | nil => exact .nil
  | @keep a b _ _ related _ ih =>
    rw [List.filter_cons, List.filter_cons, same a b related]
    split
    · exact .keep related ih
    · exact ih
  | @insert b _ _ further _ ih =>
    rw [List.filter_cons]
    split
    · rename_i kept
      exact .insert ⟨further, kept⟩ ih
    · exact ih

theorem forall₂ (h : Interspersed extra R as bs) (none : ∀ b, ¬extra b) : List.Forall₂ R as bs := by
  induction h with
  | nil => exact .nil
  | keep related _ ih => exact .cons related ih
  | insert further => exact absurd further (none _)

theorem of_head? (h : Interspersed extra R as bs) :
    ∀ b ∈ bs.head?, extra b ∨ ∃ a ∈ as.head?, R a b := by
  rintro b first
  cases h with
  | nil => cases first
  | keep related _ =>
    cases first
    exact .inr ⟨_, rfl, related⟩
  | insert further _ =>
    cases first
    exact .inl further

end Interspersed

theorem rel_head? {R : α → β → Prop} {as : List α} {bs : List β} (h : List.Forall₂ R as bs) :
    Option.Rel R as.head? bs.head? := by
  cases h with
  | nil => exact .none
  | cons related _ => exact .some related

theorem rel_or {R : α → β → Prop} {o p : Option α} {o' p' : Option β} (h : Option.Rel R o o')
    (h' : Option.Rel R p p') : Option.Rel R (o.or p) (o'.or p') := by
  cases h with
  | none => exact h'
  | some related => exact .some related

theorem isNone_of_rel {R : α → β → Prop} {o : Option α} {o' : Option β} (h : Option.Rel R o o') :
    o'.isNone = o.isNone := by
  cases h <;> rfl

end Lists

namespace Concrete

structure Label.IsRemark (label : Label) : Prop where
  named : label.named = true
  kind : label.kind ∈ skippedKinds
  role : label.role = none

namespace Tree

/-- A comment in no field, that can be read. -/
structure IsRemark (bytes : Bytes) (t : Tree) : Prop where
  label : t.label.IsRemark
  text : ∃ text, t.text bytes = .ok text

/-- A tree stands within another, with further comments in it, and reads the same there. -/
inductive Embeds (bytes bytes' : Bytes) : Tree → Tree → Prop
  | node {label : Label} {children children' : List Tree}
    (text : (Tree.node label children').text bytes' = (Tree.node label children).text bytes)
    (below : Interspersed (IsRemark bytes') (Embeds bytes bytes') children children') :
    Embeds bytes bytes' (.node label children) (.node label children')

namespace Embeds

variable {bytes bytes' : Bytes} {t t' : Tree}

theorem label (h : t.Embeds bytes bytes' t') : t'.label = t.label := by
  cases h
  rfl

theorem kind (h : t.Embeds bytes bytes' t') : t'.kind = t.kind := congrArg Label.kind h.label

theorem isKind (h : t.Embeds bytes bytes' t') (k : Text) : t'.isKind k = t.isKind k := by
  rw [Tree.isKind, Tree.isKind, h.kind]

theorem text (h : t.Embeds bytes bytes' t') : t'.text bytes' = t.text bytes := by
  cases h with
  | node text _ => exact text

theorem children (h : t.Embeds bytes bytes' t') :
    Interspersed (IsRemark bytes') (Embeds bytes bytes') t.children t'.children := by
  cases h with
  | node _ below => exact below

theorem namedChildren (h : t.Embeds bytes bytes' t') :
    Interspersed (IsRemark bytes') (Embeds bytes bytes') t.namedChildren t'.namedChildren := by
  have filtered := h.children.filter (p := fun child => child.label.named)
    (q := fun child => child.label.named) fun _ _ related => by rw [related.label]
  exact filtered.imp_of_mem (fun _ remark => remark.1) fun _ _ _ related => related

/-- Children that are chosen by their labels, so that no comments are. -/
theorem filter (h : t.Embeds bytes bytes' t') (p : Label → Bool)
    (plain : ∀ label : Label, label.IsRemark → p label = false) :
    List.Forall₂ (Embeds bytes bytes') (t.children.filter fun child => p child.label)
      (t'.children.filter fun child => p child.label) := by
  refine (h.children.filter fun a b related => by rw [related.label]).forall₂ ?_
  rintro b ⟨remark, chosen⟩
  rw [plain _ remark.label] at chosen
  cases chosen

theorem find? (h : t.Embeds bytes bytes' t') (p : Label → Bool)
    (plain : ∀ label : Label, label.IsRemark → p label = false) :
    Option.Rel (Embeds bytes bytes') (t.children.find? fun child => p child.label)
      (t'.children.find? fun child => p child.label) := by
  rw [← List.head?_filter, ← List.head?_filter]
  exact rel_head? (h.filter p plain)

/-- A child that is no comment, alone among the named ones, was so before. -/
theorem namedChildren_singleton {k : Text} {only' : Tree} (h : t.Embeds bytes bytes' t')
    (alone' : t'.namedChildren = [only']) (isKind' : only'.isKind k = true)
    (plain : k ∉ skippedKinds) :
    ∃ only, t.namedChildren = [only] ∧ only.Embeds bytes bytes' only' := by
  have below := h.namedChildren
  rw [alone'] at below
  generalize t.namedChildren = named at below
  cases below with
  | insert remark _ => exact absurd (of_decide_eq_true isKind' ▸ remark.label.kind) plain
  | keep related rest =>
    cases rest
    exact ⟨_, rfl, related⟩

theorem tokens (h : t.Embeds bytes bytes' t') : t'.tokens = t.tokens := by
  have kinds : List.Forall₂ Eq t'.tokens t.tokens := by
    rw [Tree.tokens, Tree.tokens, List.forall₂_map_left_iff, List.forall₂_map_right_iff]
    refine (h.filter (fun label => !label.named) ?_).flip.imp fun _ _ => kind
    intro label remark
    rw [remark.named]
    rfl
  rwa [List.forall₂_eq_eq_eq] at kinds

theorem child? (h : t.Embeds bytes bytes' t') (role : Text) :
    Option.Rel (Embeds bytes bytes') (t.child? role) (t'.child? role) := by
  refine h.find? (fun label => label.role = some role) ?_
  intro label remark
  rw [remark.role]
  rfl

theorem namedOfKind (h : t.Embeds bytes bytes' t') {k : Text} (plain : k ∉ skippedKinds) :
    List.Forall₂ (Embeds bytes bytes') (t.namedChildren.filter fun child => child.isKind k)
      (t'.namedChildren.filter fun child => child.isKind k) := by
  rw [Tree.namedChildren, Tree.namedChildren, List.filter_filter, List.filter_filter]
  refine h.filter (fun label => decide (label.kind = k) && label.named) ?_
  intro label remark
  have other : label.kind ≠ k := fun same => plain (same ▸ remark.kind)
  rw [decide_eq_false other, Bool.false_and]

theorem namedOfKind? (h : t.Embeds bytes bytes' t') {k : Text} (plain : k ∉ skippedKinds) :
    Option.Rel (Embeds bytes bytes') (t.namedChildren.find? fun child => child.isKind k)
      (t'.namedChildren.find? fun child => child.isKind k) := by
  rw [← List.head?_filter, ← List.head?_filter]
  exact rel_head? (h.namedOfKind plain)

theorem any_named (h : t.Embeds bytes bytes' t') {k : Text} (plain : k ∉ skippedKinds) :
    (t'.namedChildren.any fun child => child.isKind k) =
      t.namedChildren.any fun child => child.isKind k := by
  rw [Bool.eq_iff_iff, List.any_eq_true, List.any_eq_true, ← List.find?_isSome, ← List.find?_isSome,
    ← Option.not_isNone, ← Option.not_isNone, isNone_of_rel (h.namedOfKind? plain)]

theorem statement? (h : t.Embeds bytes bytes' t') :
    Option.Rel (Embeds bytes bytes') (t.children.find? isStatement)
      (t'.children.find? isStatement) := by
  refine h.find? (fun label => label.named && !skippedKinds.contains label.kind) ?_
  intro label remark
  simp [remark.kind]

theorem statementNodes (h : t.Embeds bytes bytes' t') :
    List.Forall₂ (Embeds bytes bytes') t.statementNodes t'.statementNodes := by
  rw [Tree.statementNodes, Tree.statementNodes, Tree.namedChildren, Tree.namedChildren,
    List.filter_filter, List.filter_filter]
  refine h.filter (fun label => !skippedKinds.contains label.kind && label.named) ?_
  intro label remark
  simp [remark.kind]

end Embeds

end Tree

section Parts

variable {bytes bytes' : Bytes} {t t' : Tree}

private theorem identifier_follows (h : t.Embeds bytes bytes' t') :
    Follows SameIdentifier (identifier bytes t) (identifier bytes' t') := by
  intro v hv
  obtain ⟨name, hn, _⟩ := bind_eq_ok_iff.mp hv
  refine ⟨_, identifier_of_text (h.text.trans hn), ?_⟩
  rw [identifier_of_text hn] at hv
  cases hv
  rw [h.isKind]
  by_cases quoted : t.isKind "string"
  · rw [if_pos quoted, if_pos quoted, SameIdentifier, field_document _ _ _ _ (by decide),
      field_document _ _ _ _ (by decide), tag_document, tag_document]
    exact ⟨rfl, rfl⟩
  · rw [if_neg quoted, if_neg quoted, SameIdentifier, field_document _ _ _ _ (by decide),
      field_document _ _ _ _ (by decide), tag_document, tag_document]
    exact ⟨rfl, rfl⟩

private theorem identifier?_follows {o o' : Option Tree}
    (h : Option.Rel (Tree.Embeds bytes bytes') o o') :
    Follows SameIdentifier (identifier? bytes o) (identifier? bytes' o') := by
  cases h with
  | none => exact .ok ⟨rfl, rfl⟩
  | some related => exact identifier_follows related

/-- Documents with the same tag look alike if their fields have the same parts. -/
private theorem alike_document {fields fields' : Fields}
    (h : SameParts (.object fields) (.object fields')) (label label' : Label) (tag : Text) :
    Alike (document bytes label tag fields) (document bytes' label' tag fields') := by
  apply Alike.of_sameParts
  constructor
  · rw [tag_document, tag_document]
  · rw [field_document _ _ _ _ (by decide), field_document _ _ _ _ (by decide)]
    exact h.name
  · rw [field_document _ _ _ _ (by decide), field_document _ _ _ _ (by decide)]
    exact h.declarators
  · rw [field_document _ _ _ _ (by decide), field_document _ _ _ _ (by decide)]
    exact h.declaration
  · rw [field_document _ _ _ _ (by decide), field_document _ _ _ _ (by decide)]
    exact h.specifiers

private theorem named_follows (h : t.Embeds bytes bytes' t') (tag : Text) (extra : Fields) :
    Follows Alike (named bytes t tag extra) (named bytes' t' tag extra) := by
  refine (identifier?_follows (h.child? "name")).bind fun id id' same => ?_
  refine .ok (alike_document ?_ _ _ _)
  have rest := SameParts.refl (.object extra)
  exact ⟨by simp [Value.tag], by simpa using same.2, by simpa using rest.declarators, by simp,
    by simpa using rest.specifiers⟩

private theorem bindingTarget_follows {o o' : Option Tree}
    (h : Option.Rel (Tree.Embeds bytes bytes') o o') :
    Follows SameIdentifier (bindingTarget bytes o) (bindingTarget bytes' o') := by
  cases h with
  | none => exact .ok ⟨rfl, rfl⟩
  | some related =>
    rw [bindingTarget, bindingTarget, related.isKind, related.kind]
    split
    · exact identifier_follows related
    · refine .ok ?_
      rw [SameIdentifier, field_document _ _ _ _ (by decide), field_document _ _ _ _ (by decide),
        tag_document, tag_document]
      exact ⟨rfl, rfl⟩

private theorem declarator_follows (h : t.Embeds bytes bytes' t') :
    Follows (fun d e => SameIdentifier (d.field "id") (e.field "id")) (declarator bytes t)
      (declarator bytes' t') := by
  refine (bindingTarget_follows (h.child? "name")).bind fun id id' same => .ok ?_
  rw [field_document _ _ _ _ (by decide), field_document _ _ _ _ (by decide)]
  simpa using same

/-- A comment before the first word of a declaration of variables takes its place. -/
private theorem keyword_follows (h : t.Embeds bytes bytes' t') :
    Follows (fun _ _ => True) (keyword bytes t) (keyword bytes' t') := by
  intro word read
  unfold keyword at read ⊢
  cases children' : t'.children with
  | nil => exact ⟨_, rfl, trivial⟩
  | cons first' rest' =>
    rcases h.children.of_head? first' (by rw [children']; rfl) with remark | ⟨first, leads, related⟩
    · obtain ⟨text, done⟩ := remark.text
      exact ⟨text, done, trivial⟩
    · obtain ⟨rest, children⟩ := List.head?_eq_some_iff.mp leads
      rw [children] at read
      exact ⟨word, related.text.trans read, trivial⟩

private theorem variableList_follows (h : t.Embeds bytes bytes' t') :
    Follows Alike (variableList bytes t) (variableList bytes' t') := by
  have values := (h.namedOfKind (k := "variable_declarator") (by decide)).imp fun _ _ =>
    declarator_follows
  rw [variableList_eq, variableList_eq]
  refine (keyword_follows h).bind fun _ _ _ => ?_
  refine (Follows.mapM₂ values).bind fun _ _ same => ?_
  refine .ok (alike_document ?_ _ _ _)
  exact ⟨by simp [Value.tag], by simp, by simpa using same, by simp, by simp⟩

/-- Next to a comment a namespace is no longer all of its statement, but neither form of the
statement declares what could be exported. -/
private theorem expressionStatement_follows (h : t.Embeds bytes bytes' t') :
    Follows Alike (expressionStatement bytes t) (expressionStatement bytes' t') := by
  have idle : ∀ tag ∈ [Text.ofString "TSModuleDeclaration", "ExpressionStatement"],
      tag ∉ exportableTags ++ moduleTags := by simp [exportableTags, moduleTags]
  have within : ∀ {bytes t v}, expressionStatement bytes t = .ok v →
      ∃ tag ∉ exportableTags ++ moduleTags, v.tag = .text tag := by
    intro _ _ _ read
    obtain ⟨tag, among, tagged⟩ := tag_of_expressionStatement read
    exact ⟨tag, idle tag among, tagged⟩
  intro v read
  obtain ⟨w, read'⟩ : ∃ w, expressionStatement bytes' t' = .ok w := by
    rw [expressionStatement]
    split
    · rename_i only' alone'
      split_ifs with isNamespace
      · obtain ⟨only, alone, related⟩ := h.namedChildren_singleton alone' isNamespace (by decide)
        rw [related.isKind] at isNamespace
        rw [expressionStatement, alone] at read
        simp only [isNamespace, if_true] at read
        obtain ⟨w, done, _⟩ := named_follows related _ _ v read
        exact ⟨w, done⟩
      · exact ⟨_, rfl⟩
    · exact ⟨_, rfl⟩
  exact ⟨w, read', .of_tags (within read) (within read')⟩

private theorem importStatement_follows (h : t.Embeds bytes bytes' t') :
    Follows Alike (importStatement bytes t) (importStatement bytes' t') := by
  rw [importStatement, importStatement, h.any_named (by decide)]
  split
  · exact .ok (alike_document (.refl _) _ _ _)
  · refine (identifier?_follows (h.child? "source")).bind fun _ _ _ => ?_
    refine .ok (alike_document ?_ _ _ _)
    exact ⟨by simp [Value.tag], by simp, by simp, by simp, by simp⟩

private theorem exportSpecifier_follows (h : t.Embeds bytes bytes' t') :
    Follows (fun a b => SameIdentifier (a.field "local") (b.field "local"))
      (exportSpecifier bytes t) (exportSpecifier bytes' t') := by
  refine (identifier?_follows (h.child? "name")).bind fun _ _ same => ?_
  refine (identifier?_follows (rel_or (h.child? "alias") (h.child? "name"))).bind fun _ _ _ =>
    .ok ?_
  rw [field_document _ _ _ _ (by decide), field_document _ _ _ _ (by decide)]
  simpa using same

/-- A comment before the name in `* as name` takes its place. -/
private theorem namespaceSpecifier_follows (h : t.Embeds bytes bytes' t') :
    Follows (fun a b => SameIdentifier (a.field "local") (b.field "local"))
      (namespaceSpecifier bytes t) (namespaceSpecifier bytes' t') := by
  have name : Follows (fun _ _ => True) (identifier? bytes t.namedChildren.head?)
      (identifier? bytes' t'.namedChildren.head?) := by
    intro v read
    cases leads' : t'.namedChildren.head? with
    | none => exact ⟨_, rfl, trivial⟩
    | some first' =>
      rcases h.namedChildren.of_head? first' leads' with remark | ⟨first, leads, related⟩
      · obtain ⟨text, done⟩ := remark.text
        exact ⟨_, identifier_of_text done, trivial⟩
      · rw [leads] at read
        obtain ⟨w, done, _⟩ := identifier_follows related v read
        exact ⟨w, done, trivial⟩
  refine name.bind fun _ _ _ => .ok ?_
  rw [field_document _ _ _ _ (by decide), field_document _ _ _ _ (by decide)]
  simp [SameIdentifier]

private theorem specifiersOf_follows (h : t.Embeds bytes bytes' t') :
    Follows (List.Forall₂ fun a b => SameIdentifier (a.field "local") (b.field "local"))
      (specifiersOf bytes t) (specifiersOf bytes' t') := by
  have star : Option.Rel (Tree.Embeds bytes bytes') (wildcard? t) (wildcard? t') :=
    h.namedOfKind? (by decide)
  have list : Option.Rel (Tree.Embeds bytes bytes') (clause? t) (clause? t') :=
    h.namedOfKind? (by decide)
  unfold specifiersOf
  generalize wildcard? t = star?, wildcard? t' = star?', clause? t = list?,
    clause? t' = list?' at star list
  cases star with
  | some related => exact (namespaceSpecifier_follows related).map fun _ _ same => .cons same .nil
  | none =>
    cases list with
    | none => exact .ok .nil
    | some related =>
      have specifiers := (related.namedOfKind (k := "export_specifier") (by decide)).imp fun _ _ =>
        exportSpecifier_follows
      exact Follows.mapM₂ specifiers

end Parts

section Statements

variable {bytes bytes' : Bytes}

private theorem childStatement_follows {t : Tree}
    (hs : ∀ child ∈ t.children, ∀ child', child.Embeds bytes bytes' child' →
      Follows Alike (statement bytes child) (statement bytes' child'))
    {o o' : Option Tree} (ho : ∀ child ∈ o, child ∈ t.children)
    (h : Option.Rel (Tree.Embeds bytes bytes') o o') :
    Follows (fun v w => v.isNull = w.isNull) (childStatement bytes o)
      (childStatement bytes' o') := by
  cases h with
  | none => exact .ok rfl
  | @some child child' related =>
    intro v hv
    obtain ⟨w, hw, _⟩ := hs child (ho child rfl) child' related v hv
    exact ⟨w, hw, (isNull_statement hv).trans (isNull_statement hw).symm⟩

private theorem exportStatement_follows {t t' : Tree} (h : t.Embeds bytes bytes' t')
    (hs : ∀ child ∈ t.children, ∀ child', child.Embeds bytes bytes' child' →
      Follows Alike (statement bytes child) (statement bytes' child')) :
    Follows Alike (exportStatement bytes t (statements bytes t.children))
      (exportStatement bytes' t' (statements bytes' t'.children)) := by
  have noStar : (wildcard? t').isNone = (wildcard? t).isNone :=
    isNone_of_rel (h.namedOfKind? (by decide))
  have noList : (clause? t').isNone = (clause? t).isNone :=
    isNone_of_rel (h.namedOfKind? (by decide))
  rw [exportStatement_eq, exportStatement_eq, h.tokens, noStar, noList]
  split_ifs
  · refine (childStatement_follows hs (fun _ => Tree.mem_children_of_child?_or)
      (rel_or (h.child? _) (h.child? _))).bind fun _ _ same => ?_
    refine .ok (alike_document ?_ _ _ _)
    exact ⟨by simp [Value.tag], by simp, by simp, by simpa using same, by simp⟩
  · exact .ok (alike_document (.refl _) _ _ _)
  · refine (identifier?_follows (h.namedOfKind? (by decide))).bind fun _ _ same => ?_
    refine .ok (alike_document ?_ _ _ _)
    exact ⟨by simp [Value.tag], by simpa using same.2, by simp, by simp, by simp⟩
  · refine (identifier?_follows (h.child? _)).bind fun _ _ _ => ?_
    refine .ok (alike_document ?_ _ _ _)
    exact ⟨by simp [Value.tag], by simp, by simp, by simp, by simp⟩
  · refine (childStatement_follows hs (fun _ => Tree.mem_children_of_child?) (h.child? _)).bind
      fun _ _ declaration => ?_
    refine (specifiersOf_follows h).bind fun _ _ specifiers => ?_
    refine (identifier?_follows (h.child? _)).bind fun _ _ _ => ?_
    refine .ok (alike_document ?_ _ _ _)
    exact ⟨by simp [Value.tag], by simp, by simp, by simpa using declaration,
      by simpa using specifiers⟩

private theorem ambient_follows {t t' : Tree} (h : t.Embeds bytes bytes' t')
    (hs : ∀ child ∈ t.children, ∀ child', child.Embeds bytes bytes' child' →
      Follows Alike (statement bytes child) (statement bytes' child')) :
    Follows Alike (ambient bytes t (statements bytes t.children))
      (ambient bytes' t' (statements bytes' t'.children)) := by
  have within : ∀ inner ∈ t.children.find? Tree.isStatement, inner ∈ t.children := fun _ =>
    List.mem_of_find?_eq_some
  have declared := h.statement?
  rw [ambient_eq, ambient_eq, h.tokens]
  generalize t.children.find? Tree.isStatement = inner?,
    t'.children.find? Tree.isStatement = inner?' at within declared
  cases declared with
  | none => exact .ok (alike_document (.refl _) _ _ _)
  | @some inner inner' related =>
    simp only
    split_ifs
    · refine .ok (alike_document ?_ _ _ _)
      exact ⟨by simp [Value.tag], by simp, by simp, by simp, by simp⟩
    · exact .ok (alike_document (.refl _) _ _ _)
    · refine (hs inner (within inner rfl) inner' related).map fun v w same => ?_
      exact same.of_fields (fun _ => field_declaredAt _ _ _) fun _ => field_declaredAt _ _ _

/-- A statement that has a document has one in every tree that it stands in, and the two look
alike. -/
theorem Tree.Embeds.statement_follows {t t' : Tree} (h : t.Embeds bytes bytes' t') :
    Follows Alike (statement bytes t) (statement bytes' t') := by
  induction t using Tree.induct generalizing t' with
  | node label children ih =>
    have hs : ∀ child ∈ children, ∀ child', child.Embeds bytes bytes' child' →
        Follows Alike (statement bytes child) (statement bytes' child') :=
      fun child hc child' => ih child hc
    rw [statement_eq_assemble, statement_eq_assemble, assemble, assemble, h.kind]
    cases Form.ofKind (Tree.node label children).kind with
    | function =>
      simp only [h.tokens]
      exact named_follows h _ _
    | signature => exact named_follows h _ _
    | classDeclaration => exact named_follows h _ _
    | interface => exact named_follows h _ _
    | typeAlias => exact named_follows h _ _
    | enumeration =>
      simp only [h.tokens]
      exact named_follows h _ _
    | variableList => exact variableList_follows h
    | moduleDeclaration => exact named_follows h _ _
    | ambient => exact ambient_follows h hs
    | expression => exact expressionStatement_follows h
    | importStatement => exact importStatement_follows h
    | importAlias => exact .ok (alike_document (.refl _) _ _ _)
    | exportStatement => exact exportStatement_follows h hs
    | other => exact .ok (alike_document (.refl _) _ _ _)

/-- The statements of a tree that stands in another look like those of that tree. -/
theorem Tree.Embeds.statements_follow {t t' : Tree} (h : t.Embeds bytes bytes' t') :
    Follows (List.Forall₂ Alike) (t.statementNodes.mapM (statement bytes))
      (t'.statementNodes.mapM (statement bytes')) :=
  Follows.mapM₂ (h.statementNodes.imp fun _ _ => Tree.Embeds.statement_follows)

end Statements

end Concrete

end ExportList
