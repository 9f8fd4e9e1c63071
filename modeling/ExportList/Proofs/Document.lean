import ExportList.Proofs.Sequence
import ExportList.Analysis

/-!
Documents that the analysis cannot tell apart.  It looks at the tag of a statement, at the names
that its identifiers carry and at whether it holds a declaration; places and all other fields may
differ.
-/

set_option autoImplicit false

namespace ExportList

theorem CodePoint.ofChar_injective {a b : Char} (h : CodePoint.ofChar a = CodePoint.ofChar b) :
    a = b :=
  Char.ext (UInt32.toNat_inj.mp (Fin.mk.inj h))

@[simp] theorem Text.ofString_inj {a b : String} : Text.ofString a = Text.ofString b ↔ a = b := by
  constructor
  · intro h
    exact String.toList_inj.mp
      (List.map_injective_iff.mpr (fun _ _ => CodePoint.ofChar_injective) h)
  · rintro rfl
    rfl

namespace Fields

@[simp] theorem get?_nil (key : Text) : get? [] key = none := rfl

@[simp] theorem get?_cons (k key : Text) (value : Value) (fields : Fields) :
    get? ((k, value) :: fields) key = if k = key then some value else get? fields key := by
  by_cases h : k = key <;> simp [get?, h]

theorem get?_set (fields : Fields) (k key : Text) (value : Value) :
    get? (fields.set k value) key = if k = key then some value else get? fields key := by
  induction fields with
  | nil => simp [set]
  | cons field fields ih =>
    obtain ⟨k', v⟩ := field
    by_cases same : k' = k
    · subst k'
      by_cases h : k = key <;> simp [set, h]
    · rw [set, if_neg same, get?_cons, get?_cons, ih]
      by_cases h : k' = key
      · have other : k ≠ key := fun hk => same (h.trans hk.symm)
        simp [h, other]
      · simp [h]

theorem set_of_notMem {fields : Fields} {key : Text} (value : Value)
    (h : key ∉ fields.map Prod.fst) :
    set fields key value = fields ++ [(key, value)] := by
  induction fields with
  | nil => rfl
  | cons field fields ih =>
    rw [List.map_cons, List.mem_cons, not_or] at h
    rw [set, if_neg (Ne.symm h.1), ih h.2, List.cons_append]

theorem map_fst_set_of_mem {fields : Fields} {key : Text} (value : Value)
    (h : key ∈ fields.map Prod.fst) :
    (set fields key value).map Prod.fst = fields.map Prod.fst := by
  induction fields with
  | nil => cases h
  | cons field fields ih =>
    by_cases same : field.1 = key
    · rw [set, if_pos same, List.map_cons, List.map_cons, same]
    · have later : key ∈ fields.map Prod.fst := (List.mem_cons.mp h).resolve_left (Ne.symm same)
      rw [set, if_neg same, List.map_cons, List.map_cons, ih later]

end Fields

namespace Value

@[simp] theorem field_null (key : Text) : null.field key = null := rfl

@[simp] theorem field_object (fields : Fields) (key : Text) :
    (object fields).field key = (Fields.get? fields key).getD null := rfl

@[simp] theorem items_list (items : List Value) : (list items).items = items := rfl

@[simp] theorem items_null : null.items = [] := rfl

end Value

def exportableIn (statement : Value) : Except NameError (List Text) :=
  if isExportableStatement statement then boundNames statement else .ok []

def exportedIn (statement : Value) : Except NameError (List Text) :=
  if isExportList statement then listedNames statement else .ok []

theorem exportableNames_eq (statements : List Value) :
    exportableNames statements =
      (statements.mapM exportableIn).map fun names => names.flatten.eraseDups :=
  mapM_filter_flatten boundNames List.eraseDups isExportableStatement statements

theorem exportedNames_eq (statements : List Value) :
    exportedNames statements =
      (statements.mapM exportedIn).map fun names => names.flatten.eraseDups :=
  mapM_filter_flatten listedNames List.eraseDups isExportList statements

theorem exportableIn_of_tag {v : Value} {tag : Text} (h : v.tag = .text tag)
    (ht : isExportable tag = false) : exportableIn v = .ok [] := by
  have none : isExportableStatement v = false := by
    rw [isExportableStatement, hasTagAmong, h]
    exact ht
  rw [exportableIn, none]
  rfl

theorem exportedIn_of_tag {v : Value} {tag : Text} (h : v.tag = .text tag)
    (ht : tag ≠ "ExportNamedDeclaration") : exportedIn v = .ok [] := by
  have none : isExportList v = false := by
    simp [isExportList, Value.hasTag, h, Value.isText, ht]
  rw [exportedIn, none]
  rfl

def SameIdentifier (v w : Value) : Prop := v.tag = w.tag ∧ v.field "name" = w.field "name"

/-- Two statements agree in all that the analysis looks at. -/
structure SameParts (v w : Value) : Prop where
  tag : v.tag = w.tag
  name : (v.field "id").field "name" = (w.field "id").field "name"
  declarators : List.Forall₂ (fun d e => SameIdentifier (d.field "id") (e.field "id"))
    (v.field "declarations").items (w.field "declarations").items
  declaration : (v.field "declaration").isNull = (w.field "declaration").isNull
  specifiers : List.Forall₂ (fun a b => SameIdentifier (a.field "local") (b.field "local"))
    (v.field "specifiers").items (w.field "specifiers").items

def relevantKeys : List Text := ["type", "id", "declarations", "declaration", "specifiers"]

theorem SameParts.refl (v : Value) : SameParts v v where
  tag := rfl
  name := rfl
  declarators := List.forall₂_same.mpr fun _ _ => ⟨rfl, rfl⟩
  declaration := rfl
  specifiers := List.forall₂_same.mpr fun _ _ => ⟨rfl, rfl⟩

theorem sameParts_of_fields {v w : Value} (h : ∀ key ∈ relevantKeys, v.field key = w.field key) :
    SameParts v w := by
  simp only [relevantKeys, List.forall_mem_cons, List.not_mem_nil, false_imp_iff, implies_true,
    and_true] at h
  obtain ⟨tag, id, declarations, declaration, specifiers⟩ := h
  have same := SameParts.refl w
  constructor
  · rw [Value.tag, Value.tag, tag]
  · rw [id]
  · rw [declarations]
    exact same.declarators
  · rw [declaration]
  · rw [specifiers]
    exact same.specifiers

/-- Errors of one kind; what they are about may differ. -/
def NameError.SameKind : NameError → NameError → Prop
  | .unsupportedPattern _, .unsupportedPattern _ => True
  | .missingIdentifier _, .missingIdentifier _ => True
  | .nameless, .nameless => True
  | _, _ => False

@[refl] theorem NameError.SameKind.refl (e : NameError) : e.SameKind e := by
  cases e <;> trivial

theorem NameError.SameKind.trans (e d c : NameError) (h : e.SameKind d) (h' : d.SameKind c) :
    e.SameKind c := by
  cases e <;> cases d <;> cases c <;> simp_all [SameKind]

private theorem SameIdentifier.identifierName {v w : Value} (h : SameIdentifier v w) :
    identifierName v = identifierName w := by
  simp only [ExportList.identifierName, h.2]

private theorem SameIdentifier.hasTag {v w : Value} (h : SameIdentifier v w) (tag : Text) :
    v.hasTag tag = w.hasTag tag := by
  simp only [Value.hasTag, h.1]

private theorem declaratorName_congr {d e : Value}
    (h : SameIdentifier (d.field "id") (e.field "id")) :
    Agree NameError.SameKind (declaratorName d) (declaratorName e) := by
  simp only [declaratorName, h.hasTag, h.identifierName]
  split
  · exact .refl NameError.SameKind.refl _
  · trivial

private theorem specifierNames_congr {a b : Value}
    (h : SameIdentifier (a.field "local") (b.field "local")) :
    specifierNames a = specifierNames b := by
  simp only [specifierNames, h.hasTag, h.identifierName]

private theorem SameParts.boundNames {v w : Value} (h : SameParts v w) :
    Agree NameError.SameKind (boundNames v) (boundNames w) := by
  have same : isVariableDeclaration v = isVariableDeclaration w := by
    simp only [isVariableDeclaration, Value.hasTag, h.tag]
  simp only [ExportList.boundNames, same, h.name]
  by_cases d : isVariableDeclaration w
  · rw [if_pos d, if_pos d]
    exact Agree.mapM (h.declarators.imp fun _ _ => declaratorName_congr)
  · rw [if_neg d, if_neg d]
    split
    · exact rfl
    · trivial

private theorem SameParts.listedNames {v w : Value} (h : SameParts v w) :
    listedNames v = listedNames w := by
  rw [ExportList.listedNames, ExportList.listedNames,
    mapM_congr₂ (h.specifiers.imp fun _ _ => specifierNames_congr)]

private theorem SameParts.hasTagAmong {v w : Value} (h : SameParts v w) (tags : List Text) :
    hasTagAmong tags v = hasTagAmong tags w := by
  simp only [ExportList.hasTagAmong, h.tag]

private theorem SameParts.exportableIn {v w : Value} (h : SameParts v w) :
    Agree NameError.SameKind (exportableIn v) (exportableIn w) := by
  have exportable : isExportableStatement v = isExportableStatement w := h.hasTagAmong _
  rw [ExportList.exportableIn, ExportList.exportableIn, exportable]
  by_cases e : isExportableStatement w
  · rw [if_pos e, if_pos e]
    exact h.boundNames
  · rw [if_neg e, if_neg e]
    exact rfl

private theorem SameParts.exportedIn {v w : Value} (h : SameParts v w) :
    exportedIn v = exportedIn w := by
  have lists : isExportList v = isExportList w := by
    have empty : (v.field "specifiers").items.isEmpty = (w.field "specifiers").items.isEmpty := by
      rw [Bool.eq_iff_iff, List.isEmpty_iff_length_eq_zero, List.isEmpty_iff_length_eq_zero,
        h.specifiers.length_eq]
    simp only [isExportList, Value.hasTag, h.tag, h.declaration, empty]
  rw [ExportList.exportedIn, ExportList.exportedIn, lists, h.listedNames]

/-- Two statements that the analysis cannot tell apart. -/
structure Alike (v w : Value) : Prop where
  isModule : hasTagAmong moduleTags v = hasTagAmong moduleTags w
  exportableIn : Agree NameError.SameKind (exportableIn v) (exportableIn w)
  exportedIn : ExportList.exportedIn v = ExportList.exportedIn w

namespace Alike

theorem of_sameParts {v w : Value} (h : SameParts v w) : Alike v w :=
  ⟨h.hasTagAmong _, h.exportableIn, h.exportedIn⟩

theorem refl (v : Value) : Alike v v := of_sameParts (.refl v)

theorem trans {u v w : Value} (h : Alike u v) (h' : Alike v w) : Alike u w where
  isModule := h.isModule.trans h'.isModule
  exportableIn := h.exportableIn.trans NameError.SameKind.trans h'.exportableIn
  exportedIn := h.exportedIn.trans h'.exportedIn

/-- Statements look alike if they have their fields from statements that do. -/
theorem of_fields {v v' w w' : Value} (h : Alike v w)
    (hv : ∀ key ∈ relevantKeys, v'.field key = v.field key)
    (hw : ∀ key ∈ relevantKeys, w'.field key = w.field key) : Alike v' w' := by
  have before := of_sameParts (sameParts_of_fields hv)
  have behind := of_sameParts (sameParts_of_fields fun key hk => (hw key hk).symm)
  exact (before.trans h).trans behind

/-- Statements look alike if they neither import nor export nor declare what could be exported. -/
theorem of_tags {v w : Value} (hv : ∃ tag ∉ exportableTags ++ moduleTags, v.tag = .text tag)
    (hw : ∃ tag ∉ exportableTags ++ moduleTags, w.tag = .text tag) : Alike v w := by
  have idle : ∀ u : Value, (∃ tag ∉ exportableTags ++ moduleTags, u.tag = .text tag) →
      hasTagAmong moduleTags u = false ∧ ExportList.exportableIn u = .ok [] ∧
        ExportList.exportedIn u = .ok [] := by
    rintro u ⟨tag, neither, hu⟩
    rw [List.mem_append, not_or] at neither
    refine ⟨?_, exportableIn_of_tag hu ?_, exportedIn_of_tag hu ?_⟩
    · simpa [hasTagAmong, hu] using neither.2
    · simpa [isExportable] using neither.1
    · rintro rfl
      exact neither.2 (by simp [moduleTags])
  obtain ⟨noModule, noName, notListed⟩ := idle v hv
  obtain ⟨noModule', noName', notListed'⟩ := idle w hw
  refine ⟨noModule.trans noModule'.symm, ?_, notListed.trans notListed'.symm⟩
  rw [noName, noName']
  exact rfl

end Alike

/-- Programs whose statements look alike have the same names. -/
theorem exportableNames_alike {vs ws : List Value} (h : List.Forall₂ Alike vs ws) :
    Agree NameError.SameKind (exportableNames vs) (exportableNames ws) := by
  rw [exportableNames_eq, exportableNames_eq]
  exact (Agree.mapM (h.imp fun _ _ => Alike.exportableIn)).map _

theorem exportedNames_alike {vs ws : List Value} (h : List.Forall₂ Alike vs ws) :
    exportedNames vs = exportedNames ws := by
  rw [exportedNames_eq, exportedNames_eq, mapM_congr₂ (h.imp fun _ _ => Alike.exportedIn)]

theorem missingNames_alike {vs ws : List Value} (h : List.Forall₂ Alike vs ws) :
    Agree NameError.SameKind (missingNames vs) (missingNames ws) := by
  rw [missingNames, missingNames, exportedNames_alike h]
  refine (Agree.refl NameError.SameKind.refl _).bind fun exported => ?_
  exact (exportableNames_alike h).bind fun names => rfl

theorem sourceType_alike {vs ws : List Value} (h : List.Forall₂ Alike vs ws) :
    sourceType vs = sourceType ws := by
  have same : vs.any (hasTagAmong moduleTags) = ws.any (hasTagAmong moduleTags) := by
    induction h with
    | nil => rfl
    | cons alike _ ih => rw [List.any_cons, List.any_cons, alike.isModule, ih]
  rw [sourceType, sourceType, same]

end ExportList
