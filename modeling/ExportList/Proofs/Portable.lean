import ExportList.Proofs.Concrete.Description
import ExportList.Proofs.Concrete.Names
import ExportList.Proofs.Document.RoundTrip
import ExportList.Proofs.Source

/-!
Stored results of TypeScript documents.  A result whose names hold no surrogates has a JSON text
with a UTF-8 form, from which it can be read back.  The one exception are places with more digits
than a printed integer may have.
-/

set_option autoImplicit false

namespace ExportList

/-- A run of letters whose other forms lie all below the surrogates, or all above them. -/
def KeepsScalar (run : CaseRun) : Prop :=
  (run.2.1 : Int) + run.2.2.2 < 0xD800 ∨
    0xE000 ≤ (run.1 : Int) + run.2.2.2 ∧ (run.2.1 : Int) + run.2.2.2 < 0x110000

instance (run : CaseRun) : Decidable (KeepsScalar run) := inferInstanceAs (Decidable (_ ∨ _))

private theorem isSurrogate_ofNat {n : Nat} (h : n < 0xD800 ∨ 0xE000 ≤ n ∧ n < 0x110000) :
    (CodePoint.ofNat n).isSurrogate = false := by
  have val : (CodePoint.ofNat n).val = n := Nat.mod_eq_of_lt (by omega)
  simp only [CodePoint.isSurrogate, val, Bool.and_eq_false_iff, decide_eq_false_iff_not]
  omega

private theorem isSurrogate_caseIn? {runs : List CaseRun} (clear : ∀ run ∈ runs, KeepsScalar run)
    {c : CodePoint} (h : c.isSurrogate = false) :
    ((caseIn? runs c).getD c).isSurrogate = false := by
  unfold caseIn?
  cases found : runs.find? fun run =>
    run.1 ≤ c.val && c.val ≤ run.2.1 && (c.val - run.1) % run.2.2.1 = 0 with
  | none => exact h
  | some run =>
    have inside := List.find?_some found
    have keeps := clear run (List.mem_of_find?_eq_some found)
    simp only [Bool.and_eq_true, decide_eq_true_eq] at inside
    -- the other form lies within the bounds of the run, moved by its distance
    apply isSurrogate_ofNat
    rcases keeps with below | above
    · left
      omega
    · right
      omega

theorem CodePoint.isScalar_lower {c : CodePoint} (h : c.isSurrogate = false) :
    c.lower.IsScalar := by
  have clear : ∀ run ∈ lowerRuns, KeepsScalar run := by decide +kernel
  rw [CodePoint.lower]
  split_ifs
  · refine Text.isScalar_cons.mpr ⟨isSurrogate_ofNat (by decide), List.forall_mem_singleton.mpr ?_⟩
    exact isSurrogate_ofNat (by decide)
  · exact List.forall_mem_singleton.mpr (isSurrogate_caseIn? clear h)

theorem CodePoint.isScalar_title {c : CodePoint} (h : c.isSurrogate = false) :
    c.title.IsScalar := by
  have clear : ∀ run ∈ titleRuns, KeepsScalar run := by decide +kernel
  have expansions : ∀ entry ∈ titleExpansions, ∀ n ∈ entry.2, n < 0xD800 := by decide +kernel
  rw [CodePoint.title]
  split
  · rename_i entry found
    intro d member
    obtain ⟨n, inside, rfl⟩ := List.mem_map.mp member
    exact isSurrogate_ofNat (.inl (expansions entry (List.mem_of_find?_eq_some found) n inside))
  · exact List.forall_mem_singleton.mpr (isSurrogate_caseIn? clear h)

theorem Text.isScalar_lowerAfter (before : Text) {t : Text} (h : t.IsScalar) :
    (Text.lowerAfter before t).IsScalar := by
  induction t generalizing before with
  | nil => exact h
  | cons c rest ih =>
    obtain ⟨first, others⟩ := Text.isScalar_cons.mp h
    rw [Text.lowerAfter, CodePoint.lowerBetween]
    refine Text.isScalar_append.mpr ⟨?_, ih (c :: before) others⟩
    split_ifs
    · exact List.forall_mem_singleton.mpr (isSurrogate_ofNat (by decide))
    · exact CodePoint.isScalar_lower first

theorem Text.isScalar_capitalize {t : Text} (h : t.IsScalar) : t.capitalize.IsScalar := by
  cases t with
  | nil => exact h
  | cons c rest =>
    obtain ⟨first, others⟩ := Text.isScalar_cons.mp h
    exact Text.isScalar_append.mpr
      ⟨CodePoint.isScalar_title first, Text.isScalar_lowerAfter [c] others⟩

theorem Text.isScalar_splitAt {mark : CodePoint} {t : Text} (h : t.IsScalar) :
    ∀ piece ∈ Text.splitAt mark t, Text.IsScalar piece := by
  induction t with
  | nil => exact List.forall_mem_singleton.mpr h
  | cons c rest ih =>
    obtain ⟨first, others⟩ := Text.isScalar_cons.mp h
    have pieces := ih others
    rw [Text.splitAt]
    cases split : Text.splitAt mark rest with
    | nil => exact List.forall_mem_singleton.mpr (List.forall_mem_singleton.mpr first)
    | cons piece others =>
      rw [split, List.forall_mem_cons] at pieces
      simp only
      split_ifs
      · exact List.forall_mem_cons.mpr ⟨nofun, List.forall_mem_cons.mpr pieces⟩
      · exact List.forall_mem_cons.mpr ⟨Text.isScalar_cons.mpr ⟨first, pieces.1⟩, pieces.2⟩

namespace Concrete

theorem isScalar_camel {kind : Text} (h : kind.IsScalar) : (camel kind).IsScalar := by
  intro c member
  obtain ⟨piece, inside, member⟩ := List.mem_flatMap.mp member
  exact Text.isScalar_capitalize (Text.isScalar_splitAt h piece inside) c member

/-- The numbers of a place are short enough to be printed.  The line is the row counted from one,
and the column is never more than the offset. -/
def Point.IsShort (p : Point) : Prop :=
  p.offset < 10 ^ Json.maxDigits ∧ p.row + 1 < 10 ^ Json.maxDigits

instance (p : Point) : Decidable p.IsShort := inferInstanceAs (Decidable (_ ∧ _))

def Tree.HasShortPlaces (t : Tree) : Prop :=
  ∀ s ∈ t.nodes, s.label.start.IsShort ∧ s.label.stop.IsShort

instance (t : Tree) : Decidable t.HasShortPlaces :=
  inferInstanceAs (Decidable (∀ s ∈ t.nodes, _ ∧ _))

theorem Point.characterColumn_le (bytes : Bytes) (p : Point) :
    p.characterColumn bytes ≤ p.offset :=
  Nat.le_trans (Utf8.length_decodeLossy_le _) (Bytes.length_slice_le _ _ _)

private theorem everywhere_isPrintable_nat {n : Nat} (h : n < 10 ^ Json.maxDigits) :
    (Value.nat n).Everywhere Json.IsPrintable := by
  rw [Value.nat, Value.everywhere_int, Json.IsPrintable, Json.fault?, Int.natAbs_natCast, if_pos h]

private theorem everywhere_isPrintable_base {bytes : Bytes} {label : Label} {tag : Text}
    (start : label.start.IsShort) (stop : label.stop.IsShort) :
    ∀ field ∈ base bytes label tag, field.2.Everywhere Json.IsPrintable := by
  have object : ∀ fields, Json.IsPrintable (.object fields) := fun _ => rfl
  have list : ∀ items, Json.IsPrintable (.list items) := fun _ => rfl
  have text : ∀ t, Json.IsPrintable (.text t) := fun _ => rfl
  have column : ∀ {p : Point}, p.IsShort → p.characterColumn bytes < 10 ^ Json.maxDigits :=
    fun {p} short => Nat.lt_of_le_of_lt (p.characterColumn_le bytes) short.1
  simp [base, position, Value.everywhere_object, Value.everywhere_list, object, list, text,
    everywhere_isPrintable_nat, start.1, start.2, stop.1, stop.2, column start, column stop]

/-- A value that describes a tree with short places can be printed. -/
theorem Described.everywhere_isPrintable {bytes : Bytes} {root : Tree} {v : Value}
    (short : root.HasShortPlaces) (h : Described bytes root v) :
    v.Everywhere Json.IsPrintable := by
  induction h with
  | null => exact Value.everywhere_null.mpr rfl
  | flag b => exact Value.everywhere_bool.mpr rfl
  | word s => exact Value.everywhere_text.mpr rfl
  | text member read => exact Value.everywhere_text.mpr rfl
  | quoted member read => exact Value.everywhere_text.mpr rfl
  | list each ih => exact Value.everywhere_list.mpr ⟨rfl, ih⟩
  | @node t tag fields member isTag keys each ih =>
    obtain ⟨start, stop⟩ := short t member
    exact Value.everywhere_object.mpr
      ⟨rfl, List.forall_mem_append.mpr ⟨everywhere_isPrintable_base start stop, ih⟩⟩

private theorem everywhere_isPortable_base {bytes : Bytes} {label : Label} {tag : Text}
    (h : tag.IsScalar) : ∀ field ∈ base bytes label tag, field.2.Everywhere Json.IsPortable := by
  have words : ∀ s : String, Text.IsScalar s := Text.isScalar_ofString
  simp [base, position, Value.everywhere_object, Value.everywhere_list, Value.nat, Json.IsPortable,
    words, h]

/-- A value that describes a tree without surrogates in its grammar names can be carried by JSON. -/
theorem Described.everywhere_isPortable {bytes : Bytes} {root : Tree} {v : Value}
    (kinds : ∀ t ∈ root.nodes, t.kind.IsScalar) (h : Described bytes root v) :
    v.Everywhere Json.IsPortable := by
  have decoded : ∀ {t : Tree} {name : Text}, t.text bytes = .ok name → name.IsScalar := fun read =>
    Utf8.exists_encode?_iff.mp ⟨_, Utf8.decode_eq_ok_iff.mp read⟩
  induction h with
  | null => exact Value.everywhere_null.mpr trivial
  | flag b => exact Value.everywhere_bool.mpr trivial
  | word s => exact Value.everywhere_text.mpr (Text.isScalar_ofString s)
  | text member read => exact Value.everywhere_text.mpr (decoded read)
  | quoted member read =>
    refine Value.everywhere_text.mpr fun c inside => decoded read c ?_
    exact List.mem_of_mem_drop (List.dropLast_subset _ inside)
  | list each ih => exact Value.everywhere_list.mpr ⟨trivial, ih⟩
  | @node t tag fields member isTag keys each ih =>
    obtain ⟨names, same, distinct⟩ := keys
    have tagged : tag.IsScalar := by
      rcases isTag with ⟨word, rfl⟩ | ⟨s, inside, rfl⟩
      · exact Text.isScalar_ofString word
      · exact isScalar_camel (kinds s inside)
    have allKeys : (base bytes t.label tag ++ fields).map Prod.fst =
        (placeKeys ++ names).map Text.ofString := by
      rw [List.map_append, same, List.map_append]
      rfl
    rw [document, Value.everywhere_object]
    refine ⟨⟨fun field inside => ?_, ?_⟩, List.forall_mem_append.mpr ⟨?_, ih⟩⟩
    · have key := List.mem_map_of_mem (f := Prod.fst) inside
      rw [allKeys] at key
      obtain ⟨name, _, word⟩ := List.mem_map.mp key
      rw [← word]
      exact Text.isScalar_ofString name
    · rw [allKeys]
      exact List.Pairwise.map _ (fun _ _ other same => other (Text.ofString_inj.mp same)) distinct
    · exact everywhere_isPortable_base tagged

end Concrete

theorem Sha256.isScalar_hexDigest (message : Bytes) : (Sha256.hexDigest message).IsScalar := by
  intro c member
  obtain ⟨word, _, member⟩ := List.mem_flatMap.mp member
  exact Text.isScalar_hex 8 word.toNat c member

theorem SourceType.isScalar_text (kind : SourceType) : kind.text.IsScalar := by
  cases kind <;> exact Text.isScalar_ofString _

theorem Dialect.isScalar_name (dialect : Dialect) : dialect.name.IsScalar := by
  cases dialect <;> exact Text.isScalar_ofString _

theorem Parsed.everywhere_isPortable_document {source sourceName : Text} {tree : Concrete.Tree}
    {parsed : Parsed} (kinds : ∀ t ∈ tree.nodes, t.kind.IsScalar) (name : sourceName.IsScalar)
    (h : parseTree source sourceName tree = .ok parsed) :
    parsed.document.Everywhere Json.IsPortable := by
  obtain ⟨bytes, program, _, _, built, rfl⟩ := parseTree_eq_ok_iff.mp h
  have inside := (Concrete.isDocument_program built).described.everywhere_isPortable kinds
  have hash := Sha256.isScalar_hexDigest bytes
  have words : ∀ s : String, Text.IsScalar s := Text.isScalar_ofString
  rw [Parsed.document, Value.everywhere_object]
  refine ⟨⟨?_, ?_⟩, ?_⟩
  · simp [words]
  · simp
  · simp [Parsed.ofProgram, Json.IsPortable, inside, hash, SourceType.isScalar_text,
      Dialect.isScalar_name, name]

/-- The rest of a stored document can be printed. -/
theorem Parsed.firstFault?_document (parsed : Parsed) :
    Json.firstFault? parsed.document = Json.firstFault? parsed.program := by
  change (parsed.program.parts ++ [_, _, _, _]).findSome? Json.fault? = _
  rw [List.findSome?_append]
  exact Option.or_none

theorem Parsed.json_eq_error_iff {parsed : Parsed} {fault : Json.Unprintable} :
    parsed.json = .error fault ↔ Json.firstFault? parsed.program = some fault := by
  rw [Parsed.json, Json.render, Json.print_eq_error_iff, parsed.firstFault?_document]

/-- Long integers in the program of a tree come from places in the tree. -/
theorem not_hasShortPlaces_of_firstFault? {source sourceName : Text} {tree : Concrete.Tree}
    {parsed : Parsed} {fault : Json.Unprintable} (h : parseTree source sourceName tree = .ok parsed)
    (found : Json.firstFault? parsed.program = some fault) : ¬tree.HasShortPlaces := by
  obtain ⟨bytes, program, _, _, built, rfl⟩ := parseTree_eq_ok_iff.mp h
  intro short
  have printable := (Concrete.isDocument_program built).described.everywhere_isPrintable short
  exact Json.firstFault?_ne_some printable fault found

/-- The result for a tree has a JSON text, unless a place in the tree has a number of too many
digits.  Reading the text gives back the stored document with all its keys in their order, and the
text survives being written as UTF-8. -/
theorem parsed_json_roundtrip {source sourceName : Text} {tree : Concrete.Tree} {parsed : Parsed}
    (kinds : ∀ t ∈ tree.nodes, t.kind.IsScalar) (name : sourceName.IsScalar)
    (h : parseTree source sourceName tree = .ok parsed) :
    (∃ text bytes, parsed.json = .ok text ∧ Json.read text = some parsed.document ∧
      text.IsScalar ∧ Utf8.encode? text = some bytes ∧ Utf8.decode bytes = .ok text) ∨
    parsed.json = .error .longInteger ∧ ¬tree.HasShortPlaces := by
  have portable := Parsed.everywhere_isPortable_document kinds name h
  cases json : parsed.json with
  | ok text =>
    obtain ⟨read, scalar⟩ := Json.read_of_render portable json
    obtain ⟨bytes, encoded⟩ := Utf8.exists_encode?_iff.mpr scalar
    exact .inl ⟨text, bytes, rfl, read, scalar, encoded, Utf8.decode_eq_ok_iff.mpr encoded⟩
  | error fault =>
    have first := Json.print_eq_error_iff.mp json
    obtain rfl := Json.firstFault?_eq_longInteger portable first
    exact .inr ⟨rfl, not_hasShortPlaces_of_firstFault? h (Parsed.json_eq_error_iff.mp json)⟩

def tabbedImport : Concrete.Tree :=
  .onRow 0 0 "program" 0 14
    [.onRow 0 0 "import_statement" 0 14
      [.asToken (.onRow 0 0 "import" 0 6 []), .inField "source" (.onRow 0 0 "string" 7 14 [])]]

theorem parsed_json_roundtrip_tabbedImport :
    ∃ parsed, parseTree "import \"\t😀\"" "a\\b.ts" tabbedImport = .ok parsed ∧
      ∃ text bytes, parsed.json = .ok text ∧ Json.read text = some parsed.document ∧
        text.IsScalar ∧ Utf8.encode? text = some bytes ∧ Utf8.decode bytes = .ok text := by
  have encoded : Utf8.encode? (Text.ofString "import \"\t😀\"") =
      some [105, 109, 112, 111, 114, 116, 32, 34, 9, 240, 159, 152, 128, 34] := rfl
  have boundaries : tabbedImport.OnBoundaries "import \"\t😀\"" := by decide
  obtain ⟨body, built⟩ := Concrete.statements_ok (boundaries.reads encoded)
  obtain ⟨parsed, read, _⟩ := Concrete.parseTree_ok "a\\b.ts" encoded rfl built
  have short : tabbedImport.HasShortPlaces := by decide +kernel
  have outcome := parsed_json_roundtrip (by decide) (by decide) read
  exact ⟨parsed, read, outcome.resolve_right fun ⟨_, long⟩ => long short⟩

end ExportList
