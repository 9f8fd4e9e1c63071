import ExportList.Proofs.Concrete.Description
import ExportList.Proofs.Concrete.Faults
import ExportList.Proofs.Concrete.Names

/-!
The places of nodes.  Trees give them in bytes and rows; documents and errors give lines and columns
in code points.  Since no byte of a longer character is a line feed, the rows of the bytes are the
lines of the text, and the bytes from the start of a row decode to the characters of the column.
-/

set_option autoImplicit false

namespace ExportList

namespace Text

/-- The line of a byte offset, counted from one. -/
def lineAt (t : Text) (offset : Nat) : Nat := 1 + (t.upToByte offset).count (CodePoint.ofChar '\n')

/-- The code points between the last line feed before a byte offset and the offset. -/
def columnAt (t : Text) (offset : Nat) : Nat :=
  ((t.upToByte offset).reverse.takeWhile (· ≠ CodePoint.ofChar '\n')).length

end Text

namespace Bytes

def rowAt (bytes : Bytes) (offset : Nat) : Nat := (bytes.take offset).count 10

def rowStart (bytes : Bytes) (offset : Nat) : Nat :=
  ((bytes.take offset).reverse.dropWhile (· ≠ 10)).length

end Bytes

namespace Utf8

/-- A code point is spelt by its own number, or by bytes that are all high. -/
private theorem Spells.eq_or_high {bytes : Bytes} {n : Nat} (h : Spells bytes n) :
    (∃ a : UInt8, bytes = [a] ∧ a.toNat = n) ∨ 0x80 ≤ n ∧ ∀ b ∈ bytes, 0x80 ≤ b.toNat := by
  cases h with
  | one low => exact .inl ⟨_, rfl, rfl⟩
  | two ha hb =>
    obtain ⟨ha, _⟩ := ha
    obtain ⟨hb, _⟩ := hb
    refine .inr ⟨by omega, ?_⟩
    simp only [List.forall_mem_cons, List.not_mem_nil, false_imp_iff, implies_true, and_true]
    omega
  | three ha hb hc =>
    obtain ⟨ha, _⟩ := ha
    obtain ⟨⟨hb, _⟩, overlong, _⟩ := hb
    obtain ⟨hc, _⟩ := hc
    refine .inr ⟨by omega, ?_⟩
    simp only [List.forall_mem_cons, List.not_mem_nil, false_imp_iff, implies_true, and_true]
    omega
  | four ha hb hc hd =>
    obtain ⟨ha, _⟩ := ha
    obtain ⟨⟨hb, _⟩, _, _, overlong, _⟩ := hb
    obtain ⟨hc, _⟩ := hc
    obtain ⟨hd, _⟩ := hd
    refine .inr ⟨by omega, ?_⟩
    simp only [List.forall_mem_cons, List.not_mem_nil, false_imp_iff, implies_true, and_true]
    omega

private theorem Spells.count_lineFeed {bytes : Bytes} {n : Nat} (h : Spells bytes n) :
    bytes.count 10 = if n = 10 then 1 else 0 := by
  rcases h.eq_or_high with ⟨a, rfl, rfl⟩ | ⟨long, high⟩
  · have same : a.toNat = 10 ↔ a = 10 := UInt8.toNat_inj (b := 10)
    by_cases feed : a = 10
    · rw [if_pos (same.mpr feed), feed]
      rfl
    · rw [if_neg fun h => feed (same.mp h), List.count_eq_zero]
      simpa using Ne.symm feed
  · rw [if_neg (by omega), List.count_eq_zero]
    exact fun member => absurd (high 10 member) (by decide)

/-- The bytes of a text hold as many line feeds as the text. -/
theorem count_lineFeed {t : Text} {bytes : Bytes} (h : encode? t = some bytes) :
    bytes.count 10 = t.count (CodePoint.ofChar '\n') := by
  induction t generalizing bytes with
  | nil =>
    cases h
    rfl
  | cons c t ih =>
    obtain ⟨plain, rest, encoded, rfl⟩ := encode?_cons_eq_some_iff.mp h
    have same : c.val = 10 ↔ c = CodePoint.ofChar '\n' := ⟨fun h => Fin.ext h, fun h => h ▸ rfl⟩
    rw [List.count_append, (spells_encodePoint plain).count_lineFeed, ih encoded, List.count_cons]
    by_cases feed : c = CodePoint.ofChar '\n'
    · rw [if_pos (same.mpr feed), if_pos (by simpa using feed), Nat.add_comm]
    · rw [if_neg fun h => feed (same.mp h), if_neg (by simpa using feed), Nat.add_comm]

/-- Where strict decoding succeeds, lossy decoding agrees with it. -/
theorem decodeLossy_of_decode {bytes : Bytes} {t : Text} (h : decode bytes = .ok t) :
    decodeLossy bytes = t := by
  rw [decode] at h
  rw [decodeLossy]
  generalize pieces bytes = list at h
  induction list generalizing t with
  | nil =>
    cases h
    rfl
  | cons piece list ih =>
    cases piece with
    | point c =>
      obtain ⟨rest, collected, rfl⟩ := map_eq_ok_iff.mp h
      rw [List.map_cons, ih collected]
      rfl
    | fault fault => cases h

end Utf8

/-- A text is cut behind its last line feed. -/
private theorem exists_lastLine (t : Text) : ∃ head line, t = head ++ line ∧
    t.reverse.takeWhile (· ≠ CodePoint.ofChar '\n') = line.reverse ∧ CodePoint.ofChar '\n' ∉ line ∧
    (head = [] ∨ ∃ first, head = first ++ [CodePoint.ofChar '\n']) := by
  refine ⟨(t.reverse.dropWhile (· ≠ CodePoint.ofChar '\n')).reverse,
    (t.reverse.takeWhile (· ≠ CodePoint.ofChar '\n')).reverse, ?_,
    (List.reverse_reverse _).symm, ?_, ?_⟩
  · rw [← List.reverse_append, List.takeWhile_append_dropWhile, List.reverse_reverse]
  · intro member
    have kept := List.all_eq_true.mp List.all_takeWhile _ (List.mem_reverse.mp member)
    simp at kept
  · cases rest : t.reverse.dropWhile (· ≠ CodePoint.ofChar '\n') with
    | nil => exact .inl rfl
    | cons c tail =>
      right
      have stopped := List.head?_dropWhile_not (· ≠ CodePoint.ofChar '\n') t.reverse
      rw [rest] at stopped
      have feed : c = CodePoint.ofChar '\n' := by simpa using stopped
      exact ⟨tail.reverse, by rw [feed, List.reverse_cons]⟩

/-- The last line of a text begins where the last row of its bytes does. -/
private theorem rowStart_eq {head line after : Text} {bytes : Bytes}
    (encoded : Utf8.encode? (head ++ line ++ after) = some bytes)
    (plain : CodePoint.ofChar '\n' ∉ line)
    (ended : head = [] ∨ ∃ first, head = first ++ [CodePoint.ofChar '\n']) :
    bytes.rowStart (head ++ line).width = head.width := by
  obtain ⟨front, last, encodedFront, _, rfl⟩ := Utf8.encode?_append_eq_some_iff.mp encoded
  obtain ⟨first, second, encodedHead, encodedLine, rfl⟩ :=
    Utf8.encode?_append_eq_some_iff.mp encodedFront
  -- Going back from the place, the first line feed is the one before the line.
  have noFeed : ∀ b ∈ second.reverse, (decide (b ≠ 10)) = true := by
    intro b member
    have none : second.count 10 = 0 := by
      rw [Utf8.count_lineFeed encodedLine, List.count_eq_zero]
      exact plain
    apply decide_eq_true
    rintro rfl
    exact List.count_eq_zero.mp none (List.mem_reverse.mp member)
  have stop : first.reverse.dropWhile (· ≠ 10) = first.reverse := by
    rcases ended with rfl | ⟨start, rfl⟩
    · cases encodedHead
      rfl
    · obtain ⟨start', feed, _, encodedFeed, rfl⟩ := Utf8.encode?_append_eq_some_iff.mp encodedHead
      cases encodedFeed
      rw [List.reverse_append]
      rfl
  rw [Bytes.rowStart, ← Utf8.length_of_encode? encodedFront, List.take_left, List.reverse_append,
    List.dropWhile_append_of_pos noFeed, stop, List.length_reverse,
    Utf8.length_of_encode? encodedHead]

namespace Concrete

/-- Row and column of a point are those of its offset. -/
def Point.IsIn (bytes : Bytes) (p : Point) : Prop :=
  p.row = bytes.rowAt p.offset ∧ p.column = p.offset - bytes.rowStart p.offset

instance (bytes : Bytes) (p : Point) : Decidable (p.IsIn bytes) :=
  inferInstanceAs (Decidable (_ ∧ _))

section Points

variable {source : Text} {bytes : Bytes} {p : Point}

theorem Point.row_add_one (encoded : Utf8.encode? source = some bytes)
    (boundary : source.IsBoundary p.offset) (h : p.IsIn bytes) :
    p.row + 1 = source.lineAt p.offset := by
  obtain ⟨before, after, rfl, width⟩ := boundary
  obtain ⟨first, rest, encodedBefore, _, rfl⟩ := Utf8.encode?_append_eq_some_iff.mp encoded
  rw [h.1, Text.lineAt, Bytes.rowAt, ← width, Text.upToByte_width_append,
    ← Utf8.length_of_encode? encodedBefore, List.take_left, Utf8.count_lineFeed encodedBefore,
    Nat.add_comm]

theorem Point.characterColumn_eq (encoded : Utf8.encode? source = some bytes)
    (boundary : source.IsBoundary p.offset) (h : p.IsIn bytes) :
    p.characterColumn bytes = source.columnAt p.offset := by
  obtain ⟨before, after, rfl, width⟩ := boundary
  obtain ⟨head, line, rfl, last, plain, ended⟩ := exists_lastLine before
  -- the column in bytes leads back to the start of the line, so the slice is the line
  have column := h.2
  rw [← width, rowStart_eq encoded plain ended] at column
  have start : (p.offset : Int) - p.column = (head.width : Nat) := by
    rw [Text.width_append] at column width
    omega
  have decoded := Utf8.decodeLossy_of_decode (Utf8.decode_slice_width encoded)
  rw [Point.characterColumn, Concrete.characterColumn, start, ← width, decoded, Text.columnAt,
    Text.upToByte_width_append, last, List.length_reverse]

end Points

def Tree.HasPoints (bytes : Bytes) (t : Tree) : Prop :=
  ∀ s ∈ t.nodes, s.label.start.IsIn bytes ∧ s.label.stop.IsIn bytes

instance (bytes : Bytes) (t : Tree) : Decidable (t.HasPoints bytes) :=
  inferInstanceAs (Decidable (∀ s ∈ t.nodes, _ ∧ _))

/-- A document gives two byte offsets, and their lines and columns. -/
def IsPlaced (source : Text) (v : Value) (start stop : Nat) : Prop :=
  v.field? "range" = some (.list [.nat start, .nat stop]) ∧
    v.field? "loc" = some (.object
      [("start", position (source.lineAt start) (source.columnAt start)),
        ("end", position (source.lineAt stop) (source.columnAt stop))])

/-- A value with a tag is placed at a node of a tree. -/
def HasPlace (source : Text) (root : Tree) (v : Value) : Prop :=
  (∃ tag, v.field? "type" = some tag) →
    ∃ t ∈ root.nodes, IsPlaced source v t.label.start.offset t.label.stop.offset

private theorem hasPlace_of_field? {source : Text} {root : Tree} {v : Value}
    (h : v.field? "type" = none) :
    HasPlace source root v := by
  rintro ⟨tag, some_tag⟩
  rw [h] at some_tag
  cases some_tag

/-- Every document among the values that describe a tree is placed at a node of it. -/
theorem Described.everywhere_hasPlace {source : Text} {bytes : Bytes} {root : Tree} {v : Value}
    (encoded : Utf8.encode? source = some bytes) (boundaries : root.OnBoundaries source)
    (points : root.HasPoints bytes) (h : Described bytes root v) :
    v.Everywhere (HasPlace source root) := by
  induction h with
  | null => exact Value.everywhere_null.mpr (hasPlace_of_field? rfl)
  | flag b => exact Value.everywhere_bool.mpr (hasPlace_of_field? rfl)
  | word s => exact Value.everywhere_text.mpr (hasPlace_of_field? rfl)
  | text member read => exact Value.everywhere_text.mpr (hasPlace_of_field? rfl)
  | quoted member read => exact Value.everywhere_text.mpr (hasPlace_of_field? rfl)
  | list each ih => exact Value.everywhere_list.mpr ⟨hasPlace_of_field? rfl, ih⟩
  | @node t tag fields member isTag keys each ih =>
    rw [document, Value.everywhere_object]
    refine ⟨fun _ => ⟨t, member, ?_⟩,
      List.forall_mem_append.mpr ⟨everywhere_base fun _ => hasPlace_of_field?, ih⟩⟩
    obtain ⟨startBoundary, stopBoundary⟩ := boundaries t member
    obtain ⟨startPoint, stopPoint⟩ := points t member
    rw [IsPlaced, ← Point.row_add_one encoded startBoundary startPoint,
      ← Point.row_add_one encoded stopBoundary stopPoint,
      ← Point.characterColumn_eq encoded startBoundary startPoint,
      ← Point.characterColumn_eq encoded stopBoundary stopPoint]
    simp [Value.field?, base]

/-- Places are right: every document in the program of a tree gives the byte offsets of a node with
their lines and columns in the text, and an error gives line and column of the start of the node at
fault. -/
theorem places_of_tree (sourceName : Text) {source : Text} {bytes : Bytes} {tree : Tree}
    (encoded : Utf8.encode? source = some bytes) (boundaries : tree.OnBoundaries source)
    (points : tree.HasPoints bytes) :
    match tree.firstFault? with
    | none => ∃ parsed, parseTree source sourceName tree = .ok parsed ∧
        parsed.program.Everywhere (HasPlace source tree)
    | some fault =>
      fault ∈ tree.nodes ∧ ∃ e, parseTree source sourceName tree = .error (.malformed e) ∧
        e.line = some (source.lineAt fault.label.start.offset : Int) ∧
        e.column = some (source.columnAt fault.label.start.offset : Int) := by
  cases found : tree.firstFault? with
  | none =>
    obtain ⟨body, built⟩ := statements_ok (boundaries.reads encoded)
    obtain ⟨parsed, read, _⟩ := parseTree_ok sourceName encoded found built
    obtain ⟨bytes', program, encoded', _, described, rfl⟩ := parseTree_eq_ok_iff.mp read
    have same : bytes' = bytes := Option.some.inj (encoded'.symm.trans encoded)
    rw [same] at described
    refine ⟨_, read, ?_⟩
    exact (isDocument_program described).described.everywhere_hasPlace encoded boundaries points
  | some fault =>
    have member := Tree.mem_nodes_of_firstFault? found
    obtain ⟨startBoundary, _⟩ := boundaries fault member
    obtain ⟨startPoint, _⟩ := points fault member
    refine ⟨member, treeError bytes sourceName fault, ?_, ?_, ?_⟩
    · rw [parseTree, encodeSource_eq_ok_iff.mpr encoded, found]
      rfl
    · rw [← Point.row_add_one encoded startBoundary startPoint]
      rfl
    · rw [← Point.characterColumn_eq encoded startBoundary startPoint]
      rfl

/-- The tree of a declaration of variables on the second line of a text, behind an ambient
keyword. -/
def secondLine (flagged : Bool) : Tree :=
  .node { kind := "program", hasError := flagged, start := ⟨0, 0, 0⟩, stop := ⟨23, 1, 19⟩ }
    [.onRow 0 0 "empty_statement" 2 3 [],
      .onRow 1 4 "ambient_declaration" 0 19
        [.asToken (.onRow 1 4 "declare" 0 7 []),
          .onRow 1 4 "lexical_declaration" 8 19
            [.inField "kind" (.asToken (.onRow 1 4 "let" 8 11 [])),
              .onRow 1 4 "variable_declarator" 12 16
                [.inField "name" (.onRow 1 4 "identifier" 12 16 [])],
              .asToken (.onRow 1 4 "," 16 17 []),
              .onRow 1 4 "variable_declarator" 18 19
                [.inField "name" (.onRow 1 4 "identifier" 18 19 [])]]],
      .node { kind := "ERROR", isError := flagged, start := ⟨20, 1, 16⟩, stop := ⟨23, 1, 19⟩ } []]

theorem places_of_secondLine :
    (∃ parsed, parseTree "é;\ndeclare let 😀, b" "a.ts" (secondLine false) = .ok parsed ∧
      parsed.program.Everywhere (HasPlace "é;\ndeclare let 😀, b" (secondLine false))) ∧
    ∃ e, parseTree "é;\ndeclare let 😀, b" "a.ts" (secondLine true) = .error (.malformed e) ∧
      e.line = some 2 ∧ e.column = some 13 := by
  let bytes : Bytes := [195, 169, 59, 10, 100, 101, 99, 108, 97, 114, 101, 32, 108, 101, 116,
    32, 240, 159, 152, 128, 44, 32, 98]
  have encoded : Utf8.encode? (Text.ofString "é;\ndeclare let 😀, b") = some bytes := rfl
  have boundaries : ∀ flagged, (secondLine flagged).OnBoundaries "é;\ndeclare let 😀, b" := by decide
  have points : ∀ flagged, (secondLine flagged).HasPoints bytes := by decide
  exact ⟨places_of_tree "a.ts" encoded (boundaries false) (points false),
    (places_of_tree "a.ts" encoded (boundaries true) (points true)).2⟩

end Concrete

end ExportList
