import ExportList.Proofs.Sequence
import ExportList.Source

/-!
Documents that were read.  They have a UTF-8 form, and the result carries its digest.
-/

set_option autoImplicit false

namespace ExportList

theorem encodeSource_eq_ok_iff {source sourceName : Text} {bytes : Bytes} :
    encodeSource source sourceName = .ok bytes ↔ Utf8.encode? source = some bytes := by
  unfold encodeSource
  cases Utf8.encode? source with
  | some bytes' => simp
  | none => cases firstSurrogate? 1 0 source <;> simp

/-- A tree is read if the document has a UTF-8 form, no node is flagged and every name can be
decoded. -/
theorem parseTree_eq_ok_iff {source sourceName : Text} {tree : Concrete.Tree} {parsed : Parsed} :
    parseTree source sourceName tree = .ok parsed ↔
      ∃ bytes program, Utf8.encode? source = some bytes ∧ tree.firstFault? = none ∧
        Concrete.program bytes tree = .ok program ∧
        Parsed.ofProgram .typescript sourceName bytes program = parsed := by
  rw [parseTree, bind_eq_ok_iff]
  constructor
  · rintro ⟨bytes, encoded, h⟩
    rw [mapError_eq_ok_iff, encodeSource_eq_ok_iff] at encoded
    cases faultless : tree.firstFault? with
    | some fault =>
      rw [faultless] at h
      cases h
    | none =>
      rw [faultless] at h
      obtain ⟨program, built, h⟩ := bind_eq_ok_iff.mp h
      cases h
      exact ⟨bytes, program, encoded, rfl, mapError_eq_ok_iff.mp built, rfl⟩
  · rintro ⟨bytes, program, encoded, faultless, built, rfl⟩
    refine ⟨bytes, mapError_eq_ok_iff.mpr (encodeSource_eq_ok_iff.mpr encoded), ?_⟩
    rw [faultless]
    exact bind_eq_ok_iff.mpr ⟨program, mapError_eq_ok_iff.mpr built, rfl⟩

theorem sourceType_of_parseTree {source sourceName : Text} {tree : Concrete.Tree} {parsed : Parsed}
    (read : parseTree source sourceName tree = .ok parsed) :
    parsed.sourceType = sourceType parsed.statements := by
  obtain ⟨_, _, _, _, _, rfl⟩ := parseTree_eq_ok_iff.mp read
  rfl

theorem parseScript_eq_ok_iff {source sourceName : Text} {parsed : Parsed} :
    parseScript source sourceName = .ok parsed ↔
      ∃ bytes program, Utf8.encode? source = some bytes ∧
        Script.parse (source.scalars?.getD []) = .ok program ∧
        Parsed.ofProgram .javascript sourceName bytes program = parsed := by
  rw [parseScript, bind_eq_ok_iff]
  constructor
  · rintro ⟨bytes, encoded, h⟩
    rw [mapError_eq_ok_iff, encodeSource_eq_ok_iff] at encoded
    cases read : Script.parse (source.scalars?.getD []) with
    | error complaint =>
      rw [read] at h
      cases h
    | ok program =>
      rw [read] at h
      cases h
      exact ⟨bytes, program, encoded, rfl, rfl⟩
  · rintro ⟨bytes, program, encoded, read, rfl⟩
    refine ⟨bytes, mapError_eq_ok_iff.mpr (encodeSource_eq_ok_iff.mpr encoded), ?_⟩
    rw [read]
    rfl

/-- A document that was read has a UTF-8 form, and the result carries its dialect and its name. -/
theorem Document.exists_ofProgram_of_parse_ok {trees : TreeSource} {d : Document} {parsed : Parsed}
    (h : d.parse trees = .ok parsed) : ∃ bytes program, Utf8.encode? d.source = some bytes ∧
      Parsed.ofProgram d.dialect d.sourceName bytes program = parsed := by
  unfold Document.parse at h
  cases dialect : d.dialect with
  | javascript =>
    rw [dialect] at h
    obtain ⟨bytes, program, encoded, _, same⟩ := parseScript_eq_ok_iff.mp h
    exact ⟨bytes, program, encoded, same⟩
  | typescript =>
    rw [dialect] at h
    obtain ⟨bytes, program, encoded, _, _, same⟩ := parseTree_eq_ok_iff.mp h
    exact ⟨bytes, program, encoded, same⟩

/-- The result of reading a document carries the digest of its text. -/
theorem Document.hashSource?_of_parse_ok {trees : TreeSource} {d : Document} {parsed : Parsed}
    (h : d.parse trees = .ok parsed) : hashSource? d.source = some parsed.hash := by
  obtain ⟨bytes, program, encoded, rfl⟩ := d.exists_ofProgram_of_parse_ok h
  rw [hashSource?, encoded]
  rfl

end ExportList
