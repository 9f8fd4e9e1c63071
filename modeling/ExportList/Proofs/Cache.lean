import ExportList.Proofs.Effects
import ExportList.Proofs.Portable

/-!
Keeping the result of a report.  It is kept in one file, named by the digest of the document, and
only once the report is known.  A report whose result is to be kept is the report without that,
unless the program holds something that has no JSON text or no UTF-8 form.
-/

set_option autoImplicit false

namespace ExportList

namespace Cache

def directory (c : Cache) : Path := c.route.resolve c.workingDirectory

/-- The file in which the result for a document with a given digest is kept. -/
def entry (c : Cache) (hash : Text) : Path :=
  (c.route.child (hash ++ ".json")).resolve c.workingDirectory

private theorem cacheName_ne_up (hash : Text) :
    hash ++ Text.ofString ".json" ≠ Text.ofString ".." := by
  intro same
  have lengths := congrArg List.length same
  rw [List.length_append] at lengths
  have long : (Text.ofString ".json").length = 5 := rfl
  have short : (Text.ofString "..").length = 2 := rfl
  omega

theorem entry_eq (c : Cache) (hash : Text) :
    c.entry hash = c.directory ++ [hash ++ Text.ofString ".json"] := by
  rw [entry, directory, Route.resolve, Route.child, List.foldl_append, List.foldl_cons,
    List.foldl_nil, if_neg (cacheName_ne_up hash)]
  rfl

theorem entry_inj {c : Cache} {hash hash' : Text} :
    c.entry hash = c.entry hash' ↔ hash = hash' := by
  rw [entry_eq, entry_eq, List.append_right_inj, List.cons.injEq, List.append_left_inj]
  simp

/-- The directory is there or can be made, and the file for a digest can be opened in it. -/
def Admits (c : Cache) (s : Store) (hash : Text) : Prop :=
  ∃ made path bytes,
    s.makeDirectories (c.route.start c.workingDirectory) c.route.components = (made, .ok ()) ∧
    made.follow (c.route.start c.workingDirectory) (c.route.child (hash ++ ".json")).components =
      .ok path ∧
    made.openBytes path = .ok bytes

end Cache

theorem Store.follow_append (s : Store) (path : Path) (first rest : List Text) :
    s.follow path (first ++ rest) = s.follow path first >>= fun middle => s.follow middle rest := by
  induction first generalizing path with
  | nil => rfl
  | cons component first ih =>
    rw [List.cons_append, Store.follow, Store.follow]
    cases s.get? path with
    | none => rfl
    | some found =>
      cases found with
      | file bytes => rfl
      | directory =>
        simp only
        split_ifs
        · exact ih _
        · exact ih _

/-- A directory in which no other directory has the name of the file admits the result. -/
theorem Cache.admits_of_makeDirectories {c : Cache} {s made : Store} {path : Path} {hash : Text}
    (done : s.makeDirectories (c.route.start c.workingDirectory) c.route.components =
      (made, .ok ()))
    (followed : made.follow (c.route.start c.workingDirectory) c.route.components = .ok path)
    (there : made.get? path = some .directory)
    (free : made.get? (path ++ [hash ++ Text.ofString ".json"]) ≠ some .directory) :
    c.Admits s hash := by
  have reached : made.follow (c.route.start c.workingDirectory)
      (c.route.child (hash ++ ".json")).components =
      .ok (path ++ [hash ++ Text.ofString ".json"]) := by
    rw [Route.child, Store.follow_append, followed]
    show made.follow path [hash ++ Text.ofString ".json"] = _
    rw [Store.follow, there]
    simp only [if_neg (cacheName_ne_up hash), Store.follow]
  cases found : made.get? (path ++ [hash ++ Text.ofString ".json"]) with
  | none =>
    refine ⟨made, _, [], done, reached, ?_⟩
    rw [Store.openBytes, found, List.dropLast_concat, there]
  | some entry =>
    cases entry with
    | directory => exact absurd found free
    | file bytes =>
      refine ⟨made, _, bytes, done, reached, ?_⟩
      rw [Store.openBytes, found]

namespace Store

/-- What keeping a result can come to. -/
inductive Keeps (s : Store) (c : Cache) (parsed : Parsed) : Store × Except CacheError Unit → Prop
  /-- The directory cannot be made, or the file in it cannot be opened. -/
  | refused {made : Store} {e : StoreError} (files : ∀ p, made.file? p = s.file? p)
    (why : ¬c.Admits s parsed.hash) : Keeps s c parsed (made, .error (.store e))
  /-- The result has no JSON text. -/
  | unprintable {made : Store} {e : Json.Unprintable} (files : ∀ p, made.file? p = s.file? p)
    (why : parsed.json = .error e) : Keeps s c parsed (made, .error (.unprintable e))
  /-- The JSON text has no UTF-8 form. -/
  | unencodable {made : Store} {text : Text}
    (files : ∀ p, made.file? p = if p = c.entry parsed.hash then some [] else s.file? p)
    (printed : parsed.json = .ok text) (why : Utf8.encode? text = none) :
    Keeps s c parsed (made, .error (.store .unencodable))
  | kept {made : Store} {text : Text} {bytes : Bytes}
    (files : ∀ p, made.file? p = if p = c.entry parsed.hash then some bytes else s.file? p)
    (printed : parsed.json = .ok text) (encoded : Utf8.encode? text = some bytes) :
    Keeps s c parsed (made, .ok ())

theorem file?_put (s : Store) {path : Path} (bytes : Bytes) (h : path ≠ []) (p : Path) :
    (s.put path (.file bytes)).file? p = if p = path then some bytes else s.file? p := by
  by_cases same : p = path
  · rw [if_pos same, same]
    exact file?_eq_some_iff.mpr (get?_put_self s _ h)
  · rw [if_neg same]
    exact file?_put_of_ne s _ same

theorem keeps (s : Store) (c : Cache) (parsed : Parsed) : Keeps s c parsed (s.keep c parsed) := by
  have directories : ∀ p, (s.makeDirectories (c.route.start c.workingDirectory)
      c.route.components).1.file? p = s.file? p :=
    file?_makeDirectoriesReversed s _ _
  simp only [keep]
  split
  · rename_i made e failed
    rw [failed] at directories
    refine .refused directories ?_
    rintro ⟨made', path, bytes, done, _⟩
    rw [failed] at done
    cases done
  · rename_i made done
    rw [done] at directories
    split
    · rename_i json
      exact .unprintable directories json
    · rename_i text e json unreachable
      refine .refused directories ?_
      rintro ⟨made', path, bytes, done', followed, _⟩
      rw [done] at done'
      cases done'
      rw [Parsed.cacheName, followed] at unreachable
      cases unreachable
    · rename_i text path json followed
      have there : path = c.entry parsed.hash := eq_of_follow_ok followed
      have below : path ≠ [] := by
        rw [there, Cache.entry_eq]
        simp
      cases opened : made.openBytes path with
      | error e =>
        rw [writeText, opened]
        refine .refused directories ?_
        rintro ⟨made', path', bytes, done', followed', opened'⟩
        rw [done] at done'
        cases done'
        rw [Parsed.cacheName, followed'] at followed
        cases followed
        rw [opened] at opened'
        cases opened'
      | ok old =>
        -- from here on the file is empty, whether or not its text can be encoded
        rw [writeText, opened]
        simp only [writeAfter]
        cases encoded : Utf8.encode? text with
        | none =>
          refine .unencodable (fun p => ?_) json encoded
          rw [file?_put made [] below p, there, directories p]
        | some bytes =>
          refine .kept (fun p => ?_) json encoded
          rw [List.nil_append, file?_put made bytes below p, there, directories p]

end Store

/-- A program without patterns, long integers and surrogates. -/
def IsStorable (program : Value) : Prop :=
  program.Everywhere Json.IsPrintable ∧ program.Everywhere Json.HasScalarTexts

theorem Parsed.exists_json_iff {parsed : Parsed} :
    (∃ text, parsed.json = .ok text) ↔ parsed.program.Everywhere Json.IsPrintable := by
  rw [Parsed.json, Json.render, Json.exists_print_iff, ← Json.firstFault?_eq_none_iff,
    parsed.firstFault?_document, Json.firstFault?_eq_none_iff]

theorem Parsed.isScalar_json_iff {trees : TreeSource} {d : Document} {parsed : Parsed} {text : Text}
    (parse : d.parse trees = .ok parsed) (name : d.sourceName.IsScalar)
    (printed : parsed.json = .ok text) :
    text.IsScalar ↔ parsed.program.Everywhere Json.HasScalarTexts := by
  obtain ⟨bytes, program, _, rfl⟩ := d.exists_ofProgram_of_parse_ok parse
  have hash := Sha256.isScalar_hexDigest bytes
  have words : ∀ s : String, Text.IsScalar s := Text.isScalar_ofString
  rw [Json.isScalar_print_iff printed, Parsed.document, Value.everywhere_object]
  simp [Json.HasScalarTexts, Parsed.ofProgram, words, hash, SourceType.isScalar_text,
    Dialect.isScalar_name, name]

/-- The JSON text of a result has a UTF-8 form exactly if the program can be kept. -/
theorem Parsed.exists_json_encode_iff {trees : TreeSource} {d : Document} {parsed : Parsed}
    (parse : d.parse trees = .ok parsed) (name : d.sourceName.IsScalar) :
    (∃ text bytes, parsed.json = .ok text ∧ Utf8.encode? text = some bytes) ↔
      IsStorable parsed.program := by
  constructor
  · rintro ⟨text, bytes, printed, encoded⟩
    have scalar := Utf8.exists_encode?_iff.mp ⟨bytes, encoded⟩
    exact ⟨Parsed.exists_json_iff.mp ⟨text, printed⟩,
      (Parsed.isScalar_json_iff parse name printed).mp scalar⟩
  · rintro ⟨printable, scalar⟩
    obtain ⟨text, printed⟩ := Parsed.exists_json_iff.mpr printable
    obtain ⟨bytes, encoded⟩ :=
      Utf8.exists_encode?_iff.mpr ((Parsed.isScalar_json_iff parse name printed).mpr scalar)
    exact ⟨text, bytes, printed, encoded⟩

/-- A program without surrogates is kept, unless the store refuses or there is no JSON text; then no
file is touched. -/
theorem Store.keep_of_hasScalarTexts {trees : TreeSource} {d : Document} {parsed : Parsed}
    (s : Store) (c : Cache) (parse : d.parse trees = .ok parsed) (name : d.sourceName.IsScalar)
    (scalar : parsed.program.Everywhere Json.HasScalarTexts) :
    (∃ made e, s.keep c parsed = (made, .error (.store e)) ∧ (∀ p, made.file? p = s.file? p) ∧
      ¬c.Admits s parsed.hash) ∨
    (∃ made fault, s.keep c parsed = (made, .error (.unprintable fault)) ∧
      (∀ p, made.file? p = s.file? p) ∧ parsed.json = .error fault) ∨
    ∃ made text bytes, s.keep c parsed = (made, .ok ()) ∧ parsed.json = .ok text ∧
      Utf8.encode? text = some bytes ∧
      ∀ p, made.file? p = if p = c.entry parsed.hash then some bytes else s.file? p := by
  have kept := s.keeps c parsed
  generalize s.keep c parsed = result at kept ⊢
  cases kept with
  | refused files why => exact .inl ⟨_, _, rfl, files, why⟩
  | unprintable files why => exact .inr (.inl ⟨_, _, rfl, files, why⟩)
  | unencodable _ printed why =>
    have encodable := (Parsed.isScalar_json_iff parse name printed).mpr scalar
    obtain ⟨bytes, encoded⟩ := Utf8.exists_encode?_iff.mpr encodable
    cases why.symm.trans encoded
  | kept files printed encoded => exact .inr (.inr ⟨_, _, _, rfl, printed, encoded, files⟩)

theorem parsed_of_report_ok {options : RenderOptions} {parsed : Parsed} {r : Report}
    (h : report options parsed = .ok r) : r.parsed = parsed := by
  obtain ⟨_, _, h⟩ := bind_eq_ok_iff.mp h
  obtain ⟨_, _, h⟩ := bind_eq_ok_iff.mp h
  obtain ⟨_, _, h⟩ := bind_eq_ok_iff.mp h
  cases h
  rfl

theorem everywhere_isPortable_of_parse {trees : TreeSource} {d : Document} {parsed : Parsed}
    (parse : d.parse trees = .ok parsed) (typescript : d.dialect = .typescript)
    (kinds : ∀ t ∈ (trees d.jsx d.source).nodes, t.kind.IsScalar) :
    parsed.program.Everywhere Json.IsPortable := by
  rw [Document.parse, typescript] at parse
  obtain ⟨bytes, program, _, _, built, rfl⟩ := parseTree_eq_ok_iff.mp parse
  exact (Concrete.isDocument_program built).described.everywhere_isPortable kinds

theorem isStorable_or_of_parse {trees : TreeSource} {d : Document} {parsed : Parsed}
    (parse : d.parse trees = .ok parsed) (typescript : d.dialect = .typescript)
    (kinds : ∀ t ∈ (trees d.jsx d.source).nodes, t.kind.IsScalar) :
    IsStorable parsed.program ∨ Json.firstFault? parsed.program = some .longInteger ∧
      ¬(trees d.jsx d.source).HasShortPlaces := by
  have portable := everywhere_isPortable_of_parse parse typescript kinds
  rw [Document.parse, typescript] at parse
  cases first : Json.firstFault? parsed.program with
  | none =>
    exact .inl ⟨Json.firstFault?_eq_none_iff.mp first,
      portable.imp fun _ => Json.IsPortable.hasScalarTexts⟩
  | some fault =>
    obtain rfl := Json.firstFault?_eq_longInteger portable first
    exact .inr ⟨rfl, not_hasShortPlaces_of_firstFault? parse first⟩

/-- A report with a directory for its result is the report without one, unless the program holds a
pattern, a long integer or a surrogate.  For the first two it fails before a file is touched; for a
surrogate it fails when the file was emptied already.  In the program of a tree only the places of
nodes can be long integers, and there are no patterns and no surrogates. -/
theorem report_with_cache (s : Store) (trees : TreeSource) (d : Document) (options : RenderOptions)
    (c : Cache) (name : d.sourceName.IsScalar)
    (admits : ∀ hash, hashSource? d.source = some hash → c.Admits s hash) :
    match (s.report trees d options none).2 with
    | .error e => s.report trees d options (some c) = (s, .error e)
    | .ok r =>
      (IsStorable r.parsed.program → (s.report trees d options (some c)).2 = .ok r ∧
        ∃ text bytes, r.parsed.json = .ok text ∧ Utf8.encode? text = some bytes ∧
          ∀ p, (s.report trees d options (some c)).1.file? p =
            if p = c.entry r.parsed.hash then some bytes else s.file? p) ∧
      (∀ fault, Json.firstFault? r.parsed.program = some fault →
        (s.report trees d options (some c)).2 = .error (.cache (.unprintable fault)) ∧
          ∀ p, (s.report trees d options (some c)).1.file? p = s.file? p) ∧
      (r.parsed.program.Everywhere Json.IsPrintable →
        ¬r.parsed.program.Everywhere Json.HasScalarTexts →
        (s.report trees d options (some c)).2 = .error (.cache (.store .unencodable)) ∧
          ∀ p, (s.report trees d options (some c)).1.file? p =
            if p = c.entry r.parsed.hash then some [] else s.file? p) ∧
      (d.dialect = .typescript → (∀ t ∈ (trees d.jsx d.source).nodes, t.kind.IsScalar) →
        IsStorable r.parsed.program ∨ Json.firstFault? r.parsed.program = some .longInteger ∧
          ¬(trees d.jsx d.source).HasShortPlaces) := by
  cases parse : d.parse trees with
  | error e => simp only [Store.report, parse]
  | ok parsed =>
    cases names : report options parsed with
    | error e => simp only [Store.report, parse, names]
    | ok r =>
      have same := parsed_of_report_ok names
      have admitted := admits parsed.hash (d.hashSource?_of_parse_ok parse)
      have stored := Parsed.exists_json_encode_iff parse name
      have kept := s.keeps c parsed
      simp only [Store.report, parse, names, same]
      generalize s.keep c parsed = result at kept ⊢
      cases kept with
      | refused files why => exact absurd admitted why
      | unprintable files why =>
        have first := Parsed.json_eq_error_iff.mp why
        have faulty : ¬parsed.program.Everywhere Json.IsPrintable := fun printable =>
          Json.firstFault?_ne_some printable _ first
        refine ⟨fun storable => absurd storable.1 faulty, fun fault found => ?_,
          fun printable => absurd printable faulty, isStorable_or_of_parse parse⟩
        cases first.symm.trans found
        exact ⟨rfl, files⟩
      | unencodable files printed why =>
        have printable := Parsed.exists_json_iff.mp ⟨_, printed⟩
        have surrogate : ¬parsed.program.Everywhere Json.HasScalarTexts := by
          intro scalar
          obtain ⟨text, bytes, printed', encoded⟩ := stored.mpr ⟨printable, scalar⟩
          rw [printed] at printed'
          cases printed'
          rw [why] at encoded
          cases encoded
        exact ⟨fun storable => absurd storable.2 surrogate,
          fun fault found => absurd found (Json.firstFault?_ne_some printable fault),
          fun _ _ => ⟨rfl, files⟩, isStorable_or_of_parse parse⟩
      | kept files printed encoded =>
        have storable := stored.mp ⟨_, _, printed, encoded⟩
        exact ⟨fun _ => ⟨rfl, _, _, printed, encoded, files⟩,
          fun fault found => absurd found (Json.firstFault?_ne_some storable.1 fault),
          fun _ surrogate => absurd storable.2 surrogate, isStorable_or_of_parse parse⟩

/-- A script whose text holds a surrogate, which it writes as an escape. -/
def escapedSurrogate : Document :=
  { source := "'\\ud800'", sourceName := "a.js", dialect := .javascript }

def cacheBelowRoot : Cache := ⟨[], ⟨true, ["c"]⟩⟩

/-- The directory can be made in the empty store. -/
theorem admits_empty (hash : Text) : cacheBelowRoot.Admits {} hash := by
  have done : Store.makeDirectories {} [] [Text.ofString "c"] =
      (Store.put {} ["c"] .directory, .ok ()) := rfl
  have followed : (Store.put {} ["c"] .directory).follow [] [Text.ofString "c"] =
      .ok [Text.ofString "c"] := rfl
  refine Cache.admits_of_makeDirectories done followed rfl ?_
  simp [Store.get?, Store.put]

def storeWithEntry (hash : Text) : Store :=
  ⟨[(["c"], .directory), (cacheBelowRoot.entry hash, .file [123, 125])]⟩

private theorem get?_storeWithEntry (hash : Text) :
    (storeWithEntry hash).get? (cacheBelowRoot.entry hash) = some (.file [123, 125]) := by
  have path : cacheBelowRoot.entry hash = [Text.ofString "c", hash ++ Text.ofString ".json"] :=
    Cache.entry_eq _ _
  simp [Store.get?, storeWithEntry, path]

private theorem admits_storeWithEntry (hash : Text) :
    cacheBelowRoot.Admits (storeWithEntry hash) hash := by
  have followed : (storeWithEntry hash).follow [] [Text.ofString "c"] =
      .ok [Text.ofString "c"] := rfl
  refine Cache.admits_of_makeDirectories rfl followed rfl ?_
  have found := get?_storeWithEntry hash
  rw [Cache.entry_eq] at found
  show (storeWithEntry hash).get? (cacheBelowRoot.directory ++ [hash ++ Text.ofString ".json"]) ≠ _
  rw [found]
  nofun

theorem report_with_cache_escapedSurrogate :
    ∃ hash, hashSource? escapedSurrogate.source = some hash ∧
      (storeWithEntry hash).file? (cacheBelowRoot.entry hash) = some [123, 125] ∧
      (∃ r, ((storeWithEntry hash).report grammarTrees escapedSurrogate {} none).2 = .ok r) ∧
      ((storeWithEntry hash).report grammarTrees escapedSurrogate {} (some cacheBelowRoot)).2 =
        .error (.cache (.store .unencodable)) ∧
      ((storeWithEntry hash).report grammarTrees escapedSurrogate {}
        (some cacheBelowRoot)).1.file? (cacheBelowRoot.entry hash) = some [] := by
  have evaluated : ((escapedSurrogate.parse grammarTrees).toOption.map fun parsed =>
      (report {} parsed).toOption.isSome && decide (parsed.program.Everywhere Json.IsPrintable) &&
        !decide (parsed.program.Everywhere Json.HasScalarTexts)) = some true := by decide +kernel
  obtain ⟨parsed, parse, facts⟩ := Option.map_eq_some_iff.mp evaluated
  have parse := toOption_eq_some_iff.mp parse
  simp only [Bool.and_eq_true, decide_eq_true_eq, Bool.not_eq_true', decide_eq_false_iff_not]
    at facts
  obtain ⟨⟨reported, printable⟩, surrogate⟩ := facts
  obtain ⟨r, names⟩ := Option.isSome_iff_exists.mp reported
  have names := toOption_eq_some_iff.mp names
  have name : escapedSurrogate.sourceName.IsScalar := by decide
  clear evaluated
  generalize escapedSurrogate = d at parse name ⊢
  have hash := d.hashSource?_of_parse_ok parse
  have same := parsed_of_report_ok names
  have plain : ((storeWithEntry parsed.hash).report grammarTrees d {} none).2 = .ok r := by
    simp only [Store.report, parse, names]
  have outcome := report_with_cache (storeWithEntry parsed.hash) grammarTrees d
    {} cacheBelowRoot name
    fun other found => Option.some.inj (hash.symm.trans found) ▸ admits_storeWithEntry parsed.hash
  rw [plain] at outcome
  simp only [same] at outcome
  obtain ⟨failed, files⟩ := outcome.2.2.1 printable surrogate
  refine ⟨parsed.hash, hash, Store.file?_eq_some_iff.mpr (get?_storeWithEntry _),
    ⟨r, plain⟩, failed, ?_⟩
  rw [files, if_pos rfl]

def barePattern : Document := { source := "/x/", sourceName := "a.js", dialect := .javascript }

/-- A script that is an integer of 3572 hexadecimal digits, which has 4302 decimal ones. -/
def longLiteral : Document :=
  { source := Text.ofString "0x" ++ List.replicate 3572 (CodePoint.ofChar 'F')
    sourceName := "a.js"
    dialect := .javascript }

/-- These scripts are reported on, but not if the result is to be kept, although the directory can
be made. -/
theorem report_refuses_unprintable :
    (∀ hash, cacheBelowRoot.Admits {} hash) ∧
      ∀ refused ∈ [(barePattern, Json.Unprintable.pattern), (longLiteral, .longInteger)],
        (∃ r, (Store.report {} grammarTrees refused.1 {} none).2 = .ok r) ∧
          (Store.report {} grammarTrees refused.1 {} (some cacheBelowRoot)).2 =
            .error (.cache (.unprintable refused.2)) := by
  have evaluated :
      ∀ refused ∈ [(barePattern, Json.Unprintable.pattern), (longLiteral, .longInteger)],
      ((refused.1.parse grammarTrees).toOption.map fun parsed =>
        (report {} parsed).toOption.isSome &&
          decide (Json.firstFault? parsed.program = some refused.2)) = some true := by
    decide +kernel
  refine ⟨admits_empty, fun refused member => ?_⟩
  obtain ⟨parsed, parse, facts⟩ := Option.map_eq_some_iff.mp (evaluated refused member)
  have parse := toOption_eq_some_iff.mp parse
  simp only [Bool.and_eq_true, decide_eq_true_eq] at facts
  obtain ⟨reported, first⟩ := facts
  obtain ⟨r, names⟩ := Option.isSome_iff_exists.mp reported
  have names := toOption_eq_some_iff.mp names
  clear evaluated member
  have kept := Store.keeps {} cacheBelowRoot parsed
  simp only [Store.report, parse, names]
  refine ⟨⟨r, rfl⟩, ?_⟩
  have unprintable := Parsed.json_eq_error_iff.mpr first
  generalize Store.keep {} cacheBelowRoot parsed = result at kept ⊢
  cases kept with
  | refused _ why => exact absurd (admits_empty _) why
  | unprintable _ why =>
    cases unprintable.symm.trans why
    rfl
  | unencodable _ printed => cases unprintable.symm.trans printed
  | kept _ printed => cases unprintable.symm.trans printed

end ExportList
