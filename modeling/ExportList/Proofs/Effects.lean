import ExportList.Command.Scan
import ExportList.Proofs.Analysis
import ExportList.Proofs.Concrete.Nodes
import ExportList.Proofs.Source
import ExportList.Proofs.Store

/-!
What a scan does to the files and to its output.  It touches two files at most, the one it scans and
the one that keeps the result, and that only once the report on the document is known; so a scan
that reports an error has changed nothing.
-/

set_option autoImplicit false

namespace ExportList

namespace Store

def file? (s : Store) (path : Path) : Option Bytes :=
  match s.get? path with
  | some (.file bytes) => some bytes
  | _ => none

theorem file?_eq_some_iff {s : Store} {path : Path} {bytes : Bytes} :
    s.file? path = some bytes ↔ s.get? path = some (.file bytes) := by
  unfold file?
  split
  · rename_i found
    simp [found]
  · rename_i other
    simp only [reduceCtorEq, false_iff]
    exact other bytes

theorem get?_put_of_ne (s : Store) {path other : Path} (entry : Entry) (h : other ≠ path) :
    (s.put path entry).get? other = s.get? other := by
  have kept : (s.entries.filter fun old => old.1 ≠ path).find? (fun old => old.1 = other) =
      s.entries.find? fun old => old.1 = other := by
    rw [List.find?_filter]
    congr 1
    funext old
    by_cases same : old.1 = other
    · simp [same, h]
    · simp [same]
  simp only [get?, put, List.find?_cons, Ne.symm h, decide_false, kept]

theorem file?_put_of_ne (s : Store) {path other : Path} (entry : Entry) (h : other ≠ path) :
    (s.put path entry).file? other = s.file? other := by
  rw [file?, file?, get?_put_of_ne s entry h]

theorem file?_of_makeDirectory {s made : Store} {start : Path} {components : List Text}
    (h : s.makeDirectory start components = .ok made) (p : Path) : made.file? p = s.file? p := by
  unfold makeDirectory at h
  split at h
  · cases h
  · rename_i path _
    split at h
    · rename_i absent
      cases h
      by_cases same : p = path
      · have below : path ≠ [] := by
          rintro rfl
          cases absent
        rw [same, file?, file?, absent, get?_put_self s _ below]
      · exact file?_put_of_ne s _ same
    · cases h
      rfl
    · cases h

/-- Making directories leaves all files alone, also when it fails half-way. -/
theorem file?_makeDirectoriesReversed (s : Store) (start : Path) (components : List Text)
    (p : Path) : (s.makeDirectoriesReversed start components).1.file? p = s.file? p := by
  induction components generalizing s with
  | nil => rfl
  | cons last above ih =>
    unfold makeDirectoriesReversed
    split
    · rename_i made h
      exact file?_of_makeDirectory h p
    · have upper := ih s
      split
      · rename_i made h
        rw [h] at upper
        split
        · rename_i made' h'
          exact (file?_of_makeDirectory h' p).trans upper
        · exact upper
      · exact upper
    · rfl

theorem file?_writeText_of_ne (s : Store) {path other : Path} (text : Text) (h : other ≠ path) :
    (s.writeText path text).1.file? other = s.file? other := by
  unfold writeText writeAfter
  split
  · split
    · exact file?_put_of_ne s _ h
    · exact file?_put_of_ne s _ h
  · rfl

theorem file?_appendStatement_of_ne (s : Store) {path other : Path} (statement : Text)
    (h : other ≠ path) : (s.appendStatement path statement).1.file? other = s.file? other := by
  unfold appendStatement appendText writeAfter
  split
  · split
    · split
      · exact file?_put_of_ne s _ h
      · exact file?_put_of_ne s _ h
    · rfl
  · rfl

/-- A file that a statement cannot be appended to stays as it is. -/
theorem file?_of_appendStatement_error {s after : Store} {path : Path} {statement : Text}
    {bytes : Bytes} {e : StoreError} (found : s.file? path = some bytes)
    (h : s.appendStatement path statement = (after, .error e)) : after.file? path = some bytes := by
  have there : path ≠ [] := ne_nil_of_file (file?_eq_some_iff.mp found)
  have opened : s.openBytes path = .ok bytes := by
    rw [openBytes, file?_eq_some_iff.mp found]
  unfold appendStatement at h
  split at h
  · simp only [appendText, opened, writeAfter] at h
    split at h
    · cases h
    · cases h
      exact file?_eq_some_iff.mpr (get?_put_self s _ there)
  · cases h
    exact found

theorem readText_congr {s s' : Store} {path : Path} {text : Text}
    (read : s.readText path = .ok text) (h : s'.file? path = s.file? path) :
    s'.readText path = .ok text := by
  obtain ⟨bytes, raw, found, decoded, normal⟩ := readText_eq_ok_iff.mp read
  rw [file?_eq_some_iff.mpr found] at h
  exact readText_eq_ok_iff.mpr ⟨bytes, raw, file?_eq_some_iff.mp h, decoded, normal⟩

/-- Without links, a route leads where its components say. -/
theorem eq_of_follow_ok {s : Store} {start path : Path} {components : List Text}
    (h : s.follow start components = .ok path) :
    path = components.foldl
      (fun path part => if part = Text.ofString ".." then path.dropLast else path ++ [part])
      start := by
  induction components generalizing start with
  | nil =>
    cases h
    rfl
  | cons component components ih =>
    unfold follow at h
    split at h
    · cases h
    · cases h
    · rw [List.foldl_cons]
      split at h
      · rename_i up
        rw [if_pos up]
        exact ih h
      · rename_i down
        rw [if_neg down]
        exact ih h

/-- Keeping a result changes no file but the one it is kept in. -/
theorem file?_keep_of_ne (s : Store) (cache : Cache) (parsed : Parsed) {p : Path}
    (h : p ≠ (cache.route.child parsed.cacheName).resolve cache.workingDirectory) :
    (s.keep cache parsed).1.file? p = s.file? p := by
  have directories : (s.makeDirectories (cache.route.start cache.workingDirectory)
      cache.route.components).1.file? p = s.file? p :=
    file?_makeDirectoriesReversed s _ _ p
  simp only [keep]
  split
  · rename_i made e failed
    rw [failed] at directories
    exact directories
  · rename_i made done
    rw [done] at directories
    split
    · exact directories
    · exact directories
    · rename_i text path _ followed
      have elsewhere : p ≠ path := by
        rintro rfl
        exact h (eq_of_follow_ok followed)
      have written := file?_writeText_of_ne made text elsewhere
      split
      · rename_i after ok
        rw [ok] at written
        exact written.trans directories
      · rename_i after e failed
        rw [failed] at written
        exact written.trans directories

/-- What a report can come to: an error before anything is kept, a report, or an error in keeping
the result. -/
inductive Reports (s : Store) (trees : TreeSource) (d : Document) (options : RenderOptions)
    (cache : Option Cache) : Store × Except Failure Report → Prop
  | unread {e : SourceError} (parse : d.parse trees = .error e) :
    Reports s trees d options cache (s, .error (.source e))
  | unnamed {parsed : Parsed} {e : NameError} (parse : d.parse trees = .ok parsed)
    (names : ExportList.report options parsed = .error e) :
    Reports s trees d options cache (s, .error (.names e))
  | uncached {parsed : Parsed} {r : Report} (parse : d.parse trees = .ok parsed)
    (names : ExportList.report options parsed = .ok r) (absent : cache = none) :
    Reports s trees d options cache (s, .ok r)
  | kept {parsed : Parsed} {r : Report} {c : Cache} {after : Store}
    (parse : d.parse trees = .ok parsed) (names : ExportList.report options parsed = .ok r)
    (given : cache = some c) (keep : s.keep c parsed = (after, .ok ())) :
    Reports s trees d options cache (after, .ok r)
  | unkept {parsed : Parsed} {r : Report} {c : Cache} {after : Store} {e : CacheError}
    (parse : d.parse trees = .ok parsed) (names : ExportList.report options parsed = .ok r)
    (given : cache = some c) (keep : s.keep c parsed = (after, .error e)) :
    Reports s trees d options cache (after, .error (.cache e))

theorem reports (s : Store) (trees : TreeSource) (d : Document) (options : RenderOptions)
    (cache : Option Cache) : Reports s trees d options cache (s.report trees d options cache) := by
  unfold report
  split
  · rename_i e parse
    exact .unread parse
  · rename_i parsed parse
    split
    · rename_i e names
      exact .unnamed parse names
    · rename_i r names
      exact .uncached parse names rfl
    · rename_i r c names
      split
      · rename_i after keep
        exact .kept parse names rfl keep
      · rename_i after e keep
        exact .unkept parse names rfl keep

end Store

/-- What is put behind a file for a statement: a line feed if the last line is not ended, the
statement, and a line feed. -/
theorem statementLine_renderExport (existing : Text) (names : List Text) (options : RenderOptions)
    (h : options.trailingNewline = false) :
    statementLine existing (renderExport names options) =
      (if existing.isEmpty || existing.endsWith (CodePoint.ofChar '\n') then []
        else Text.ofString "\n") ++ renderExport names options ++ Text.ofString "\n" := by
  have last : (renderExport names options).dropTrailing (CodePoint.ofChar '\n') =
      renderExport names options := by
    rw [Text.dropTrailing_eq, List.rdropWhile_eq_self_iff]
    intro nonempty
    cases hs : options.semicolon <;> simp [renderExport, h, hs, Text.ofString] <;> decide
  rw [statementLine, last]

namespace Command

/-- A run whose arguments ask for a scan. -/
structure ScanRequest where
  workingDirectory : Path
  arguments : List Text
  verbose : Bool
  input : Text
  settings : Settings
  invoked : invocation arguments = .ok { verbose, scan := some (input, settings) }

namespace ScanRequest

def path (q : ScanRequest) : Path := (Route.ofText q.input).resolve q.workingDirectory

def document (q : ScanRequest) (source : Text) : Document :=
  { source
    sourceName := q.path.text
    dialect := dialectOrDefault q.settings.dialect
    jsx := q.settings.jsx || impliesJsx q.path }

def options (q : ScanRequest) : RenderOptions := { semicolon := q.settings.semicolon }

def cache (q : ScanRequest) : Option Cache :=
  q.settings.cacheDirectory.map fun directory =>
    { workingDirectory := q.workingDirectory, route := Route.ofText directory }

/-- The report on a text in the file, and the store after it. -/
def reported (q : ScanRequest) (trees : TreeSource) (s : Store) (source : Text) :
    Store × Except Failure Report :=
  s.report trees (q.document source) q.options q.cache

def selected (q : ScanRequest) (r : Report) : List Text :=
  if q.settings.all then r.exportable else r.missing

/-- The file in which the result for a text is kept. -/
def keptPath? (q : ScanRequest) (source : Text) : Option Path := do
  let directory ← q.settings.cacheDirectory
  let hash ← hashSource? source
  return ((Route.ofText directory).child (hash ++ ".json")).resolve q.workingDirectory

def outcome (q : ScanRequest) (trees : TreeSource) (s : Store) : Outcome :=
  (run trees q.workingDirectory s q.arguments).1

variable (q : ScanRequest) (trees : TreeSource) {s : Store}

theorem outcome_eq_scan (s : Store) :
    q.outcome trees s = scan trees q.workingDirectory s q.input q.settings := by
  unfold outcome run
  rw [q.invoked]

theorem outcome_of_unreadable (h : ∀ source, s.readText q.path ≠ .ok source) :
    (q.outcome trees s).store = s ∧ (q.outcome trees s).ending = .exit 1 ∧
      (q.outcome trees s).output = [] := by
  rw [outcome_eq_scan]
  simp only [scan, show (Route.ofText q.input).resolve q.workingDirectory = q.path from rfl]
  split
  · exact ⟨rfl, rfl, rfl⟩
  · split
    · exact ⟨rfl, rfl, rfl⟩
    · rename_i source read
      exact absurd read (h source)

private theorem scan_of_read {source : Text} (read : s.readText q.path = .ok source) :
    scan trees q.workingDirectory s q.input q.settings =
      let events := reportEvents trees (q.document source) q.options q.cache
        (q.reported trees s source).2
      match (q.reported trees s source).2 with
      | .error failure => failed (q.reported trees s source).1 q.path events failure
      | .ok r => deliver (q.reported trees s source).1 q.settings q.path events (q.selected r) := by
  simp only [scan, show (Route.ofText q.input).resolve q.workingDirectory = q.path from rfl, read,
    Store.has_of_readText read, Bool.not_true, Bool.false_eq_true, if_false]
  rfl

theorem outcome_of_failure {source : Text} {after : Store} {failure : Failure}
    (read : s.readText q.path = .ok source)
    (h : q.reported trees s source = (after, .error failure)) :
    ∃ events, q.outcome trees s = failed after q.path events failure := by
  rw [outcome_eq_scan, scan_of_read q trees read, h]
  exact ⟨_, rfl⟩

theorem outcome_of_report {source : Text} {after : Store} {r : Report}
    (read : s.readText q.path = .ok source) (h : q.reported trees s source = (after, .ok r)) :
    ∃ events, q.outcome trees s = deliver after q.settings q.path events (q.selected r) := by
  rw [outcome_eq_scan, scan_of_read q trees read, h]
  exact ⟨_, rfl⟩

private theorem reports_reported (s : Store) (source : Text) :
    s.Reports trees (q.document source) q.options q.cache (q.reported trees s source) :=
  s.reports trees (q.document source) q.options q.cache

/-- A report changes no file but the one that keeps its result. -/
theorem file?_reported {source : Text} {p : Path} (h : q.keptPath? source ≠ some p) :
    (q.reported trees s source).1.file? p = s.file? p := by
  have elsewhere : ∀ {parsed : Parsed} {c : Cache}, (q.document source).parse trees = .ok parsed →
      q.cache = some c → (s.keep c parsed).1.file? p = s.file? p := by
    intro parsed c parse given
    obtain ⟨directory, named, rfl⟩ := Option.map_eq_some_iff.mp given
    apply Store.file?_keep_of_ne
    rintro rfl
    apply h
    rw [keptPath?, named, show hashSource? source = _ from Document.hashSource?_of_parse_ok parse]
    rfl
  have reports := q.reports_reported trees s source
  generalize q.reported trees s source = result at reports ⊢
  cases reports with
  | unread | unnamed | uncached => rfl
  | kept parse _ given keep | unkept parse _ given keep =>
    have same := elsewhere parse given
    rw [keep] at same
    exact same

/-- A report that fails in good order has not come to keeping its result. -/
theorem reported_of_notice {source : Text} {after : Store} {failure : Failure} {notice : Text}
    (h : q.reported trees s source = (after, .error failure))
    (said : failureNotice? q.path failure = some notice) : after = s := by
  have reports := q.reports_reported trees s source
  rw [h] at reports
  cases reports with
  | unread | unnamed => rfl
  | unkept => cases said

/-- A report with missing names has the statement that exports them. -/
theorem statement_of_reported {source : Text} {after : Store} {r : Report}
    (h : q.reported trees s source = (after, .ok r)) (missing : r.missing ≠ []) :
    r.statement = some (renderExport r.missing q.options) := by
  have reports := q.reports_reported trees s source
  rw [h] at reports
  cases reports with
  | uncached _ names | kept _ names => exact (describes_of_report_ok names).statement_some missing

/-- The result for what the file holds is kept at a path. -/
def Keeps (q : ScanRequest) (s : Store) (p : Path) : Prop :=
  ∃ source, s.readText q.path = .ok source ∧ q.keptPath? source = some p

/-- A report on what the file holds is found. -/
def Finds (q : ScanRequest) (trees : TreeSource) (s : Store) (r : Report) : Prop :=
  ∃ source after, s.readText q.path = .ok source ∧ q.reported trees s source = (after, .ok r)

/-- What a run may do to the files and to its output. -/
structure Effects (q : ScanRequest) (trees : TreeSource) (s : Store) (o : Outcome) : Prop where
  /-- No file changes but the one that is scanned and the one that keeps the result. -/
  others : ∀ p, p ≠ q.path → ¬q.Keeps s p → o.store.file? p = s.file? p
  /-- The statement for the names is put behind the file, on lines of its own. -/
  appended : ¬q.Keeps s q.path → o.ending = .exit 0 → q.settings.write →
    ∀ r, q.Finds trees s r → q.selected r ≠ [] →
      ∃ bytes feed added, s.file? q.path = some bytes ∧ (feed = [] ∨ feed = Text.ofString "\n") ∧
        Utf8.encode? (feed ++ renderExport (q.selected r) q.options ++ "\n") = some added ∧
          o.store.file? q.path = some (bytes ++ added)
  /-- In all other cases the file stays as it is. -/
  unchanged : ¬q.Keeps s q.path →
    ¬(o.ending = .exit 0 ∧ q.settings.write ∧ ∃ r, q.Finds trees s r ∧ q.selected r ≠ []) →
      o.store.file? q.path = s.file? q.path
  /-- A run that exits with an error has done nothing. -/
  failed : o.ending = .exit 1 → o.store = s ∧ o.output = []
  /-- A run that does not come to an end has not touched the file. -/
  escaped : ∀ e, o.ending = .escape e → ¬q.Keeps s q.path → o.store.file? q.path = s.file? q.path
  /-- Only the statement is printed, by a run that is not to write it, and unless all names are
  asked for it is that of the report. -/
  printed : o.output ≠ [] → o.ending = .exit 0 ∧ q.settings.write = false ∧
    ∃ r, q.Finds trees s r ∧ o.output = renderExport (q.selected r) q.options ++ "\n" ∧
      (q.settings.all = false → ∃ statement, r.statement = some statement ∧
        o.output = statement ++ "\n")

variable {q trees} {o : Outcome}

/-- A run that prints nothing and leaves the files may do so unless it was to append a statement. -/
private theorem Effects.of_silent (files : ∀ p, ¬q.Keeps s p → o.store.file? p = s.file? p)
    (idle : o.ending = .exit 0 → ∀ r, q.Finds trees s r → q.selected r = [])
    (still : o.ending = .exit 1 → o.store = s) (silent : o.output = []) :
    q.Effects trees s o where
  others p _ := files p
  appended _ exit _ r found some := absurd (idle exit r found) some
  unchanged kept _ := files _ kept
  failed exit := ⟨still exit, silent⟩
  escaped _ _ := files _
  printed some := absurd silent some

private theorem effects_failed {after : Store} {events : List Event} {failure : Failure}
    {source : Text} (files : ∀ p, ¬q.Keeps s p → after.file? p = s.file? p)
    (h : q.reported trees s source = (after, .error failure)) :
    q.Effects trees s (Command.failed after q.path events failure) := by
  unfold Command.failed
  split
  · rename_i notice said
    have same := q.reported_of_notice trees h said
    exact .of_silent files (fun exit => nomatch exit) (fun _ => same) rfl
  · exact .of_silent files (fun exit => nomatch exit) (fun exit => nomatch exit) rfl

/-- The statement is put behind what the file held before the run. -/
private theorem appended_of_ok {after last : Store} {source : Text} {names : List Text}
    (same : after.file? q.path = s.file? q.path) (read : s.readText q.path = .ok source)
    (h : after.appendStatement q.path (renderExport names q.options) = (last, .ok ())) :
    ∃ bytes feed added, s.file? q.path = some bytes ∧ (feed = [] ∨ feed = Text.ofString "\n") ∧
      Utf8.encode? (feed ++ renderExport names q.options ++ "\n") = some added ∧
        last.file? q.path = some (bytes ++ added) := by
  obtain ⟨bytes, added, found, encoded, rfl⟩ :=
    Store.appendStatement_eq_ok (Store.readText_congr read same) h
  rw [statementLine_renderExport _ _ _ rfl] at encoded
  refine ⟨bytes, _, added, ?_, ?_, encoded, ?_⟩
  · rw [← same]
    exact Store.file?_eq_some_iff.mpr found
  · split
    · exact .inl rfl
    · exact .inr rfl
  · exact Store.file?_eq_some_iff.mpr (Store.get?_put_self after _ (Store.ne_nil_of_file found))

/-- A statement is refused before a byte of it is written. -/
private theorem file?_of_refused {after last : Store} {source statement : Text} {e : StoreError}
    (files : ∀ p, ¬q.Keeps s p → after.file? p = s.file? p) (read : s.readText q.path = .ok source)
    (h : after.appendStatement q.path statement = (last, .error e)) (p : Path)
    (kept : ¬q.Keeps s p) : last.file? p = s.file? p := by
  obtain ⟨bytes, _, found, _, _⟩ := Store.readText_eq_ok_iff.mp read
  rw [← Store.file?_eq_some_iff] at found
  by_cases same : p = q.path
  · subst same
    rw [Store.file?_of_appendStatement_error ((files _ kept).trans found) h, found]
  · have elsewhere := after.file?_appendStatement_of_ne statement same
    rw [h] at elsewhere
    exact elsewhere.trans (files p kept)

private theorem effects_written {after : Store} {events : List Event} {r : Report} {source : Text}
    (files : ∀ p, ¬q.Keeps s p → after.file? p = s.file? p)
    (read : s.readText q.path = .ok source) (h : q.reported trees s source = (after, .ok r))
    (only : ∀ r', q.Finds trees s r' → r' = r) (write : q.settings.write = true)
    (nonempty : q.selected r ≠ []) :
    q.Effects trees s (deliver after q.settings q.path events (q.selected r)) := by
  simp only [deliver, show (q.selected r).isEmpty = false by simpa using nonempty, write,
    Bool.false_eq_true, if_false, if_true]
  split
  · rename_i last appended
    refine
      { others := fun p other kept => ?_
        appended := fun kept _ _ r' found _ => ?_
        unchanged := fun _ idle => absurd ⟨rfl, write, r, ⟨source, after, read, h⟩, nonempty⟩ idle
        failed := fun exit => nomatch exit
        escaped := fun _ exit => nomatch exit
        printed := fun some => absurd rfl some }
    · have elsewhere := after.file?_appendStatement_of_ne
        (renderExport (q.selected r) { semicolon := q.settings.semicolon }) other
      rw [appended] at elsewhere
      exact elsewhere.trans (files p kept)
    · cases only r' found
      exact appended_of_ok (files _ kept) read appended
  · rename_i last e refused
    exact .of_silent (file?_of_refused files read refused) (fun exit => nomatch exit)
      (fun exit => nomatch exit) rfl

private theorem effects_printed {after : Store} {events : List Event} {r : Report} {source : Text}
    (files : ∀ p, ¬q.Keeps s p → after.file? p = s.file? p)
    (read : s.readText q.path = .ok source) (h : q.reported trees s source = (after, .ok r))
    (print : q.settings.write = false) (nonempty : q.selected r ≠ []) :
    q.Effects trees s (deliver after q.settings q.path events (q.selected r)) := by
  simp only [deliver, show (q.selected r).isEmpty = false by simpa using nonempty, print,
    Bool.false_eq_true, if_false]
  split_ifs
  · exact .of_silent files (fun exit => nomatch exit) (fun exit => nomatch exit) rfl
  · refine
      { others := fun p _ => files p
        appended := fun _ _ write => by rw [print] at write; cases write
        unchanged := fun kept _ => files _ kept
        failed := fun exit => nomatch exit
        escaped := fun _ exit => nomatch exit
        printed := fun _ => ⟨rfl, print, r, ⟨source, after, read, h⟩, rfl, ?_⟩ }
    intro some
    have selected : q.selected r = r.missing := by
      rw [selected, some]
      rfl
    rw [selected] at nonempty
    refine ⟨_, q.statement_of_reported trees h nonempty, ?_⟩
    rw [selected]
    rfl

/-- A scan changes no file but its own and the one that keeps the result, appends nothing but the
statement, prints nothing else, and does nothing if it exits with an error. -/
theorem scan_effects (q : ScanRequest) (trees : TreeSource) (s : Store) :
    q.Effects trees s (q.outcome trees s) := by
  by_cases readable : ∃ source, s.readText q.path = .ok source
  · obtain ⟨source, read⟩ := readable
    rcases reported : q.reported trees s source with ⟨after, result⟩
    have files : ∀ p, ¬q.Keeps s p → after.file? p = s.file? p := by
      intro p kept
      have elsewhere : q.keptPath? source ≠ some p := fun there => kept ⟨source, read, there⟩
      have same := q.file?_reported trees (s := s) elsewhere
      rwa [reported] at same
    cases result with
    | error failure =>
      obtain ⟨events, ended⟩ := q.outcome_of_failure trees read reported
      rw [ended]
      exact effects_failed files reported
    | ok r =>
      have only : ∀ r', q.Finds trees s r' → r' = r := by
        rintro r' ⟨source', after', read', reported'⟩
        rw [read] at read'
        cases read'
        rw [reported] at reported'
        cases reported'
        rfl
      obtain ⟨events, ended⟩ := q.outcome_of_report trees read reported
      rw [ended]
      by_cases nonempty : q.selected r = []
      · rw [nonempty]
        refine .of_silent files ?_ (fun exit => nomatch exit) rfl
        intro _ r' found
        rw [only r' found, nonempty]
      · cases delivery : q.settings.write with
        | true => exact effects_written files read reported only delivery nonempty
        | false => exact effects_printed files read reported delivery nonempty
  · have unread : ∀ source, s.readText q.path ≠ .ok source := fun source read =>
      readable ⟨source, read⟩
    obtain ⟨store, ending, output⟩ := q.outcome_of_unreadable trees unread
    refine .of_silent (fun p _ => by rw [store]) ?_ (fun _ => store) output
    rintro _ r ⟨source, _, read, _⟩
    exact absurd read (unread source)

/-- The request `scan /a.ts --write`. -/
def ofWrite : ScanRequest where
  workingDirectory := []
  arguments := ["scan", "/a.ts", "--write"]
  verbose := false
  input := "/a.ts"
  settings := { input := some "/a.ts", write := true }
  invoked := by rfl

/-- The statement `let é` at the start of a document. -/
def variableTree : Concrete.Tree :=
  .onRow 0 0 "lexical_declaration" 0 6
    [.inField "kind" (.asToken (.onRow 0 0 "let" 0 3 [])),
      .onRow 0 0 "variable_declarator" 4 6 [.inField "name" (.onRow 0 0 "identifier" 4 6 [])]]

def exportTree : Concrete.Tree :=
  .onRow 1 7 "export_statement" 0 13
    [.asToken (.onRow 1 7 "export" 0 6 []),
      .onRow 1 7 "export_clause" 7 13
        [.asToken (.onRow 1 7 "\x7b" 7 8 []),
          .onRow 1 7 "export_specifier" 9 11 [.inField "name" (.onRow 1 7 "identifier" 9 11 [])],
          .asToken (.onRow 1 7 "\x7d" 12 13 [])]]

/-- The trees of `let é` without and with its export. -/
def variableTrees : TreeSource := fun _ source =>
  .node
    { kind := "program"
      start := ⟨0, 0, 0⟩
      stop := ⟨source.width, source.count (CodePoint.ofChar '\n'), 0⟩ }
    (if source = Text.ofString "let é\n" then [variableTree] else [variableTree, exportTree])

/-- A file `let é` whose line ends in a carriage return and a line feed. -/
def variableStore : Store :=
  ⟨[([Text.ofString "a.ts"], .file ((Utf8.encode? "let é\r\n").getD []))]⟩

theorem scan_effects_variable :
    (ofWrite.outcome variableTrees variableStore).ending = .exit 0 ∧
      ∃ bytes feed added, variableStore.file? ofWrite.path = some bytes ∧
        (feed = [] ∨ feed = Text.ofString "\n") ∧
        Utf8.encode? (feed ++ renderExport ["é"] ofWrite.options ++ "\n") = some added ∧
        (ofWrite.outcome variableTrees variableStore).store.file? ofWrite.path =
          some (bytes ++ added) := by
  have read : variableStore.readText ofWrite.path = .ok "let é\n" := by rfl
  obtain ⟨r, reported, selected⟩ : ∃ r,
      ofWrite.reported variableTrees variableStore "let é\n" = (variableStore, .ok r) ∧
        ofWrite.selected r = ["é"] := ⟨_, rfl, rfl⟩
  obtain ⟨events, delivered⟩ := ofWrite.outcome_of_report variableTrees read reported
  have exit : (ofWrite.outcome variableTrees variableStore).ending = .exit 0 := by
    rw [delivered, selected]
    rfl
  have uncached : ¬ofWrite.Keeps variableStore ofWrite.path := by
    rintro ⟨_, _, kept⟩
    cases kept
  have appended := (scan_effects ofWrite variableTrees variableStore).appended uncached exit rfl r
    ⟨_, _, read, reported⟩ (by simp [selected])
  rw [selected] at appended
  exact ⟨exit, appended⟩

end ScanRequest

end Command

end ExportList
