import ExportList.Proofs.Cache

/-!
Reports one after another, with one directory for the results of all of them.  The files of the
directory mirror the history of the calls: there is one for each text on which a call succeeded, and
it holds the result of the last such call.
-/

set_option autoImplicit false

namespace ExportList

structure Call where
  trees : TreeSource
  document : Document
  options : RenderOptions := {}

abbrev Call.tree (call : Call) : Concrete.Tree :=
  call.trees call.document.jsx call.document.source

/-- The call is about a concrete tree whose grammar names hold no surrogates, and neither does the
name of the document. -/
structure Call.IsPortable (call : Call) : Prop where
  typescript : call.document.dialect = .typescript
  kinds : ∀ t ∈ call.tree.nodes, t.kind.IsScalar
  name : call.document.sourceName.IsScalar

/-- The result for a call has no JSON text: a place in its tree has a number of too many digits. -/
def Call.IsTooLong (call : Call) (e : Failure) : Prop :=
  e = .cache (.unprintable .longInteger) ∧ ¬call.tree.HasShortPlaces

abbrev History := List (Call × Except Failure Report)

/-- Answers a call and keeps its result. -/
def Store.answer (s : Store) (c : Cache) (call : Call) : Store × Except Failure Report :=
  s.report call.trees call.document call.options (some c)

def Store.answerAll (s : Store) (c : Cache) : List Call → Store × History
  | [] => (s, [])
  | call :: rest =>
    let answered := s.answer c call
    let later := answered.1.answerAll c rest
    (later.1, (call, answered.2) :: later.2)

/-- The report of the last call on a text that succeeded. -/
def lastReport? (history : History) (source : Text) : Option Report :=
  (history.filterMap fun answered =>
    if answered.1.document.source = source then answered.2.toOption else none).getLast?

def Distinguished (sources : List Text) : Prop :=
  ∀ a ∈ sources, ∀ b ∈ sources, ∀ hash,
    hashSource? a = some hash → hashSource? b = some hash → a = b

theorem lastReport?_append_error (history : History) (call : Call) (e : Failure) (source : Text) :
    lastReport? (history ++ [(call, .error e)]) source = lastReport? history source := by
  have nothing : ([(call, .error e)] : History).filterMap (fun answered =>
      if answered.1.document.source = source then answered.2.toOption else none) = [] := by
    simp [Except.toOption]
  rw [lastReport?, List.filterMap_append, nothing, List.append_nil]
  rfl

theorem lastReport?_append_ok (history : History) (call : Call) (r : Report) (source : Text) :
    lastReport? (history ++ [(call, .ok r)]) source =
      if call.document.source = source then some r else lastReport? history source := by
  rw [lastReport?, List.filterMap_append]
  by_cases same : call.document.source = source
  · simp [same, Except.toOption]
  · simp [same, lastReport?]

/-- A text with a last report is the text of a call. -/
theorem exists_call_of_lastReport? {history : History} {source : Text} {r : Report}
    (h : lastReport? history source = some r) :
    ∃ call, (call, .ok r) ∈ history ∧ call.document.source = source := by
  obtain ⟨⟨call, answer⟩, member, found⟩ := List.mem_filterMap.mp (List.mem_of_getLast? h)
  split_ifs at found with same
  rw [toOption_eq_some_iff] at found
  exact ⟨call, found ▸ member, same⟩

theorem Call.IsPortable.hasScalarTexts {call : Call} {parsed : Parsed} (portable : call.IsPortable)
    (parse : call.document.parse call.trees = .ok parsed) :
    parsed.program.Everywhere Json.HasScalarTexts :=
  (everywhere_isPortable_of_parse parse portable.typescript portable.kinds).imp fun _ =>
    Json.IsPortable.hasScalarTexts

theorem Call.IsPortable.isTooLong {call : Call} {parsed : Parsed} {fault : Json.Unprintable}
    (portable : call.IsPortable) (parse : call.document.parse call.trees = .ok parsed)
    (json : parsed.json = .error fault) : call.IsTooLong (.cache (.unprintable fault)) := by
  have first := Parsed.json_eq_error_iff.mp json
  rcases isStorable_or_of_parse parse portable.typescript portable.kinds with
    storable | ⟨long, places⟩
  · exact absurd first (Json.firstFault?_ne_some storable.1 fault)
  · cases long.symm.trans first
    exact ⟨rfl, places⟩

/-- A call on a concrete tree fails without touching a file, or succeeds and writes the file for its
text. -/
theorem Store.answer_cases (s : Store) (c : Cache) {call : Call} (portable : call.IsPortable) :
    (∃ e, (s.answer c call).2 = .error e ∧ (∀ p, (s.answer c call).1.file? p = s.file? p) ∧
      ((∀ fault, e ≠ .cache (.store fault)) → (s.answer c call).1 = s ∨ call.IsTooLong e)) ∨
    ∃ r hash text bytes, (s.answer c call).2 = .ok r ∧
      hashSource? call.document.source = some hash ∧
      r.parsed.json = .ok text ∧ Utf8.encode? text = some bytes ∧
      ∀ p, (s.answer c call).1.file? p = if p = c.entry hash then some bytes else s.file? p := by
  have reports := s.reports call.trees call.document call.options (some c)
  rw [← answer] at reports
  generalize s.answer c call = result at reports ⊢
  cases reports with
  | unread => exact .inl ⟨_, rfl, fun _ => rfl, fun _ => .inl rfl⟩
  | unnamed => exact .inl ⟨_, rfl, fun _ => rfl, fun _ => .inl rfl⟩
  | uncached _ _ absent => cases absent
  | @kept parsed r c' after parse names given keep =>
    cases given
    rcases s.keep_of_hasScalarTexts c parse portable.name (portable.hasScalarTexts parse) with
      ⟨made, e, refused, _⟩ | ⟨made, fault, refused, _⟩ |
      ⟨made, text, bytes, kept, printed, encoded, files⟩
    · rw [keep] at refused
      cases refused
    · rw [keep] at refused
      cases refused
    · rw [keep] at kept
      cases kept
      have hash := call.document.hashSource?_of_parse_ok parse
      exact .inr ⟨r, parsed.hash, text, bytes, rfl, hash, parsed_of_report_ok names ▸ printed,
        encoded, files⟩
  | @unkept parsed r c' after e parse names given keep =>
    cases given
    rcases s.keep_of_hasScalarTexts c parse portable.name (portable.hasScalarTexts parse) with
      ⟨made, e, refused, files, _⟩ | ⟨made, fault, refused, files, json⟩ |
      ⟨made, text, bytes, kept, _⟩
    · rw [keep] at refused
      cases refused
      exact .inl ⟨_, rfl, files, fun other => absurd rfl (other _)⟩
    · rw [keep] at refused
      cases refused
      exact .inl ⟨_, rfl, files, fun _ => .inr (portable.isTooLong parse json)⟩
    · rw [keep] at kept
      cases kept

/-- A call succeeds if there is a report and its result has a JSON text and a place. -/
theorem Store.answer_eq_ok {s : Store} {c : Cache} {call : Call} {parsed : Parsed} {r : Report}
    {text : Text} (portable : call.IsPortable) (printed : parsed.json = .ok text)
    (admits : c.Admits s parsed.hash)
    (parse : call.document.parse call.trees = .ok parsed)
    (names : ExportList.report call.options parsed = .ok r) : (s.answer c call).2 = .ok r := by
  rcases s.keep_of_hasScalarTexts c parse portable.name (portable.hasScalarTexts parse) with
    ⟨_, _, _, _, why⟩ | ⟨_, fault, _, _, json⟩ | ⟨made, text, bytes, kept, _⟩
  · exact absurd admits why
  · cases printed.symm.trans json
  · simp only [answer, Store.report, parse, names, kept]

/-- The files of a directory mirror a history. -/
structure Mirrors (s : Store) (c : Cache) (history : History) : Prop where
  /-- The last result for a text is kept under the digest of the text. -/
  kept : ∀ {source r}, lastReport? history source = some r → ∃ hash text bytes,
    hashSource? source = some hash ∧ r.parsed.json = .ok text ∧ Utf8.encode? text = some bytes ∧
      s.file? (c.directory ++ [hash ++ Text.ofString ".json"]) = some bytes
  /-- There are no other files. -/
  only : ∀ {p bytes}, c.directory <+: p → s.file? p = some bytes → ∃ source r hash,
    lastReport? history source = some r ∧ hashSource? source = some hash ∧
      p = c.directory ++ [hash ++ Text.ofString ".json"]

section Step

variable {s after : Store} {c : Cache} {history : History} {call : Call}

theorem Mirrors.append_error (h : Mirrors s c history) (files : ∀ p, after.file? p = s.file? p)
    (e : Failure) :
    Mirrors after c (history ++ [(call, .error e)]) where
  kept := by
    intro source r last
    rw [lastReport?_append_error] at last
    obtain ⟨hash, text, bytes, hashed, printed, encoded, found⟩ := h.kept last
    exact ⟨hash, text, bytes, hashed, printed, encoded, (files _).trans found⟩
  only := by
    intro p bytes inside found
    rw [files] at found
    obtain ⟨source, r, hash, last, rest⟩ := h.only inside found
    exact ⟨source, r, hash, by rw [lastReport?_append_error, last], rest⟩

/-- Another text has another digest, so its file is not the one that is written. -/
theorem entry_ne_of_distinguished {source : Text} {hash hash' : Text} {r : Report}
    (distinct : Distinguished (call.document.source :: history.map (·.1.document.source)))
    (last : lastReport? history source = some r)
    (hashed : hashSource? call.document.source = some hash)
    (hashed' : hashSource? source = some hash') (other : call.document.source ≠ source) :
    c.entry hash' ≠ c.entry hash := by
  obtain ⟨earlier, member, source_eq⟩ := exists_call_of_lastReport? last
  have among : source ∈ call.document.source :: history.map (·.1.document.source) :=
    List.mem_cons_of_mem _ (List.mem_map.mpr ⟨_, member, source_eq⟩)
  intro same
  obtain rfl := Cache.entry_inj.mp same
  exact other (distinct _ List.mem_cons_self source among hash' hashed hashed')

theorem Mirrors.append_ok {r : Report} {hash text : Text} {bytes : Bytes} (h : Mirrors s c history)
    (distinct : Distinguished (call.document.source :: history.map (·.1.document.source)))
    (hashed : hashSource? call.document.source = some hash) (printed : r.parsed.json = .ok text)
    (encoded : Utf8.encode? text = some bytes)
    (files : ∀ p, after.file? p = if p = c.entry hash then some bytes else s.file? p) :
    Mirrors after c (history ++ [(call, .ok r)]) where
  kept := by
    intro source r' last
    rw [lastReport?_append_ok] at last
    split_ifs at last with same
    · cases last
      refine ⟨hash, text, bytes, same ▸ hashed, printed, encoded, ?_⟩
      rw [← Cache.entry_eq, files, if_pos rfl]
    · obtain ⟨hash', text', bytes', hashed', printed', encoded', found⟩ := h.kept last
      refine ⟨hash', text', bytes', hashed', printed', encoded', ?_⟩
      rw [← Cache.entry_eq] at found ⊢
      rw [files, if_neg (entry_ne_of_distinguished distinct last hashed hashed' same), found]
  only := by
    intro p bytes' inside found
    rw [files] at found
    split_ifs at found with same
    · refine ⟨call.document.source, r, hash, ?_, hashed, same.trans (Cache.entry_eq _ _)⟩
      rw [lastReport?_append_ok, if_pos rfl]
    · -- an older file stays, under whichever report is now the last on its text
      obtain ⟨source, r', hash', last, rest⟩ := h.only inside found
      by_cases again : call.document.source = source
      · exact ⟨source, r, hash', by rw [lastReport?_append_ok, if_pos again], rest⟩
      · exact ⟨source, r', hash', by rw [lastReport?_append_ok, if_neg again, last], rest⟩

theorem Mirrors.answer (h : Mirrors s c history) (portable : call.IsPortable)
    (distinct : Distinguished (call.document.source :: history.map (·.1.document.source))) :
    Mirrors (s.answer c call).1 c (history ++ [(call, (s.answer c call).2)]) := by
  rcases s.answer_cases c portable with
    ⟨e, failed, files, _⟩ | ⟨r, hash, text, bytes, reported, hashed, printed, encoded, files⟩
  · rw [failed]
    exact h.append_error files e
  · rw [reported]
    exact h.append_ok distinct hashed printed encoded files

end Step

theorem Mirrors.answerAll {s : Store} {c : Cache} {history : History} {calls : List Call}
    (h : Mirrors s c history) (portable : ∀ call ∈ calls, call.IsPortable)
    (distinct : Distinguished
      (calls.map (·.document.source) ++ history.map (·.1.document.source))) :
    Mirrors (s.answerAll c calls).1 c (history ++ (s.answerAll c calls).2) := by
  induction calls generalizing s history with
  | nil =>
    rw [Store.answerAll, List.append_nil]
    exact h
  | cons call calls ih =>
    rw [List.forall_mem_cons] at portable
    have first : Distinguished (call.document.source :: history.map (·.1.document.source)) :=
      fun a ha b hb => distinct a (by grind) b (by grind)
    have next := ih (h.answer portable.1 first) portable.2 fun a ha b hb =>
      distinct a (by grind) b (by grind)
    rw [List.append_assoc] at next
    exact next

/-- After any calls on concrete trees, the files of a directory that was not there before are
exactly the last results for the texts on which some call succeeded, each under the digest of its
text, and a call that fails has changed no file.  It has changed nothing at all unless the store
refused the result or the result has no JSON text. -/
theorem mirrors_answerAll (s : Store) (c : Cache) (calls : List Call)
    (absent : ∀ p, c.directory <+: p → s.get? p = none) (portable : ∀ call ∈ calls, call.IsPortable)
    (distinct : Distinguished (calls.map (·.document.source))) :
    Mirrors (s.answerAll c calls).1 c (s.answerAll c calls).2 ∧
      ∀ call ∈ calls, ∀ (before : Store) e, (before.answer c call).2 = .error e →
        (∀ p, (before.answer c call).1.file? p = before.file? p) ∧
          ((∀ fault, e ≠ .cache (.store fault)) →
            (before.answer c call).1 = before ∨ call.IsTooLong e) := by
  constructor
  · have start : Mirrors s c [] := by
      constructor
      · intro source r last
        cases last
      · intro p bytes inside found
        rw [Store.file?, absent p inside] at found
        cases found
    exact start.answerAll portable (by simpa using distinct)
  · intro call member before e failed
    rcases before.answer_cases c (portable call member)
      with ⟨e', failed', files, same⟩ | ⟨r, _, _, _, reported, _⟩
    · rw [failed] at failed'
      cases failed'
      exact ⟨files, same⟩
    · rw [failed] at reported
      cases reported

/-- A call on an import whose source holds a tab and an astral character. -/
def importCall : Call where
  trees := fun _ _ => tabbedImport
  document := { source := "import \"\t😀\"", sourceName := "a.ts" }

def surrogateCall : Call where
  trees := fun _ _ => tabbedImport
  document := { source := [CodePoint.ofNat 0xD800], sourceName := "b.ts" }

theorem mirrors_answerAll_importCall :
    ∃ r hash text bytes,
      lastReport? (Store.answerAll {} cacheBelowRoot [importCall, surrogateCall]).2
        importCall.document.source = some r ∧
      hashSource? importCall.document.source = some hash ∧ r.parsed.json = .ok text ∧
      Utf8.encode? text = some bytes ∧
      (Store.answerAll {} cacheBelowRoot [importCall, surrogateCall]).1.file?
        (cacheBelowRoot.directory ++ [hash ++ Text.ofString ".json"]) = some bytes := by
  have portable : ∀ call ∈ [importCall, surrogateCall], call.IsPortable := by
    simp only [List.forall_mem_cons, List.not_mem_nil, false_imp_iff, implies_true, and_true]
    exact ⟨⟨rfl, by decide, by decide⟩, ⟨rfl, by decide, by decide⟩⟩
  have absent : ∀ p, cacheBelowRoot.directory <+: p → Store.get? {} p = none := by
    rintro p ⟨rest, rfl⟩
    rfl
  have distinct : Distinguished ([importCall, surrogateCall].map (·.document.source)) := by
    have no_hash : hashSource? surrogateCall.document.source = none := rfl
    intro a ha b hb hash hashed hashed'
    simp only [List.map_cons, List.map_nil, List.mem_cons, List.not_mem_nil, or_false] at ha hb
    rcases ha with rfl | rfl <;> rcases hb with rfl | rfl <;> simp_all
  have mirrors := (mirrors_answerAll {} cacheBelowRoot _ absent portable distinct).1
  have evaluated : ((importCall.document.parse importCall.trees).toOption.map fun parsed =>
      parsed.json.toOption.isSome && (report importCall.options parsed).toOption.isSome) =
        some true := by decide +kernel
  obtain ⟨parsed, parse, facts⟩ := Option.map_eq_some_iff.mp evaluated
  obtain ⟨printed, reported⟩ := Bool.and_eq_true_iff.mp facts
  obtain ⟨text, printed⟩ := Option.isSome_iff_exists.mp printed
  obtain ⟨r, names⟩ := Option.isSome_iff_exists.mp reported
  have answered : (Store.answer {} cacheBelowRoot importCall).2 = .ok r :=
    Store.answer_eq_ok (portable _ List.mem_cons_self) (toOption_eq_some_iff.mp printed)
      (admits_empty parsed.hash)
      (toOption_eq_some_iff.mp parse) (toOption_eq_some_iff.mp names)
  have last : lastReport? (Store.answerAll {} cacheBelowRoot [importCall, surrogateCall]).2
      importCall.document.source = some r := by
    have other : surrogateCall.document.source ≠ importCall.document.source := by decide
    simp only [Store.answerAll, lastReport?, List.filterMap_cons, List.filterMap_nil, if_true,
      if_neg other, answered, Except.toOption, List.getLast?_singleton]
  obtain ⟨hash, text, bytes, rest⟩ := mirrors.kept last
  exact ⟨r, hash, text, bytes, last, rest⟩

end ExportList
