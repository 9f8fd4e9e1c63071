import ExportList.Proofs.Script.Listing

/-!
A module with an export list of plain names behind it is a module.
-/

set_option autoImplicit false

namespace ExportList.Script

variable {e : Setting} {g g' : Grammar} {s s' t : State}

/-- Both runs are at the same place, or the document has ended. -/
def Beside (e : Setting) (s s' : State) : Prop := ∃ m, Related e m s s'

theorem Matches.beside {α : Type} {r : α × State} {q : Except Complaint (α × State)}
    (h : Matches e .loose r q) : ∃ a t, q = .ok (a, t) ∧ Beside e r.2 t := by
  obtain ⟨t, ok, live⟩ | ⟨a, t, ok, ended⟩ := h
  · exact ⟨r.1, t, ok, .live, live⟩
  · exact ⟨a, t, ok, .past, ended⟩

theorem before_append {source : List Char} (some : source ≠ [])
    (longSize : e.longSize = (source ++ e.tail).length + 2) :
    State.before (source ++ e.tail) = (State.before source).extended e := by
  have notEmpty : source.isEmpty = false := by simpa using some
  have notEmpty' : (source ++ e.tail).isEmpty = false := by simp [some]
  simp only [State.before, State.extended, Scanner.start, notEmpty, notEmpty', longSize]
  rfl

theorem start_followed {source : List Char} (some : source ≠ []) (closed : Sealed e.tail source)
    (fits : Context.Fits {} e) (size : e.size = source.length + 2)
    (longSize : e.longSize = (source ++ e.tail).length + 2) (ok : State.start source = .ok s) :
    ∃ s', State.start (source ++ e.tail) = .ok s' ∧ Beside e s s' := by
  obtain ⟨⟨first, t⟩, read, done⟩ := bind_eq_ok_iff.mp ok
  cases done
  obtain ⟨_, t', read', near⟩ := advance_extended (e := e) closed rfl fits size.symm read
  rw [← before_append some longSize] at read'
  refine ⟨_, bind_eq_ok_iff.mpr ⟨_, read', rfl⟩, ?_⟩
  rcases near with live | ⟨ended, _⟩
  · exact ⟨.live, { live with same := by rw [live.same]; rfl }⟩
  · exact ⟨.past, { ended with }⟩

section Collecting

variable {α : Type} {stop : Token → Bool} {item : Parse α} {fuel : Nat}

theorem collectUntil_of_stop (h : stop s.lookahead = true) :
    collectUntil stop item (fuel + 1) s = .ok ([], s) := by
  have asked : sees stop s = .ok (true, s) := by
    rw [← h]
    rfl
  rw [collectUntil, bind_run _ asked]
  rfl

theorem collectUntil_of_item (h : stop s.lookahead = false) :
    collectUntil stop item (fuel + 1) s =
      (item >>= fun first => collectUntil stop item fuel >>= fun others => pure (first :: others))
        s := by
  have asked : sees stop s = .ok (false, s) := by
    rw [← h]
    rfl
  rw [collectUntil, bind_run _ asked]
  rfl

end Collecting

/-- If the items of a document are read, so are those of the longer one: the same and one more. -/
theorem collect_followed (h : g.Alike g')
    (takes : ∀ {s s'}, Ended e s s' → ∃ r, g'.item s' = .ok r ∧ r.2.lookahead.isEnd = true)
    {fuel fuel' : Nat} (le : fuel + 1 ≤ fuel') (beside : Beside e s s')
    {r : List Value × State} (ok : collectUntil (fun t => !!t.isEnd) g.item fuel s = .ok r) :
    ∃ r', collectUntil (fun t => !!t.isEnd) g'.item fuel' s' = .ok r' := by
  induction fuel generalizing s s' fuel' r with
  | zero => exact (never_giveUp s r ok).elim
  | succ fuel ih =>
    obtain ⟨fuel', rfl⟩ : ∃ n, fuel' = n + 2 := ⟨fuel' - 2, by omega⟩
    obtain ⟨m, related⟩ := beside
    rcases related.live_or_ended with ⟨live, _⟩ | ended
    · have notEnd : (!!s.lookahead.isEnd) = false := by rw [live.notEnd]; rfl
      have notEnd' : (!!s'.lookahead.isEnd) = false := by rw [live.same]; exact notEnd
      rw [collectUntil_of_item notEnd] at ok
      obtain ⟨⟨first, t⟩, read, rest⟩ := bind_ok.mp ok
      obtain ⟨⟨others, u⟩, collected, _⟩ := bind_ok.mp rest
      obtain ⟨first', t', read', beside⟩ := (h.item.live live read).beside
      obtain ⟨⟨others', u'⟩, collected'⟩ := ih (Nat.le_of_succ_le_succ le) beside collected
      rw [collectUntil_of_item notEnd', bind_run _ read', bind_run _ collected']
      exact ⟨_, rfl⟩
    · -- The one more item is the export, behind which nothing is left.
      obtain ⟨⟨listed, t'⟩, read', isEnd⟩ := takes ended
      have notEnd' : (!!s'.lookahead.isEnd) = false := by simp [Token.isEnd, ended.export']
      have isEnd : (!!t'.lookahead.isEnd) = true := by simpa using isEnd
      rw [collectUntil_of_item notEnd', bind_run _ read', bind_run _ (collectUntil_of_stop isEnd)]
      exact ⟨_, rfl⟩

theorem programBody_followed (h : g.Alike g')
    (takes : ∀ {s s'}, Ended e s s' → ∃ r, g'.item s' = .ok r ∧ r.2.lookahead.isEnd = true)
    (lt : e.size < e.longSize) (beside : Beside e s s') {isModule : Bool} {r : Value × State}
    (ok : programBody g isModule s = .ok r) : ∃ r', programBody g' isModule s' = .ok r' := by
  obtain ⟨⟨start, _⟩, marked, ok⟩ := bind_ok.mp ok
  cases marked
  obtain ⟨⟨bound, _⟩, bounded, ok⟩ := bind_ok.mp ok
  cases bounded
  obtain ⟨⟨opening, t⟩, opened, ok⟩ := bind_ok.mp ok
  obtain ⟨⟨statements, u⟩, collected, _⟩ := bind_ok.mp ok
  obtain ⟨⟨_, _⟩, bounded, collected⟩ := bind_ok.mp collected
  cases bounded
  obtain ⟨m, related⟩ := beside
  rw [related.size_eq.1] at opened
  obtain ⟨opening', t', opened', m', related'⟩ :=
    (directives_loose h e.size_le none related opened).beside
  rw [← related.size_eq.2] at opened'
  have room : t.size + 1 ≤ t'.size := by
    rw [related'.size_eq.1, related'.size_eq.2]
    exact lt
  obtain ⟨⟨statements', u'⟩, collected'⟩ := collect_followed h takes room ⟨m', related'⟩ collected
  have bounded' : tokenBound t' = .ok (t'.size, t') := rfl
  refine ⟨_, bind_ok.mpr ⟨_, rfl, bind_ok.mpr ⟨_, rfl, bind_ok.mpr ⟨_, opened', bind_ok.mpr ⟨_,
    bind_ok.mpr ⟨_, bounded', collected'⟩, rfl⟩⟩⟩⟩⟩

/-- The same document, in a module. -/
def Setting.asModule (e : Setting) : Setting := { e with isModule := true }

theorem Beside.asModule (beside : Beside e s s') : Beside e.asModule s.asModule s'.asModule := by
  obtain ⟨m, related⟩ := beside
  rcases related.live_or_ended with ⟨live, _⟩ | ended
  · refine ⟨.live, { live with fits := ⟨rfl, live.fits.2⟩, same := ?_ }⟩
    rw [live.same]
    rfl
  · refine ⟨.past, { ended with context := ?_, fits := ⟨rfl, ended.fits.2⟩ }⟩
    simp only [State.asModule, ended.context]

theorem length_le_afterName (names : List (List Char)) (tail : List Char) :
    names.length ≤ (afterName names tail).length := by
  induction names with
  | nil => simp
  | cons name names ih =>
    simp only [afterName, List.length_cons, List.length_append]
    omega

/-- Behind a module, an export list of plain names is read. -/
theorem item_of_ended {first : List Char} {names : List (List Char)} {semicolon : Bool}
    (after : e.after = listText first names semicolon) (isModule : e.isModule = true)
    (outside : e.inFunctionBody = false) (listable : ∀ name ∈ first :: names, Listable name)
    (enough : names.length + 2 ≤ e.longSize) (ended : Ended e s s') :
    ∃ r, item g s' = .ok r ∧ r.2.lookahead.isEnd = true := by
  have isModule : s'.context.isModule = true := by rw [ended.context, ended.fits.1, isModule]
  have outside : s'.context.inFunctionBody = false := by rw [ended.context, ended.fits.2, outside]
  have enough : names.length + 2 ≤ s'.size := by rw [ended.longSize]; exact enough
  have runs := item_runs (g := g)
    (v := ⟨fun t => t.lexeme = .keyword "export", s'.scanner.cursor.rest, s'.scanner.braces,
      s'.context, s'.size⟩)
    (fun t (is : t.lexeme = .keyword "export") => by simp [Token.isKeyword, is])
    (ended.rest.trans (congrArg _ after)) isModule outside listable enough
  obtain ⟨r, ok, _, holds⟩ := runs ⟨ended.export', rfl, rfl, rfl, rfl⟩
  exact ⟨r, ok, holds.token⟩

/-- A module with an export list of plain names behind it, on a line of its own, is a module. -/
theorem parseAs_append_list {source tail first : List Char} {names : List (List Char)}
    {semicolon : Bool} {document : Value} (some : source ≠ []) (closed : Sealed tail source)
    (follows : Follows tail (exportWord ++ ' ' :: listText first names semicolon))
    (listable : ∀ name ∈ first :: names, Listable name) (ok : parseAs true source = .ok document) :
    ∃ document', parseAs true (source ++ tail) = .ok document' := by
  let e : Setting :=
    { tail, after := listText first names semicolon, follows
      size := source.length + 2, longSize := (source ++ tail).length + 2
      size_le := by simp
      isModule := false, inFunctionBody := false }
  have long : names.length < tail.length := by
    have le := length_le_afterName names (closing semicolon)
    rcases follows.feed with rfl | rfl <;>
      simp only [listText, List.length_cons, List.length_append] <;> omega
  obtain ⟨s, started, ok⟩ := bind_eq_ok_iff.mp ok
  obtain ⟨r, read, _⟩ := bind_eq_ok_iff.mp ok
  obtain ⟨s', started', beside⟩ := start_followed (e := e) some closed ⟨rfl, rfl⟩ rfl rfl started
  have alike : (grammar (source.length + 2)).Alike (grammar ((source ++ tail).length + 2)) :=
    grammar_alike (by simp)
  have read : programBody (grammar (source.length + 2)) true s.asModule = .ok r := read
  obtain ⟨r', read'⟩ := programBody_followed alike
    (item_of_ended (e := e.asModule) rfl rfl rfl listable (by simp [Setting.asModule, e]; omega))
    (by simp [Setting.asModule, e]; omega) beside.asModule read
  have read' : program (grammar ((source ++ tail).length + 2)) true s' = .ok r' := read'
  exact ⟨r'.1, bind_eq_ok_iff.mpr ⟨s', started', bind_eq_ok_iff.mpr ⟨r', read', rfl⟩⟩⟩

end ExportList.Script
