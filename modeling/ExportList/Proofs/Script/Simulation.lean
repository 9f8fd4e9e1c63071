import ExportList.Proofs.Script.Lexing
import ExportList.Script.Module

/-!
A parser on a document and on the document with an export list behind it.  As long as the document
goes on, both runs do the same.  Where the document ends, the longer one goes on with the word
`export` on a new line, which no expression and no statement can go on with.
-/

set_option autoImplicit false

namespace ExportList.Script

/-- A document with an export list behind it: what follows the document, what follows the word
`export` in it, and the bounds on the number of tokens; and what the code at hand is. -/
structure Setting where
  tail : List Char
  after : List Char
  follows : Follows tail (exportWord ++ ' ' :: after)
  size : Nat
  longSize : Nat
  size_le : size ≤ longSize
  isModule : Bool
  inFunctionBody : Bool

/-- The state at the same place of the longer document. -/
def State.extended (s : State) (e : Setting) : State :=
  { s with scanner := s.scanner.followed e.tail, size := e.longSize }

/-- Whether a context is that of the code at hand. -/
def Context.Fits (c : Context) (e : Setting) : Prop :=
  c.isModule = e.isModule ∧ c.inFunctionBody = e.inFunctionBody

/-- Both runs are at the same place, and the document has not ended. -/
structure Live (e : Setting) (s s' : State) : Prop where
  notEnd : s.lookahead.isEnd = false
  closed : Sealed e.tail s.scanner.cursor.rest
  line : s.lookahead.line = s.scanner.cursor.line
  fits : s.context.Fits e
  size : s.size = e.size
  same : s' = s.extended e

/-- The document has ended, and the longer one goes on with its export list. -/
structure Ended (e : Setting) (s s' : State) : Prop where
  isEnd : s.lookahead.isEnd = true
  export' : s'.lookahead.lexeme = .keyword "export"
  isBroken : s'.hasLineBreak = true
  rest : s'.scanner.cursor.rest = ' ' :: e.after
  context : s'.context = s.context
  fits : s.context.Fits e
  size : s.size = e.size
  longSize : s'.size = e.longSize

/-- Where two runs are.  At the end of the document, a run is `stopped` as long as the last token
ends at the same place in both, and `past` it if a statement has been drawn to the end of the
document. -/
inductive Mode where
  | live
  | stopped
  | near
  | past

def Related (e : Setting) : Mode → State → State → Prop
  | .live, s, s' => Live e s s'
  | .stopped, s, s' => Ended e s s' ∧ s'.lastMarker = s.lastMarker
  | .near, s, s' => Live e s s' ∨ (Ended e s s' ∧ s'.lastMarker = s.lastMarker)
  | .past, s, s' => Ended e s s'

/-- How far two runs agree after a parser.  A `near` parser gives the same in both; a `loose` one
need not at the end of the document, where a statement reaches up to the end; an `inner` one is
always followed by something, and what it does at the end of the document does not matter. -/
inductive Exit where
  | near
  | loose
  | inner

variable {α β : Type}

/-- The longer run gives what the exit asks for. -/
def Matches (e : Setting) : Exit → α × State → Except Complaint (α × State) → Prop
  | .near, r, q => ∃ t, q = .ok (r.1, t) ∧ Related e .near r.2 t
  | .loose, r, q => (∃ t, q = .ok (r.1, t) ∧ Live e r.2 t) ∨ ∃ a t, q = .ok (a, t) ∧ Ended e r.2 t
  | .inner, r, q => r.2.lookahead.isEnd = false → ∃ t, q = .ok (r.1, t) ∧ Live e r.2 t

/-- Where the first parser gives a result, the second gives a matching one on the longer
document. -/
def Sim (e : Setting) (m : Mode) (x : Exit) (p p' : Parse α) : Prop :=
  ∀ ⦃s s' : State⦄, Related e m s s' → ∀ ⦃r : α × State⦄, p s = .ok r → Matches e x r (p' s')

/-- A parser that needs a token. -/
def Fails (p : Parse α) : Prop := ∀ s : State, s.lookahead.isEnd = true → ∀ r, p s ≠ .ok r

/-- A parser that does not leave the end of the document. -/
def Stays (p : Parse α) : Prop :=
  ∀ s : State, s.lookahead.isEnd = true → ∀ r, p s = .ok r → r.2.lookahead.isEnd = true

def Never (p : Parse α) : Prop := ∀ s r, p s ≠ .ok r

/-- A parser that needs a token, and does the same on the longer document. -/
structure Reads (e : Setting) (x : Exit) (p p' : Parse α) : Prop where
  fails : Fails p
  live : Sim e .live x p p'

/-- The modes in which the last token ends at the same place. -/
class Mode.Close (m : Mode) : Prop where
  near : ∀ {e : Setting} {s s' : State}, Related e m s s' → Related e .near s s'

instance : Mode.Close .live := ⟨.inl⟩

instance : Mode.Close .stopped := ⟨.inr⟩

instance : Mode.Close .near := ⟨id⟩

/-- The modes in which the document has ended. -/
class Mode.Over (m : Mode) : Prop where
  past : ∀ {e : Setting} {s s' : State}, Related e m s s' → Ended e s s'

instance : Mode.Over .stopped := ⟨And.left⟩

instance : Mode.Over .past := ⟨id⟩

variable {e : Setting} {m : Mode} {x y : Exit} {p p' : Parse α} {k k' : α → Parse β}
  {s s' t t' : State}

theorem Related.live_or_ended (h : Related e m s s') :
    (Live e s s' ∧ ∀ {t t'}, Live e t t' → Related e m t t') ∨ Ended e s s' := by
  cases m with
  | live => exact .inl ⟨h, id⟩
  | stopped => exact .inr h.1
  | near => exact h.imp (⟨·, .inl⟩) And.left
  | past => exact .inr h

theorem Related.context_eq (h : Related e m s s') : s'.context = s.context ∧ s.context.Fits e := by
  rcases h.live_or_ended with ⟨live, _⟩ | ended
  · rw [live.same]
    exact ⟨rfl, live.fits⟩
  · exact ⟨ended.context, ended.fits⟩

theorem Related.size_eq (h : Related e m s s') : s.size = e.size ∧ s'.size = e.longSize := by
  rcases h.live_or_ended with ⟨live, _⟩ | ended
  · rw [live.same]
    exact ⟨live.size, rfl⟩
  · exact ⟨ended.size, ended.longSize⟩

/-- The same document, for code inside a function or not. -/
def Setting.inside (e : Setting) (inFunctionBody : Bool) : Setting :=
  { e with inFunctionBody := inFunctionBody }

section ChangedContext

variable {c : Context} {inFunctionBody : Bool}

theorem Live.withContext (h : Live e s s') (fits : c.Fits (e.inside inFunctionBody)) :
    Live (e.inside inFunctionBody) { s with context := c } { s' with context := c } where
  notEnd := h.notEnd
  closed := h.closed
  line := h.line
  fits := fits
  size := h.size
  same := by rw [h.same]; rfl

theorem Ended.withContext (h : Ended e s s') (fits : c.Fits (e.inside inFunctionBody)) :
    Ended (e.inside inFunctionBody) { s with context := c } { s' with context := c } :=
  { h with context := rfl, fits := fits }

theorem Related.withContext (h : Related e m s s') (fits : c.Fits (e.inside inFunctionBody)) :
    Related (e.inside inFunctionBody) m { s with context := c } { s' with context := c } := by
  cases m with
  | live => exact Live.withContext h fits
  | stopped => exact ⟨h.1.withContext fits, h.2⟩
  | near => exact h.imp (·.withContext fits) fun ⟨ended, last⟩ => ⟨ended.withContext fits, last⟩
  | past => exact Ended.withContext h fits

end ChangedContext

theorem bind_ok {p : Parse α} {k : α → Parse β} {s : State} {r : β × State} :
    (p >>= k) s = .ok r ↔ ∃ q, p s = .ok q ∧ k q.1 q.2 = .ok r :=
  bind_eq_ok_iff

theorem bind_run {p : Parse α} (k : α → Parse β) {a : α} (h : p s = .ok (a, t)) :
    (p >>= k) s = k a t := by
  change (p s >>= fun q => k q.1 q.2) = k a t
  rw [h]
  rfl

theorem Matches.loose {r : α × State} {q : Except Complaint (α × State)} (h : Matches e .near r q) :
    Matches e .loose r q := by
  obtain ⟨t, ok, live | ⟨ended, _⟩⟩ := h
  · exact .inl ⟨t, ok, live⟩
  · exact .inr ⟨_, t, ok, ended⟩

theorem Matches.inner {r : α × State} {q : Except Complaint (α × State)} (h : Matches e x r q) :
    Matches e .inner r q := by
  intro notEnd
  have live : ∀ {t}, Ended e r.2 t → False := fun ended => by
    have isEnd := ended.isEnd
    rw [notEnd] at isEnd
    cases isEnd
  cases x with
  | near =>
    obtain ⟨t, ok, going | ⟨ended, _⟩⟩ := h
    · exact ⟨t, ok, going⟩
    · exact (live ended).elim
  | loose =>
    obtain ⟨t, ok, going⟩ | ⟨_, _, _, ended⟩ := h
    · exact ⟨t, ok, going⟩
    · exact (live ended).elim
  | inner => exact h notEnd

theorem Matches.of_near {a : α} (h : Related e .near s t) : Matches e x (a, s) (.ok (a, t)) := by
  have near : Matches e .near (a, s) (.ok (a, t)) := ⟨t, rfl, h⟩
  cases x with
  | near => exact near
  | loose => exact near.loose
  | inner => exact near.inner

theorem Sim.loose (h : Sim e m .near p p') : Sim e m .loose p p' :=
  fun _ _ related _ ok => (h related ok).loose

theorem Sim.inner (h : Sim e m x p p') : Sim e m .inner p p' :=
  fun _ _ related _ ok => (h related ok).inner

theorem Sim.live (h : Sim e .near x p p') : Sim e .live x p p' := fun _ _ live => h (.inl live)

theorem Sim.stopped (h : Sim e .near x p p') : Sim e .stopped x p p' :=
  fun _ _ stopped => h (.inr stopped)

theorem Sim.near (live : Sim e .live x p p') (stopped : Sim e .stopped x p p') :
    Sim e .near x p p' :=
  fun _ _ related => related.elim (fun h => live h) fun h => stopped h

theorem Sim.of_modes (live : Sim e .live x p p') (past : Sim e .past x p p') : Sim e m x p p' := by
  intro s s' related
  rcases related.live_or_ended with ⟨going, _⟩ | ended
  · exact live going
  · exact past ended

/-- At the end of the document a parser that stays there has done enough. -/
theorem Sim.of_stays [m.Over] (h : Stays p) : Sim e m .inner p p' := by
  intro s s' related r ok notEnd
  have isEnd := h s (Mode.Over.past related).isEnd r ok
  rw [notEnd] at isEnd
  cases isEnd

theorem Sim.of_never (h : Never p) : Sim e m x p p' := fun s _ _ r ok => (h s r ok).elim

theorem Sim.of_fails [m.Over] (h : Fails p) : Sim e m x p p' :=
  fun s _ related r ok => (h s (Mode.Over.past related).isEnd r ok).elim

theorem Reads.sim (h : Reads e x p p') : Sim e m x p p' := by
  intro s s' related r ok
  rcases related.live_or_ended with ⟨live, _⟩ | ended
  · exact h.live live ok
  · exact (h.fails s ended.isEnd r ok).elim

theorem Reads.loose (h : Reads e .near p p') : Reads e .loose p p' := ⟨h.fails, h.live.loose⟩

theorem Reads.of_never (h : Never p) : Reads e x p p' := ⟨fun s _ => h s, .of_never h⟩

theorem Never.fails (h : Never p) : Fails p := fun s _ => h s

theorem Fails.stays (h : Fails p) : Stays p := fun s isEnd r ok => (h s isEnd r ok).elim

theorem Never.bind (h : Never p) : Never (p >>= k) := by
  intro s r ok
  obtain ⟨q, read, _⟩ := bind_ok.mp ok
  exact h s q read

theorem Never.bind_right (h : ∀ a, Never (k a)) : Never (p >>= k) := by
  intro s r ok
  obtain ⟨q, _, rest⟩ := bind_ok.mp ok
  exact h q.1 q.2 r rest

theorem Fails.bind (h : Fails p) : Fails (p >>= k) := by
  intro s isEnd r ok
  obtain ⟨q, read, _⟩ := bind_ok.mp ok
  exact h s isEnd q read

theorem Stays.bind (hp : Stays p) (hk : ∀ a, Stays (k a)) : Stays (p >>= k) := by
  intro s isEnd r ok
  obtain ⟨q, read, rest⟩ := bind_ok.mp ok
  exact hk q.1 q.2 (hp s isEnd q read) r rest

theorem Stays.fails (hp : Stays p) (hk : ∀ a, Fails (k a)) : Fails (p >>= k) := by
  intro s isEnd r ok
  obtain ⟨q, read, rest⟩ := bind_ok.mp ok
  exact hk q.1 q.2 (hp s isEnd q read) r rest

theorem never_refuseToken {t : Token} {fault : Fault} : Never (refuseToken t fault : Parse α) :=
  fun _ _ ok => by simp [refuseToken] at ok

theorem never_refuse {fault : Fault} : Never (refuse fault : Parse α) :=
  fun _ _ ok => by simp [refuse] at ok

theorem never_refuseOnLine {fault : Fault} : Never (refuseOnLine fault : Parse α) :=
  fun _ _ ok => by simp [refuseOnLine] at ok

theorem never_unexpected {t : Token} : Never (unexpected t : Parse α) :=
  .bind_right fun _ => never_refuseToken

theorem never_giveUp : Never (giveUp : Parse α) := .bind_right fun _ => never_unexpected

theorem Sim.bind (hp : Sim e m .near p p') (hk : ∀ a, Sim e .near x (k a) (k' a)) :
    Sim e m x (p >>= k) (p' >>= k') := by
  intro s s' related r ok
  obtain ⟨⟨a, t⟩, read, rest⟩ := bind_ok.mp ok
  obtain ⟨t', read', related'⟩ := hp related read
  rw [bind_run k' read']
  exact hk a related' rest

theorem Sim.read (hp : Reads e .near p p') (hk : ∀ a, Sim e .near x (k a) (k' a)) :
    Sim e m x (p >>= k) (p' >>= k') := hp.sim.bind hk

/-- What comes after a statement, at the end of the document or before it. -/
theorem Sim.split (hp : Sim e m .loose p p') (live : ∀ a, Sim e .live x (k a) (k' a))
    (past : ∀ a a', Sim e .past x (k a) (k' a')) : Sim e m x (p >>= k) (p' >>= k') := by
  intro s s' related r ok
  obtain ⟨⟨a, t⟩, read, rest⟩ := bind_ok.mp ok
  obtain ⟨t', read', going⟩ | ⟨a', t', read', ended⟩ := hp related read
  · rw [bind_run k' read']
    exact live a going rest
  · rw [bind_run k' read']
    exact past a a' ended rest

/-- Once the document has ended, it has ended after a parser that stays there as well. -/
theorem Sim.remain [m.Over] (hp : Sim e m .loose p p') (stays : Stays p)
    (h : ∀ a a', Sim e .past x (k a) (k' a')) : Sim e m x (p >>= k) (p' >>= k') := by
  intro s s' related r ok
  obtain ⟨⟨a, t⟩, read, rest⟩ := bind_ok.mp ok
  have isEnd := stays s (Mode.Over.past related).isEnd _ read
  obtain ⟨t', read', going⟩ | ⟨a', t', read', ended⟩ := hp related read
  · exact (Bool.false_ne_true (going.notEnd.symm.trans isEnd)).elim
  · rw [bind_run k' read']
    exact h a a' ended rest

/-- What a parser does at the end of the document does not matter if the next one needs a token. -/
theorem Sim.then (hp : Sim e m y p p') (hk : ∀ a, Reads e x (k a) (k' a)) :
    Sim e m x (p >>= k) (p' >>= k') := by
  intro s s' related r ok
  obtain ⟨⟨a, t⟩, read, rest⟩ := bind_ok.mp ok
  have notEnd : t.lookahead.isEnd = false := by
    cases isEnd : t.lookahead.isEnd with
    | false => rfl
    | true => exact ((hk a).fails t isEnd r rest).elim
  obtain ⟨t', read', live⟩ := (hp related read).inner notEnd
  rw [bind_run k' read']
  exact (hk a).live live rest

theorem Sim.within (hp : Sim e m y p p') (stays : ∀ a, Stays (k a))
    (hk : ∀ a, Sim e .live .inner (k a) (k' a)) : Sim e m .inner (p >>= k) (p' >>= k') := by
  intro s s' related r ok notEnd
  obtain ⟨⟨a, t⟩, read, rest⟩ := bind_ok.mp ok
  have notEnd' : t.lookahead.isEnd = false := by
    cases isEnd : t.lookahead.isEnd with
    | false => rfl
    | true =>
      have isEnd := stays a t isEnd r rest
      rw [notEnd] at isEnd
      cases isEnd
  obtain ⟨t', read', live⟩ := (hp related read).inner notEnd'
  rw [bind_run k' read']
  exact hk a live rest notEnd

theorem Reads.bind (hp : Reads e .near p p') (hk : ∀ a, Sim e .near x (k a) (k' a)) :
    Reads e x (p >>= k) (p' >>= k') := ⟨hp.fails.bind, hp.live.bind hk⟩

theorem Reads.then (hp : Reads e y p p') (hk : ∀ a, Reads e x (k a) (k' a)) :
    Reads e x (p >>= k) (p' >>= k') := ⟨hp.fails.bind, hp.live.then hk⟩

theorem Sim.pure [near : m.Close] (a : α) : Sim e m x (pure a : Parse α) (pure a) := by
  intro s s' related r ok
  cases ok
  exact .of_near (near.near related)

theorem Sim.pure_past [m.Over] (a a' : α) :
    Sim e m .loose (Pure.pure a : Parse α) (Pure.pure a') := by
  intro s s' related r ok
  cases ok
  exact .inr ⟨a', s', rfl, Mode.Over.past related⟩

theorem Stays.pure (a : α) : Stays (pure a : Parse α) := by
  intro s isEnd r ok
  cases ok
  exact isEnd

theorem Sim.map (f : α → β) (h : Reads e .near p p') : Sim e m x (f <$> p) (f <$> p') := by
  rw [map_eq_pure_bind, map_eq_pure_bind]
  exact .read h fun a => .pure (f a)

section Choices

variable {c : Prop} [Decidable c] {q q' : Parse α}

theorem Sim.ite (yes : c → Sim e m x p p') (no : ¬c → Sim e m x q q') :
    Sim e m x (if c then p else q) (if c then p' else q') := by
  split
  · exact yes ‹_›
  · exact no ‹_›

theorem Reads.ite (yes : c → Reads e x p p') (no : ¬c → Reads e x q q') :
    Reads e x (if c then p else q) (if c then p' else q') := by
  split
  · exact yes ‹_›
  · exact no ‹_›

theorem Fails.ite (yes : c → Fails p) (no : ¬c → Fails q) : Fails (if c then p else q) := by
  split
  · exact yes ‹_›
  · exact no ‹_›

theorem Stays.ite (yes : c → Stays p) (no : ¬c → Stays q) : Stays (if c then p else q) := by
  split
  · exact yes ‹_›
  · exact no ‹_›

end Choices

section Surroundings

variable {j j' : Context → Parse β} {i i' : Unit → Parse β} {f : Context → Context}

theorem Sim.context (h : ∀ c : Context, c.Fits e → Sim e m x (j c) (j' c)) :
    Sim e m x (context >>= j) (context >>= j') := by
  intro s s' related r ok
  obtain ⟨same, fits⟩ := related.context_eq
  change Matches e x r (j' s'.context s')
  rw [same]
  exact h s.context fits related ok

theorem Fails.context (h : ∀ c : Context, Fails (j c)) : Fails (context >>= j) :=
  fun s isEnd r ok => h s.context s isEnd r ok

theorem Reads.context (h : ∀ c : Context, Reads e x (j c) (j' c)) :
    Reads e x (context >>= j) (context >>= j') :=
  ⟨.context fun c => (h c).fails, .context fun c _ => (h c).live⟩

theorem Stays.context (h : ∀ c : Context, Stays (j c)) : Stays (context >>= j) :=
  fun s isEnd r ok => h s.context s isEnd r ok

/-- A change to the context keeps what the code at hand is. -/
def Keeps (f : Context → Context) : Prop :=
  ∀ c, (f c).isModule = c.isModule ∧ (f c).inFunctionBody = c.inFunctionBody

theorem Keeps.fits (h : Keeps f) {c : Context} (fits : c.Fits e) : (f c).Fits e :=
  ⟨(h c).1.trans fits.1, (h c).2.trans fits.2⟩

theorem Sim.modifyContext (keeps : Keeps f) (h : Sim e m x (i ()) (i' ())) :
    Sim e m x (modifyContext f >>= i) (modifyContext f >>= i') := by
  intro s s' related r ok
  obtain ⟨same, fits⟩ := related.context_eq
  have next : Related e m { s with context := f s.context } { s' with context := f s.context } :=
    related.withContext (keeps.fits fits)
  change Matches e x r (i' () { s' with context := f s'.context })
  rw [same]
  exact h next ok

theorem Fails.modifyContext (h : Fails (i ())) : Fails (modifyContext f >>= i) :=
  fun s isEnd r ok => h { s with context := f s.context } isEnd r ok

theorem Reads.modifyContext (keeps : Keeps f) (h : Reads e x (i ()) (i' ())) :
    Reads e x (modifyContext f >>= i) (modifyContext f >>= i') :=
  ⟨.modifyContext h.fails, .modifyContext keeps h.live⟩

theorem Stays.modifyContext (h : Stays (i ())) : Stays (modifyContext f >>= i) :=
  fun s isEnd r ok => h { s with context := f s.context } isEnd r ok

theorem Sim.markUnassignable (h : Sim e m x (i ()) (i' ())) :
    Sim e m x (markUnassignable >>= i) (markUnassignable >>= i') :=
  .modifyContext (fun _ => ⟨rfl, rfl⟩) h

theorem Reads.markUnassignable (h : Reads e x (i ()) (i' ())) :
    Reads e x (markUnassignable >>= i) (markUnassignable >>= i') :=
  .modifyContext (fun _ => ⟨rfl, rfl⟩) h

end Surroundings

section Places

variable {j j' : Marker → Parse β} {n n' : Nat → Parse β} {start start' : Marker} {tag tag' : Text}
  {fields fields' : Fields}

theorem Sim.mark (h : ∀ a, Sim e .live x (j a) (j' a)) :
    Sim e .live x (mark >>= j) (mark >>= j') := by
  intro s s' related r ok
  have same : s'.startMarker = s.startMarker := by
    rw [related.same]
    rfl
  change Matches e x r (j' s'.startMarker s')
  rw [same]
  exact h s.startMarker related ok

theorem Reads.mark (h : ∀ a, Reads e x (j a) (j' a)) : Reads e x (mark >>= j) (mark >>= j') :=
  ⟨fun s isEnd r ok => (h s.startMarker).fails s isEnd r ok, .mark fun a => (h a).live⟩

theorem Sim.tokenBound (h : Sim e m x (n e.size) (n' e.longSize)) :
    Sim e m x (tokenBound >>= n) (tokenBound >>= n') := by
  intro s s' related r ok
  obtain ⟨size, size'⟩ := related.size_eq
  change Matches e x r (n' s'.size s')
  rw [size']
  refine h related ?_
  rw [← size]
  exact ok

theorem Related.lastMarker_eq (h : Related e .near s s') : s'.lastMarker = s.lastMarker := by
  rcases h with live | ⟨_, last⟩
  · rw [live.same]
    rfl
  · exact last

theorem Sim.finish [near : m.Close] :
    Sim e m x (finish start tag fields) (finish start tag fields) := by
  intro s s' related r ok
  have related := near.near related
  cases ok
  change Matches e x _ (.ok (node tag fields start s'.lastMarker, s'))
  rw [related.lastMarker_eq]
  exact .of_near related

theorem Sim.finish_past [m.Over] :
    Sim e m .loose (Script.finish start tag fields) (Script.finish start' tag' fields') := by
  intro s s' related r ok
  cases ok
  exact .inr ⟨_, s', rfl, Mode.Over.past related⟩

theorem Stays.finish : Stays (finish start tag fields) := by
  intro s isEnd r ok
  cases ok
  exact isEnd

end Places

/-- A parser that only gives something. -/
def Still (p : Parse α) : Prop := ∀ s, ∃ a, p s = .ok (a, s)

theorem still_finish (start : Marker) (tag : Text) (fields : Fields) :
    Still (finish start tag fields) :=
  fun _ => ⟨_, rfl⟩

theorem Sim.still [m.Over] (hp : Still p) (hp' : Still p')
    (h : ∀ a a', Sim e m x (k a) (k' a')) : Sim e m x (p >>= k) (p' >>= k') := by
  intro s s' related r ok
  obtain ⟨a, read⟩ := hp s
  obtain ⟨a', read'⟩ := hp' s'
  rw [bind_run k read] at ok
  rw [bind_run k' read']
  exact h a a' related ok

theorem Still.bind (hp : Still p) (hk : ∀ a, Still (k a)) : Still (p >>= k) := by
  intro s
  obtain ⟨a, read⟩ := hp s
  rw [bind_run k read]
  exact hk a s

theorem Still.pure (a : α) : Still (pure a : Parse α) := fun _ => ⟨a, rfl⟩

/-- What only gives something does not consume the next token. -/
theorem Sim.bind_still (hp : Sim e .live .near p p') (still : Still p)
    (hk : ∀ a, Sim e .live x (k a) (k' a)) : Sim e .live x (p >>= k) (p' >>= k') := by
  intro s s' live r ok
  obtain ⟨a, read⟩ := still s
  obtain ⟨t', read', live'⟩ := (hp live read).inner live.notEnd
  rw [bind_run k read] at ok
  rw [bind_run k' read']
  exact hk a live' ok

section Tokens

variable {j j' : Token → Parse β} {b b' : Bool → Parse β} {i i' : Unit → Parse β}

theorem isEnd_reserveInStrict (strict : Bool) (t : Token) :
    (reserveInStrict strict t).isEnd = t.isEnd := by
  unfold reserveInStrict
  split
  · rename_i name same
    split
    · simp [Token.isEnd, same]
    · rfl
  · rfl

theorem line_reserveInStrict (strict : Bool) (t : Token) :
    (reserveInStrict strict t).line = t.line := by
  unfold reserveInStrict
  split
  · split
    · rfl
    · rfl
  · rfl

theorem reserveInStrict_keyword {strict : Bool} {t : Token} {word : Text}
    (h : t.lexeme = .keyword word) : reserveInStrict strict t = t := by
  unfold reserveInStrict
  rw [h]

theorem advance_extended (closed : Sealed e.tail s.scanner.cursor.rest)
    (sameLine : s.lookahead.line = s.scanner.cursor.line) (fits : s.context.Fits e)
    (size : s.size = e.size) {token : Token} (ok : advance s = .ok (token, t)) :
    token = s.lookahead ∧
      ∃ t', advance (s.extended e) = .ok (token, t') ∧ Related e .near t t' := by
  obtain ⟨skipped, skip, rest⟩ := bind_eq_ok_iff.mp ok
  obtain ⟨⟨next, scanner⟩, lex, rest⟩ := bind_eq_ok_iff.mp rest
  cases rest
  refine ⟨rfl, ?_⟩
  rcases Scanner.next_followed e.follows closed skip lex with
    ⟨notEnd, line, closed, skip', lex'⟩ |
    ⟨isEnd, skipped', next', scanner', skip', lex', word, below, rest, _⟩
  · refine ⟨_, bind_eq_ok_iff.mpr ⟨_, skip', bind_eq_ok_iff.mpr ⟨_, lex', rfl⟩⟩, .inl ?_⟩
    exact
      { notEnd := (isEnd_reserveInStrict _ _).trans notEnd
        closed := closed
        line := (line_reserveInStrict _ _).trans line
        fits := fits
        size := size
        same := rfl }
  · refine ⟨_, bind_eq_ok_iff.mpr ⟨_, skip', bind_eq_ok_iff.mpr ⟨_, lex', rfl⟩⟩, .inr ⟨?_, rfl⟩⟩
    -- The document ends here, and the longer one goes on with the export on a new line.
    have plain : reserveInStrict s.context.strict next' = next' := reserveInStrict_keyword word
    exact
      { isEnd := (isEnd_reserveInStrict _ _).trans isEnd
        export' := by simpa [State.extended, plain] using word
        isBroken := by
          have apart : s.lookahead.line ≠ next'.line := by
            rw [sameLine]
            omega
          exact decide_eq_true apart
        rest := rest
        context := rfl
        fits := fits
        size := size
        longSize := rfl }

/-- The token before the end of the document is the last that both runs consume. -/
theorem advance_live (live : Live e s s') {token : Token} (ok : advance s = .ok (token, t)) :
    token = s.lookahead ∧ ∃ t', advance s' = .ok (token, t') ∧ Related e .near t t' := by
  rw [live.same]
  exact advance_extended live.closed live.line live.fits live.size ok

theorem Sim.advance (h : ∀ t : Token, t.isEnd = false → Sim e .near x (j t) (j' t)) :
    Sim e .live x (advance >>= j) (advance >>= j') := by
  intro s s' live r ok
  obtain ⟨⟨token, t⟩, read, rest⟩ := bind_ok.mp ok
  obtain ⟨same, t', read', near⟩ := advance_live live read
  rw [bind_run j' read']
  exact h token (by rw [same]; exact live.notEnd) near rest

theorem Reads.advance (never : ∀ t : Token, t.isEnd = true → Never (j t))
    (h : ∀ t : Token, t.isEnd = false → Sim e .near x (j t) (j' t)) :
    Reads e x (advance >>= j) (advance >>= j') := by
  refine ⟨fun s isEnd r ok => ?_, .advance h⟩
  obtain ⟨⟨token, t⟩, read, rest⟩ := bind_ok.mp ok
  obtain ⟨skipped, skip, done⟩ := bind_eq_ok_iff.mp read
  obtain ⟨⟨next, scanner⟩, lex, done⟩ := bind_eq_ok_iff.mp done
  cases done
  exact never s.lookahead isEnd _ r rest

theorem Sim.look (h : ∀ t : Token, t.isEnd = false → Sim e .live x (j t) (j' t)) :
    Sim e .live x (look >>= j) (look >>= j') := by
  intro s s' live r ok
  have same : s'.lookahead = s.lookahead := by
    rw [live.same]
    rfl
  change Matches e x r (j' s'.lookahead s')
  rw [same]
  exact h s.lookahead live.notEnd live ok

theorem Sim.look_over [m.Over] (h : ∀ t t' : Token, t.isEnd = true →
    t'.lexeme = .keyword "export" → Sim e m x (j t) (j' t')) :
    Sim e m x (Script.look >>= j) (Script.look >>= j') := by
  intro s s' related r ok
  have ended := Mode.Over.past related
  exact h s.lookahead s'.lookahead ended.isEnd ended.export' related ok

theorem Fails.look (h : ∀ t : Token, t.isEnd = true → Fails (j t)) : Fails (look >>= j) :=
  fun s isEnd r ok => h s.lookahead isEnd s isEnd r ok

theorem Reads.look (fails : ∀ t : Token, t.isEnd = true → Fails (j t))
    (h : ∀ t : Token, t.isEnd = false → Sim e .live x (j t) (j' t)) :
    Reads e x (look >>= j) (look >>= j') :=
  ⟨.look fails, .look h⟩

/-- Looking at a token that a parser then needs. -/
theorem Sim.look_read {k k' : Token → α → Parse β} (hp : Reads e .near p p')
    (hk : ∀ t a, Sim e .near x (k t a) (k' t a)) :
    Sim e .near x (Script.look >>= fun t => p >>= k t) (Script.look >>= fun t => p' >>= k' t) :=
  .near (.look fun t _ => .read hp (hk t)) (.look_over fun _ _ _ _ => .of_fails hp.fails.bind)

theorem Reads.look_read {k k' : Token → α → Parse β} (hp : Reads e .near p p')
    (hk : ∀ t a, Sim e .near x (k t a) (k' t a)) :
    Reads e x (Script.look >>= fun t => p >>= k t) (Script.look >>= fun t => p' >>= k' t) :=
  .look (fun _ _ => hp.fails.bind) fun t _ => .read hp (hk t)

theorem Reads.look_any (h : ∀ t, Reads e x (j t) (j' t)) :
    Reads e x (Script.look >>= j) (Script.look >>= j') :=
  .look (fun t _ => (h t).fails) fun t _ => (h t).live

theorem Stays.look (h : ∀ t : Token, t.isEnd = true → Stays (j t)) : Stays (look >>= j) :=
  fun s isEnd r ok => h s.lookahead isEnd s isEnd r ok

theorem Sim.sees {is : Token → Bool} (h : ∀ a, Sim e .live x (b a) (b' a)) :
    Sim e .live x (sees is >>= b) (sees is >>= b') :=
  .look fun t _ => h (is t)

theorem Reads.sees {is : Token → Bool} (h : ∀ a, Reads e x (b a) (b' a)) :
    Reads e x (sees is >>= b) (sees is >>= b') :=
  .look_any fun t => h (is t)

theorem Fails.sees {is : Token → Bool} (h : ∀ t : Token, t.isEnd = true → Fails (b (is t))) :
    Fails (sees is >>= b) :=
  .look h

theorem Stays.sees {is : Token → Bool} (h : ∀ a, Stays (b a)) : Stays (sees is >>= b) :=
  .look fun t _ => h (is t)

theorem Sim.atLineBreak (h : ∀ a, Sim e .live x (b a) (b' a)) :
    Sim e .live x (atLineBreak >>= b) (atLineBreak >>= b') := by
  intro s s' live r ok
  have same : s'.hasLineBreak = s.hasLineBreak := by
    rw [live.same]
    rfl
  change Matches e x r (b' s'.hasLineBreak s')
  rw [same]
  exact h s.hasLineBreak live ok

theorem Sim.atLineBreak_over [m.Over] (h : ∀ a, Sim e m x (b a) (b' true)) :
    Sim e m x (Script.atLineBreak >>= b) (Script.atLineBreak >>= b') := by
  intro s s' related r ok
  have ended := Mode.Over.past related
  change Matches e x r (b' s'.hasLineBreak s')
  rw [ended.isBroken]
  exact h s.hasLineBreak related ok

theorem Fails.atLineBreak (h : ∀ a, Fails (b a)) : Fails (atLineBreak >>= b) :=
  fun s isEnd r ok => h s.hasLineBreak s isEnd r ok

theorem Reads.atLineBreak (h : ∀ a, Reads e x (b a) (b' a)) :
    Reads e x (atLineBreak >>= b) (atLineBreak >>= b') :=
  ⟨.atLineBreak fun a => (h a).fails, .atLineBreak fun a => (h a).live⟩

theorem Stays.atLineBreak (h : ∀ a, Stays (b a)) : Stays (atLineBreak >>= b) :=
  fun s isEnd r ok => h s.hasLineBreak s isEnd r ok

/-- The token after the next is the same, or the document ends before it. -/
theorem lookSecond_live (live : Live e s s') {token : Token} (ok : lookSecond s = .ok (token, t)) :
    ∃ token' t', lookSecond s' = .ok (token', t') ∧ Live e t t' ∧
      (token' = token ∨ (token.isEnd = true ∧ token'.lexeme = .keyword "export")) := by
  obtain ⟨skipped, skip, done⟩ := bind_eq_ok_iff.mp ok
  obtain ⟨⟨next, scanner⟩, lex, done⟩ := bind_eq_ok_iff.mp done
  cases done
  -- Only the open braces change, and they do so in both runs alike.
  have going : ∀ braces, Live e
      { s with scanner := { s.scanner with braces := braces } }
      { s' with scanner := { s'.scanner with braces := braces } } := fun braces =>
    { notEnd := live.notEnd
      closed := live.closed
      line := live.line
      fits := live.fits
      size := live.size
      same := by rw [live.same]; rfl }
  have start : s'.scanner = s.scanner.followed e.tail := by
    rw [live.same]
    rfl
  have run : ∀ {skipped' scanner' : Scanner} {token' : Token},
      (s.scanner.followed e.tail).skip = .ok skipped' → skipped'.lex = .ok (token', scanner') →
      lookSecond s' = .ok (token', { s' with
        scanner := { s'.scanner with braces := scanner'.braces } }) := by
    intro skipped' scanner' token' skip' lex'
    unfold lookSecond
    rw [start]
    exact bind_eq_ok_iff.mpr ⟨_, skip', bind_eq_ok_iff.mpr ⟨_, lex', rfl⟩⟩
  rcases Scanner.next_followed e.follows live.closed skip lex with ⟨_, _, _, skip', lex'⟩ |
    ⟨isEnd, skipped', token', scanner', skip', lex', word, _, _, braces, braces'⟩
  · exact ⟨token, _, run skip' lex', going _, .inl rfl⟩
  · refine ⟨token', _, run skip' lex', ?_, .inr ⟨isEnd, word⟩⟩
    rw [braces', ← braces]
    exact going _

end Tokens

theorem slashCursor_extended : (s.extended e).slashCursor = s.slashCursor.followed e.tail := by
  simp only [State.slashCursor, State.extended, Scanner.followed, Cursor.followed,
    List.append_assoc]
  rfl

theorem peek_slashCursor : s.slashCursor.peek = '/' := by
  simp only [State.slashCursor, Cursor.peek]
  split
  · rfl
  · rfl

theorem Live.closed_slashCursor (live : Live e s s') : Sealed e.tail s.slashCursor.rest := by
  rcases live.closed with feed | last
  · exact .inl feed
  · refine .inr ?_
    simp only [State.slashCursor]
    rw [getLast?_append_of_ne_nil _ fun none => by simp [none] at last]
    exact last

/-- A regular expression ends before the document does. -/
theorem Sim.rereadPattern {i i' : Unit → Parse β} (h : Sim e .live x (i ()) (i' ())) :
    Sim e .live x (rereadPattern >>= i) (rereadPattern >>= i') := by
  intro s s' live r ok
  obtain ⟨⟨_, t⟩, read, rest⟩ := bind_ok.mp ok
  obtain ⟨⟨token, after⟩, scanned, done⟩ := bind_eq_ok_iff.mp read
  cases done
  have closed := live.closed_slashCursor
  obtain ⟨read', leads⟩ := scanPattern_carries closed peek_slashCursor scanned
  rw [← slashCursor_extended, ← live.same] at read'
  have run : Script.rereadPattern s' = .ok ((), { s' with
      scanner := { s'.scanner with cursor := after.followed e.tail }, lookahead := token }) :=
    bind_eq_ok_iff.mpr ⟨_, read', rfl⟩
  obtain ⟨notEnd, line⟩ := token_of_scanPattern scanned
  rw [bind_run i' run]
  refine h ?_ rest
  exact
    { notEnd := notEnd
      closed := leads.closed closed
      line := line
      fits := live.fits
      size := live.size
      same := by rw [live.same]; rfl }

/-- A question that neither the end of the document nor the word `export` answers with yes. -/
structure Dull (is : Token → Bool) : Prop where
  isEnd : ∀ t : Token, t.isEnd = true → is t = false
  export' : ∀ t : Token, t.lexeme = .keyword "export" → is t = false

theorem lexeme_of_isEnd {t : Token} (h : t.isEnd = true) : t.lexeme = .endOfInput := by
  unfold Token.isEnd at h
  split at h
  · assumption
  · cases h

theorem dull_mark (text : Text) : Dull fun t => t.isMark text where
  isEnd t h := by simp [Token.isMark, lexeme_of_isEnd h]
  export' t h := by simp [Token.isMark, h]

theorem dull_keyword {word : Text} (other : word ≠ "export") : Dull fun t => t.isKeyword word where
  isEnd t h := by simp [Token.isKeyword, lexeme_of_isEnd h]
  export' t h := by simpa [Token.isKeyword, h] using other.symm

theorem dull_word (word : Text) : Dull fun t => t.isWord word where
  isEnd t h := by simp [Token.isWord, lexeme_of_isEnd h]
  export' t h := by simp [Token.isWord, h]

theorem dull_identifier : Dull Token.isIdentifier where
  isEnd t h := by simp [Token.isIdentifier, lexeme_of_isEnd h]
  export' t h := by simp [Token.isIdentifier, h]

theorem dull_string : Dull Token.isString where
  isEnd t h := by simp [Token.isString, lexeme_of_isEnd h]
  export' t h := by simp [Token.isString, h]

theorem dull_template : Dull Token.isTemplate where
  isEnd t h := by simp [Token.isTemplate, lexeme_of_isEnd h]
  export' t h := by simp [Token.isTemplate, h]

theorem dull_templateHead : Dull Token.isTemplateHead where
  isEnd t h := by simp [Token.isTemplateHead, lexeme_of_isEnd h]
  export' t h := by simp [Token.isTemplateHead, h]

/-- A parser that asks a question about what comes next, the answer to which is no at the end of the
document. -/
def Quiet (c : Parse Bool) : Prop :=
  ∀ s : State, s.lookahead.isEnd = true →
    ∀ r, c s = .ok r → r.1 = false ∧ r.2.lookahead.isEnd = true

/-- A parser that asks a question about what comes next, with the same answer in the longer
document. -/
structure Probes (e : Setting) (c : Parse Bool) : Prop where
  ended : Quiet c
  sim : ∀ {m : Mode} {s s' : State}, Related e m s s' → ∀ {r}, c s = .ok r →
    ∃ t, c s' = .ok (r.1, t) ∧ Related e m r.2 t ∧ (r.1 = true → Live e r.2 t)

theorem Dull.quiet {is : Token → Bool} (h : Dull is) : Quiet (sees is) := by
  intro s isEnd r ok
  cases ok
  exact ⟨h.isEnd _ isEnd, isEnd⟩

theorem Dull.probes {is : Token → Bool} (h : Dull is) : Probes e (sees is) where
  ended := h.quiet
  sim {m s s'} related r ok := by
    cases ok
    refine ⟨s', ?_, related, fun yes => ?_⟩
    · change Except.ok (is s'.lookahead, s') = .ok (is s.lookahead, s')
      rcases related.live_or_ended with ⟨live, _⟩ | ended
      · rw [live.same]
        rfl
      · rw [h.export' _ ended.export', h.isEnd _ ended.isEnd]
    · rcases related.live_or_ended with ⟨live, _⟩ | ended
      · exact live
      · exact (Bool.false_ne_true ((h.isEnd _ ended.isEnd).symm.trans yes)).elim

/-- A question that is only asked before a token of some kind. -/
theorem Dull.probes_if {is : Token → Bool} (h : Dull is) {q : Parse Bool}
    (hq : ∀ {s s' : State}, Live e s s' →
      ∀ {r}, q s = .ok r → ∃ t, q s' = .ok (r.1, t) ∧ Live e r.2 t) :
    Probes e (sees is >>= fun a => if a = true then q else pure false) where
  ended s isEnd r ok := by
    have no : is s.lookahead = false := h.isEnd _ isEnd
    have ok : (if is s.lookahead = true then q else pure false) s = .ok r := ok
    rw [no] at ok
    cases ok
    exact ⟨rfl, isEnd⟩
  sim {m s s'} related r ok := by
    have run : (sees is >>= fun a => if a = true then q else pure false) s' =
        (if is s'.lookahead = true then q else pure false) s' := rfl
    have ok : (if is s.lookahead = true then q else pure false) s = .ok r := ok
    rw [run]
    rcases related.live_or_ended with ⟨live, going⟩ | ended
    · have same : s'.lookahead = s.lookahead := by
        rw [live.same]
        rfl
      rw [same]
      cases answer : is s.lookahead with
      | true =>
        rw [answer] at ok
        obtain ⟨t, read, live'⟩ := hq live ok
        exact ⟨t, read, going live', fun _ => live'⟩
      | false =>
        rw [answer] at ok
        cases ok
        exact ⟨s', rfl, related, nofun⟩
    · rw [h.export' _ ended.export']
      rw [h.isEnd _ ended.isEnd] at ok
      cases ok
      exact ⟨s', rfl, related, nofun⟩

theorem quiet_mark (text : Text) : Quiet (atMark text) := (dull_mark text).quiet

theorem probes_mark (text : Text) : Probes e (atMark text) := (dull_mark text).probes

theorem probes_keyword {word : Text} (other : word ≠ "export") : Probes e (atKeyword word) :=
  (dull_keyword other).probes

theorem probes_word (word : Text) : Probes e (atWord word) := (dull_word word).probes

section Questions

variable {c d : Parse Bool} {b b' : Bool → Parse β} {bb bb' : Bool → Bool → Parse β}

theorem Sim.probe (hc : Probes e c) (yes : Sim e .live x (b true) (b' true))
    (no : Sim e m x (b false) (b' false)) : Sim e m x (c >>= b) (c >>= b') := by
  intro s s' related r ok
  obtain ⟨⟨a, t⟩, read, rest⟩ := bind_ok.mp ok
  obtain ⟨t', read', related', live⟩ := hc.sim related read
  rw [bind_run b' read']
  cases a with
  | true => exact yes (live rfl) rest
  | false => exact no related' rest

theorem Sim.unseen [m.Over] (hc : Probes e c) (no : Sim e m x (b false) (b' false)) :
    Sim e m x (c >>= b) (c >>= b') := by
  intro s s' related r ok
  obtain ⟨⟨a, t⟩, read, rest⟩ := bind_ok.mp ok
  obtain ⟨t', read', related', _⟩ := hc.sim related read
  obtain ⟨rfl, _⟩ := hc.ended s (Mode.Over.past related).isEnd _ read
  rw [bind_run b' read']
  exact no related' rest

theorem Stays.probe (hc : Quiet c) (no : Stays (b false)) : Stays (c >>= b) := by
  intro s isEnd r ok
  obtain ⟨⟨a, t⟩, read, rest⟩ := bind_ok.mp ok
  obtain ⟨rfl, isEnd'⟩ := hc s isEnd _ read
  exact no t isEnd' r rest

theorem Fails.probe (hc : Quiet c) (no : Fails (b false)) : Fails (c >>= b) := by
  intro s isEnd r ok
  obtain ⟨⟨a, t⟩, read, rest⟩ := bind_ok.mp ok
  obtain ⟨rfl, isEnd'⟩ := hc s isEnd _ read
  exact no t isEnd' r rest

theorem Reads.probe (hc : Probes e c) (yes : Sim e .live x (b true) (b' true))
    (no : Reads e x (b false) (b' false)) : Reads e x (c >>= b) (c >>= b') :=
  ⟨.probe hc.ended no.fails, .probe hc yes no.live⟩

section Branches

variable {q q' : Parse α}

theorem Sim.choose (hc : Probes e c) (yes : Sim e .live x p p') (no : Sim e m x q q') :
    Sim e m x (c >>= fun a => if a = true then p else q)
      (c >>= fun a => if a = true then p' else q') :=
  .probe hc yes no

theorem Reads.choose (hc : Probes e c) (yes : Sim e .live x p p') (no : Reads e x q q') :
    Reads e x (c >>= fun a => if a = true then p else q)
      (c >>= fun a => if a = true then p' else q') :=
  .probe hc yes no

theorem Fails.choose (hc : Quiet c) (no : Fails q) :
    Fails (c >>= fun a => if a = true then p else q) :=
  .probe hc no

theorem Stays.choose (hc : Quiet c) (no : Stays q) :
    Stays (c >>= fun a => if a = true then p else q) :=
  .probe hc no

end Branches

theorem Sim.either (hc : Probes e c) (hd : Probes e d)
    (yes : ∀ a₁ a₂, (a₁ || a₂) = true → Sim e .live x (bb a₁ a₂) (bb' a₁ a₂))
    (no : Sim e m x (bb false false) (bb' false false)) :
    Sim e m x (c >>= fun a₁ => d >>= fun a₂ => bb a₁ a₂)
      (c >>= fun a₁ => d >>= fun a₂ => bb' a₁ a₂) :=
  .probe hc (.probe hd (yes true true rfl) (yes true false rfl)) (.probe hd (yes false true rfl) no)

theorem Reads.either (hc : Probes e c) (hd : Probes e d)
    (yes : ∀ a₁ a₂, (a₁ || a₂) = true → Sim e .live x (bb a₁ a₂) (bb' a₁ a₂))
    (no : Reads e x (bb false false) (bb' false false)) :
    Reads e x (c >>= fun a₁ => d >>= fun a₂ => bb a₁ a₂)
      (c >>= fun a₁ => d >>= fun a₂ => bb' a₁ a₂) :=
  .probe hc (.probe hd (yes true true rfl) (yes true false rfl)) (.probe hd (yes false true rfl) no)

end Questions

theorem expect_reads (text : Text) : Reads e .near (expect text) (expect text) := by
  refine .advance (fun t isEnd => ?_) fun t _ => .ite (fun _ => .pure ()) fun _ =>
    .of_never never_unexpected
  have other : t.isMark text = false := (dull_mark text).isEnd t isEnd
  simp only [other, Bool.false_eq_true, if_false]
  exact never_unexpected

theorem expectKeyword_reads (word : Text) :
    Reads e .near (expectKeyword word) (expectKeyword word) := by
  refine .advance (fun t isEnd => ?_) fun t _ => .ite (fun _ => .pure ()) fun _ =>
    .of_never never_unexpected
  have other : t.isKeyword word = false := by simp [Token.isKeyword, lexeme_of_isEnd isEnd]
  simp only [other, Bool.false_eq_true, if_false]
  exact never_unexpected

/-- A statement that the end of the document ends reaches up to it; in the longer document the new
line ends the statement. -/
theorem endStatement_sim : Sim e m .loose endStatement endStatement := by
  have draw : Sim e .live .loose
      (modify fun s => { s with lastMarker := s.startMarker } : Parse Unit)
      (modify fun s => { s with lastMarker := s.startMarker }) := by
    intro s s' live r ok
    cases ok
    refine .inl ⟨{ s' with lastMarker := s'.startMarker }, rfl, ?_⟩
    exact { live with same := by rw [live.same]; rfl }
  refine .of_modes (.probe (probes_mark _) (.advance fun _ _ => .pure ())
    (.atLineBreak fun isBroken => ?_))
    (.unseen (probes_mark _) (.atLineBreak_over fun isBroken => ?_))
  · refine .ite (fun _ => .look fun t _ => ?_) fun _ => .pure ()
    exact .ite (fun _ => .of_never never_unexpected) fun _ => draw
  · intro s s' ended r ok
    -- Past the document, the line break before the export ends the statement.
    refine .inr ⟨(), s', rfl, ?_⟩
    cases isBroken with
    | true =>
      cases ok
      exact ended
    | false =>
      have isEnd : s.lookahead.isEnd = true := ended.isEnd
      change (if (!s.lookahead.isEnd && !s.lookahead.isMark closeBrace) = true then
        unexpected s.lookahead else
          modify fun s => { s with lastMarker := s.startMarker }) s = .ok r at ok
      simp only [isEnd, Bool.not_true, Bool.false_and, Bool.false_eq_true, if_false] at ok
      cases ok
      exact { ended with }

theorem Sim.settle {k : α → Parse α} (h : Sim e m x p p')
    (near : ∀ a, Sim e .near .near (k a) (k a)) (past : ∀ a a', Sim e .past .loose (k a) (k a'))
    (stays : ∀ a, Stays (k a)) : Sim e m x (p >>= k) (p' >>= k) := by
  cases x with
  | near => exact h.bind near
  | loose => exact h.split (fun a => (near a).live.loose) past
  | inner => exact h.within stays fun a => (near a).live.inner

section Wrappers

variable {f : Context → Context} {f' : Context → Context → Context}

/-- A parser between two changes to the context. -/
theorem Sim.surrounded (keeps : Keeps f) (keeps' : ∀ c, Keeps (f' c)) (h : Sim e m x p p') :
    Sim e m x
      (Script.context >>= fun c => Script.modifyContext f >>= fun _ => p >>= fun a =>
        Script.modifyContext (f' c) >>= fun _ => Pure.pure a)
      (Script.context >>= fun c => Script.modifyContext f >>= fun _ => p' >>= fun a =>
        Script.modifyContext (f' c) >>= fun _ => Pure.pure a) :=
  .context fun c _ => .modifyContext keeps <| h.settle
    (fun a => .modifyContext (keeps' c) (.pure a))
    (fun a a' => .modifyContext (keeps' c) (.pure_past a a'))
    fun a => .modifyContext (.pure a)

theorem Fails.surrounded {k : Context → α → Parse β} (h : Fails p) :
    Fails (Script.context >>= fun c => Script.modifyContext f >>= fun _ => p >>= k c) := by
  intro s isEnd r ok
  exact h.bind { s with context := f s.context } isEnd r ok

end Wrappers

theorem inherit_sim (h : Sim e m x p p') : Sim e m x (inherit p) (inherit p') :=
  .surrounded (fun _ => ⟨rfl, rfl⟩) (fun _ _ => ⟨rfl, rfl⟩) h

theorem withAllowIn_sim {allow : Bool} (h : Sim e m x p p') :
    Sim e m x (withAllowIn allow p) (withAllowIn allow p') :=
  .surrounded (fun _ => ⟨rfl, rfl⟩) (fun _ _ => ⟨rfl, rfl⟩) h

theorem withAllowYield_sim {allow : Bool} (h : Sim e m x p p') :
    Sim e m x (withAllowYield allow p) (withAllowYield allow p') :=
  .surrounded (fun _ => ⟨rfl, rfl⟩) (fun _ _ => ⟨rfl, rfl⟩) h

theorem inLoop_sim (h : Sim e m x p p') : Sim e m x (inLoop p) (inLoop p') :=
  .surrounded (fun _ => ⟨rfl, rfl⟩) (fun _ _ => ⟨rfl, rfl⟩) h

theorem isolate_sim (h : Sim e m x p p') : Sim e m x (isolate p) (isolate p') := by
  refine .context fun c _ => .modifyContext (fun _ => ⟨rfl, rfl⟩) <| h.settle (fun a => ?_)
    (fun a a' => ?_) fun a => ?_
  · refine .context fun c' _ => ?_
    cases c'.coverFault with
    | some t => exact .of_never never_unexpected
    | none => exact .modifyContext (fun _ => ⟨rfl, rfl⟩) (.pure a)
  · refine .context fun c' _ => ?_
    cases c'.coverFault with
    | some t => exact .of_never never_unexpected
    | none => exact .modifyContext (fun _ => ⟨rfl, rfl⟩) (.pure_past a a')
  · refine .context fun c' => ?_
    cases c'.coverFault with
    | some t => exact never_unexpected.fails.stays
    | none => exact .modifyContext (.pure a)

theorem Reads.inherit (h : Reads e x p p') : Reads e x (inherit p) (inherit p') :=
  ⟨.surrounded h.fails, inherit_sim h.live⟩

theorem Reads.withAllowIn {allow : Bool} (h : Reads e x p p') :
    Reads e x (withAllowIn allow p) (withAllowIn allow p') :=
  ⟨.surrounded h.fails, withAllowIn_sim h.live⟩

theorem Reads.withAllowYield {allow : Bool} (h : Reads e x p p') :
    Reads e x (withAllowYield allow p) (withAllowYield allow p') :=
  ⟨.surrounded h.fails, withAllowYield_sim h.live⟩

theorem Reads.inLoop (h : Reads e x p p') : Reads e x (inLoop p) (inLoop p') :=
  ⟨.surrounded h.fails, inLoop_sim h.live⟩

theorem Reads.isolate (h : Reads e x p p') : Reads e x (isolate p) (isolate p') :=
  ⟨.surrounded h.fails, isolate_sim h.live⟩

section Inside

variable {f : Context → Context} {f' : Context → Context → Context} {inFunctionBody : Bool}

variable (inFunctionBody) in
/-- A parser of code inside a function, or outside of one. -/
theorem Sim.inside (into : ∀ c : Context, c.Fits e → (f c).Fits (e.inside inFunctionBody))
    (out : ∀ c c' : Context, c.Fits e → c'.Fits (e.inside inFunctionBody) → (f' c c').Fits e)
    (h : Sim (e.inside inFunctionBody) m .near p p') :
    Sim e m .near
      (Script.context >>= fun c => Script.modifyContext f >>= fun _ => p >>= fun a =>
        Script.modifyContext (f' c) >>= fun _ => Pure.pure a)
      (Script.context >>= fun c => Script.modifyContext f >>= fun _ => p' >>= fun a =>
        Script.modifyContext (f' c) >>= fun _ => Pure.pure a) := by
  intro s s' related r ok
  obtain ⟨same, fits⟩ := related.context_eq
  have entered : Related (e.inside inFunctionBody) m { s with context := f s.context }
      { s' with context := f s.context } := related.withContext (into _ fits)
  have ok : (p >>= fun a => Script.modifyContext (f' s.context) >>= fun _ => Pure.pure a)
      { s with context := f s.context } = .ok r := ok
  obtain ⟨⟨a, t⟩, read, rest⟩ := bind_ok.mp ok
  cases rest
  obtain ⟨t', read', related'⟩ := h entered read
  obtain ⟨same', fits'⟩ := related'.context_eq
  have left : Related e .near { t with context := f' s.context t.context }
      { t' with context := f' s.context t.context } := related'.withContext (out _ _ fits fits')
  change Matches e .near _
    ((p' >>= fun a => Script.modifyContext (f' s'.context) >>= fun _ => Pure.pure a)
      { s' with context := f s'.context })
  rw [same, bind_run _ read']
  change Matches e .near _ (.ok (a, { t' with context := f' s.context t'.context }))
  rw [same']
  exact .of_near left

end Inside

theorem Reads.inFunction (h : Reads (e.inside true) .near p p') :
    Reads e .near (inFunction p) (inFunction p') :=
  ⟨.surrounded h.fails, .inside true (fun _ fits => ⟨fits.1, rfl⟩)
    (fun _ _ fits fits' => ⟨fits'.1, fits.2⟩) h.live⟩

section Repetition

variable {item item' : Parse α} {stop : Token → Bool} {fuel fuel' : Nat}

theorem Sim.seesNot {is : Token → Bool} {b b' : Bool → Parse β} (dull : Dull is)
    (yes : Sim e .live x (b false) (b' false)) (no : Sim e m x (b true) (b' true)) :
    Sim e m x (Script.sees (fun t => !is t) >>= b) (Script.sees (fun t => !is t) >>= b') :=
  @Sim.probe _ e m x _ (fun a => b (!a)) (fun a => b' (!a)) dull.probes yes no

theorem collectUntil_stays (h : Fails item) : Stays (collectUntil stop item fuel) := by
  cases fuel with
  | zero => exact never_giveUp.fails.stays
  | succ fuel => exact .sees fun isStop => .ite (fun _ => .pure []) fun _ => h.bind.stays

/-- Items up to a token of some kind, which has to come. -/
theorem collectUntil_inner (h : Reads e y item item') (le : fuel ≤ fuel') :
    Sim e m .inner (collectUntil stop item fuel) (collectUntil stop item' fuel') := by
  refine .of_modes ?_ (.of_stays (collectUntil_stays h.fails))
  induction fuel generalizing fuel' with
  | zero => exact .of_never never_giveUp
  | succ fuel ih =>
    obtain ⟨fuel', rfl⟩ : ∃ n, fuel' = n + 1 := ⟨fuel' - 1, by omega⟩
    refine .sees fun isStop => .ite (fun _ => .pure []) fun _ => ?_
    refine .within h.live (fun first => ?_) fun first => ?_
    · exact .bind (collectUntil_stays h.fails) fun _ => .pure _
    · exact .within (ih (by omega)) (fun _ => .pure _) fun _ => .pure _

/-- Items as long as a token of some kind comes before them, which the end of the document is
not. -/
theorem collectUntil_near (h : Sim e .live .near item item') {more : Token → Bool}
    (dull : Dull more) (le : fuel ≤ fuel') :
    Sim e .near .near (collectUntil (fun t => !more t) item fuel)
      (collectUntil (fun t => !more t) item' fuel') := by
  induction fuel generalizing fuel' with
  | zero => exact .of_never never_giveUp
  | succ fuel ih =>
    obtain ⟨fuel', rfl⟩ : ∃ n, fuel' = n + 1 := ⟨fuel' - 1, by omega⟩
    refine .seesNot dull ?_ (.pure [])
    exact .bind h fun first => .bind (ih (by omega)) fun rest => .pure _

theorem collectWhile_stays {more : Token → Bool} (h : Fails item) :
    Stays (collectWhile more item) :=
  fun s isEnd r ok => collectUntil_stays h s isEnd r ok

theorem collectWhile_inner {more : Token → Bool} (h : Reads e y item item') :
    Sim e m .inner (collectWhile more item) (collectWhile more item') :=
  .tokenBound (collectUntil_inner h e.size_le)

theorem collectWhile_near {more : Token → Bool} (h : Sim e .live .near item item')
    (dull : Dull more) :
    Sim e .near .near (collectWhile more item) (collectWhile more item') :=
  .tokenBound (collectUntil_near h dull e.size_le)

theorem iterate_near {step step' : α → Parse (Option α)}
    (h : ∀ a, Sim e .near .near (step a) (step' a)) (le : fuel ≤ fuel') (a : α) :
    Sim e .near .near (iterate step fuel a) (iterate step' fuel' a) := by
  induction fuel generalizing fuel' a with
  | zero => exact .of_never never_giveUp
  | succ fuel ih =>
    obtain ⟨fuel', rfl⟩ : ∃ n, fuel' = n + 1 := ⟨fuel' - 1, by omega⟩
    refine .bind (h a) fun next => ?_
    cases next with
    | some b => exact ih (by omega) b
    | none => exact .pure a

theorem mapM_near {f : α → Parse β} (h : ∀ a, Sim e .near .near (f a) (f a)) (l : List α) :
    Sim e .near .near (l.mapM f) (l.mapM f) := by
  induction l with
  | nil => exact .pure []
  | cons a l ih =>
    rw [List.mapM_cons]
    exact .bind (h a) fun b => .bind ih fun rest => .pure _

end Repetition

/-- The parsers of one grammar do on the longer document what those of another do on the
document. -/
structure Grammar.Alike (g g' : Grammar) : Prop where
  assignment : ∀ {e}, Reads e .near g.assignment g'.assignment
  unary : ∀ {e}, Reads e .near g.unary g'.unary
  power : ∀ {e}, Reads e .near g.power g'.power
  chain : ∀ {e}, Reads e .near g.chain g'.chain
  member : ∀ {e}, Reads e .near g.member g'.member
  statement : ∀ {e}, Reads e .loose g.statement g'.statement
  item : ∀ {e}, Reads e .loose g.item g'.item
  pattern : ∀ {e} (kind : Option Text), Reads e .near (g.pattern kind) (g'.pattern kind)

end ExportList.Script
