import ExportList.Text
import Mathlib.Data.List.Basic
import Mathlib.Data.List.Forall2
import Mathlib.Data.List.Induction

/-!
Sequences of results and lists without repetitions.  A sequence of steps that can fail succeeds
exactly when each of them does, and fails with the first error; a list without repetitions keeps its
elements in the order of their first occurrences.
-/

set_option autoImplicit false

namespace ExportList

section Results

variable {ε δ α β γ : Type}

theorem bind_eq_ok_iff {x : Except ε α} {f : α → Except ε β} {b : β} :
    (x >>= f) = .ok b ↔ ∃ a, x = .ok a ∧ f a = .ok b := by
  cases x with
  | error e => simp [bind, Except.bind]
  | ok a => simp [bind, Except.bind]

theorem map_eq_ok_iff {x : Except ε α} {f : α → β} {b : β} :
    x.map f = .ok b ↔ ∃ a, x = .ok a ∧ f a = b := by
  cases x with
  | error e => simp [Except.map]
  | ok a => simp [Except.map]

theorem map_bind {x : Except ε α} {f : α → Except ε β} {g : β → γ} :
    (x >>= f).map g = x >>= fun a => (f a).map g := by
  cases x <;> rfl

theorem bind_eq_error_iff {x : Except ε α} {f : α → Except ε β} {e : ε} :
    (x >>= f) = .error e ↔ x = .error e ∨ ∃ a, x = .ok a ∧ f a = .error e := by
  cases x with
  | error e' => simp [bind, Except.bind]
  | ok a => simp [bind, Except.bind]

theorem map_eq_error_iff {x : Except ε α} {f : α → β} {e : ε} :
    x.map f = .error e ↔ x = .error e := by
  cases x with
  | error e' => simp [Except.map]
  | ok a => simp [Except.map]

theorem mapError_eq_ok_iff {x : Except ε α} {f : ε → δ} {a : α} :
    x.mapError f = .ok a ↔ x = .ok a := by
  cases x with
  | error e => simp [Except.mapError]
  | ok a' => simp [Except.mapError]

theorem mapError_eq_error_iff {x : Except ε α} {f : ε → δ} {d : δ} :
    x.mapError f = .error d ↔ ∃ e, x = .error e ∧ f e = d := by
  cases x with
  | error e => simp [Except.mapError]
  | ok a => simp [Except.mapError]

theorem toOption_eq_some_iff {x : Except ε α} {a : α} : x.toOption = some a ↔ x = .ok a := by
  cases x with
  | error e => simp [Except.toOption]
  | ok a' => simp [Except.toOption]

theorem mapM_eq_ok_iff {f : α → Except ε β} {l : List α} {r : List β} :
    l.mapM f = .ok r ↔ List.Forall₂ (fun a b => f a = .ok b) l r := by
  induction l generalizing r with
  | nil => cases r <;> simp [pure, Except.pure]
  | cons a l ih =>
    rw [List.mapM_cons, bind_eq_ok_iff]
    constructor
    · rintro ⟨b, hb, h⟩
      obtain ⟨bs, hbs, h⟩ := bind_eq_ok_iff.mp h
      cases h
      exact .cons hb (ih.mp hbs)
    · intro h
      cases h with
      | cons hb hbs => exact ⟨_, hb, bind_eq_ok_iff.mpr ⟨_, ih.mpr hbs, rfl⟩⟩

theorem forall₂_of_mapM_ok {f : α → Except ε β} {P : α → β → Prop} {l : List α} {r : List β}
    (h : l.mapM f = .ok r) (hP : ∀ a ∈ l, ∀ b, f a = .ok b → P a b) : List.Forall₂ P l r := by
  rw [mapM_eq_ok_iff] at h
  induction h with
  | nil => exact .nil
  | cons ha _ ih =>
    refine .cons (hP _ List.mem_cons_self _ ha) (ih ?_)
    intro a member
    exact hP a (List.mem_cons_of_mem _ member)

theorem mapM_append_singleton_ok {f : α → Except ε β} {l : List α} {r : List β} {a : α} {b : β}
    (h : l.mapM f = .ok r) (ha : f a = .ok b) : (l ++ [a]).mapM f = .ok (r ++ [b]) := by
  rw [List.mapM_append, h, List.mapM_cons, ha]
  rfl

theorem exists_ok_of_mapM_ok {f : α → Except ε β} {l : List α} {r : List β}
    (h : l.mapM f = .ok r) {a : α} (ha : a ∈ l) : ∃ b, f a = .ok b := by
  rw [mapM_eq_ok_iff] at h
  induction h with
  | nil => cases ha
  | @cons a' b l r hb _ ih =>
    rcases List.mem_cons.mp ha with rfl | ha
    · exact ⟨b, hb⟩
    · exact ih ha

theorem mem_of_mapM_ok {f : α → Except ε β} {l : List α} {r : List β} (h : l.mapM f = .ok r)
    {b : β} : b ∈ r ↔ ∃ a ∈ l, f a = .ok b := by
  rw [mapM_eq_ok_iff] at h
  induction h with
  | nil => simp
  | @cons a b' l r ha _ ih =>
    have head : b = b' ↔ f a = .ok b := by rw [ha, Except.ok.injEq, eq_comm]
    rw [List.mem_cons, ih, head, List.exists_mem_cons_iff]

/-- Results come in the order of what they are obtained from. -/
theorem pairwise_of_mapM_ok {f : α → Except ε β} {S : α → α → Prop} {T : β → β → Prop}
    {l : List α} {r : List β} (h : l.mapM f = .ok r) (ordered : l.Pairwise S)
    (carry : ∀ a ∈ l, ∀ b ∈ l, ∀ v w, f a = .ok v → f b = .ok w → S a b → T v w) :
    r.Pairwise T := by
  rw [mapM_eq_ok_iff] at h
  induction h with
  | nil => exact .nil
  | @cons a v l r first rest ih =>
    obtain ⟨before, ordered⟩ := List.pairwise_cons.mp ordered
    refine .cons ?_ (ih ordered fun b hb c hc => carry b (.tail _ hb) c (.tail _ hc))
    intro w member
    obtain ⟨b, among, found⟩ := (mem_of_mapM_ok (mapM_eq_ok_iff.mpr rest)).mp member
    exact carry a (.head _) b (.tail _ among) v w first found (before b among)

theorem filterMap_eq_of_mapM_ok {f : α → Except ε β} {g : α → Option β} {l : List α} {r : List β}
    (h : l.mapM f = .ok r) (hg : ∀ a b, f a = .ok b → g a = some b) : l.filterMap g = r := by
  rw [mapM_eq_ok_iff] at h
  induction h with
  | nil => rfl
  | cons ha _ ih => rw [List.filterMap_cons_some (hg _ _ ha), ih]

theorem map_eq_of_mapM_ok {f : α → Except ε β} {g : α → β} {l : List α} {r : List β}
    (h : l.mapM f = .ok r) (hg : ∀ a b, f a = .ok b → g a = b) : l.map g = r := by
  rw [mapM_eq_ok_iff] at h
  induction h with
  | nil => rfl
  | cons ha _ ih => rw [List.map_cons, hg _ _ ha, ih]

/-- What several steps yield together is what each of them yields. -/
theorem mem_flatten_of_mapM_ok {f : α → Except ε (List β)} {l : List α} {r : List (List β)}
    (h : l.mapM f = .ok r) {b : β} :
    b ∈ r.flatten ↔ ∃ a ∈ l, ∃ bs, f a = .ok bs ∧ b ∈ bs := by
  rw [List.mem_flatten]
  constructor
  · rintro ⟨bs, hbs, hb⟩
    obtain ⟨a, ha, hf⟩ := (mem_of_mapM_ok h).mp hbs
    exact ⟨a, ha, bs, hf, hb⟩
  · rintro ⟨a, ha, bs, hf, hb⟩
    exact ⟨bs, (mem_of_mapM_ok h).mpr ⟨a, ha, hf⟩, hb⟩

theorem exists_ok_bind {x : Except ε α} {f : α → Except ε β} (hx : ∃ a, x = .ok a)
    (hf : ∀ a, x = .ok a → ∃ b, f a = .ok b) : ∃ b, (x >>= f) = .ok b := by
  obtain ⟨a, ha⟩ := hx
  obtain ⟨b, hb⟩ := hf a ha
  exact ⟨b, bind_eq_ok_iff.mpr ⟨a, ha, hb⟩⟩

theorem exists_ok_mapM {f : α → Except ε β} {l : List α} (h : ∀ a ∈ l, ∃ b, f a = .ok b) :
    ∃ r, l.mapM f = .ok r := by
  induction l with
  | nil => exact ⟨[], rfl⟩
  | cons a l ih =>
    rw [List.mapM_cons]
    apply exists_ok_bind (h a List.mem_cons_self)
    intro b _
    apply exists_ok_bind (ih fun a ha => h a (List.mem_cons_of_mem _ ha))
    intro bs _
    exact ⟨b :: bs, rfl⟩

/-- A step succeeds on the elements before one, and fails on that one. -/
def FirstError (f : α → Except ε β) (l : List α) (a : α) (e : ε) : Prop :=
  ∃ before after, l = before ++ a :: after ∧ (∀ b ∈ before, ∃ c, f b = .ok c) ∧ f a = .error e

/-- A sequence of steps fails with the error of the first of them that does. -/
theorem mapM_eq_error_iff {f : α → Except ε β} {l : List α} {e : ε} :
    l.mapM f = .error e ↔ ∃ a, FirstError f l a e := by
  induction l with
  | nil =>
    constructor
    · intro h
      cases h
    · rintro ⟨a, before, after, split, _⟩
      simp at split
  | cons a l ih =>
    rw [List.mapM_cons, bind_eq_error_iff]
    constructor
    · rintro (failed | ⟨c, done, h⟩)
      · exact ⟨a, [], l, rfl, List.forall_mem_nil _, failed⟩
      · rcases bind_eq_error_iff.mp h with later | ⟨_, _, impossible⟩
        · obtain ⟨b, before, after, rfl, fine, failed⟩ := ih.mp later
          exact ⟨b, a :: before, after, rfl, List.forall_mem_cons.mpr ⟨⟨c, done⟩, fine⟩, failed⟩
        · cases impossible
    · rintro ⟨b, before, after, split, fine, failed⟩
      cases before with
      | nil =>
        cases split
        exact .inl failed
      | cons first before =>
        cases split
        obtain ⟨⟨c, done⟩, fine⟩ := List.forall_mem_cons.mp fine
        have later := ih.mpr ⟨b, before, after, rfl, fine, failed⟩
        exact .inr ⟨c, done, bind_eq_error_iff.mpr (.inl later)⟩

theorem exists_mapM_error_iff {f : α → Except ε β} {l : List α} :
    (∃ e, l.mapM f = .error e) ↔ ∃ a ∈ l, ∃ e, f a = .error e := by
  constructor
  · rintro ⟨e, h⟩
    obtain ⟨a, before, after, rfl, _, failed⟩ := mapM_eq_error_iff.mp h
    exact ⟨a, by simp, e, failed⟩
  · rintro ⟨a, member, e, failed⟩
    cases h : l.mapM f with
    | error e' => exact ⟨e', rfl⟩
    | ok r =>
      obtain ⟨b, done⟩ := exists_ok_of_mapM_ok h member
      rw [failed] at done
      cases done

/-- A step fails with errors of one kind only. -/
def FailsOnly (E : ε → Prop) (x : Except ε α) : Prop := ∀ e, x = .error e → E e

namespace FailsOnly

variable {E F : ε → Prop}

theorem ok (a : α) : FailsOnly E (.ok a : Except ε α) := by
  intro e h
  cases h

theorem mono {x : Except ε α} (h : FailsOnly E x) (hE : ∀ e, E e → F e) : FailsOnly F x :=
  fun e failed => hE e (h e failed)

theorem bind {x : Except ε α} {f : α → Except ε β} (h : FailsOnly E x)
    (hf : ∀ a, FailsOnly E (f a)) : FailsOnly E (x >>= f) := by
  intro e failed
  rcases bind_eq_error_iff.mp failed with first | ⟨a, _, second⟩
  · exact h e first
  · exact hf a e second

theorem map {x : Except ε α} (h : FailsOnly E x) (f : α → β) : FailsOnly E (x.map f) :=
  fun e failed => h e (map_eq_error_iff.mp failed)

theorem mapM {f : α → Except ε β} {l : List α} (h : ∀ a ∈ l, FailsOnly E (f a)) :
    FailsOnly E (l.mapM f) := by
  intro e failed
  obtain ⟨a, before, after, rfl, _, failed⟩ := mapM_eq_error_iff.mp failed
  exact h a (by simp) e failed

theorem exists_ok {x : Except ε α} (h : FailsOnly E x) (none : ∀ e, ¬E e) : ∃ a, x = .ok a := by
  cases x with
  | error e => exact absurd (h e rfl) (none e)
  | ok a => exact ⟨a, rfl⟩

end FailsOnly

/-- Steps that are left out are steps that yield nothing. -/
theorem mapM_filter_flatten (f : α → Except ε (List β)) (g : List β → γ) (p : α → Bool)
    (l : List α) :
    ((l.filter p).mapM f).map (fun r => g r.flatten) =
      (l.mapM fun a => if p a then f a else .ok []).map fun r => g r.flatten := by
  induction l generalizing g with
  | nil => rfl
  | cons a l ih =>
    by_cases pa : p a
    · rw [List.filter_cons_of_pos pa, List.mapM_cons, List.mapM_cons, if_pos pa]
      cases f a with
      | error e => rfl
      | ok bs =>
        have rest := ih fun r => g (bs ++ r)
        cases h : (l.filter p).mapM f <;>
          cases h' : l.mapM fun a => if p a then f a else .ok [] <;>
          simp_all [bind, Except.bind, pure, Except.pure, Except.map]
    · rw [List.filter_cons_of_neg pa, List.mapM_cons, if_neg pa, ih]
      cases l.mapM fun a => if p a then f a else .ok [] <;> rfl

theorem mapM_congr₂ {f : α → Except ε γ} {g : β → Except ε γ} {l : List α} {r : List β}
    (h : List.Forall₂ (fun a b => f a = g b) l r) : l.mapM f = r.mapM g := by
  induction h with
  | nil => rfl
  | cons hab _ ih => rw [List.mapM_cons, List.mapM_cons, hab, ih]

/-- Two results are the same, or errors that are related. -/
def Agree (R : ε → δ → Prop) : Except ε α → Except δ α → Prop
  | .ok a, .ok b => a = b
  | .error e, .error d => R e d
  | _, _ => False

namespace Agree

variable {R S : ε → δ → Prop}

theorem mono {x : Except ε α} {y : Except δ α} (hR : ∀ e d, R e d → S e d) (h : Agree R x y) :
    Agree S x y := by
  cases x <;> cases y
  · exact hR _ _ h
  · exact h
  · exact h
  · exact h

theorem map {x : Except ε α} {y : Except δ α} (f : α → β) (h : Agree R x y) :
    Agree R (x.map f) (y.map f) := by
  cases x <;> cases y
  · exact h
  · exact h
  · exact h
  · exact congrArg f h

theorem bind {x : Except ε α} {y : Except δ α} {f : α → Except ε β} {g : α → Except δ β}
    (h : Agree R x y) (hf : ∀ a, Agree R (f a) (g a)) : Agree R (x >>= f) (y >>= g) := by
  cases x <;> cases y
  · exact h
  · exact h.elim
  · exact h.elim
  · cases (show _ = _ from h)
    exact hf _

/-- Steps that agree one by one agree as a sequence. -/
theorem mapM {f : α → Except ε γ} {g : β → Except δ γ} {l : List α} {r : List β}
    (h : List.Forall₂ (fun a b => Agree R (f a) (g b)) l r) : Agree R (l.mapM f) (r.mapM g) := by
  induction h with
  | nil => exact rfl
  | @cons a b l r hab _ ih =>
    rw [List.mapM_cons, List.mapM_cons]
    cases ha : f a <;> cases hb : g b <;> rw [ha, hb] at hab
    · exact hab
    · exact hab.elim
    · exact hab.elim
    · cases (show _ = _ from hab)
      exact ih.map (List.cons _)

theorem ok {x : Except ε α} {y : Except δ α} {a : α} (h : Agree R x y) (hx : x = .ok a) :
    y = .ok a := by
  subst hx
  cases y with
  | error d => exact h.elim
  | ok b => exact congrArg Except.ok (Eq.symm h)

theorem refl {R : ε → ε → Prop} (hR : ∀ e, R e e) (x : Except ε α) : Agree R x x := by
  cases x with
  | error e => exact hR e
  | ok a => exact rfl

theorem trans {R : ε → ε → Prop} (hR : ∀ e d c, R e d → R d c → R e c) {x y z : Except ε α}
    (h : Agree R x y) (h' : Agree R y z) : Agree R x z := by
  cases x <;> cases y
  · cases z
    · exact hR _ _ _ h h'
    · exact h'
  · exact h.elim
  · exact h.elim
  · cases (show _ = _ from h)
    exact h'

end Agree

/-- As soon as one step succeeds, so does another one, with a related result. -/
def Follows (P : α → β → Prop) (x : Except ε α) (y : Except δ β) : Prop :=
  ∀ a, x = .ok a → ∃ b, y = .ok b ∧ P a b

namespace Follows

variable {ζ : Type} {P : α → β → Prop} {Q : γ → ζ → Prop}

theorem ok {a : α} {b : β} (h : P a b) : Follows P (.ok a : Except ε α) (.ok b : Except δ β) := by
  intro _ ha
  cases ha
  exact ⟨b, rfl, h⟩

theorem bind {x : Except ε α} {y : Except δ β} {f : α → Except ε γ} {g : β → Except δ ζ}
    (h : Follows P x y) (hf : ∀ a b, P a b → Follows Q (f a) (g b)) :
    Follows Q (x >>= f) (y >>= g) := by
  intro c hc
  obtain ⟨a, ha, hc⟩ := bind_eq_ok_iff.mp hc
  obtain ⟨b, hb, hab⟩ := h a ha
  obtain ⟨z, hz, hQ⟩ := hf a b hab c hc
  exact ⟨z, bind_eq_ok_iff.mpr ⟨b, hb, hz⟩, hQ⟩

theorem map {x : Except ε α} {y : Except δ β} {f : α → γ} {g : β → ζ} (h : Follows P x y)
    (hf : ∀ a b, P a b → Q (f a) (g b)) : Follows Q (x.map f) (y.map g) := by
  intro c hc
  obtain ⟨a, ha, rfl⟩ := map_eq_ok_iff.mp hc
  obtain ⟨b, hb, hab⟩ := h a ha
  exact ⟨g b, map_eq_ok_iff.mpr ⟨b, hb, rfl⟩, hf a b hab⟩

/-- Steps that follow each other one by one do so as sequences. -/
theorem mapM₂ {f : γ → Except ε α} {g : ζ → Except δ β} {l : List γ} {r : List ζ}
    (h : List.Forall₂ (fun c d => Follows P (f c) (g d)) l r) :
    Follows (List.Forall₂ P) (l.mapM f) (r.mapM g) := by
  induction h with
  | nil => exact ok .nil
  | cons first _ ih =>
    rw [List.mapM_cons, List.mapM_cons]
    refine first.bind fun a b hab => ?_
    refine ih.bind fun as bs habs => ?_
    exact ok (.cons hab habs)

theorem mapM {f : γ → Except ε α} {g : γ → Except δ β} {l : List γ}
    (h : ∀ c ∈ l, Follows P (f c) (g c)) : Follows (List.Forall₂ P) (l.mapM f) (l.mapM g) :=
  mapM₂ (List.forall₂_same.mpr h)

end Follows

end Results

section Repetitions

variable {α : Type} [BEq α] [LawfulBEq α]

/-- Leaving elements out keeps the order of the first occurrences of those that stay. -/
theorem idxOf_lt_idxOf_of_filter {p : α → Bool} {l : List α} {x y : α} (hy : p y)
    (h : (l.filter p).idxOf x < (l.filter p).idxOf y) : l.idxOf x < l.idxOf y := by
  induction l with
  | nil => simp at h
  | cons a l ih =>
    by_cases ax : a = x
    · subst a
      have xy : x ≠ y := by
        rintro rfl
        exact Nat.lt_irrefl _ h
      rw [List.idxOf_cons_self, List.idxOf_cons_ne l xy]
      exact Nat.succ_pos _
    · by_cases ay : a = y
      · subst a
        rw [List.filter_cons_of_pos hy, List.idxOf_cons_self] at h
        exact absurd h (Nat.not_lt_zero _)
      · rw [List.idxOf_cons_ne l ax, List.idxOf_cons_ne l ay]
        apply Nat.succ_lt_succ
        by_cases pa : p a
        · rw [List.filter_cons_of_pos pa, List.idxOf_cons_ne _ ax, List.idxOf_cons_ne _ ay] at h
          exact ih (Nat.lt_of_succ_lt_succ h)
        · rw [List.filter_cons_of_neg pa] at h
          exact ih h

/-- Without repetitions, elements stand in the order of their first occurrences. -/
theorem pairwise_idxOf_eraseDups (l : List α) :
    l.eraseDups.Pairwise fun x y => l.idxOf x < l.idxOf y := by
  -- The recursion is that of `eraseDups`: on the list without further copies of its head.
  match l with
  | [] => simp
  | a :: l =>
    have shorter : (l.filter fun b => !b == a).length < (a :: l).length :=
      Nat.lt_succ_of_le (List.length_filter_le _ l)
    have rest := pairwise_idxOf_eraseDups (l.filter fun b => !b == a)
    have other : ∀ {y}, y ∈ (l.filter fun b => !b == a).eraseDups → (!y == a) = true := by
      intro y hy
      exact (List.mem_filter.mp (List.mem_eraseDups.mp hy)).2
    rw [List.eraseDups_cons, List.pairwise_cons]
    constructor
    · intro y hy
      have ya : a ≠ y := by
        rintro rfl
        simpa using other hy
      rw [List.idxOf_cons_self, List.idxOf_cons_ne l ya]
      exact Nat.succ_pos _
    · refine rest.imp_of_mem ?_
      intro x y hx hy h
      have hl := idxOf_lt_idxOf_of_filter (p := fun b => !b == a) (other hy) h
      have xa : a ≠ x := by
        rintro rfl
        simpa using other hx
      have ya : a ≠ y := by
        rintro rfl
        simpa using other hy
      rw [List.idxOf_cons_ne l xa, List.idxOf_cons_ne l ya]
      exact Nat.succ_lt_succ hl
termination_by l.length
decreasing_by exact shorter

theorem nodup_eraseDups (l : List α) : l.eraseDups.Nodup := by
  refine (pairwise_idxOf_eraseDups l).imp ?_
  rintro x y h rfl
  exact Nat.lt_irrefl _ h

/-- The elements of a list that do not stand in it before. -/
def firstOccurrences (l : List α) : List α :=
  (l.zipIdx.filter fun entry => !(l.take entry.2).contains entry.1).map Prod.fst

theorem eraseDups_concat (l : List α) (a : α) :
    (l ++ [a]).eraseDups = l.eraseDups ++ if l.contains a then [] else [a] := by
  rw [List.eraseDups_append, List.removeAll, List.filter_singleton]
  cases h : l.contains a <;> simp_all [List.eraseDups_cons]

theorem eraseDups_eq_firstOccurrences (l : List α) : l.eraseDups = firstOccurrences l := by
  induction l using List.reverseRecOn with
  | nil => rfl
  | append_singleton l a ih =>
    have earlier : (l.zipIdx.filter fun entry => !((l ++ [a]).take entry.2).contains entry.1) =
        l.zipIdx.filter fun entry => !(l.take entry.2).contains entry.1 := by
      apply List.filter_congr
      rintro ⟨b, i⟩ member
      have inside : i ≤ l.length := Nat.le_of_lt (List.snd_lt_of_mem_zipIdx member)
      rw [List.take_append_of_le_length inside]
    rw [eraseDups_concat, ih, firstOccurrences, firstOccurrences, List.zipIdx_append,
      List.filter_append, earlier, List.map_append]
    cases h : l.contains a <;> simp_all

theorem eraseDups_filter (p : α → Bool) (l : List α) :
    (l.filter p).eraseDups = l.eraseDups.filter p := by
  induction l using List.reverseRecOn with
  | nil => rfl
  | append_singleton l a ih =>
    rw [List.filter_append, eraseDups_concat, List.filter_append, ← ih]
    cases kept : p a with
    | false => cases l.contains a <;> simp [kept]
    | true =>
      have same : (l.filter p).contains a = l.contains a := by
        rw [Bool.eq_iff_iff]
        simp [kept]
      rw [List.filter_singleton, kept, cond_true, eraseDups_concat, same]
      cases l.contains a <;> simp [kept]

theorem eraseDups_append_eq (xs ys : List α) :
    (xs ++ ys).eraseDups =
      xs.eraseDups ++ ys.eraseDups.filter fun y => !xs.eraseDups.contains y := by
  have same : ∀ y, xs.eraseDups.contains y = xs.contains y := by
    intro y
    rw [Bool.eq_iff_iff]
    simp
  simp only [same]
  rw [List.eraseDups_append, List.removeAll, eraseDups_filter]

end Repetitions

end ExportList
