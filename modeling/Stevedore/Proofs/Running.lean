import Mathlib.Tactic
import Stevedore.Proofs.KeyMap
import Stevedore.Scheduling.Run
import Stevedore.Store.Records

/-!
# Running

What the primitive steps do, how runs are put together, and what the functions on records read and
write. A run that only looks (`Looks`) changes nothing but the count of reads, and yields what the
store holds unless a read fails.
-/

namespace Stevedore.Scheduling

open Store (Memory)

/-- What the manager has heard of some calls: those that took effect. -/
def heard (issued : List Issue) : List Contact :=
  issued.filterMap fun i => match i.delivery with
    | .refused _ => none
    | .applied | .unanswered _ => some (.called i.call)

theorem heard_append (issued issued' : List Issue) :
    heard (issued ++ issued') = heard issued ++ heard issued' :=
  List.filterMap_append

namespace Run

variable {α β : Type} {s : Surroundings} {w w' : World}

/-! ### Putting runs together -/

theorem bind_of_ok {m : Run α} {x : α} (h : m s w = (.ok x, w')) (f : α → Run β) :
    (m >>= f) s w = f x s w' := by
  show Run.bind m f s w = _
  unfold Run.bind
  rw [h]

theorem bind_of_error {m : Run α} {e : Fault} (h : m s w = (.error e, w')) (f : α → Run β) :
    (m >>= f) s w = (.error e, w') := by
  show Run.bind m f s w = _
  unfold Run.bind
  rw [h]

/-- Where one thing and then another went well, each of them did. -/
theorem exists_of_bind_eq_ok {m : Run α} {f : α → Run β} {y : β}
    (h : (m >>= f) s w = (.ok y, w')) :
    ∃ x w₁, m s w = (.ok x, w₁) ∧ f x s w₁ = (.ok y, w') := by
  cases hm : m s w with
  | mk result w₁ =>
    cases result with
    | error e =>
      rw [bind_of_error hm] at h
      cases h
    | ok x =>
      rw [bind_of_ok hm] at h
      exact ⟨x, w₁, rfl, h⟩

/-- What the first of two runs establishes and the second keeps holds after both. -/
theorem bind_keeps {P : World → Prop} {m : Run α} {f : α → Run β} (hm : P (m s w).2)
    (hf : ∀ x w', P w' → P (f x s w').2) : P ((m >>= f) s w).2 := by
  cases hrun : m s w with
  | mk result w' =>
    rw [hrun] at hm
    cases result with
    | error e =>
      rw [bind_of_error hrun]
      exact hm
    | ok x =>
      rw [bind_of_ok hrun]
      exact hf x w' hm

/-- What holds from before each of two runs to after it holds of both, if it carries over. -/
theorem bind_relates {R : World → World → Prop}
    (htrans : ∀ {w₁ w₂ w₃}, R w₁ w₂ → R w₂ w₃ → R w₁ w₃) {m : Run α} {f : α → Run β}
    (hm : R w (m s w).2) (hf : ∀ x w', R w' (f x s w').2) : R w ((m >>= f) s w).2 :=
  bind_keeps (P := R w) hm fun x w' h => htrans h (hf x w')

theorem attempt_run (m : Run α) : attempt m s w = (.ok (m s w).1, (m s w).2) := rfl

theorem attempt_of {m : Run α} {result : Except Fault α} (h : m s w = (result, w')) :
    attempt m s w = (.ok result, w') := by
  rw [attempt_run, h]

theorem look_run (f : World → α) : look f s w = (.ok (f w), w) := rfl

theorem withLock_run (id : String) (body : Run α) :
    withLock id body s w =
      ((body s { w with locks := (w.locks.request id).2 }).1,
        { (body s { w with locks := (w.locks.request id).2 }).2 with
          locks := (body s { w with locks := (w.locks.request id).2 }).2.locks.release
            (w.locks.request id).1 }) := rfl

/-! ### Bookkeeping -/

/-- `Moves w store issued w'`: from `w` to `w'` the store has become `store` and the calls `issued`
were made. Beyond that only the locks, a list of nodes outside the store and the counts of what the
surroundings were asked have changed, and no id was drawn. -/
structure Moves (w : World) (store : Memory) (issued : List Issue) (w' : World) : Prop where
  store : w'.store = store
  contacts : w'.contacts = w.contacts ++ heard issued
  issued : w'.issued = w.issued ++ issued
  framework : w'.framework = w.framework
  config : w'.config = w.config
  suppressed : w'.suppressed = w.suppressed
  ids : w'.tally.ids = w.tally.ids

namespace Moves

variable {store store' : Memory} {issued issued' : List Issue} {w'' : World}

theorem refl (w : World) : Moves w w.store [] w :=
  ⟨rfl, (List.append_nil _).symm, (List.append_nil _).symm, rfl, rfl, rfl, rfl⟩

theorem trans (h : Moves w store issued w') (h' : Moves w' store' issued' w'') :
    Moves w store' (issued ++ issued') w'' where
  store := h'.store
  contacts := by rw [h'.contacts, h.contacts, heard_append, List.append_assoc]
  issued := by rw [h'.issued, h.issued, List.append_assoc]
  framework := h'.framework.trans h.framework
  config := h'.config.trans h.config
  suppressed := h'.suppressed.trans h.suppressed
  ids := h'.ids.trans h.ids

theorem andThen (h : Moves w store [] w') (h' : Moves w' store' issued w'') :
    Moves w store' issued w'' :=
  h.trans h'

end Moves

variable {store : Memory}

theorem moves_locks (locks : LockTable) : Moves w w.store [] { w with locks := locks } :=
  ⟨rfl, (List.append_nil _).symm, (List.append_nil _).symm, rfl, rfl, rfl, rfl⟩

/-- What is done under a lock is done in a world that differs in its locks only. -/
theorem withLock_cases (id : String) (body : Run α) (s : Surroundings) (w : World) :
    ∃ w₀ w', Moves w w.store [] w₀ ∧ withLock id body s w = ((body s w₀).1, w') ∧
      Moves (body s w₀).2 (body s w₀).2.store [] w' :=
  ⟨_, _, moves_locks _, withLock_run id body, moves_locks _⟩

theorem now_run :
    now s w = (.ok (s.clock w.tally.times), { w with tally.times := w.tally.times + 1 }) :=
  rfl

theorem moves_now (hstore : w.store = store) :
    Moves w store [] { w with tally.times := w.tally.times + 1 } :=
  ⟨hstore, (List.append_nil _).symm, (List.append_nil _).symm, rfl, rfl, rfl, rfl⟩

/-- A call is made whatever becomes of it, and succeeds if it takes effect and is answered. -/
theorem call_cases (c : Manager.Call) (s : Surroundings) (hstore : w.store = store) :
    ∃ delivery w', delivery = s.delivery w.tally.calls c ∧ Moves w store [⟨c, delivery, store⟩] w' ∧
      (delivery = .applied ∧ call c s w = (.ok (), w') ∨
        delivery ≠ .applied ∧ ∃ fault, call c s w = (.error (.manager fault), w')) := by
  subst hstore
  refine ⟨s.delivery w.tally.calls c, (call c s w).2, rfl, ?_, ?_⟩
  · simp only [call]
    cases s.delivery w.tally.calls c with
    | applied => exact ⟨rfl, rfl, rfl, rfl, rfl, rfl, rfl⟩
    | refused => exact ⟨rfl, (List.append_nil _).symm, rfl, rfl, rfl, rfl, rfl⟩
    | unanswered => exact ⟨rfl, rfl, rfl, rfl, rfl, rfl, rfl⟩
  · simp only [call]
    cases s.delivery w.tally.calls c with
    | applied => exact Or.inl ⟨rfl, rfl⟩
    | refused fault => exact Or.inr ⟨by simp, fault, rfl⟩
    | unanswered fault => exact Or.inr ⟨by simp, fault, rfl⟩

/-! ### Looking -/

end Run

/-- The world after further reads. -/
def World.afterReads (w : World) (n : Nat) : World :=
  { w with tally.reads := w.tally.reads + n }

theorem World.afterReads_zero (w : World) : w.afterReads 0 = w := rfl

theorem World.afterReads_add (w : World) (m n : Nat) :
    (w.afterReads m).afterReads n = w.afterReads (m + n) := by
  unfold World.afterReads
  simp only [Nat.add_assoc]

namespace Run

variable {α β : Type} {s : Surroundings} {w w' : World}

/-- `Looks m f`: the run `m` changes nothing but the count of reads. It yields what `f` says of the
framework's name and the store, unless a read fails. -/
def Looks (m : Run α) (f : String → Memory → Except Fault α) : Prop :=
  ∀ s w, ∃ n, m s w = (f w.framework w.store, w.afterReads n) ∨
    ∃ k reason, s.readFault k = some reason ∧
      m s w = (.error (.store (.unavailable reason)), w.afterReads n)

theorem moves_afterReads (w : World) (n : Nat) : Moves w w.store [] (w.afterReads n) :=
  ⟨rfl, (List.append_nil _).symm, (List.append_nil _).symm, rfl, rfl, rfl, rfl⟩

theorem looks_pure (x : α) : Looks (pure x) fun _ _ => .ok x :=
  fun _ w => ⟨0, Or.inl (by rw [World.afterReads_zero]; rfl)⟩

theorem looks_fail (e : Fault) : Looks (fail e : Run α) fun _ _ => .error e :=
  fun _ w => ⟨0, Or.inl (by rw [World.afterReads_zero]; rfl)⟩

theorem looks_read (f : Memory → α) : Looks (read f) fun _ store => .ok (f store) := by
  intro s w
  refine ⟨1, ?_⟩
  cases hf : s.readFault w.tally.reads with
  | none =>
    left
    unfold read
    simp only [hf]
    rfl
  | some reason =>
    right
    refine ⟨w.tally.reads, reason, hf, ?_⟩
    unfold read
    simp only [hf]
    rfl

theorem Looks.congr {m : Run α} {f g : String → Memory → Except Fault α} (h : Looks m f)
    (hfg : ∀ name store, f name store = g name store) : Looks m g := by
  have heq : f = g := funext fun name => funext fun store => hfg name store
  exact heq ▸ h

theorem looks_framework : Looks (Access.framework : Run String) fun name _ => .ok name :=
  fun _ w => ⟨0, Or.inl (by rw [World.afterReads_zero]; rfl)⟩

theorem Looks.bind {m : Run α} {f : String → Memory → Except Fault α} {g : α → Run β}
    {h : α → String → Memory → Except Fault β} (hm : Looks m f) (hg : ∀ x, Looks (g x) (h x)) :
    Looks (m >>= g) fun name store => f name store >>= fun x => h x name store := by
  intro s w
  obtain ⟨n, hok | ⟨i, reason, hi, hfault⟩⟩ := hm s w
  · cases hx : f w.framework w.store with
    | error e =>
      rw [hx] at hok
      refine ⟨n, Or.inl ?_⟩
      rw [bind_of_error hok]
      simp only [hx]
      rfl
    | ok x =>
      rw [hx] at hok
      obtain ⟨k, hnext | ⟨i, reason, hi, hfault⟩⟩ := hg x s (w.afterReads n)
      · refine ⟨n + k, Or.inl ?_⟩
        rw [bind_of_ok hok, hnext, World.afterReads_add]
        simp only [hx]
        rfl
      · refine ⟨n + k, Or.inr ⟨i, reason, hi, ?_⟩⟩
        rw [bind_of_ok hok, hfault, World.afterReads_add]
  · exact ⟨n, Or.inr ⟨i, reason, hi, bind_of_error hfault g⟩⟩

theorem Looks.cases {m : Run α} {f : String → Memory → Except Fault α} (h : Looks m f)
    (s : Surroundings) (w : World) :
    ∃ n, (∃ e, m s w = (.error e, w.afterReads n)) ∨
      ∃ x, m s w = (.ok x, w.afterReads n) ∧ f w.framework w.store = .ok x := by
  obtain ⟨n, hrun | ⟨-, reason, -, hrun⟩⟩ := h s w
  · refine ⟨n, ?_⟩
    cases hf : f w.framework w.store with
    | error e => exact Or.inl ⟨e, hf ▸ hrun⟩
    | ok x => exact Or.inr ⟨x, hf ▸ hrun, rfl⟩
  · exact ⟨n, Or.inl ⟨_, hrun⟩⟩

/-- What follows a look is not reached, because a read failed or because of what was seen, or goes
on with what was seen. -/
theorem Looks.bind_cases {m : Run α} {f : String → Memory → Except Fault α} (h : Looks m f)
    (g : α → Run β) (s : Surroundings) (w : World) :
    (∃ e n, (m >>= g) s w = (.error e, w.afterReads n) ∧
        ((∃ k reason, s.readFault k = some reason) ∨ f w.framework w.store = .error e)) ∨
      ∃ x n, (m >>= g) s w = g x s (w.afterReads n) ∧ f w.framework w.store = .ok x := by
  obtain ⟨n, hrun | ⟨k, reason, hk, hrun⟩⟩ := h s w
  · cases hf : f w.framework w.store with
    | error e => exact Or.inl ⟨e, n, bind_of_error (hf ▸ hrun) g, Or.inr rfl⟩
    | ok x => exact Or.inr ⟨x, n, bind_of_ok (hf ▸ hrun) g, rfl⟩
  · exact Or.inl ⟨_, n, bind_of_error hrun g, Or.inl ⟨k, reason, hk⟩⟩

theorem Looks.moves {m : Run α} {f : String → Memory → Except Fault α} (h : Looks m f)
    (s : Surroundings) (w : World) : Moves w w.store [] (m s w).2 := by
  obtain ⟨n, hrun | ⟨-, reason, -, hrun⟩⟩ := h s w
  · rw [hrun]
    exact moves_afterReads w n
  · rw [hrun]
    exact moves_afterReads w n

theorem Looks.run {m : Run α} {f : String → Memory → Except Fault α} (h : Looks m f)
    (hread : ∀ k, s.readFault k = none) (w : World) :
    ∃ n, m s w = (f w.framework w.store, w.afterReads n) := by
  obtain ⟨n, hrun | ⟨k, reason, hk, -⟩⟩ := h s w
  · exact ⟨n, hrun⟩
  · rw [hread k] at hk
    cases hk

/-! ### Writing -/

/-- A write changes the store as it should, or fails and changes nothing. -/
theorem write_cases (f : Memory → α × Memory) (s : Surroundings) (w : World) :
    ∃ w', write f s w = (.ok (f w.store).1, w') ∧ Moves w (f w.store).2 [] w' ∨
      ∃ reason, write f s w = (.error (.store (.unavailable reason)), w') ∧
      Moves w w.store [] w' := by
  refine ⟨(write f s w).2, ?_⟩
  simp only [write]
  cases s.writeFault w.tally.writes with
  | none =>
    exact Or.inl ⟨rfl, rfl, (List.append_nil _).symm, (List.append_nil _).symm, rfl, rfl, rfl, rfl⟩
  | some reason =>
    exact Or.inr ⟨reason, rfl, rfl, (List.append_nil _).symm, (List.append_nil _).symm, rfl, rfl,
      rfl, rfl⟩

end Run

end Stevedore.Scheduling
