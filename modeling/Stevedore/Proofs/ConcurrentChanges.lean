import Stevedore.Proofs.Shutdown

/-!
# Changes at the same time

Every change of the wanted numbers is made in two steps, and the steps of several changes may come
in any order (`Changing.run`). Whether the cluster is shut down in the end is decided by the first
steps alone, in their order (`isShutDown_run`).

The numbers come out as if the changes had been made one after the other (`changes_in_some_order`)
if two things do not happen: that a shutdown sets numbers aside while another change has still to be
published, and that a change is published before a shutdown or a start that began earlier. If the
first happens a number may be published while the cluster is shut down, and is lost with the next
start; if the second happens all numbers may be lost (`changes_cross`).
-/

namespace Stevedore

/-! ### Changes and their steps -/

/-- A change that an operator asks for. -/
inductive Change where
  /-- Another number of tasks of a role. -/
  | scale (role : Role) (n : UInt32)
  /-- No tasks until the next start. -/
  | shutdown
  /-- The numbers of tasks from before the shutdown. -/
  | start
  deriving DecidableEq, Repr

namespace Change

/-- The first step of a change, and what its second step is to publish. -/
def enter (h : ConfigHandle) : Change → ConfigHandle × Option Publication
  | scale role n => h.beginScale role n
  | shutdown => h.beginShutdown
  | start => h.beginStart

/-- A change as a whole. -/
def make (h : ConfigHandle) : Change → ConfigHandle
  | scale role n => h.scale role n
  | shutdown => h.shutdown
  | start => h.start

/-- Changes as wholes, one after the other. -/
def makeAll (h : ConfigHandle) (changes : List Change) : ConfigHandle :=
  changes.foldl make h

theorem make_eq (h : ConfigHandle) (c : Change) :
    c.make h = (c.enter h).1.publish (c.enter h).2 := by
  cases c <;> rfl

theorem makeAll_concat (h : ConfigHandle) (changes : List Change) (c : Change) :
    makeAll h (changes ++ [c]) = c.make (makeAll h changes) :=
  List.foldl_concat ..

theorem consistent_make {h : ConfigHandle} (hzero : h.Consistent) (c : Change) :
    (c.make h).Consistent := by
  cases c with
  | scale role n => exact hzero.scale role n
  | shutdown => exact hzero.shutdown
  | start => exact ConfigHandle.consistent_start h

theorem consistent_makeAll {h : ConfigHandle} (hzero : h.Consistent) (changes : List Change) :
    (makeAll h changes).Consistent := by
  induction changes generalizing h with
  | nil => exact hzero
  | cons c rest ih => exact ih (consistent_make hzero c)

/-- The number that a change asks for a role. -/
def asked? (role : Role) : Change → Option UInt32
  | scale other n => if other = role then some n else none
  | _ => none

/-- Of changes that are made one after the other no number is lost. -/
theorem intended_makeAll (h : ConfigHandle) (changes : List Change) (role : Role) :
    (makeAll h changes).intended role =
      ((changes.filterMap (asked? role)).getLast?).getD (h.intended role) := by
  induction changes using List.reverseRecOn with
  | nil => rfl
  | append_singleton changes last ih =>
    rw [makeAll_concat, List.filterMap_append, List.getLast?_append]
    cases last with
    | scale other n =>
      show ((makeAll h changes).scale other n).intended role = _
      rw [ConfigHandle.intended_scale, ih, List.filterMap_cons, asked?]
      by_cases hrole : other = role
      · rw [if_pos hrole, if_pos hrole.symm]
        rfl
      · rw [if_neg hrole, if_neg (Ne.symm hrole)]
        rfl
    | shutdown => exact (ConfigHandle.intended_shutdown _ role).trans ih
    | start => exact (ConfigHandle.intended_start _ role).trans ih

end Change

/-- A handle while changes are under way. -/
structure Changing where
  /-- The handle. -/
  handle : ConfigHandle
  /-- What each change under way has still to publish, in the order of their first steps. -/
  underWay : List (Option Publication)

namespace Changing

/-- What happens next. -/
inductive Step where
  /-- A change begins with its first step. -/
  | enter (change : Change)
  /-- One of the changes under way takes its second step. -/
  | publish (i : Nat)
  deriving DecidableEq, Repr

/-- What a step does. -/
def step (x : Changing) : Step → Changing
  | .enter c => ⟨(c.enter x.handle).1, x.underWay ++ [(c.enter x.handle).2]⟩
  | .publish i =>
    match x.underWay[i]? with
    | some change => ⟨x.handle.publish change, x.underWay.eraseIdx i⟩
    | none => x

/-- What steps do, one after the other. -/
def run (x : Changing) (steps : List Step) : Changing :=
  steps.foldl step x

/-- The handle when no change is under way. -/
def ofHandle (h : ConfigHandle) : Changing := ⟨h, []⟩

/-- The changes that begin with some steps. -/
def begun (steps : List Step) : List Change :=
  steps.filterMap fun
    | .enter c => some c
    | .publish _ => none

variable {x : Changing} {i : Nat} {change : Option Publication}

theorem step_publish_of_some (h : x.underWay[i]? = some change) :
    x.step (.publish i) = ⟨x.handle.publish change, x.underWay.eraseIdx i⟩ := by
  unfold step
  simp only [h]

theorem step_publish_of_none (h : x.underWay[i]? = none) : x.step (.publish i) = x := by
  unfold step
  simp only [h]

theorem begun_concat_enter (steps : List Step) (c : Change) :
    begun (steps ++ [.enter c]) = begun steps ++ [c] :=
  List.filterMap_append

theorem begun_concat_publish (steps : List Step) (i : Nat) :
    begun (steps ++ [.publish i]) = begun steps :=
  List.filterMap_append.trans (List.append_nil _)

theorem run_concat (x : Changing) (steps : List Step) (last : Step) :
    x.run (steps ++ [last]) = (x.run steps).step last :=
  List.foldl_concat ..

/-! ### Whether the cluster is shut down -/

theorem isShutDown_publish (h : ConfigHandle) (change : Option Publication) :
    (h.publish change).isShutDown = h.isShutDown := by
  cases change <;> rfl

theorem isShutDown_enter_congr {h h' : ConfigHandle} (hsame : h'.isShutDown = h.isShutDown)
    (c : Change) : (c.enter h').1.isShutDown = (c.enter h).1.isShutDown := by
  obtain ⟨current, parked, published⟩ := h
  obtain ⟨current', parked', published'⟩ := h'
  cases parked <;> cases parked' <;> cases c <;> first | rfl | cases hsame

/-- **Whether the cluster is shut down** is at all times as if the changes that have begun had been
made as wholes when they began. -/
theorem isShutDown_run (h : ConfigHandle) (steps : List Step) :
    (run (ofHandle h) steps).handle.isShutDown = (Change.makeAll h (begun steps)).isShutDown := by
  induction steps using List.reverseRecOn with
  | nil => rfl
  | append_singleton steps last ih =>
    rw [run_concat]
    cases last with
    | enter c =>
      rw [begun_concat_enter, Change.makeAll_concat, Change.make_eq, isShutDown_publish]
      exact isShutDown_enter_congr ih c
    | publish i =>
      rw [begun_concat_publish, ← ih]
      cases hi : ((ofHandle h).run steps).underWay[i]? with
      | none => rw [step_publish_of_none hi]
      | some change =>
        rw [step_publish_of_some hi]
        exact isShutDown_publish _ _

/-! ### Steps that keep changes in order -/

/-- The number that a change under way has still to publish, as the change that asks for it. -/
def late? : Option Publication → Option Change
  | some (.one role n) => some (.scale role n)
  | _ => none

/-- The numbers of all roles that a shutdown or a start under way has still to publish. -/
def counts? : Option Publication → Option Counts
  | some (.all counts) => some counts
  | _ => none

/-- What a step must not do: set numbers aside while something has still to be published, or
publish something before a shutdown or a start that began earlier. -/
def Allows (x : Changing) : Step → Prop
  | .enter .shutdown => x.handle.isShutDown = false → ∀ change ∈ x.underWay, change = none
  | .enter _ => True
  | .publish i => x.underWay[i]?.join ≠ none → ∀ change ∈ x.underWay.take i, counts? change = none

instance (x : Changing) (first : Step) : Decidable (x.Allows first) :=
  match first with
  | .enter .shutdown => inferInstanceAs (Decidable (x.handle.isShutDown = false → _))
  | .enter (.scale _ _) | .enter .start => inferInstanceAs (Decidable True)
  | .publish i => inferInstanceAs (Decidable (x.underWay[i]?.join ≠ none → _))

/-- All of some steps keep changes in order. -/
def Orderly (x : Changing) : List Step → Prop
  | [] => True
  | first :: rest => x.Allows first ∧ Orderly (x.step first) rest

instance Orderly.decide (x : Changing) : (steps : List Step) → Decidable (x.Orderly steps)
  | [] => inferInstanceAs (Decidable True)
  | first :: rest =>
    have := Orderly.decide (x.step first) rest
    inferInstanceAs (Decidable (x.Allows first ∧ _))

/-- The numbers that have still to be published one by one. -/
def late (x : Changing) : List Change :=
  x.underWay.filterMap late?

/-- The numbers of all roles that have still to be published together. -/
def counts (x : Changing) : List Counts :=
  x.underWay.filterMap counts?

/-- The handle after numbers of all roles have been published, one after the other. -/
def settle (h : ConfigHandle) (all : List Counts) : ConfigHandle :=
  { h with
    current := all.foldl Config.setCounts h.current
    published := h.published + all.length }

theorem settle_concat (h : ConfigHandle) (all : List Counts) (counts : Counts) :
    settle h (all ++ [counts]) = (settle h all).publish (some (.all counts)) := by
  unfold settle
  rw [List.foldl_concat, List.length_append]
  rfl

/-- `Serial h begun x order`: the changes `begun` have led from the handle `h` to `x`, as far as
they have got. All of them but those that have a single number to publish count as made, in the
order `order`; what a shutdown or a start has still to publish would be the last word. -/
structure Serial (h : ConfigHandle) (begun : List Change) (x : Changing) (order : List Change) :
    Prop where
  perm : (order ++ x.late).Perm begun
  made : Change.makeAll h order = settle x.handle x.counts
  running : x.late ≠ [] → x.handle.parked = none
  apart : x.underWay.Pairwise fun first second => late? first = none ∨ counts? second = none

theorem serial_ofHandle (h : ConfigHandle) : Serial h [] (ofHandle h) [] :=
  ⟨.refl _, rfl, fun hne => absurd rfl hne, .nil⟩

namespace Serial

variable {h : ConfigHandle} {changes order : List Change}

/-- A change that has no single number to publish counts as made when it begins. -/
theorem enter_made (hserial : Serial h changes x order) (c : Change)
    (hlate : late? (c.enter x.handle).2 = none)
    (hmade : c.make (settle x.handle x.counts) =
      settle (c.enter x.handle).1 (x.counts ++ (counts? (c.enter x.handle).2).toList))
    (hrunning : x.late ≠ [] → (c.enter x.handle).1.parked = none)
    (hapart : ∀ first ∈ x.underWay, late? first = none ∨ counts? (c.enter x.handle).2 = none) :
    Serial h (changes ++ [c]) (x.step (.enter c)) (order ++ [c]) := by
  have hsame : (x.step (.enter c)).late = x.late := by
    show (x.underWay ++ [_]).filterMap late? = _
    rw [List.filterMap_append, List.filterMap_cons, hlate]
    exact List.append_nil _
  refine ⟨?_, ?_, ?_, ?_⟩
  · rw [hsame, List.append_assoc]
    refine (List.perm_append_comm.append_left order).trans ?_
    rw [← List.append_assoc]
    exact hserial.perm.append_right [c]
  · have hcounts : (x.step (.enter c)).counts =
        x.counts ++ (counts? (c.enter x.handle).2).toList := by
      show (x.underWay ++ [_]).filterMap counts? = _
      rw [List.filterMap_append, List.filterMap_cons]
      cases counts? (c.enter x.handle).2 <;> rfl
    rw [Change.makeAll_concat, hserial.made, hmade, hcounts]
    rfl
  · rw [hsame]
    exact hrunning
  · exact List.pairwise_append.2 ⟨hserial.apart, List.pairwise_singleton _ _, fun first hfirst
      second hsecond => List.mem_singleton.1 hsecond ▸ hapart first hfirst⟩

/-- While numbers are set aside, no single one has still to be published. -/
theorem late?_eq_none (hserial : Serial h changes x order) (hshut : x.handle.parked ≠ none) :
    x.late = [] ∧ ∀ first ∈ x.underWay, late? first = none := by
  have hlate : x.late = [] := by
    by_contra hne
    exact hshut (hserial.running hne)
  exact ⟨hlate, List.filterMap_eq_nil_iff.1 hlate⟩

/-- A single number that has to be published does not count yet. -/
theorem enter_late {current : Config} {published : Nat} {underWay : List (Option Publication)}
    (hserial : Serial h changes ⟨⟨current, none, published⟩, underWay⟩ order) (role : Role)
    (n : UInt32) :
    Serial h (changes ++ [.scale role n])
      ⟨⟨current, none, published⟩, underWay ++ [some (Publication.one role n)]⟩ order := by
  have hlate : (underWay ++ [some (Publication.one role n)]).filterMap late? =
      underWay.filterMap late? ++ [.scale role n] := List.filterMap_append
  have hcounts : (underWay ++ [some (Publication.one role n)]).filterMap counts? =
      underWay.filterMap counts? := List.filterMap_append.trans (List.append_nil _)
  refine ⟨?_, ?_, fun _ => rfl, ?_⟩
  · rw [late, hlate, ← List.append_assoc]
    exact hserial.perm.append_right _
  · rw [counts, hcounts]
    exact hserial.made
  · exact List.pairwise_append.2 ⟨hserial.apart, List.pairwise_singleton _ _, fun _ _ second
      hsecond => Or.inr (List.mem_singleton.1 hsecond ▸ rfl)⟩

/-- **What a first step keeps.** -/
theorem enter (hserial : Serial h changes x order) {c : Change} (hallows : x.Allows (.enter c)) :
    ∃ order', Serial h (changes ++ [c]) (x.step (.enter c)) order' := by
  have hnothing : settle x.handle (x.counts ++ []) = settle x.handle x.counts := by
    rw [List.append_nil]
  obtain ⟨⟨current, parked, published⟩, underWay⟩ := x
  cases parked with
  | some counts =>
    -- nothing is late, and only a start has something to publish
    obtain ⟨hlate, hnone⟩ := hserial.late?_eq_none nofun
    refine ⟨order ++ [c], ?_⟩
    cases c with
    | scale role n =>
      refine hserial.enter_made _ rfl ?_ (fun hne => absurd hlate hne) fun _ _ => Or.inr rfl
      show _ = settle _ (_ ++ [])
      rw [List.append_nil]
      rfl
    | shutdown =>
      exact hserial.enter_made _ rfl hnothing.symm (fun hne => absurd hlate hne)
        fun _ _ => Or.inr rfl
    | start =>
      refine hserial.enter_made _ rfl ?_ (fun _ => rfl) fun first hfirst =>
        Or.inl (hnone first hfirst)
      exact (settle_concat ⟨current, none, published⟩ _ counts).symm
  | none =>
    cases c with
    | scale role n => exact ⟨order, hserial.enter_late role n⟩
    | shutdown =>
      have hquiet : ∀ change ∈ underWay, change = none := hallows rfl
      have hlate : ∀ change ∈ underWay, late? change = none := fun change hchange =>
        (hquiet change hchange) ▸ rfl
      have hcounts : underWay.filterMap counts? = [] :=
        List.filterMap_eq_nil_iff.2 fun change hchange => (hquiet change hchange) ▸ rfl
      refine ⟨_, hserial.enter_made _ rfl ?_
        (fun hne => absurd (List.filterMap_eq_nil_iff.2 hlate) hne)
        fun first hfirst => Or.inl (hlate first hfirst)⟩
      -- the numbers that are set aside are those of the configuration in force
      show Change.shutdown.make (settle _ (underWay.filterMap counts?)) =
        settle _ (underWay.filterMap counts? ++ [⟨0, 0, 0⟩])
      rw [hcounts]
      rfl
    | start =>
      exact ⟨_, hserial.enter_made _ rfl hnothing.symm (fun _ => rfl) fun _ _ => Or.inr rfl⟩

/-- Where one of the changes under way stands among the others. -/
theorem exists_split (hi : x.underWay[i]? = some change) :
    ∃ before after, x.underWay.take i = before ∧ x.underWay = before ++ change :: after ∧
      x.underWay.eraseIdx i = before ++ after := by
  obtain ⟨hlt, hget⟩ := List.getElem?_eq_some_iff.1 hi
  refine ⟨_, x.underWay.drop (i + 1), rfl, ?_, List.eraseIdx_eq_take_drop_succ ..⟩
  rw [← hget, ← List.drop_eq_getElem_cons hlt, List.take_append_drop]

/-- A single number counts as made when it is published. -/
theorem publish_one {handle : ConfigHandle} {before after : List (Option Publication)} {role : Role}
    {n : UInt32}
    (hserial : Serial h changes ⟨handle, before ++ some (.one role n) :: after⟩ order)
    (hbefore : before.filterMap counts? = []) :
    Serial h changes ⟨handle.publish (some (.one role n)), before ++ after⟩
      (order ++ [.scale role n]) := by
  obtain ⟨perm, made, running, apart⟩ := hserial
  have hlate : (before ++ some (Publication.one role n) :: after).filterMap late? =
      before.filterMap late? ++ .scale role n :: after.filterMap late? := List.filterMap_append
  have hafter : after.filterMap counts? = [] := by
    refine List.filterMap_eq_nil_iff.2 fun second hsecond => ?_
    have htail := (List.pairwise_append.1 apart).2.1
    exact (List.rel_of_pairwise_cons htail hsecond).resolve_left nofun
  have hcounts : (before ++ some (Publication.one role n) :: after).filterMap counts? = [] := by
    rw [List.filterMap_append, hbefore]
    exact hafter
  have hrunning : handle.parked = none := by
    refine running ?_
    rw [late, hlate]
    exact List.append_ne_nil_of_right_ne_nil _ (List.cons_ne_nil _ _)
  refine ⟨?_, ?_, fun _ => hrunning, apart.sublist ?_⟩
  · rw [late, List.filterMap_append, List.append_assoc, List.singleton_append]
    rw [late, hlate] at perm
    exact (List.perm_middle.symm.append_left order).trans perm
  · rw [Change.makeAll_concat, made, counts, hcounts, counts, List.filterMap_append, hbefore,
      hafter]
    obtain ⟨current, parked, published⟩ := handle
    cases hrunning
    rfl
  · exact (List.sublist_cons_self _ _).append_left _

/-- Numbers of all roles are published in the order in which they count as made. -/
theorem publish_all {handle : ConfigHandle} {before after : List (Option Publication)}
    {all : Counts} (hserial : Serial h changes ⟨handle, before ++ some (.all all) :: after⟩ order)
    (hbefore : before.filterMap counts? = []) :
    Serial h changes ⟨handle.publish (some (.all all)), before ++ after⟩ order := by
  obtain ⟨perm, made, running, apart⟩ := hserial
  have hlate : (before ++ some (Publication.all all) :: after).filterMap late? =
      (before ++ after).filterMap late? := by
    rw [List.filterMap_append, List.filterMap_append]
    rfl
  have hcounts : (before ++ some (Publication.all all) :: after).filterMap counts? =
      all :: after.filterMap counts? := by
    rw [List.filterMap_append, hbefore]
    rfl
  refine ⟨?_, ?_, ?_, apart.sublist ((List.sublist_cons_self _ _).append_left _)⟩
  · rw [late, ← hlate]
    exact perm
  · rw [made, counts, hcounts, counts, List.filterMap_append, hbefore]
    unfold settle
    rw [List.length_cons, Nat.add_comm _ 1, ← Nat.add_assoc]
    rfl
  · rw [late, ← hlate]
    exact running

/-- **What a second step keeps.** -/
theorem publish (hserial : Serial h changes x order) (hallows : x.Allows (.publish i)) :
    ∃ order', Serial h changes (x.step (.publish i)) order' := by
  cases hi : x.underWay[i]? with
  | none =>
    rw [step_publish_of_none hi]
    exact ⟨order, hserial⟩
  | some change =>
    obtain ⟨before, after, htake, hsplit, herase⟩ := exists_split hi
    have hx : x = ⟨x.handle, before ++ change :: after⟩ := by rw [← hsplit]
    rw [step_publish_of_some hi, herase]
    rw [hx] at hserial
    cases change with
    | none =>
      obtain ⟨perm, made, running, apart⟩ := hserial
      have hsame : ∀ {α : Type} (f : Option Publication → Option α), f none = none →
          (before ++ none :: after).filterMap f = (before ++ after).filterMap f := by
        intro α f hf
        rw [List.filterMap_append, List.filterMap_append, List.filterMap_cons, hf]
      rw [late, hsame late? rfl] at perm running
      rw [counts, hsame counts? rfl] at made
      exact ⟨order, perm, made, running,
        apart.sublist ((List.sublist_cons_self _ _).append_left _)⟩
    | some p =>
      have hbefore : before.filterMap counts? = [] := by
        rw [← htake]
        exact List.filterMap_eq_nil_iff.2 (hallows (by rw [hi]; exact nofun))
      cases p with
      | one role n => exact ⟨_, hserial.publish_one hbefore⟩
      | all counts => exact ⟨_, hserial.publish_all hbefore⟩

/-- What any steps keep that keep changes in order. -/
theorem run (hserial : Serial h changes x order) {steps : List Step} (horderly : x.Orderly steps) :
    ∃ order', Serial h (changes ++ begun steps) (x.run steps) order' := by
  induction steps generalizing x changes order with
  | nil =>
    refine ⟨order, ?_⟩
    rw [begun, List.filterMap_nil, List.append_nil]
    exact hserial
  | cons first rest ih =>
    obtain ⟨hfirst, hrest⟩ := horderly
    cases first with
    | enter c =>
      obtain ⟨order₁, hserial₁⟩ := hserial.enter hfirst
      obtain ⟨order₂, hserial₂⟩ := ih hserial₁ hrest
      rw [List.append_assoc] at hserial₂
      exact ⟨order₂, hserial₂⟩
    | publish i =>
      obtain ⟨order₁, hserial₁⟩ := hserial.publish hfirst
      exact ih hserial₁ hrest

end Serial

/-! ### Changes in some order -/

/-- **Changes come out as if they had been made one after the other**, if their steps keep them in
order: once none is under way any more, the handle is the one that the same changes as wholes lead
to in some order. So of every role that number is wanted, now or after the next start, which was
asked for last in this order; and if no tasks were wanted while the cluster was shut down, then none
are now. -/
theorem changes_in_some_order {h : ConfigHandle} {steps : List Step}
    (horderly : (ofHandle h).Orderly steps) (hdone : ((ofHandle h).run steps).underWay = []) :
    ∃ order : List Change, order.Perm (begun steps) ∧
      ((ofHandle h).run steps).handle = Change.makeAll h order ∧
      (∀ role, ((ofHandle h).run steps).handle.intended role =
        ((order.filterMap (Change.asked? role)).getLast?).getD (h.intended role)) ∧
      (h.Consistent → ((ofHandle h).run steps).handle.Consistent) := by
  obtain ⟨order, perm, made, -, -⟩ := (serial_ofHandle h).run horderly
  rw [late, hdone, List.filterMap_nil, List.append_nil] at perm
  rw [counts, hdone] at made
  have hmade : ((ofHandle h).run steps).handle = Change.makeAll h order := made.symm
  refine ⟨order, perm, hmade, fun role => ?_, fun hzero => ?_⟩
  · rw [hmade]
    exact Change.intended_makeAll h order role
  · rw [hmade]
    exact Change.consistent_makeAll hzero order

/-- Two numbers are published in the other order, one is asked for during a shutdown, and the start
after it begins before the shutdown has published anything. -/
theorem five_changes_in_some_order :
    let h : ConfigHandle := .ofConfig {}
    let steps : List Step :=
      [.enter (.scale .agent 5), .enter (.scale .agent 4), .publish 1, .publish 0,
        .enter .shutdown, .enter (.scale .server 2), .enter .start, .publish 1, .publish 0,
        .publish 0]
    (ofHandle h).Orderly steps ∧ ((ofHandle h).run steps).underWay = [] ∧
      ∃ order : List Change, order.Perm (begun steps) ∧
        ((ofHandle h).run steps).handle = Change.makeAll h order ∧
        (∀ role, ((ofHandle h).run steps).handle.intended role =
          ((order.filterMap (Change.asked? role)).getLast?).getD (h.intended role)) ∧
        (h.Consistent → ((ofHandle h).run steps).handle.Consistent) := by
  intro h steps
  have horderly : (ofHandle h).Orderly steps := by decide +kernel
  have hdone : ((ofHandle h).run steps).underWay = [] := rfl
  exact ⟨horderly, hdone, changes_in_some_order horderly hdone⟩

/-- **Changes that cross may come out as in no order.** A number that is asked for before a shutdown
and published after it is wanted although the cluster is shut down, and is not among the numbers set
aside; and when a start has taken the numbers back and published them before the shutdown publishes
its own, nothing is wanted although the cluster runs, and no numbers are set aside. -/
theorem changes_cross :
    let h : ConfigHandle := .ofConfig {}
    let belated := ((ofHandle h).run
      [.enter (.scale .agent 5), .enter .shutdown, .publish 1, .publish 0])
    let overtaken := ((ofHandle h).run [.enter .shutdown, .enter .start, .publish 1, .publish 0])
    (belated.underWay = [] ∧ belated.handle.isShutDown = true ∧
      belated.handle.current.counts = ⟨0, 0, 5⟩ ∧ belated.handle.parked = some ⟨1, 1, 1⟩ ∧
      ∀ order : List Change, order.Perm [.scale .agent 5, .shutdown] →
        (Change.makeAll h order).current.counts = ⟨0, 0, 0⟩ ∧
        (Change.makeAll h order).parked = some ⟨1, 1, 5⟩) ∧
    (overtaken.underWay = [] ∧ overtaken.handle.isShutDown = false ∧
      overtaken.handle.current.counts = ⟨0, 0, 0⟩ ∧
      ∀ order : List Change, order.Perm [.shutdown, .start] →
        (Change.makeAll h order).isShutDown = true ∨
        (Change.makeAll h order).current.counts = ⟨1, 1, 1⟩) := by
  intro h belated overtaken
  have hbelated : ∀ order ∈ [Change.scale .agent 5, .shutdown].permutations',
      (Change.makeAll h order).current.counts = ⟨0, 0, 0⟩ ∧
        (Change.makeAll h order).parked = some ⟨1, 1, 5⟩ := by
    decide +kernel
  have hovertaken : ∀ order ∈ [Change.shutdown, .start].permutations',
      (Change.makeAll h order).isShutDown = true ∨
        (Change.makeAll h order).current.counts = ⟨1, 1, 1⟩ := by
    decide +kernel
  exact ⟨⟨rfl, rfl, rfl, rfl, fun order hperm => hbelated order (List.mem_permutations'.2 hperm)⟩,
    rfl, rfl, rfl, fun order hperm => hovertaken order (List.mem_permutations'.2 hperm)⟩

end Changing

end Stevedore
