import Stevedore.Proofs.HeldOffers

/-!
# Tasks that wait for offers

Offers are not held back from a task that waits for one if the process knows when they are, or if
every request for them is taken (`offers_for_pending_tasks`). Where both fail, they can be: a
request for offers that was refused is not repeated by a process that takes offers to be flowing
(`datastore_without_offers`).
-/

namespace Stevedore.Scheduling

open Store (Memory)

variable {s : Surroundings} {w w' : World}

/-! ### Requests that are refused -/

/-- A world without tasks. -/
structure Bare (cfg : Config) (w : World) : Prop where
  framework : w.framework = cfg.framework.name
  config : w.config.current = cfg
  blank : ∀ role id, w.store.get? (Key.task w.framework role id) = none
  readable : Readable w.framework w.store

/-- A world in which a datastore waits for an offer, which the process takes to be on its way. -/
structure Waiting (cfg : Config) (w : World) : Prop where
  framework : w.framework = cfg.framework.name
  config : w.config.current = cfg
  kept : Kept w.framework w.store
  readable : Readable w.framework w.store
  settled : ∀ r ∈ w.store.records w.framework, r.state ≠ .unset
  pending : ∃ id, PendingAt w.store (Key.task w.framework .datastore id)
  unsuppressed : w.suppressed = false

theorem Bare.kept {cfg : Config} (h : Bare cfg w) : Kept w.framework w.store :=
  kept_of_no_records fun role id => by rw [Memory.record?, h.blank, Option.bind_none]

theorem Bare.records_eq_nil {cfg : Config} (h : Bare cfg w) : w.store.records w.framework = [] := by
  rw [List.eq_nil_iff_forall_not_mem]
  intro r hr
  obtain ⟨role, id, hr⟩ := Memory.mem_records_iff.1 hr
  rw [Memory.record?, h.blank, Option.bind_none] at hr
  cases hr

/-- Events and subscriptions create no tasks. -/
theorem Bare.turn {cfg : Config} (h : Bare cfg w) (s : Surroundings) {turn : Turn}
    (hturn : turn ≠ .cycle) : Bare cfg (turn.run s w) := by
  cases turn with
  | cycle => exact absurd rfl hturn
  | subscribe opened =>
    show Bare cfg (Run.subscribe opened s w).2
    obtain ⟨n, hrun | ⟨info, hrun⟩⟩ := subscribe_cases opened s w
    · rw [hrun]
      exact ⟨h.framework, h.config, h.blank, h.readable⟩
    · rw [hrun]
      exact ⟨h.framework, h.config, h.blank, h.readable⟩
  | event e =>
    let may (x : Liberty) : Prop := x = .signal ∨ x = .reset ∨ ∃ status, x = .report status
    have hbuilt : Run.Built may (Run.offersOf e) (Run.handleEvent e) :=
      Run.built_handleEvent (Or.inl rfl) (Or.inr (Or.inl rfl))
        fun status _ => Or.inr (Or.inr ⟨status, rfl⟩)
    have hconfined := hbuilt.confined s w
    have hupkeep := hbuilt.upkeep (by simp [may]) s h.kept
    show Bare cfg (Run.handleEvent e s w).2
    refine ⟨hconfined.framework.trans h.framework, ?_, fun role id => ?_, ?_⟩
    · rw [hconfined.config (by simp [may]), h.config]
    · rw [hconfined.framework, ← Option.not_isSome_iff_eq_none]
      intro hpresent
      have hbefore := hupkeep.present hpresent
      rw [h.blank] at hbefore
      cases hbefore
    · rw [hconfined.framework]
      exact hbuilt.readable (by simp [may]) s h.kept h.readable

theorem bare_start (cfg : Config) (nodes : NodeSource) : Bare cfg (.start cfg ∅ nodes) :=
  ⟨rfl, rfl, fun _ _ => rfl, readable_of_absent rfl rfl⟩

theorem Bare.runTurns {cfg : Config} (h : Bare cfg w) (s : Surroundings) {turns : List Turn}
    (hturns : ∀ turn ∈ turns, turn ≠ .cycle) : Bare cfg (runTurns s w turns) := by
  induction turns generalizing w with
  | nil => exact h
  | cons turn rest ih =>
    exact ih (h.turn s (hturns turn List.mem_cons_self)) fun other hother =>
      hturns other (List.mem_cons_of_mem turn hother)

/-- A configuration by which one datastore is wanted and nothing else. -/
structure Modest (cfg : Config) : Prop where
  feasible : Feasible cfg
  datastore : cfg.desired .datastore = 1
  server : cfg.desired .server = 0
  agent : cfg.desired .agent = 0

theorem revive_of_refused {fault : Manager.Fault}
    (h : s.delivery w.tally.calls .reviving = .refused fault) :
    ∃ e w', Run.revive s w = (.error e, w') ∧
      Run.Moves w w.store [⟨.reviving, .refused fault, w.store⟩] w' := by
  obtain ⟨delivery, w', hdelivery, hmoves, hsay⟩ := Run.say_cases .reviving false s w
  rw [h] at hdelivery
  subst hdelivery
  obtain ⟨-, e, hrevive⟩ := hsay.resolve_left fun happlied => nomatch happlied.1
  exact ⟨e, w', hrevive, hmoves⟩

section Refused

variable {cfg : Config} (hcfg : Modest cfg) (hsteady : s.Steady)
include hcfg hsteady

/-- A cycle makes a datastore wait for an offer, and stops when the request for offers is
refused. -/
theorem cycle_of_bare (hrefused : ∀ n, ∃ fault, s.delivery n .reviving = .refused fault)
    (h : Bare cfg w) (hunsuppressed : w.suppressed = false) :
    Waiting cfg (Run.cycle s w).2 ∧ (Run.cycle s w).2.heldBack = w.heldBack := by
  have hname : cfg.framework.name = w.framework := h.framework.symm
  obtain ⟨settings, identity, report, w₁, id, htick, hadds, hpending⟩ :=
    tick_of_no_records hcfg.feasible hname hsteady.reads hsteady.writes h.readable
      h.records_eq_nil
  have hbuilt : Run.Built (.create = ·) [] (Run.tick cfg) := Run.built_tick rfl cfg
  have hticked := ticked_tick hname h.kept s
  have hconfined := hbuilt.confined s w
  have hheld := hbuilt.heldBack (by simp) s w
  rw [htick] at hticked hconfined hheld
  have hcycle : Run.cycle s w = Run.followUp report s w₁ := by
    rw [Run.cycle_run, h.config]
    exact Run.bind_of_ok htick _
  obtain ⟨n, w₂, hmoves, hupkeep, hsettled, hpromote⟩ :=
    Run.promoteUnset_steady hsteady hticked.kept
  rcases hpromote with ⟨-, hstore, -⟩ | ⟨-, hpromote⟩
  · -- the new datastore cannot have been settled
    rw [hstore] at hsettled
    have hpending₁ : w₁.isPending = true := by
      rw [← hadds.framework] at hpending
      exact hpending.isPending
    have hpending₀ := isPending_of_adds hadds hsettled hpending₁
    rw [World.isPending, h.records_eq_nil] at hpending₀
    cases hpending₀
  · obtain ⟨fault, hfault⟩ := hrefused w₂.tally.calls
    obtain ⟨e, w₃, hrevive, hcalled⟩ := revive_of_refused hfault
    have hpromoted : Run.promoteUnset s w₁ = (.error e, w₃) :=
      hpromote.trans (Run.bind_of_error hrevive _)
    have hfollow : Run.followUp report s w₁ = (.error e, w₃) := Run.bind_of_error hpromoted _
    have hall := hmoves.andThen hcalled
    have hframework : w₃.framework = w.framework := hall.framework.trans hticked.framework
    have hfollowUp : Run.Built (.signal = ·) [] (Run.followUp report) :=
      Run.built_followUp rfl report
    have hreadable := hfollowUp.readable (by simp) s hticked.kept (hticked.readable h.readable)
    have hwaits := pendingAt_promoteUnset s w₁ hpending
    rw [hfollow] at hreadable
    rw [hpromoted] at hwaits
    rw [hcycle, hfollow]
    refine ⟨⟨hframework.trans h.framework, ?_, ?_, ?_, ?_, ⟨id, ?_⟩, ?_⟩, ?_⟩
    · rw [hall.config, hconfined.config (by simp), h.config]
    · rw [hall.framework, hcalled.store]
      exact hupkeep.kept hticked.kept
    · rw [hall.framework]
      exact hreadable
    · rw [hall.framework, hcalled.store]
      exact hsettled
    · rw [hframework]
      exact hwaits
    · rw [hall.suppressed, hconfined.suppressed (by simp) (by simp), hunsuppressed]
    · rw [hall.heldBack_eq]
      exact hheld

/-- The next cycle ends well and asks for nothing. -/
theorem cycle_of_waiting (h : Waiting cfg w) :
    ∃ report w', Run.cycle s w = (.ok report, w') ∧ w'.isPending = true ∧
      w'.heldBack = w.heldBack := by
  have hname : cfg.framework.name = w.framework := h.framework.symm
  obtain ⟨settings, identity, report, w₁, htick, -, hadds, -⟩ :=
    tick_of_readable hname hsteady.reads h.readable
  obtain ⟨id, hpending⟩ := h.pending
  -- no role is short of tasks
  have hnone : newRecords cfg s w settings identity = [] := by
    rw [List.eq_nil_iff_forall_not_mem]
    intro r hr
    have hshort := (provided_of_mem hr).short
    rw [h.kept.activeCount_eq] at hshort
    cases hrole : r.role with
    | datastore =>
      rw [hrole, hcfg.datastore] at hshort
      exact absurd (Nat.lt_one_iff.1 hshort) hpending.length_pos.ne'
    | server =>
      rw [hrole, hcfg.server] at hshort
      exact absurd hshort (Nat.not_lt_zero _)
    | agent =>
      rw [hrole, hcfg.agent] at hshort
      exact absurd hshort (Nat.not_lt_zero _)
  rw [hnone] at hadds
  have hrecord : ∀ role id, w₁.store.record? (Key.task w.framework role id) =
      w.store.record? (Key.task w.framework role id) :=
    fun role id => record?_congr (hadds.get?_eq_of_nil role id)
  have hsettled : ∀ r ∈ w₁.store.records w₁.framework, r.state ≠ .unset := by
    intro r hr
    rw [hadds.framework] at hr
    obtain ⟨role, id, hr⟩ := Memory.mem_records_iff.1 hr
    rw [hrecord] at hr
    exact h.settled r (Memory.mem_records_iff.2 ⟨role, id, hr⟩)
  have hpending₁ : w₁.isPending = true := by
    rw [PendingAt, ← hrecord, ← hadds.framework] at hpending
    exact PendingAt.isPending hpending
  have hbuilt : Run.Built (.create = ·) [] (Run.tick cfg) := Run.built_tick rfl cfg
  have hconfined := hbuilt.confined s w
  have hheld := hbuilt.heldBack nofun s w
  rw [htick] at hconfined hheld
  have hsuppressed : w₁.suppressed = false :=
    (hconfined.suppressed nofun nofun).trans h.unsuppressed
  obtain ⟨n, hpromote⟩ := Run.promoteUnset_of_settled hsteady.reads hsettled
  have hdue : ¬ (w₁.afterReads n).IsDue (!report.created.isEmpty) := by
    rintro ⟨hequal, -⟩
    exact absurd (hpending₁.symm.trans (hequal.trans hsuppressed)) (by decide)
  obtain ⟨k, hevaluate⟩ := evaluate_of_not_isDue hsteady.reads hdue
  refine ⟨report, (w₁.afterReads n).afterReads k, ?_, hpending₁, hheld⟩
  rw [Run.cycle_run, h.config, Run.bind_of_ok htick, Run.followUp, Run.bind_of_ok hpromote,
    Run.bind_of_ok hevaluate]
  rfl

/-- **A request for offers that is refused is not repeated.** Whether the manager holds offers back
stays as it was, over that cycle and the next one, which ends well. -/
theorem cycles_of_bare (hrefused : ∀ n, ∃ fault, s.delivery n .reviving = .refused fault)
    (h : Bare cfg w) (hunsuppressed : w.suppressed = false) :
    ∃ report w', Run.cycle s (Turn.run s w .cycle) = (.ok report, w') ∧ w'.isPending = true ∧
      w'.heldBack = w.heldBack := by
  obtain ⟨hwaiting, hheld⟩ := cycle_of_bare hcfg hsteady hrefused h hunsuppressed
  obtain ⟨report, w', hcycle, hpending, hheld'⟩ := cycle_of_waiting hcfg hsteady hwaiting
  exact ⟨report, w', hcycle, hpending, hheld'.trans hheld⟩

end Refused

/-- Settings by which one datastore is wanted and nothing else. -/
def oneDatastore : Config where
  server := { instances := 0 }
  agent := { instances := 0 }

theorem finite_oneDatastore : oneDatastore.Finite := by
  have hneeds : Config.SameNeeds {} oneDatastore :=
    ⟨rfl, rfl, rfl, fun role => by cases role <;> rfl, rfl, rfl⟩
  exact hneeds.finite Config.finite_default

theorem modest_oneDatastore : Modest oneDatastore where
  feasible := ⟨finite_oneDatastore, by decide, by decide +kernel, by decide⟩
  datastore := rfl
  server := rfl
  agent := rfl

/-! ### Tasks that do not wait in vain -/

/-- What keeps offers from being held back without need: the process knows whenever they are, or it
begins without tasks, the store does not fail, and every request for offers is taken. -/
inductive Faithful (s : Surroundings) (w : World) (turns : List Turn) : Prop
  | aware (answered : s.Answered) (punctual : Punctual s w turns)
  | heeded (steady : s.Steady) (heeded : s.Heeded)
      (empty : ∀ role id, w.store.get? (Key.task w.framework role id) = none)

/-- **No task waits for an offer in vain** where the process is faithful: after every cycle that has
ended well offers are not held back if some record is unset or new. The process is faithful if every
request to hold offers back that takes effect is answered and the events of new subscriptions are
dealt with before offers are held back again; or if, from a store without tasks on, every request
for offers takes effect and the store does not fail. -/
theorem offers_for_pending_tasks {cfg : Config} {store : Memory} {nodes : NodeSource}
    {turns : List Turn} (h : Faithful s (.start cfg store nodes) turns) {report : TickReport}
    (hcycle : Run.cycle s (runTurns s (.start cfg store nodes) turns) = (.ok report, w'))
    (hpending : ∃ r ∈ w'.store.records w'.framework, r.state = .unset ∨ r.state = .new) :
    w'.heldBack = false := by
  have hheld : (World.start cfg store nodes).heldBack = false := rfl
  have hwaits : w'.isPending = true := by
    obtain ⟨r, hr, hstate⟩ := hpending
    refine List.any_eq_true.2 ⟨r, hr, ?_⟩
    rcases hstate with hstate | hstate <;> rw [hstate] <;> rfl
  have hturn : w' = Turn.run s (runTurns s (.start cfg store nodes) turns) .cycle := by
    rw [Turn.run, hcycle]
  cases h with
  | aware answered punctual =>
    have haware : (World.start cfg store nodes).Aware := fun hheld' => by
      rw [hheld] at hheld'
      cases hheld'
    have haware' : w'.Aware := by
      rw [hturn]
      exact aware_turn answered (by simp) (aware_runTurns answered punctual haware)
    exact heldBack_of_aware_cycle haware' hcycle hwaits
  | heeded steady heeded empty =>
    have hkept : Kept cfg.framework.name store := kept_of_no_records fun role id => by
      have habsent : store.get? (Key.task cfg.framework.name role id) = none := empty role id
      rw [Memory.record?, habsent, Option.bind_none]
    have hflowing : Flowing (runTurns s (.start cfg store nodes) turns) :=
      flowing_runTurns steady heeded turns ⟨rfl, hkept, fun _ => hheld⟩
    have hflowing' := flowing_turn steady heeded .cycle hflowing
    rw [← hturn] at hflowing'
    exact hflowing'.flows hwaits

/-- A stream of events is opened and begins. -/
def greeting : List Turn :=
  [.subscribe true, .event (.subscribed ⟨⟨"framework"⟩, none⟩)]

theorem punctual_greeting (hheld : w.heldBack = false) : Punctual s w (greeting ++ [.cycle]) := by
  refine ⟨fun _ hturn => (nomatch hturn), fun _ _ => ?_, fun _ hturn => (nomatch hturn), trivial⟩
  by_contra hheld'
  rw [Bool.not_eq_false] at hheld'
  rw [heldBack_subscribe true s w hheld'] at hheld
  cases hheld

theorem suppressed_after_greeting :
    (runTurns .refusing (.start oneDatastore ∅ .stored) greeting).suppressed = false := by
  decide +kernel

/-- Offers are not held back from a datastore when the request for them was refused, because they
never were. -/
theorem offers_for_pending_datastore :
    ∃ report w', Faithful .refusing (.start oneDatastore ∅ .stored) (greeting ++ [.cycle]) ∧
      Run.cycle .refusing
        (runTurns .refusing (.start oneDatastore ∅ .stored) (greeting ++ [.cycle])) =
          (.ok report, w') ∧
      (∃ r ∈ w'.store.records w'.framework, r.state = .unset ∨ r.state = .new) ∧
      w'.heldBack = false := by
  have hfaithful : Faithful .refusing (.start oneDatastore ∅ .stored) (greeting ++ [.cycle]) :=
    .aware (fun _ _ => nofun) (punctual_greeting rfl)
  have hturns : ∀ turn ∈ greeting, turn ≠ .cycle := by simp [greeting]
  have hbare := (bare_start oneDatastore .stored).runTurns .refusing hturns
  obtain ⟨report, w', hcycle, hpending, -⟩ := cycles_of_bare modest_oneDatastore
    Surroundings.clear_refusing.steady (fun _ => ⟨.transport, rfl⟩) hbare suppressed_after_greeting
  rw [← runTurns_concat] at hcycle
  have hwaits : ∃ r ∈ w'.store.records w'.framework, r.state = .unset ∨ r.state = .new := by
    obtain ⟨r, hr, hstate⟩ := List.any_eq_true.1 hpending
    refine ⟨r, hr, ?_⟩
    cases hr' : r.state <;> simp [hr', TaskState.isPending] at hstate ⊢
  exact ⟨report, w', hfaithful, hcycle, hwaits, offers_for_pending_tasks hfaithful hcycle hwaits⟩

/-! ### A task that waits in vain -/

/-- Surroundings in which the manager holds offers back without an answer, and is not reached by
requests for offers. -/
def Surroundings.deaf : Surroundings :=
  { Surroundings.calm with
    delivery := fun _ call =>
      match call.kind with
      | .suppress => .unanswered .transport
      | .revive => .refused .transport
      | _ => .applied }

/-- A report on a task that is not known. -/
def strayReport : Manager.TaskStatus where
  taskId := ⟨"stray"⟩
  state := "TASK_LOST"
  agentId := none
  uuid := none
  message := none
  reason := none
  source := none
  networks := none

/-- A stream of events is opened, and brings a report on a task that is not known. -/
def strayEvents : List Turn :=
  greeting ++ [.event (.update strayReport)]

theorem suppressed_after_strayEvents :
    (runTurns .deaf (.start oneDatastore ∅ .stored) strayEvents).suppressed = false := by
  decide +kernel

theorem heldBack_after_strayEvents :
    (runTurns .deaf (.start oneDatastore ∅ .stored) strayEvents).heldBack = true := by
  decide +kernel

/-- A report on an unknown task makes the process ask the manager to hold offers back, which the
manager does without an answer; then a datastore is stored, and the request for offers does not
reach the manager. The cycle after that ends well and leaves the datastore without offers. -/
theorem datastore_without_offers :
    ∃ report w', Run.cycle .deaf
        (runTurns .deaf (.start oneDatastore ∅ .stored) (strayEvents ++ [.cycle])) =
          (.ok report, w') ∧
      w'.isPending = true ∧ w'.heldBack = true := by
  have hsteady : Surroundings.deaf.Steady := ⟨fun _ => rfl, fun _ => rfl⟩
  have hrefused : ∀ n, ∃ fault, Surroundings.deaf.delivery n .reviving = .refused fault :=
    fun _ => ⟨.transport, rfl⟩
  have hturns : ∀ turn ∈ strayEvents, turn ≠ .cycle := by simp [strayEvents, greeting]
  have hbare := (bare_start oneDatastore .stored).runTurns .deaf hturns
  obtain ⟨report, w', hcycle, hpending, hheld⟩ :=
    cycles_of_bare modest_oneDatastore hsteady hrefused hbare suppressed_after_strayEvents
  rw [runTurns_concat]
  exact ⟨report, w', hcycle, hpending, hheld.trans heldBack_after_strayEvents⟩

end Stevedore.Scheduling
