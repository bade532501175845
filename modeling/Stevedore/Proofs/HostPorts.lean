import Stevedore.Proofs.Completion
import Stevedore.Proofs.Isolation
import Stevedore.Proofs.PortChoice

/-!
# Host ports of datastores

No two datastores of a framework ever have the same host port (`datastore_ports_never_clash`),
whatever happens and whatever fails. Every one of these ports can be traced to the tick that chose
it (`Originates`).

Frameworks do not see each other's records, so that two of them that share a store may choose the
same port (`frameworks_share_port`).
-/

namespace Stevedore

namespace Scheduling

open Manager (Offer)
open Store (Memory)

variable {s : Surroundings} {w : World} {x : TaskRecord} {key : String} {port : UInt32}

/-! ### Rounds -/

/-- What may happen next. -/
inductive Round where
  /-- A tick by itself. -/
  | tick
  /-- A promotion by itself. -/
  | promote
  /-- A whole action, a critical section, or the end of a process. -/
  | step (step : Step)

namespace Round

/-- What becomes of the world. -/
def run (s : Surroundings) (w : World) : Round → World
  | tick => (Run.tick w.config.current s w).2
  | promote => (Run.promoteUnset s w).2
  | step x => x.run s w

/-- Whether there is a tick. -/
def Ticks (round : Round) : Prop :=
  round = tick ∨ round = step (.action .cycle)

/-- All processes use configurations that are valid, and create records by ticks only. -/
def Valid (rounds : List Round) : Prop :=
  ∀ x, .step x ∈ rounds → (∀ cfg ∈ x.configs, cfg.validate = .ok ()) ∧
    ∀ role cfg identity used, x ≠ .part (.create role cfg identity used)

/-- A round begins with a tick, starts a process, or creates nothing. -/
theorem run_cases {round : Round} (hvalid : Valid [round]) (s : Surroundings) (w : World) :
    (round.Ticks ∧ ∃ (α : Type) (m : Run α), Run.Built (fun x => x = .signal) [] m ∧
        round.run s w = (m s (Run.tick w.config.current s w).2).2) ∨
      (∃ cfg, cfg.validate = .ok () ∧ round.run s w = w.restart cfg) ∨
      ∃ (offers : List Offer) (α : Type) (m : Run α),
        Run.Built (fun x => x ≠ .create) offers m ∧ round.run s w = (m s w).2 := by
  cases round with
  | tick => exact Or.inl ⟨Or.inl rfl, Unit, pure (), .pure (), rfl⟩
  | promote => exact Or.inr (Or.inr ⟨[], Nat, _, Run.built_promoteUnset nofun, rfl⟩)
  | step x =>
    obtain ⟨hconfigs, hcreate⟩ := hvalid x (List.mem_singleton_self _)
    obtain rfl | ⟨role, cfg, identity, used, rfl⟩ | ⟨cfg, hcfg, hrun⟩ | hbuilt :=
      x.creates_cases s w
    · refine Or.inl ⟨Or.inr rfl, ?_⟩
      obtain ⟨w₁, rfl, hrun | ⟨report, hrun⟩⟩ := cycle_cases s w
      · exact ⟨Unit, pure (), .pure (), hrun⟩
      · exact ⟨_, _, built_followUp_signal report, hrun⟩
    · exact absurd rfl (hcreate role cfg identity used)
    · exact Or.inr (Or.inl ⟨cfg, hconfigs cfg hcfg, hrun⟩)
    · exact Or.inr (Or.inr hbuilt)

theorem Valid.of_subset {rounds rounds' : List Round} (h : Valid rounds)
    (hsubset : rounds' ⊆ rounds) : Valid rounds' :=
  fun x hx => h x (hsubset hx)

end Round

/-- What rounds make of the world, one after the other. -/
def runRounds (s : Surroundings) (w : World) (rounds : List Round) : World :=
  rounds.foldl (Round.run s) w

/-- **What one round does.** -/
theorem Managed.round (h : Managed s w) {round : Round} (hvalid : Round.Valid [round]) :
    Managed s (round.run s w) ∧ (Inherits w.store (round.run s w).store ∨
      round.Ticks ∧ Grows s w (round.run s w).store) := by
  obtain ⟨hticks, α, m, hbuilt, hrun⟩ | ⟨cfg, hcfg, hrun⟩ | ⟨offers, α, m, hbuilt, hrun⟩ :=
    Round.run_cases hvalid s w
  · rw [hrun]
    have htick := h.tick
    refine ⟨htick.built hbuilt nofun, Or.inr ⟨hticks, ?_⟩⟩
    exact h.grows_tick.inherits (hbuilt.inherits nofun htick.named.placed)
  · rw [hrun]
    exact ⟨h.restart hcfg, Or.inl (.refl _)⟩
  · rw [hrun]
    have hcreate : ¬ (fun x => x ≠ Liberty.create) .create := fun hne => hne rfl
    exact ⟨h.built hbuilt hcreate, Or.inl (hbuilt.inherits hcreate h.named.placed)⟩

theorem runRounds_concat (s : Surroundings) (w : World) (rounds : List Round) (round : Round) :
    runRounds s w (rounds ++ [round]) = round.run s (runRounds s w rounds) :=
  List.foldl_concat ..

theorem Managed.runRounds (h : Managed s w) {rounds : List Round} (hvalid : Round.Valid rounds) :
    Managed s (runRounds s w rounds) := by
  induction rounds using List.reverseRecOn with
  | nil => exact h
  | append_singleton rounds round ih =>
    rw [runRounds_concat]
    have hrounds := ih (hvalid.of_subset (List.subset_append_left ..))
    exact (hrounds.round (hvalid.of_subset (List.subset_append_right ..))).1

theorem managed_start (s : Surroundings) {cfg : Config} (hcfg : cfg.validate = .ok ())
    (nodes : NodeSource) : Managed s (.start cfg ∅ nodes) where
  toOrdered := .start hcfg nodes placed_empty fun _ _ _ => rfl
  valid := Config.portsValid_of_validate hcfg
  portsApart := by
    refine ⟨fun key x hx => ?_, fun key x hx => ?_, fun key key' x x' port hx => ?_⟩
    all_goals cases hx

/-! ### Where host ports come from -/

/-- One of some rounds has chosen a host port for a datastore, and the datastore has kept it ever
since. -/
inductive Originates (s : Surroundings) (w : World) (rounds : List Round) (key : String)
    (port : UInt32) : Prop
  | intro {before after : List Round} {round : Round} (split : rounds = before ++ round :: after)
      (ticks : round.Ticks) (chosen : Chooses s (runRounds s w before) key port)
      (since : ∀ earlier, earlier <+: after →
        ∃ x, (runRounds s w (before ++ round :: earlier)).store.record? key = some x ∧
          x.role = .datastore ∧ x.firstHostPort? = some port)

theorem Originates.concat {rounds : List Round} (h : Originates s w rounds key port)
    {round : Round} (hx : (runRounds s w (rounds ++ [round])).store.record? key = some x)
    (hrole : x.role = .datastore) (hport : x.firstHostPort? = some port) :
    Originates s w (rounds ++ [round]) key port := by
  obtain @⟨before, after, first, rfl, hticks, hchosen, hsince⟩ := h
  refine ⟨by rw [List.append_assoc, List.cons_append], hticks, hchosen, fun earlier hearlier => ?_⟩
  obtain rfl | hearlier := List.prefix_concat_iff.1 hearlier
  · rw [List.append_assoc, List.cons_append] at hx
    exact ⟨x, hx, hrole, hport⟩
  · exact hsince earlier hearlier

/-- **Every host port of a datastore was chosen by a tick.** -/
theorem originates_of_managed (h : Managed s w) (hempty : ∀ key, w.store.record? key = none)
    {rounds : List Round} (hvalid : Round.Valid rounds)
    (hx : (runRounds s w rounds).store.record? key = some x) (hrole : x.role = .datastore)
    (hport : x.firstHostPort? = some port) : Originates s w rounds key port := by
  induction rounds using List.reverseRecOn generalizing x with
  | nil => cases (hempty key).symm.trans hx
  | append_singleton rounds round ih =>
    have hvalid' := hvalid.of_subset (List.subset_append_left rounds [round])
    have hrounds := h.runRounds hvalid'
    obtain ⟨-, hround⟩ := hrounds.round (hvalid.of_subset (List.subset_append_right rounds _))
    rw [← runRounds_concat] at hround
    have hold : ∀ {r}, (runRounds s w rounds).store.record? key = some r →
        Descends r x → Originates s w (rounds ++ [round]) key port := by
      intro r hr hdescends
      obtain ⟨hrole', hport'⟩ := hrounds.portsApart.ancestor hr hdescends hrole hport
      exact (ih hvalid' hr hrole' hport').concat hx hrole hport
    obtain hinherits | ⟨hticks, hgrows⟩ := hround
    · obtain ⟨r, hr, hdescends⟩ := hinherits hx
      exact hold hr hdescends
    · obtain ⟨r, hr, hdescends⟩ | harises := hgrows hx
      · exact hold hr hdescends
      · obtain ⟨chosen, hchosen, hchooses, -⟩ := harises.port hrole
        cases hport.symm.trans hchosen
        refine ⟨rfl, hticks, hchooses, fun earlier hearlier => ?_⟩
        rw [List.prefix_nil.1 hearlier]
        exact ⟨x, hx, hrole, hport⟩

/-! ### Where nothing fails -/

/-- A tick stores the datastore that is wanted, on the lowest host port that is free, and leaves the
others alone. -/
theorem Managed.exists_datastore (h : Managed s w) (hsteady : s.Steady)
    (hreadable : Readable w.framework w.store) (hfinite : w.config.current.Finite)
    (hshort : activeCount (w.store.records w.framework) .datastore <
      (w.config.current.desired .datastore).toNat)
    (hfree : ∀ settings, w.storedSettings = .ok settings → ∃ port, w.FreePort settings port) :
    ∃ r settings port, w.storedSettings = .ok settings ∧
      (Run.tick w.config.current s w).2.store.record?
        (Key.task w.framework .datastore (s.taskId w.tally.ids)) = some r ∧
      r.role = .datastore ∧ r.framework = w.framework ∧ TakesLowest w settings r port ∧
      ∀ id, id ≠ s.taskId w.tally.ids →
        (Run.tick w.config.current s w).2.store.record? (Key.task w.framework .datastore id) =
          w.store.record? (Key.task w.framework .datastore id) := by
  obtain ⟨-, -, ⟨k, reason, hfault⟩ | hunreadable⟩ | ⟨settings, identity, -, -, -, hsettings, -,
    hadds, -⟩ := tick_phases (s := s) (apart_of_name h.named.name)
  · cases (hsteady.reads k).symm.trans hfault
  · exact absurd hreadable hunreadable
  obtain ⟨r, hr, hrole, port, htakes⟩ :=
    exists_mem_newRecords h.valid hshort (hsteady.writes _) (hfree settings hsettings) identity
  have hkey : ∀ {r}, r ∈ newRecords w.config.current s w settings identity → r.role = .datastore →
      r.storeKey = Key.task w.framework .datastore (s.taskId w.tally.ids) := by
    intro r hr hrole
    rw [TaskRecord.storeKey, (provided_of_mem hr).framework, h.named.name, hrole,
      (datastore_of_mem_newRecords h.valid hr hrole).1]
  refine ⟨r, settings, port, hsettings, ?_, hrole,
    (provided_of_mem hr).framework.trans h.named.name, htakes, fun id hid => ?_⟩
  · rw [← hkey hr hrole]
    exact hadds.record?_of_mem hr ((provided_of_mem hr).finite hfinite)
  · refine record?_congr (hadds.others _ not_reserved_task fun r' hr' heq => hid ?_)
    have hrole' : r'.role = .datastore := by
      rw [TaskRecord.storeKey, (provided_of_mem hr').framework, h.named.name] at heq
      exact (Key.task_inj heq).1.symm
    exact (Key.task_inj (heq.trans (hkey hr' hrole'))).2

/-- A configuration by which a datastore is wanted, and the first host port is not the control
plane's. -/
structure Lays (cfg : Config) : Prop where
  valid : cfg.validate = .ok ()
  finite : cfg.Finite
  wanted : 0 < (cfg.desired .datastore).toNat
  free : cfg.scheduler.portRangeStart ≠ cfg.server.hostPort

section Absent

/-! #### Frameworks that have nothing in the store -/

variable (habsent : ∀ {key}, Key.Under w.framework key → w.store.get? key = none)

include habsent

theorem records_of_absent : w.store.records w.framework = [] := by
  refine List.eq_nil_iff_forall_not_mem.2 fun r hr => ?_
  obtain ⟨role, id, hr⟩ := Memory.mem_records_iff.1 hr
  rw [Memory.record?, habsent Key.under_task] at hr
  cases hr

theorem unset_of_absent {settings : Settings} (h : w.storedSettings = .ok settings) :
    settings = .unset := by
  rw [World.storedSettings, storedAs, habsent Key.under_settings] at h
  cases h
  rfl

theorem Managed.freePort (h : Managed s w) (hlays : Lays w.config.current) :
    w.FreePort .unset w.config.current.scheduler.portRangeStart := by
  refine ⟨UInt32.le_refl _, h.valid.first_le, ?_⟩
  rw [records_of_absent habsent]
  exact fun hmem => hlays.free (List.mem_singleton.1 hmem)

/-- A tick stores a datastore on the first host port. -/
theorem Managed.first_datastore (h : Managed s w) (hsteady : s.Steady)
    (hlays : Lays w.config.current) :
    ∃ x, (Run.tick w.config.current s w).2.store.record?
        (Key.task w.framework .datastore (s.taskId w.tally.ids)) = some x ∧
      x.role = .datastore ∧ x.framework = w.framework ∧
        x.firstHostPort? = some w.config.current.scheduler.portRangeStart := by
  have hreadable : Readable w.framework w.store :=
    readable_of_absent (habsent Key.under_settings) (habsent Key.under_identity)
  have hshort : activeCount (w.store.records w.framework) .datastore <
      (w.config.current.desired .datastore).toNat := by
    rw [records_of_absent habsent]
    exact hlays.wanted
  have hfirst := h.freePort habsent hlays
  obtain ⟨x, settings, port, hsettings, hx, hrole, hframework, htakes, -⟩ :=
    h.exists_datastore hsteady hreadable hlays.finite hshort fun settings hsettings =>
      ⟨_, unset_of_absent habsent hsettings ▸ hfirst⟩
  obtain rfl := unset_of_absent habsent hsettings
  exact ⟨x, hx, hrole, hframework, htakes.eq hfirst ▸ htakes.firstHostPort⟩

end Absent

/-- A tick of a framework leaves alone what others keep. -/
theorem Managed.others (h : Managed s w) : w.store.SameOn (fun key => ¬ Key.Under w.framework key)
    (Run.tick w.config.current s w).2.store := by
  have hhome : Home w.framework w := by
    refine ⟨rfl, h.named.name, fun role id r hr => ?_⟩
    rw [h.named.placed hr]
    exact Key.under_task
  exact (Run.homely_tick h.named.name hhome).1.others

/-- A tick, a process that starts with another configuration, and another tick. -/
def twoLives (cfg : Config) : List Round :=
  [.tick, .step (.action (.process cfg)), .tick]

theorem runRounds_twoLives (s : Surroundings) (w : World) (cfg : Config) :
    runRounds s w (twoLives cfg) =
      (Run.tick cfg s ((Run.tick w.config.current s w).2.restart cfg)).2 := rfl

theorem valid_twoLives {cfg : Config} (hcfg : cfg.validate = .ok ()) :
    Round.Valid (twoLives cfg) := by
  intro x hx
  obtain rfl : x = .action (.process cfg) := by simpa [twoLives] using hx
  exact ⟨List.forall_mem_singleton.2 hcfg, fun _ _ _ _ heq => nomatch heq⟩

/-- A framework that wants nothing but datastores has no other host ports than the first one taken
after its first tick. -/
theorem Managed.eq_of_mem_used (h : Managed s w) (hlays : Lays w.config.current)
    (hempty : ∀ key, w.store.get? key = none)
    (honly : ∀ role, role ≠ .datastore → w.config.current.desired role = 0)
    (hport : port ∈ Ports.used ((Run.tick w.config.current s w).2.store.records w.framework)) :
    port = w.config.current.scheduler.portRangeStart := by
  obtain ⟨taker, htaker, -, p, hp, -, rfl⟩ := Ports.mem_used_iff.1 hport
  obtain ⟨role, id, htaker⟩ := Memory.mem_records_iff.1 htaker
  obtain hold | ⟨settings, identity, hsettings, hr, -, -⟩ := h.record?_tick_cases htaker
  · rw [Memory.record?, hempty] at hold
    cases hold
  have hrole : taker.role = .datastore := by
    by_contra hrole
    have hshort := (provided_of_mem hr).short
    rw [honly taker.role hrole] at hshort
    exact absurd hshort (Nat.not_lt_zero _)
  obtain ⟨-, port, htakes⟩ := datastore_of_mem_newRecords h.valid hr hrole
  obtain rfl := unset_of_absent (fun {key} _ => hempty key) hsettings
  have hfirst := htakes.eq (h.freePort (fun {key} _ => hempty key) hlays)
  obtain ⟨containerPort, hports⟩ := htakes.ports
  rw [hports] at hp
  rw [List.mem_singleton.1 hp]
  exact hfirst

/-- Where nothing fails, a framework that wants nothing but datastores has two of them after two
ticks, also if its process has started anew in between. -/
theorem exists_two_datastores (h : Managed s w) (hsteady : s.Steady)
    (hfresh : Function.Injective s.taskId) (hlays : Lays w.config.current)
    (hempty : ∀ key, w.store.get? key = none)
    (honly : ∀ role, role ≠ .datastore → w.config.current.desired role = 0) {cfg : Config}
    (hvalid : cfg.validate = .ok ()) (hfinite : cfg.Finite)
    (hname : cfg.framework.name = w.framework) (hwanted : 1 < (cfg.desired .datastore).toNat)
    (hroom : cfg.scheduler.portRangeStart.toNat + 2 ≤ cfg.scheduler.portRangeEnd.toNat) :
    ∃ key key' x x', (runRounds s w (twoLives cfg)).store.record? key = some x ∧
      (runRounds s w (twoLives cfg)).store.record? key' = some x' ∧ key ≠ key' ∧
      x.role = .datastore ∧ x'.role = .datastore ∧ x.framework = x'.framework := by
  have habsent : ∀ {key}, Key.Under w.framework key → w.store.get? key = none :=
    fun {key} _ => hempty key
  obtain ⟨x, hx, hrole, hframework, -⟩ := h.first_datastore habsent hsteady hlays
  have hused : ∀ {port}, port ∈ Ports.used ((Run.tick w.config.current s w).2.store.records
      w.framework) → port = w.config.current.scheduler.portRangeStart :=
    fun hport => h.eq_of_mem_used hlays hempty honly hport
  have hticked := ticked_tick h.named.name h.own.kept s
  have htick := h.tick
  rw [runRounds_twoLives]
  generalize (Run.tick w.config.current s w).2 = w₁ at *
  have hown : w.framework = w₁.framework := hticked.framework.symm
  rw [hown] at hx hused hframework hname
  have hmanaged := htick.restart hvalid
  have hreadable : Readable cfg.framework.name w₁.store :=
    hname ▸ hticked.readable (readable_of_absent (habsent Key.under_settings)
      (habsent Key.under_identity))
  have hshort : activeCount (w₁.store.records cfg.framework.name) .datastore <
      (cfg.desired .datastore).toNat := by
    have hnone := h.own.kept.activeCount_eq .datastore
    rw [records_of_absent habsent] at hnone
    have hgrows := hticked.grows .datastore
    rw [← hnone] at hgrows
    rw [hname, htick.own.kept.activeCount_eq]
    change _ ≤ 0 ∨ _ ∧ _ ≤ 1 at hgrows
    omega
  have hfree : ∀ settings, (w₁.restart cfg).storedSettings = .ok settings →
      ∃ port, (w₁.restart cfg).FreePort settings port := by
    intro settings _
    obtain ⟨port, hport⟩ := @Ports.exists_allocate?
      [(cfg.withSettings settings).server.hostPort, w.config.current.scheduler.portRangeStart] _ _
      hroom
    obtain ⟨hfirst, hlast, hnot⟩ := (Ports.free_of_allocate? hport).1
    refine ⟨port, hfirst, hlast, fun hmem => hnot ?_⟩
    obtain hserver | htaken := List.mem_cons.1 hmem
    · exact List.mem_cons.2 (Or.inl hserver)
    · have htaken' : port ∈ Ports.used (w₁.store.records cfg.framework.name) := htaken
      rw [hname] at htaken'
      exact List.mem_cons_of_mem _ (List.mem_singleton.2 (hused htaken'))
  obtain ⟨x', settings, port, -, hx', hrole', hframework', -, hkeeps⟩ :=
    hmanaged.exists_datastore hsteady hreadable hfinite hshort hfree
  have hids : s.taskId w.tally.ids ≠ s.taskId w₁.tally.ids := by
    intro hsame
    obtain ⟨text, htext, -⟩ := Option.bind_eq_some_iff.1 hx
    obtain ⟨n, hn, hid⟩ := htick.own.drawn (Option.isSome_iff_exists.2 ⟨text, htext⟩)
    rw [hfresh (hid.trans hsame)] at hn
    exact Nat.lt_irrefl _ hn
  rw [← hname] at hx
  refine ⟨_, _, x, x', (hkeeps _ hids).trans hx, hx', fun hsame => hids (Key.task_inj hsame).2,
    hrole, hrole', ?_⟩
  rw [hframework, hframework', ← hname]
  rfl

/-- Where nothing fails, each of two frameworks that share a store puts its first datastore on its
first host port. -/
theorem exists_datastores_of_frameworks (h : Managed s w) (hsteady : s.Steady)
    (hlays : Lays w.config.current) (hempty : ∀ key, w.store.get? key = none) {cfg : Config}
    (hcfg : Lays cfg) (hname : w.framework ≠ cfg.framework.name) :
    ∃ key key' x x', (runRounds s w (twoLives cfg)).store.record? key = some x ∧
      (runRounds s w (twoLives cfg)).store.record? key' = some x' ∧ key ≠ key' ∧
      x.role = .datastore ∧ x'.role = .datastore ∧
      x.framework = w.framework ∧ x'.framework = cfg.framework.name ∧
      x.firstHostPort? = some w.config.current.scheduler.portRangeStart ∧
      x'.firstHostPort? = some cfg.scheduler.portRangeStart := by
  have hplain := Config.not_mem_name_of_validate hcfg.valid
  have hapart : ∀ {key}, Key.Under w.framework key → ¬ Key.Under cfg.framework.name key :=
    fun hkey hkey' => hname (hkey.unique hkey' h.named.plain hplain)
  obtain ⟨x, hx, hrole, hframework, hport⟩ :=
    h.first_datastore (fun {key} _ => hempty key) hsteady hlays
  have hothers := h.others
  have hmanaged := h.tick.restart hcfg.valid
  rw [runRounds_twoLives]
  generalize (Run.tick w.config.current s w).2 = w₁ at *
  -- the second framework finds nothing of its own, and leaves the first one's datastore alone
  have habsent : ∀ {key}, Key.Under cfg.framework.name key → w₁.store.get? key = none :=
    fun {key} hkey' => (hothers fun hkey => hapart hkey hkey').trans (hempty key)
  obtain ⟨x', hx', hrole', hframework', hport'⟩ := hmanaged.first_datastore habsent hsteady hcfg
  have hkeeps := (record?_congr (hmanaged.others (hapart Key.under_task))).trans hx
  refine ⟨_, _, x, x', hkeeps, hx', ?_, hrole, hrole', hframework, hframework', hport, hport'⟩
  intro hsame
  have hunder : Key.Under cfg.framework.name
      (Key.task w.framework .datastore (s.taskId w.tally.ids)) := by
    rw [hsame]
    exact Key.under_task
  exact hapart Key.under_task hunder

/-! ### Host ports never clash -/

/-- **No two datastores of a framework have the same host port**, whatever configurations that
passed their checks its processes are started with, and whatever fails. Each has a host port, which
is a port number, and which a tick has chosen for it. -/
theorem datastore_ports_never_clash (s : Surroundings) {cfg : Config} (hcfg : cfg.validate = .ok ())
    (nodes : NodeSource) {rounds : List Round} (hvalid : Round.Valid rounds) :
    let start : World := .start cfg ∅ nodes
    let store := (runRounds s start rounds).store
    (∀ key key' x x', store.record? key = some x → store.record? key' = some x' → key ≠ key' →
      x.role = .datastore → x'.role = .datastore → x.framework = x'.framework →
        x.firstHostPort? ≠ x'.firstHostPort?) ∧
    ∀ key x, store.record? key = some x → x.role = .datastore →
      ∃ port, x.firstHostPort? = some port ∧ 1 ≤ port.toNat ∧ port.toNat ≤ 65535 ∧
        port.toUInt16.toUInt32 = port ∧ Originates s start rounds key port := by
  intro start store
  have hstart : Managed s start := managed_start s hcfg nodes
  have hapart := (hstart.runRounds hvalid).portsApart
  constructor
  · intro key key' x x' hx hx' hne hrole hrole' hframework hsame
    obtain ⟨port, hport, -⟩ := hapart.port hx hrole
    exact hne (hapart.apart hx hx' hrole hrole' hframework hport (hsame.symm.trans hport))
  · intro key x hx hrole
    obtain ⟨port, hport, hpos, hle⟩ := hapart.port hx hrole
    have horigin := originates_of_managed hstart (fun _ => rfl) hvalid hx hrole hport
    refine ⟨port, hport, hpos, hle, ?_, horigin⟩
    rw [← UInt32.toNat_inj, UInt16.toNat_toUInt32, UInt32.toNat_toUInt16]
    exact Nat.mod_eq_of_lt (Nat.lt_succ_of_le hle)

/-- The second host port belongs to the control plane when the second datastore is created. -/
theorem two_datastores_apart :
    let cfg : Config := { datastore.instances := 2, server.instances := 0, agent.instances := 0 }
    let cfg' : Config := { cfg with server.hostPort := 31001 }
    let start : World := .start cfg ∅ .stored
    let store := (runRounds .calm start (twoLives cfg')).store
    cfg.validate = .ok () ∧ Round.Valid (twoLives cfg') ∧
      ∃ key key' x x', store.record? key = some x ∧ store.record? key' = some x' ∧ key ≠ key' ∧
        x.role = .datastore ∧ x'.role = .datastore ∧ x.framework = x'.framework ∧
        x.firstHostPort? ≠ x'.firstHostPort? ∧
        ∃ port, x'.firstHostPort? = some port ∧ 1 ≤ port.toNat ∧ port.toNat ≤ 65535 ∧
          port.toUInt16.toUInt32 = port ∧ Originates .calm start (twoLives cfg') key' port := by
  intro cfg cfg' start store
  obtain ⟨hcpus, hmem, hdisk, hcpu, hmemory⟩ := Config.finite_default
  have hlays : Lays cfg :=
    ⟨by decide +kernel, ⟨hcpus, hmem, hdisk, hcpu, hmemory⟩, by decide, by decide⟩
  have hcfg' : cfg'.validate = .ok () := by decide +kernel
  have honly : ∀ role, role ≠ .datastore → cfg.desired role = 0 := by
    intro role hrole
    cases role with
    | datastore => exact absurd rfl hrole
    | server => rfl
    | agent => rfl
  have hvalid := valid_twoLives hcfg'
  obtain ⟨key, key', x, x', hx, hx', hkeys, hrole, hrole', hframework⟩ :=
    exists_two_datastores (managed_start .calm hlays.valid .stored) Surroundings.clear_calm.steady
      Surroundings.calm_taskId_injective hlays (fun _ => rfl) honly hcfg'
      ⟨hcpus, hmem, hdisk, hcpu, hmemory⟩ rfl (by decide) (by decide)
  obtain ⟨hapart, horigin⟩ := datastore_ports_never_clash .calm hlays.valid .stored hvalid
  exact ⟨hlays.valid, hvalid, key, key', x, x', hx, hx', hkeys, hrole, hrole', hframework,
    hapart key key' x x' hx hx' hkeys hrole hrole' hframework, horigin key' x' hx' hrole'⟩

/-- Two frameworks that share a store do not see each other's records, and both choose the first
host port. -/
theorem frameworks_share_port :
    let other : Config := { framework.name := "moor" }
    let store := (runRounds .calm (.start {} ∅ .stored) (twoLives other)).store
    ({} : Config).validate = .ok () ∧ Round.Valid (twoLives other) ∧
      ∃ key key' x x', store.record? key = some x ∧ store.record? key' = some x' ∧ key ≠ key' ∧
        x.role = .datastore ∧ x'.role = .datastore ∧ x.framework = "keel" ∧ x'.framework = "moor" ∧
        x.firstHostPort? = some 31000 ∧ x'.firstHostPort? = some 31000 := by
  intro other store
  have hcfg : Lays {} := ⟨by decide +kernel, Config.finite_default, by decide, by decide⟩
  have hother : Lays other := by
    refine ⟨by decide +kernel, ?_, by decide, by decide⟩
    obtain ⟨hcpus, hmem, hdisk, hcpu, hmemory⟩ := Config.finite_default
    exact ⟨hcpus, hmem, hdisk, hcpu, hmemory⟩
  exact ⟨hcfg.valid, valid_twoLives hother.valid, exists_datastores_of_frameworks
    (managed_start .calm hcfg.valid .stored) Surroundings.clear_calm.steady hcfg (fun _ => rfl)
    hother (by decide)⟩

end Scheduling

end Stevedore
