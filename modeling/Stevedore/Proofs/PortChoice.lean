import Stevedore.Proofs.Building
import Stevedore.Proofs.Registration

/-!
# How datastores get their host ports

The host port of a datastore is chosen once, when a tick creates the record, and differs from all
that the framework's records take at that time (`Chooses`). From then on the record keeps it
(`Inherits`), because whatever edits a record only supplies ports that were left open. So the host
ports of a framework's datastores stay apart (`Managed.portsApart_of_grows`).
-/

namespace Stevedore

theorem Config.PortsValid.of_sameNeeds {cfg cfg' : Config} (h : cfg.PortsValid)
    (hneeds : cfg.SameNeeds cfg') : cfg'.PortsValid := by
  have hport : cfg'.datastorePort? = cfg.datastorePort? := by
    rw [datastorePort?, datastorePort?, hneeds.datastorePort]
  obtain ⟨port, hfound⟩ := h.datastore
  refine ⟨?_, ?_, ?_, port, hport.trans hfound⟩
  all_goals rw [hneeds.scheduler]
  · exact h.first_ne
  · exact h.first_le
  · exact h.last_le

/-- A task that has not stopped takes a host port for itself. -/
def TaskRecord.Pins (r : TaskRecord) (port : UInt32) : Prop :=
  r.state.isTerminal = false ∧ ∃ p ∈ r.container.ports, p.isDynamic = false ∧ p.hostPort = port

theorem TaskRecord.firstHostPort?_eq_some_iff {r : TaskRecord} {port : UInt32} :
    r.firstHostPort? = some port ↔
      ∃ p rest, r.container.ports = p :: rest ∧ p.hostPort = port ∧ p.isDynamic = false := by
  unfold firstHostPort?
  rw [Option.filter_eq_some_iff, Option.map_eq_some_iff]
  constructor
  · rintro ⟨⟨p, hhead, rfl⟩, hopen⟩
    obtain ⟨rest, hports⟩ := List.head?_eq_some_iff.1 hhead
    exact ⟨p, rest, hports, rfl, beq_eq_false_iff_ne.2 (bne_iff_ne.1 hopen)⟩
  · rintro ⟨p, rest, hports, rfl, hopen⟩
    refine ⟨⟨p, by rw [hports]; rfl, rfl⟩, bne_iff_ne.2 (beq_eq_false_iff_ne.1 hopen)⟩

theorem TaskRecord.pins_firstHostPort {r : TaskRecord} {port : UInt32}
    (h : r.firstHostPort? = some port) (halive : r.state.isTerminal = false) : r.Pins port := by
  obtain ⟨p, rest, hports, hport, hopen⟩ := firstHostPort?_eq_some_iff.1 h
  refine ⟨halive, p, ?_, hopen, hport⟩
  rw [hports]
  exact List.mem_cons_self

theorem Ports.mem_used_iff {records : List TaskRecord} {port : UInt32} :
    port ∈ used records ↔ ∃ r ∈ records, r.Pins port := by
  simp [used, TaskRecord.Pins, and_assoc]

namespace Scheduling

open Manager (Offer)
open Store (Memory)

variable {s : Surroundings} {w w' : World} {store store' store'' : Memory} {r r' x : TaskRecord}
  {key : String} {port : UInt32}

/-! ### Records that keep their host ports -/

/-- What has become of a record is of the same task, and still has its host port. -/
structure Descends (r x : TaskRecord) : Prop where
  framework : x.framework = r.framework
  role : x.role = r.role
  port : ∀ {port}, r.firstHostPort? = some port → x.firstHostPort? = some port

theorem Descends.refl (r : TaskRecord) : Descends r r :=
  ⟨rfl, rfl, id⟩

theorem Descends.trans (h : Descends r r') (h' : Descends r' x) : Descends r x where
  framework := h'.framework.trans h.framework
  role := h'.role.trans h.role
  port hport := h'.port (h.port hport)

theorem Descends.of_edit {accepted : Manager.TaskStatus → Prop} (h : Edit accepted r r') :
    Descends r r' := by
  cases h with
  | promoted => exact ⟨rfl, rfl, id⟩
  | unstaged => exact ⟨rfl, rfl, id⟩
  | advanced => exact ⟨rfl, rfl, id⟩
  | @staged offer ports eligible fits now =>
    refine ⟨rfl, rfl, fun hport => ?_⟩
    obtain ⟨p, rest, hports, rfl, hopen⟩ := TaskRecord.firstHostPort?_eq_some_iff.1 hport
    have hresolves := (supplies_of_fit fits).resolves
    rw [hports, List.forall₂_cons_left_iff] at hresolves
    obtain ⟨q, rest', ⟨hq, -⟩, -, rfl⟩ := hresolves
    -- the offer does not move a port that is fixed
    have hsame : q.hostPort = p.hostPort := hq.fixed hopen
    refine TaskRecord.firstHostPort?_eq_some_iff.2 ⟨q, rest', rfl, hsame, ?_⟩
    rw [PortMapping.isDynamic, hsame]
    exact hopen

/-- Every record of a store has become of one that was under the same key of another store. -/
def Inherits (store store' : Memory) : Prop :=
  ∀ ⦃key x⦄, store'.record? key = some x → ∃ r, store.record? key = some r ∧ Descends r x

theorem Inherits.refl (store : Memory) : Inherits store store :=
  fun _ x hx => ⟨x, hx, .refl x⟩

theorem Inherits.trans (h : Inherits store store') (h' : Inherits store' store'') :
    Inherits store store'' := by
  intro key x hx
  obtain ⟨r', hr', hdescends'⟩ := h' hx
  obtain ⟨r, hr, hdescends⟩ := h hr'
  exact ⟨r, hr, hdescends.trans hdescends'⟩

theorem Edited.inherits {accepted : Manager.TaskStatus → Prop} (h : Edited accepted store store') :
    Inherits store store' := by
  intro key x hx
  obtain hsame | ⟨r, hr, hedit⟩ := h hx
  · exact ⟨x, hsame, .refl x⟩
  · exact ⟨r, hr, .of_edit hedit⟩

/-- **What creates no records leaves every host port as it is.** -/
theorem Run.Built.inherits {may : Liberty → Prop} {offers : List Offer} {α : Type} {m : Run α}
    (h : Run.Built may offers m) (hcreate : ¬ may .create) (hplaced : Placed w.store) :
    Inherits w.store (m s w).2.store := by
  let P (store store' : Memory) : Prop := Placed store → Placed store' ∧ Inherits store store'
  have htrans : ∀ {store store' store''}, P store store' → P store' store'' → P store store'' := by
    intro store store' store'' h h' hplaced
    obtain ⟨hplaced', hinherits⟩ := h hplaced
    obtain ⟨hplaced'', hinherits'⟩ := h' hplaced'
    exact ⟨hplaced'', hinherits.trans hinherits'⟩
  have htended : ∀ {name store store' issued}, Run.Tended may offers name store store' issued →
      P store store' := by
    intro name store store' issued htended hplaced
    have hedited : Edited (fun _ => True) store store' :=
      htended.edited (fun _ _ => trivial) hplaced
    exact ⟨hedited.placed hplaced, hedited.inherits⟩
  have hall : P w.store (m s w).2.store :=
    h.relates_stores (P := fun _ => P) hcreate (fun _ store hplaced => ⟨hplaced, .refl store⟩)
      htrans htended s w
  exact (hall hplaced).2

/-! ### Ports that are chosen -/

/-- A tick that starts in a world stores a datastore under a key. Its host port is not the one that
belongs to the control plane by the settings in force, and no record of the framework takes it. -/
inductive Chooses (s : Surroundings) (w : World) (key : String) (port : UInt32) : Prop
  | intro {settings : Settings} {r : TaskRecord} (stored : w.storedSettings = .ok settings)
      (saved : (Run.tick w.config.current s w).2.store.get? key = some (Json.encode r).render)
      (role : r.role = .datastore) (hostPort : r.firstHostPort? = some port)
      (server : port ≠ (w.config.current.withSettings settings).server.hostPort)
      (free : ∀ ⦃other x⦄, w.store.record? other = some x → x.framework = w.framework →
        ¬ x.Pins port)

/-- A record that a tick stores is one of its framework. A datastore's host port was chosen for it,
and is a port number. -/
structure Arises (s : Surroundings) (w : World) (key : String) (x : TaskRecord) : Prop where
  framework : x.framework = w.framework
  place : x.role = .datastore → key = Key.task w.framework .datastore (s.taskId w.tally.ids)
  port : x.role = .datastore → ∃ port, x.firstHostPort? = some port ∧ Chooses s w key port ∧
    1 ≤ port.toNat ∧ port.toNat ≤ 65535

/-- Every record of a store has become of one that was there in a world, or was stored by a tick
that started there. -/
def Grows (s : Surroundings) (w : World) (store : Memory) : Prop :=
  ∀ ⦃key x⦄, store.record? key = some x →
    (∃ r, w.store.record? key = some r ∧ Descends r x) ∨ Arises s w key x

theorem Arises.descends (h : Arises s w key r) (hdescends : Descends r x) : Arises s w key x where
  framework := hdescends.framework.trans h.framework
  place hrole := h.place (hdescends.role.symm.trans hrole)
  port hrole := by
    obtain ⟨port, hport, hchosen⟩ := h.port (hdescends.role.symm.trans hrole)
    exact ⟨port, hdescends.port hport, hchosen⟩

theorem Grows.inherits (h : Grows s w store) (hinherits : Inherits store store') :
    Grows s w store' := by
  intro key x hx
  obtain ⟨r', hr', hdescends'⟩ := hinherits hx
  obtain ⟨r, hr, hdescends⟩ | harises := h hr'
  · exact Or.inl ⟨r, hr, hdescends.trans hdescends'⟩
  · exact Or.inr (harises.descends hdescends')

/-- A host port that a new datastore may take in a world when some settings are in force. -/
def World.FreePort (w : World) (settings : Settings) (port : UInt32) : Prop :=
  Ports.Free ((w.config.current.withSettings settings).server.hostPort ::
    Ports.used (w.store.records w.framework)) w.config.current.scheduler.portRangeStart
      w.config.current.scheduler.portRangeEnd port

/-- The host port of a new datastore is the lowest one that is free. -/
structure TakesLowest (w : World) (settings : Settings) (r : TaskRecord) (port : UInt32) :
    Prop where
  ports : ∃ containerPort, r.container.ports = [⟨port, containerPort, "tcp"⟩]
  free : w.FreePort settings port
  lowest : ∀ other, w.FreePort settings other → port ≤ other
  positive : 1 ≤ port.toNat
  atMost : port.toNat ≤ 65535

section NewRecords

variable {settings : Settings}

theorem TakesLowest.firstHostPort (h : TakesLowest w settings r port) :
    r.firstHostPort? = some port := by
  obtain ⟨containerPort, hports⟩ := h.ports
  refine TaskRecord.firstHostPort?_eq_some_iff.2 ⟨_, _, hports, rfl, ?_⟩
  refine beq_eq_false_iff_ne.2 fun hzero => ?_
  have hpos := h.positive
  rw [show port = 0 from hzero] at hpos
  exact absurd hpos (by decide)

theorem TakesLowest.eq (h : TakesLowest w settings r port)
    (hfirst : w.FreePort settings w.config.current.scheduler.portRangeStart) :
    port = w.config.current.scheduler.portRangeStart :=
  UInt32.le_antisymm (h.lowest _ hfirst) h.free.first_le

/-- What a tick attempts to build for a datastore. -/
def World.newDatastore (w : World) (s : Surroundings) (settings : Settings) (identity : Identity) :
    Except Build.Fault TaskRecord :=
  Build.buildRole ⟨w.config.current.withSettings settings, identity,
    Ports.used (w.store.records w.framework), s.clock w.tally.times⟩ .datastore
      (s.taskId w.tally.ids)

theorem World.newDatastore_cases (hvalid : w.config.current.PortsValid) (s : Surroundings)
    (settings : Settings) (identity : Identity) :
    (∃ r port, w.newDatastore s settings identity = .ok r ∧ TakesLowest w settings r port) ∨
      (∃ e, w.newDatastore s settings identity = .error e) ∧
        ¬ ∃ port, w.FreePort settings port := by
  obtain ⟨containerPort, hport⟩ := hvalid.datastore
  have hport' := Build.datastorePort_withSettings hport settings identity
    (Ports.used (w.store.records w.framework)) (s.clock w.tally.times)
  obtain ⟨r, port, hr, -, hports, -, hfree, hlowest⟩ | ⟨herror, hnone⟩ :=
    Build.datastore_cases hport' (s.taskId w.tally.ids)
  · obtain ⟨hpos, hle⟩ := hfree.bounds (hvalid.withSettings settings)
    exact Or.inl ⟨r, port, hr, ⟨containerPort, hports⟩, hfree, hlowest, hpos, hle⟩
  · exact Or.inr ⟨⟨_, herror⟩, hnone⟩

/-- A new datastore takes the first id that is drawn, and the lowest host port that is free. -/
theorem datastore_of_mem_newRecords {identity : Identity}
    (hvalid : w.config.current.PortsValid)
    (hr : r ∈ newRecords w.config.current s w settings identity) (hrole : r.role = .datastore) :
    r.id = s.taskId w.tally.ids ∧ ∃ port, TakesLowest w settings r port := by
  obtain ⟨role, -, hmade⟩ := List.mem_filterMap.1 hr
  obtain rfl : role = .datastore := (Maker.role_of_made hmade).symm.trans hrole
  rw [Role.all, Maker.record?_cons_self] at hmade
  refine ⟨Maker.id_of_made hmade, ?_⟩
  have hbuilt : w.newDatastore s settings identity = .ok r :=
    build_of_newRecord? (Maker.built_of_made hmade)
  obtain ⟨r', port, hr', htakes⟩ | ⟨⟨e, herror⟩, -⟩ :=
    World.newDatastore_cases hvalid s settings identity
  · cases hbuilt.symm.trans hr'
    exact ⟨port, htakes⟩
  · cases hbuilt.symm.trans herror

/-- A tick stores a datastore if one is wanted and its record can be built and written. -/
theorem exists_mem_newRecords (hvalid : w.config.current.PortsValid)
    (hshort : activeCount (w.store.records w.framework) .datastore <
      (w.config.current.desired .datastore).toNat)
    (hwrite : s.writeFault w.tally.writes = none) (hfree : ∃ port, w.FreePort settings port)
    (identity : Identity) :
    ∃ r ∈ newRecords w.config.current s w settings identity,
      r.role = .datastore ∧ ∃ port, TakesLowest w settings r port := by
  obtain ⟨r, port, hr, htakes⟩ | ⟨-, hnone⟩ := World.newDatastore_cases hvalid s settings identity
  · obtain ⟨hmem, hrole⟩ :=
      mem_newRecords_of_newRecord? hshort hwrite (congrArg Except.toOption hr)
    exact ⟨r, hmem, hrole, port, htakes⟩
  · exact absurd hfree hnone

end NewRecords

/-! ### Stores in which host ports are apart -/

/-- Every datastore has a host port, and no other datastore of its framework has the same. -/
structure PortsApart (store : Memory) : Prop where
  plain : ∀ ⦃key x⦄, store.record? key = some x → ':' ∉ x.framework.toList
  port : ∀ ⦃key x⦄, store.record? key = some x → x.role = .datastore →
    ∃ port, x.firstHostPort? = some port ∧ 1 ≤ port.toNat ∧ port.toNat ≤ 65535
  apart : ∀ ⦃key key' x x' port⦄, store.record? key = some x → store.record? key' = some x' →
    x.role = .datastore → x'.role = .datastore → x.framework = x'.framework →
    x.firstHostPort? = some port → x'.firstHostPort? = some port → key = key'

/-- A process whose framework's tasks are registered, and whose store and configuration are in
order. -/
structure Managed (s : Surroundings) (w : World) : Prop extends Ordered s w where
  valid : w.config.current.PortsValid
  portsApart : PortsApart w.store

theorem PortsApart.ancestor (h : PortsApart store) (hr : store.record? key = some r)
    (hdescends : Descends r x) (hrole : x.role = .datastore)
    (hport : x.firstHostPort? = some port) :
    r.role = .datastore ∧ r.firstHostPort? = some port := by
  have hrole' : r.role = .datastore := hdescends.role.symm.trans hrole
  obtain ⟨port', hport', -⟩ := h.port hr hrole'
  cases hport.symm.trans (hdescends.port hport')
  exact ⟨hrole', hport'⟩

namespace Managed

/-- A host port that is chosen belongs to no datastore of the framework. -/
theorem not_chooses (h : Managed s w) (hr : w.store.record? key = some r)
    (hframework : r.framework = w.framework) (hport : r.firstHostPort? = some port)
    {key' : String} : ¬ Chooses s w key' port := by
  rintro ⟨-, -, -, -, -, hfree⟩
  have hplaced : key = Key.task w.framework r.role r.id := by
    rw [← hframework]
    exact (h.named.placed hr).symm
  have halive : r.state.isTerminal = false := h.own.kept.alive (hplaced ▸ hr)
  exact hfree hr hframework (TaskRecord.pins_firstHostPort hport halive)

/-- **New records do not bring host ports together.** -/
theorem portsApart_of_grows (h : Managed s w) (hgrows : Grows s w store) : PortsApart store where
  plain key x hx := by
    obtain ⟨r, hr, hdescends⟩ | harises := hgrows hx
    · rw [hdescends.framework]
      exact h.portsApart.plain hr
    · rw [harises.framework]
      exact h.named.plain
  port key x hx hrole := by
    obtain ⟨r, hr, hdescends⟩ | harises := hgrows hx
    · obtain ⟨port, hport, hbounds⟩ := h.portsApart.port hr (hdescends.role.symm.trans hrole)
      exact ⟨port, hdescends.port hport, hbounds⟩
    · obtain ⟨port, hport, -, hbounds⟩ := harises.port hrole
      exact ⟨port, hport, hbounds⟩
  apart key key' x x' port hx hx' hrole hrole' hframework hport hport' := by
    obtain ⟨r, hr, hdescends⟩ | harises := hgrows hx
    · obtain ⟨hrole₁, hport₁⟩ := h.portsApart.ancestor hr hdescends hrole hport
      obtain ⟨r', hr', hdescends'⟩ | harises' := hgrows hx'
      · obtain ⟨hrole₂, hport₂⟩ := h.portsApart.ancestor hr' hdescends' hrole' hport'
        have hsame : r.framework = r'.framework := by
          rw [← hdescends.framework, hframework, hdescends'.framework]
        exact h.portsApart.apart hr hr' hrole₁ hrole₂ hsame hport₁ hport₂
      · obtain ⟨chosen, hchosen, hchooses, -⟩ := harises'.port hrole'
        cases hport'.symm.trans hchosen
        have hown : r.framework = w.framework := by
          rw [← hdescends.framework, hframework, harises'.framework]
        exact absurd hchooses (h.not_chooses hr hown hport₁)
    · obtain ⟨r', hr', hdescends'⟩ | harises' := hgrows hx'
      · obtain ⟨hrole₂, hport₂⟩ := h.portsApart.ancestor hr' hdescends' hrole' hport'
        obtain ⟨chosen, hchosen, hchooses, -⟩ := harises.port hrole
        cases hport.symm.trans hchosen
        have hown : r'.framework = w.framework := by
          rw [← hdescends'.framework, ← hframework, harises.framework]
        exact absurd hchooses (h.not_chooses hr' hown hport₂)
      · exact (harises.place hrole).trans (harises'.place hrole').symm

/-- Every record is one that was there before a tick, or the tick has stored it. -/
theorem record?_tick_cases (h : Managed s w)
    (hx : (Run.tick w.config.current s w).2.store.record? key = some x) :
    w.store.record? key = some x ∨ ∃ settings identity, w.storedSettings = .ok settings ∧
      x ∈ newRecords w.config.current s w settings identity ∧ x.storeKey = key ∧
      (Run.tick w.config.current s w).2.store.get? key = some (Json.encode x).render := by
  obtain ⟨n, hrun, -⟩ | ⟨settings, identity, w₁, records, report, hsettings, hfounding, hadds,
    hrun⟩ := tick_phases (s := s) (apart_of_name h.named.name)
  · rw [hrun] at hx
    exact Or.inl hx
  -- the record belongs to some framework, because the nodes bring no others
  have hplain : ':' ∉ x.framework.toList := by
    have hnodes : Run.Built (fun _ => False) [] (Run.nodePass records report) :=
      Run.built_nodePass _ _
    obtain ⟨r, hr, hdescends⟩ := hnodes.inherits not_false (hfounding.placed h.named.placed)
      (s := s) (hrun ▸ hx)
    rw [hdescends.framework]
    obtain ⟨text, htext, hread⟩ := Option.bind_eq_some_iff.1 hr
    obtain hsame | ⟨r₀, hr₀, -, rfl⟩ | ⟨-, rfl, -⟩ := hfounding.texts htext
    · exact h.portsApart.plain (Option.bind_eq_some_iff.2 ⟨text, hsame, hread⟩)
    · rw [← Records.eq_of_ofStored?_render hread, hr₀.framework]
      exact h.named.plain_withSettings settings
    · rw [Records.ofStored?_settings] at hread
      cases hread
  have hkey : Key.task x.framework x.role x.id = key := (h.named.tick s).placed hx
  obtain ⟨text, htext, hread⟩ := Option.bind_eq_some_iff.1 hx
  have hnew : ∀ r ∈ newRecords w.config.current s w settings identity,
      ':' ∉ r.framework.toList := by
    intro r hr
    rw [(provided_of_mem hr).framework, h.named.name]
    exact h.named.plain
  obtain hsame | ⟨r, hr, rfl, hframework, hrole, hid⟩ :=
    hadds.text_cases h.named.plain hplain hnew (hkey ▸ htext)
  · exact Or.inl (Option.bind_eq_some_iff.2 ⟨text, hkey ▸ hsame, hread⟩)
  · obtain rfl := Records.eq_of_ofStored?_render hread
    exact Or.inr ⟨settings, identity, hsettings, hr, hkey, htext⟩

/-- What a tick has stored. -/
theorem grows_tick (h : Managed s w) :
    Grows s w (Run.tick w.config.current s w).2.store := by
  intro key x hx
  obtain hsame | ⟨settings, identity, hsettings, hr, rfl, htext⟩ := h.record?_tick_cases hx
  · exact Or.inl ⟨x, hsame, .refl x⟩
  have hframework : x.framework = w.framework :=
    (provided_of_mem hr).framework.trans h.named.name
  refine Or.inr ⟨hframework, fun hrole => ?_, fun hrole => ?_⟩
  · rw [TaskRecord.storeKey, hframework, hrole, (datastore_of_mem_newRecords h.valid hr hrole).1]
  · obtain ⟨-, port, htakes⟩ := datastore_of_mem_newRecords h.valid hr hrole
    have hserver := List.ne_of_not_mem_cons htakes.free.notMem
    refine ⟨port, htakes.firstHostPort,
      ⟨hsettings, htext, hrole, htakes.firstHostPort, hserver, ?_⟩, htakes.positive, htakes.atMost⟩
    intro other taker htaker hsame hpins
    refine List.not_mem_of_not_mem_cons htakes.free.notMem
      (Ports.mem_used_iff.2 ⟨taker, Memory.mem_records_iff.2 ?_, hpins⟩)
    have hplaced : Key.task taker.framework taker.role taker.id = other := h.named.placed htaker
    exact ⟨taker.role, taker.id, by rw [← hsame, hplaced]; exact htaker⟩

theorem restart (h : Managed s w) {cfg : Config} (hcfg : cfg.validate = .ok ()) :
    Managed s (w.restart cfg) where
  toOrdered := h.toOrdered.restart hcfg
  valid := Config.portsValid_of_validate hcfg
  portsApart := h.portsApart

theorem built (h : Managed s w) {may : Liberty → Prop} {offers : List Offer} {α : Type}
    {m : Run α} (hbuilt : Run.Built may offers m) (hcreate : ¬ may .create) :
    Managed s (m s w).2 where
  toOrdered := h.toOrdered.built hbuilt hcreate
  valid := h.valid.of_sameNeeds (hbuilt.confined s w).needs
  portsApart := h.portsApart_of_grows fun _ _ hx =>
    Or.inl (hbuilt.inherits hcreate h.named.placed hx)

theorem tick (h : Managed s w) : Managed s (Run.tick w.config.current s w).2 where
  toOrdered := h.toOrdered.tick
  valid := h.valid.of_sameNeeds (confined_tick w.config.current s w).needs
  portsApart := h.portsApart_of_grows h.grows_tick

end Managed

end Scheduling

end Stevedore
