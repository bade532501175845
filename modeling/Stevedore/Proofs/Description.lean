import Stevedore.Proofs.Contents
import Stevedore.Proofs.FirstFit

/-!
# What the description of a launched task says

A task is described to the manager by its record, once the host ports are known. Two sides have to
agree here that know nothing of each other. The first is the search for an offer, which decides what
has to be offered and hands out the ports; the second is the description, which has rules of its own
for what it names. They do agree on what is taken of the offer (`launch_within_offer`).

They agree on the ports of an agent, too, as long as these are different inside the container
(`agent_ports_listed`). The description finds the host port of a listed port by the number of the
port inside the container, and gives the first that it finds.
-/

namespace Stevedore.Scheduling

open Manager (Offer PublishedPort Range Resource TaskInfo)

variable {offer : Offer} {r : TaskRecord} {ports : List PortMapping}

/-! ### What a task asks for -/

/-- The ranges of ports among some resources, read as those of an offer are. -/
def rangesAmong (resources : List Resource) : List Range :=
  ((resources.filter fun res => res.name == "ports").filterMap (·.ranges)).flatten

/-- A task asks for what it needs of each scalar resource, and for no more than there is. -/
structure AsksScalars (offer : Offer) (need : Resources) (asked : List Resource) : Prop where
  once : (asked.map (·.name)).Nodup
  /-- What is asked for is needed. -/
  needed : ∀ res ∈ asked, res.name ≠ "ports" →
    ∃ entry ∈ needs need, res = .ofScalar entry.1 entry.2
  /-- What is needed is asked for. -/
  complete : ∀ entry ∈ needs need, entry.2.isPositive = true → .ofScalar entry.1 entry.2 ∈ asked
  /-- What is asked for is there. -/
  covered : ∀ res ∈ asked, ∀ x, res.scalar = some x →
    x.isPositive = false ∨ x.le (offer.scalar res.name) = true

/-- A task asks for one port for each of its mappings, and these are different ports of the
offer. -/
structure AsksPorts (offer : Offer) (r : TaskRecord) (ports : List PortMapping)
    (asked : List Resource) : Prop where
  /-- The mappings are those of the record, with host ports. -/
  resolves : List.Forall₂ PortMapping.Resolves r.container.ports ports
  known : ∀ p ∈ ports, p.hostPort ≠ 0
  /-- There is one range for each, in the same order. -/
  ranges : rangesAmong asked = ports.map fun p => .single p.hostPort.toUInt64
  distinct : (rangesAmong asked).Nodup
  offered : ∀ range ∈ rangesAmong asked, ∃ within ∈ offer.portRanges,
    within.first ≤ range.first ∧ range.last ≤ within.last

/-- A container publishes the ports that are asked for, each with the transport protocol of the
mapping that it belongs to. -/
structure Publishes (r : TaskRecord) (asked : List Range) (published : List PublishedPort) :
    Prop where
  hostPorts : (published.map fun x => Range.single x.hostPort.toUInt64) = asked
  mappings : List.Forall₂ (fun p x => x.containerPort = p.containerPort ∧
    x.protocol = some (if p.protocol = "udp" then "udp" else "tcp")) r.container.ports published

theorem single_toUInt64_injective :
    Function.Injective fun port : UInt32 => Range.single port.toUInt64 := by
  intro port other h
  have hfirst : port.toUInt64 = other.toUInt64 := congrArg Range.first h
  have hnat := congrArg UInt64.toNat hfirst
  rw [UInt32.toNat_toUInt64, UInt32.toNat_toUInt64] at hnat
  exact UInt32.toNat_inj.1 hnat

/-- Every mapping has a host port that is one. -/
theorem hostPort_ne_zero_of_supplies {ranges : List Range} {ps : List PortMapping}
    (h : Supplies ranges ps ports) : ∀ p ∈ ports, p.hostPort ≠ 0 := by
  intro p hp hzero
  obtain ⟨q, -, hresolves, hopen⟩ := exists_of_forall₂_of_mem h.resolves hp
  by_cases hdynamic : q.isDynamic = true
  · have hpositive := (hopen hdynamic).1
    simp [hzero] at hpositive
  · have hfixed := hresolves.fixed (by simpa using hdynamic)
    simp [PortMapping.isDynamic, ← hfixed, hzero] at hdynamic

/-- Where every host port is known, every mapping has its range. -/
theorem portRangesOf_eq {c : ContainerSpec} (h : ∀ p ∈ c.ports, p.hostPort ≠ 0) :
    Manager.portRangesOf c = c.ports.map fun p => .single p.hostPort.toUInt64 := by
  unfold Manager.portRangesOf
  rw [List.filter_eq_self.2]
  intro p hp
  simpa [PortMapping.isDynamic] using h p hp

theorem rangesAmong_resourcesOf (r : TaskRecord) :
    rangesAmong (Manager.resourcesOf r) = Manager.portRangesOf r.container := by
  unfold rangesAmong Manager.resourcesOf
  by_cases hdisk : r.resources.disk.isPositive = true <;>
    by_cases hports : (Manager.portRangesOf r.container).isEmpty = true <;>
      simp_all [Resource.ofScalar, Resource.ofRanges]

/-- Disk space and ports are left out if there are none, and nothing else is. -/
theorem mem_resourcesOf_iff {res : Resource} :
    res ∈ Manager.resourcesOf r ↔
      res = .ofScalar "cpus" r.resources.cpus ∨ res = .ofScalar "mem" r.resources.mem ∨
      r.resources.disk.isPositive = true ∧ res = .ofScalar "disk" r.resources.disk ∨
      (Manager.portRangesOf r.container).isEmpty = false ∧
        res = .ofRanges "ports" (Manager.portRangesOf r.container) := by
  unfold Manager.resourcesOf
  by_cases hdisk : r.resources.disk.isPositive = true <;>
    by_cases hports : (Manager.portRangesOf r.container).isEmpty = true <;>
      simp [hdisk, hports]

theorem asksScalars_resourcesOf (hcovers : Covers offer r.resources) :
    AsksScalars offer r.resources (Manager.resourcesOf r) where
  once := by
    unfold Manager.resourcesOf
    by_cases hdisk : r.resources.disk.isPositive = true <;>
      by_cases hports : (Manager.portRangesOf r.container).isEmpty = true <;>
        simp [hdisk, hports, Resource.ofScalar, Resource.ofRanges]
  needed res hres hname := by
    rcases mem_resourcesOf_iff.1 hres with rfl | rfl | ⟨-, rfl⟩ | ⟨-, rfl⟩
    · exact ⟨("cpus", r.resources.cpus), by simp [needs], rfl⟩
    · exact ⟨("mem", r.resources.mem), by simp [needs], rfl⟩
    · exact ⟨("disk", r.resources.disk), by simp [needs], rfl⟩
    · exact absurd rfl hname
  complete entry hentry hpositive := by
    simp only [needs, List.mem_cons, List.not_mem_nil, or_false] at hentry
    rw [mem_resourcesOf_iff]
    rcases hentry with rfl | rfl | rfl
    · simp
    · simp
    · simp [hpositive]
  covered res hres x hx := by
    have hmet : ∀ {need offered : Binary64}, (need.isPositive = true → need.le offered = true) →
        need.isPositive = false ∨ need.le offered = true := by
      intro need offered h
      cases hpositive : need.isPositive with
      | true => exact Or.inr (h hpositive)
      | false => exact Or.inl rfl
    rcases mem_resourcesOf_iff.1 hres with rfl | rfl | ⟨-, rfl⟩ | ⟨-, rfl⟩
    · cases hx
      exact hmet hcovers.cpus
    · cases hx
      exact hmet hcovers.mem
    · cases hx
      exact hmet hcovers.disk
    · cases hx

/-- **A launch asks for nothing that is not offered.** Take an offer and a record with finite
amounts that fits it, and the description of the task with the host ports that it was given. Of each
scalar resource it asks for what the record needs, which is not positive or at most what is offered;
and it asks for one port for each mapping of the record, in their order, all different and offered,
none of them zero. A container with a network of its own publishes these host ports in the same
order, with `udp` where the record says so and `tcp` otherwise; one that shares the host's network
or has none publishes no ports. -/
theorem launch_within_offer (offer : Offer) (r : TaskRecord)
    (hoffer : ∀ res ∈ offer.resources, ∀ x, res.scalar = some x → x.isFinite = true)
    (hneeds : ∀ need ∈ needs r.resources, need.2.isFinite = true) {ports : List PortMapping}
    (hfit : fit offer r = .ok ports) (machine : Manager.Id) (now : UInt64) :
    let info := TaskInfo.ofRecord (r.staged offer ports now) machine
    AsksScalars offer r.resources info.resources ∧ AsksPorts offer r ports info.resources ∧
      ∃ container docker, info.container = some container ∧ container.docker = some docker ∧
        (r.container.network = .bridge ∨ r.container.network = .user →
          Publishes r (rangesAmong info.resources) docker.portMappings) ∧
        (r.container.network = .host ∨ r.container.network = .none → docker.portMappings = []) := by
  intro info
  have hcovers : Covers offer r.resources :=
    (checkScalars_needs_iff hoffer hneeds).1 (fit_eq_ok_iff.1 hfit).1
  have hsupplies := supplies_of_fit hfit
  have hresolves := forall₂_of_fit hfit
  have hknown := hostPort_ne_zero_of_supplies hsupplies
  have hranges : rangesAmong info.resources = ports.map fun p => .single p.hostPort.toUInt64 :=
    (rangesAmong_resourcesOf _).trans (portRangesOf_eq (c := { r.container with ports }) hknown)
  refine ⟨asksScalars_resourcesOf (r := r.staged offer ports now) hcovers,
    ⟨hresolves, hknown, hranges, ?_, fun range hrange => ?_⟩, _, _, rfl, rfl, fun hnetwork => ?_,
    fun hnetwork => ?_⟩
  · rw [hranges]
    have hmapped := hsupplies.distinct.map single_toUInt64_injective
    rwa [List.map_map] at hmapped
  · rw [hranges] at hrange
    obtain ⟨p, hp, rfl⟩ := List.mem_map.1 hrange
    obtain ⟨within, hwithin, hfirst, hlast⟩ := hsupplies.offered p hp
    refine ⟨within, hwithin, ?_, ?_⟩
    · simpa [Range.single, UInt64.le_iff_toNat_le] using hfirst
    · simpa [Range.single, UInt64.le_iff_toNat_le] using hlast
  · have hpublished : Manager.publishedPortsOf { r.container with ports } =
        ports.map fun p => ⟨p.hostPort, p.containerPort, some p.transport⟩ := by
      unfold Manager.publishedPortsOf
      rcases hnetwork with h | h <;> simp [h]
    show Publishes r (rangesAmong info.resources)
      (Manager.publishedPortsOf { r.container with ports })
    rw [hpublished, hranges]
    constructor
    · rw [List.map_map]
      rfl
    · rw [List.forall₂_map_right_iff]
      refine hresolves.imp fun p q h => ⟨h.containerPort, ?_⟩
      rw [PortMapping.transport, h.protocol]
  · show Manager.publishedPortsOf { r.container with ports } = []
    unfold Manager.publishedPortsOf
    rcases hnetwork with h | h <;> simp [h]

/-- A server with a fixed and an open port takes two ports of what is offered, and all of the
memory. -/
theorem server_within_offer :
    let offer : Offer := ⟨⟨"offer"⟩, ⟨"framework"⟩, ⟨"machine"⟩, "host",
      [.ofScalar "cpus" 4, .ofScalar "mem" 4096, .ofRanges "ports" [⟨31000, 31005⟩, ⟨6443, 6443⟩]]⟩
    let r : TaskRecord := { spare .server "a" with
      resources := ⟨3, 4096, 0⟩
      container.network := .bridge
      container.ports := [⟨6443, 6443, "tcp"⟩, .any 8080 "udp"] }
    let ports : List PortMapping := [⟨6443, 6443, "tcp"⟩, ⟨31000, 8080, "udp"⟩]
    let info := TaskInfo.ofRecord (r.staged offer ports 0) offer.agentId
    (∀ res ∈ offer.resources, ∀ x, res.scalar = some x → x.isFinite = true) ∧
      (∀ need ∈ needs r.resources, need.2.isFinite = true) ∧ fit offer r = .ok ports ∧
      AsksScalars offer r.resources info.resources ∧ AsksPorts offer r ports info.resources ∧
      ∃ container docker, info.container = some container ∧ container.docker = some docker ∧
        Publishes r (rangesAmong info.resources) docker.portMappings := by
  intro offer r ports info
  have hoffer : ∀ res ∈ offer.resources, ∀ x, res.scalar = some x → x.isFinite = true := by
    decide +kernel
  have hneeds : ∀ need ∈ needs r.resources, need.2.isFinite = true := by
    decide +kernel
  have hfit : fit offer r = .ok ports := by
    decide +kernel
  obtain ⟨hscalars, hports, container, docker, hcontainer, hdocker, hpublishes, -⟩ :=
    launch_within_offer offer r hoffer hneeds hfit offer.agentId 0
  exact ⟨hoffer, hneeds, hfit, hscalars, hports, container, docker, hcontainer, hdocker,
    hpublishes (Or.inl rfl)⟩

/-! ### Where an agent is found -/

/-- The ports under which a task is listed for those who look for it. -/
def listedPorts (info : TaskInfo) : List UInt32 :=
  ((info.discovery.bind (·.ports)).getD []).map (·.number)

/-- The ports inside the container that every agent has. -/
def ownPorts (cfg : Config) : List UInt32 :=
  [80, 443] ++ if cfg.agent.registryMirror then [5001, 6443] else []

/-- The extra port of the agents is none that they have anyway. -/
def ExtraPortApart (cfg : Config) : Prop :=
  ∀ port, cfg.agent.extraTcpPort = some port → port ∉ ownPorts cfg

/-- Only an extra port can be a second one of its number. -/
theorem nodup_agentPorts_iff (ctx : Build.Context) :
    ((Build.agentPorts ctx).map (·.containerPort)).Nodup ↔ ExtraPortApart ctx.cfg := by
  unfold Build.agentPorts ExtraPortApart ownPorts
  dsimp only
  generalize ctx.cfg.agent.extraTcpPort = extra
  cases extra with
  | none => cases ctx.cfg.agent.registryMirror <;> simp [PortMapping.any]
  | some port =>
    by_cases hzero : port = 0
    · subst hzero
      cases ctx.cfg.agent.registryMirror <;> simp [PortMapping.any]
    · cases ctx.cfg.agent.registryMirror <;> simp [PortMapping.any, hzero] <;> grind

/-! ### Looking host ports up -/

section Lookup

variable {c : ContainerSpec}

theorem outerPort_of_mem (hapart : (c.ports.map (·.containerPort)).Nodup) {p : PortMapping}
    (hp : p ∈ c.ports) : Manager.outerPort c p.containerPort = p.hostPort := by
  unfold Manager.outerPort
  cases hfind : c.ports.find? fun q => q.containerPort == p.containerPort with
  | none =>
    have hnone := List.find?_eq_none.1 hfind p hp
    simp at hnone
  | some q =>
    have hsame : q.containerPort = p.containerPort := by simpa using List.find?_some hfind
    rw [List.inj_on_of_nodup_map hapart (List.mem_of_find?_eq_some hfind) hp hsame]

/-- If all host ports are found, no two mappings have the same port inside the container. -/
theorem nodup_containerPorts (hdistinct : (c.ports.map (·.hostPort)).Nodup)
    (hall : ∀ p ∈ c.ports, p.hostPort ∈ c.ports.map fun q => Manager.outerPort c q.containerPort) :
    (c.ports.map (·.containerPort)).Nodup := by
  have hsubset : c.ports.map (·.hostPort) ⊆
      c.ports.map fun q => Manager.outerPort c q.containerPort := by
    intro port hport
    obtain ⟨p, hp, rfl⟩ := List.mem_map.1 hport
    exact hall p hp
  -- as many different ports are found as there are mappings, so none is found twice
  have hperm : (c.ports.map (·.hostPort)).Perm
      (c.ports.map fun q => Manager.outerPort c q.containerPort) := by
    apply (List.subperm_of_subset hdistinct hsubset).perm_of_length_le
    simp
  have hfound : ((c.ports.map (·.containerPort)).map (Manager.outerPort c)).Nodup := by
    rw [List.map_map]
    exact hperm.nodup hdistinct
  exact hfound.of_map

end Lookup

theorem discovery_of_agent {id : String} {ctx : Build.Context}
    (h : Build.agent id ctx = .ok r) : r.discovery.ports = Build.agentDiscovery ctx := by
  unfold Build.agent at h
  by_cases hlimit : ctx.cfg.agent.restrictDisk && ctx.cfg.agent.diskLimit.le 0
  · simp only [hlimit, if_true] at h
    cases h
  · simp only [hlimit] at h
    cases h
    rfl

theorem containerPorts_of_resolves {ps : List PortMapping}
    (h : List.Forall₂ PortMapping.Resolves ps ports) :
    ports.map (·.containerPort) = ps.map (·.containerPort) := by
  induction h with
  | nil => rfl
  | cons hfirst _ ih => simp [hfirst.containerPort, ih]

/-- An agent is listed under what the ports of its container lead to. -/
theorem listedPorts_of_agent {id : String} {ctx : Build.Context}
    (hbuild : Build.agent id ctx = .ok r)
    (hresolves : List.Forall₂ PortMapping.Resolves r.container.ports ports) (offer : Offer)
    (machine : Manager.Id) (now : UInt64) :
    listedPorts (TaskInfo.ofRecord (r.staged offer ports now) machine) =
      ports.map fun p => Manager.outerPort { r.container with ports } p.containerPort := by
  have hdiscovery := discovery_of_agent hbuild
  have hsome : (r.discovery.name.isEmpty && r.discovery.ports.isEmpty) = false := by
    simp [hdiscovery, Build.agentDiscovery, Build.agentPorts]
  have hlisted : listedPorts (TaskInfo.ofRecord (r.staged offer ports now) machine) =
      r.discovery.ports.map fun p => Manager.outerPort { r.container with ports } p.number := by
    show (((Manager.discoveryOf r.discovery { r.container with ports }).bind (·.ports)).getD []).map
      (·.number) = _
    simp [Manager.discoveryOf, hsome]
  have hnumbers : r.discovery.ports.map (·.number) = ports.map (·.containerPort) := by
    rw [containerPorts_of_resolves hresolves, ports_of_agent hbuild, hdiscovery,
      Build.agentDiscovery, List.map_map]
    rfl
  have hmapped := congrArg (List.map (Manager.outerPort { r.container with ports })) hnumbers
  rw [List.map_map, List.map_map] at hmapped
  exact hlisted.trans hmapped

/-- **Where an agent is found.** Take the record of a new agent that fits an offer, and the
description of the task with the host ports that it was given. If the extra port of the agents is
none that they have anyway, the k-th port under which the agent is listed is the host port of the
k-th mapping, so each of them is listed once. If it is, the host port of some mapping is not listed
at all. -/
theorem agent_ports_listed {id : String} {ctx : Build.Context} {r : TaskRecord}
    (hbuild : Build.agent id ctx = .ok r) {offer : Offer} {ports : List PortMapping}
    (hfit : fit offer r = .ok ports) (machine : Manager.Id) (now : UInt64) :
    let listed := listedPorts (TaskInfo.ofRecord (r.staged offer ports now) machine)
    (ExtraPortApart ctx.cfg → listed = ports.map (·.hostPort) ∧ listed.Nodup) ∧
      (¬ ExtraPortApart ctx.cfg → ∃ p ∈ ports, p.hostPort ∉ listed) := by
  intro listed
  have hsupplies := supplies_of_fit hfit
  have hresolves := forall₂_of_fit hfit
  have hlisted : listed =
      ports.map fun p => Manager.outerPort { r.container with ports } p.containerPort :=
    listedPorts_of_agent hbuild hresolves offer machine now
  have hapart : ExtraPortApart ctx.cfg ↔ (ports.map (·.containerPort)).Nodup := by
    rw [containerPorts_of_resolves hresolves, ports_of_agent hbuild]
    exact (nodup_agentPorts_iff ctx).symm
  rw [hapart, hlisted]
  constructor
  · intro hnodup
    have heach : (ports.map fun p => Manager.outerPort { r.container with ports } p.containerPort) =
        ports.map (·.hostPort) :=
      List.map_congr_left fun p hp => outerPort_of_mem (c := { r.container with ports }) hnodup hp
    rw [heach]
    exact ⟨rfl, hsupplies.distinct⟩
  · intro hclash
    by_contra hall
    push Not at hall
    exact hclash (nodup_containerPorts (c := { r.container with ports }) hsupplies.distinct hall)

/-- The fixed ports of an agent and an extra one are listed one by one. -/
theorem extra_port_listed :
    let cfg : Config := { ({} : Config) with agent.extraTcpPort := some 8472 }
    let ports : List PortMapping :=
      [⟨31000, 80, "http"⟩, ⟨31001, 443, "https"⟩, ⟨31002, 8472, "tcp"⟩]
    ∃ r, Build.agent "a" ⟨cfg, .fresh, [], 0⟩ = .ok r ∧ fit roomyOffer r = .ok ports ∧
      listedPorts (TaskInfo.ofRecord (r.staged roomyOffer ports 0) roomyOffer.agentId) =
        [31000, 31001, 31002] := by
  intro cfg ports
  obtain ⟨r, hbuild⟩ : ∃ r, Build.agent "a" ⟨cfg, .fresh, [], 0⟩ = .ok r := ⟨_, rfl⟩
  have hfit : fit roomyOffer r = .ok ports := by
    cases hbuild
    decide +kernel
  have hapart : ExtraPortApart cfg := by
    intro port hport
    cases hport
    decide
  exact ⟨r, hbuild, hfit,
    ((agent_ports_listed hbuild hfit roomyOffer.agentId 0).1 hapart).1⟩

/-- The extra port of an agent may be one that it has anyway. It is given a host port of its own,
but what is listed in its place is the host port of the other mapping. -/
theorem extra_port_hidden :
    let cfg : Config := { ({} : Config) with agent.extraTcpPort := some 443 }
    let ports : List PortMapping :=
      [⟨31000, 80, "http"⟩, ⟨31001, 443, "https"⟩, ⟨31002, 443, "tcp"⟩]
    cfg.validate = .ok () ∧ ∃ r, Build.agent "a" ⟨cfg, .fresh, [], 0⟩ = .ok r ∧
      fit roomyOffer r = .ok ports ∧
      listedPorts (TaskInfo.ofRecord (r.staged roomyOffer ports 0) roomyOffer.agentId) =
        [31000, 31001, 31001] := by
  intro cfg ports
  refine ⟨by decide +kernel, _, rfl, by decide +kernel, by decide +kernel⟩

end Stevedore.Scheduling
