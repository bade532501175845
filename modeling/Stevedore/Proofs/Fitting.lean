import Stevedore.Proofs.OfferAccounting

/-!
# What fits an offer

A task fits an offer if and only if the offer has enough of every scalar resource (`Covers`) and
there is some way to give the task's mappings different ports out of those offered (`Supplies`),
provided that fixed ports come before open ones, as they do in every record that is built
(`fit_iff_supplied`). The ranges of an offer may overlap, come in any order, be empty or reach
beyond the largest port number.

That ports are handed out one after the other, without looking ahead, does not stand in the way: an
open mapping takes at most one port away from those that come after it, and what comes after it is
open, too, and content with any port (`exists_resolvePorts_of_spare`).
-/

namespace Stevedore

namespace Binary64

/-! ### Comparing and adding finite amounts -/

theorem units?_ne_none {x : Binary64} (h : x ≠ nan) : x.units? ≠ none := by
  cases x with
  | nan => exact absurd rfl h
  | finite | infinite => nofun

theorem ne_nan_of_isFinite {x : Binary64} (h : x.isFinite = true) : x ≠ nan := by
  rintro rfl
  cases h

/-- Of two numbers one is less than the other or not. -/
theorem le_eq_not_lt {x y : Binary64} (hx : x ≠ nan) (hy : y ≠ nan) : x.le y = !y.lt x := by
  obtain ⟨m, hm⟩ := Option.ne_none_iff_exists'.1 (units?_ne_none hx)
  obtain ⟨n, hn⟩ := Option.ne_none_iff_exists'.1 (units?_ne_none hy)
  simp only [le, lt, hm, hn, ← decide_not, Int.not_lt]

theorem ofNat_zero : (0 : Binary64) = zero false := by
  decide +kernel

theorem add_ne_nan {x y : Binary64} (hx : x ≠ nan) (hy : y.isFinite = true) : x.add y ≠ nan := by
  cases y with
  | infinite | nan => cases hy
  | finite t n =>
    cases x with
    | nan => exact absurd rfl hx
    | infinite s => nofun
    | finite s m =>
      simp only [add]
      split
      · nofun
      · unfold nearest
        split <;> nofun

theorem sum_ne_nan {xs : List Binary64} (h : ∀ x ∈ xs, x.isFinite = true) : sum xs ≠ nan := by
  have hfold : ∀ start : Binary64, start ≠ nan → xs.foldl add start ≠ nan := by
    induction xs with
    | nil => exact fun start hstart => hstart
    | cons x rest ih =>
      intro start hstart
      have hrest := List.forall_mem_cons.1 h
      exact ih hrest.2 _ (add_ne_nan hstart hrest.1)
  exact hfold _ nofun

end Binary64

namespace Ports

theorem of_lowestFree?_eq_some {taken : List UInt32} {low count : Nat} {port : UInt32}
    (h : lowestFree? taken low count = some port) (hword : low + count ≤ UInt32.size) :
    low ≤ port.toNat ∧ port.toNat < low + count ∧ port ∉ taken := by
  induction count generalizing low with
  | zero => cases h
  | succ count ih =>
    unfold lowestFree? at h
    split at h
    · obtain ⟨hlow, hhigh, hfree⟩ := ih h (by omega)
      exact ⟨by omega, by omega, hfree⟩
    · next hfree =>
      cases h
      have hnat : (UInt32.ofNat low).toNat = low := UInt32.toNat_ofNat_of_lt' (by omega)
      exact ⟨by omega, by omega, hfree⟩

end Ports

/-- What an offer may make of a port mapping: it supplies a host port if that was left open. -/
structure PortMapping.Resolves (p q : PortMapping) : Prop where
  containerPort : q.containerPort = p.containerPort
  protocol : q.protocol = p.protocol
  fixed : p.isDynamic = false → q.hostPort = p.hostPort

namespace Scheduling

open Manager (Offer Range Resource)

/-! ### What an offer has and what a task needs -/

/-- The ranges contain a port. -/
def Offered (ranges : List Range) (port : UInt32) : Prop :=
  ∃ range ∈ ranges, range.first.toNat ≤ port.toNat ∧ port.toNat ≤ range.last.toNat

/-- A port that an open mapping may be given. -/
structure Usable (ranges : List Range) (port : UInt32) : Prop where
  offered : Offered ranges port
  positive : 1 ≤ port.toNat
  atMost : port.toNat ≤ largestPort

/-- The offer has enough of every scalar resource of which anything is needed. -/
structure Covers (offer : Offer) (need : Resources) : Prop where
  cpus : need.cpus.isPositive = true → need.cpus.le (offer.scalar "cpus") = true
  mem : need.mem.isPositive = true → need.mem.le (offer.scalar "mem") = true
  disk : need.disk.isPositive = true → need.disk.le (offer.scalar "disk") = true

/-- Mappings `qs` that give the mappings `ps` host ports out of some ranges. -/
structure Supplies (ranges : List Range) (ps qs : List PortMapping) : Prop where
  /-- Nothing but open host ports is different, and they are given numbers of ports. -/
  resolves : List.Forall₂
    (fun p q => p.Resolves q ∧
      (p.isDynamic = true → 1 ≤ q.hostPort.toNat ∧ q.hostPort.toNat ≤ largestPort)) ps qs
  distinct : (qs.map (·.hostPort)).Nodup
  offered : ∀ q ∈ qs, Offered ranges q.hostPort

/-- No open mapping comes before one with a fixed port. -/
def FixedFirst (ps : List PortMapping) : Prop :=
  ps.Pairwise fun p q => p.isDynamic = true → q.isDynamic = true

/-! ### Scalar resources -/

theorem checkScalars_eq_ok_iff (offer : Offer) (list : List (String × Binary64)) :
    checkScalars offer list = .ok () ↔
      ∀ entry ∈ list, (!entry.2.le 0 && (offer.scalar entry.1).lt entry.2) = false := by
  induction list with
  | nil => exact iff_of_true rfl (by simp)
  | cons entry rest ih =>
    rw [List.forall_mem_cons, ← ih]
    simp only [checkScalars]
    split
    · next hshort => simp [hshort]
    · next hmet => simp [hmet]

variable {offer : Offer} {r : TaskRecord}

theorem scalar_ne_nan
    (hoffer : ∀ res ∈ offer.resources, ∀ x, res.scalar = some x → x.isFinite = true)
    (name : String) : offer.scalar name ≠ .nan := by
  refine Binary64.sum_ne_nan fun x hx => ?_
  obtain ⟨res, hres, hscalar⟩ := List.mem_filterMap.1 hx
  exact hoffer res (List.mem_of_mem_filter hres) x hscalar

/-- A need is met if it is not positive or at most what is offered. -/
theorem met_iff {need offered : Binary64} (hneed : need.isFinite = true)
    (hoffered : offered ≠ .nan) :
    (!need.le 0 && offered.lt need) = false ↔
      (need.isPositive = true → need.le offered = true) := by
  have hneed := Binary64.ne_nan_of_isFinite hneed
  have hzero : need.le 0 = !need.isPositive := by
    rw [Binary64.ofNat_zero]
    exact Binary64.le_eq_not_lt hneed nofun
  rw [hzero, Binary64.le_eq_not_lt hneed hoffered]
  cases need.isPositive <;> cases offered.lt need <;> decide

theorem checkScalars_needs_iff
    (hoffer : ∀ res ∈ offer.resources, ∀ x, res.scalar = some x → x.isFinite = true)
    (hneeds : ∀ need ∈ needs r.resources, need.2.isFinite = true) :
    checkScalars offer (needs r.resources) = .ok () ↔ Covers offer r.resources := by
  simp only [needs, List.forall_mem_cons] at hneeds
  obtain ⟨hcpus, hmem, hdisk, -⟩ := hneeds
  have hcpus := met_iff hcpus (scalar_ne_nan hoffer "cpus")
  have hmem := met_iff hmem (scalar_ne_nan hoffer "mem")
  have hdisk := met_iff hdisk (scalar_ne_nan hoffer "disk")
  rw [checkScalars_eq_ok_iff]
  simp only [needs, List.forall_mem_cons, hcpus, hmem, hdisk]
  exact ⟨fun ⟨hcpus, hmem, hdisk, _⟩ => ⟨hcpus, hmem, hdisk⟩,
    fun h => ⟨h.cpus, h.mem, h.disk, nofun⟩⟩

/-! ### One host port -/

variable {ranges : List Range} {taken : List UInt32} {port : UInt32}

theorem of_freePort?_eq_some (h : freePort? ranges taken = some port) :
    Usable ranges port ∧ port ∉ taken := by
  obtain ⟨range, hrange, hfound⟩ := List.exists_of_findSome?_eq_some h
  simp only [freePortIn?] at hfound
  by_cases hempty : min range.last.toNat largestPort < max range.first.toNat 1
  · rw [show min range.last.toNat largestPort + 1 - max range.first.toNat 1 = 0 by omega] at hfound
    cases hfound
  · have hword : min range.last.toNat largestPort + 1 ≤ UInt32.size :=
      Nat.le_trans (Nat.succ_le_succ (Nat.min_le_right ..)) (by decide)
    obtain ⟨hlow, hhigh, hfree⟩ := Ports.of_lowestFree?_eq_some hfound (by omega)
    exact ⟨⟨⟨range, hrange, by omega, by omega⟩, by omega, by omega⟩, hfree⟩

theorem mem_of_freePort?_eq_none (h : freePort? ranges taken = none)
    (husable : Usable ranges port) : port ∈ taken := by
  obtain ⟨range, hrange, hfirst, hlast⟩ := husable.offered
  have hpositive := husable.positive
  have hatMost := husable.atMost
  have hnone := List.findSome?_eq_none_iff.1 h range hrange
  unfold freePortIn? at hnone
  have hmem := Ports.mem_of_lowestFree?_eq_none hnone
    (show port.toNat - max range.first.toNat 1 < _ by omega)
  rwa [show max range.first.toNat 1 + (port.toNat - max range.first.toNat 1) = port.toNat by omega,
    UInt32.ofNat_toNat] at hmem

theorem any_contains_iff :
    ranges.any (·.contains port.toUInt64) = true ↔ Offered ranges port := by
  simp only [List.any_eq_true, Range.contains, Bool.and_eq_true, decide_eq_true_eq,
    UInt64.le_iff_toNat_le, UInt32.toNat_toUInt64]
  rfl

/-- A mapping is given a free port, the one that it names if it names one. -/
theorem of_hostPortFor_eq_ok {p : PortMapping} (h : hostPortFor ranges taken p = .ok port) :
    Offered ranges port ∧ port ∉ taken ∧ (p.isDynamic = false → port = p.hostPort) ∧
      (p.isDynamic = true → 1 ≤ port.toNat ∧ port.toNat ≤ largestPort) := by
  unfold hostPortFor at h
  cases hdynamic : p.isDynamic with
  | true =>
    simp only [hdynamic, if_true] at h
    cases hfound : freePort? ranges taken with
    | none =>
      rw [hfound] at h
      cases h
    | some found =>
      rw [hfound] at h
      cases h
      obtain ⟨husable, hfree⟩ := of_freePort?_eq_some hfound
      exact ⟨husable.offered, hfree, nofun, fun _ => ⟨husable.positive, husable.atMost⟩⟩
  | false =>
    simp only [hdynamic, Bool.false_eq_true, if_false] at h
    split at h
    · cases h
    · next hpossible =>
      cases h
      simp only [Bool.or_eq_true, decide_eq_true_eq, Bool.not_eq_true', not_or,
        Bool.not_eq_false] at hpossible
      exact ⟨any_contains_iff.1 hpossible.2, hpossible.1, fun _ => rfl, nofun⟩

theorem hostPortFor_fixed {p : PortMapping} (hfixed : p.isDynamic = false)
    (hoffered : Offered ranges p.hostPort) (hfree : p.hostPort ∉ taken) :
    hostPortFor ranges taken p = .ok p.hostPort := by
  simp [hostPortFor, hfixed, hfree, any_contains_iff.2 hoffered]

theorem hostPortFor_open {p : PortMapping} (hopen : p.isDynamic = true)
    (husable : Usable ranges port) (hfree : port ∉ taken) :
    ∃ found, hostPortFor ranges taken p = .ok found := by
  unfold hostPortFor
  rw [if_pos hopen]
  cases hfound : freePort? ranges taken with
  | none => exact absurd (mem_of_freePort?_eq_none hfound husable) hfree
  | some found => exact ⟨found, rfl⟩

/-! ### The host ports of all mappings -/

theorem resolvePorts_cons_eq_ok_iff {p : PortMapping} {rest qs : List PortMapping} :
    resolvePorts ranges taken (p :: rest) = .ok qs ↔
      ∃ port resolved, hostPortFor ranges taken p = .ok port ∧
        resolvePorts ranges (port :: taken) rest = .ok resolved ∧
        qs = { p with hostPort := port } :: resolved := by
  constructor
  · intro h
    unfold resolvePorts at h
    cases hport : hostPortFor ranges taken p with
    | error e =>
      rw [hport] at h
      cases h
    | ok port =>
      rw [hport] at h
      cases hrest : resolvePorts ranges (port :: taken) rest with
      | error e =>
        simp only [bind, Except.bind, hrest] at h
        cases h
      | ok resolved =>
        simp only [bind, Except.bind, hrest] at h
        cases h
        exact ⟨port, resolved, rfl, hrest, rfl⟩
  · rintro ⟨port, resolved, hport, hrest, rfl⟩
    simp only [resolvePorts, hport, bind, Except.bind, hrest]
    rfl

/-- Ports that are given to mappings are offered, different, and none of those that were taken. -/
theorem supplies_of_resolvePorts {ps qs : List PortMapping}
    (h : resolvePorts ranges taken ps = .ok qs) :
    Supplies ranges ps qs ∧ ∀ q ∈ qs, q.hostPort ∉ taken := by
  induction ps generalizing taken qs with
  | nil =>
    cases h
    exact ⟨⟨.nil, .nil, nofun⟩, nofun⟩
  | cons p rest ih =>
    obtain ⟨port, resolved, hport, hrest, rfl⟩ := resolvePorts_cons_eq_ok_iff.1 h
    obtain ⟨hoffered, hfree, hfixed, hopen⟩ := of_hostPortFor_eq_ok hport
    obtain ⟨hsupplies, hothers⟩ := ih hrest
    have hdistinct : port ∉ resolved.map (·.hostPort) := by
      intro hmem
      obtain ⟨q, hq, rfl⟩ := List.mem_map.1 hmem
      exact hothers q hq List.mem_cons_self
    refine ⟨⟨.cons ⟨⟨rfl, rfl, hfixed⟩, hopen⟩ hsupplies.resolves, ?_, ?_⟩, ?_⟩
    · exact List.nodup_cons.2 ⟨hdistinct, hsupplies.distinct⟩
    · exact List.forall_mem_cons.2 ⟨hoffered, hsupplies.offered⟩
    · exact List.forall_mem_cons.2
        ⟨hfree, fun q hq hmem => hothers q hq (List.mem_cons_of_mem _ hmem)⟩

/-- Open mappings are all given ports as long as there are as many to spare. Whichever port one of
them is given, the others lose at most one. -/
theorem exists_resolvePorts_of_spare {ps : List PortMapping} {spare : List UInt32}
    (hopen : ∀ p ∈ ps, p.isDynamic = true) (hdistinct : spare.Nodup)
    (hspare : ∀ port ∈ spare, Usable ranges port ∧ port ∉ taken)
    (henough : ps.length ≤ spare.length) :
    ∃ qs, resolvePorts ranges taken ps = .ok qs := by
  induction ps generalizing taken spare with
  | nil => exact ⟨[], rfl⟩
  | cons p rest ih =>
    obtain ⟨hp, hrest⟩ := List.forall_mem_cons.1 hopen
    cases spare with
    | nil => cases henough
    | cons port more =>
      obtain ⟨husable, hfree⟩ := hspare port List.mem_cons_self
      obtain ⟨found, hfound⟩ := hostPortFor_open hp husable hfree
      have hleft : ∀ other ∈ (port :: more).erase found,
          Usable ranges other ∧ other ∉ found :: taken := by
        intro other hother
        obtain ⟨hne, hmem⟩ := hdistinct.mem_erase_iff.1 hother
        exact ⟨(hspare other hmem).1, List.not_mem_cons_of_ne_of_not_mem hne (hspare other hmem).2⟩
      have hlength : rest.length ≤ ((port :: more).erase found).length := by
        have hloss := List.le_length_erase (a := found) (l := port :: more)
        simp only [List.length_cons] at hloss henough ⊢
        omega
      obtain ⟨resolved, hresolved⟩ := ih hrest (hdistinct.erase found) hleft hlength
      exact ⟨_, resolvePorts_cons_eq_ok_iff.2 ⟨found, resolved, hfound, hresolved, rfl⟩⟩

theorem exists_of_forall₂_of_mem {α β : Type} {R : α → β → Prop} {as : List α} {bs : List β}
    (h : List.Forall₂ R as bs) {b : β} (hb : b ∈ bs) : ∃ a ∈ as, R a b := by
  induction h with
  | nil => cases hb
  | @cons a _ as _ hab _ ih =>
    cases hb with
    | head => exact ⟨a, List.mem_cons_self, hab⟩
    | tail _ hb =>
      obtain ⟨a', ha', hab'⟩ := ih hb
      exact ⟨a', List.mem_cons_of_mem _ ha', hab'⟩

/-- Whatever way there is to give the mappings ports, going from one to the next finds a way, too,
if the fixed ones come first. -/
theorem exists_resolvePorts {ps qs : List PortMapping} (hfirst : FixedFirst ps)
    (hsupplies : Supplies ranges ps qs) (hfree : ∀ q ∈ qs, q.hostPort ∉ taken) :
    ∃ resolved, resolvePorts ranges taken ps = .ok resolved := by
  induction ps generalizing taken qs with
  | nil => exact ⟨[], rfl⟩
  | cons p rest ih =>
    obtain ⟨hresolves, hdistinct, hoffered⟩ := hsupplies
    cases hdynamic : p.isDynamic with
    | true =>
      -- everything from here on is open, so the ports that are known to do are to spare
      have hopen : ∀ p' ∈ p :: rest, p'.isDynamic = true :=
        List.forall_mem_cons.2
          ⟨hdynamic, fun p' hp' => (List.pairwise_cons.1 hfirst).1 p' hp' hdynamic⟩
      refine exists_resolvePorts_of_spare hopen hdistinct (fun port hport => ?_)
        (by rw [List.length_map, hresolves.length_eq])
      obtain ⟨q, hq, rfl⟩ := List.mem_map.1 hport
      obtain ⟨p', hp', hpq⟩ := exists_of_forall₂_of_mem hresolves hq
      have hnumber := hpq.2 (hopen p' hp')
      exact ⟨⟨hoffered q hq, hnumber.1, hnumber.2⟩, hfree q hq⟩
    | false =>
      cases hresolves with
      | @cons _ q _ others hpq hrest =>
        have hsame : q.hostPort = p.hostPort := hpq.1.fixed hdynamic
        obtain ⟨hq, hothers⟩ := List.forall_mem_cons.1 hoffered
        obtain ⟨hqfree, hothersfree⟩ := List.forall_mem_cons.1 hfree
        obtain ⟨hqonce, hothersonce⟩ := List.nodup_cons.1 hdistinct
        have hport := hostPortFor_fixed hdynamic (hsame ▸ hq) (hsame ▸ hqfree)
        have hleft : ∀ other ∈ others, other.hostPort ∉ p.hostPort :: taken := by
          intro other hother
          refine List.not_mem_cons_of_ne_of_not_mem (fun heq => hqonce ?_)
            (hothersfree other hother)
          exact List.mem_map.2 ⟨other, hother, heq.trans hsame.symm⟩
        obtain ⟨resolved, hresolved⟩ :=
          ih (List.pairwise_cons.1 hfirst).2 ⟨hrest, hothersonce, hothers⟩ hleft
        exact ⟨_, resolvePorts_cons_eq_ok_iff.2 ⟨_, resolved, hport, hresolved, rfl⟩⟩

/-! ### Records that are built -/

theorem ports_of_datastore {backend : Backend} {id : String} {ctx : Build.Context}
    (h : Build.datastore backend id ctx = .ok r) : ∃ p, r.container.ports = [p] := by
  unfold Build.datastore at h
  cases hport : ctx.datastorePort with
  | error e =>
    rw [hport] at h
    cases h
  | ok port =>
    cases hhost : Build.datastoreHostPort ctx with
    | error e =>
      rw [hport, hhost] at h
      cases h
    | ok hostPort =>
      rw [hport, hhost] at h
      cases h
      cases backend with
      | embedded => exact ⟨_, rfl⟩
      | relational => exact ⟨_, rfl⟩

theorem ports_of_server {id : String} {ctx : Build.Context} (h : Build.server id ctx = .ok r) :
    ∃ p, r.container.ports = [p, .any Build.httpPort "tcp"] := by
  unfold Build.server at h
  cases hport : ctx.datastorePort with
  | error e =>
    rw [hport] at h
    cases h
  | ok port =>
    rw [hport] at h
    cases h
    exact ⟨_, rfl⟩

theorem ports_of_agent {id : String} {ctx : Build.Context} (h : Build.agent id ctx = .ok r) :
    r.container.ports = Build.agentPorts ctx := by
  unfold Build.agent at h
  by_cases hlimit : ctx.cfg.agent.restrictDisk && ctx.cfg.agent.diskLimit.le 0
  · simp only [hlimit, if_true] at h
    cases h
  · simp only [hlimit] at h
    cases h
    rfl

theorem isDynamic_of_mem_agentPorts {ctx : Build.Context} :
    ∀ p ∈ Build.agentPorts ctx, p.isDynamic = true := by
  unfold Build.agentPorts
  refine List.forall_mem_append.2 ⟨List.forall_mem_append.2 ⟨by decide, ?_⟩, ?_⟩
  · split
    · split
      · exact nofun
      · exact List.forall_mem_singleton.2 rfl
    · exact nofun
  · split
    · decide
    · exact nofun

/-- Whatever a new record needs fixed comes before what it leaves to the offer. -/
theorem fixedFirst_of_build {builders : List Build.Builder} {workload : Workload} {id : String}
    {ctx : Build.Context} (h : Build.build builders workload id ctx = .ok r) :
    FixedFirst r.container.ports := by
  unfold Build.build at h
  cases hpick : Build.pick? builders workload with
  | none =>
    rw [hpick] at h
    cases h
  | some builder =>
    rw [hpick] at h
    cases builder with
    | datastore backend =>
      obtain ⟨p, hports⟩ := ports_of_datastore h
      rw [hports]
      exact List.pairwise_singleton ..
    | server =>
      obtain ⟨p, hports⟩ := ports_of_server h
      rw [hports]
      exact List.pairwise_pair.2 fun _ => rfl
    | agent =>
      rw [ports_of_agent h]
      exact List.pairwise_of_forall_mem_list fun _ _ q hq _ => isDynamic_of_mem_agentPorts q hq

/-! ### A task and an offer -/

theorem fit_eq_ok_iff {ports : List PortMapping} :
    fit offer r = .ok ports ↔
      checkScalars offer (needs r.resources) = .ok () ∧
        resolvePorts offer.portRanges [] r.container.ports = .ok ports := by
  unfold fit
  cases checkScalars offer (needs r.resources) with
  | error e => exact ⟨nofun, nofun⟩
  | ok => exact ⟨fun h => ⟨rfl, h⟩, And.right⟩

theorem supplies_of_fit {ports : List PortMapping} (h : fit offer r = .ok ports) :
    Supplies offer.portRanges r.container.ports ports :=
  (supplies_of_resolvePorts (fit_eq_ok_iff.1 h).2).1

/-- **What fits an offer.** A task that fits is given mappings that the offer supplies, and the
offer has enough of what else the task needs; and if that much is offered, and fixed ports come
before open ones as in every record that is built, the task fits. -/
theorem fit_iff_supplied (offer : Offer) (r : TaskRecord)
    (hoffer : ∀ res ∈ offer.resources, ∀ x, res.scalar = some x → x.isFinite = true)
    (hneeds : ∀ need ∈ needs r.resources, need.2.isFinite = true) :
    (∀ ports, fit offer r = .ok ports →
      Covers offer r.resources ∧ Supplies offer.portRanges r.container.ports ports) ∧
    (FixedFirst r.container.ports → Covers offer r.resources →
      (∃ ports, Supplies offer.portRanges r.container.ports ports) →
      ∃ ports, fit offer r = .ok ports) ∧
    ∀ builders workload id ctx built, Build.build builders workload id ctx = .ok built →
      FixedFirst built.container.ports := by
  refine ⟨fun ports hfit => ?_, fun hfirst hcovers hports => ?_,
    fun _ _ _ _ _ => fixedFirst_of_build⟩
  · obtain ⟨hscalars, hresolved⟩ := fit_eq_ok_iff.1 hfit
    exact ⟨(checkScalars_needs_iff hoffer hneeds).1 hscalars,
      (supplies_of_resolvePorts hresolved).1⟩
  · obtain ⟨_, hsupplies⟩ := hports
    obtain ⟨resolved, hresolved⟩ := exists_resolvePorts hfirst hsupplies fun _ _ => List.not_mem_nil
    exact ⟨resolved,
      fit_eq_ok_iff.2 ⟨(checkScalars_needs_iff hoffer hneeds).2 hcovers, hresolved⟩⟩

/-- An amount in two parts, and ranges one of which is empty, two overlap, one begins with zero and
one goes on beyond the largest port number. -/
theorem fits_scattered_resources :
    let offer : Offer := ⟨⟨"offer"⟩, ⟨"framework"⟩, ⟨"machine"⟩, "host",
      [.ofScalar "cpus" 1, .ofRanges "ports" [⟨7, 3⟩, ⟨0, 1⟩], .ofScalar "cpus" 2,
        .ofScalar "mem" 4096, .ofRanges "ports" [⟨1, 1⟩, ⟨65535, 70000⟩]]⟩
    let r : TaskRecord := { spare .server "a" with
      resources := ⟨3, 4096, 0⟩
      container.ports := [⟨65535, 6443, "tcp"⟩, .any 8080 "tcp"] }
    let ports : List PortMapping := [⟨65535, 6443, "tcp"⟩, ⟨1, 8080, "tcp"⟩]
    (∀ res ∈ offer.resources, ∀ x, res.scalar = some x → x.isFinite = true) ∧
      (∀ need ∈ needs r.resources, need.2.isFinite = true) ∧ fit offer r = .ok ports ∧
      Covers offer r.resources ∧ Supplies offer.portRanges r.container.ports ports := by
  intro offer r ports
  have hoffer : ∀ res ∈ offer.resources, ∀ x, res.scalar = some x → x.isFinite = true := by
    decide +kernel
  have hneeds : ∀ need ∈ needs r.resources, need.2.isFinite = true := by
    decide +kernel
  have hfit : fit offer r = .ok ports := by
    decide +kernel
  exact ⟨hoffer, hneeds, hfit, (fit_iff_supplied offer r hoffer hneeds).1 ports hfit⟩

end Scheduling

end Stevedore
