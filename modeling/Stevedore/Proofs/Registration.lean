import Stevedore.Proofs.ServerUrl

/-!
# Tasks and their keys

Over any run of steps on a store that several frameworks share, every text under the key of a task
is that of a record of this task, which has not stopped, and no id occurs under the keys of two
roles (`Registered`). Unlike what is known of the records (`Kept`, `Sound`), this also speaks of
texts that cannot be read, and of the frameworks for which no process acts. It needs that all
processes use configurations that are valid, so that names of frameworks have no colons.
-/

namespace Stevedore.Scheduling

open Store (Memory)

variable {s : Surroundings} {w w' : World} {name : String} {store store' : Memory}
  {ids ids' : Nat}

/-- A record of a task that has not stopped. -/
structure OfTask (name : String) (role : Role) (id : String) (r : TaskRecord) : Prop where
  framework : r.framework = name
  role : r.role = role
  id : r.id = id
  alive : r.state.isTerminal = false

/-- What lies under the keys of a framework's tasks, after some ids have been drawn. -/
structure Registered (s : Surroundings) (name : String) (store : Memory) (ids : Nat) : Prop where
  /-- Every text is that of a record of the task. -/
  text : ∀ {role id text}, store.get? (Key.task name role id) = some text →
    ∃ r, text = (Json.encode r).render ∧ OfTask name role id r
  /-- Every id was drawn. -/
  drawn : ∀ {role id}, (store.get? (Key.task name role id)).isSome → ∃ n < ids, s.taskId n = id
  /-- No id occurs under two roles. -/
  single : Function.Injective s.taskId → ∀ {role role' id},
    (store.get? (Key.task name role id)).isSome → (store.get? (Key.task name role' id)).isSome →
      role = role'

namespace OfTask

variable {role : Role} {id : String} {r r' : TaskRecord}

theorem storeKey (h : OfTask name role id r) : r.storeKey = Key.task name role id := by
  rw [TaskRecord.storeKey, h.framework, h.role, h.id]

theorem edited (h : OfTask name role id r) {accepted : Manager.TaskStatus → Prop}
    (hedit : Edit accepted r r') : OfTask name role id r' := by
  cases hedit with
  | promoted wanted now => exact ⟨h.framework, h.role, h.id, rfl⟩
  | staged eligible fits now => exact ⟨h.framework, h.role, h.id, rfl⟩
  | unstaged eligible now => exact ⟨h.framework, h.role, h.id, rfl⟩
  | advanced haccepted legal launched now =>
    exact ⟨h.framework, h.role, h.id, TaskState.not_isTerminal launched⟩

end OfTask

namespace Registered

/-- Where there are no texts of tasks, no task is registered. -/
theorem of_absent (h : ∀ role id, store.get? (Key.task name role id) = none) :
    Registered s name store ids where
  text htext := by simp [h] at htext
  drawn hpresent := by simp [h] at hpresent
  single _ role role' id hpresent := by simp [h] at hpresent

theorem kept (h : Registered s name store ids) : Kept name store := by
  have hread : ∀ {role id x}, store.record? (Key.task name role id) = some x →
      OfTask name role id x := by
    intro role id x hx
    obtain ⟨text, htext, hread⟩ := Option.bind_eq_some_iff.1 hx
    obtain ⟨r, rfl, hr⟩ := h.text htext
    exact Records.eq_of_ofStored?_render hread ▸ hr
  refine ⟨fun hx => ?_, fun hx => (hread hx).alive⟩
  exact ⟨(hread hx).framework, (hread hx).role, (hread hx).id⟩

/-- Records may be edited and removed while further ids are drawn. -/
theorem of_text_cases (h : Registered s name store ids) (hle : ids ≤ ids')
    (hcases : ∀ {role id text}, store'.get? (Key.task name role id) = some text →
      store.get? (Key.task name role id) = some text ∨
        ∃ r r', store.record? (Key.task name role id) = some r ∧ Edit (fun _ => True) r r' ∧
          text = (Json.encode r').render) :
    Registered s name store' ids' := by
  have hpresent : ∀ {role id}, (store'.get? (Key.task name role id)).isSome →
      (store.get? (Key.task name role id)).isSome := by
    intro role id hpresent'
    obtain ⟨text, htext⟩ := Option.isSome_iff_exists.1 hpresent'
    obtain hsame | ⟨r, r', hr, -, -⟩ := hcases htext
    · rw [hsame]
      rfl
    · obtain ⟨text, hfound, -⟩ := Option.bind_eq_some_iff.1 hr
      rw [hfound]
      rfl
  refine ⟨fun {role id text} htext => ?_, fun {role id} hpresent' => ?_, fun hfresh => ?_⟩
  · obtain hsame | ⟨r, r', hr, hedit, rfl⟩ := hcases htext
    · exact h.text hsame
    · obtain ⟨text, hfound, hread⟩ := Option.bind_eq_some_iff.1 hr
      obtain ⟨r₀, rfl, hr₀⟩ := h.text hfound
      obtain rfl := Records.eq_of_ofStored?_render hread
      exact ⟨r', rfl, hr₀.edited hedit⟩
  · obtain ⟨n, hn, hid⟩ := h.drawn (hpresent hpresent')
    exact ⟨n, hn.trans_le hle, hid⟩
  · intro role role' id hpresent₁ hpresent₂
    exact h.single hfresh (hpresent hpresent₁) (hpresent hpresent₂)

theorem mono (h : Registered s name store ids) (hle : ids ≤ ids') :
    Registered s name store ids' :=
  h.of_text_cases hle Or.inl

theorem tended {may : Liberty → Prop} {offers : List Manager.Offer} {acting : String}
    {issued : List Issue} (h : Registered s name store ids)
    (htended : Run.Tended may offers acting store store' issued) (hcreate : ¬ may .create)
    (hplaced : Placed store) (hacting : ':' ∉ acting.toList) (hplain : ':' ∉ name.toList) :
    Registered s name store' ids :=
  h.of_text_cases le_rfl (htended.text_cases hcreate hplaced hacting hplain)

/-- **What creates no records keeps tasks registered.** -/
theorem built (h : Registered s name w.store w.tally.ids) (hplain : ':' ∉ name.toList)
    (hnamed : WellNamed w) {may : Liberty → Prop} {offers : List Manager.Offer} {α : Type}
    {m : Run α} (hbuilt : Run.Built may offers m) (hcreate : ¬ may .create) :
    Registered s name (m s w).2.store (m s w).2.tally.ids := by
  let P (acting : String) (store store' : Memory) : Prop :=
    ':' ∉ acting.toList → Placed store → Placed store' ∧
      (Registered s name store w.tally.ids → Registered s name store' w.tally.ids)
  have htrans : ∀ {acting store store' store''}, P acting store store' → P acting store' store'' →
      P acting store store'' := by
    intro acting store store' store'' h h' hacting hplaced
    obtain ⟨hplaced', hkeeps⟩ := h hacting hplaced
    obtain ⟨hplaced'', hkeeps'⟩ := h' hacting hplaced'
    exact ⟨hplaced'', fun hregistered => hkeeps' (hkeeps hregistered)⟩
  have htended : ∀ {acting store store' issued},
      Run.Tended may offers acting store store' issued → P acting store store' := by
    intro acting store store' issued htended hacting hplaced
    have hedited : Edited (fun _ => True) store store' :=
      htended.edited (fun _ _ => trivial) hplaced
    exact ⟨hedited.placed hplaced, fun hregistered =>
      hregistered.tended htended hcreate hplaced hacting hplain⟩
  have hall : P w.framework w.store (m s w).2.store :=
    hbuilt.relates_stores (P := P) hcreate (fun _ _ _ hplaced => ⟨hplaced, id⟩) htrans htended s w
  exact ((hall hnamed.plain hnamed.placed).2 h).mono (hbuilt.confined s w).ids

end Registered

/-! ### New tasks -/

/-- Under the key of a task of any framework there is what was there, or the text of a record of the
task that was added. -/
theorem Adds.text_cases {records : List TaskRecord} (h : Adds w records w')
    (hacting : ':' ∉ w.framework.toList) (hplain : ':' ∉ name.toList)
    (hnew : ∀ r ∈ records, ':' ∉ r.framework.toList) {role : Role} {id text : String}
    (htext : w'.store.get? (Key.task name role id) = some text) :
    w.store.get? (Key.task name role id) = some text ∨
      ∃ r ∈ records, text = (Json.encode r).render ∧ r.framework = name ∧ r.role = role ∧
        r.id = id := by
  by_cases hadded : ∃ r ∈ records, Key.task name role id = r.storeKey
  · obtain ⟨r, hr, hkey⟩ := hadded
    have hsaved := h.saved r hr
    rw [← hkey, htext] at hsaved
    have hunder : Key.Under name r.storeKey := hkey ▸ Key.under_task
    have hname : name = r.framework := hunder.unique Key.under_task hplain (hnew r hr)
    subst hname
    obtain ⟨hrole, hid⟩ := Key.task_inj hkey
    exact Or.inr ⟨r, hr, Option.some.inj hsaved, rfl, hrole.symm, hid.symm⟩
  · left
    rwa [← h.others _ (not_reserved_of_plain hacting hplain) fun r hr hkey => hadded ⟨r, hr, hkey⟩]

/-- **New tasks are registered** if their ids have not been drawn before. -/
theorem Registered.adds {records : List TaskRecord} (h : Registered s name w.store w.tally.ids)
    (hplain : ':' ∉ name.toList) (hacting : ':' ∉ w.framework.toList) (hadds : Adds w records w')
    (hnew : ∀ r ∈ records, ':' ∉ r.framework.toList ∧ r.state.isTerminal = false)
    (hdrawn : Run.Drawn s w w' records) (hle : w.tally.ids ≤ w'.tally.ids)
    (hnodup : Function.Injective s.taskId → (records.map (·.id)).Nodup) :
    Registered s name w'.store w'.tally.ids := by
  have hcases : ∀ {role id text}, w'.store.get? (Key.task name role id) = some text →
      w.store.get? (Key.task name role id) = some text ∨
        ∃ r ∈ records, text = (Json.encode r).render ∧ r.framework = name ∧ r.role = role ∧
          r.id = id :=
    hadds.text_cases hacting hplain fun r hr => (hnew r hr).1
  -- a task that is registered is an old one or belongs to a new record
  have horigin : ∀ {role id}, (w'.store.get? (Key.task name role id)).isSome →
      (w.store.get? (Key.task name role id)).isSome ∨ ∃ r ∈ records, r.role = role ∧ r.id = id := by
    intro role id hpresent
    obtain ⟨text, htext⟩ := Option.isSome_iff_exists.1 hpresent
    obtain hsame | ⟨r, hr, -, -, hrole, hid⟩ := hcases htext
    · left
      rw [hsame]
      rfl
    · exact Or.inr ⟨r, hr, hrole, hid⟩
  have hapart : Function.Injective s.taskId → ∀ {role r}, r ∈ records →
      ¬ (w.store.get? (Key.task name role r.id)).isSome := by
    intro hfresh role r hr hpresent
    obtain ⟨n, hn, hid⟩ := h.drawn hpresent
    obtain ⟨n', hn', -, hid'⟩ := hdrawn r hr
    have hsame : n = n' := hfresh (hid.trans hid')
    omega
  refine ⟨fun {role id text} htext => ?_, fun {role id} hpresent => ?_, fun hfresh => ?_⟩
  · obtain hsame | ⟨r, hr, rfl, hname, hrole, hid⟩ := hcases htext
    · exact h.text hsame
    · exact ⟨r, rfl, hname, hrole, hid, (hnew r hr).2⟩
  · obtain hold | ⟨r, hr, -, rfl⟩ := horigin hpresent
    · obtain ⟨n, hn, hid⟩ := h.drawn hold
      exact ⟨n, hn.trans_le hle, hid⟩
    · obtain ⟨n, -, hn, hid⟩ := hdrawn r hr
      exact ⟨n, hn, hid.symm⟩
  · intro role role' id hpresent hpresent'
    obtain hold | ⟨r, hr, hrole, rfl⟩ := horigin hpresent
    · obtain hold' | ⟨r', hr', -, rfl⟩ := horigin hpresent'
      · exact h.single hfresh hold hold'
      · exact absurd hold (hapart hfresh hr')
    · obtain hold' | ⟨r', hr', hrole', hid⟩ := horigin hpresent'
      · exact absurd hold' (hapart hfresh hr)
      · have hsame : r' = r := List.inj_on_of_nodup_map (hnodup hfresh) hr' hr hid
        rw [← hrole, ← hrole', hsame]

theorem Registered.tick (h : Registered s name w.store w.tally.ids) (hplain : ':' ∉ name.toList)
    (hnamed : WellNamed w) :
    Registered s name (Run.tick w.config.current s w).2.store
      (Run.tick w.config.current s w).2.tally.ids := by
  have hbuilt : Run.Built (fun _ => True) [] (Run.tick w.config.current) :=
    Run.built_tick trivial _
  have hle := (hbuilt.confined s w).ids
  obtain ⟨e, n, hrun, -⟩ | ⟨settings, identity, report, w', hrun, -, hadds, hdrawn⟩ :=
    tick_cases (s := s) (apart_of_name hnamed.name)
  · rw [hrun]
    exact h
  · rw [hrun] at hle ⊢
    refine h.adds hplain hnamed.plain hadds (fun r hr => ?_) hdrawn hle fun hfresh => ?_
    · have hprovided := provided_of_mem hr
      rw [hprovided.framework, hnamed.name, hprovided.state]
      exact ⟨hnamed.plain, rfl⟩
    · exact Maker.nodup_ids hfresh (by decide)

theorem Registered.create (h : Registered s name w.store w.tally.ids) (hplain : ':' ∉ name.toList)
    (hacting : ':' ∉ w.framework.toList) (role : Role) {cfg : Config}
    (hcfg : ':' ∉ cfg.framework.name.toList) (identity : Identity) (used : List UInt32) :
    Registered s name (Run.createRecord role cfg identity used s w).2.store
      (Run.createRecord role cfg identity used s w).2.tally.ids := by
  rw [Run.createRecord_run]
  cases hnew : newRecord? cfg identity used role (s.taskId w.tally.ids) (s.clock w.tally.times) with
  | none => exact h.mono (Nat.le_succ _)
  | some r =>
    cases s.writeFault w.tally.writes with
    | some reason => exact h.mono (Nat.le_succ _)
    | none =>
      have hstarted := started_of_newRecord? hnew
      have hframework : ':' ∉ r.framework.toList := by
        rw [hstarted.framework]
        exact hcfg
      have hadds : Adds w [r] (w.afterDraw.afterWrite (w.store.put r)) :=
        .put rfl rfl (not_reserved_of_plain hacting hframework)
      have hdrawn : Run.Drawn s w (w.afterDraw.afterWrite (w.store.put r)) [r] := by
        intro r' hr'
        rw [List.mem_singleton.1 hr']
        exact ⟨w.tally.ids, le_rfl, Nat.lt_succ_self _, hstarted.id⟩
      refine h.adds hplain hacting hadds (fun r' hr' => ?_) hdrawn (Nat.le_succ _) fun _ => ?_
      · rw [List.mem_singleton.1 hr', hstarted.state]
        exact ⟨hframework, rfl⟩
      · exact List.nodup_singleton _

/-! ### Runs -/

namespace Step

/-- The configurations with which a step creates records or starts processes. -/
def configs : Step → List Config
  | action (.process cfg) => [cfg]
  | part (.create _ cfg _ _) => [cfg]
  | part (.restart cfg) => [cfg]
  | _ => []

/-- All steps use configurations that are valid. -/
def Valid (steps : List Step) : Prop :=
  ∀ step ∈ steps, ∀ cfg ∈ step.configs, cfg.validate = .ok ()

/-- A step is a cycle, creates a record, starts a process, or creates nothing. -/
theorem creates_cases (step : Step) (s : Surroundings) (w : World) :
    step = .action .cycle ∨
      (∃ role cfg identity used, step = .part (.create role cfg identity used)) ∨
      (∃ cfg ∈ step.configs, step.run s w = w.restart cfg) ∨
      ∃ (offers : List Manager.Offer) (α : Type) (m : Run α),
        Run.Built (fun x => x ≠ .create) offers m ∧ step.run s w = (m s w).2 := by
  cases step with
  | action a =>
    obtain rfl | ⟨cfg, rfl⟩ | ⟨-, α, m, hbuilt, hrun⟩ := a.creates_cases s w
    · exact Or.inl rfl
    · exact Or.inr (Or.inr (Or.inl ⟨cfg, List.mem_singleton_self cfg, rfl⟩))
    · exact Or.inr (Or.inr (Or.inr ⟨_, α, m, hbuilt, hrun⟩))
  | part x =>
    have hbuilt : ∀ (offers : List Manager.Offer) {α : Type} {m : Run α},
        Run.Tending (fun x => x ≠ .create) offers m → x.run s w = (m s w).2 →
          ∃ (offers : List Manager.Offer) (α : Type) (m : Run α),
            Run.Built (fun x => x ≠ .create) offers m ∧ x.run s w = (m s w).2 :=
      fun offers {_ _} htending hrun => ⟨offers, _, _, htending.built, hrun⟩
    cases x with
    | promote candidate => exact Or.inr (Or.inr (Or.inr (hbuilt [] (.promote candidate) rfl)))
    | launch offer candidate =>
      have hmem := List.mem_singleton_self offer
      exact Or.inr (Or.inr (Or.inr (hbuilt [offer] (.launch hmem candidate) rfl)))
    | update status => exact Or.inr (Or.inr (Or.inr (hbuilt [] (.update nofun) rfl)))
    | retire candidate => exact Or.inr (Or.inr (Or.inr (hbuilt [] (.retire candidate) rfl)))
    | create role cfg identity used => exact Or.inr (Or.inl ⟨role, cfg, identity, used, rfl⟩)
    | restart cfg => exact Or.inr (Or.inr (Or.inl ⟨cfg, List.mem_singleton_self cfg, rfl⟩))

end Step

/-- A world whose process keeps its records under its own framework's name, and in whose store the
tasks of all frameworks are registered. -/
structure Ordered (s : Surroundings) (w : World) : Prop where
  named : WellNamed w
  registered : ∀ {name}, ':' ∉ name.toList → Registered s name w.store w.tally.ids

namespace Ordered

theorem own (h : Ordered s w) : Registered s w.framework w.store w.tally.ids :=
  h.registered h.named.plain

theorem start {cfg : Config} (hcfg : cfg.validate = .ok ()) (nodes : NodeSource)
    (hplaced : Placed store)
    (hempty : ∀ name role id, store.get? (Key.task name role id) = none) :
    Ordered s (.start cfg store nodes) where
  named := ⟨rfl, Config.not_mem_name_of_validate hcfg, hplaced⟩
  registered {name} _ := .of_absent (hempty name)

theorem restart (h : Ordered s w) {cfg : Config} (hcfg : cfg.validate = .ok ()) :
    Ordered s (w.restart cfg) where
  named := ⟨rfl, Config.not_mem_name_of_validate hcfg, h.named.placed⟩
  registered hplain := h.registered hplain

theorem built (h : Ordered s w) {may : Liberty → Prop} {offers : List Manager.Offer} {α : Type}
    {m : Run α} (hbuilt : Run.Built may offers m) (hcreate : ¬ may .create) :
    Ordered s (m s w).2 where
  named := h.named.built hbuilt s
  registered hplain := (h.registered hplain).built hplain h.named hbuilt hcreate

theorem tick (h : Ordered s w) : Ordered s (Run.tick w.config.current s w).2 where
  named := h.named.tick s
  registered hplain := (h.registered hplain).tick hplain h.named

theorem cycle (h : Ordered s w) : Ordered s (Run.cycle s w).2 := by
  have htick := h.tick
  obtain ⟨w₁, rfl, hrun | ⟨report, hrun⟩⟩ := cycle_cases s w
  · rw [hrun]
    exact htick
  · rw [hrun]
    exact htick.built (built_followUp_signal report) nofun

theorem create (h : Ordered s w) (role : Role) {cfg : Config}
    (hcfg : ':' ∉ cfg.framework.name.toList) (identity : Identity) (used : List UInt32) :
    Ordered s (Run.createRecord role cfg identity used s w).2 where
  named := by
    have hbuilt : Run.Built (fun _ => True) [] (Run.createRecord role cfg identity used) :=
      .piece (.create trivial role cfg identity used)
    exact h.named.built hbuilt s
  registered hplain := (h.registered hplain).create hplain h.named.plain role hcfg identity used

/-- **What one step does to the registered tasks.** -/
theorem step (h : Ordered s w) {step : Step}
    (hvalid : ∀ cfg ∈ step.configs, cfg.validate = .ok ()) : Ordered s (step.run s w) := by
  obtain rfl | ⟨role, cfg, identity, used, rfl⟩ | ⟨cfg, hcfg, hrun⟩ |
    ⟨offers, α, m, hbuilt, hrun⟩ := step.creates_cases s w
  · exact h.cycle
  · have hcfg := hvalid cfg (List.mem_singleton_self cfg)
    exact h.create role (Config.not_mem_name_of_validate hcfg) identity used
  · rw [hrun]
    exact h.restart (hvalid cfg hcfg)
  · rw [hrun]
    exact h.built hbuilt fun hne => hne rfl

/-- **Tasks stay registered over any run of steps.** -/
theorem runSteps (h : Ordered s w) {steps : List Step} (hvalid : Step.Valid steps) :
    Ordered s (runSteps s w steps) := by
  induction steps generalizing w with
  | nil => exact h
  | cons step rest ih =>
    have hfirst : Ordered s (step.run s w) := h.step (hvalid step List.mem_cons_self)
    exact ih hfirst fun other hother => hvalid other (List.mem_cons_of_mem _ hother)

/-- The same of actions that end no process. -/
theorem runActions (h : Ordered s w) {actions : List Action}
    (hprocess : ∀ cfg, .process cfg ∉ actions) : Ordered s (runActions s w actions) := by
  induction actions generalizing w with
  | nil => exact h
  | cons action rest ih =>
    have hfirst : Ordered s (action.run s w) := by
      have hvalid : ∀ cfg ∈ (Step.action action).configs, cfg.validate = .ok () := by
        intro cfg hcfg
        cases action with
        | process other => exact absurd List.mem_cons_self (hprocess other)
        | _ => cases hcfg
      exact h.step hvalid
    exact ih hfirst fun cfg hmem => hprocess cfg (List.mem_cons_of_mem _ hmem)

end Ordered

end Stevedore.Scheduling
