import Stevedore.Proofs.Fitting
import Stevedore.Proofs.Steps

/-!
# What stays of a record

Every change of a record rewrites the whole of it through its text. All that changes in the course
of a task's life is where it stands, where it runs, and which host ports the offer supplied for the
mappings that leave theirs open (`Version`); and once its launch has succeeded, the machine and the
ports stay, too (`Stationed`).
-/

namespace Stevedore

/-- A record with blanks for whatever may change after its creation. -/
def TaskRecord.contents (r : TaskRecord) : TaskRecord :=
  { r with
    container.ports := []
    state := .unset
    agentId := none
    agentHostname := none
    address := none
    updatedAt := 0 }

namespace Scheduling

open Manager (Offer TaskStatus)
open Store (Memory)

/-! ### Versions of one record -/

/-- What a record that was created as `b` may have become. -/
structure Version (b r : TaskRecord) : Prop where
  contents : r.contents = b.contents
  ports : List.Forall₂ PortMapping.Resolves b.container.ports r.container.ports
  /-- While the task waits for an offer, also again after a launch that failed, its open ports are
  open. -/
  pending : r.state.isPending = true → r.container.ports = b.container.ports

theorem forall₂_resolves_refl (ps : List PortMapping) :
    List.Forall₂ PortMapping.Resolves ps ps :=
  List.forall₂_same.2 fun _ _ => ⟨rfl, rfl, fun _ => rfl⟩

theorem forall₂_of_fit {offer : Offer} {r : TaskRecord} {ports : List PortMapping}
    (h : fit offer r = .ok ports) :
    List.Forall₂ PortMapping.Resolves r.container.ports ports :=
  (supplies_of_fit h).resolves.imp fun _ _ hresolves => hresolves.1

namespace Version

variable {b r r' : TaskRecord}

theorem refl (b : TaskRecord) : Version b b :=
  ⟨rfl, forall₂_resolves_refl _, fun _ => rfl⟩

theorem edited {accepted : TaskStatus → Prop} (h : Version b r) (hedit : Edit accepted r r') :
    Version b r' := by
  have hports : ∀ {state}, r.state = state → state.isPending = true →
      r.container.ports = b.container.ports := fun hstate hpending =>
    h.pending (hstate ▸ hpending)
  cases hedit with
  | promoted wanted =>
    exact ⟨h.contents, h.ports, fun _ => hports wanted rfl⟩
  | staged eligible fits =>
    refine ⟨h.contents, ?_, nofun⟩
    rw [← hports eligible rfl]
    exact forall₂_of_fit fits
  | unstaged eligible =>
    exact ⟨h.contents, h.ports, fun _ => hports eligible rfl⟩
  | @advanced next _ _ _ launched =>
    refine ⟨h.contents, h.ports, fun hpending => ?_⟩
    have hboth : next.isPending = true := hpending
    cases next <;> simp [TaskState.isPending, TaskState.isLaunched] at hboth launched

end Version

/-! ### What is known of a run -/

/-- The record `b` is one that can be created for a task with a given id. -/
def Creatable (id : String) (b : TaskRecord) : Prop :=
  ∃ cfg identity used role now, newRecord? cfg identity used role id now = some b

/-- A record is stored, or was when an offer was accepted. -/
def World.Shows (w : World) (r : TaskRecord) : Prop :=
  w.Stores r ∨ ∃ i ∈ w.issued, i.call.kind = .accept ∧ ∃ key, i.store.record? key = some r

/-- The records of tasks whose launch has succeeded name the machines and the host ports that they
named when the offer was accepted. -/
def Stationed (w : World) : Prop :=
  ∀ i ∈ w.issued, ∀ key x, w.store.record? key = some x → x.id ∈ i.launchedIds →
    ∃ r, i.store.record? key = some r ∧ r.agentId.isSome ∧ x.agentId = r.agentId ∧
      x.agentHostname = r.agentHostname ∧ x.container.ports = r.container.ports

/-- All records are versions of those that were created. -/
structure Versioned (born : String → Option TaskRecord) (w : World) : Prop where
  shown : ∀ {r}, w.Shows r → ∃ b, born r.id = some b ∧ Version b r
  stationed : Stationed w

/-- What is known of the world while records are created, edited and removed. -/
structure History (s : Surroundings) (born : String → Option TaskRecord) (w : World) : Prop where
  sound : Sound s w.store w.tally.ids
  launched : Launched s w
  known : ∀ {id b}, born id = some b → Creatable id b ∧ ∃ n < w.tally.ids, s.taskId n = id
  versioned : Versioned born w

/-- One more record may be known to have been created. -/
def Extends (born born' : String → Option TaskRecord) : Prop :=
  ∀ ⦃id b⦄, born id = some b → born' id = some b

variable {s : Surroundings} {born born' : String → Option TaskRecord} {w w' : World}

theorem Versioned.mono (h : Versioned born w) (hextends : Extends born born') :
    Versioned born' w where
  shown hr := by
    obtain ⟨b, hb, hversion⟩ := h.shown hr
    exact ⟨b, hextends hb, hversion⟩
  stationed := h.stationed

/-! ### Records that are edited -/

/-- What was edited is a version of what was created. -/
theorem exists_version_of_edited {accepted : TaskStatus → Prop} {store store' : Memory}
    (hversions : ∀ key r, store.record? key = some r → ∃ b, born r.id = some b ∧ Version b r)
    (hedited : Edited accepted store store') {key : String} {x : TaskRecord}
    (hx : store'.record? key = some x) : ∃ b, born x.id = some b ∧ Version b x := by
  obtain hx | ⟨r, hr, hedit⟩ := hedited hx
  · exact hversions key x hx
  · obtain ⟨b, hb, hversion⟩ := hversions key r hr
    exact ⟨b, hedit.id ▸ hb, hversion.edited hedit⟩

/-- An offer is accepted when the store holds the staged record of an eligible task, which is the
task that is launched; the store is the same afterwards if that succeeds. -/
theorem Run.Tended.accepts {may : Liberty → Prop} {offers : List Offer} {name : String}
    {store store' : Memory} {issued : List Issue}
    (h : Run.Tended may offers name store store' issued) {i : Issue} (hi : i ∈ issued)
    (hkind : i.call.kind = .accept) :
    ∃ offer key r ports now, store.record? key = some r ∧ r.state = .new ∧
      fit offer r = .ok ports ∧ i.store = store.put (r.staged offer ports now) ∧
      (∀ id ∈ i.launchedIds, id = r.id) ∧ (i.delivery = .applied → store' = i.store) := by
  have hother : ∀ {issued : List Issue}, AboutTasks issued → i ∈ issued → False :=
    fun habout hi => habout.ne hi (by decide) hkind
  have hfailed : ∀ {offer r delivery}, delivery ≠ .applied →
      ∀ id ∈ (launchIssue offer r delivery store).launchedIds, False := by
    intro offer r delivery hdelivery id hid
    rw [launchedIds_launchIssue_failed hdelivery] at hid
    cases hid
  cases h with
  | told h =>
    have hplain := h i hi
    rw [hkind] at hplain
    exact absurd hplain (by decide)
  | settings => cases hi
  | identity => cases hi
  | forgotten => cases hi
  | promoted h => exact (hother h.about hi).elim
  | launched _ h =>
    cases h with
    | idle => cases hi
    | @launched r ports now h =>
      rw [List.mem_singleton.1 hi]
      exact ⟨_, _, r, ports, now, h.found, h.eligible, h.fits, rfl,
        fun id hid => List.mem_singleton.1 hid, fun _ => rfl⟩
    | @reverted r ports now _ delivery h failed =>
      rw [List.mem_singleton.1 hi]
      exact ⟨_, _, r, ports, now, h.found, h.eligible, h.fits, rfl,
        fun id hid => (hfailed failed id hid).elim, fun happlied => absurd happlied failed⟩
    | @stuck r ports now delivery _ _ h failed about =>
      rcases List.mem_cons.1 hi with rfl | hi
      · exact ⟨_, _, r, ports, now, h.found, h.eligible, h.fits, rfl,
          fun id hid => (hfailed failed id hid).elim, fun happlied => absurd happlied failed⟩
      · exact (hother about hi).elim
  | updated _ h => exact (hother h.about hi).elim
  | retired h => exact (hother h.about hi).elim

/-! ### What one step keeps -/

theorem mem_launchedIds {i : Issue} {issued : List Issue} (hi : i ∈ issued) {id : String}
    (hid : id ∈ i.launchedIds) : id ∈ launchedIds issued :=
  List.mem_flatMap.2 ⟨i, hi, hid⟩

/-- A record whose task was launched may still be advanced; its machine and its ports stay. -/
theorem stays_of_edit {accepted : TaskStatus → Prop} {r r' : TaskRecord}
    (hrank : 2 ≤ r.state.rank) (hagent : r.agentId.isSome) (hedit : Edit accepted r r') :
    r'.agentId = r.agentId ∧ r'.agentHostname = r.agentHostname ∧
      r'.container.ports = r.container.ports := by
  cases hedit with
  | promoted wanted =>
    rw [wanted] at hrank
    exact absurd hrank (by decide)
  | staged eligible =>
    rw [eligible] at hrank
    exact absurd hrank (by decide)
  | unstaged eligible =>
    rw [eligible] at hrank
    exact absurd hrank (by decide)
  | @advanced _ status =>
    obtain ⟨agent, hagent⟩ := Option.isSome_iff_exists.1 hagent
    refine ⟨?_, rfl, rfl⟩
    show (r.agentId <|> status.agentId.map (·.value)) = r.agentId
    rw [hagent]
    rfl

/-- Tending to records keeps tasks stationed. -/
theorem stationed_of_tended {may : Liberty → Prop} {offers : List Offer} {store : Memory}
    {issued : List Issue} (htended : Run.Tended may offers w.framework w.store store issued)
    (hsound : Sound s w.store w.tally.ids) (hlaunched : Launched s w) (h : Stationed w)
    (hmoves : Run.Moves w store issued w') : Stationed w' := by
  have hplaced : Placed w.store := fun _ _ hr => hsound.placed hr
  have hedited : Edited (fun _ => True) w.store store :=
    htended.edited (fun _ _ => trivial) hplaced
  intro i hi key x hx hid
  rw [hmoves.store] at hx
  rw [hmoves.issued] at hi
  rcases List.mem_append.1 hi with hi | hi
  · obtain hx | ⟨r, hr, hedit⟩ := hedited hx
    · exact h i hi key x hx hid
    · rw [hedit.id] at hid
      obtain ⟨r₀, hr₀, hsome, hagent, hhostname, hports⟩ := h i hi key r hr hid
      obtain ⟨hagent', hhostname', hports'⟩ := stays_of_edit
        (hlaunched.spent hr (mem_launchedIds hi hid)) (hagent ▸ hsome) hedit
      exact ⟨r₀, hr₀, hsome, hagent'.trans hagent, hhostname'.trans hhostname,
        hports'.trans hports⟩
  · -- the launch has just succeeded, and the record is the one that was staged for it
    have happlied : i.delivery = .applied := by
      by_contra hfailed
      rw [Issue.launchedIds, if_neg hfailed] at hid
      cases hid
    have hkind : i.call.kind = .accept := by
      by_contra hother
      rw [Issue.launchedIds, if_pos happlied, launchedBy_eq_nil hother] at hid
      cases hid
    obtain ⟨offer, found, r, ports, now, hr, -, -, hstore, hids, hsame⟩ := htended.accepts hi hkind
    rw [hsame happlied] at hx
    refine ⟨x, hx, ?_, rfl, rfl, rfl⟩
    rw [hstore] at hx
    obtain ⟨-, rfl⟩ | ⟨hkey, hx⟩ := Memory.record?_put_cases hx
    · rfl
    · have hfound : key = found := hsound.single hx hr (hids _ hid)
      exact absurd (hfound.trans (hsound.placed hr).symm) hkey

/-- Tending to records shows no records but versions of those that were created. -/
theorem shown_of_tended {may : Liberty → Prop} {offers : List Offer} {store : Memory}
    {issued : List Issue} (htended : Run.Tended may offers w.framework w.store store issued)
    (hplaced : Placed w.store) (hmoves : Run.Moves w store issued w')
    (h : ∀ {r}, w.Shows r → ∃ b, born r.id = some b ∧ Version b r) {x : TaskRecord}
    (hx : w'.Shows x) : ∃ b, born x.id = some b ∧ Version b x := by
  have hversions : ∀ key r, w.store.record? key = some r → ∃ b, born r.id = some b ∧ Version b r :=
    fun key r hr => h (Or.inl ⟨key, hr⟩)
  have hedited : Edited (fun _ => True) w.store store :=
    htended.edited (fun _ _ => trivial) hplaced
  obtain ⟨key, hx⟩ | ⟨i, hi, hkind, key, hx⟩ := hx
  · rw [hmoves.store] at hx
    exact exists_version_of_edited hversions hedited hx
  · rw [hmoves.issued] at hi
    rcases List.mem_append.1 hi with hi | hi
    · exact h (Or.inr ⟨i, hi, hkind, key, hx⟩)
    · obtain ⟨offer, found, r, ports, now, hr, heligible, hfits, hstore, -⟩ :=
        htended.accepts hi hkind
      have hstaged : Edit (fun _ => True) r (r.staged offer ports now) :=
        .staged heligible hfits now
      rw [hstore] at hx
      exact exists_version_of_edited hversions (edited_put hplaced hr hstaged) hx

theorem versioned_of_tended {may : Liberty → Prop} {offers : List Offer} {store : Memory}
    {issued : List Issue} (htended : Run.Tended may offers w.framework w.store store issued)
    (hmoves : Run.Moves w store issued w') (h : History s born w) : Versioned born w' where
  shown := shown_of_tended htended (fun _ _ hr => h.sound.placed hr) hmoves h.versioned.shown
  stationed := stationed_of_tended htended h.sound h.launched h.versioned.stationed hmoves

/-- A new record is known from its creation on. -/
theorem versioned_of_created {r : TaskRecord} (hfresh : Function.Injective s.taskId)
    (hid : r.id = s.taskId w.tally.ids) (hstore : w'.store = w.store.put r)
    (hissued : w'.issued = w.issued) (h : History s born w) :
    Extends born (Function.update born r.id (some r)) ∧
      Versioned (Function.update born r.id (some r)) w' := by
  have hnew : ∀ {n}, n < w.tally.ids → s.taskId n ≠ r.id := by
    intro n hn heq
    exact hn.ne (hfresh (heq.trans hid))
  have hextends : Extends born (Function.update born r.id (some r)) := by
    intro id b hb
    obtain ⟨-, n, hn, hdrawn⟩ := h.known hb
    rw [Function.update_of_ne (hdrawn ▸ hnew hn)]
    exact hb
  have hold := h.versioned.mono hextends
  refine ⟨hextends, fun {x} hx => ?_, fun i hi key x hx hlaunched => ?_⟩
  · obtain ⟨key, hx⟩ | ⟨i, hi, hkind, key, hx⟩ := hx
    · rw [hstore] at hx
      obtain ⟨-, rfl⟩ | ⟨-, hx⟩ := Memory.record?_put_cases hx
      · exact ⟨r, Function.update_self .., .refl r⟩
      · exact hold.shown (Or.inl ⟨key, hx⟩)
    · rw [hissued] at hi
      exact hold.shown (Or.inr ⟨i, hi, hkind, key, hx⟩)
  · rw [hissued] at hi
    rw [hstore] at hx
    obtain ⟨-, rfl⟩ | ⟨-, hx⟩ := Memory.record?_put_cases hx
    · obtain ⟨n, hn, hdrawn⟩ := h.launched.drawn _ (mem_launchedIds hi hlaunched)
      exact absurd hdrawn (hnew hn)
    · exact hold.stationed i hi key x hx hlaunched

/-- What is known of the records depends on the store and on the offers that were accepted. -/
theorem versioned_of_other (h : Versioned born w) {issued : List Issue}
    (hstore : w'.store = w.store) (hissued : w'.issued = w.issued ++ issued)
    (hother : ∀ i ∈ issued, i.call.kind ≠ .accept) : Versioned born w' := by
  refine ⟨fun {r} hr => h.shown ?_, fun i hi key x hx hid => ?_⟩
  · obtain ⟨key, hr⟩ | ⟨i, hi, hkind, hr⟩ := hr
    · exact Or.inl ⟨key, hstore ▸ hr⟩
    · rw [hissued] at hi
      rcases List.mem_append.1 hi with hi | hi
      · exact Or.inr ⟨i, hi, hkind, hr⟩
      · exact absurd hkind (hother i hi)
  · rw [hissued] at hi
    rw [hstore] at hx
    rcases List.mem_append.1 hi with hi | hi
    · exact h.stationed i hi key x hx hid
    · have hnone : i.launchedIds = [] := by
        rw [Issue.launchedIds, launchedBy_eq_nil (hother i hi)]
        simp
      rw [hnone] at hid
      cases hid

theorem versioned_of_same (h : Versioned born w) (hstore : w'.store = w.store)
    (hissued : w'.issued = w.issued) : Versioned born w' :=
  versioned_of_other h hstore (hissued.trans (List.append_nil _).symm)
    fun _ hi => absurd hi List.not_mem_nil

theorem versioned_of_say (h : Versioned born w) {c : Manager.Call} (hother : c.kind ≠ .accept)
    (suppressed : Bool) : Versioned born (Run.say c suppressed s w).2 := by
  have hnew : ∀ {delivery}, ∀ i ∈ [(⟨c, delivery, w.store⟩ : Issue)], i.call.kind ≠ .accept := by
    intro delivery i hi
    rw [List.mem_singleton.1 hi]
    exact hother
  obtain ⟨delivery, w', -, hmoves, ⟨-, hsay⟩ | ⟨-, e, hsay⟩⟩ := Run.say_cases c suppressed s w
  · rw [hsay]
    exact versioned_of_other h hmoves.store hmoves.issued hnew
  · rw [hsay]
    exact versioned_of_other h hmoves.store hmoves.issued hnew

/-- All but what was created stays known when it is known what the records are. -/
theorem history_of_conducts {offers : List Offer} (hconducts : Conducts s offers w w')
    (h : History s born w) (hversioned : Versioned born w') : History s born w' where
  sound := hconducts.evolves.sound h.sound
  launched := hconducts.launched h.sound h.launched
  known hb := by
    obtain ⟨hcreatable, n, hn, hid⟩ := h.known hb
    exact ⟨hcreatable, n, hn.trans_le hconducts.evolves.ids_le, hid⟩
  versioned := hversioned

theorem history_createRecord (hfresh : Function.Injective s.taskId) (role : Role) (cfg : Config)
    (identity : Identity) (used : List UInt32) (h : History s born w) :
    ∃ born', Extends born born' ∧
      History s born' (Run.createRecord role cfg identity used s w).2 := by
  have hconducts : Conducts s [] w (Run.createRecord role cfg identity used s w).2 :=
    conducts_createRecord hfresh role cfg identity used w
  rw [Run.createRecord_run] at hconducts ⊢
  cases hnew : newRecord? cfg identity used role (s.taskId w.tally.ids) (s.clock w.tally.times) with
  | none =>
    simp only [hnew] at hconducts ⊢
    exact ⟨born, fun _ _ hb => hb,
      history_of_conducts hconducts h (versioned_of_same h.versioned rfl rfl)⟩
  | some r =>
    cases hfault : s.writeFault w.tally.writes with
    | some reason =>
      simp only [hnew, hfault] at hconducts ⊢
      exact ⟨born, fun _ _ hb => hb,
        history_of_conducts hconducts h (versioned_of_same h.versioned rfl rfl)⟩
    | none =>
      simp only [hnew, hfault] at hconducts ⊢
      have hid : r.id = s.taskId w.tally.ids := (started_of_newRecord? hnew).id
      have hcreated : Extends born (Function.update born r.id (some r)) ∧
          Versioned (Function.update born r.id (some r))
            (w.afterDraw.afterWrite (w.store.put r)) :=
        versioned_of_created hfresh hid rfl rfl h
      obtain ⟨hextends, hversioned⟩ := hcreated
      refine ⟨_, hextends, hconducts.evolves.sound h.sound, hconducts.launched h.sound h.launched,
        fun {id b} hb => ?_, hversioned⟩
      by_cases heq : id = r.id
      · subst heq
        rw [Function.update_self] at hb
        cases hb
        exact ⟨⟨cfg, identity, used, role, _, hid ▸ hnew⟩, w.tally.ids, Nat.lt_succ_self _,
          hid.symm⟩
      · rw [Function.update_of_ne heq] at hb
        obtain ⟨hcreatable, n, hn, hdrawn⟩ := h.known hb
        exact ⟨hcreatable, n, Nat.lt_succ_of_lt hn, hdrawn⟩

/-- **What one piece of an operation keeps.** -/
theorem history_of_piece (hfresh : Function.Injective s.taskId) {may : Liberty → Prop}
    {offers : List Offer} {α : Type} {m : Run α} (hpiece : Run.Piece may offers m)
    (h : History s born w) : ∃ born', Extends born born' ∧ History s born' (m s w).2 := by
  have hkept : Versioned born (m s w).2 →
      ∃ born', Extends born born' ∧ History s born' (m s w).2 := fun hversioned =>
    ⟨born, fun _ _ hb => hb, history_of_conducts (conducts_of_piece hfresh hpiece w) h hversioned⟩
  cases hpiece with
  | tend htending =>
    obtain ⟨store, issued, hmoves, htended⟩ := htending.tends s w
    exact hkept (versioned_of_tended htended hmoves h)
  | create _ role cfg identity used => exact history_createRecord hfresh role cfg identity used h
  | revive => exact hkept (versioned_of_say (c := .reviving) h.versioned nofun false)
  | hold => exact hkept (versioned_of_say (c := .suppressing) h.versioned nofun true)
  | reset => exact hkept (versioned_of_same h.versioned rfl rfl)
  | configure => exact hkept (versioned_of_same h.versioned rfl rfl)

/-- What one step keeps. -/
theorem history_step (hfresh : Function.Injective s.taskId) (step : Step) (h : History s born w) :
    ∃ born', Extends born born' ∧ History s born' (step.run s w) := by
  refine step.relates (s := s) (fun _ => True) (R := fun w w' => ∀ born, History s born w →
    ∃ born', Extends born born' ∧ History s born' w') ?_ ?_ ?_ ?_ (fun _ _ => trivial) w born h
  · exact fun _ born h => ⟨born, fun _ _ hb => hb, h⟩
  · intro w₁ w₂ w₃ h₁ h₂ born h
    obtain ⟨born₁, hextends₁, h₁⟩ := h₁ born h
    obtain ⟨born₂, hextends₂, h₂⟩ := h₂ born₁ h₁
    exact ⟨born₂, fun _ _ hb => hextends₂ (hextends₁ hb), h₂⟩
  · exact fun hpiece w born h => history_of_piece hfresh hpiece h
  · intro w cfg born h
    have hconducts : Conducts s [] w (w.restart cfg) := conducts_of_same rfl rfl rfl
    exact ⟨born, fun _ _ hb => hb,
      history_of_conducts hconducts h (versioned_of_same h.versioned rfl rfl)⟩

/-! ### Whole runs -/

/-- What is known in the end of what was created is right at all times. -/
theorem versioned_runSteps (hfresh : Function.Injective s.taskId) (steps : List Step)
    (h : History s born w) :
    ∃ born', Extends born born' ∧ (∀ id b, born' id = some b → Creatable id b) ∧
      ∀ before after, steps = before ++ after → Versioned born' (runSteps s w before) := by
  induction steps generalizing w born with
  | nil =>
    refine ⟨born, fun _ _ hb => hb, fun _ _ hb => (h.known hb).1, fun before after heq => ?_⟩
    rw [(List.append_eq_nil_iff.1 heq.symm).1]
    exact h.versioned
  | cons step rest ih =>
    obtain ⟨born₁, hextends₁, h₁⟩ := history_step hfresh step h
    obtain ⟨born₂, hextends₂, hcreatable, hall⟩ := ih h₁
    refine ⟨born₂, fun _ _ hb => hextends₂ (hextends₁ hb), hcreatable, fun before after heq => ?_⟩
    cases before with
    | nil => exact (h.versioned.mono hextends₁).mono hextends₂
    | cons first before =>
      rw [List.cons_append, List.cons.injEq] at heq
      obtain ⟨rfl, heq⟩ := heq
      exact hall before after heq

theorem history_start (cfg : Config) {store : Memory} (nodes : NodeSource)
    (hempty : ∀ key, store.record? key = none) :
    History s (fun _ => none) (.start cfg store nodes) where
  sound := sound_of_empty hempty
  launched := launched_start cfg nodes hempty
  known hb := by cases hb
  versioned := by
    constructor
    · intro r hr
      obtain ⟨key, hr⟩ | ⟨i, hi, -⟩ := hr
      · exact absurd ((hempty key).symm.trans hr) (by simp)
      · cases hi
    · intro i hi
      cases hi

/-- **Records do not change after their creation**, but for where their tasks stand and run and for
the host ports that were left open. For any steps that follow a world without records, whatever
fails, there are records that were created for the tasks, such that at all times every record is a
version of the one that was created for its task, so that any two versions of one record have the
same contents; and the records of tasks whose launch has succeeded name the machines and host ports
that they named then. -/
theorem contents_never_change (hfresh : Function.Injective s.taskId) (cfg : Config)
    {store : Memory} (nodes : NodeSource) (hempty : ∀ key, store.record? key = none)
    (steps : List Step) :
    ∃ born : String → Option TaskRecord, (∀ id b, born id = some b → Creatable id b) ∧
      ∀ before after, steps = before ++ after →
        ∀ w, w = runSteps s (.start cfg store nodes) before →
          (∀ r, w.Shows r → ∃ b, born r.id = some b ∧ Version b r) ∧ Stationed w := by
  obtain ⟨born, -, hcreatable, hversioned⟩ :=
    versioned_runSteps hfresh steps (history_start (s := s) cfg nodes hempty)
  refine ⟨born, hcreatable, fun before after heq w hw => ?_⟩
  have h := hversioned before after heq
  rw [← hw] at h
  exact ⟨fun r hr => h.shown hr, h.stationed⟩

/-- A datastore that is created is launched on a machine and reported from there. -/
theorem contents_stay_when_launched :
    let offer : Offer := ⟨⟨"offer"⟩, ⟨"framework"⟩, ⟨"machine"⟩, "host",
      [.ofScalar "cpus" 8, .ofScalar "mem" 4096, .ofScalar "disk" 4096,
        .ofRanges "ports" [⟨31000, 32000⟩]]⟩
    let steps : List Step := [.action .cycle, .action (.event (.offers [offer])),
      .action (.event (.update ⟨⟨"a"⟩, "TASK_RUNNING", none, none, none, none, none, none⟩))]
    Function.Injective Surroundings.calm.taskId ∧
      (∀ key, Memory.record? {} key = none) ∧
      ∃ born : String → Option TaskRecord, (∀ id b, born id = some b → Creatable id b) ∧
        ∀ before after, steps = before ++ after →
          ∀ w, w = runSteps .calm (.start {} {} .stored) before →
            (∀ r, w.Shows r → ∃ b, born r.id = some b ∧ Version b r) ∧ Stationed w := by
  intro offer steps
  have hempty : ∀ key, Memory.record? {} key = none := fun _ => rfl
  exact ⟨Surroundings.calm_taskId_injective, hempty,
    contents_never_change Surroundings.calm_taskId_injective {} .stored hempty steps⟩

end Scheduling

end Stevedore
