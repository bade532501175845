import Stevedore.Proofs.Founding
import Stevedore.Proofs.Oblivious

/-!
# Ending a process and starting another

A process may end between any two turns and another one may start on the same store with the same
configuration. Its memory is lost, but nothing that lasts depends on it: the configuration in force
is the loaded one with stored settings laid over it, and every tick lays the stored settings over it
again (`Grounded`); the rest of the memory makes no difference to what operations do (`Oblivious`).
So where no read fails and every call takes effect, the stores are the same after all turns, and the
manager is told the same, but for having offers flow or held back (`restarts_change_nothing`).
-/

namespace Stevedore

/-- Settings that leave nothing open. -/
structure Settings.IsComplete (x : Settings) : Prop where
  serverUrl : x.serverUrl.isSome
  serverPort : x.serverPort.isSome

namespace Config

theorem withSettings_of_complete (cfg : Config) (x : Settings) {y : Settings} (hy : y.IsComplete) :
    (cfg.withSettings x).withSettings y = cfg.withSettings y := by
  obtain ⟨url, hurl⟩ := Option.isSome_iff_exists.1 hy.serverUrl
  obtain ⟨port, hport⟩ := Option.isSome_iff_exists.1 hy.serverPort
  simp [withSettings, hurl, hport]

theorem withSettings_withSettings (cfg : Config) (x : Settings) :
    (cfg.withSettings x).withSettings x = cfg.withSettings x := by
  cases hurl : x.serverUrl <;> cases hport : x.serverPort <;> simp [withSettings, hurl, hport]

end Config

namespace Scheduling

open Manager (Event)
open Store (Memory)

variable {s : Surroundings} {cfg : Config} {w w' : World}

theorem isComplete_fixedSettings (cfg : Config) : (fixedSettings cfg).IsComplete :=
  ⟨rfl, rfl⟩

/-! ### Lives -/

/-- A process has ended, and another one has started and laid the stored settings over its
configuration. -/
def restarted (s : Surroundings) (cfg : Config) (w : World) : World :=
  (Run.restore s (w.restart cfg)).2

/-- What processes make of the world, one after the other, each of which takes some turns. -/
def runLives (s : Surroundings) (cfg : Config) (w : World) (lives : List (List Turn)) : World :=
  lives.foldl (fun w life => runTurns s (restarted s cfg w) life) w

/-- What the store holds after each turn. -/
def storesOfTurns (s : Surroundings) (w : World) : List Turn → List Memory
  | [] => []
  | turn :: rest => (turn.run s w).store :: storesOfTurns s (turn.run s w) rest

/-- What the store holds after each turn of processes, one after the other. -/
def storesOfLives (s : Surroundings) (cfg : Config) (w : World) : List (List Turn) → List Memory
  | [] => []
  | life :: rest => storesOfTurns s (restarted s cfg w) life ++
      storesOfLives s cfg (runTurns s (restarted s cfg w) life) rest

/-! ### The configuration in force -/

/-- A world in which the configuration in force is as good as a given one once the stored settings,
or any that leave nothing open, are laid over it. -/
structure Grounded (cfg : Config) (w : World) : Prop where
  named : WellNamed w
  complete : ∀ {x : Settings}, x.IsComplete → w.config.current.withSettings x = cfg.withSettings x
  stored : ∀ {x}, w.storedSettings = .ok x →
    w.config.current.withSettings x = cfg.withSettings x

namespace Grounded

theorem framework (h : Grounded cfg w) : w.config.current.framework = cfg.framework := by
  have hsame := h.complete (isComplete_fixedSettings {})
  show (w.config.current.withSettings (fixedSettings {})).framework = _
  rw [hsame]
  rfl

theorem refuseSeconds? (h : Grounded cfg w) :
    w.config.current.refuseSeconds? = cfg.refuseSeconds? := by
  have hsame := h.complete (isComplete_fixedSettings {})
  show (w.config.current.withSettings (fixedSettings {})).refuseSeconds? = _
  rw [hsame]
  rfl

theorem of_same (h : Grounded cfg w) (hconfig : w'.config = w.config)
    (hframework : w'.framework = w.framework)
    (hsettings : w'.store.get? (Key.settings w.framework) =
      w.store.get? (Key.settings w.framework)) (hnamed : WellNamed w') : Grounded cfg w' where
  named := hnamed
  complete hx := hconfig ▸ h.complete hx
  stored hx := by
    rw [hconfig]
    refine h.stored (Eq.trans ?_ hx)
    unfold World.storedSettings
    rw [hframework, storedAs_congr hsettings]

theorem of_unchanged (h : Grounded cfg w) (hconfig : w'.config = w.config)
    (hframework : w'.framework = w.framework) (hstore : w'.store = w.store) : Grounded cfg w' := by
  refine h.of_same hconfig hframework (by rw [hstore]) ⟨?_, ?_, hstore ▸ h.named.placed⟩
  · rw [hconfig, hframework]
    exact h.named.name
  · rw [hframework]
    exact h.named.plain

/-- Whatever creates nothing and leaves the configuration alone. -/
theorem built {may : Liberty → Prop} {offers : List Manager.Offer} {α : Type} {m : Run α}
    (h : Grounded cfg w) (hbuilt : Run.Built may offers m) (hcreate : ¬ may .create)
    (hconfigure : ¬ may .configure) (s : Surroundings) : Grounded cfg (m s w).2 := by
  have hconfined := hbuilt.confined s w
  have hmaintained := hbuilt.maintained hcreate s h.named.placed h.named.plain
  exact h.of_same (hconfined.config hconfigure) hconfined.framework
    (hmaintained.settings h.named.plain) (h.named.built hbuilt s)

/-- A tick leaves the stored settings as they are, or stores settings that leave nothing open. -/
theorem tick (h : Grounded cfg w) (s : Surroundings) :
    Grounded cfg (Run.tick w.config.current s w).2 := by
  have hnamed := h.named.tick s
  have hconfined := confined_tick w.config.current s w
  have hconfig := hconfined.config nofun
  obtain ⟨n, hrun⟩ | ⟨x, w₁, -, hfounding, halike⟩ :=
    founding_tick (apart_of_name h.named.name) h.named.placed h.named.plain
  · rw [hrun]
    exact h.of_unchanged rfl rfl rfl
  have hsettings := halike.settings h.named.plain
  cases hget : w₁.store.get? (Key.settings w.framework) with
  | none =>
    refine h.of_same hconfig hconfined.framework (hsettings.trans ?_) hnamed
    rw [hget, eq_comm, ← Option.not_isSome_iff_eq_none]
    intro hpresent
    have hstays := hfounding.stays hpresent
    rw [hget] at hstays
    cases hstays
  | some text =>
    obtain hsame | ⟨r, hr, hkey, -⟩ | ⟨-, rfl, -⟩ := hfounding.texts hget
    · exact h.of_same hconfig hconfined.framework (hsettings.trans (hget.trans hsame.symm)) hnamed
    · refine absurd hkey (settings_ne_storeKey h.named.plain ?_)
      rw [hr.framework]
      exact h.named.plain_withSettings x
    · refine ⟨hnamed, fun hx => ?_, fun hx => ?_⟩
      · rw [hconfig]
        exact h.complete hx
      unfold World.storedSettings at hx
      rw [hconfined.framework, storedAs_of_render (hsettings.trans hget)] at hx
      cases hx
      rw [hconfig]
      exact h.complete (isComplete_fixedSettings _)

theorem cycle (h : Grounded cfg w) (s : Surroundings) : Grounded cfg (Run.cycle s w).2 := by
  rw [Run.cycle_run]
  refine Run.bind_keeps (h.tick s) fun report w₁ h₁ => ?_
  have hbuilt : Run.Built (fun x => x = .signal) [] (Run.followUp report) := by
    refine Run.built_followUp ?_ report
    rfl
  exact h₁.built hbuilt nofun nofun s

/-- Turns leave a world grounded. -/
theorem turn (h : Grounded cfg w) (s : Surroundings) (turn : Turn) :
    Grounded cfg (turn.run s w) := by
  cases turn with
  | cycle => exact h.cycle s
  | event e =>
    let may (x : Liberty) : Prop := x = .signal ∨ x = .reset ∨ ∃ status, x = .report status
    have hbuilt : Run.Built may (Run.offersOf e) (Run.handleEvent e) :=
      Run.built_handleEvent (Or.inl rfl) (Or.inr (Or.inl rfl))
        fun status _ => Or.inr (Or.inr ⟨status, rfl⟩)
    exact h.built hbuilt (by simp [may]) (by simp [may]) s
  | subscribe opened =>
    show Grounded cfg (Run.subscribe opened s w).2
    obtain ⟨n, hrun | ⟨info, hrun⟩⟩ := subscribe_cases opened s w
    · rw [hrun]
      exact h.of_unchanged rfl rfl rfl
    · rw [hrun]
      exact h.of_unchanged rfl rfl rfl

end Grounded

/-- A process with a configuration that may be used starts on a store. -/
theorem grounded_restart (hcfg : cfg.validate = .ok ()) (hplaced : Placed w.store) :
    Grounded cfg (w.restart cfg) where
  named := ⟨rfl, Config.not_mem_name_of_validate hcfg, hplaced⟩
  complete _ := rfl
  stored _ := rfl

theorem grounded_restarted (hcfg : cfg.validate = .ok ()) (hplaced : Placed w.store)
    (s : Surroundings) : Grounded cfg (restarted s cfg w) := by
  have h : Grounded cfg (w.restart cfg) := grounded_restart hcfg hplaced
  unfold restarted
  obtain ⟨n, hrun | ⟨x, hx, hrun⟩⟩ := restore_cases s (w.restart cfg)
  · rw [hrun]
    exact h.of_unchanged rfl rfl rfl
  rw [hrun]
  refine ⟨⟨rfl, h.named.plain, hplaced⟩, fun hy => cfg.withSettings_of_complete x hy,
    fun {y} hy => ?_⟩
  obtain rfl : x = y := Except.ok.inj (hx.symm.trans hy)
  exact cfg.withSettings_withSettings x

/-! ### Turns -/

/-- A tick only depends on its configuration through what it is with the stored settings. -/
theorem tick_congr (hs : s.Obliging) {base base' : Config}
    (h : ∀ {x}, w.storedSettings = .ok x → base'.withSettings x = base.withSettings x) :
    Run.tick base' s w = Run.tick base s w := by
  obtain ⟨n, hread⟩ := Run.looks_settings.run hs.reads w
  unfold Run.tick
  cases hx : w.storedSettings with
  | error e =>
    have hread' : (Records.settings : Run _) s w = (.error e, w.afterReads n) :=
      hread.trans (congrArg (·, _) hx)
    rw [Run.bind_of_error hread', Run.bind_of_error hread']
  | ok x =>
    have hread' : (Records.settings : Run _) s w = (.ok x, w.afterReads n) :=
      hread.trans (congrArg (·, _) hx)
    rw [Run.bind_of_ok hread', Run.bind_of_ok hread', h hx]

/-- Tell the manager by a configuration who subscribes. -/
def Run.announce (cfg : Config) (machine : Option String) (opened : Bool) : Run Unit := do
  let identity ← Records.identity
  change fun w => { w with
    contacts := w.contacts ++ [.subscribed (cfg.frameworkInfo identity machine) opened] }

theorem subscribe_run (opened : Bool) (s : Surroundings) (w : World) :
    Run.subscribe opened s w = Run.announce w.config.current s.machine opened s w := by
  obtain ⟨n, ⟨e, hidentity⟩ | ⟨identity, hidentity, -⟩⟩ := Run.looks_identity.cases s w
  · have hintroduction : Run.introduction s w = (.error e, w.afterReads n) :=
      (Run.bind_of_ok rfl _).trans (Run.bind_of_error hidentity _)
    exact (Run.bind_of_error hintroduction _).trans (Run.bind_of_error hidentity _).symm
  · have hintroduction : Run.introduction s w = (.ok
        (w.config.current.frameworkInfo identity s.machine), w.afterReads n) :=
      (Run.bind_of_ok rfl _).trans (Run.bind_of_ok hidentity _)
    have hannounce : Run.announce w.config.current s.machine opened s w = _ :=
      Run.bind_of_ok hidentity _
    exact (Run.bind_of_ok hintroduction _).trans hannounce.symm

theorem oblivious_announce (hs : s.Obliging) (cfg : Config) (machine : Option String)
    (opened : Bool) : Run.Oblivious s (Run.announce cfg machine opened) := by
  refine (Run.looks_identity.oblivious hs).bind fun identity => ?_
  refine Run.oblivious_of_bare fun w => ⟨rfl, ?_⟩
  simp [Run.change, World.bare, World.plainContacts, World.plainIssued, Contact.isPlain]

/-- In grounded worlds every turn is an oblivious run. -/
theorem Turn.exists_oblivious (hs : s.Obliging) (cfg : Config) (turn : Turn) :
    ∃ (α : Type) (m : Run α), Run.Oblivious s m ∧
      ∀ {w}, Grounded cfg w → turn.run s w = (m s w).2 := by
  cases turn with
  | cycle =>
    refine ⟨_, Run.tick cfg >>= Run.followUp,
      (Run.oblivious_tick hs cfg).bind (Run.oblivious_followUp hs), fun {w} h => ?_⟩
    show (Run.cycle s w).2 = _
    have htick : Run.tick w.config.current s w = Run.tick cfg s w := tick_congr hs h.stored
    rw [Run.cycle_run]
    cases hrun : Run.tick cfg s w with
    | mk result w₁ =>
      rw [hrun] at htick
      cases result with
      | error e => rw [Run.bind_of_error htick, Run.bind_of_error hrun]
      | ok report => rw [Run.bind_of_ok htick, Run.bind_of_ok hrun]
  | subscribe opened =>
    refine ⟨_, Run.announce cfg s.machine opened, oblivious_announce hs cfg _ opened,
      fun {w} h => ?_⟩
    show (Run.subscribe opened s w).2 = _
    rw [subscribe_run]
    unfold Run.announce Config.frameworkInfo
    rw [h.framework]
  | event e =>
    cases e with
    | offers offers =>
      refine ⟨_, Run.useOffers cfg.refuseSeconds? offers, Run.oblivious_useOffers hs _ offers,
        fun {w} h => ?_⟩
      show (Run.handleOffers offers s w).2 = _
      rw [Run.handleOffers_run, h.refuseSeconds?]
    | subscribed subscription =>
      exact ⟨_, _, Run.oblivious_handleSubscribed hs subscription, fun _ => rfl⟩
    | update status =>
      exact ⟨_, _, (Run.oblivious_handleUpdate hs status).bind fun _ =>
        (Run.discreet_evaluate hs false).before (.pure ()), fun _ => rfl⟩
    | rescind => exact ⟨_, _, .pure (), fun _ => rfl⟩
    | heartbeat => exact ⟨_, _, .pure (), fun _ => rfl⟩
    | error => exact ⟨_, _, .pure (), fun _ => rfl⟩
    | other => exact ⟨_, _, .pure (), fun _ => rfl⟩

/-! ### Runs with and without restarts -/

/-- Two grounded worlds that are the same when bare. -/
structure Agree (cfg : Config) (w w' : World) : Prop where
  left : Grounded cfg w
  right : Grounded cfg w'
  bare : w'.bare = w.bare

namespace Agree

/-- A turn does the same to worlds that agree. -/
theorem turn (h : Agree cfg w w') (hs : s.Obliging) (turn : Turn) :
    Agree cfg (turn.run s w) (turn.run s w') := by
  refine ⟨h.left.turn s turn, h.right.turn s turn, ?_⟩
  obtain ⟨α, m, hm, hrun⟩ := turn.exists_oblivious hs cfg
  rw [hrun h.left, hrun h.right]
  exact (hm h.bare).2

theorem turns (h : Agree cfg w w') (hs : s.Obliging) (turns : List Turn) :
    Agree cfg (runTurns s w turns) (runTurns s w' turns) ∧
      storesOfTurns s w' turns = storesOfTurns s w turns := by
  induction turns generalizing w w' with
  | nil => exact ⟨h, rfl⟩
  | cons turn rest ih =>
    have hturn := h.turn hs turn
    obtain ⟨hend, hstores⟩ := ih hturn
    refine ⟨hend, ?_⟩
    rw [storesOfTurns, storesOfTurns, hstores, store_eq_of_bare hturn.bare]

/-- A world agrees with what a restart makes of it. -/
theorem restarted (h : Agree cfg w w') (hcfg : cfg.validate = .ok ()) (s : Surroundings) :
    Agree cfg w (restarted s cfg w') := by
  have hname : cfg.framework.name = w'.framework := by
    rw [← h.right.framework]
    exact h.right.named.name
  refine ⟨h.left, grounded_restarted hcfg h.right.named.placed s, Eq.trans ?_ h.bare⟩
  have hrestart : (w'.restart cfg).bare = w'.bare := by
    unfold World.restart
    rw [hname]
    rfl
  refine Eq.trans ?_ hrestart
  unfold Scheduling.restarted
  obtain ⟨n, hrun | ⟨x, -, hrun⟩⟩ := restore_cases s (w'.restart cfg)
  · rw [hrun]
    rfl
  · rw [hrun]
    rfl

end Agree

theorem storesOfTurns_append (s : Surroundings) (w : World) (turns more : List Turn) :
    storesOfTurns s w (turns ++ more) =
      storesOfTurns s w turns ++ storesOfTurns s (runTurns s w turns) more := by
  induction turns generalizing w with
  | nil => rfl
  | cons turn rest ih =>
    rw [List.cons_append, storesOfTurns, storesOfTurns, ih, List.cons_append]
    rfl

/-- One process or several, one after the other: they leave worlds that agree. -/
theorem Agree.lives (h : Agree cfg w w') (hs : s.Obliging) (hcfg : cfg.validate = .ok ())
    (lives : List (List Turn)) :
    Agree cfg (runTurns s w lives.flatten) (runLives s cfg w' lives) ∧
      storesOfLives s cfg w' lives = storesOfTurns s w lives.flatten := by
  induction lives generalizing w w' with
  | nil => exact ⟨h, rfl⟩
  | cons life rest ih =>
    obtain ⟨hlife, hstores⟩ := (h.restarted hcfg s).turns hs life
    obtain ⟨hend, hrest⟩ := ih hlife
    rw [List.flatten_cons, storesOfTurns_append, storesOfLives, hstores, hrest]
    refine ⟨?_, rfl⟩
    have happend : runTurns s w (life ++ rest.flatten) =
      runTurns s (runTurns s w life) rest.flatten := List.foldl_append ..
    rw [happend]
    exact hend

/-- **Restarts change nothing that lasts.** Take a process that is started on whatever any steps
have made of a store without records, and let it take turns, where no read of the store fails and
every call takes effect. If it ends between any two of its turns, and others are started with the
same configuration, then the store holds the same after every turn and at the end; the same calls
are made on the same stores, and the manager hears the same, but for having offers flow or held
back. -/
theorem restarts_change_nothing {s : Surroundings} (hs : s.Obliging) {cfg : Config}
    (hcfg : cfg.validate = .ok ()) {store : Memory} (hempty : ∀ key, store.record? key = none)
    (s₀ : Surroundings) (cfg₀ : Config) (nodes : NodeSource) (steps : List Step) {w : World}
    (hw : w = (runSteps s₀ (.start cfg₀ store nodes) steps).restart cfg)
    (lives : List (List Turn)) :
    storesOfLives s cfg w lives = storesOfTurns s w lives.flatten ∧
      (runLives s cfg w lives).store = (runTurns s w lives.flatten).store ∧
      (runLives s cfg w lives).plainIssued = (runTurns s w lives.flatten).plainIssued ∧
      (runLives s cfg w lives).plainContacts = (runTurns s w lives.flatten).plainContacts := by
  have hplaced : Placed (runSteps s₀ (.start cfg₀ store nodes) steps).store :=
    (throughout_runSteps (lasting_true fun _ => True) s₀ (fun _ _ _ _ => trivial)
      (throughout_of_empty hempty)).placed
  have hgrounded : Grounded cfg w := hw ▸ grounded_restart hcfg hplaced
  have hagree : Agree cfg w w := ⟨hgrounded, hgrounded, rfl⟩
  obtain ⟨hend, hstores⟩ := hagree.lives hs hcfg lives
  refine ⟨hstores, store_eq_of_bare hend.bare, ?_, ?_⟩
  · show (runLives s cfg w lives).bare.issued = (runTurns s w lives.flatten).bare.issued
    rw [hend.bare]
  · show (runLives s cfg w lives).bare.contacts = (runTurns s w lives.flatten).bare.contacts
    rw [hend.bare]

/-- The first process creates a server and saves the settings, the second finds them saved, and the
third subscribes. -/
theorem three_lives_change_nothing :
    let cfg : Config :=
      { datastore := { instances := 0 }, server := { instances := 1 }, agent := { instances := 0 } }
    let w : World := (runSteps .calm (.start cfg ∅ .stored) []).restart cfg
    let turns : List Turn := [.cycle, .cycle, .event .heartbeat, .subscribe true]
    let lives : List (List Turn) := [[.cycle], [.cycle, .event .heartbeat], [.subscribe true]]
    Surroundings.calm.Obliging ∧ cfg.validate = .ok () ∧ (∀ key, Memory.record? ∅ key = none) ∧
      storesOfLives .calm cfg w lives = storesOfTurns .calm w turns ∧
      (runLives .calm cfg w lives).store = (runTurns .calm w turns).store ∧
      (runLives .calm cfg w lives).plainIssued = (runTurns .calm w turns).plainIssued ∧
      (runLives .calm cfg w lives).plainContacts = (runTurns .calm w turns).plainContacts := by
  intro cfg w turns lives
  have hcfg : cfg.validate = .ok () := by decide +kernel
  have hempty : ∀ key, Memory.record? ∅ key = none := fun _ => rfl
  refine ⟨Surroundings.obliging_calm, hcfg, hempty, ?_⟩
  exact restarts_change_nothing Surroundings.obliging_calm hcfg hempty .calm cfg .stored [] rfl
    lives

end Scheduling

end Stevedore
