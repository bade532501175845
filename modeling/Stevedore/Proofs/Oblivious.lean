import Stevedore.Proofs.HeldOffers

/-!
# What does not depend on the memory of the process

Apart from the configuration, a process remembers its locks and whether it believes that offers are
held back. What is left of a world without that, and without what only serves that belief, is bare
(`World.bare`). An operation is oblivious if its result and the bare world that it leaves depend on
nothing but the bare world that it finds. Where no read fails and every call takes effect all
operations are, because what is done to have offers flow or held back leaves the bare world alone.
-/

namespace Stevedore

/-- A call that only has offers flow or held back. -/
def Manager.Call.isSignal (c : Manager.Call) : Bool :=
  c.kind = .suppress || c.kind = .revive

namespace Scheduling

open Manager (Call Event Offer TaskStatus)
open Store (Memory)

/-- Something that was said to the manager for another reason than to have offers flow or held
back. -/
def Contact.isPlain : Contact → Bool
  | .subscribed .. => true
  | .called call => !call.isSignal

/-- What was said to the manager, apart from having offers flow or held back. -/
def World.plainContacts (w : World) : List Contact :=
  w.contacts.filter Contact.isPlain

/-- The calls that were made, apart from those to have offers flow or held back. -/
def World.plainIssued (w : World) : List Issue :=
  w.issued.filter fun i => !i.call.isSignal

/-- A world without the memory of the process, and without what only has offers flow or held
back. -/
def World.bare (w : World) : World :=
  { w with
    contacts := w.plainContacts
    issued := w.plainIssued
    tally.reads := 0
    tally.calls := 0
    config := .ofConfig {}
    suppressed := false
    locks := .fresh }

/-- Surroundings in which no read of the store fails and every call takes effect. -/
structure Surroundings.Obliging (s : Surroundings) : Prop where
  reads : ∀ k, s.readFault k = none
  calls : ∀ k c, s.delivery k c = .applied

theorem Surroundings.obliging_calm : Surroundings.calm.Obliging :=
  ⟨fun _ => rfl, fun _ _ => rfl⟩

variable {s : Surroundings} {w w' : World}

theorem framework_eq_of_bare (h : w'.bare = w.bare) : w'.framework = w.framework := by
  show w'.bare.framework = w.bare.framework
  rw [h]

theorem store_eq_of_bare (h : w'.bare = w.bare) : w'.store = w.store := by
  show w'.bare.store = w.bare.store
  rw [h]

namespace Run

variable {α β : Type}

/-! ### Oblivious and discreet runs -/

/-- A run that depends on bare worlds only. -/
def Oblivious (s : Surroundings) (m : Run α) : Prop :=
  ∀ ⦃w w' : World⦄, w'.bare = w.bare →
    (m s w').1 = (m s w).1 ∧ (m s w').2.bare = (m s w).2.bare

/-- A run that succeeds and leaves bare worlds alone. -/
def Discreet (s : Surroundings) (m : Run α) : Prop :=
  ∀ w, ∃ x w', m s w = (.ok x, w') ∧ w'.bare = w.bare

theorem oblivious_of_bare {m : Run α}
    (h : ∀ w, (m s w).1 = (m s w.bare).1 ∧ (m s w).2.bare = (m s w.bare).2) :
    Oblivious s m := by
  intro w w' hbare
  obtain ⟨hresult, hworld⟩ := h w
  obtain ⟨hresult', hworld'⟩ := h w'
  rw [hresult, hworld, hresult', hworld', hbare]
  exact ⟨rfl, rfl⟩

namespace Oblivious

theorem pure (x : α) : Oblivious s (Pure.pure x : Run α) :=
  fun _ _ h => ⟨rfl, h⟩

theorem fail (e : Fault) : Oblivious s (Run.fail e : Run α) :=
  fun _ _ h => ⟨rfl, h⟩

theorem ofExcept (x : Except Fault α) : Oblivious s (Run.ofExcept x) := by
  cases x with
  | error e => exact .fail e
  | ok x => exact .pure x

theorem bind {m : Run α} {f : α → Run β} (hm : Oblivious s m) (hf : ∀ x, Oblivious s (f x)) :
    Oblivious s (m >>= f) := by
  intro w w' h
  obtain ⟨hresult, hworld⟩ := hm h
  cases hrun : m s w with
  | mk result w₁ =>
    cases hrun' : m s w' with
    | mk result' w₁' =>
      rw [hrun, hrun'] at hresult hworld
      obtain rfl : result' = result := hresult
      cases result' with
      | error e =>
        rw [bind_of_error hrun, bind_of_error hrun']
        exact ⟨rfl, hworld⟩
      | ok x =>
        rw [bind_of_ok hrun, bind_of_ok hrun']
        exact hf x hworld

theorem attempt {m : Run α} (hm : Oblivious s m) : Oblivious s (Run.attempt m) := by
  intro w w' h
  obtain ⟨hresult, hworld⟩ := hm h
  exact ⟨congrArg Except.ok hresult, hworld⟩

theorem withLock (id : String) {body : Run α} (hbody : Oblivious s body) :
    Oblivious s (Run.withLock id body) := by
  intro w w' h
  have hlocked : World.bare { w' with locks := (w'.locks.request id).2 } =
    World.bare { w with locks := (w.locks.request id).2 } := h
  exact hbody hlocked

end Oblivious

/-- What a discreet run says makes no difference to what follows it. -/
theorem Discreet.before {m : Run α} {rest : Run β} (h : Discreet s m) (hrest : Oblivious s rest) :
    Oblivious s (m >>= fun _ => rest) := by
  intro w w' hbare
  obtain ⟨x, w₁, hrun, hleft⟩ := h w
  obtain ⟨x', w₁', hrun', hleft'⟩ := h w'
  rw [bind_of_ok hrun, bind_of_ok hrun']
  exact hrest (hleft'.trans (hbare.trans hleft.symm))

theorem Discreet.bind {m : Run α} {f : α → Run β} (h : Discreet s m) (hf : ∀ x, Discreet s (f x)) :
    Discreet s (m >>= f) := by
  intro w
  obtain ⟨x, w₁, hrun, hbare⟩ := h w
  obtain ⟨y, w₂, hrun', hbare'⟩ := hf x w₁
  exact ⟨y, w₂, (bind_of_ok hrun f).trans hrun', hbare'.trans hbare⟩

theorem discreet_pure (x : α) : Discreet s (Pure.pure x : Run α) :=
  fun w => ⟨x, w, rfl, rfl⟩

theorem discreet_look (f : World → α) : Discreet s (look f) :=
  fun w => ⟨f w, w, rfl, rfl⟩

/-! ### What everything is put together from -/

theorem Looks.oblivious (hs : s.Obliging) {m : Run α} {f : String → Memory → Except Fault α}
    (h : Looks m f) : Oblivious s m := by
  intro w w' hbare
  obtain ⟨n, hrun⟩ := h.run hs.reads w
  obtain ⟨n', hrun'⟩ := h.run hs.reads w'
  rw [hrun, hrun', framework_eq_of_bare hbare, store_eq_of_bare hbare]
  exact ⟨rfl, hbare⟩

theorem oblivious_look {f : World → α} (hf : ∀ w, f w = f w.bare) : Oblivious s (look f) :=
  oblivious_of_bare fun w => ⟨congrArg Except.ok (hf w), rfl⟩

theorem oblivious_write (f : Memory → α × Memory) : Oblivious s (write f) := by
  refine oblivious_of_bare fun w => ?_
  have hwrites : w.bare.tally.writes = w.tally.writes := rfl
  rw [write_run, write_run, hwrites]
  cases s.writeFault w.tally.writes <;> exact ⟨rfl, rfl⟩

theorem oblivious_now : Oblivious s now :=
  oblivious_of_bare fun _ => ⟨rfl, rfl⟩

theorem oblivious_drawId : Oblivious s drawId :=
  oblivious_of_bare fun _ => ⟨rfl, rfl⟩

theorem oblivious_askDatastore (running : List TaskRecord) : Oblivious s (askDatastore running) :=
  oblivious_of_bare fun _ => ⟨rfl, rfl⟩

theorem oblivious_askServer (cfg : Config) : Oblivious s (askServer cfg) :=
  oblivious_of_bare fun _ => ⟨rfl, rfl⟩

theorem oblivious_consultList (reason? : Surroundings → Nat → Option String) {f : World → α × World}
    (hf : ∀ w, (f w).1 = (f w.bare).1 ∧ (f w).2.bare = (f w.bare).2) :
    Oblivious s (consultList reason? f) := by
  refine oblivious_of_bare fun w => ?_
  have hnodes : w.bare.tally.nodes = w.tally.nodes := rfl
  simp only [consultList, hnodes]
  cases reason? s w.tally.nodes with
  | some reason => exact ⟨rfl, rfl⟩
  | none =>
    obtain ⟨hresult, hworld⟩ := hf { w with tally.nodes := w.tally.nodes + 1 }
    exact ⟨congrArg Except.ok hresult, hworld⟩

theorem call_obliging (hs : s.Obliging) (c : Call) (w : World) :
    call c s w = (.ok (), { w with
      tally.calls := w.tally.calls + 1
      issued := w.issued ++ [⟨c, .applied, w.store⟩]
      contacts := w.contacts ++ [.called c] }) := by
  simp only [call, hs.calls]

theorem bare_call (hs : s.Obliging) (c : Call) (w : World) :
    (call c s w).2.bare = if c.isSignal then w.bare else
      { w.bare with
        issued := w.plainIssued ++ [⟨c, .applied, w.store⟩]
        contacts := w.plainContacts ++ [.called c] } := by
  rw [call_obliging hs]
  unfold World.bare World.plainContacts World.plainIssued
  cases hsignal : c.isSignal <;> simp [List.filter_append, Contact.isPlain, hsignal]

theorem oblivious_call (hs : s.Obliging) {c : Call} (hplain : c.isSignal = false) :
    Oblivious s (call c) := by
  have hbare : ∀ w, (call c s w).2.bare = { w.bare with
      issued := w.bare.issued ++ [⟨c, .applied, w.bare.store⟩]
      contacts := w.bare.contacts ++ [.called c] } := by
    intro w
    rw [bare_call hs, hplain]
    rfl
  intro w w' h
  rw [hbare, hbare, h, call_obliging hs, call_obliging hs]
  exact ⟨rfl, rfl⟩

/-- Having offers flow or held back leaves the bare world alone. -/
theorem discreet_say (hs : s.Obliging) {c : Call} (hsignal : c.isSignal = true)
    (suppressed : Bool) : Discreet s (say c suppressed) := by
  intro w
  have hbare : (call c s w).2.bare = w.bare := by
    rw [bare_call hs, hsignal]
    rfl
  rw [call_obliging hs] at hbare
  exact ⟨(), _, bind_of_ok (call_obliging hs c w) _, hbare⟩

theorem discreet_evaluate (hs : s.Obliging) (created : Bool) : Discreet s (evaluate created) := by
  have hlist : Discreet s (Records.listAll : Run _) := by
    intro w
    obtain ⟨n, hrun⟩ := looks_listAll.run hs.reads w
    exact ⟨_, _, hrun, rfl⟩
  rw [evaluate_eq]
  refine hlist.bind fun records => (discreet_look _).bind fun suppressed => ?_
  refine Discreet.bind ?_ fun _ => discreet_look _
  split
  · exact discreet_say hs rfl false
  · split
    · exact discreet_say hs rfl true
    · exact discreet_pure ()

theorem oblivious_save (r : TaskRecord) : Oblivious s (Records.save r : Run Unit) :=
  oblivious_write _

theorem oblivious_remove (role : Role) (id : String) :
    Oblivious s (Records.remove role id : Run Bool) :=
  (oblivious_look fun _ => rfl).bind fun _ => oblivious_write _

theorem oblivious_saveSettings (settings : Settings) :
    Oblivious s (Records.saveSettings settings : Run Unit) :=
  (oblivious_look fun _ => rfl).bind fun _ => oblivious_write _

theorem oblivious_saveIdentity (identity : Identity) :
    Oblivious s (Records.saveIdentity identity : Run Unit) :=
  (oblivious_look fun _ => rfl).bind fun _ => oblivious_write _

theorem oblivious_killTask (hs : s.Obliging) (r : TaskRecord) : Oblivious s (killTask r) :=
  oblivious_call hs rfl

/-! ### Cycles -/

theorem oblivious_probe (cfg : Config) (records : List TaskRecord) :
    Oblivious s (probe cfg records) := by
  refine (oblivious_askDatastore _).bind fun datastore => ?_
  dsimp only
  split
  · exact (Oblivious.pure false).bind fun _ => .pure _
  · exact (oblivious_askServer cfg).bind fun _ => .pure _

theorem oblivious_createRecord (role : Role) (cfg : Config) (identity : Identity)
    (used : List UInt32) : Oblivious s (createRecord role cfg identity used) := by
  refine oblivious_drawId.bind fun id => oblivious_now.bind fun now => ?_
  cases Build.build Build.Builder.all (cfg.workload role) id ⟨cfg, identity, used, now⟩ with
  | error e => exact .pure none
  | ok r =>
    refine (oblivious_save r).attempt.bind fun saved => ?_
    cases saved <;> exact .pure _

theorem oblivious_fixServer (role : Role) (cfg : Config) (settings : Settings) :
    Oblivious s (fixServer role cfg settings) := by
  unfold fixServer
  split
  · exact (oblivious_saveSettings _).attempt.bind fun _ => .pure _
  · exact .pure settings

theorem oblivious_createMissing (cfg : Config) (identity : Identity) (records : List TaskRecord)
    (health : Health) (roles : List Role) (settings : Settings) (used : List UInt32) :
    Oblivious s (createMissing cfg identity records health roles settings used) := by
  induction roles generalizing settings used with
  | nil => exact .pure []
  | cons role roles ih =>
    unfold createMissing
    split
    · refine (oblivious_createRecord role cfg identity used).bind fun created => ?_
      cases created with
      | none => exact ih settings used
      | some r =>
        exact (oblivious_fixServer role cfg settings).bind fun settings =>
          (ih settings _).bind fun _ => .pure _
    · exact ih settings used

theorem oblivious_nodes (hs : s.Obliging) : Oblivious s nodes := by
  refine (oblivious_look fun _ => rfl).bind fun source => ?_
  cases source with
  | listed nodes => exact oblivious_consultList _ fun _ => ⟨rfl, rfl⟩
  | stored => exact looks_listNodes.oblivious hs

theorem oblivious_forgetNode (name : String) : Oblivious s (forgetNode name) := by
  refine (oblivious_look fun _ => rfl).bind fun source => ?_
  cases source with
  | listed nodes => exact oblivious_consultList _ fun _ => ⟨rfl, rfl⟩
  | stored =>
    exact (oblivious_look fun _ => rfl).bind fun _ => (oblivious_write _).bind fun _ => .pure ()

theorem oblivious_tendNode (hs : s.Obliging) (records : List TaskRecord) (node : Node)
    (report : TickReport) : Oblivious s (tendNode records node report) := by
  unfold tendNode
  split
  · exact .pure report
  · split
    · refine (oblivious_forgetNode node.name).attempt.bind fun result => ?_
      cases result <;> exact .pure _
    · split
      · refine (oblivious_killTask hs _).attempt.bind fun result => ?_
        cases result <;> exact .pure _
      · exact .pure report

theorem oblivious_tendNodes (hs : s.Obliging) (records : List TaskRecord) (nodes : List Node)
    (report : TickReport) : Oblivious s (tendNodes records nodes report) := by
  induction nodes generalizing report with
  | nil => exact .pure report
  | cons node rest ih => exact (oblivious_tendNode hs records node report).bind fun _ => ih _

theorem oblivious_nodePass (hs : s.Obliging) (records : List TaskRecord) (report : TickReport) :
    Oblivious s (nodePass records report) := by
  refine (oblivious_nodes hs).attempt.bind fun result => ?_
  cases result with
  | error e => exact .pure report
  | ok nodes => exact oblivious_tendNodes hs records nodes report

theorem oblivious_tick (hs : s.Obliging) (base : Config) : Oblivious s (tick base) :=
  (looks_settings.oblivious hs).bind fun settings =>
    (looks_identity.oblivious hs).bind fun identity =>
      (looks_listAll.oblivious hs).bind fun records =>
        (oblivious_probe _ records).bind fun health =>
          (oblivious_createMissing _ identity records health _ settings _).bind fun _ =>
            oblivious_nodePass hs records _

theorem oblivious_promoteOne (hs : s.Obliging) (candidate : TaskRecord) :
    Oblivious s (promoteOne candidate) := by
  refine .withLock candidate.id (((looks_load _ _).oblivious hs).bind fun found => ?_)
  cases found with
  | none => exact .pure false
  | some r =>
    dsimp only
    split
    · exact oblivious_now.bind fun now => (oblivious_save _).bind fun _ => .pure true
    · exact .pure false

theorem oblivious_promoteEach (hs : s.Obliging) (records : List TaskRecord) :
    Oblivious s (promoteEach records) := by
  induction records with
  | nil => exact .pure 0
  | cons r rest ih =>
    exact (oblivious_promoteOne hs r).bind fun _ => ih.bind fun _ => .pure _

theorem oblivious_promoteUnset (hs : s.Obliging) : Oblivious s promoteUnset := by
  refine (looks_listAll.oblivious hs).bind fun records =>
    (oblivious_promoteEach hs _).bind fun promoted => ?_
  dsimp only
  split
  · exact (discreet_say hs rfl false).before (.pure promoted)
  · exact .pure promoted

theorem oblivious_followUp (hs : s.Obliging) (report : TickReport) :
    Oblivious s (followUp report) :=
  (oblivious_promoteUnset hs).bind fun _ => (discreet_evaluate hs _).before (.pure report)

/-! ### Events -/

theorem oblivious_revertLaunch (hs : s.Obliging) (r : TaskRecord) (offer : Offer) :
    Oblivious s (revertLaunch r offer) := by
  refine oblivious_now.bind fun now => (oblivious_save _).attempt.bind fun saved => ?_
  cases saved with
  | ok => exact .pure ()
  | error e => exact (oblivious_call hs rfl).attempt.bind fun _ => .fail e

theorem oblivious_launch (hs : s.Obliging) (offer : Offer) (candidate : TaskRecord) :
    Oblivious s (launch offer candidate) := by
  refine .withLock candidate.id (((looks_load _ _).oblivious hs).bind fun found => ?_)
  cases found with
  | none => exact .pure false
  | some r =>
    dsimp only
    split
    · cases fit offer r with
      | error e => exact .pure false
      | ok ports =>
        refine oblivious_now.bind fun now => (oblivious_save _).attempt.bind fun saved => ?_
        cases saved with
        | error e => exact .pure false
        | ok =>
          refine (oblivious_call hs rfl).attempt.bind fun accepted => ?_
          cases accepted with
          | ok => exact .pure true
          | error e => exact (oblivious_revertLaunch hs r offer).bind fun _ => .pure false
    · exact .pure false

theorem oblivious_matchOffers (hs : s.Obliging) (eligible : List TaskRecord) (offers : List Offer) :
    Oblivious s (matchOffers eligible offers) := by
  induction offers generalizing eligible with
  | nil => exact .pure _
  | cons offer rest ih =>
    unfold matchOffers
    split
    · exact (ih _).bind fun _ => .pure _
    · refine (oblivious_launch hs offer _).attempt.bind fun launched => ?_
      split
      · exact (ih _).bind fun _ => .pure _
      · exact (ih _).bind fun _ => .pure _
      · exact .pure _

theorem oblivious_passOffers (hs : s.Obliging) (offers : List Offer) :
    Oblivious s (passOffers offers) := by
  refine (looks_listAll.oblivious hs).attempt.bind fun listed => ?_
  cases listed with
  | error e => exact .pure _
  | ok records => exact oblivious_matchOffers hs _ offers

theorem oblivious_declineOffers (hs : s.Obliging) (offers : List Manager.Id)
    (refuseSeconds : Option Binary64) : Oblivious s (declineOffers offers refuseSeconds) := by
  unfold declineOffers
  split
  · exact .pure ()
  · exact oblivious_call hs rfl

/-- What is done with offers, if those that are not used are refused for some time. -/
def useOffers (refuseSeconds : Option Binary64) (offers : List Offer) : Run Unit := do
  let pass ← passOffers offers
  let given ← attempt (declineOffers pass.declined refuseSeconds)
  let launched ← ofExcept pass.launched
  ofExcept given
  if 0 < launched then
    let _ ← evaluate false

theorem handleOffers_run (offers : List Offer) (s : Surroundings) (w : World) :
    handleOffers offers s w = useOffers w.config.current.refuseSeconds? offers s w :=
  bind_of_ok (look_run _) _

theorem oblivious_useOffers (hs : s.Obliging) (refuseSeconds : Option Binary64)
    (offers : List Offer) : Oblivious s (useOffers refuseSeconds offers) := by
  refine (oblivious_passOffers hs offers).bind fun pass => ?_
  refine (oblivious_declineOffers hs _ _).attempt.bind fun given => ?_
  refine (Oblivious.ofExcept _).bind fun launched => (Oblivious.ofExcept _).bind fun _ => ?_
  split
  · exact (discreet_evaluate hs false).before (.pure ())
  · exact .pure ()

theorem oblivious_applyStatus (hs : s.Obliging) (status : TaskStatus) :
    Oblivious s (applyStatus status) := by
  refine ((looks_find _).oblivious hs).bind fun found => ?_
  split
  · exact .pure ()
  · exact .pure ()
  · split
    · exact .pure ()
    · split
      · exact (oblivious_remove _ _).bind fun _ => .pure ()
      · exact oblivious_now.bind fun _ => oblivious_save _

theorem oblivious_acknowledge (hs : s.Obliging) (status : TaskStatus) :
    Oblivious s (acknowledge status) := by
  unfold acknowledge
  split
  · exact oblivious_call hs rfl
  · exact .pure ()

theorem oblivious_handleUpdate (hs : s.Obliging) (status : TaskStatus) :
    Oblivious s (handleUpdate status) :=
  .withLock _ ((oblivious_applyStatus hs status).bind fun _ => oblivious_acknowledge hs status)

theorem oblivious_rememberIdentity (hs : s.Obliging) (frameworkId : String) :
    Oblivious s (rememberIdentity frameworkId) := by
  refine (looks_identity.oblivious hs).bind fun known => ?_
  split
  · exact .pure ()
  · exact oblivious_saveIdentity _

theorem oblivious_handleSubscribed (hs : s.Obliging) (subscription : Manager.Subscribed) :
    Oblivious s (handleSubscribed subscription) := by
  have hforget : Discreet s (rememberSuppressed false) := fun w => ⟨(), _, rfl, rfl⟩
  refine (oblivious_rememberIdentity hs _).bind fun _ => hforget.before ?_
  refine (looks_listAll.oblivious hs).bind fun records => ?_
  dsimp only
  split
  · exact .pure ()
  · exact oblivious_call hs rfl

end Run

end Scheduling

end Stevedore
