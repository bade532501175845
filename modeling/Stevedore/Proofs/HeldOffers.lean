import Stevedore.Proofs.Completion
import Stevedore.Proofs.Headcount
import Stevedore.Proofs.OfferSignal
import Stevedore.Scheduling.Supervision

/-!
# Whether the manager holds offers back

The manager holds offers back or not, and the process remembers what it believes of that. The two
can come apart: a request to hold offers back may be taken without an answer, and the event of a new
subscription may be dealt with after such a request. As long as neither happens the process knows
when offers are held back (`aware_runTurns`); and as long as every request for offers is taken, none
are held back from a task that waits for one (`flowing_runTurns`).
-/

namespace Stevedore.Scheduling

open Manager (Call CallKind Event Offer)
open Store (Memory)

variable {s : Surroundings} {w w' : World} {store : Memory} {issued : List Issue}

/-! ### What the manager has heard -/

/-- Whether the manager holds offers back after a contact. -/
def Contact.holds (held : Bool) : Contact → Bool
  | .subscribed _ opened => held && !opened
  | .called call =>
    match call.kind with
    | .suppress => true
    | .revive => false
    | _ => held

/-- Whether the manager holds offers back. -/
def World.heldBack (w : World) : Bool :=
  w.contacts.foldl Contact.holds false

/-- Calls that neither ask for offers nor hold them back. -/
def Unsignalled (issued : List Issue) : Prop :=
  ∀ i ∈ issued, i.call.kind ∉ [CallKind.suppress, .revive]

namespace Run

theorem Moves.heldBack_eq (h : Moves w store issued w') :
    w'.heldBack = (heard issued).foldl Contact.holds w.heldBack := by
  unfold World.heldBack
  rw [h.contacts, List.foldl_append]

theorem Moves.heldBack_of_unsignalled (h : Moves w store issued w') (hquiet : Unsignalled issued) :
    w'.heldBack = w.heldBack := by
  rw [h.heldBack_eq]
  generalize w.heldBack = held
  clear h
  induction issued generalizing held with
  | nil => rfl
  | cons i rest ih =>
    have hrest : Unsignalled rest := fun j hj => hquiet j (List.mem_cons_of_mem i hj)
    have hi := hquiet i List.mem_cons_self
    have hkeeps : (Contact.called i.call).holds held = held := by
      unfold Contact.holds
      cases hkind : i.call.kind <;> simp [hkind] at hi ⊢
    unfold heard at ih ⊢
    rw [List.filterMap_cons]
    cases i.delivery with
    | refused => exact ih hrest held
    | applied =>
      rw [List.foldl_cons, hkeeps]
      exact ih hrest held
    | unanswered =>
      rw [List.foldl_cons, hkeeps]
      exact ih hrest held

theorem unsignalled_of_about (h : AboutTasks issued) : Unsignalled issued := by
  intro i hi
  have hkind := h i hi
  cases hcall : i.call.kind <;> simp [hcall] at hkind ⊢

theorem unsignalled_launch {offer : Offer} {candidate : TaskRecord} {name : String}
    {store' : Memory} {result : Except Fault Bool}
    (h : Launching offer candidate name store result store' issued) : Unsignalled issued := by
  have hlaunch : ∀ {r : TaskRecord} {delivery : Delivery},
      (launchIssue offer r delivery store).call.kind ∉ [CallKind.suppress, .revive] := by
    intro r delivery
    exact (by decide : CallKind.accept ∉ [CallKind.suppress, .revive])
  cases h with
  | idle => exact fun i hi => absurd hi List.not_mem_nil
  | launched =>
    intro i hi
    rw [List.mem_singleton.1 hi]
    exact hlaunch
  | reverted =>
    intro i hi
    rw [List.mem_singleton.1 hi]
    exact hlaunch
  | stuck _ _ about =>
    intro i hi
    rcases List.mem_cons.1 hi with rfl | hi
    · exact hlaunch
    · exact unsignalled_of_about about i hi

theorem Tended.unsignalled {may : Liberty → Prop} {offers : List Offer} {name : String}
    {store' : Memory} (h : Tended may offers name store store' issued) : Unsignalled issued := by
  have hnothing : Unsignalled [] := fun i hi => absurd hi List.not_mem_nil
  cases h with
  | told h =>
    intro i hi
    have hkind := h i hi
    cases hcall : i.call.kind <;> simp [hcall, plainKinds] at hkind ⊢
  | settings => exact hnothing
  | identity => exact hnothing
  | forgotten => exact hnothing
  | promoted h => exact unsignalled_of_about h.about
  | launched _ h => exact unsignalled_launch h
  | updated _ h => exact unsignalled_of_about h.about
  | retired h => exact unsignalled_of_about h.about

variable {may : Liberty → Prop} {offers : List Offer} {α : Type} {m : Run α}

/-- Operations that neither ask for offers nor hold them back leave that to the manager. -/
theorem Built.heldBack (hsignal : ¬ may .signal) (h : Built may offers m) (s : Surroundings)
    (w : World) : (m s w).2.heldBack = w.heldBack := by
  refine h.relates (R := fun w w' => w'.heldBack = w.heldBack) (fun _ => rfl)
    (fun h h' => h'.trans h) (fun h w => ?_) w
  cases h with
  | tend h =>
    obtain ⟨store, issued, hmoves, hdone⟩ := h.tends s w
    exact hmoves.heldBack_of_unsignalled hdone.unsignalled
  | create _ role cfg identity used =>
    rw [createRecord_run]
    cases newRecord? cfg identity used role (s.taskId w.tally.ids) (s.clock w.tally.times) with
    | none => rfl
    | some r => cases s.writeFault w.tally.writes <;> rfl
  | revive h => exact absurd h hsignal
  | hold h => exact absurd h hsignal
  | reset => rfl
  | configure => rfl

/-- The manager has heard a call unless it was refused. -/
theorem Moves.heldBack_of_call {c : Call} {delivery : Delivery}
    (h : Moves w store [⟨c, delivery, store⟩] w') :
    w'.heldBack = match delivery with
      | .refused _ => w.heldBack
      | .applied | .unanswered _ => (Contact.called c).holds w.heldBack := by
  rw [h.heldBack_eq]
  cases delivery <;> rfl

/-- What becomes of a call that tells the manager of the signal: the process believes it only if it
was answered, the manager hears it unless it was refused. -/
inductive Said (c : Call) (suppressed : Bool) (s : Surroundings) (w w' : World) : Prop
  | applied (believed : w'.suppressed = suppressed)
      (known : w'.heldBack = (Contact.called c).holds w.heldBack)
  | refused (fault : Manager.Fault) (delivered : s.delivery w.tally.calls c = .refused fault)
      (believed : w'.suppressed = w.suppressed) (known : w'.heldBack = w.heldBack)
  | unanswered (fault : Manager.Fault) (delivered : s.delivery w.tally.calls c = .unanswered fault)
      (believed : w'.suppressed = w.suppressed)
      (known : w'.heldBack = (Contact.called c).holds w.heldBack)

theorem said_say (c : Call) (suppressed : Bool) (s : Surroundings) (w : World) :
    Said c suppressed s w (say c suppressed s w).2 := by
  obtain ⟨delivery, w', hdelivery, hmoves, hsay⟩ := say_cases c suppressed s w
  have hheld := hmoves.heldBack_of_call
  rcases hsay with ⟨rfl, hsay⟩ | ⟨hfailed, e, hsay⟩
  · rw [hsay]
    exact .applied rfl hheld
  · rw [hsay]
    cases delivery with
    | applied => exact absurd rfl hfailed
    | refused fault => exact .refused fault hdelivery.symm hmoves.suppressed hheld
    | unanswered fault => exact .unanswered fault hdelivery.symm hmoves.suppressed hheld

end Run

/-! ### Turns -/

/-- Something that the process does while it follows the manager. -/
inductive Turn where
  /-- One cycle. -/
  | cycle
  /-- Take an event. -/
  | event (event : Event)
  /-- Ask for a stream of events, which is opened or not. -/
  | subscribe (opened : Bool)

/-- What a turn makes of the world. -/
def Turn.run (s : Surroundings) (w : World) : Turn → World
  | .cycle => (Run.cycle s w).2
  | .event e => (Run.handleEvent e s w).2
  | .subscribe opened => (Run.subscribe opened s w).2

/-- What turns make of the world, one after the other. -/
def runTurns (s : Surroundings) (w : World) (turns : List Turn) : World :=
  turns.foldl (Turn.run s) w

theorem runTurns_concat (s : Surroundings) (w : World) (turns : List Turn) (turn : Turn) :
    runTurns s w (turns ++ [turn]) = turn.run s (runTurns s w turns) :=
  List.foldl_concat ..

/-- A subscription is not made because the identity cannot be read, or the manager hears of it. -/
theorem subscribe_cases (opened : Bool) (s : Surroundings) (w : World) :
    ∃ n, (Run.subscribe opened s w).2 = w.afterReads n ∨
      ∃ info, (Run.subscribe opened s w).2 =
        { w.afterReads n with contacts := w.contacts ++ [.subscribed info opened] } := by
  obtain ⟨n, ⟨e, hidentity⟩ | ⟨identity, hidentity, -⟩⟩ := Run.looks_identity.cases s w
  · have hintroduction : Run.introduction s w = (.error e, w.afterReads n) :=
      (Run.bind_of_ok rfl _).trans (Run.bind_of_error hidentity _)
    have hrun : Run.subscribe opened s w = (.error e, w.afterReads n) :=
      Run.bind_of_error hintroduction _
    exact ⟨n, Or.inl (by rw [hrun])⟩
  · have hintroduction : Run.introduction s w = (.ok
        (w.config.current.frameworkInfo identity s.machine), w.afterReads n) :=
      (Run.bind_of_ok rfl _).trans (Run.bind_of_ok hidentity _)
    have hrun : Run.subscribe opened s w = _ := Run.bind_of_ok hintroduction _
    exact ⟨n, Or.inr ⟨_, by rw [hrun]; rfl⟩⟩

theorem heldBack_subscribe (opened : Bool) (s : Surroundings) (w : World) :
    (Run.subscribe opened s w).2.heldBack = true → w.heldBack = true := by
  obtain ⟨n, hrun | ⟨info, hrun⟩⟩ := subscribe_cases opened s w
  · rw [hrun]
    exact id
  · rw [hrun]
    unfold World.heldBack
    rw [List.foldl_append]
    intro hheld
    exact (Bool.and_eq_true_iff.1 hheld).1

theorem suppressed_subscribe (opened : Bool) (s : Surroundings) (w : World) :
    (Run.subscribe opened s w).2.suppressed = w.suppressed := by
  obtain ⟨n, hrun | ⟨info, hrun⟩⟩ := subscribe_cases opened s w
  · rw [hrun]
    rfl
  · rw [hrun]
    rfl

/-! ### What the process believes -/

/-- The process knows it if the manager holds offers back. -/
def World.Aware (w : World) : Prop :=
  w.heldBack = true → w.suppressed = true

/-- Every request to hold offers back that takes effect is answered. -/
def Surroundings.Answered (s : Surroundings) : Prop :=
  ∀ n fault, s.delivery n .suppressing ≠ .unanswered fault

/-- The events of new subscriptions are dealt with before offers are held back again. -/
def Punctual (s : Surroundings) : World → List Turn → Prop
  | _, [] => True
  | w, turn :: rest =>
    (∀ subscription, turn = .event (.subscribed subscription) → w.heldBack = false) ∧
      Punctual s (turn.run s w) rest

section Aware

variable {may : Liberty → Prop} {offers : List Offer} {α : Type} {m : Run α}

theorem aware_of_built (hanswered : s.Answered) (hreset : ¬ may .reset)
    (h : Run.Built may offers m) (haware : w.Aware) : (m s w).2.Aware := by
  refine h.relates (R := fun w w' => w.Aware → w'.Aware) (fun _ => id)
    (fun h h' => h' ∘ h) (fun h w haware => ?_) w haware
  have hsame : ∀ {w' : World}, w'.heldBack = w.heldBack → w'.suppressed = w.suppressed →
      w'.Aware := by
    intro w' hheld hsuppressed
    unfold World.Aware
    rw [hheld, hsuppressed]
    exact haware
  cases h with
  | tend h =>
    obtain ⟨store, issued, hmoves, hdone⟩ := h.tends s w
    exact hsame (hmoves.heldBack_of_unsignalled hdone.unsignalled) hmoves.suppressed
  | create hcreate role cfg identity used =>
    have hbuilt : Run.Built (.create = ·) [] (Run.createRecord role cfg identity used) :=
      .piece (.create rfl role cfg identity used)
    exact hsame (hbuilt.heldBack nofun s w) ((hbuilt.confined s w).suppressed nofun nofun)
  | revive =>
    show (Run.say .reviving false s w).2.Aware
    cases Run.said_say .reviving false s w with
    | applied _ known => exact fun hheld => absurd (known.symm.trans hheld) Bool.false_ne_true
    | refused _ _ believed known => exact hsame known believed
    | unanswered _ _ _ known =>
      exact fun hheld => absurd (known.symm.trans hheld) Bool.false_ne_true
  | hold =>
    show (Run.say .suppressing true s w).2.Aware
    cases Run.said_say .suppressing true s w with
    | applied believed => exact fun _ => believed
    | refused _ _ believed known => exact hsame known believed
    | unanswered _ delivered => exact absurd delivered (hanswered _ _)
  | reset h => exact absurd h hreset
  | configure => exact haware

end Aware

/-- **A turn leaves the process aware** if the events of new subscriptions are dealt with in
time. -/
theorem aware_turn (hanswered : s.Answered) {turn : Turn}
    (hpunctual : ∀ subscription, turn = .event (.subscribed subscription) → w.heldBack = false)
    (haware : w.Aware) : (turn.run s w).Aware := by
  let may (x : Liberty) : Prop := x = .create ∨ x = .signal ∨ ∃ status, x = .report status
  cases turn with
  | cycle =>
    have hbuilt : Run.Built may [] Run.cycle := Run.built_cycle (Or.inl rfl) (Or.inr (Or.inl rfl))
    exact aware_of_built hanswered (by simp [may]) hbuilt haware
  | subscribe opened =>
    intro hheld
    rw [Turn.run, suppressed_subscribe]
    exact haware (heldBack_subscribe opened s w hheld)
  | event e =>
    by_cases hsubscribed : ∃ subscription, e = .subscribed subscription
    · obtain ⟨subscription, rfl⟩ := hsubscribed
      have hbuilt : Run.Built (.reset = ·) [] (Run.handleSubscribed subscription) :=
        Run.built_handleSubscribed rfl subscription
      have hheld : ((Turn.event (.subscribed subscription)).run s w).heldBack = false :=
        (hbuilt.heldBack nofun s w).trans (hpunctual subscription rfl)
      exact fun hheld' => absurd (hheld.symm.trans hheld') Bool.false_ne_true
    · have hbuilt : Run.Built may (Run.offersOf e) (Run.handleEvent e) :=
        Run.built_handleEvent_of_ne (Or.inr (Or.inl rfl))
          (fun status _ => Or.inr (Or.inr ⟨status, rfl⟩))
          fun subscription heq => hsubscribed ⟨subscription, heq⟩
      exact aware_of_built hanswered (by simp [may]) hbuilt haware

theorem aware_runTurns (hanswered : s.Answered) {turns : List Turn} (hpunctual : Punctual s w turns)
    (haware : w.Aware) : (runTurns s w turns).Aware := by
  induction turns generalizing w with
  | nil => exact haware
  | cons turn rest ih => exact ih hpunctual.2 (aware_turn hanswered hpunctual.1 haware)

/-- After a cycle that has ended well, an aware process does not leave offers held back from a task
that waits for one. -/
theorem heldBack_of_aware_cycle {report : TickReport} (haware : w'.Aware)
    (h : Run.cycle s w = (.ok report, w')) (hpending : w'.isPending = true) :
    w'.heldBack = false := by
  rw [Run.cycle_run] at h
  obtain ⟨report₁, w₁, -, h⟩ := Run.exists_of_bind_eq_ok h
  obtain ⟨promoted, w₂, -, h⟩ := Run.exists_of_bind_eq_ok h
  obtain ⟨b, w₃, hevaluate, h⟩ := Run.exists_of_bind_eq_ok h
  cases h
  have hevaluation := evaluation_evaluate (!report.created.isEmpty) s w₂
  rw [hevaluate] at hevaluation
  by_contra hheld
  rw [Bool.not_eq_false] at hheld
  have hsuppressed := hevaluation.not_suppressed hpending
  rw [haware hheld] at hsuppressed
  cases hsuppressed

/-! ### Requests that are taken -/

/-- Every request for offers takes effect. -/
def Surroundings.Heeded (s : Surroundings) : Prop :=
  ∀ n fault, s.delivery n .reviving ≠ .refused fault

/-- No task that waits for an offer waits in vain. -/
structure Flowing (w : World) : Prop where
  name : w.config.current.framework.name = w.framework
  kept : Kept w.framework w.store
  flows : w.isPending = true → w.heldBack = false

theorem isPending_iff_rank_le (state : TaskState) : state.isPending = true ↔ state.rank ≤ 1 := by
  cases state <;> decide

/-- Tending to records makes no task wait for an offer that did not wait for one. -/
theorem isPending_of_upkeep (hupkeep : Upkeep w.framework w.store w'.store)
    (hframework : w'.framework = w.framework) (h : w'.isPending = true) : w.isPending = true := by
  obtain ⟨r', hr', hpending⟩ := List.any_eq_true.1 h
  rw [hframework] at hr'
  obtain ⟨role, id, hr'⟩ := Memory.mem_records_iff.1 hr'
  obtain ⟨r, hr, hfollows⟩ := hupkeep.follows hr'
  have hwaits : PendingAt w.store (Key.task w.framework role id) :=
    ⟨r, hr, (isPending_iff_rank_le _).2
      (hfollows.rank.trans ((isPending_iff_rank_le _).1 hpending))⟩
  exact hwaits.isPending

section Flowing

variable {may : Liberty → Prop} (hcreate : ¬ may .create) {offers : List Offer} {α : Type}
  {m : Run α}
include hcreate

/-- An operation that creates no records need only let no task wait in vain. -/
theorem flowing_of_flows (h : Run.Built may offers m) (s : Surroundings)
    (hname : w.config.current.framework.name = w.framework) (hkept : Kept w.framework w.store)
    (hflows : (m s w).2.isPending = true → (m s w).2.heldBack = false) : Flowing (m s w).2 := by
  have hconfined := h.confined s w
  refine ⟨?_, ?_, hflows⟩
  · rw [hconfined.needs.name, hconfined.framework]
    exact hname
  · rw [hconfined.framework]
    exact (h.upkeep hcreate s hkept).kept hkept

theorem flowing_of_built (hsignal : ¬ may .signal) (h : Run.Built may offers m) (s : Surroundings)
    (hw : Flowing w) : Flowing (m s w).2 := by
  refine flowing_of_flows hcreate h s hw.name hw.kept fun hpending => ?_
  rw [h.heldBack hsignal]
  have hupkeep := h.upkeep hcreate s hw.kept
  exact hw.flows (isPending_of_upkeep hupkeep (h.confined s w).framework hpending)

end Flowing

/-- An evaluation does not leave offers held back from a task that waits for one, if they were not
or if the request for them is taken. -/
theorem heldBack_of_evaluation {created : Bool} {result : Except Fault Bool} (hheeded : s.Heeded)
    (h : Evaluation s created w result w') (hpending : w.isPending = true)
    (hflows : w.heldBack = false) : w'.heldBack = false := by
  have hturning : w.IsDue created → w.turning = .reviving := by
    rintro ⟨hsuppressed, -⟩
    rw [World.turning, ← hsuppressed, hpending]
    rfl
  cases h with
  | unseen => exact hflows
  | right => exact hflows
  | turned due moves =>
    rw [hturning due] at moves
    exact moves.heldBack_of_call
  | @failed e delivery w₁ due failed delivered moves =>
    rw [hturning due] at moves delivered
    obtain ⟨n, hdelivery⟩ := delivered
    have hheld := moves.heldBack_of_call
    cases delivery with
    | applied => exact absurd rfl failed
    | refused fault => exact absurd hdelivery (hheeded n fault)
    | unanswered => exact hheld

theorem flowing_evaluate (hheeded : s.Heeded) (created : Bool) (hw : Flowing w) :
    Flowing (Run.evaluate created s w).2 := by
  have hbuilt : Run.Built (.signal = ·) [] (Run.evaluate created) := Run.built_evaluate rfl created
  have hevaluation := evaluation_evaluate created s w
  refine flowing_of_flows nofun hbuilt s hw.name hw.kept fun hpending => ?_
  rw [hevaluation.isPending] at hpending
  exact heldBack_of_evaluation hheeded hevaluation hpending (hw.flows hpending)

theorem flowing_revive (hheeded : s.Heeded) (hname : w.config.current.framework.name = w.framework)
    (hkept : Kept w.framework w.store) : Flowing (Run.revive s w).2 := by
  have hbuilt : Run.Built (.signal = ·) [] Run.revive := .piece (.revive rfl)
  refine flowing_of_flows nofun hbuilt s hname hkept fun _ => ?_
  show (Run.say .reviving false s w).2.heldBack = false
  cases Run.said_say .reviving false s w with
  | applied _ known => exact known
  | refused fault delivered => exact absurd delivered (hheeded _ fault)
  | unanswered _ _ _ known => exact known

/-- After a tick some record is unset, or a task that waits for an offer waited before. -/
theorem isPending_of_adds {base : Config} {settings : Settings} {identity : Identity}
    (hadds : Adds w (newRecords base s w settings identity) w')
    (hsettled : ∀ r ∈ w'.store.records w'.framework, r.state ≠ .unset) (h : w'.isPending = true) :
    w.isPending = true := by
  obtain ⟨x, hx, hpending⟩ := List.any_eq_true.1 h
  have hstate := hsettled x hx
  rw [hadds.framework] at hx
  obtain ⟨role, id, hx⟩ := Memory.mem_records_iff.1 hx
  rcases hadds.get?_cases role id with hsame | ⟨r, hr, -, htext⟩
  · rw [record?_congr hsame] at hx
    exact PendingAt.isPending ⟨x, hx, hpending⟩
  · rw [Memory.record?, htext, Option.bind_some] at hx
    obtain rfl := Records.eq_of_ofStored?_render hx
    exact absurd (provided_of_mem hr).state hstate

/-- Promotions let no task wait in vain if none of the tasks that they find settled does. -/
theorem flowing_promoteUnset (hsteady : s.Steady) (hheeded : s.Heeded)
    (hname : w.config.current.framework.name = w.framework) (hkept : Kept w.framework w.store)
    (hflows : (∀ r ∈ w.store.records w.framework, r.state ≠ .unset) → w.isPending = true →
      w.heldBack = false) : Flowing (Run.promoteUnset s w).2 := by
  obtain ⟨n, w₁, hmoves, hupkeep, hsettled, hpromote⟩ := Run.promoteUnset_steady hsteady hkept
  have hname₁ : w₁.config.current.framework.name = w₁.framework := by
    rw [hmoves.config, hmoves.framework]
    exact hname
  have hkept₁ : Kept w₁.framework w₁.store := by
    rw [hmoves.framework]
    exact hupkeep.kept hkept
  rcases hpromote with ⟨-, hstore, hpromote⟩ | ⟨-, hpromote⟩
  · -- nothing was promoted, so the records were settled before
    rw [hpromote]
    refine ⟨hname₁, hkept₁, fun hpending => ?_⟩
    rw [hstore] at hsettled
    rw [World.isPending, hstore, hmoves.framework] at hpending
    rw [hmoves.heldBack_eq]
    exact hflows hsettled hpending
  · rw [hpromote]
    exact Run.bind_keeps (flowing_revive hheeded hname₁ hkept₁) fun _ _ => id

/-- **A cycle lets no task wait in vain** if the store does not fail and every request for offers is
taken. -/
theorem flowing_cycle (hsteady : s.Steady) (hheeded : s.Heeded) (hw : Flowing w) :
    Flowing (Run.cycle s w).2 := by
  rw [Run.cycle_run]
  rcases tick_cases (s := s) (apart_of_name hw.name) with
    ⟨e, n, htick, -⟩ | ⟨settings, identity, report, w₁, htick, -, hadds, -⟩
  · rw [Run.bind_of_error htick]
    exact ⟨hw.name, hw.kept, hw.flows⟩
  rw [Run.bind_of_ok htick]
  have hbuilt : Run.Built (.create = ·) [] (Run.tick w.config.current) := Run.built_tick rfl _
  have hticked := ticked_tick hw.name hw.kept s
  have hheld := hbuilt.heldBack nofun s w
  have hconfig := (hbuilt.confined s w).config nofun
  rw [htick] at hticked hheld hconfig
  have hname : w₁.config.current.framework.name = w₁.framework := by
    rw [hconfig, hticked.framework]
    exact hw.name
  -- the new records are unset, so if all records are settled there are none
  have hpromoted : Flowing (Run.promoteUnset s w₁).2 := by
    refine flowing_promoteUnset hsteady hheeded hname hticked.kept fun hsettled hpending => ?_
    exact hheld.trans (hw.flows (isPending_of_adds hadds hsettled hpending))
  refine Run.bind_keeps hpromoted fun promoted w₂ hw₂ => ?_
  exact Run.bind_keeps (flowing_evaluate hheeded _ hw₂) fun _ _ => id

theorem flowing_handleOffers (hheeded : s.Heeded) (offers : List Offer) (hw : Flowing w) :
    Flowing (Run.handleOffers offers s w).2 := by
  have hbuilt : ∀ {α : Type} {m : Run α}, Run.Built (fun _ => False) offers m →
      ∀ {w}, Flowing w → Flowing (m s w).2 := fun h => flowing_of_built id id h s
  refine Run.bind_keeps (hbuilt (Run.built_look _) hw) fun cfg w hw => ?_
  refine Run.bind_keeps (hbuilt (Run.built_passOffers offers) hw) fun pass w hw => ?_
  have hdecline := hbuilt (Run.built_declineOffers pass.declined cfg.refuseSeconds?).attempt hw
  refine Run.bind_keeps hdecline fun given w hw => ?_
  refine Run.bind_keeps (hbuilt (Run.built_ofExcept _) hw) fun launched w hw => ?_
  refine Run.bind_keeps (hbuilt (Run.built_ofExcept _) hw) fun _ w hw => ?_
  split
  · exact Run.bind_keeps (flowing_evaluate hheeded false hw) fun _ _ => id
  · exact hw

/-- **A turn lets no task wait in vain** if the store does not fail and every request for offers is
taken. -/
theorem flowing_turn (hsteady : s.Steady) (hheeded : s.Heeded) (turn : Turn) (hw : Flowing w) :
    Flowing (turn.run s w) := by
  cases turn with
  | cycle => exact flowing_cycle hsteady hheeded hw
  | subscribe opened =>
    show Flowing (Run.subscribe opened s w).2
    have hheld := heldBack_subscribe opened s w
    obtain ⟨n, hrun | ⟨info, hrun⟩⟩ := subscribe_cases opened s w
    all_goals
      rw [hrun] at hheld ⊢
      refine ⟨hw.name, hw.kept, fun hpending => ?_⟩
      by_contra hheld'
      rw [Bool.not_eq_false] at hheld'
      have hflows := hw.flows hpending
      rw [hheld hheld'] at hflows
      cases hflows
  | event e =>
    show Flowing (Run.handleEvent e s w).2
    cases e with
    | offers offers => exact flowing_handleOffers hheeded offers hw
    | update status =>
      have hbuilt : Run.Built (.report status = ·) [] (Run.handleUpdate status) :=
        (Run.Tending.update rfl).built
      refine Run.bind_keeps (flowing_of_built nofun nofun hbuilt s hw) fun _ w hw => ?_
      exact Run.bind_keeps (flowing_evaluate hheeded false hw) fun _ _ => id
    | subscribed subscription =>
      have hbuilt : Run.Built (.reset = ·) [] (Run.handleSubscribed subscription) :=
        Run.built_handleSubscribed rfl subscription
      exact flowing_of_built nofun nofun hbuilt s hw
    | rescind => exact hw
    | heartbeat => exact hw
    | error => exact hw
    | other => exact hw

theorem flowing_runTurns (hsteady : s.Steady) (hheeded : s.Heeded) (turns : List Turn)
    (hw : Flowing w) : Flowing (runTurns s w turns) := by
  induction turns generalizing w with
  | nil => exact hw
  | cons turn rest ih => exact ih (flowing_turn hsteady hheeded turn hw)

end Stevedore.Scheduling
