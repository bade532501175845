import Stevedore.Proofs.Unhindered

/-!
# Every offer is answered once

A pass over offers accepts some of them and gives all others back in one call, also when it ends
early. What single launches do is taken from `Launching`; the pass is an induction over the offers.
-/

namespace Stevedore.Scheduling

open Manager (Call Id Offer TaskInfo)
open Store (Memory)

/-! ### What calls do with offers -/

/-- The offers that a call uses. -/
def usedBy (c : Call) : List Id :=
  match c.kind, c.accept with
  | .accept, some accept => accept.offerIds
  | _, _ => []

/-- The offers that a call gives back. -/
def givenBackBy (c : Call) : List Id :=
  match c.kind, c.decline with
  | .decline, some decline => decline.offerIds
  | _, _ => []

/-- The offers that were accepted by calls that succeeded. -/
def acceptedOffers (issued : List Issue) : List Id :=
  issued.flatMap fun i => if i.delivery = .applied then usedBy i.call else []

/-- The offers that were given back. -/
def declinedOffers (issued : List Issue) : List Id :=
  issued.flatMap fun i => givenBackBy i.call

/-- The calls that give offers back. -/
def declines (issued : List Issue) : List Issue :=
  issued.filter fun i => i.call.kind = .decline

/-- The tasks that are named by calls that accept offers, whatever became of the calls. -/
def namedTasks (issued : List Issue) : List String :=
  issued.flatMap fun i => (launchedBy i.call).map (·.taskId.value)

variable {issued issued' : List Issue}

theorem acceptedOffers_append (issued issued' : List Issue) :
    acceptedOffers (issued ++ issued') = acceptedOffers issued ++ acceptedOffers issued' :=
  List.flatMap_append

theorem declinedOffers_append (issued issued' : List Issue) :
    declinedOffers (issued ++ issued') = declinedOffers issued ++ declinedOffers issued' :=
  List.flatMap_append

theorem namedTasks_append (issued issued' : List Issue) :
    namedTasks (issued ++ issued') = namedTasks issued ++ namedTasks issued' :=
  List.flatMap_append

theorem declines_append (issued issued' : List Issue) :
    declines (issued ++ issued') = declines issued ++ declines issued' :=
  List.filter_append ..

theorem usedBy_eq_nil {c : Call} (h : c.kind ≠ .accept) : usedBy c = [] := by
  unfold usedBy
  split
  · next hkind _ => exact absurd hkind h
  · rfl

theorem givenBackBy_eq_nil {c : Call} (h : c.kind ≠ .decline) : givenBackBy c = [] := by
  unfold givenBackBy
  split
  · next hkind _ => exact absurd hkind h
  · rfl

theorem acceptedOffers_eq_nil (h : ∀ i ∈ issued, i.call.kind ≠ .accept) :
    acceptedOffers issued = [] := by
  unfold acceptedOffers
  rw [List.flatMap_eq_nil_iff]
  intro i hi
  rw [usedBy_eq_nil (h i hi), ite_self]

theorem declinedOffers_eq_nil (h : ∀ i ∈ issued, i.call.kind ≠ .decline) :
    declinedOffers issued = [] := by
  unfold declinedOffers
  rw [List.flatMap_eq_nil_iff]
  intro i hi
  exact givenBackBy_eq_nil (h i hi)

theorem declines_eq_nil (h : ∀ i ∈ issued, i.call.kind ≠ .decline) : declines issued = [] := by
  unfold declines
  rw [List.filter_eq_nil_iff]
  intro i hi
  simpa using h i hi

theorem namedTasks_eq_nil (h : ∀ i ∈ issued, i.call.kind ≠ .accept) : namedTasks issued = [] := by
  unfold namedTasks
  rw [List.flatMap_eq_nil_iff]
  intro i hi
  rw [launchedBy_eq_nil (h i hi), List.map_nil]

theorem namedTasks_launchIssue (offer : Offer) (staged : TaskRecord) (delivery : Delivery)
    (store : Memory) : namedTasks [launchIssue offer staged delivery store] = [staged.id] := rfl

/-- A call that accepts one offer for one task. -/
def AcceptsOne (offers : List Offer) (i : Issue) : Prop :=
  ∃ offer ∈ offers, ∃ task, i.call = .launching offer.id [task] none

/-! ### Launches -/

section Launches

variable {offer : Offer} {candidate : TaskRecord} {name : String} {store store' : Memory}
  {result : Except Fault Bool}

/-- A launch that succeeds accepts its offer, and no other does. -/
theorem Launching.accepted (h : Launching offer candidate name store result store' issued) :
    result = .ok true ∧ acceptedOffers issued = [offer.id] ∨
      result ≠ .ok true ∧ acceptedOffers issued = [] := by
  cases h with
  | idle h => exact Or.inr ⟨h, rfl⟩
  | launched h => exact Or.inl ⟨rfl, rfl⟩
  | reverted h failed =>
    refine Or.inr ⟨by simp, ?_⟩
    simp [acceptedOffers, launchIssue, failed]
  | stuck h failed about =>
    refine Or.inr ⟨by simp, ?_⟩
    have hasked := acceptedOffers_eq_nil fun i hi => (about.quiet i hi).1
    unfold acceptedOffers at hasked ⊢
    rw [List.flatMap_cons, hasked]
    simp [launchIssue, failed]

/-- The calls of a launch give nothing back, and accept nothing but its offer. -/
theorem Launching.calls (h : Launching offer candidate name store result store' issued) :
    ∀ i ∈ issued, i.call.kind ≠ .decline ∧ (i.call.kind = .accept → AcceptsOne [offer] i) := by
  have hone : ∀ {r delivery}, (launchIssue offer r delivery store).call.kind ≠ .decline ∧
      AcceptsOne [offer] (launchIssue offer r delivery store) := fun {r delivery} =>
    ⟨nofun, offer, List.mem_singleton_self offer, _, rfl⟩
  intro i hi
  cases h with
  | idle => cases hi
  | launched =>
    rw [List.mem_singleton.1 hi]
    exact ⟨hone.1, fun _ => hone.2⟩
  | reverted =>
    rw [List.mem_singleton.1 hi]
    exact ⟨hone.1, fun _ => hone.2⟩
  | stuck _ _ about =>
    rcases List.mem_cons.1 hi with rfl | hi
    · exact ⟨hone.1, fun _ => hone.2⟩
    · exact ⟨(about.quiet i hi).2, fun hkind => absurd hkind (about.quiet i hi).1⟩

end Launches

/-! ### Matching -/

/-- The first record that fits is taken out of the others. -/
theorem perm_of_takeFitting? {offer : Offer} {records others : List TaskRecord} {r : TaskRecord}
    (h : takeFitting? offer records = some (r, others)) : records.Perm (r :: others) := by
  induction records generalizing others with
  | nil => cases h
  | cons first rest ih =>
    unfold takeFitting? at h
    cases hfit : fit offer first with
    | ok ports =>
      rw [hfit] at h
      cases h
      exact List.Perm.refl _
    | error mismatch =>
      rw [hfit] at h
      obtain ⟨⟨found, left⟩, hfound, heq⟩ := Option.map_eq_some_iff.1 h
      cases heq
      exact ((ih hfound).cons first).trans (List.Perm.swap r first left)

/-- What a pass over some offers does with them. -/
structure Matches (offers : List Offer) (pass : OfferPass) (issued : List Issue) : Prop where
  partition : (acceptedOffers issued ++ pass.declined).Perm (offers.map (·.id))
  order : pass.declined.Sublist (offers.map (·.id))
  calls : ∀ i ∈ issued, i.call.kind ≠ .decline ∧ (i.call.kind = .accept → AcceptsOne offers i)
  count : ∀ n, pass.launched = .ok n → (acceptedOffers issued).length = n

theorem AcceptsOne.mono {offers offers' : List Offer} {i : Issue} (h : AcceptsOne offers i)
    (hsubset : offers ⊆ offers') : AcceptsOne offers' i := by
  obtain ⟨offer, hoffer, htask⟩ := h
  exact ⟨offer, hsubset hoffer, htask⟩

namespace Matches

variable {offer : Offer} {rest : List Offer} {pass : OfferPass}

theorem decline (h : Matches rest pass issued) :
    Matches (offer :: rest) (pass.decline offer.id) issued where
  partition := List.perm_middle.trans (h.partition.cons offer.id)
  order := h.order.cons_cons offer.id
  calls i hi := ⟨(h.calls i hi).1, fun hkind =>
    ((h.calls i hi).2 hkind).mono (List.subset_cons_self offer rest)⟩
  count := h.count

theorem append (h : Matches (offer :: rest) pass issued')
    (hcalls : ∀ i ∈ issued, i.call.kind ≠ .decline ∧ (i.call.kind = .accept → AcceptsOne [offer] i))
    (haccepted : acceptedOffers issued = []) :
    Matches (offer :: rest) pass (issued ++ issued') where
  partition := by
    rw [acceptedOffers_append, haccepted]
    exact h.partition
  order := h.order
  calls i hi := by
    rcases List.mem_append.1 hi with hi | hi
    · exact ⟨(hcalls i hi).1, fun hkind => ((hcalls i hi).2 hkind).mono (by simp)⟩
    · exact h.calls i hi
  count n hn := by
    rw [acceptedOffers_append, haccepted]
    exact h.count n hn

theorem launch (h : Matches rest pass issued')
    (hcalls : ∀ i ∈ issued, i.call.kind ≠ .decline ∧ (i.call.kind = .accept → AcceptsOne [offer] i))
    (haccepted : acceptedOffers issued = [offer.id]) :
    Matches (offer :: rest) pass.launch (issued ++ issued') where
  partition := by
    rw [acceptedOffers_append, haccepted]
    exact h.partition.cons offer.id
  order := h.order.cons offer.id
  calls i hi := by
    rcases List.mem_append.1 hi with hi | hi
    · exact ⟨(hcalls i hi).1, fun hkind => ((hcalls i hi).2 hkind).mono (by simp)⟩
    · exact ⟨(h.calls i hi).1, fun hkind =>
        ((h.calls i hi).2 hkind).mono (List.subset_cons_self offer rest)⟩
  count n hn := by
    rw [acceptedOffers_append, haccepted]
    cases hlaunched : pass.launched with
    | error e =>
      rw [OfferPass.launch, hlaunched] at hn
      cases hn
    | ok m =>
      rw [OfferPass.launch, hlaunched] at hn
      cases hn
      simp [h.count m hlaunched]

theorem giveAllBack (offers : List Offer) (launched : Except Fault Nat)
    (hnone : ∀ n, launched = .ok n → n = 0) :
    Matches offers ⟨offers.map (·.id), launched⟩ [] :=
  ⟨List.Perm.refl _, List.Sublist.refl _, fun _ hi => absurd hi List.not_mem_nil,
    fun n hn => (hnone n hn).symm⟩

end Matches

/-! ### Tasks -/

/-- Every eligible record of a framework lies under its own key. -/
def OwnKeys (name : String) (store : Memory) : Prop :=
  ∀ ⦃role id r⦄, store.record? (Key.task name role id) = some r → r.state = .new →
    r.framework = name ∧ r.role = role ∧ r.id = id

section Tasks

variable {offer : Offer} {candidate : TaskRecord} {name : String} {store store' : Memory}
  {result : Except Fault Bool}

theorem OwnKeys.put {r : TaskRecord} (h : OwnKeys name store)
    (hown : r.state = .new → r.framework = name) : OwnKeys name (store.put r) := by
  intro role id x hx hstate
  obtain ⟨hkey, rfl⟩ | ⟨-, hx⟩ := Memory.record?_put_cases hx
  · have hname := hown hstate
    rw [TaskRecord.storeKey, hname] at hkey
    obtain ⟨hrole, hid⟩ := Key.task_inj hkey
    exact ⟨hname, hrole, hid⟩
  · exact h hx hstate

theorem Launching.ownKeys (h : Launching offer candidate name store result store' issued)
    (hown : OwnKeys name store) : OwnKeys name store' := by
  cases h with
  | idle => exact hown
  | launched => exact hown.put (by nofun)
  | reverted h => exact (hown.put (by nofun)).put fun _ => (hown h.found h.eligible).1
  | stuck => exact hown.put (by nofun)

/-- The calls of a launch name no task but the candidate's. -/
theorem Launching.named (h : Launching offer candidate name store result store' issued)
    (hown : OwnKeys name store) : (namedTasks issued).Sublist [candidate.id] := by
  have hnamed : ∀ {r ports now delivery}, Launchable offer candidate name store r ports →
      namedTasks [launchIssue offer (r.staged offer ports now) delivery store] =
        [candidate.id] := by
    intro r ports now delivery h
    rw [namedTasks_launchIssue, ← (hown h.found h.eligible).2.2]
    rfl
  cases h with
  | idle => exact List.nil_sublist _
  | launched h => rw [hnamed h]
  | reverted h => rw [hnamed h]
  | stuck h _ about =>
    rw [← List.singleton_append, namedTasks_append, hnamed h,
      namedTasks_eq_nil fun i hi => (about.quiet i hi).1]
    exact List.Sublist.refl _

end Tasks

namespace Run

theorem matchOffers_cases (offers : List Offer) (eligible : List TaskRecord) (s : Surroundings)
    (w : World) :
    ∃ pass store issued w', matchOffers eligible offers s w = (.ok pass, w') ∧
      Moves w store issued w' ∧ Matches offers pass issued ∧
      (OwnKeys w.framework w.store → (namedTasks issued).Subperm (eligible.map (·.id))) := by
  induction offers generalizing eligible w with
  | nil =>
    exact ⟨_, _, _, w, rfl, Moves.refl w, .giveAllBack [] (.ok 0) (by simp),
      fun _ => List.nil_subperm⟩
  | cons offer rest ih =>
    unfold matchOffers
    cases htake : takeFitting? offer eligible with
    | none =>
      obtain ⟨pass, store, issued, w', hrun, hmoves, hmatches, hnamed⟩ := ih eligible w
      exact ⟨_, store, issued, w', bind_of_ok hrun _, hmoves, hmatches.decline, hnamed⟩
    | some found =>
      obtain ⟨r, others⟩ := found
      have hperm : (r.id :: others.map (·.id)).Perm (eligible.map (·.id)) :=
        ((perm_of_takeFitting? htake).map TaskRecord.id).symm
      obtain ⟨result, store, issued, w₁, hlaunch, hmoves, hlaunching⟩ := does_launch offer r s w
      dsimp only
      rw [bind_of_ok (attempt_of hlaunch)]
      obtain ⟨pass, store', issued', w', hrun, hmoves', hmatches, hnamed'⟩ := ih others w₁
      have hnamed : OwnKeys w.framework w.store →
          (namedTasks (issued ++ issued')).Subperm (eligible.map (·.id)) := by
        intro hown
        have hown₁ : OwnKeys w₁.framework w₁.store := by
          rw [hmoves.framework, hmoves.store]
          exact hlaunching.ownKeys hown
        rw [namedTasks_append]
        exact ((hlaunching.named hown).subperm.append (hnamed' hown₁)).trans hperm.subperm
      rcases hlaunching.accepted with ⟨rfl, haccepted⟩ | ⟨hfailed, haccepted⟩
      · exact ⟨_, store', _, w', bind_of_ok hrun _, hmoves.trans hmoves',
          hmatches.launch hlaunching.calls haccepted, hnamed⟩
      · cases result with
        | error e =>
          refine ⟨_, store, issued, w₁, rfl, hmoves, ?_, fun hown => ?_⟩
          · have hrest := Matches.giveAllBack (offer :: rest) (.error e) (by simp)
            have hall := hrest.append hlaunching.calls haccepted
            rwa [List.append_nil] at hall
          · have hsub : [r.id].Subperm (r.id :: others.map (·.id)) :=
              (List.singleton_sublist.2 List.mem_cons_self).subperm
            exact ((hlaunching.named hown).subperm.trans hsub).trans hperm.subperm
        | ok launched =>
          cases launched with
          | true => exact absurd rfl hfailed
          | false =>
            exact ⟨_, store', _, w', bind_of_ok hrun _, hmoves.trans hmoves',
              hmatches.decline.append hlaunching.calls haccepted, hnamed⟩

end Run

/-! ### Listed records -/

/-- The eligible records of a framework lie under their own keys, and no two have the same id. -/
structure Tidy (name : String) (store : Memory) : Prop where
  own : OwnKeys name store
  single : ∀ ⦃role role' id r r'⦄, store.record? (Key.task name role id) = some r →
    store.record? (Key.task name role' id) = some r' → r.state = .new → r'.state = .new →
      role = role'

/-- The records that a pass over offers goes through, oldest first. -/
def eligibleRecords (name : String) (store : Memory) : List TaskRecord :=
  ((store.records name).filter fun r => r.state = .new).mergeSort TaskRecord.isBefore

theorem nodup_eligibleRecords {name : String} {store : Memory} (h : Tidy name store) :
    ((eligibleRecords name store).map (·.id)).Nodup := by
  have hall : (store.records name).Pairwise fun r r' =>
      r.state = .new → r'.state = .new → r.id ≠ r'.id := by
    refine Memory.pairwise_records (fun h hnew' hnew => (h hnew hnew').symm) ?_
    intro role role' id id' r r' hr hr' hne hnew hnew' heq
    have hid := (h.own hr hnew).2.2
    have hid' := (h.own hr' hnew').2.2
    rw [hid, hid'] at heq
    subst heq
    exact hne (by rw [h.single hr hr' hnew hnew'])
  have hperm := (List.mergeSort_perm ((store.records name).filter fun r => r.state = .new)
    TaskRecord.isBefore).map (·.id)
  unfold eligibleRecords
  rw [hperm.nodup_iff, List.Nodup, List.pairwise_map]
  refine (hall.filter _).imp_of_mem fun {r r'} hr hr' hne => ?_
  exact hne (by simpa using (List.mem_filter.1 hr).2) (by simpa using (List.mem_filter.1 hr').2)

namespace Run

/-- What the calls of a pass over offers, up to giving them back, are like. -/
theorem passOffers_cases (offers : List Offer) (s : Surroundings) (w : World) :
    ∃ pass store issued w', passOffers offers s w = (.ok pass, w') ∧ Moves w store issued w' ∧
      Matches offers pass issued ∧ (Tidy w.framework w.store → (namedTasks issued).Nodup) := by
  obtain ⟨w₁, hmoves, ⟨e, hlist⟩ | hlist⟩ := listAll_cases s w
  · exact ⟨_, _, _, w₁, bind_of_ok (attempt_of hlist) _, hmoves,
      .giveAllBack offers (.error e) nofun, fun _ => List.nodup_nil⟩
  · obtain ⟨pass, store, issued, w', hrun, hmoves', hmatches, hnamed⟩ :=
      matchOffers_cases offers (eligibleRecords w.framework w.store) s w₁
    refine ⟨pass, store, issued, w', (bind_of_ok (attempt_of hlist) _).trans hrun,
      hmoves.andThen hmoves', hmatches, fun htidy => ?_⟩
    rw [hmoves.framework, hmoves.store] at hnamed
    obtain ⟨named, hperm, hsublist⟩ := hnamed htidy.own
    exact hperm.nodup_iff.1 (hsublist.nodup (nodup_eligibleRecords htidy))

/-- Runs that make no calls but quiet ones. -/
def Mutters {α : Type} (m : Run α) : Prop :=
  ∀ s w, ∃ issued, (m s w).2.issued = w.issued ++ issued ∧ Quiet issued

variable {α β : Type} {m : Run α}

theorem mutters_of_same (h : ∀ s w, (m s w).2.issued = w.issued) : Mutters m :=
  fun s w => ⟨[], by rw [h, List.append_nil], quiet_nil⟩

theorem Looks.mutters {f : String → Memory → Except Fault α} (h : Looks m f) : Mutters m := by
  refine mutters_of_same fun s w => ?_
  obtain ⟨n, hrun | ⟨-, reason, -, hrun⟩⟩ := h s w
  · rw [hrun]
    rfl
  · rw [hrun]
    rfl

theorem mutters_call {c : Call} (haccept : c.kind ≠ .accept) (hdecline : c.kind ≠ .decline) :
    Mutters (call c) := by
  intro s w
  obtain ⟨delivery, w', -, hmoves, hcall⟩ := call_cases c s (w := w) rfl
  refine ⟨_, ?_, quiet_singleton (i := ⟨c, delivery, w.store⟩) haccept hdecline⟩
  rcases hcall with ⟨-, hcall⟩ | ⟨-, fault, hcall⟩
  · rw [hcall]
    exact hmoves.issued
  · rw [hcall]
    exact hmoves.issued

theorem Mutters.bind {f : α → Run β} (hm : Mutters m) (hf : ∀ x, Mutters (f x)) :
    Mutters (m >>= f) := by
  intro s w
  refine bind_relates (R := fun w w' => ∃ issued, w'.issued = w.issued ++ issued ∧ Quiet issued)
    (fun h h' => ?_) (hm s w) fun x => hf x s
  obtain ⟨issued, hissued, hquiet⟩ := h
  obtain ⟨issued', hissued', hquiet'⟩ := h'
  refine ⟨issued ++ issued', ?_, hquiet.append hquiet'⟩
  rw [hissued', hissued, List.append_assoc]

theorem mutters_evaluate (created : Bool) : Mutters (evaluate created) := by
  have hend : Mutters (look (·.suppressed)) := mutters_of_same fun _ _ => rfl
  have hremember : ∀ suppressed, Mutters (rememberSuppressed suppressed) :=
    fun _ => mutters_of_same fun _ _ => rfl
  refine looks_listAll.mutters.bind fun records =>
    Mutters.bind (mutters_of_same fun _ _ => rfl) fun suppressed => ?_
  dsimp only
  split
  · have hrevive : Mutters revive :=
      (mutters_call (by nofun) (by nofun)).bind fun _ => hremember false
    exact hrevive.bind fun _ => hend
  · split
    · exact (mutters_call (by nofun) (by nofun)).bind fun _ => (hremember true).bind fun _ => hend
    · exact hend

/-- What is done after offers were given back. -/
theorem mutters_conclusion (pass : OfferPass) (given : Except Fault Unit) :
    Mutters (do
      let launched ← ofExcept pass.launched
      ofExcept given
      if 0 < launched then
        let _ ← evaluate false) := by
  have hexcept : ∀ {α : Type} (x : Except Fault α), Mutters (ofExcept x) := by
    intro α x
    cases x with
    | error e => exact mutters_of_same fun _ _ => rfl
    | ok x => exact mutters_of_same fun _ _ => rfl
  refine (hexcept _).bind fun launched => (hexcept _).bind fun _ => ?_
  split
  · exact (mutters_evaluate false).bind fun _ => mutters_of_same fun _ _ => rfl
  · exact mutters_of_same fun _ _ => rfl

/-- Offers are given back in one call, if there are any. -/
theorem declineOffers_cases (ids : List Id) (refuseSeconds : Option Binary64) (s : Surroundings)
    (w : World) :
    ∃ result issued w', declineOffers ids refuseSeconds s w = (result, w') ∧
      Moves w w.store issued w' ∧ (∀ i ∈ issued, i.call.kind ≠ .accept) ∧
      declinedOffers issued = ids ∧
      (declines issued).length = if ids = [] then 0 else 1 := by
  unfold declineOffers
  cases ids with
  | nil => exact ⟨_, [], w, rfl, Moves.refl w, by simp, rfl, rfl⟩
  | cons id ids =>
    obtain ⟨delivery, w', -, hmoves, hcall⟩ :=
      call_cases (.declining (id :: ids) refuseSeconds) s (w := w) rfl
    have hissue : ∀ i ∈ [(⟨.declining (id :: ids) refuseSeconds, delivery, w.store⟩ : Issue)],
        i.call.kind ≠ .accept := by
      intro i hi
      rw [List.mem_singleton.1 hi]
      nofun
    rcases hcall with ⟨-, hcall⟩ | ⟨-, fault, hcall⟩
    · exact ⟨_, _, w', hcall, hmoves, hissue, List.append_nil _, rfl⟩
    · exact ⟨_, _, w', hcall, hmoves, hissue, List.append_nil _, rfl⟩

end Run

/-- A record may be added to a tidy store if its id is not in use. -/
theorem Tidy.put {name : String} {store : Memory} {r : TaskRecord} (h : Tidy name store)
    (hname : r.framework = name) (hlone : ∀ role, store.record? (Key.task name role r.id) = none) :
    Tidy name (store.put r) where
  own := h.own.put fun _ => hname
  single role role' id x x' hx hx' hnew hnew' := by
    -- what is found is the new record, or was there before under another id
    have hcases : ∀ {role y}, (store.put r).record? (Key.task name role id) = some y →
        (role = r.role ∧ id = r.id) ∨
          (id ≠ r.id ∧ store.record? (Key.task name role id) = some y) := by
      intro role y hy
      obtain ⟨hkey, -⟩ | ⟨-, hy⟩ := Memory.record?_put_cases hy
      · rw [TaskRecord.storeKey, hname] at hkey
        exact Or.inl (Key.task_inj hkey.symm)
      · refine Or.inr ⟨fun hid => ?_, hy⟩
        rw [hid, hlone role] at hy
        cases hy
    rcases hcases hx with ⟨rfl, hid⟩ | ⟨hid, hx⟩ <;>
      rcases hcases hx' with ⟨rfl, hid'⟩ | ⟨hid', hx'⟩
    · rfl
    · exact absurd hid hid'
    · exact absurd hid' hid
    · exact h.single hx hx' hnew hnew'

theorem tidy_empty (name : String) : Tidy name ∅ where
  own _ _ _ hr := nomatch hr
  single _ _ _ _ _ hr := nomatch hr

/-! ### Records that wait and offers of nothing -/

/-- An eligible record of a task that needs nothing. -/
def spare (workload : Workload) (id : String) : TaskRecord where
  id := id
  name := "spare"
  framework := "keel"
  workload := workload
  resources := ⟨0, 0, 0⟩
  limits := none
  container := ⟨"", none, false, [], false, "", .host, none, [], [], [], [], [], false⟩
  discovery := ⟨"", .external, []⟩
  labels := []
  instances := 1
  state := .new
  agentId := none
  agentHostname := none
  address := none
  createdAt := 0
  updatedAt := 0

/-- An offer of nothing. -/
def bareOffer (id : String) : Offer where
  id := ⟨id⟩
  frameworkId := ⟨"framework"⟩
  agentId := ⟨"machine"⟩
  hostname := "host"
  resources := []

/-! ### Answers -/

/-- How calls answer offers. -/
structure Answers (offers : List Offer) (issued : List Issue) : Prop where
  /-- Every offer is accepted or given back, and none of them twice. -/
  partition : (acceptedOffers issued ++ declinedOffers issued).Perm (offers.map (·.id))
  /-- What is given back keeps its order. -/
  order : (declinedOffers issued).Sublist (offers.map (·.id))
  /-- Everything is given back in one call, and there is none if nothing is given back. -/
  once : (declines issued).length = if declinedOffers issued = [] then 0 else 1
  /-- Every call that accepts offers accepts one of them for one task. -/
  one : ∀ i ∈ issued, i.call.kind = .accept → AcceptsOne offers i

/-- The calls made while offers are handled are those of the pass, then those that give offers back,
and then quiet ones. -/
theorem handleOffers_issued {offers : List Offer} {s : Surroundings} {w w₁ : World}
    {pass : OfferPass} (hpass : Run.passOffers offers s w = (.ok pass, w₁)) :
    ∃ declining rest, (Run.handleOffers offers s w).2.issued = w₁.issued ++ declining ++ rest ∧
      (∀ i ∈ declining, i.call.kind ≠ .accept) ∧ declinedOffers declining = pass.declined ∧
      (declines declining).length = (if pass.declined = [] then 0 else 1) ∧ Quiet rest := by
  obtain ⟨result, declining, w₂, hdecline, hmoves, hother, hdeclined, hcount⟩ :=
    Run.declineOffers_cases pass.declined w.config.current.refuseSeconds? s w₁
  obtain ⟨rest, hrest, hquiet⟩ := Run.mutters_conclusion pass result s w₂
  refine ⟨declining, rest, ?_, hother, hdeclined, hcount, hquiet⟩
  have hsnapshot : Run.snapshot s w = (.ok w.config.current, w) := rfl
  unfold Run.handleOffers
  rw [Run.bind_of_ok hsnapshot, Run.bind_of_ok hpass, Run.bind_of_ok (Run.attempt_of hdecline),
    hrest, hmoves.issued]

/-- **Every offer is answered once.** Whatever is stored and whatever fails, the calls made while
some offers are handled answer all of them; and if the store is tidy, no task is named twice. -/
theorem offers_answered_once (s : Surroundings) (w : World) (offers : List Offer) :
    ∃ issued, (Run.handleOffers offers s w).2.issued = w.issued ++ issued ∧ Answers offers issued ∧
      (Tidy w.framework w.store → (namedTasks issued).Nodup) := by
  obtain ⟨pass, store, issued, w₁, hpass, hmoves, hmatches, hnodup⟩ :=
    Run.passOffers_cases offers s w
  obtain ⟨declining, rest, hrun, hother, hdeclined, hcount, hquiet⟩ := handleOffers_issued hpass
  rw [hmoves.issued, List.append_assoc, List.append_assoc, ← List.append_assoc issued] at hrun
  have hback : declinedOffers (issued ++ declining ++ rest) = pass.declined := by
    rw [declinedOffers_append, declinedOffers_append,
      declinedOffers_eq_nil fun i hi => (hmatches.calls i hi).1, hdeclined,
      declinedOffers_eq_nil fun i hi => (hquiet i hi).2, List.nil_append, List.append_nil]
  have haccepted : acceptedOffers (issued ++ declining ++ rest) = acceptedOffers issued := by
    rw [acceptedOffers_append, acceptedOffers_append, acceptedOffers_eq_nil hother,
      acceptedOffers_eq_nil fun i hi => (hquiet i hi).1, List.append_nil, List.append_nil]
  refine ⟨_, hrun, ⟨?_, ?_, ?_, fun i hi hkind => ?_⟩, fun htidy => ?_⟩
  · rw [hback, haccepted]
    exact hmatches.partition
  · rw [hback]
    exact hmatches.order
  · rw [hback, ← hcount, declines_append, declines_append,
      declines_eq_nil fun i hi => (hmatches.calls i hi).1,
      declines_eq_nil fun i hi => (hquiet i hi).2, List.nil_append, List.append_nil]
  · rcases List.mem_append.1 hi with hi | hi
    · rcases List.mem_append.1 hi with hi | hi
      · exact (hmatches.calls i hi).2 hkind
      · exact absurd hkind (hother i hi)
    · exact absurd hkind (hquiet i hi).1
  · rw [namedTasks_append, namedTasks_append, namedTasks_eq_nil hother,
      namedTasks_eq_nil fun i hi => (hquiet i hi).1, List.append_nil, List.append_nil]
    exact hnodup htidy

/-- An agent and a server wait for two offers. -/
theorem two_offers_answered_once :
    Tidy "keel" ((Memory.put ∅ (spare .agent "x")).put (spare .server "y")) ∧
      ∃ issued, (Run.handleOffers [bareOffer "one", bareOffer "two"] .calm (.start {}
          ((Memory.put ∅ (spare .agent "x")).put (spare .server "y")) .stored)).2.issued =
            [] ++ issued ∧
        Answers [bareOffer "one", bareOffer "two"] issued ∧ (namedTasks issued).Nodup := by
  have hfirst : Tidy "keel" (Memory.put ∅ (spare .agent "x")) :=
    (tidy_empty "keel").put rfl fun _ => rfl
  have hlone : ∀ role,
      (Memory.put ∅ (spare .agent "x")).record? (Key.task "keel" role "y") = none := by
    intro role
    have hkey : Key.task "keel" role "y" ≠ (spare .agent "x").storeKey := by
      intro hkey
      have hid := (Key.task_inj hkey).2
      revert hid
      decide
    rw [Memory.record?_put_of_ne hkey]
    rfl
  have htidy := hfirst.put (r := spare .server "y") rfl hlone
  obtain ⟨issued, hissued, hanswers, hnodup⟩ := offers_answered_once .calm
    (.start {} ((Memory.put ∅ (spare .agent "x")).put (spare .server "y")) .stored)
    [bareOffer "one", bareOffer "two"]
  exact ⟨htidy, issued, hissued, hanswers, hnodup htidy⟩

/-! ### Stores that are not tidy -/

/-- Where the store never fails, two records that are launched one after the other under the same id
make a pass name a task twice. -/
theorem named_twice {s : Surroundings} {delivery : Delivery} (hclear : s.Clear delivery) {w : World}
    {first second : Offer} {candidate candidate' r : TaskRecord} {ports : List PortMapping}
    (heligible : eligibleRecords w.framework w.store = [candidate, candidate'])
    (htake : takeFitting? first [candidate, candidate'] = some (candidate, [candidate']))
    (htake' : takeFitting? second [candidate'] = some (candidate', []))
    (h : Launchable first candidate w.framework w.store r ports)
    (h' : ∀ now now', ∃ r' ports', r'.id = r.id ∧ Launchable second candidate' w.framework
      (Run.afterLaunch w.store (r.staged first ports now) (r.unstaged now') delivery) r' ports') :
    ¬(namedTasks (Run.handleOffers [first, second] s w).2.issued).Nodup := by
  obtain ⟨n, hlist⟩ := Run.listAll_clear hclear w
  obtain ⟨now, now', w₁, hmoves₁, hrun₁⟩ :=
    Run.matchOffers_clear (w := w.afterReads n) hclear [second] htake h
  obtain ⟨r', ports', hid, hlaunchable⟩ := h' now now'
  have hsecond : Launchable second candidate' w₁.framework w₁.store r' ports' := by
    rw [hmoves₁.framework, hmoves₁.store]
    exact hlaunchable
  obtain ⟨now₂, now₂', w₂, hmoves₂, hrun₂⟩ := Run.matchOffers_clear hclear [] htake' hsecond
  obtain ⟨pass₂, hpass₂⟩ : ∃ pass, Run.matchOffers [candidate'] [second] s w₁ = (.ok pass, w₂) :=
    ⟨_, hrun₂⟩
  obtain ⟨pass, hmatch⟩ : ∃ pass, Run.matchOffers (eligibleRecords w.framework w.store)
      [first, second] s (w.afterReads n) = (.ok pass, w₂) := by
    rw [heligible, hrun₁]
    exact ⟨_, Run.bind_of_ok hpass₂ _⟩
  have hpass : Run.passOffers [first, second] s w = (.ok pass, w₂) :=
    (Run.bind_of_ok (Run.attempt_of hlist) _).trans hmatch
  obtain ⟨declining, rest, hissued, -, -, -, -⟩ := handleOffers_issued hpass
  rw [hissued, hmoves₂.issued, hmoves₁.issued]
  simp only [namedTasks_append, namedTasks_launchIssue]
  intro hnodup
  have htwice : [r.id, r'.id].Nodup := hnodup.sublist (by
    simp only [List.append_assoc]
    exact (List.sublist_append_of_sublist_right (by simp [TaskRecord.staged])))
  rw [hid] at htwice
  simp at htwice

theorem storeKey_staged (r : TaskRecord) (offer : Offer) (ports : List PortMapping) (now : UInt64) :
    (r.staged offer ports now).storeKey = r.storeKey := rfl

theorem finite_of_needless {r : TaskRecord} (hresources : r.resources = ⟨0, 0, 0⟩)
    (hlimits : r.limits = none) : r.Finite := by
  have hzero : (0 : Binary64).isFinite = true := by decide +kernel
  refine ⟨?_, ?_, ?_, fun l hl => ?_⟩
  · rw [hresources]
    exact hzero
  · rw [hresources]
    exact hzero
  · rw [hresources]
    exact hzero
  · cases hlimits.symm.trans hl

/-- A record that needs nothing fits every offer. -/
theorem fit_of_needless {r : TaskRecord} (hresources : r.resources = ⟨0, 0, 0⟩)
    (hports : r.container.ports = []) (offer : Offer) : fit offer r = .ok [] := by
  have hzero : Binary64.le 0 0 = true := by decide +kernel
  unfold fit
  rw [hresources, hports]
  show (checkScalars offer [("cpus", 0), ("mem", 0), ("disk", 0)] >>= _) = _
  simp only [checkScalars, hzero]
  rfl

/-- What a pass goes through in a store with one server's and one agent's key. -/
theorem eligibleRecords_of_two {store : Memory} {key key' : String} {r r' : TaskRecord}
    (hdatastores : store.scan (Key.tasks "keel" .datastore) = [])
    (hservers : store.scan (Key.tasks "keel" .server) = [key])
    (hagents : store.scan (Key.tasks "keel" .agent) = [key']) (hr : store.record? key = some r)
    (hr' : store.record? key' = some r') (hnew : r.state = .new) (hnew' : r'.state = .new)
    (hbefore : r.isBefore r' = true) : eligibleRecords "keel" store = [r, r'] := by
  have hrecords : store.records "keel" = [r, r'] := by
    show store.roleRecords "keel" .datastore ++ (store.roleRecords "keel" .server ++
      (store.roleRecords "keel" .agent ++ [])) = _
    unfold Memory.roleRecords
    rw [hdatastores, hservers, hagents]
    simp [hr, hr']
  unfold eligibleRecords
  rw [hrecords]
  simp only [List.filter, hnew, hnew', decide_true]
  exact List.mergeSort_of_pairwise (by simp [hbefore])

/-- Eligible records of a server and an agent with the same id. -/
def twinStore : Memory :=
  (Memory.put ∅ (spare .server "x")).put (spare .agent "x")

/-- Two records under keys that are not their own: the agent's key `a` holds the record of a server
`y`, and some server's key holds the record of an agent `a`. -/
def strayStore : Memory :=
  (Memory.set ∅ "keel:server:b" (Json.encode (spare .agent "a")).render).set "keel:agent:a"
    (Json.encode (spare .server "y")).render

/-- Surroundings in which nothing fails but the calls, which are all refused. -/
def Surroundings.refusing : Surroundings :=
  { Surroundings.calm with delivery := fun _ _ => .refused .transport }

theorem Surroundings.clear_refusing : Surroundings.refusing.Clear (.refused .transport) :=
  ⟨fun _ => rfl, fun _ => rfl, fun _ _ => rfl⟩

theorem finite_spare (workload : Workload) (id : String) : (spare workload id).Finite :=
  finite_of_needless rfl rfl

theorem fit_spare (offer : Offer) (workload : Workload) (id : String) :
    fit offer (spare workload id) = .ok [] := by
  have hresources : (spare workload id).resources = ⟨0, 0, 0⟩ := rfl
  have hports : (spare workload id).container.ports = [] := rfl
  exact fit_of_needless hresources hports offer

theorem takeFitting?_spare (offer : Offer) (workload : Workload) (id : String)
    (rest : List TaskRecord) :
    takeFitting? offer (spare workload id :: rest) = some (spare workload id, rest) := by
  rw [takeFitting?, fit_spare]

theorem twins_named_twice :
    ¬(namedTasks (Run.handleOffers [bareOffer "one", bareOffer "two"] .calm
      (.start {} twinStore .stored)).2.issued).Nodup := by
  have hkey : (spare .server "x").storeKey ≠ (spare .agent "x").storeKey := by decide +kernel
  have hserver : twinStore.record? (spare .server "x").storeKey = some (spare .server "x") := by
    unfold twinStore
    rw [Memory.record?_put_of_ne hkey]
    exact Memory.record?_put_of_finite _ (finite_spare .server "x")
  have hagent : twinStore.record? (spare .agent "x").storeKey = some (spare .agent "x") :=
    Memory.record?_put_of_finite _ (finite_spare .agent "x")
  have heligible : eligibleRecords "keel" twinStore = [spare .server "x", spare .agent "x"] :=
    eligibleRecords_of_two (by decide +kernel) (by decide +kernel) (by decide +kernel) hserver
      hagent rfl rfl (by decide +kernel)
  have hlaunch : Launchable (bareOffer "one") (spare .server "x") "keel" twinStore
      (spare .server "x") [] := ⟨hserver, rfl, fit_spare _ _ _⟩
  have hlaunch' : ∀ now now', ∃ r' ports', r'.id = (spare .server "x").id ∧
      Launchable (bareOffer "two") (spare .agent "x") "keel" (Run.afterLaunch twinStore
        ((spare .server "x").staged (bareOffer "one") [] now) ((spare .server "x").unstaged now')
        .applied) r' ports' := by
    intro now now'
    have hstaged : (spare .agent "x").storeKey ≠
        ((spare .server "x").staged (bareOffer "one") [] now).storeKey := by
      rw [storeKey_staged]
      exact hkey.symm
    exact ⟨spare .agent "x", [], rfl, (Memory.record?_put_of_ne hstaged).trans hagent, rfl,
      fit_spare _ _ _⟩
  exact named_twice (w := .start {} twinStore .stored) Surroundings.clear_calm heligible
    (takeFitting?_spare _ _ _ _) (takeFitting?_spare _ _ _ _) hlaunch hlaunch'

theorem strays_named_twice :
    ¬(namedTasks (Run.handleOffers [bareOffer "one", bareOffer "two"] .refusing
      (.start {} strayStore .stored)).2.issued).Nodup := by
  have hkey : "keel:server:b" ≠ "keel:agent:a" := by decide
  have hserver : strayStore.record? "keel:server:b" = some (spare .agent "a") := by
    unfold strayStore
    rw [Memory.record?_set_of_ne hkey, Memory.record?_set_self]
    exact Records.ofStored?_render_of_finite (finite_spare .agent "a")
  have hagent : strayStore.record? "keel:agent:a" = some (spare .server "y") := by
    unfold strayStore
    rw [Memory.record?_set_self]
    exact Records.ofStored?_render_of_finite (finite_spare .server "y")
  have heligible : eligibleRecords "keel" strayStore = [spare .agent "a", spare .server "y"] :=
    eligibleRecords_of_two (by decide +kernel) (by decide +kernel) (by decide +kernel) hserver
      hagent rfl rfl (by decide +kernel)
  have hcandidate :
      Key.task "keel" (spare .agent "a").role (spare .agent "a").id = "keel:agent:a" := by
    decide +kernel
  have hlaunch : Launchable (bareOffer "one") (spare .agent "a") "keel" strayStore
      (spare .server "y") [] := by
    refine ⟨?_, rfl, fit_spare _ _ _⟩
    rw [hcandidate]
    exact hagent
  have hlaunch' : ∀ now now', ∃ r' ports', r'.id = (spare .server "y").id ∧
      Launchable (bareOffer "two") (spare .server "y") "keel" (Run.afterLaunch strayStore
        ((spare .server "y").staged (bareOffer "one") [] now) ((spare .server "y").unstaged now')
        (.refused .transport)) r' ports' := by
    intro now now'
    have hresources : ((spare .server "y").unstaged now').resources = ⟨0, 0, 0⟩ := rfl
    have hports : ((spare .server "y").unstaged now').container.ports = [] := rfl
    refine ⟨(spare .server "y").unstaged now', [], rfl, ?_, rfl,
      fit_of_needless hresources hports _⟩
    -- the launch that failed has put the record under its own key
    exact Memory.record?_put_of_finite _ (finite_of_needless hresources rfl)
  exact named_twice (w := .start {} strayStore .stored) Surroundings.clear_refusing heligible
    (takeFitting?_spare _ _ _ _) (takeFitting?_spare _ _ _ _) hlaunch hlaunch'

/-- **A pass may name a task twice if the store is not tidy**: if two eligible records have the same
id, or if eligible records with different ids lie under keys that are not their own. -/
theorem tasks_named_twice :
    ([bareOffer "one", bareOffer "two"].map (·.id)).Nodup ∧
      ¬(namedTasks (Run.handleOffers [bareOffer "one", bareOffer "two"] .calm
        (.start {} twinStore .stored)).2.issued).Nodup ∧
      ¬(namedTasks (Run.handleOffers [bareOffer "one", bareOffer "two"] .refusing
        (.start {} strayStore .stored)).2.issued).Nodup :=
  ⟨by decide, twins_named_twice, strays_named_twice⟩

end Stevedore.Scheduling
