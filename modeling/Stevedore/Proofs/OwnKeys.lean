import Stevedore.Proofs.Composition
import Stevedore.Proofs.RecordAccess

/-!
# What depends on a framework's own keys only

A framework's own keys are those that begin with its name and a colon. A run is domestic if it
changes nothing under other keys and if neither its result nor what it says, asks and changes
depends on what is stored there (`Run.Domestic`). Reads and writes of single own keys are domestic,
and so are scans, because every text that the framework scans for begins with its name and a colon;
whatever is put together from domestic runs is domestic (`Domestic.bind`).

A record is saved under the key that it names itself. For that to be an own key, every record that
is found must name an own key (`Housed`), which domestic runs preserve.
-/

namespace Stevedore

/-- Some keys that all of a framework's own are among. -/
def Key.Cover (name : String) (on : String → Prop) : Prop :=
  ∀ ⦃key⦄, Under name key → on key

namespace Store.Memory

/-- Two stores that hold the same under some keys. -/
def SameOn (on : String → Prop) (m m' : Memory) : Prop :=
  ∀ ⦃key⦄, on key → m'.get? key = m.get? key

variable {on : String → Prop} {m m' : Memory}

theorem SameOn.set (h : SameOn on m m') (key text : String) :
    SameOn on (m.set key text) (m'.set key text) := by
  intro other hother
  unfold Memory.set
  by_cases heq : other = key
  · subst heq
    simp
  · rw [KeyMap.get?_insert_of_ne heq, KeyMap.get?_insert_of_ne heq, h hother]

theorem SameOn.erase (h : SameOn on m m') (key : String) :
    SameOn on (KeyMap.erase m key) (KeyMap.erase m' key) := by
  intro other hother
  rw [KeyMap.get?_erase, KeyMap.get?_erase, h hother]

end Store.Memory

namespace Scheduling

open Manager (Call Event Offer TaskStatus)
open Store (Memory)

/-! ### Worlds that hold the same under some keys -/

/-- The same call, of which the same became, made when the store held the same under some keys. -/
structure Issue.SameOn (on : String → Prop) (i i' : Issue) : Prop where
  call : i'.call = i.call
  delivery : i'.delivery = i.delivery
  store : i.store.SameOn on i'.store

/-- Two worlds whose stores hold the same under some keys, now and whenever a call was made, and
that are the same otherwise. -/
inductive World.SameOn (on : String → Prop) (w : World) : World → Prop
  | intro {store issued} (stored : w.store.SameOn on store)
      (called : List.Forall₂ (Issue.SameOn on) w.issued issued) :
      World.SameOn on w { w with store := store, issued := issued }

theorem Issue.SameOn.refl {on : String → Prop} (i : Issue) : i.SameOn on i :=
  ⟨rfl, rfl, fun _ _ => rfl⟩

theorem World.sameOn_of_store {on : String → Prop} {w : World} {store : Memory}
    (h : w.store.SameOn on store) : w.SameOn on { w with store := store } :=
  .intro h (List.forall₂_same.2 fun i _ => .refl i)

theorem World.SameOn.release {on : String → Prop} {w w' : World} (h : w.SameOn on w')
    (ticket : Ticket) : SameOn on { w with locks := w.locks.release ticket }
      { w' with locks := w'.locks.release ticket } := by
  obtain ⟨hstored, hcalled⟩ := h
  exact .intro hstored hcalled

/-- Every record under the key of a task of a framework names an own key of the framework. -/
def Housed (name : String) (store : Memory) : Prop :=
  ∀ ⦃role id r⦄, store.record? (Key.task name role id) = some r → Key.Under name r.storeKey

theorem Housed.congr {name : String} {store store' : Memory} (h : Housed name store)
    (hsame : store.SameOn (Key.Under name) store') : Housed name store' := by
  intro role id r hr
  unfold Memory.record? at hr
  rw [hsame Key.under_task] at hr
  exact h hr

/-- A text that may be put under a key: if the key is that of a task of a framework and the text is
read as a record, the record names an own key of the framework. -/
def Fitting (name key text : String) : Prop :=
  ∀ ⦃role id⦄ ⦃r : TaskRecord⦄, key = Key.task name role id → Records.ofStored? text = some r →
    Key.Under name r.storeKey

theorem fitting_record {name : String} {r : TaskRecord} (h : Key.Under name r.storeKey) :
    Fitting name r.storeKey (Json.encode r).render := by
  intro role id r' _ hread
  obtain rfl := Records.eq_of_ofStored?_render hread
  exact h

theorem fitting_settings {name text : String} : Fitting name (Key.settings name) text :=
  fun _ _ _ hkey _ => absurd hkey.symm Key.task_ne_settings

theorem fitting_identity {name text : String} : Fitting name (Key.identity name) text :=
  fun _ _ _ hkey _ => absurd hkey.symm Key.task_ne_identity

theorem fitting_node {name node text : String} : Fitting name (Key.node name node) text :=
  fun _ _ _ hkey _ => absurd hkey.symm Key.task_ne_node

theorem Housed.set {name key text : String} {store : Memory} (h : Housed name store)
    (hfits : Fitting name key text) : Housed name (store.set key text) := by
  intro role id r hr
  by_cases heq : Key.task name role id = key
  · subst heq
    rw [Memory.record?_set_self] at hr
    exact hfits rfl hr
  · rw [Memory.record?_set_of_ne heq] at hr
    exact h hr

theorem Housed.erase {name : String} {store : Memory} (h : Housed name store) (key : String) :
    Housed name (KeyMap.erase store key) := by
  intro role id r hr
  by_cases heq : Key.task name role id = key
  · rw [heq, Memory.record?_erase_self] at hr
    cases hr
  · rw [Memory.record?_erase_of_ne heq] at hr
    exact h hr

/-- A process of a framework, in a world where the framework's records name own keys. -/
structure Home (name : String) (w : World) : Prop where
  framework : w.framework = name
  config : w.config.current.framework.name = name
  housed : Housed name w.store

namespace Run

variable {α β : Type} {name : String} {s : Surroundings} {P Q : α → Prop}

/-! ### Domestic runs -/

/-- What a run leaves to the framework that it is a run of, and to others. -/
structure Leaves (name : String) (Q : α → Prop) (w : World) (result : Except Fault α)
    (w' : World) : Prop where
  home : Home name w'
  others : w.store.SameOn (fun key => ¬ Key.Under name key) w'.store
  holds : ∀ x, result = .ok x → Q x

/-- A run that changes nothing but a framework's own keys, depends on no others, and yields
something with a property if it does not fail. -/
def Domestic (name : String) (s : Surroundings) (Q : α → Prop) (m : Run α) : Prop :=
  ∀ ⦃w⦄, Home name w → Leaves name Q w (m s w).1 (m s w).2 ∧
    ∀ ⦃on⦄, Key.Cover name on → ∀ ⦃w'⦄, w.SameOn on w' →
      (m s w').1 = (m s w).1 ∧ (m s w).2.SameOn on (m s w').2

/-- A domestic run of which nothing more is known. -/
abbrev Homely (name : String) (s : Surroundings) (m : Run α) : Prop :=
  Domestic name s (fun _ => True) m

namespace Domestic

theorem pure {x : α} (hx : Q x) : Domestic name s Q (Pure.pure x) := by
  refine fun w hhome => ⟨⟨hhome, fun _ _ => rfl, ?_⟩, fun on _ w' hsame => ⟨rfl, hsame⟩⟩
  rintro _ ⟨⟩
  exact hx

theorem fail (e : Fault) : Domestic name s Q (Run.fail e : Run α) :=
  fun _ hhome => ⟨⟨hhome, fun _ _ => rfl, nofun⟩, fun _ _ _ hsame => ⟨rfl, hsame⟩⟩

theorem ofExcept (x : Except Fault α) : Homely name s (Run.ofExcept x) := by
  cases x with
  | error e => exact .fail e
  | ok x => exact .pure trivial

theorem bind {R : β → Prop} {m : Run α} {f : α → Run β} (hm : Domestic name s P m)
    (hf : ∀ x, P x → Domestic name s R (f x)) : Domestic name s R (m >>= f) := by
  intro w hhome
  obtain ⟨⟨hhome₁, hothers, hholds⟩, hsame⟩ := hm hhome
  cases hrun : m s w with
  | mk result w₁ =>
    rw [hrun] at hhome₁ hothers hholds hsame
    cases result with
    | error e =>
      rw [bind_of_error hrun]
      refine ⟨⟨hhome₁, hothers, nofun⟩, fun on hon w' hw' => ?_⟩
      obtain ⟨hresult, hworld⟩ := hsame hon hw'
      have hrun' : m s w' = (.error e, (m s w').2) := Prod.ext hresult rfl
      rw [bind_of_error hrun']
      exact ⟨rfl, hworld⟩
    | ok x =>
      obtain ⟨hleaves, hnext⟩ := hf x (hholds x rfl) hhome₁
      rw [bind_of_ok hrun]
      refine ⟨⟨hleaves.home, fun key hkey => (hleaves.others hkey).trans (hothers hkey),
        hleaves.holds⟩, fun on hon w' hw' => ?_⟩
      obtain ⟨hresult, hworld⟩ := hsame hon hw'
      have hrun' : m s w' = (.ok x, (m s w').2) := Prod.ext hresult rfl
      rw [bind_of_ok hrun']
      exact hnext hon hworld

theorem attempt {m : Run α} (hm : Domestic name s Q m) : Homely name s (Run.attempt m) := by
  intro w hhome
  obtain ⟨hleaves, hsame⟩ := hm hhome
  refine ⟨⟨hleaves.home, hleaves.others, fun _ _ => trivial⟩, fun on hon w' hw' => ?_⟩
  obtain ⟨hresult, hworld⟩ := hsame hon hw'
  exact ⟨congrArg Except.ok hresult, hworld⟩

/-- What is made of the result makes no difference. -/
theorem result {m : Run α} (hm : Domestic name s P m) (f : α → β) :
    Homely name s (m >>= fun x => Pure.pure (f x)) :=
  hm.bind fun _ _ => .pure trivial

theorem withLock (id : String) {body : Run α} (hbody : Domestic name s Q body) :
    Domestic name s Q (Run.withLock id body) := by
  intro w hhome
  have hhome' : Home name { w with locks := (w.locks.request id).2 } :=
    ⟨hhome.framework, hhome.config, hhome.housed⟩
  obtain ⟨⟨hhome₁, hothers, hholds⟩, hsame⟩ := hbody hhome'
  refine ⟨⟨⟨hhome₁.framework, hhome₁.config, hhome₁.housed⟩, hothers, hholds⟩, ?_⟩
  rintro on hon _ ⟨hstored, hcalled⟩
  obtain ⟨hresult, hworld⟩ := hsame hon (.intro hstored hcalled)
  exact ⟨hresult, hworld.release _⟩

end Domestic

/-! ### Steps that do not reach the store -/

/-- A run that neither looks at the store nor changes it, nor says anything to the manager. -/
structure Aloof (s : Surroundings) (m : Run α) : Prop where
  same : ∀ w store issued, m s { w with store := store, issued := issued } =
    ((m s w).1, { (m s w).2 with store := store, issued := issued })
  framework : ∀ w, (m s w).2.framework = w.framework
  config : ∀ w, (m s w).2.config.current.framework.name = w.config.current.framework.name

theorem Aloof.domestic {m : Run α} (h : Aloof s m)
    (hholds : ∀ {w}, Home name w → ∀ x, (m s w).1 = .ok x → Q x) : Domestic name s Q m := by
  intro w hhome
  have hstore : (m s w).2.store = w.store := congrArg (·.2.store) (h.same w w.store w.issued)
  have hissued : (m s w).2.issued = w.issued := congrArg (·.2.issued) (h.same w w.store w.issued)
  constructor
  · constructor
    · constructor
      · rw [h.framework, hhome.framework]
      · rw [h.config, hhome.config]
      · rw [hstore]
        exact hhome.housed
    · rw [hstore]
      exact fun _ _ => rfl
    · exact hholds hhome
  · rintro on - _ ⟨hstored, hcalled⟩
    rw [h.same]
    rw [← hstore] at hstored
    rw [← hissued] at hcalled
    exact ⟨rfl, .intro hstored hcalled⟩

theorem Aloof.homely {m : Run α} (h : Aloof s m) : Homely name s m :=
  h.domestic fun _ _ _ => trivial

theorem aloof_look {f : World → α}
    (hf : ∀ w store issued, f { w with store := store, issued := issued } = f w) :
    Aloof s (look f) :=
  ⟨fun w store issued => congrArg (fun x => (Except.ok x, _)) (hf w store issued),
    fun _ => rfl, fun _ => rfl⟩

theorem homely_now : Homely name s now :=
  Aloof.homely ⟨fun _ _ _ => rfl, fun _ => rfl, fun _ => rfl⟩

theorem homely_drawId : Homely name s drawId :=
  Aloof.homely ⟨fun _ _ _ => rfl, fun _ => rfl, fun _ => rfl⟩

theorem homely_askDatastore (running : List TaskRecord) : Homely name s (askDatastore running) :=
  Aloof.homely ⟨fun _ _ _ => rfl, fun _ => rfl, fun _ => rfl⟩

theorem homely_askServer (cfg : Config) : Homely name s (askServer cfg) :=
  Aloof.homely ⟨fun _ _ _ => rfl, fun _ => rfl, fun _ => rfl⟩

theorem homely_rememberSuppressed (suppressed : Bool) :
    Homely name s (rememberSuppressed suppressed) :=
  Aloof.homely ⟨fun _ _ _ => rfl, fun _ => rfl, fun _ => rfl⟩

theorem homely_configure {f : ConfigHandle → ConfigHandle}
    (hf : ∀ handle : ConfigHandle, handle.current.SameNeeds (f handle).current) :
    Homely name s (configure f) :=
  Aloof.homely ⟨fun _ _ _ => rfl, fun _ => rfl, fun w => (hf w.config).name⟩

theorem homely_look {f : World → α}
    (hf : ∀ w store issued, f { w with store := store, issued := issued } = f w) :
    Homely name s (look f) :=
  (aloof_look hf).homely

theorem homely_consultList (reason? : Surroundings → Nat → Option String) {f : World → α × World}
    (hf : ∀ w store issued, f { w with store := store, issued := issued } =
      ((f w).1, { (f w).2 with store := store, issued := issued }))
    (hframework : ∀ w, (f w).2.framework = w.framework)
    (hconfig : ∀ w, (f w).2.config = w.config) : Homely name s (consultList reason? f) := by
  refine Aloof.homely ⟨fun w store issued => ?_, fun w => ?_, fun w => ?_⟩ <;>
    unfold consultList <;> dsimp only <;> cases reason? s w.tally.nodes
  · simp only [hf { w with tally.nodes := w.tally.nodes + 1 } store issued]
  · rfl
  · exact hframework _
  · rfl
  · simp only [hconfig]
  · rfl

theorem domestic_snapshot :
    Domestic name s (fun cfg : Config => cfg.framework.name = name) snapshot := by
  refine (aloof_look fun _ _ _ => rfl).domestic fun {w} hhome cfg hcfg => ?_
  rw [← Except.ok.inj hcfg]
  exact hhome.config

/-- What is done under the name of the framework is done under this name. -/
theorem Domestic.named {f : String → Run α} (h : Domestic name s Q (f name)) :
    Domestic name s Q (Access.framework >>= f) := by
  have hname : Domestic name s (· = name) (Access.framework : Run String) := by
    refine (aloof_look fun _ _ _ => rfl).domestic fun {w} hhome own hown => ?_
    rw [← Except.ok.inj hown]
    exact hhome.framework
  refine hname.bind fun own hown => ?_
  rw [hown]
  exact h

/-! ### The store and the manager -/

/-- A read that depends on own keys only. -/
theorem domestic_read {f : Memory → α}
    (hf : ∀ {store store' : Memory}, store.SameOn (Key.Under name) store' → f store' = f store)
    (hholds : ∀ {store}, Housed name store → Q (f store)) : Domestic name s Q (read f) := by
  intro w hhome
  have hhome' : Home name { w with tally.reads := w.tally.reads + 1 } :=
    ⟨hhome.framework, hhome.config, hhome.housed⟩
  unfold read
  dsimp only
  cases hfault : s.readFault w.tally.reads with
  | some reason =>
    refine ⟨⟨hhome', fun _ _ => rfl, nofun⟩, ?_⟩
    rintro on hon _ ⟨hstored, hcalled⟩
    simp only [hfault]
    exact ⟨trivial, .intro hstored hcalled⟩
  | none =>
    refine ⟨⟨hhome', fun _ _ => rfl, ?_⟩, ?_⟩
    · rintro _ ⟨⟩
      exact hholds hhome.housed
    · rintro on hon _ ⟨hstored, hcalled⟩
      simp only [hfault]
      exact ⟨congrArg Except.ok (hf fun _ hkey => hstored (hon hkey)), .intro hstored hcalled⟩

/-- A write of an own key. -/
theorem homely_write {f : Memory → α × Memory} {key : String} (hkey : Key.Under name key)
    (hothers : ∀ {store other}, other ≠ key → (f store).2.get? other = store.get? other)
    (hhoused : ∀ {store}, Housed name store → Housed name (f store).2)
    (hsame : ∀ {on} {store store' : Memory}, on key → store.SameOn on store' →
      (f store').1 = (f store).1 ∧ (f store).2.SameOn on (f store').2) :
    Homely name s (write f) := by
  intro w hhome
  unfold write
  dsimp only
  cases hfault : s.writeFault w.tally.writes with
  | some reason =>
    refine ⟨⟨⟨hhome.framework, hhome.config, hhome.housed⟩, fun _ _ => rfl, nofun⟩, ?_⟩
    rintro on hon _ ⟨hstored, hcalled⟩
    simp only [hfault]
    exact ⟨trivial, .intro hstored hcalled⟩
  | none =>
    refine ⟨⟨⟨hhome.framework, hhome.config, hhoused hhome.housed⟩, ?_, fun _ _ => trivial⟩, ?_⟩
    · intro other hother
      exact hothers fun heq => hother (heq ▸ hkey)
    · rintro on hon _ ⟨hstored, hcalled⟩
      simp only [hfault]
      obtain ⟨hresult, hstored'⟩ := hsame (hon hkey) hstored
      exact ⟨congrArg Except.ok hresult, .intro hstored' hcalled⟩

theorem homely_getValue {key : String} (hkey : Key.Under name key) :
    Homely name s (Access.getValue key : Run _) :=
  domestic_read (fun hsame => hsame hkey) fun _ => trivial

theorem domestic_scanKeys {start : String} (hstart : Key.Under name start) :
    Domestic name s (fun keys => ∀ key ∈ keys, Key.Under name key)
      (Access.scanKeys start : Run _) := by
  refine domestic_read (fun hsame => ?_) fun _ key hkey => ?_
  · exact Memory.scan_congr fun key hbegins => hsame (Key.under_of_beginsWith hstart hbegins)
  · exact Key.under_of_beginsWith hstart (Memory.mem_scan_iff.1 hkey).2

theorem homely_setValue {key text : String} (hkey : Key.Under name key)
    (hfits : Fitting name key text) : Homely name s (Access.setValue key text : Run Unit) :=
  homely_write hkey (fun hother => KeyMap.get?_insert_of_ne hother)
    (fun hhoused => hhoused.set hfits) fun _ hsame => ⟨rfl, hsame.set key text⟩

theorem homely_deleteKey {key : String} (hkey : Key.Under name key) :
    Homely name s (Access.deleteKey key : Run Bool) := by
  refine homely_write hkey (fun hother => KeyMap.get?_erase_of_ne hother)
    (fun hhoused => hhoused.erase key) fun hon hsame => ⟨?_, hsame.erase key⟩
  exact congrArg Option.isSome (hsame hon)

theorem homely_call (c : Call) : Homely name s (call c) := by
  intro w hhome
  unfold call
  dsimp only
  have hissue : ∀ {on : String → Prop} {store : Memory}, w.store.SameOn on store →
      List.Forall₂ (Issue.SameOn on) [⟨c, s.delivery w.tally.calls c, w.store⟩]
        [⟨c, s.delivery w.tally.calls c, store⟩] :=
    fun hstored => .cons ⟨rfl, rfl, hstored⟩ .nil
  cases hdelivery : s.delivery w.tally.calls c
  all_goals
    rw [hdelivery] at hissue
    refine ⟨⟨⟨hhome.framework, hhome.config, hhome.housed⟩, fun _ _ => rfl, fun _ _ => trivial⟩, ?_⟩
    rintro on hon _ ⟨hstored, hcalled⟩
    simp only [hdelivery]
    exact ⟨trivial, .intro hstored (List.rel_append hcalled (hissue hstored))⟩

/-! ### Records -/

variable {γ : Type} [Json.Coded γ]

theorem domestic_loadAs {Q : Option γ → Prop} {key : String} (hkey : Key.Under name key)
    (hnone : Q none)
    (hsome : ∀ {store : Memory} {x}, Housed name store →
      (store.get? key).bind Records.ofStored? = some x → Q (some x)) :
    Domestic name s Q (Records.loadAs key) := by
  have hget : Domestic name s
      (fun stored => ∀ x, stored.bind Records.ofStored? = some x → Q (some x))
      (Access.getValue key : Run _) :=
    domestic_read (fun hsame => hsame hkey) fun hhoused x hx => hsome hhoused hx
  refine hget.bind fun stored hstored => ?_
  cases stored with
  | none => exact .pure hnone
  | some text =>
    cases htext : (Records.ofStored? text : Option γ) with
    | some x =>
      simp only [htext]
      exact .pure (hstored x htext)
    | none =>
      simp only [htext]
      exact .fail _

theorem homely_loadAs {key : String} (hkey : Key.Under name key) :
    Homely name s (Records.loadAs key : Run (Option γ)) :=
  domestic_loadAs hkey trivial fun _ _ => trivial

theorem homely_saveAs {key : String} {x : γ} (hkey : Key.Under name key)
    (hfits : Fitting name key (Json.encode x).render) :
    Homely name s (Records.saveAs key x : Run Unit) :=
  homely_setValue hkey hfits

/-- A look-up has found nothing, or a record that names an own key. -/
def Own (name : String) (found : Option TaskRecord) : Prop :=
  ∀ r, found = some r → Key.Under name r.storeKey

theorem own_none : Own name none :=
  fun _ h => nomatch h

theorem domestic_load (role : Role) (id : String) :
    Domestic name s (Own name) (Records.load role id) := by
  refine .named (domestic_loadAs Key.under_task own_none fun {store r} hhoused hr r' hr' => ?_)
  rw [← Option.some.inj hr']
  exact hhoused hr

theorem domestic_findIn (id : String) (roles : List Role) :
    Domestic name s (Own name) (Records.findIn id roles) := by
  induction roles with
  | nil => exact .pure own_none
  | cons role roles ih =>
    refine (domestic_load role id).bind fun found hfound => ?_
    cases found with
    | none => exact ih
    | some r => exact .pure hfound

theorem homely_save {r : TaskRecord} (hr : Key.Under name r.storeKey) :
    Homely name s (Records.save r : Run Unit) :=
  homely_saveAs hr (fitting_record hr)

theorem homely_remove (role : Role) (id : String) :
    Homely name s (Records.remove role id : Run Bool) :=
  .named (homely_deleteKey Key.under_task)

theorem homely_loadEach {keys : List String} (hkeys : ∀ key ∈ keys, Key.Under name key) :
    Homely name s (Records.loadEach keys) := by
  induction keys with
  | nil => exact .pure trivial
  | cons key keys ih =>
    rw [List.forall_mem_cons] at hkeys
    exact (homely_getValue hkeys.1).bind fun _ _ => (ih hkeys.2).result _

theorem homely_listRole (role : Role) : Homely name s (Records.listRole role) :=
  .named ((domestic_scanKeys Key.under_tasks).bind fun _ hkeys => (homely_loadEach hkeys).result _)

theorem homely_listRoles (roles : List Role) : Homely name s (Records.listRoles roles) := by
  induction roles with
  | nil => exact .pure trivial
  | cons role roles ih =>
    exact (homely_listRole role).bind fun _ _ => ih.result _

theorem homely_listAll : Homely name s Records.listAll :=
  homely_listRoles Role.all

theorem homely_identity : Homely name s Records.identity := by
  have hload : Homely name s (Records.loadAs (Key.identity name) : Run (Option Identity)) :=
    homely_loadAs Key.under_identity
  exact .named (hload.result _)

theorem homely_saveIdentity (identity : Identity) :
    Homely name s (Records.saveIdentity identity : Run Unit) :=
  .named (homely_saveAs Key.under_identity fitting_identity)

theorem homely_settings : Homely name s Records.settings := by
  have hload : Homely name s (Records.loadAs (Key.settings name) : Run (Option Settings)) :=
    homely_loadAs Key.under_settings
  exact .named (hload.result _)

theorem homely_saveSettings (settings : Settings) :
    Homely name s (Records.saveSettings settings : Run Unit) :=
  .named (homely_saveAs Key.under_settings fitting_settings)

/-! ### Nodes -/

theorem homely_loadEachNode {start : String} {keys : List String}
    (hkeys : ∀ key ∈ keys, Key.Under name key) : Homely name s (Nodes.loadEach start keys) := by
  induction keys with
  | nil => exact .pure trivial
  | cons key keys ih =>
    rw [List.forall_mem_cons] at hkeys
    exact (homely_getValue hkeys.1).bind fun _ _ => (ih hkeys.2).result _

theorem homely_list : Homely name s (Nodes.list : Run (List Node)) :=
  .named ((domestic_scanKeys Key.under_nodes).bind fun _ hkeys => homely_loadEachNode hkeys)

theorem homely_forget (node : String) : Homely name s (Nodes.forget node : Run Unit) :=
  .named ((homely_deleteKey Key.under_node).result _)

end Run

end Scheduling

end Stevedore
