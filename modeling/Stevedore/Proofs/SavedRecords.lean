import Stevedore.Proofs.FileStore
import Stevedore.Proofs.RecordAccess

/-!
# Saved records

What has been saved is found again as it was, whichever way it is looked for and whatever kind of
store it lies in, and nothing else has changed (`saved_is_found`). Of a task record this asks that
its amounts are finite, since a document has no form for others; all else in a record, and all of an
identity and of settings, is found in any case.
-/

namespace Stevedore

open Json (Coded encode)

/-- The amounts of which a record has doubles. -/
def TaskRecord.amounts (r : TaskRecord) : List Binary64 :=
  [r.resources.cpus, r.resources.mem, r.resources.disk] ++
    r.limits.toList.flatMap fun l => [l.cpus, l.mem]

theorem TaskRecord.finite_of_amounts {r : TaskRecord} (h : ∀ x ∈ r.amounts, x.isFinite = true) :
    r.Finite where
  cpus := h _ (by simp [amounts])
  mem := h _ (by simp [amounts])
  disk := h _ (by simp [amounts])
  limits l hl := ⟨h l.cpus (by simp [amounts, hl]), h l.mem (by simp [amounts, hl])⟩

namespace Store

open scoped List

variable {s s' : Store} {key value : String}

theorem get_eq (s : Store) (key : String) : s.get key = s.entries.get? key := by
  cases s <;> rfl

theorem scan_eq (s : Store) (start : String) : s.scan start = s.entries.scan start := by
  cases s with
  | memory m => rfl
  | file f => exact f.scan_eq start

/-- The records of a role after one has been put: it, and what lay under the other keys. -/
theorem Memory.roleRecords_put_perm (m : Memory) {r : TaskRecord}
    (hread : Records.ofStored? (encode r).render = some r) :
    ((m.put r).roleRecords r.framework r.role).Perm
      (r :: ((m.scan (Key.tasks r.framework r.role)).erase r.storeKey).filterMap m.record?) := by
  set start := Key.tasks r.framework r.role
  have hrecord : (m.put r).record? r.storeKey = some r := by rw [record?_put_self, hread]
  have hget (key : String) (h : key ≠ r.storeKey) : (m.put r).get? key = m.get? key :=
    KeyMap.get?_insert_of_ne h
  have hmem : r.storeKey ∈ (m.put r).scan start := by
    refine mem_scan_iff.2 ⟨?_, Key.beginsWith_task_iff.2 ⟨r.id, rfl⟩⟩
    rw [put, set, KeyMap.get?_insert_self]
    rfl
  have hothers : (((m.put r).scan start).erase r.storeKey).Perm
      ((m.scan start).erase r.storeKey) := by
    rw [List.perm_ext_iff_of_nodup ((nodup_scan _ _).erase _) ((nodup_scan _ _).erase _)]
    intro key
    rw [(nodup_scan _ _).mem_erase_iff, (nodup_scan _ _).mem_erase_iff, mem_scan_iff, mem_scan_iff]
    constructor
    · rintro ⟨hne, hkey, hbegins⟩
      exact ⟨hne, hget key hne ▸ hkey, hbegins⟩
    · rintro ⟨hne, hkey, hbegins⟩
      exact ⟨hne, (hget key hne).symm ▸ hkey, hbegins⟩
  have hsame : ((m.scan start).erase r.storeKey).filterMap (m.put r).record? =
      ((m.scan start).erase r.storeKey).filterMap m.record? := by
    refine List.filterMap_congr fun key hkey => record?_put_of_ne ?_
    exact ((nodup_scan m start).mem_erase_iff.1 hkey).1
  calc (m.put r).roleRecords r.framework r.role
    _ ~ ((m.put r).scan start).filterMap (m.put r).record? := List.mergeSort_perm _ _
    _ ~ (r.storeKey :: ((m.put r).scan start).erase r.storeKey).filterMap (m.put r).record? :=
        (List.perm_cons_erase hmem).filterMap _
    _ = r :: (((m.put r).scan start).erase r.storeKey).filterMap (m.put r).record? :=
        List.filterMap_cons_some hrecord
    _ ~ r :: ((m.scan start).erase r.storeKey).filterMap (m.put r).record? :=
        (hothers.filterMap _).cons r
    _ = r :: ((m.scan start).erase r.storeKey).filterMap m.record? := by rw [hsame]

theorem entries_of_set (h : s.set key value = (.ok (), s')) :
    s'.entries = s.entries.insert key value := by
  cases s with
  | memory m =>
    cases h
    rfl
  | file f =>
    have hset : (file f).set key value =
      ((f.write (f.map.insert key value)).1, file (f.write (f.map.insert key value)).2) := rfl
    rw [hset] at h
    rcases f.write_cases (f.map.insert key value) with
      ⟨-, g, hwrite, hmap, -⟩ | ⟨e, g, -, hwrite, -, -⟩
    · rw [hwrite] at h
      cases h
      exact hmap
    · rw [hwrite] at h
      cases h

end Store

namespace Ledger

variable {α β : Type} {name : String} {s s' : Store}

theorem bind_of_ok {a : Ledger α} {f : α → Ledger β} {x : α} (h : a name s = (.ok x, s')) :
    (a >>= f) name s = f x name s' := by
  show Ledger.bind a f name s = _
  rw [Ledger.bind, h]

/-! ### Looking up -/

theorem loadAs_of_get [Coded α] {key text : String} {x : α} (hget : s.get key = some text)
    (hx : Records.ofStored? text = some x) :
    (Records.loadAs key : Ledger (Option α)) name s = (.ok (some x), s) := by
  have hvalue : (Access.getValue key : Ledger (Option String)) name s = (.ok (some text), s) := by
    rw [← hget]
    rfl
  rw [Records.loadAs, bind_of_ok hvalue]
  simp only [hx]
  rfl

theorem loadAs_of_absent [Coded α] {key : String} (hget : s.get key = none) :
    (Records.loadAs key : Ledger (Option α)) name s = (.ok none, s) := by
  have hvalue : (Access.getValue key : Ledger (Option String)) name s = (.ok none, s) := by
    rw [← hget]
    rfl
  rw [Records.loadAs, bind_of_ok hvalue]
  rfl

/-- The record of a task is found by the id if only one role has something for it. -/
theorem findIn_of_load {role : Role} {id : String} {r : TaskRecord} {roles : List Role}
    (hrole : role ∈ roles)
    (hload : (Records.load role id : Ledger (Option TaskRecord)) name s = (.ok (some r), s))
    (hothers : ∀ other, other ≠ role → s.get (Key.task name other id) = none) :
    (Records.findIn id roles : Ledger (Option TaskRecord)) name s = (.ok (some r), s) := by
  induction roles with
  | nil => cases hrole
  | cons other rest ih =>
    rw [Records.findIn]
    by_cases heq : other = role
    · rw [heq, bind_of_ok hload]
      rfl
    · have habsent : (Records.load other id : Ledger (Option TaskRecord)) name s = (.ok none, s) :=
        loadAs_of_absent (hothers other heq)
      rw [bind_of_ok habsent]
      exact ih (List.mem_of_ne_of_mem (Ne.symm heq) hrole)

/-! ### Listing -/

theorem loadEach_eq (keys : List String) :
    (Records.loadEach keys : Ledger (List TaskRecord)) name s =
      (.ok (keys.filterMap s.entries.record?), s) := by
  induction keys with
  | nil => rfl
  | cons key keys ih =>
    have hvalue : (Access.getValue key : Ledger (Option String)) name s =
      (.ok (s.get key), s) := rfl
    rw [Records.loadEach, bind_of_ok hvalue, bind_of_ok ih, Store.get_eq]
    show (Except.ok (((s.entries.get? key).bind Records.ofStored?).toList ++ _), s) = _
    have hrecord : s.entries.record? key = (s.entries.get? key).bind Records.ofStored? := rfl
    rw [List.filterMap_cons, hrecord]
    cases ((s.entries.get? key).bind Records.ofStored? : Option TaskRecord) <;> rfl

theorem listRole_eq (role : Role) :
    (Records.listRole role : Ledger (List TaskRecord)) name s =
      (.ok (s.entries.roleRecords name role), s) := by
  have hname : (Access.framework : Ledger String) name s = (.ok name, s) := rfl
  have hkeys : (Access.scanKeys (Key.tasks name role) : Ledger (List String)) name s =
      (.ok (s.entries.scan (Key.tasks name role)), s) := by
    rw [← Store.scan_eq]
    rfl
  rw [Records.listRole, bind_of_ok hname, bind_of_ok hkeys, bind_of_ok (loadEach_eq _)]
  rfl

/-! ### Saving -/

/-- What is saved under a key is loaded from there, and no other key changes. -/
theorem loadAs_of_saveAs [Coded α] {key : String} {x : α}
    (hx : Records.ofStored? (encode x).render = some x)
    (h : (Records.saveAs key x : Ledger Unit) name s = (.ok (), s')) :
    (Records.loadAs key : Ledger (Option α)) name s' = (.ok (some x), s') ∧
      ∀ other, other ≠ key → s'.get other = s.get other := by
  have hentries : s'.entries = s.entries.insert key (encode x).render := Store.entries_of_set h
  constructor
  · refine loadAs_of_get ?_ hx
    rw [Store.get_eq, hentries, KeyMap.get?_insert_self]
  · intro other hne
    rw [Store.get_eq, Store.get_eq, hentries, KeyMap.get?_insert_of_ne hne]

/-- **What has been saved is found.** For every store, in memory or in a file, whatever it holds:
* a record of the framework whose amounts are finite is after its saving the one that is loaded by
  its role and id, that is found by its id if no other role has something for that id, and that is
  listed, next to what lay under the other keys of its role;
* so is the framework's identity, and so are its settings;
* and nothing under other keys has changed. -/
theorem saved_is_found (name : String) (s s' : Store) :
    (∀ r : TaskRecord, r.framework = name →
      (∀ x ∈ r.amounts, x.isFinite = true) →
      (Records.save r : Ledger Unit) name s = (.ok (), s') →
        (Records.load r.role r.id : Ledger (Option TaskRecord)) name s' = (.ok (some r), s') ∧
        ((∀ other, other ≠ r.role → s.get (Key.task name other r.id) = none) →
          (Records.find r.id : Ledger (Option TaskRecord)) name s' = (.ok (some r), s')) ∧
        (∃ rs, (Records.listRole r.role : Ledger (List TaskRecord)) name s' = (.ok rs, s') ∧
          rs.Perm (r :: ((s.scan (Key.tasks name r.role)).erase r.storeKey).filterMap
            s.entries.record?)) ∧
        ∀ key, key ≠ r.storeKey → s'.get key = s.get key) ∧
    (∀ i : Identity, (Records.saveIdentity i : Ledger Unit) name s = (.ok (), s') →
        (Records.identity : Ledger Identity) name s' = (.ok i, s') ∧
        ∀ key, key ≠ Key.identity name → s'.get key = s.get key) ∧
    (∀ x : Settings, (Records.saveSettings x : Ledger Unit) name s = (.ok (), s') →
        (Records.settings : Ledger Settings) name s' = (.ok x, s') ∧
        ∀ key, key ≠ Key.settings name → s'.get key = s.get key) := by
  have hname (t : Store) : (Access.framework : Ledger String) name t = (.ok name, t) := rfl
  refine ⟨?_, ?_, ?_⟩
  · rintro r rfl hamounts hsave
    have hread := Records.ofStored?_render_of_finite (TaskRecord.finite_of_amounts hamounts)
    obtain ⟨hload, hkept⟩ := loadAs_of_saveAs hread hsave
    refine ⟨hload, ?_, ⟨_, listRole_eq r.role, ?_⟩, hkept⟩
    · intro hothers
      refine findIn_of_load (by cases r.role <;> decide) hload ?_
      intro other hne
      rw [hkept _ fun heq => hne (Key.task_inj heq).1]
      exact hothers other hne
    · have hentries : s'.entries = s.entries.put r := Store.entries_of_set hsave
      rw [hentries, Store.scan_eq]
      exact s.entries.roleRecords_put_perm hread
  · intro i hsave
    have hread : Records.ofStored? (encode i).render = some i := by
      rw [Records.ofStored?_render, Json.readBack_eq]
    obtain ⟨hload, hkept⟩ := loadAs_of_saveAs hread hsave
    refine ⟨?_, hkept⟩
    rw [Records.identity, bind_of_ok (hname s'), bind_of_ok hload]
    rfl
  · intro x hsave
    have hread : Records.ofStored? (encode x).render = some x := by
      rw [Records.ofStored?_render, Json.readBack_eq]
    obtain ⟨hload, hkept⟩ := loadAs_of_saveAs hread hsave
    refine ⟨?_, hkept⟩
    rw [Records.settings, bind_of_ok (hname s'), bind_of_ok hload]
    rfl

/-- A server with limits, without a command and with a port left open is saved in a new file, and
so are an identity and settings, each with only one of its two parts. -/
theorem server_is_found_in_file :
    let s : Store := .file ⟨⟨"state.json", none, none, none⟩, ∅⟩
    let r : TaskRecord :=
      { id := "a-1", name := "keel:server", framework := "keel", workload := .server
        resources := ⟨.ofDecimal false 5 (-1), 512, 100⟩
        limits := some ⟨.ofDecimal false 15 (-1), 1024⟩
        container :=
          { image := "rancher/k3s", command := none, shell := false, arguments := ["server"]
            privileged := true, hostname := "", network := .user, networkName := some "mesosnet"
            ports := [.any 6443 "https"], parameters := []
            volumes := [⟨"/data", .readOnly, "local", "k3s"⟩], env := [⟨"TZ", "UTC"⟩], uris := []
            forcePull := false }
        discovery := ⟨"server", .external, []⟩
        labels := [], instances := 1, state := .staging, agentId := some "agent-1"
        agentHostname := none, address := none, createdAt := 1, updatedAt := 2 }
    ∃ s₁ s₂ s₃, (Records.save r : Ledger Unit) "keel" s = (.ok (), s₁) ∧
      (Records.find r.id : Ledger (Option TaskRecord)) "keel" s₁ = (.ok (some r), s₁) ∧
      (Records.saveIdentity ⟨some "f-1", none⟩ : Ledger Unit) "keel" s = (.ok (), s₂) ∧
      (Records.identity : Ledger Identity) "keel" s₂ = (.ok ⟨some "f-1", none⟩, s₂) ∧
      (Records.saveSettings ⟨none, some 6443⟩ : Ledger Unit) "keel" s = (.ok (), s₃) ∧
      (Records.settings : Ledger Settings) "keel" s₃ = (.ok ⟨none, some 6443⟩, s₃) := by
  intro s r
  have hamounts : ∀ x ∈ r.amounts, x.isFinite = true := by decide +kernel
  have hsave : (Records.save r : Ledger Unit) "keel" s =
    (.ok (), ((Records.save r : Ledger Unit) "keel" s).2) := rfl
  have hidentity : (Records.saveIdentity ⟨some "f-1", none⟩ : Ledger Unit) "keel" s =
    (.ok (), ((Records.saveIdentity ⟨some "f-1", none⟩ : Ledger Unit) "keel" s).2) := rfl
  have hsettings : (Records.saveSettings ⟨none, some 6443⟩ : Ledger Unit) "keel" s =
    (.ok (), ((Records.saveSettings ⟨none, some 6443⟩ : Ledger Unit) "keel" s).2) := rfl
  obtain ⟨-, hfind, -⟩ := (saved_is_found "keel" s _).1 r rfl hamounts hsave
  obtain ⟨hloaded, -⟩ := (saved_is_found "keel" s _).2.1 _ hidentity
  obtain ⟨hset, -⟩ := (saved_is_found "keel" s _).2.2 _ hsettings
  exact ⟨_, _, _, hsave, hfind fun _ _ => rfl, hidentity, hloaded, hsettings, hset⟩

end Ledger

end Stevedore
