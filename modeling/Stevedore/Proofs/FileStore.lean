import Stevedore.Proofs.KeyMap
import Stevedore.Proofs.MapText
import Stevedore.Store.Access

/-!
# A store in a file against a store in memory

A store in a file answers what a store in memory answers that is asked only what was granted
(`file_refines_memory`). What carries it is that the file always holds the map that is kept to serve
reads (`FileStore.Faithful`): the file beside it plays no part when the store is opened, so that
nothing is different before the new file takes the place of the old one, and everything after.
-/

namespace Stevedore

namespace Store

/-! ### Runs -/

/-- What is asked of a store. -/
inductive Request where
  /-- The value under a key. -/
  | get (key : String)
  /-- Put a value under a key. -/
  | set (key value : String)
  /-- Remove a key. -/
  | delete (key : String)
  /-- The keys that begin with a text. -/
  | scan (start : String)
  /-- How many keys begin with a text. -/
  | count (start : String)
  deriving DecidableEq, Repr

/-- What a store answers. -/
inductive Answer where
  /-- The value that was looked for. -/
  | value (found : Option String)
  /-- The value has been put. -/
  | done
  /-- The key has been removed, or was not there. -/
  | deleted (there : Bool)
  /-- The keys that were looked for. -/
  | keys (found : List String)
  /-- How many there are. -/
  | number (n : Nat)
  deriving DecidableEq, Repr

/-- Whether a request changes what a store holds, so that a file has to be written. -/
def Request.writes (m : Memory) : Request → Bool
  | set _ _ => true
  | delete key => m.contains key
  | _ => false

/-- A request, and what goes wrong with a disk while it is served. -/
structure Demand where
  /-- What is asked. -/
  request : Request
  /-- What goes wrong, if anything does. -/
  mishap : Option Mishap
  deriving DecidableEq, Repr

/-- Do what is asked. -/
def perform (s : Store) : Request → Except Fault Answer × Store
  | .get key => (.ok (.value (s.get key)), s)
  | .set key value => ((s.set key value).1.map fun _ => .done, (s.set key value).2)
  | .delete key => ((s.delete key).1.map .deleted, (s.delete key).2)
  | .scan start => (.ok (.keys (s.scan start)), s)
  | .count start => (.ok (.number (s.count start)), s)

/-- The store with something, or nothing, going wrong on its disk. -/
def FileStore.hinder (f : FileStore) (mishap : Option Mishap) : FileStore :=
  { f with disk := { f.disk with mishap } }

/-- The store with something, or nothing, going wrong on its disk; a store in memory has none. -/
def hinder (s : Store) (mishap : Option Mishap) : Store :=
  match s with
  | memory m => memory m
  | file f => file (f.hinder mishap)

/-- Meet a demand. -/
def serve (s : Store) (d : Demand) : Except Fault Answer × Store :=
  (s.hinder d.mishap).perform d.request

/-- Meet demands one after another, and keep a log of them with their answers. -/
def run (s : Store) : List Demand → List (Demand × Except Fault Answer) × Store
  | [] => ([], s)
  | d :: ds =>
    let (answer, s) := s.serve d
    let (log, s) := s.run ds
    ((d, answer) :: log, s)

/-- Whether a demand was granted. -/
def granted (e : Demand × Except Fault Answer) : Bool :=
  match e.2 with
  | .ok _ => true
  | .error _ => false

/-! ### Writing -/

/-- A file is replaced, or what is left is the old file and something beside it. -/
theorem Disk.replace_cases (d : Disk) (text : String) :
    (d.mishap = none ∧ d.replace text = (.ok (), (d.stage text).rename)) ∨
      ∃ e left, d.mishap = some e ∧ d.replace text = (.error e, { d with staged := left }) := by
  obtain ⟨path, file, staged, mishap⟩ := d
  cases mishap with
  | none => exact .inl ⟨rfl, rfl⟩
  | some e =>
    right
    cases e with
    | directory => exact ⟨_, staged, rfl, rfl⟩
    | staging left => exact ⟨_, left, rfl, rfl⟩
    | replacing => exact ⟨_, some text, rfl, rfl⟩

/-- A file, if there is one, holds a map. -/
def Holds (file : Option String) (m : Memory) : Prop :=
  match file with
  | none => m = ∅
  | some text => ofDocument? text = some m

namespace FileStore

/-- The file holds the map that is kept to serve reads. -/
def Faithful (f : FileStore) : Prop := Holds f.disk.file f.map

/-- Nothing but the store's file counts when a store is opened. -/
theorem ofDisk_eq_ok_iff {d : Disk} {f : FileStore} :
    ofDisk d = .ok f ↔ f.disk = d ∧ Holds d.file f.map := by
  obtain ⟨disk, m⟩ := f
  unfold ofDisk Holds
  cases d.file with
  | none => simp [eq_comm]
  | some text => cases hdocument : ofDocument? text <;> simp [hdocument, eq_comm]

theorem write_cases (f : FileStore) (m : Memory) :
    (f.disk.mishap = none ∧ ∃ g : FileStore, f.write m = (.ok (), g) ∧ g.map = m ∧ g.Faithful) ∨
      ∃ e, ∃ g : FileStore, f.disk.mishap = some e ∧
        f.write m = (.error (.unavailable e.message), g) ∧ g.map = f.map ∧
        g.disk.file = f.disk.file := by
  unfold write
  rcases f.disk.replace_cases (document m) with ⟨hnone, hreplace⟩ | ⟨e, left, hsome, hreplace⟩
  · left
    rw [hreplace]
    exact ⟨hnone, _, rfl, rfl, ofDocument?_document m⟩
  · right
    rw [hreplace]
    exact ⟨e, _, hsome, rfl, rfl, rfl⟩

theorem delete_of_contains {f : FileStore} {key : String} (h : f.map.contains key = true) :
    f.delete key =
      ((f.write (f.map.erase key)).1.map fun _ => true, (f.write (f.map.erase key)).2) := by
  rw [delete, if_pos h]
  rcases f.write (f.map.erase key) with ⟨e | u, g⟩ <;> rfl

theorem delete_of_not_contains {f : FileStore} {key : String} (h : f.map.contains key = false) :
    f.delete key = (.ok false, f) := by
  rw [delete, h, if_neg Bool.false_ne_true]

/-! ### Scans -/

/-- Picking the keys one by one finds what reading a range of them finds. -/
theorem scan_eq (f : FileStore) (start : String) : f.scan start = f.map.scan start :=
  (Memory.scan_eq_filter f.map start).symm

theorem count_eq (f : FileStore) (start : String) : f.count start = f.map.count start := by
  rw [count, scan_eq, Memory.length_scan]

theorem ascending_scan (f : FileStore) (start : String) : (f.scan start).Pairwise (· < ·) := by
  rw [scan_eq]
  exact f.map.ascending_scan start

end FileStore

/-! ### One demand -/

section Demand

variable {f g : FileStore} {d : Demand} {answer : Except Fault Answer}

/-- A demand is granted with the answer of a store in memory that holds the same, and then both
hold the same again. -/
structure Granted (f : FileStore) (d : Demand) (answer : Except Fault Answer) (g : FileStore) :
    Prop where
  unhindered : d.request.writes f.map = true → d.mishap = none
  answered : ∃ x, answer = .ok x ∧ (memory f.map).serve d = (.ok x, memory g.map)
  faithful : g.Faithful

/-- A demand is refused because a file has to be written and cannot be, and nothing changes. -/
structure Refused (f : FileStore) (d : Demand) (answer : Except Fault Answer) (g : FileStore) :
    Prop where
  writes : d.request.writes f.map = true
  hindered : d.mishap ≠ none
  error : ∃ e, answer = .error e
  map : g.map = f.map
  file : g.disk.file = f.disk.file

/-- A request for which the file is written. -/
theorem serve_cases_of_write {m : Memory} {x : Answer} (hwrites : d.request.writes f.map = true)
    (hfile : (file f).serve d =
      (((f.hinder d.mishap).write m).1.map fun _ => x, file ((f.hinder d.mishap).write m).2))
    (hmemory : (memory f.map).serve d = (.ok x, memory m)) :
    ∃ answer g, (file f).serve d = (answer, file g) ∧
      (Granted f d answer g ∨ Refused f d answer g) := by
  rw [hfile]
  rcases (f.hinder d.mishap).write_cases m with
    ⟨hnone, g, hwrite, rfl, hg⟩ | ⟨e, g, hsome, hwrite, hmap, hkept⟩
  · rw [hwrite]
    exact ⟨_, g, rfl, .inl ⟨fun _ => hnone, ⟨x, rfl, hmemory⟩, hg⟩⟩
  · have hmishap : d.mishap = some e := hsome
    rw [hwrite]
    exact ⟨_, g, rfl, .inr ⟨hwrites, by simp [hmishap], ⟨_, rfl⟩, hmap, hkept⟩⟩

/-- **Meeting one demand**: it is granted or refused. -/
theorem serve_cases (hf : f.Faithful) (d : Demand) :
    ∃ answer g, (file f).serve d = (answer, file g) ∧
      (Granted f d answer g ∨ Refused f d answer g) := by
  obtain ⟨request, mishap⟩ := d
  set h : FileStore := f.hinder mishap
  have hh : h.Faithful := hf
  -- a request that only reads
  have hreads : ∀ {p : Prop}, false = true → p := fun hwrites => absurd hwrites Bool.false_ne_true
  cases request with
  | get key => exact ⟨_, h, rfl, .inl ⟨hreads, ⟨_, rfl, rfl⟩, hh⟩⟩
  | scan start =>
    refine ⟨.ok (.keys (h.scan start)), h, rfl, .inl ⟨hreads, ⟨_, rfl, ?_⟩, hh⟩⟩
    rw [FileStore.scan_eq]
    rfl
  | count start =>
    refine ⟨.ok (.number (h.count start)), h, rfl, .inl ⟨hreads, ⟨_, rfl, ?_⟩, hh⟩⟩
    rw [FileStore.count_eq]
    rfl
  | set key value => exact serve_cases_of_write rfl rfl rfl
  | delete key =>
    have hfile : (file f).serve ⟨.delete key, mishap⟩ =
        ((h.delete key).1.map .deleted, file (h.delete key).2) := rfl
    have hmemory : (memory f.map).serve ⟨.delete key, mishap⟩ =
        (.ok (.deleted (f.map.contains key)), memory (f.map.erase key)) := rfl
    cases hthere : f.map.contains key with
    | true =>
      rw [FileStore.delete_of_contains (f := h) hthere] at hfile
      rw [hthere] at hmemory
      have hmap (r : Except Fault Unit) :
          (r.map fun _ => true).map Answer.deleted = r.map fun _ => .deleted true := by
        cases r <;> rfl
      exact serve_cases_of_write hthere (hfile.trans (Prod.ext (hmap _) rfl)) hmemory
    | false =>
      rw [FileStore.delete_of_not_contains (f := h) hthere] at hfile
      rw [hthere, KeyMap.erase_of_not_contains hthere] at hmemory
      refine ⟨_, h, hfile, .inl ⟨?_, ⟨_, rfl, hmemory⟩, hh⟩⟩
      intro hwrites
      rw [Request.writes, hthere] at hwrites
      cases hwrites

theorem Refused.faithful (h : Refused f d answer g) (hf : f.Faithful) : g.Faithful := by
  show Holds g.disk.file g.map
  rw [h.file, h.map]
  exact hf

end Demand

/-! ### Many demands -/

theorem run_cons {s t : Store} {d : Demand} {answer : Except Fault Answer}
    (h : s.serve d = (answer, t)) (ds : List Demand) :
    s.run (d :: ds) = ((d, answer) :: (t.run ds).1, (t.run ds).2) := by
  rw [run, h]

/-- **A run of a store in a file** is, less what is refused, the run of a store in memory. -/
theorem run_file {f : FileStore} (hf : f.Faithful) (ds : List Demand) :
    ∃ log g, (file f).run ds = (log, file g) ∧ g.Faithful ∧ log.map (·.1) = ds ∧
      (memory f.map).run ((log.filter granted).map (·.1)) =
        (log.filter granted, memory g.map) := by
  induction ds generalizing f with
  | nil => exact ⟨[], f, rfl, hf, rfl, rfl⟩
  | cons d ds ih =>
    obtain ⟨answer, g, hserve, hcases⟩ := serve_cases hf d
    have hg : g.Faithful := hcases.elim Granted.faithful fun h => h.faithful hf
    obtain ⟨log, g', hrun, hg', hdemands, hmemory⟩ := ih hg
    refine ⟨(d, answer) :: log, g', ?_, hg', ?_, ?_⟩
    · rw [run_cons hserve, hrun]
    · rw [List.map_cons, hdemands]
    · rcases hcases with hgranted | hrefused
      · obtain ⟨x, rfl, hx⟩ := hgranted.answered
        rw [List.filter_cons_of_pos rfl, List.map_cons, run_cons hx, hmemory]
      · obtain ⟨e, rfl⟩ := hrefused.error
        rw [List.filter_cons_of_neg (by simp [granted]), ← hrefused.map]
        exact hmemory

/-- **A store in a file against a store in memory.** Whatever is asked of a store that was opened
on a disk, and whatever goes wrong with each request:
* a store in memory that is asked only what was granted answers the same and ends with the same
  map;
* opening the store again gives that map, whatever stands beside the store's file: in particular
  on `g.disk.stage text`, which is the disk when a new text has been written and has not yet taken
  the place of the old one;
* keys are found alike, however they are looked for, and in ascending order;
* a request is refused exactly if it has to write and something goes wrong, and then neither the
  map nor the store's file changes. -/
theorem file_refines_memory {d : Disk} {f : FileStore} (hopen : FileStore.ofDisk d = .ok f)
    (demands : List Demand) :
    ∃ log g, (file f).run demands = (log, file g) ∧ log.map (·.1) = demands ∧
      (memory f.map).run ((log.filter granted).map (·.1)) =
        (log.filter granted, memory g.map) ∧
      (∀ staged mishap, FileStore.ofDisk { g.disk with staged, mishap } =
        .ok ⟨{ g.disk with staged, mishap }, g.map⟩) ∧
      (∀ start, g.scan start = g.map.scan start ∧ g.count start = g.map.count start ∧
        (g.scan start).Pairwise (· < ·)) ∧
      ∀ next : Demand, ∃ answer g', (file g).serve next = (answer, file g') ∧
        ((∃ e, answer = .error e) ↔ next.request.writes g.map = true ∧ next.mishap ≠ none) ∧
        ((∃ e, answer = .error e) → g'.map = g.map ∧ g'.disk.file = g.disk.file) := by
  obtain ⟨rfl, hf⟩ := FileStore.ofDisk_eq_ok_iff.1 hopen
  obtain ⟨log, g, hrun, hg, hdemands, hmemory⟩ := run_file hf demands
  refine ⟨log, g, hrun, hdemands, hmemory, ?_, ?_, ?_⟩
  · intro staged mishap
    exact FileStore.ofDisk_eq_ok_iff.2 ⟨rfl, hg⟩
  · intro start
    exact ⟨g.scan_eq start, g.count_eq start, g.ascending_scan start⟩
  · intro next
    obtain ⟨answer, g', hserve, hgranted | hrefused⟩ := serve_cases hg next
    · obtain ⟨x, rfl, -⟩ := hgranted.answered
      have hgiven : ¬ ∃ e, (.ok x : Except Fault Answer) = .error e := by
        rintro ⟨e, he⟩
        cases he
      refine ⟨_, g', hserve, ?_, fun herror => absurd herror hgiven⟩
      constructor
      · exact fun herror => absurd herror hgiven
      · rintro ⟨hwrites, hmishap⟩
        exact absurd (hgranted.unhindered hwrites) hmishap
    · refine ⟨_, g', hserve, ?_, fun _ => ⟨hrefused.map, hrefused.file⟩⟩
      exact ⟨fun _ => ⟨hrefused.writes, hrefused.hindered⟩, fun _ => hrefused.error⟩

/-- A change and a removal meet a mishap; four requests are granted, the removal of a key that is
not there among them. -/
theorem two_refused_of_six :
    let d : Disk := ⟨"state.json", some "\x7b\"b\":\"2\"\x7d", some "\x7b", none⟩
    let demands : List Demand :=
      [⟨.set "a" "1", some .replacing⟩, ⟨.set "ba" "3", none⟩, ⟨.delete "b", some (.staging none)⟩,
        ⟨.delete "c", some .directory⟩, ⟨.scan "b", none⟩, ⟨.get "a", none⟩]
    ∃ f, FileStore.ofDisk d = .ok f ∧ ∃ log g, (file f).run demands = (log, file g) ∧
      (log.filter granted).length = 4 ∧ g.map = .ofList [("b", "2"), ("ba", "3")] ∧
      FileStore.ofDisk (g.disk.stage "") = .ok ⟨g.disk.stage "", g.map⟩ := by
  intro d demands
  have hopen : FileStore.ofDisk d = .ok ⟨d, .ofList [("b", "2")]⟩ := by decide +kernel
  obtain ⟨log, g, hrun, -, -, hreopen, -⟩ := file_refines_memory hopen demands
  have hlog : (((file ⟨d, .ofList [("b", "2")]⟩).run demands).1.filter granted).length = 4 := by
    decide +kernel
  have hmap : ((file ⟨d, .ofList [("b", "2")]⟩).run demands).2.entries =
      .ofList [("b", "2"), ("ba", "3")] := by decide +kernel
  rw [hrun] at hlog hmap
  exact ⟨_, hopen, log, g, hrun, hlog, hmap, hreopen (some "") g.disk.mishap⟩

end Store

end Stevedore
