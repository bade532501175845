import Stevedore.Proofs.RecordAccess

/-!
# What is read is finite

A document holds no number that is not finite: a number beyond the largest double is refused when it
is read. A record that has been found therefore asks for finite amounts, and can be saved and found
again (`Store.Memory.record?_put_of_found`).
-/

namespace Stevedore

/-- A whole number that fits a word is finite as a double. -/
theorem Binary64.isFinite_ofInt {n : Int} (hn : n.natAbs < wordLimit 64) :
    (ofInt n).isFinite = true := by
  have hbound : wordLimit 64 * one = unitsOfRank (1087 * binade) ∧ 1087 * binade < rankLimit := by
    decide +kernel
  have hle : n.natAbs * one ≤ unitsOfRank (1087 * binade) * 1 := by
    rw [Nat.mul_one, ← hbound.1]
    exact Nat.mul_le_mul_right one hn.le
  have hlt : nearestRank (n.natAbs * one) 1 < rankLimit :=
    (nearestRank_le Nat.one_pos hle).trans_lt hbound.2
  unfold ofInt nearest
  rw [dif_pos hlt]
  rfl

namespace Json

open Text (Symbol)

/-- A value whose whole numbers fit a word and whose other numbers are finite. -/
inductive Tame : Json → Prop
  | null : Tame .null
  | bool (b : Bool) : Tame (.bool b)
  | int {n : Int} (h : n.natAbs < wordLimit 64) : Tame (.int n)
  | real {x : Binary64} (h : x.isFinite = true) : Tame (.real x)
  | text (s : String) : Tame (.text s)
  | list {items : List Json} (h : ∀ j ∈ items, Tame j) : Tame (.list items)
  | object {members : List (String × Json)} (h : ∀ m ∈ members, Tame m.2) : Tame (.object members)
  | damaged : Tame .damaged

theorem tame_realOf (negative : Bool) (whole fraction : List Char) (exponent : Int) :
    Tame (realOf negative whole fraction exponent) := by
  unfold realOf
  dsimp only
  split
  · next hfinite => exact .real hfinite
  · exact .damaged

theorem tame_integerOf (negative : Bool) (whole : List Char) (n : Nat) :
    Tame (integerOf negative whole n) := by
  have hlimit : wordLimit 63 < wordLimit 64 := by decide
  unfold integerOf
  split
  · split
    · exact tame_realOf true whole [] 0
    · next hfits => exact .int (by omega)
  · split
    · next hfits => exact .int (by omega)
    · exact tame_realOf false whole [] 0

theorem tame_of_magnitude? {negative : Bool} {cs : List Char} {j : Json}
    (h : magnitude? negative cs = some j) : Tame j := by
  unfold magnitude? at h
  obtain ⟨whole, -, h⟩ := Option.bind_eq_some_iff.1 h
  split at h
  · obtain ⟨n, -, h⟩ := Option.bind_eq_some_iff.1 h
    cases h
    exact tame_integerOf negative whole n
  · dsimp only at h
    split at h
    · cases h
    · obtain ⟨exponent, -, h⟩ := Option.bind_eq_some_iff.1 h
      cases h
      exact tame_realOf _ _ _ _
  · obtain ⟨exponent, -, h⟩ := Option.bind_eq_some_iff.1 h
    cases h
    exact tame_realOf _ _ _ _

/-! ### Tokens -/

/-- A token whose value, if it has one, is tame. -/
def Token.IsTame (t : Token) : Prop :=
  ∀ j, t = .atom j → Tame j

theorem isTame_of_wordToken? {cs : List Char} {t : Token} (h : wordToken? cs = some t) :
    t.IsTame := by
  rintro j rfl
  unfold wordToken? at h
  split at h
  · cases h
    exact .null
  · split at h
    · cases h
      exact .bool true
    · split at h
      · cases h
        exact .bool false
      · obtain ⟨j', hj', heq⟩ := Option.map_eq_some_iff.1 h
        cases heq
        unfold number? at hj'
        split at hj' <;> exact tame_of_magnitude? hj'

theorem isTame_of_stringToken? {body : List Symbol} {t : Token} (h : stringToken? body = some t) :
    t.IsTame := by
  obtain ⟨ps, -, rfl⟩ := Option.map_eq_some_iff.1 h
  nofun

theorem isTame_of_start? {c : Char} {ts : List Token} {next : Scanning}
    (h : start? c = some (ts, next)) : ∀ t ∈ ts, t.IsTame := by
  have hnot : ∀ t ∈ ts, ∀ j, t ≠ .atom j := by
    unfold start? at h
    split at h
    case h_8 =>
      split at h
      · cases h
        simp
      · split at h
        · cases h
          simp
        · cases h
    all_goals
      cases h
      simp
  exact fun t ht j hj => absurd hj (hnot t ht j)

theorem isTame_of_scanStep? {state next : Scanning} {symbol : Symbol} {ts : List Token}
    (h : scanStep? state symbol = some (ts, next)) : ∀ t ∈ ts, t.IsTame := by
  unfold scanStep? at h
  split at h
  · exact isTame_of_start? h
  · cases h
  · cases h
    simp
  · split at h
    · obtain ⟨t, ht, heq⟩ := Option.map_eq_some_iff.1 h
      cases heq
      intro t' ht'
      rw [List.mem_singleton.1 ht']
      exact isTame_of_stringToken? ht
    · cases h
      simp
  · split at h
    · cases h
      simp
    · obtain ⟨t, ht, h⟩ := Option.bind_eq_some_iff.1 h
      obtain ⟨⟨ts', next'⟩, hstart, h⟩ := Option.bind_eq_some_iff.1 h
      cases h
      intro t' ht'
      rcases List.mem_cons.1 ht' with rfl | ht'
      · exact isTame_of_wordToken? ht
      · exact isTame_of_start? hstart t' ht'
  · cases h

theorem isTame_of_scanFrom {state : Scanning} {document : List Symbol} {ts : List Token}
    (h : scanFrom state document = some ts) : ∀ t ∈ ts, t.IsTame := by
  induction document generalizing state ts with
  | nil =>
    unfold scanFrom scanEnd? at h
    split at h
    · cases h
      simp
    · cases h
    · obtain ⟨t, ht, rfl⟩ := Option.map_eq_some_iff.1 h
      intro t' ht'
      rw [List.mem_singleton.1 ht']
      exact isTame_of_wordToken? ht
  | cons symbol rest ih =>
    unfold scanFrom at h
    split at h
    · cases h
    · exact ih h
    · next hstep =>
      obtain ⟨ts', hts', rfl⟩ := Option.map_eq_some_iff.1 h
      intro t ht
      rcases List.mem_append.1 ht with ht | ht
      · exact isTame_of_scanStep? hstep t ht
      · exact ih hts' t ht

/-! ### Values -/

/-- An open array or object whose parts are tame. -/
def Frame.IsTame : Frame → Prop
  | .list items => ∀ j ∈ items, Tame j
  | .object members _ _ => ∀ m ∈ members, Tame m.2

/-- A reader that has met nothing that is not tame. -/
def Reading.IsTame : Reading → Prop
  | .within _ stack => ∀ f ∈ stack, f.IsTame
  | .finished j => Tame j

theorem isTame_deliver {j : Json} (hj : Tame j) {stack : List Frame}
    (hstack : ∀ f ∈ stack, f.IsTame) : (deliver j stack).IsTame := by
  unfold deliver
  split
  · exact hj
  · next items stack =>
    rw [List.forall_mem_cons] at hstack
    exact List.forall_mem_cons.2 ⟨List.forall_mem_cons.2 ⟨hj, hstack.1⟩, hstack.2⟩
  · next members sound name stack =>
    rw [List.forall_mem_cons] at hstack
    exact List.forall_mem_cons.2 ⟨List.forall_mem_cons.2 ⟨hj, hstack.1⟩, hstack.2⟩
  · next members sound stack =>
    rw [List.forall_mem_cons] at hstack
    exact List.forall_mem_cons.2 ⟨hstack.1, hstack.2⟩

theorem tame_closed {members : List (String × Json)} (h : ∀ m ∈ members, Tame m.2) (sound : Bool) :
    Tame (closed members sound) := by
  unfold closed
  split
  · exact .object fun m hm => h m (List.mem_reverse.1 hm)
  · exact .damaged

theorem isTame_of_beginValue? {stack : List Frame} (hstack : ∀ f ∈ stack, f.IsTame) {t : Token}
    (ht : t.IsTame) {next : Reading} (h : beginValue? stack t = some next) : next.IsTame := by
  unfold beginValue? at h
  split at h
  · cases h
    exact isTame_deliver (ht _ rfl) hstack
  · cases h
    exact isTame_deliver (.text _) hstack
  · cases h
    exact isTame_deliver .damaged hstack
  · cases h
    exact List.forall_mem_cons.2 ⟨fun j hj => absurd hj List.not_mem_nil, hstack⟩
  · cases h
    exact List.forall_mem_cons.2 ⟨fun m hm => absurd hm List.not_mem_nil, hstack⟩
  · cases h

theorem isTame_of_beginMember? {stack : List Frame} (hstack : ∀ f ∈ stack, f.IsTame) {t : Token}
    {next : Reading} (h : beginMember? stack t = some next) : next.IsTame := by
  unfold beginMember? at h
  split at h
  · cases h
    obtain ⟨hmembers, hstack⟩ := List.forall_mem_cons.1 hstack
    exact List.forall_mem_cons.2 ⟨hmembers, hstack⟩
  · cases h

theorem isTame_of_readStep? {state next : Reading} {t : Token} (hstate : state.IsTame)
    (ht : t.IsTame) (h : readStep? state t = some next) : next.IsTame := by
  unfold readStep? at h
  split at h
  · exact isTame_of_beginValue? hstate ht h
  · next items stack =>
    cases h
    obtain ⟨hitems, hstack⟩ := List.forall_mem_cons.1 hstate
    exact isTame_deliver (.list fun j hj => hitems j (List.mem_reverse.1 hj)) hstack
  · exact isTame_of_beginValue? hstate ht h
  · next members sound name stack =>
    cases h
    obtain ⟨hmembers, hstack⟩ := List.forall_mem_cons.1 hstate
    exact isTame_deliver (tame_closed hmembers sound) hstack
  · exact isTame_of_beginMember? hstate h
  · exact isTame_of_beginMember? hstate h
  · cases h
    exact hstate
  · cases h
    exact hstate
  · next items stack =>
    cases h
    obtain ⟨hitems, hstack⟩ := List.forall_mem_cons.1 hstate
    exact isTame_deliver (.list fun j hj => hitems j (List.mem_reverse.1 hj)) hstack
  · cases h
    obtain ⟨hmembers, hstack⟩ := List.forall_mem_cons.1 hstate
    exact List.forall_mem_cons.2 ⟨hmembers, hstack⟩
  · next members sound name stack =>
    cases h
    obtain ⟨hmembers, hstack⟩ := List.forall_mem_cons.1 hstate
    exact isTame_deliver (tame_closed hmembers sound) hstack
  · cases h

theorem isTame_of_readFrom? {state next : Reading} {ts : List Token} (hstate : state.IsTame)
    (hts : ∀ t ∈ ts, t.IsTame) (h : readFrom? state ts = some next) : next.IsTame := by
  induction ts generalizing state with
  | nil =>
    cases h
    exact hstate
  | cons t ts ih =>
    obtain ⟨ht, hts⟩ := List.forall_mem_cons.1 hts
    obtain ⟨between, hstep, hrest⟩ := Option.bind_eq_some_iff.1 h
    exact ih (isTame_of_readStep? hstate ht hstep) hts hrest

/-- **Every number of a document is finite.** -/
theorem tame_of_parse? {text : String} {j : Json} (h : parse? text = some j) : Tame j := by
  obtain ⟨ts, hts, h⟩ := Option.bind_eq_some_iff.1 h
  unfold ofTokens? at h
  split at h
  · next j' hread =>
    cases h
    have hstart : (Reading.within .value []).IsTame := fun f hf => absurd hf List.not_mem_nil
    exact isTame_of_readFrom? hstart (isTame_of_scanFrom hts) hread
  · cases h

/-! ### Amounts -/

theorem tame_of_get? {names : List String} {j k : Json} {f : Fields} {name : String} (hj : Tame j)
    (hf : fields? names j = some f) (hk : f.get? name = some k) : Tame k := by
  have hmem : (name, k) ∈ f.present := by
    obtain ⟨before, after, hpresent, -⟩ := List.lookup_eq_some_iff.1 hk
    rw [hpresent]
    exact List.mem_append_right before List.mem_cons_self
  cases hj with
  | object hmembers =>
    simp only [fields?] at hf
    split at hf
    · cases hf
      exact hmembers _ (List.mem_filter.1 hmem).1
    · cases hf
  | list hitems =>
    simp only [fields?] at hf
    split at hf
    · cases hf
      exact hitems _ (List.of_mem_zip hmem).2
    · cases hf
  | _ => cases hf

theorem isFinite_of_required {names : List String} {j : Json} {f : Fields} {name : String}
    {x : Binary64} (hj : Tame j) (hf : fields? names j = some f)
    (hx : f.required name = some x) : x.isFinite = true := by
  obtain ⟨k, hk, hdecode⟩ := Option.bind_eq_some_iff.1 hx
  cases tame_of_get? hj hf hk with
  | int h =>
    cases hdecode
    exact Binary64.isFinite_ofInt h
  | real h =>
    cases hdecode
    exact h
  | _ => cases hdecode

end Json

open Json (Tame fields? decode?)

/-- Amounts that are read are finite. -/
theorem Resources.finite_of_decode? {j : Json} {r : Resources} (hj : Tame j)
    (h : decode? j = some r) :
    r.cpus.isFinite = true ∧ r.mem.isFinite = true ∧ r.disk.isFinite = true := by
  obtain ⟨f, hf, h⟩ := Option.bind_eq_some_iff.1 h
  obtain ⟨cpus, hcpus, h⟩ := Option.bind_eq_some_iff.1 h
  obtain ⟨mem, hmem, h⟩ := Option.bind_eq_some_iff.1 h
  obtain ⟨disk, hdisk, h⟩ := Option.bind_eq_some_iff.1 h
  cases h
  exact ⟨Json.isFinite_of_required hj hf hcpus, Json.isFinite_of_required hj hf hmem,
    Json.isFinite_of_required hj hf hdisk⟩

theorem Limits.finite_of_decode? {j : Json} {l : Limits} (hj : Tame j) (h : decode? j = some l) :
    l.cpus.isFinite = true ∧ l.mem.isFinite = true := by
  obtain ⟨f, hf, h⟩ := Option.bind_eq_some_iff.1 h
  obtain ⟨cpus, hcpus, h⟩ := Option.bind_eq_some_iff.1 h
  obtain ⟨mem, hmem, h⟩ := Option.bind_eq_some_iff.1 h
  cases h
  exact ⟨Json.isFinite_of_required hj hf hcpus, Json.isFinite_of_required hj hf hmem⟩

theorem TaskRecord.finite_of_ofJson? {j : Json} {r : TaskRecord} (hj : Tame j)
    (h : TaskRecord.ofJson? j = some r) : r.Finite := by
  unfold TaskRecord.ofJson? at h
  obtain ⟨f, hf, h⟩ := Option.bind_eq_some_iff.1 h
  obtain ⟨id, -, h⟩ := Option.bind_eq_some_iff.1 h
  obtain ⟨name, -, h⟩ := Option.bind_eq_some_iff.1 h
  obtain ⟨framework, -, h⟩ := Option.bind_eq_some_iff.1 h
  obtain ⟨workload, -, h⟩ := Option.bind_eq_some_iff.1 h
  obtain ⟨resources, hresources, h⟩ := Option.bind_eq_some_iff.1 h
  obtain ⟨limits, hlimits, h⟩ := Option.bind_eq_some_iff.1 h
  obtain ⟨container, -, h⟩ := Option.bind_eq_some_iff.1 h
  obtain ⟨discovery, -, h⟩ := Option.bind_eq_some_iff.1 h
  obtain ⟨labels, -, h⟩ := Option.bind_eq_some_iff.1 h
  obtain ⟨instances, -, h⟩ := Option.bind_eq_some_iff.1 h
  obtain ⟨state, -, h⟩ := Option.bind_eq_some_iff.1 h
  obtain ⟨agentId, -, h⟩ := Option.bind_eq_some_iff.1 h
  obtain ⟨agentHostname, -, h⟩ := Option.bind_eq_some_iff.1 h
  obtain ⟨address, -, h⟩ := Option.bind_eq_some_iff.1 h
  obtain ⟨createdAt, -, h⟩ := Option.bind_eq_some_iff.1 h
  obtain ⟨updatedAt, -, h⟩ := Option.bind_eq_some_iff.1 h
  cases h
  obtain ⟨k, hk, hdecode⟩ := Option.bind_eq_some_iff.1 hresources
  obtain ⟨hcpus, hmem, hdisk⟩ := Resources.finite_of_decode? (Json.tame_of_get? hj hf hk) hdecode
  refine ⟨hcpus, hmem, hdisk, ?_⟩
  rintro l rfl
  unfold Json.Fields.optional at hlimits
  cases hk : f.get? "limits" with
  | none =>
    rw [hk] at hlimits
    dsimp only at hlimits
    split at hlimits <;> cases hlimits
  | some k =>
    rw [hk] at hlimits
    have hk := Json.tame_of_get? hj hf hk
    by_cases hnull : k = .null
    · subst hnull
      cases hlimits
    · have hdecode := hlimits
      dsimp only at hdecode
      rw [Json.Fields.decode?_of_ne_null hnull] at hdecode
      obtain ⟨l', hl', heq⟩ := Option.map_eq_some_iff.1 hdecode
      cases heq
      exact Limits.finite_of_decode? hk hl'

/-- **A record that has been read asks for finite amounts.** -/
theorem Records.finite_of_ofStored? {text : String} {r : TaskRecord}
    (h : ofStored? text = some r) : r.Finite := by
  obtain ⟨j, hj, hr⟩ := Option.bind_eq_some_iff.1 h
  exact TaskRecord.finite_of_ofJson? (Json.tame_of_parse? hj) hr

/-- **A record that has been found can be saved and is found again**, whatever becomes of it but for
its amounts. -/
theorem Store.Memory.record?_put_of_found {m : Memory} {key : String} {r : TaskRecord}
    (h : m.record? key = some r) (m' : Memory) (r' : TaskRecord)
    (hresources : r'.resources = r.resources) (hlimits : r'.limits = r.limits) :
    (m'.put r').record? r'.storeKey = some r' := by
  obtain ⟨text, -, hread⟩ := Option.bind_eq_some_iff.1 h
  have hfinite : r.Finite := Records.finite_of_ofStored? hread
  refine record?_put_of_finite m' ⟨?_, ?_, ?_, ?_⟩
  · rw [hresources]
    exact hfinite.cpus
  · rw [hresources]
    exact hfinite.mem
  · rw [hresources]
    exact hfinite.disk
  · rw [hlimits]
    exact hfinite.limits

end Stevedore
