import Stevedore.Proofs.Building
import Stevedore.Proofs.SharedStore

/-!
# The framework's name

A configuration passes its checks if the name of its framework is made of ASCII letters, digits and
hyphens once the blanks at its two ends are dropped (`Config.isName_trim`). Keys, records and
containers take the name as it was set, blanks included. So they are safe exactly if it was set
without blanks at its ends (`names_safe_iff`). A name with such a blank passes the checks, and the
blank ends up in every one of them (`padded_name_used`).
-/

namespace Stevedore

/-! ### Names -/

namespace Text

/-- An ASCII letter, an ASCII digit or a hyphen. -/
def IsNameChar (c : Char) : Prop :=
  ('a' ≤ c ∧ c ≤ 'z') ∨ ('A' ≤ c ∧ c ≤ 'Z') ∨ ('0' ≤ c ∧ c ≤ '9') ∨ c = '-'

theorem isNameChar_iff {c : Char} : Config.isNameChar c = true ↔ IsNameChar c := by
  change (((decide ('A' ≤ c ∧ c ≤ 'Z') || (decide ('a' ≤ c) && decide (c ≤ 'z'))) ||
    (decide ('0' ≤ c) && decide (c ≤ '9'))) || c == '-') = true ↔ _
  simp only [IsNameChar, Bool.or_eq_true, Bool.and_eq_true, decide_eq_true_eq, beq_iff_eq]
  tauto

instance (c : Char) : Decidable (IsNameChar c) :=
  decidable_of_iff _ isNameChar_iff

/-- A text that is safe in keys, host names and command lines. -/
structure IsName (s : String) : Prop where
  ne_empty : s ≠ ""
  chars : ∀ c ∈ s.toList, IsNameChar c

/-- No character of a name is blank. -/
theorem IsNameChar.not_blank {c : Char} (h : IsNameChar c) : isBlank c = false := by
  have hrange : 0x2D ≤ c.toNat ∧ c.toNat ≤ 0x7A := by
    simp only [IsNameChar, Char.le_def, UInt32.le_iff_toNat_le] at h
    rcases h with h | h | h | rfl
    · change 97 ≤ c.toNat ∧ c.toNat ≤ 122 at h
      omega
    · change 65 ≤ c.toNat ∧ c.toNat ≤ 90 at h
      omega
    · change 48 ≤ c.toNat ∧ c.toNat ≤ 57 at h
      omega
    · decide
  simp only [isBlank, Bool.or_eq_false_iff, Bool.and_eq_false_iff, decide_eq_false_iff_not,
    beq_eq_false_iff_ne]
  omega

theorem dropWhile_isBlank {cs : List Char} (h : ∀ c ∈ cs, isBlank c = false) :
    cs.dropWhile isBlank = cs := by
  cases cs with
  | nil => rfl
  | cons c cs => rw [List.dropWhile_cons_of_neg (by simp [h c List.mem_cons_self])]

/-- Nothing is dropped from a text without blanks. -/
theorem trim_eq_self {s : String} (h : ∀ c ∈ s.toList, isBlank c = false) : trim s = s := by
  rw [trim, trimChars, dropWhile_isBlank h,
    dropWhile_isBlank fun c hc => h c (List.mem_reverse.1 hc), List.reverse_reverse,
    String.ofList_toList]

/-- A text that is a name once it is trimmed is one as it is if there is nothing to trim. -/
theorem isName_iff_of_trim {s : String} (h : IsName (trim s)) : IsName s ↔ trim s = s := by
  constructor
  · exact fun hname => trim_eq_self fun c hc => (hname.chars c hc).not_blank
  · exact fun hself => hself ▸ h

theorem isName_append_iff {s more : String} (hs : s ≠ "") (hmore : IsName more) :
    IsName (s ++ more) ↔ IsName s := by
  constructor
  · exact fun h => ⟨hs, fun c hc => h.chars c (by simp [hc])⟩
  · intro h
    refine ⟨fun hempty => hs (String.append_eq_empty_iff.1 hempty).1, fun c hc => ?_⟩
    rw [String.toList_append, List.mem_append] at hc
    exact hc.elim (h.chars c) (hmore.chars c)

end Text

namespace Role

theorem isName_name (role : Role) : Text.IsName role.name := by
  have hne : role.name ≠ "" := by cases role <;> decide
  have hchars : role.name.toList.all Config.isNameChar = true := by cases role <;> decide
  exact ⟨hne, fun c hc => Text.isNameChar_iff.1 (List.all_eq_true.1 hchars c hc)⟩

end Role

namespace Key

/-- A key under which a framework keeps something, or what several of them begin with. -/
inductive Kept (framework : String) : String → Prop
  | tasks (role : Role) : Kept framework (tasks framework role)
  | task (role : Role) (id : String) : Kept framework (task framework role id)
  | identity : Kept framework (identity framework)
  | settings : Kept framework (settings framework)
  | nodes : Kept framework (nodes framework)
  | node (name : String) : Kept framework (node framework name)

theorem Kept.under {framework key : String} (h : Kept framework key) : Under framework key := by
  cases h with
  | tasks => exact under_tasks
  | task => exact under_task
  | identity => exact under_identity
  | settings => exact under_settings
  | nodes => exact under_nodes
  | node => exact under_node

theorem under_qualified {framework : String} {role : Role} :
    Under framework (role.qualified framework) := by
  refine ⟨role.name.toList, ?_⟩
  rw [Role.qualified, String.toList_append, String.toList_append, List.append_assoc]
  rfl

end Key

namespace Config

/-- **What the checks of a configuration look at is the trimmed name.** -/
theorem isName_trim {cfg : Config} (h : cfg.validate = .ok ()) :
    Text.IsName (Text.trim cfg.framework.name) := by
  obtain ⟨hne, hchars⟩ := trim_name_of_validate h
  exact ⟨hne, fun c hc => Text.isNameChar_iff.1 (hchars c hc)⟩

theorem name_ne_empty {cfg : Config} (h : cfg.validate = .ok ()) : cfg.framework.name ≠ "" := by
  intro hempty
  exact (isName_trim h).ne_empty (by rw [hempty]; rfl)

/-- A record that a process may create by a configuration, whatever it has found in its store. -/
def Makes (cfg : Config) (role : Role) (r : TaskRecord) : Prop :=
  ∃ settings identity used now id,
    Build.buildRole ⟨cfg.withSettings settings, identity, used, now⟩ role id = .ok r

end Config

/-! ### Where the name goes -/

namespace Build

variable {ctx : Context} {role : Role} {id : String} {r : TaskRecord}

/-- No name in the network but this one is among some options. -/
def Aliased (known : String) (parameters : List Parameter) : Prop :=
  ∀ p ∈ parameters, p.key = "net-alias" → p.value = known

theorem aliased_of_keys {known : String} {parameters : List Parameter}
    (h : "net-alias" ∉ parameters.map (·.key)) : Aliased known parameters :=
  fun _ hp hkey => absurd (List.mem_map.2 ⟨_, hp, hkey⟩) h

theorem Aliased.append {known : String} {parameters more : List Parameter}
    (h : Aliased known parameters) (hmore : Aliased known more) :
    Aliased known (parameters ++ more) :=
  fun p hp => (List.mem_append.1 hp).elim (h p) (hmore p)

theorem aliased_netAlias : Aliased (ctx.cfg.framework.name ++ role.name) (ctx.netAlias role) := by
  unfold Context.netAlias
  split
  · exact List.forall_mem_singleton.2 fun _ => rfl
  · exact nofun

theorem aliased_runtimeParameters {known : String} {mem : Binary64} :
    Aliased known (ctx.runtimeParameters mem) := by
  refine aliased_of_keys ?_
  show "net-alias" ∉ ["cap-add", "cap-add", "shm-size", "memory-swap", "ulimit"]
  decide

theorem aliased_cgroupParameters {known : String} : Aliased known ctx.cgroupParameters := by
  refine aliased_of_keys ?_
  unfold Context.cgroupParameters
  split <;> decide

theorem aliased_diskParameters {known : String} : Aliased known (diskParameters ctx) := by
  refine aliased_of_keys ?_
  unfold diskParameters
  split
  · show "net-alias" ∉ ["storage-opt"]
    decide
  · decide

theorem aliased_runtimeParameter {known : String} : Aliased known (runtimeParameter ctx) := by
  refine aliased_of_keys ?_
  unfold runtimeParameter
  split
  · split
    · decide
    · show "net-alias" ∉ ["runtime"]
      decide
  · decide

/-- How the framework's name enters a new record. -/
structure Named (ctx : Context) (role : Role) (r : TaskRecord) : Prop where
  framework : r.framework = ctx.cfg.framework.name
  name : r.name = role.qualified ctx.cfg.framework.name
  hostname : r.container.hostname = ctx.cfg.hostnameOf role
  netAlias : Aliased (ctx.cfg.framework.name ++ role.name) r.container.parameters
  command : role = .server → r.container.command = some (serverCommand ctx)

theorem named_datastore {backend : Backend} (h : datastore backend id ctx = .ok r) :
    Named ctx .datastore r := by
  have haliased : Aliased (ctx.cfg.framework.name ++ Role.datastore.name)
      ([⟨"cap-add", "NET_ADMIN"⟩] ++ ctx.netAlias .datastore) :=
    (aliased_of_keys (by decide)).append aliased_netAlias
  unfold datastore at h
  cases hport : ctx.datastorePort with
  | error e =>
    rw [hport] at h
    cases h
  | ok port =>
    cases hhost : datastoreHostPort ctx with
    | error e =>
      rw [hport, hhost] at h
      cases h
    | ok hostPort =>
      rw [hport, hhost] at h
      cases h
      cases backend <;> exact ⟨rfl, rfl, rfl, haliased, fun hrole => by cases hrole⟩

theorem named_server (h : server id ctx = .ok r) : Named ctx .server r := by
  unfold server at h
  cases hport : ctx.datastorePort with
  | error e =>
    rw [hport] at h
    cases h
  | ok port =>
    rw [hport] at h
    cases h
    exact ⟨rfl, rfl, rfl,
      (aliased_runtimeParameters.append aliased_netAlias).append aliased_cgroupParameters,
      fun _ => rfl⟩

theorem named_agent (h : agent id ctx = .ok r) : Named ctx .agent r := by
  unfold agent at h
  by_cases hlimit : ctx.cfg.agent.restrictDisk && ctx.cfg.agent.diskLimit.le 0
  · simp only [hlimit, if_true] at h
    cases h
  · simp only [hlimit] at h
    cases h
    exact ⟨rfl, rfl, rfl,
      (((aliased_runtimeParameters.append aliased_diskParameters).append
        aliased_runtimeParameter).append aliased_netAlias).append aliased_cgroupParameters,
      fun hrole => by cases hrole⟩

/-- **The name enters every record as it was set.** -/
theorem named_of_buildRole (h : buildRole ctx role id = .ok r) : Named ctx role r := by
  cases role with
  | datastore => exact named_datastore ((buildRole_datastore ctx id).symm.trans h)
  | server => exact named_server h
  | agent => exact named_agent h

/-- The last argument of a server's command line is the name of its host without the domain. -/
theorem serverCommand_eq (ctx : Context) : ∃ before, serverCommand ctx =
    before ++ "--tls-san=" ++ (ctx.cfg.framework.name ++ Role.server.name) ++ "'" := by
  unfold serverCommand
  extract_lets args more line
  refine ⟨"$MESOS_SANDBOX/bootstrap '" ++ line ++ " ", ?_⟩
  have hstart : " --tls-san=" = " " ++ "--tls-san=" := rfl
  show "$MESOS_SANDBOX/bootstrap '" ++ line ++ " --tls-san=" ++ ctx.cfg.framework.name ++
    Role.server.name ++ "'" = _
  rw [hstart]
  simp only [String.append_assoc]

end Build

namespace Scheduling

/-- Of a record of a role, every text in which the framework's name is found has a property. -/
structure EveryName (cfg : Config) (role : Role) (r : TaskRecord) (P : String → Prop) : Prop where
  framework : P r.framework
  name : P (Text.beforeColon r.name)
  storeKey : P (Text.beforeColon r.storeKey)
  /-- The name of the host but for the domain. -/
  hostname : ∃ host, r.container.hostname = host ++ cfg.framework.domain ∧ P host
  netAlias : ∀ p ∈ r.container.parameters, p.key = "net-alias" → P p.value
  /-- What the certificate of a server is made out to, which its command line names last. -/
  tlsSan : role = .server → ∃ before san,
    r.container.command = some (before ++ "--tls-san=" ++ san ++ "'") ∧ '=' ∉ san.toList ∧ P san

/-- **The framework's name is safe where it is used if and only if no blanks are at its ends.** By a
configuration that passes its checks the trimmed name is safe. Of the keys of a process, and of the
records it creates, whatever it has found in its store, either each is safe or none is. -/
theorem names_safe_iff {cfg : Config} (hvalid : cfg.validate = .ok ()) :
    Text.IsName (Text.trim cfg.framework.name) ∧
    (∀ store nodes key, Key.Kept (World.start cfg store nodes).framework key →
      (Text.IsName (Text.beforeColon key) ↔
        Text.trim cfg.framework.name = cfg.framework.name)) ∧
    (∀ role r, cfg.Makes role r → EveryName cfg role r fun text =>
      (Text.IsName text ↔ Text.trim cfg.framework.name = cfg.framework.name)) ∧
    ∃ r, cfg.Makes .server r := by
  have htrim := Config.isName_trim hvalid
  have hname : Text.IsName cfg.framework.name ↔
      Text.trim cfg.framework.name = cfg.framework.name := Text.isName_iff_of_trim htrim
  have hplain : ':' ∉ cfg.framework.name.toList := Config.not_mem_name_of_validate hvalid
  have hunder : ∀ {key}, Key.Under cfg.framework.name key → (Text.IsName (Text.beforeColon key) ↔
      Text.trim cfg.framework.name = cfg.framework.name) := by
    intro key hkey
    rw [hkey.beforeColon hplain, hname]
  have hhost : ∀ role : Role, Text.IsName (cfg.framework.name ++ role.name) ↔
      Text.trim cfg.framework.name = cfg.framework.name := by
    intro role
    rw [Text.isName_append_iff (Config.name_ne_empty hvalid) role.isName_name, hname]
  refine ⟨htrim, fun store nodes key hkey => hunder hkey.under, ?_, ?_⟩
  · rintro role r ⟨settings, identity, used, now, id, hr⟩
    have hnamed := Build.named_of_buildRole hr
    refine ⟨?_, ?_, ?_, ?_, ?_, ?_⟩
    · rw [hnamed.framework]
      exact hname
    · rw [hnamed.name]
      exact hunder Key.under_qualified
    · rw [TaskRecord.storeKey, hnamed.framework]
      exact hunder Key.under_task
    · exact ⟨cfg.framework.name ++ role.name, hnamed.hostname, hhost role⟩
    · intro p hp hkey
      rw [hnamed.netAlias p hp hkey]
      exact hhost role
    · intro hrole
      obtain ⟨before, hbefore⟩ := Build.serverCommand_eq
        ⟨cfg.withSettings settings, identity, used, now⟩
      refine ⟨before, cfg.framework.name ++ Role.server.name,
        (hnamed.command hrole).trans (congrArg some hbefore), ?_, hhost .server⟩
      rw [String.toList_append, List.mem_append, not_or]
      exact ⟨Config.notMem_name_of_validate hvalid (by decide) (by decide), by decide⟩
  · obtain ⟨port, hport⟩ := (Config.portsValid_of_validate hvalid).datastore
    obtain ⟨r, hr, -⟩ := Build.exists_server
      (Build.datastorePort_withSettings hport ⟨none, none⟩ ⟨none, none⟩ [] 0) ""
    exact ⟨r, _, _, _, _, _, hr⟩

/-- In a network of its own, a server is found under a safe name. -/
theorem names_safe_in_network :
    let cfg : Config := { framework := { name := "keel-2" }, docker := { cni := "weave" } }
    cfg.validate = .ok () ∧ Text.trim cfg.framework.name = cfg.framework.name ∧
      ∃ r, cfg.Makes .server r ∧ ⟨"net-alias", "keel-2server"⟩ ∈ r.container.parameters ∧
        EveryName cfg .server r fun text =>
          (Text.IsName text ↔ Text.trim cfg.framework.name = cfg.framework.name) := by
  intro cfg
  have hvalid : cfg.validate = .ok () := by decide +kernel
  let ctx : Build.Context := ⟨cfg.withSettings ⟨none, none⟩, ⟨none, none⟩, [], 0⟩
  have hfound : (Build.buildRole ctx .server "").map
      (fun r => decide (⟨"net-alias", "keel-2server"⟩ ∈ r.container.parameters)) = .ok true := by
    decide +kernel
  cases hr : Build.buildRole ctx .server "" with
  | error fault =>
    rw [hr] at hfound
    cases hfound
  | ok r =>
    rw [hr] at hfound
    have hmade : cfg.Makes .server r := ⟨_, _, _, _, _, hr⟩
    exact ⟨hvalid, by decide, r, hmade, of_decide_eq_true (Except.ok.inj hfound),
      (names_safe_iff hvalid).2.2.1 .server r hmade⟩

/-- A name with a blank before it is accepted, and the server's host is given that blank. -/
theorem padded_name_used :
    let cfg : Config := { framework := { name := " keel" } }
    cfg.validate = .ok () ∧ ∃ r, cfg.Makes .server r ∧
      r.storeKey = " keel:server:1" ∧ r.container.hostname = " keelserver" ∧
      ¬ EveryName cfg .server r Text.IsName := by
  intro cfg
  have hport : cfg.datastorePort? = some 2379 := by decide +kernel
  obtain ⟨r, hr, -⟩ := Build.exists_server
    (Build.datastorePort_withSettings hport ⟨none, none⟩ ⟨none, none⟩ [] 0) "1"
  have hnamed := Build.named_of_buildRole hr
  refine ⟨by decide +kernel, r, ⟨_, _, _, _, _, hr⟩, ?_, hnamed.hostname, fun hsafe => ?_⟩
  · exact (Build.started_server hr).storeKey
  · have hblank := hsafe.framework.chars ' ' (by rw [hnamed.framework]; decide)
    exact absurd hblank (by decide)

end Scheduling

end Stevedore
