import Stevedore.Build.Basic
import Stevedore.Cluster.Node
import Stevedore.Text.Case

/-!
# New agents

An agent leaves all its host ports to the offer, and labels the node that it becomes with the id of
its task.
-/

namespace Stevedore.Build

/-- The command of an agent. -/
def agentCommand : String := "/mnt/mesos/sandbox/bootstrap"

/-- Where agents keep the contents of images. -/
def snapshotDirs : List String :=
  ["/var/lib/rancher/k3s/agent/containerd/io.containerd.snapshotter.v1.content",
    "/var/lib/rancher/k3s/agent/containerd/io.containerd.snapshotter.v1.native"]

/-- The arguments of an agent's command. -/
def agentArguments (id : String) (ctx : Context) : List String :=
  let agent := ctx.cfg.agent
  let more := Text.trim ctx.cfg.docker.args
  Text.words agent.args
    ++ (if more.isEmpty then [] else [more])
    ++ [s!"--with-node-id {id}", s!"--kubelet-arg node-labels {Node.taskIdLabel}={id}"]
    ++ (if agent.enableTaint then
        ["--node-taint node.kubernetes.io/unschedulable=true:NoSchedule"] else [])
    ++ (if agent.registryMirror then ["--embedded-registry"] else [])

/-- The ports of an agent. -/
def agentPorts (ctx : Context) : List PortMapping :=
  let agent := ctx.cfg.agent
  [.any 80 "http", .any 443 "https"]
    ++ (match agent.extraTcpPort with
      | some port => if port = 0 then [] else [.any port "tcp"]
      | none => [])
    ++ (if agent.registryMirror then [.any 5001 "tcp", .any 6443 "tcp"] else [])

/-- The ports under which an agent can be found, one for each mapping, named for the framework and
the protocol. -/
def agentDiscovery (ctx : Context) : List DiscoveryPort :=
  let name := Text.lowerAll ctx.cfg.framework.name
  (agentPorts ctx).map fun p => ⟨p.containerPort, name ++ "-" ++ p.protocol, p.protocol⟩

/-- The environment of an agent; what an operator adds comes last. -/
def agentEnv (id : String) (ctx : Context) : Variables :=
  let cfg := ctx.cfg
  ctx.baseEnv .agent ++
    [⟨"KUBERNETES_VERSION", cfg.framework.kubernetesVersion⟩, ⟨"K3SFRAMEWORK_TYPE", "agent"⟩,
      ⟨"K3S_TOKEN", cfg.framework.token⟩, ⟨"K3S_URL", cfg.serverUrl⟩,
      ⟨"TZ", cfg.framework.timezone⟩, ⟨"MESOS_TASK_ID", id⟩] ++
    cfg.agent.env

/-- The option that limits the container's own disk space, if it is to be limited. -/
def diskParameters (ctx : Context) : List Parameter :=
  if ctx.cfg.agent.restrictDisk then
    [⟨"storage-opt", s!"size={ctx.cfg.agent.diskLimit.wholeText}mb"⟩]
  else []

/-- The option that names the container runtime, if one is set. -/
def runtimeParameter (ctx : Context) : List Parameter :=
  match ctx.cfg.agent.customRuntime with
  | some runtime => if runtime.isEmpty then [] else [⟨"runtime", runtime⟩]
  | none => []

/-- The record of a new agent. -/
def agent (id : String) (ctx : Context) : Except Fault TaskRecord := do
  let ag := ctx.cfg.agent
  if ag.restrictDisk && ag.diskLimit.le 0 then throw (.badDiskLimit ag.diskLimit)
  let container := { ctx.baseContainer .agent with
    image := ctx.cfg.docker.image
    privileged := true
    command := some agentCommand
    arguments := agentArguments id ctx
    parameters := ctx.runtimeParameters ag.mem ++ diskParameters ctx ++ runtimeParameter ctx
      ++ ctx.netAlias .agent ++ ctx.cgroupParameters
    uris := [ctx.bootstrap]
    volumes := ctx.cgroupVolumes ++ snapshotDirs.map fun path => ctx.volume path path
    ports := agentPorts ctx
    env := agentEnv id ctx }
  let built := ctx.record id .agent ⟨ag.cpus, ag.mem, ag.disk⟩ ag.labels container
    (agentDiscovery ctx)
  return { built with
    limits := if ctx.cfg.framework.enforceLimits then some ⟨ag.cpuLimit, ag.memLimit⟩ else none }

end Stevedore.Build
