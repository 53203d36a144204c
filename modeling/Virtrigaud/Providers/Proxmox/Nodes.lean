import Virtrigaud.Providers.Proxmox.Clone

/-!
# The node of a VM

The ids that the Proxmox provider hands out are VMIDs without a node. Each operation takes the
node from FindNode, which gives the first one the client knows. Clone may place the VM on another
node, and ListVMs reports the VMs of all of them.
-/

namespace Virtrigaud.Proxmox

open Effects Program

/-- A `pveapi.Client`: its configuration, and what ListNodes answers, which is kept. -/
structure Client where
  nodeSelector : List String := []
  listNodes : Except GoError (List String)

section

variable (client : Client)

/-- ListNodes answers no empty list. -/
def Client.findNode : Except GoError String :=
  match client.nodeSelector, client.listNodes with
  | node :: _, _ => .ok node
  | [], .error err => .error (err.wrap "no NodeSelector configured and node discovery failed")
  | [], .ok nodes => .ok (nodes.headD "")

/-- The nodes whose VMs are listed. -/
def Client.nodes : Except GoError (List String) :=
  match client.nodeSelector, client.listNodes with
  | [], .error err => .error (err.wrap "no node selector configured and node discovery failed")
  | [], .ok nodes => .ok nodes
  | nodes, _ => .ok nodes

/-- A VM in the answer of a node. -/
structure ListedVM where
  vmid : Int
  (name status : String)
  template : Int := 0
  deriving DecidableEq, Repr

/-- The requests of Create and Clone, and those of ListVMs. -/
inductive Request
  | api (c : Clone.Call)
  | listVMs (node : String)
  | getVMConfig (node : String) (vmid : Int)

@[reducible] def Reply : Request → Type
  | .api c => Clone.Answer c
  | .listVMs _ => Except GoError (List ListedVM)
  | .getVMConfig _ _ => Option GoError

def send (c : Request) : Program Request Reply (Reply c) := perform c

/-- The client's requests; FindNode is answered by the client. -/
def Client.request : (c : Call) → Program Request Reply (Answer c)
  | .findNode => pure client.findNode
  | c => send (.api (.request c))

def Client.cloneRequest : (c : Clone.Call) → Program Request Reply (Clone.Answer c)
  | .request c => client.request c
  | .cloneVM node vmid config => send (.api (.cloneVM node vmid config))

/-- What ListVMs reports of a VM, without its sizes, disks and networks. -/
structure VMInfo where
  (id name powerState : String)
  providerRaw : StringMap
  deriving DecidableEq, Repr

def vmInfo (node : String) (vm : ListedVM) : VMInfo :=
  let powerState := if vm.status = "running" then "On" else "Off"
  { id := Go.formatInt vm.vmid, name := vm.name, powerState
    providerRaw := [("vmid", Go.formatInt vm.vmid), ("node", node), ("status", vm.status),
      ("power_state", powerState)] }

/-- The VMs of a node that are no templates and whose configuration can be read. -/
def listed (node : String) : List ListedVM → Program Request Reply (List VMInfo)
  | [] => return []
  | vm :: vms => do
    if vm.template = 1 then listed node vms
    else
      match ← send (.getVMConfig node vm.vmid) with
      | some _ => listed node vms
      | none => return vmInfo node vm :: (← listed node vms)

/-- A node that cannot be listed is passed over. -/
def listNodesVMs : List String → Program Request Reply (List VMInfo)
  | [] => return []
  | node :: nodes => do
    match ← send (.listVMs node) with
    | .error _ => listNodesVMs nodes
    | .ok vms => return (← listed node vms) ++ (← listNodesVMs nodes)

def Client.listVMs : Program Request Reply (Except GoError (List VMInfo)) :=
  match client.nodes with
  | .error err => return .error err
  | .ok nodes => return .ok (← listNodesVMs nodes)

/-- The node on which a request finds or makes the VMs it is about. -/
def Request.node : Request → Option String
  | .api (.request (.getVM node _)) | .api (.request (.createVM node _))
  | .api (.request (.cloneVM node _ _)) | .listVMs node => some node
  | .api (.cloneVM node _ config) => some (config.target.getD node)
  | _ => none

/-- The VMs that an answered request shows to be there. -/
def shown : Event Request Reply → List Int
  | ⟨.api (.request (.getVM _ vmid)), .ok _⟩ => [vmid]
  | ⟨.api (.request (.createVM _ config)), .ok _⟩ => [config.vmid]
  | ⟨.api (.request (.cloneVM _ _ config)), .ok _⟩ => [config.vmid]
  | ⟨.api (.cloneVM _ _ config), .ok _⟩ => [config.vmid]
  | ⟨.listVMs _, .ok vms⟩ => vms.map ListedVM.vmid
  | _ => []

/-- The node hosts the VM, by what the API has answered. -/
def Hosted (log : List (Event Request Reply)) (vmid : Int) (node : String) : Prop :=
  ∃ entry ∈ log, vmid ∈ shown entry ∧ entry.1.node = some node

/-- What PVE guarantees of its VMIDs: they are positive, and unique in the cluster. -/
structure Sound (log : List (Event Request Reply)) : Prop where
  range {vmid : Int} {node : String} : Hosted log vmid node → 0 ≤ vmid ∧ vmid ≤ 9223372036854775807
  unique {vmid : Int} {node node' : String} : Hosted log vmid node → Hosted log vmid node' →
    node = node'

/-- A client takes the id for the node that hosts its VM. -/
def Resolves (log : List (Event Request Reply)) (id : String) : Prop :=
  ∀ (vmid : Int) (node : String), id = Go.formatInt vmid → Hosted log vmid node →
    parseVMReference client.request id = pure (.ok (vmid, node))

/-- The node of a reference: it is named there, or the one that FindNode gives. -/
def Client.nodeOf (ref : String) : Option String :=
  match Go.atoi ref with
  | some _ => client.findNode.toOption
  | none => (ref.toList.splitOn ':').head?.map String.ofList

/-- The node on which Clone makes the VM: that of the placement, or else that of the source. -/
def Client.cloneNode (req : CloneRequest) : Option String :=
  let host := (Clone.parsePlacement req.placementJSON).1
  if host ≠ "" then some host else client.nodeOf req.sourceVmID

end

section

variable {client later : Client} {log : List (Event Request Reply)} {node : String} {vmid : Int}

theorem parsed (hrange : 0 ≤ vmid ∧ vmid ≤ 9223372036854775807) :
    Go.atoi (Go.formatInt vmid) = some vmid := by
  obtain ⟨n, rfl⟩ := Int.eq_ofNat_of_zero_le hrange.1
  exact Go.atoi_formatInt n (by omega)

theorem parseVMReference_iff (hrange : 0 ≤ vmid ∧ vmid ≤ 9223372036854775807) :
    parseVMReference client.request (Go.formatInt vmid) = pure (.ok (vmid, node)) ↔
      client.findNode = .ok node := by
  unfold parseVMReference
  rw [parsed hrange]
  constructor
  · intro h
    cases hfind : client.findNode with
    | error err =>
      rw [Client.request, hfind] at h
      cases h
    | ok node' =>
      rw [Client.request, hfind] at h
      cases h
      rfl
  · intro h
    dsimp only [Client.request]
    rw [h]
    rfl

theorem resolves_iff (hsound : Sound log) (hhosted : Hosted log vmid node) :
    Resolves later log (Go.formatInt vmid) ↔ later.findNode = .ok node := by
  have hrange := hsound.range hhosted
  constructor
  · intro h
    exact (parseVMReference_iff hrange).mp (h vmid node rfl hhosted)
  · rintro h vmid' node' heq hhosted'
    obtain rfl : vmid = vmid' := by
      have hread := parsed (hsound.range hhosted')
      rw [← heq, parsed hrange] at hread
      exact Option.some.inj hread
    obtain rfl := hsound.unique hhosted hhosted'
    exact (parseVMReference_iff hrange).mpr h

theorem Hosted.mono {log' : List (Event Request Reply)} (h : Hosted log vmid node)
    (hlog : log <:+ log') : Hosted log' vmid node :=
  h.imp fun _ hentry => ⟨hlog.subset hentry.1, hentry.2⟩

/-- The response names a VM, and the node hosts it. -/
def Made (node : Option String) (log : List (Event Request Reply)) (id : String) : Prop :=
  ∃ vmid home, id = Go.formatInt vmid ∧ Hosted log vmid home ∧ node = some home

theorem made_obeys (vmid : Int) {ε α : Type} {id : α → String}
    {p : Program Request Reply (Except ε α)}
    (hp : p.Returns (OnOk fun resp => id resp = Go.formatInt vmid)) (h : Hosted log vmid node) :
    p.Obeys (fun _ _ => True)
      (fun result log => OnOk (fun resp => Made (some node) log (id resp)) result) log :=
  hp.obeys.mono fun _ _ hlog hafter =>
    hafter.imp fun _ hid => ⟨vmid, node, hid, h.mono hlog, rfl⟩

theorem createWith_made (cfg : Config) (req : CreateRequest) (config : VMConfig) :
    (createWith client.request cfg req node config).Obeys (fun _ _ => True)
      (fun result log => OnOk (fun resp => Made (some node) log resp.id) result) log := by
  unfold createWith createFromImportedDisk createFromTemplate
  split
  · split
    · trivial
    refine obeys_perform trivial ?_
    rintro (err | task)
    · trivial
    refine made_obeys config.vmid ?_ ⟨_, .head _, .head _, rfl⟩
    refine (returns_true _).bind fun failure _ => ?_
    cases failure with
    | some err => trivial
    | none =>
      refine (returns_true _).bind fun failure _ => ?_
      cases failure with
      | some err => exact (returns_true _).bind fun _ _ => trivial
      | none => exact fun _ => rfl
  split
  · split
    · trivial
    refine obeys_perform trivial ?_
    rintro (err | task)
    · trivial
    refine made_obeys config.vmid ?_ ⟨_, .head _, .head _, rfl⟩
    refine (returns_true _).bind fun created _ => ?_
    cases created with
    | error err => trivial
    | ok task => rfl
  · refine obeys_perform trivial ?_
    rintro (err | task)
    · trivial
    · exact ⟨config.vmid, node, rfl, ⟨_, .head _, .head _, rfl⟩, rfl⟩

theorem create_made (cfg : Config) (req : CreateRequest) :
    (create client.request cfg req).Obeys (fun _ _ => True) (fun result log =>
      OnOk (fun resp => Made client.findNode.toOption log resp.id) result) [] := by
  have hparsed : (parseCreateRequest client.request req).Returns
      (OnOk fun pair => client.findNode = .ok pair.2) := by
    refine (returns_true _).bind fun vmid _ => ?_
    cases hfind : client.findNode with
    | error err => simp [Client.request, hfind, Returns, OnOk]
    | ok node => simp [Client.request, hfind, Returns, OnOk]
  refine (Returns.obeys hparsed).bind ?_
  rintro (err | ⟨config, node⟩) log - hfind
  · trivial
  rw [show client.findNode = .ok node from hfind]
  refine obeys_perform trivial ?_
  rintro (err | existing)
  · exact createWith_made cfg req config
  dsimp only
  split
  · exact ⟨config.vmid, node, rfl, ⟨_, .head _, .head _, rfl⟩, rfl⟩
  · exact (obeys_of_always fun _ _ _ => trivial).bind fun vmid log _ _ => createWith_made cfg req _

theorem parseVMReference_returns (ref : String) :
    (parseVMReference client.request ref).Returns
      (OnOk fun pair => client.nodeOf ref = some pair.2) := by
  unfold parseVMReference Client.nodeOf
  cases Go.atoi ref with
  | some vmid =>
    cases hfind : client.findNode with
    | error err =>
      rw [Client.request, hfind]
      trivial
    | ok node =>
      rw [Client.request, hfind]
      rfl
  | none =>
    dsimp only
    split
    · rename_i hsplit
      split
      · rw [hsplit]
        rfl
      · trivial
    · trivial

theorem clone_made (req : CloneRequest) :
    (Clone.clone client.cloneRequest req).Obeys (fun _ _ => True) (fun result log =>
      OnOk (fun resp => Made (client.cloneNode req) log resp.targetVmID) result) [] := by
  refine (Returns.obeys (parseVMReference_returns req.sourceVmID)).bind ?_
  rintro (err | ⟨source, node⟩) log - hnode
  · trivial
  have hnode : client.nodeOf req.sourceVmID = some node := hnode
  refine (obeys_of_always fun _ _ _ => trivial).bind fun vmid log _ _ => ?_
  refine obeys_perform trivial ?_
  rintro (err | task)
  · trivial
  have hhome : client.cloneNode req =
      some ((if (Clone.parsePlacement req.placementJSON).1 ≠ "" then
        some (Clone.parsePlacement req.placementJSON).1 else none).getD node) := by
    unfold Client.cloneNode
    dsimp only
    split
    · rfl
    · exact hnode
  rw [hhome]
  refine made_obeys vmid ?_ ⟨_, .head _, .head _, rfl⟩
  refine (returns_true _).bind fun failure _ => ?_
  cases failure with
  | some err => trivial
  | none =>
    refine (returns_true _).bind fun failure _ => ?_
    cases failure with
    | some err => trivial
    | none => rfl

/-- The node gave the configuration of the VM. -/
def Read (log : List (Event Request Reply)) (vmid : Int) (node : String) : Prop :=
  ⟨.getVMConfig node vmid, none⟩ ∈ log

/-- The VMs reported are those whose configuration was read since, on the nodes that host them. -/
structure Reports (infos : List VMInfo) (log log' : List (Event Request Reply)) : Prop where
  read : ∀ info ∈ infos, ∃ vmid node, info.id = Go.formatInt vmid ∧ Read log' vmid node ∧
    Hosted log' vmid node
  all : ∀ vmid node, Read log' vmid node → Read log vmid node ∨
    ∃ info ∈ infos, info.id = Go.formatInt vmid ∧ Hosted log' vmid node

theorem Reports.append {infos infos' : List VMInfo} {log₁ log₂ : List (Event Request Reply)}
    (h : Reports infos log log₁) (h' : Reports infos' log₁ log₂) (hlog : log₁ <:+ log₂) :
    Reports (infos ++ infos') log log₂ where
  read := by
    intro info hinfo
    rcases List.mem_append.mp hinfo with hinfo | hinfo
    · obtain ⟨vmid, node, hid, hread, hhosted⟩ := h.read info hinfo
      exact ⟨vmid, node, hid, hlog.subset hread, hhosted.mono hlog⟩
    · exact h'.read info hinfo
  all := by
    intro vmid node hread
    rcases h'.all vmid node hread with hread | ⟨info, hinfo, hid, hhosted⟩
    · rcases h.all vmid node hread with hread | ⟨info, hinfo, hid, hhosted⟩
      · exact .inl hread
      · exact .inr ⟨info, List.mem_append_left _ hinfo, hid, hhosted.mono hlog⟩
    · exact .inr ⟨info, List.mem_append_right _ hinfo, hid, hhosted⟩

theorem reports_nil {event : Event Request Reply}
    (h : ∀ vmid node, (⟨.getVMConfig node vmid, none⟩ : Event Request Reply) ≠ event) :
    Reports [] log (event :: log) where
  read := nofun
  all vmid node hread := .inl ((List.mem_cons.mp hread).resolve_left (h vmid node))

theorem reports_vmInfo {vm : ListedVM} (h : Hosted log vm.vmid node) :
    Reports [vmInfo node vm] log (⟨.getVMConfig node vm.vmid, none⟩ :: log) where
  read := by
    rintro _ (_ | ⟨_, ⟨⟩⟩)
    exact ⟨vm.vmid, node, rfl, .head _, h.mono (List.suffix_cons _ _)⟩
  all := by
    intro vmid node hread
    rcases List.mem_cons.mp hread with heq | hread
    · cases heq
      exact .inr ⟨_, .head _, rfl, h.mono (List.suffix_cons _ _)⟩
    · exact .inl hread

theorem listed_reports {vms : List ListedVM} (h : ∀ vm ∈ vms, Hosted log vm.vmid node) :
    (listed node vms).Obeys (fun _ _ => True) (fun infos => Reports infos log) log := by
  induction vms generalizing log with
  | nil => exact ⟨nofun, fun _ _ => .inl⟩
  | cons vm vms ih =>
    unfold listed
    split
    · exact ih fun vm hvm => h vm (.tail _ hvm)
    refine obeys_perform trivial fun r => ?_
    have hrest : ∀ other ∈ vms, Hosted (⟨.getVMConfig node vm.vmid, r⟩ :: log) other.vmid node :=
      fun other hother => (h other (.tail _ hother)).mono (List.suffix_cons _ _)
    cases r with
    | some err =>
      refine (ih hrest).mono fun infos log' hlog hreports => ?_
      exact (reports_nil fun _ _ h => by cases h).append hreports hlog
    | none =>
      refine (ih hrest).bind fun infos log' hlog hreports => ?_
      exact (reports_vmInfo (h vm (.head _))).append hreports hlog

theorem listNodesVMs_reports (nodes : List String) :
    (listNodesVMs nodes).Obeys (fun _ _ => True) (fun infos => Reports infos log) log := by
  induction nodes generalizing log with
  | nil => exact ⟨nofun, fun _ _ => .inl⟩
  | cons node nodes ih =>
    refine obeys_perform trivial ?_
    rintro (err | vms)
    · refine ih.mono fun infos log' hlog hreports => ?_
      exact (reports_nil fun _ _ h => by cases h).append hreports hlog
    · have hhosted : ∀ vm ∈ vms, Hosted (⟨.listVMs node, .ok vms⟩ :: log) vm.vmid node :=
        fun vm hvm => ⟨_, .head _, List.mem_map_of_mem hvm, rfl⟩
      refine (listed_reports hhosted).bind fun infos log₁ hlog₁ hfirst => ?_
      refine ih.bind fun others log₂ hlog₂ hothers => ?_
      exact ((reports_nil fun _ _ h => by cases h).append hfirst hlog₁).append hothers hlog₂

/-- All VMs that were reported resolve exactly if they are on the node that FindNode gives. -/
theorem Reports.resolves_iff {infos : List VMInfo} (h : Reports infos [] log) (hsound : Sound log) :
    (∀ info ∈ infos, Resolves later log info.id) ↔
      ∀ vmid node, Read log vmid node → later.findNode = .ok node := by
  constructor
  · intro hresolves vmid node hread
    obtain ⟨info, hinfo, hid, hhosted⟩ := (h.all vmid node hread).resolve_left nofun
    exact (Proxmox.resolves_iff hsound hhosted).mp (hid ▸ hresolves info hinfo)
  · intro hfind info hinfo
    obtain ⟨vmid, node, hid, hread, hhosted⟩ := h.read info hinfo
    rw [hid]
    exact (Proxmox.resolves_iff hsound hhosted).mpr (hfind vmid node hread)

theorem Made.resolves_iff {home : Option String} {id : String} (h : Made home log id)
    (hsound : Sound log) : Resolves later log id ↔ later.findNode.toOption = home := by
  obtain ⟨vmid, node, rfl, hhosted, rfl⟩ := h
  rw [Proxmox.resolves_iff hsound hhosted]
  cases later.findNode <;> simp [Except.toOption]

end

namespace Nodes.Sample

def client : Client := { listNodes := .ok ["pve1", "pve2"] }

/-- The first node has two VMs, of which one is a template, and the second has none. -/
def log : List (Event Request Reply) :=
  [⟨.listVMs "pve2", .ok []⟩, ⟨.getVMConfig "pve1" 100, none⟩,
    ⟨.listVMs "pve1", .ok [⟨100, "web", "running", 0⟩, ⟨101, "base", "stopped", 1⟩]⟩]

theorem sound_log : Sound log := by
  have hhosted : ∀ {vmid node}, Hosted log vmid node →
      (vmid = 100 ∨ vmid = 101) ∧ node = "pve1" := by
    rintro vmid node ⟨entry, hmem, hshown, hnode⟩
    simp only [log, List.mem_cons, List.not_mem_nil, or_false] at hmem
    rcases hmem with rfl | rfl | rfl <;> simp_all [shown, Request.node]
  refine ⟨fun h => ?_, fun h h' => (hhosted h).2.trans (hhosted h').2.symm⟩
  rcases (hhosted h).1 with rfl | rfl <;> decide

def request : CloneRequest :=
  { sourceVmID := "100", targetName := "web", placementJSON := some (.obj [("Host", .str "pve2")]) }

/-- The client takes every VMID for one of the first node. -/
theorem not_resolves {log : List (Event Request Reply)} {vmid : Int}
    (hrange : 0 ≤ vmid ∧ vmid ≤ 9223372036854775807) (hhosted : Hosted log vmid "pve2") :
    ¬ Resolves client log (Go.formatInt vmid) := by
  intro h
  have hfind := (parseVMReference_iff hrange).mp (h vmid "pve2" rfl hhosted)
  exact absurd hfind (by decide)

end Nodes.Sample

open Nodes.Sample

end Virtrigaud.Proxmox
