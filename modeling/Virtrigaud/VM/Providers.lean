import Virtrigaud.VM.Plain
import Virtrigaud.VM.Protocol

/-!
# The providers keep to the protocol

One lemma per function of a provider, following its branches: the calls it makes are
allowed from any log that contains the read of the reconcile it serves. A Create ends
with the ID of a VM that it found or made, or in a failure that accounts for what it
made; a Describe that answers that the VM does not exist leaves the evidence in the log.
-/

namespace Virtrigaud.VM

open Effects Program List

/-- A reconcile that read `v` and has put no VM on a hypervisor yet. -/
structure Start (key : ObjectKey) (log : List LogEntry) (v : VirtualMachine) : Prop where
  read : Read key log v
  untouched : arrivals log = []

namespace Start

variable {key : ObjectKey} {log : List LogEntry} {v : VirtualMachine}

theorem cons {e : LogEntry} (h : Start key log v) (hentry : broughtUp e = none) :
    Start key (e :: log) v :=
  ⟨h.read.cons, (arrivals_cons_none hentry).trans h.untouched⟩

theorem accounted (h : Start key log v) : Accounted log := .inl h.untouched

end Start

variable {log : List LogEntry}

/-- A program that only reads leaves the reconcile where it was. -/
theorem Start.reads {α : Type} {p : M α} {Q : α → Prop} {key : ObjectKey} {v : VirtualMachine}
    (h : Start key log v) (honly : p.Only (reading · = true)) (hreturns : p.Returns Q) :
    p.Obeys (Allowed key) (fun a log' => Q a ∧ Start key log' v) log := by
  refine honly.obeys hreturns h fun log c h hc => ?_
  cases c <;> first | exact ⟨trivial, fun _ => h.cons rfl⟩ | cases hc

/-- The Create of a reconcile is being served, and has put no VM on the hypervisor. -/
structure Serving (key : ObjectKey) (log : List LogEntry) (v : VirtualMachine) : Prop
    extends Start key log v where
  requested : Requested v log

/-- The Create of a reconcile has put a VM on the hypervisor. -/
structure Made (key : ObjectKey) (log : List LogEntry) (v : VirtualMachine) (id : String) :
    Prop where
  read : Read key log v
  arrived : arrivals log = [⟨providerKey v, id, v.objectMeta.name⟩]

/-- How the server's side of a Create ends. -/
def Created {ε : Type} (v : VirtualMachine) : Except ε CreateResponse → List LogEntry → Prop
  | .ok resp, log => CreateAnswered v log resp.id
  | .error _, log => Accounted log

theorem CreateAnswered.cons {v : VirtualMachine} {id : String}
    {e : LogEntry} (h : CreateAnswered v log id) (hentry : broughtUp e = none) :
    CreateAnswered v (e :: log) id := by
  have harrivals : arrivals (e :: log) = arrivals log := arrivals_cons_none hentry
  have hsubset : log ⊆ e :: log := subset_cons_self e log
  rcases h with ⟨huntouched, hrequested, hfound⟩ | hmade
  · exact .inl ⟨harrivals.trans huntouched, hrequested.mono hsubset, hfound.mono hsubset⟩
  · exact .inr (harrivals.trans hmade)

section Providers

variable {key : ObjectKey} {log : List LogEntry} {v : VirtualMachine} {req : CreateRequest}
  {id : String}

/-! One call of a program that works from the read version, and what it leaves. -/

section Steps

variable {α : Type} {c : Call} {f : Answer c → M α} {post : α → List LogEntry → Prop}

theorem Read.step (h : Read key log v) (hc : Read key log v → Allowed key log c)
    (hf : ∀ r, Read key (⟨c, r⟩ :: log) v → (f r).Obeys (Allowed key) post (⟨c, r⟩ :: log)) :
    (ask c >>= f).Obeys (Allowed key) post log := ⟨hc h, fun r => hf r h.cons⟩

section

variable (hc : Read key log v → Allowed key log c) (hentry : ∀ r, broughtUp ⟨c, r⟩ = none)
include hc hentry

theorem Start.step (h : Start key log v)
    (hf : ∀ r, Start key (⟨c, r⟩ :: log) v → (f r).Obeys (Allowed key) post (⟨c, r⟩ :: log)) :
    (ask c >>= f).Obeys (Allowed key) post log := ⟨hc h.read, fun r => hf r (h.cons (hentry r))⟩

theorem Serving.step (h : Serving key log v)
    (hf : ∀ r, Serving key (⟨c, r⟩ :: log) v → (f r).Obeys (Allowed key) post (⟨c, r⟩ :: log)) :
    (ask c >>= f).Obeys (Allowed key) post log :=
  ⟨hc h.read, fun r => hf r ⟨h.toStart.cons (hentry r),
    h.requested.mono (subset_cons_self _ log)⟩⟩

theorem Made.step (h : Made key log v id)
    (hf : ∀ r, Made key (⟨c, r⟩ :: log) v id → (f r).Obeys (Allowed key) post (⟨c, r⟩ :: log)) :
    (ask c >>= f).Obeys (Allowed key) post log :=
  ⟨hc h.read, fun r => hf r ⟨h.read.cons, (arrivals_cons_none (hentry r)).trans h.arrived⟩⟩

end

/-- A call that may put the VM on the hypervisor. -/
theorem Serving.bringUp (h : Serving key log v) (hc : Allowed key log c)
    (hf : ∀ r, (broughtUp ⟨c, r⟩ = none → Start key (⟨c, r⟩ :: log) v) →
      (∀ id, broughtUp ⟨c, r⟩ = some ⟨providerKey v, id, v.objectMeta.name⟩ →
        Made key (⟨c, r⟩ :: log) v id) → (f r).Obeys (Allowed key) post (⟨c, r⟩ :: log)) :
    (ask c >>= f).Obeys (Allowed key) post log := by
  refine ⟨hc, fun r => hf r h.toStart.cons fun id hentry => ⟨h.read.cons, ?_⟩⟩
  rw [arrivals_cons, hentry, h.untouched]

end Steps

theorem libvirt_create_obeys (h : Serving key log v) (hname : req.name = v.objectMeta.name) :
    (Libvirt.create (fun c => ask (.libvirt (providerKey v) c)) req).Obeys (Allowed key)
      (Created v) log := by
  unfold Libvirt.create Libvirt.createVMWithCloudInit
  refine h.step (fun h => ⟨v, h, rfl, trivial⟩) (fun _ => rfl) ?_
  rintro (err | domains) h
  · exact h.accounted
  dsimp only
  rw [hname]
  split
  · exact .inl ⟨h.untouched, h.requested, .libvirt domains ‹_› (.head _)⟩
  refine h.step (fun h => ⟨v, h, rfl, trivial⟩) (fun _ => rfl) ?_
  rintro (_ | err) h
  swap
  · exact h.accounted
  refine h.bringUp ⟨v, h.read, rfl, rfl, h.untouched, h.requested⟩ ?_
  rintro (_ | err) h hmade
  · exact .inr (hmade _ rfl).arrived
  · exact (h rfl).accounted

theorem vsphere_create_obeys (h : Serving key log v) (hname : req.name = v.objectMeta.name) :
    (Vsphere.create (fun c => ask (.vsphere (providerKey v) c)) req).Obeys (Allowed key)
      (Created v) log := by
  repeat' first
    | exact h.accounted
    | exact (h rfl).accounted
    | exact .inr (hmade _ (hname ▸ rfl)).arrived
    | exact .inl ⟨h.untouched, h.requested, hname ▸ .vsphere _ (.head _)⟩
    | refine h.step (fun h => ⟨v, h, rfl, trivial⟩) (fun _ => rfl) fun _ h => ?_
    | refine h.bringUp ⟨v, h.read, rfl, hname, h.untouched, h.requested⟩ fun _ h hmade => ?_
    | split
    | dsimp only [Program.bind]

/-- A shell whose attachment failed is accounted for whatever becomes of it. -/
theorem proxmox_deleteShell_obeys {vmid : Int} {node : String}
    (h : Made key log v (Go.formatInt vmid)) (haccounted : Accounted log) :
    (Proxmox.deleteShell (fun c => ask (.proxmox (providerKey v) c)) node vmid).Obeys
      (Allowed key) (fun _ log' => Accounted log') log := by
  have howned : ⟨providerKey v, Go.formatInt vmid, v.objectMeta.name⟩ ∈ arrivals log := by
    rw [h.arrived]
    exact .head _
  unfold Proxmox.deleteShell Proxmox.awaitTask
  refine obeys_perform ⟨v, h.read, rfl, .inr howned⟩ ?_
  rintro (err | task)
  · exact haccounted.cons rfl
  dsimp only
  split
  · exact obeys_perform ⟨v, h.read.cons, rfl, trivial⟩ fun _ => (haccounted.cons rfl).cons rfl
  · exact haccounted.cons rfl

variable {node : String} {config : Proxmox.VMConfig}

/-- How a clone of the template ends: with the VM, or in a failure that accounts for it. -/
def Cloned {ε α : Type} (key : ObjectKey) (v : VirtualMachine) (id : String) :
    Except ε α → List LogEntry → Prop
  | .ok _, log => Made key log v id
  | .error _, log => Accounted log

theorem proxmox_createFromTemplate_obeys (h : Serving key log v)
    (hname : config.name = v.objectMeta.name) (hnode : FoundNode v log node) :
    (Proxmox.createFromTemplate (fun c => ask (.proxmox (providerKey v) c)) req node config).Obeys
      (Allowed key) (Cloned key v (Go.formatInt config.vmid)) log := by
  unfold Proxmox.createFromTemplate Proxmox.applyVMClassSizing Proxmox.reconfigureCloudInit
    Proxmox.awaitTask
  split
  · exact h.accounted
  refine h.bringUp ⟨v, h.read, rfl, ⟨hname, h.untouched, h.requested⟩, hnode⟩ ?_
  rintro (err | task) h hmade
  · exact (h rfl).accounted
  replace h := hmade (Go.formatInt config.vmid) (hname ▸ rfl)
  dsimp only
  repeat' first
    | refine h.step (fun h => ⟨v, h, rfl, trivial⟩) (fun _ => rfl) fun _ h => ?_
    | split
    | dsimp only [Program.bind]
    | exact h
    | exact accounted_of_fails rfl rfl

section

variable (cfg : Proxmox.Config) (h : Serving key log v) (hname : config.name = v.objectMeta.name)
  (hnode : FoundNode v log node)
include cfg h hname hnode

theorem proxmox_createFromImportedDisk_obeys :
    (Proxmox.createFromImportedDisk (fun c => ask (.proxmox (providerKey v) c)) cfg req node
      config).Obeys (Allowed key) (Created v) log := by
  unfold Proxmox.createFromImportedDisk Proxmox.attachImportedDisk Proxmox.awaitTask
  split
  · exact h.accounted
  refine h.bringUp ⟨v, h.read, rfl, ⟨hname, h.untouched, h.requested⟩, hnode⟩ ?_
  rintro (err | task) h hmade
  · exact (h rfl).accounted
  replace h := hmade (Go.formatInt config.vmid) (hname ▸ rfl)
  dsimp only
  repeat' first
    | refine h.step (fun h => ⟨v, h, rfl, trivial⟩) (fun _ => rfl) fun _ h => ?_
    | split
    | exact (proxmox_deleteShell_obeys h (accounted_of_fails rfl rfl)).bind fun _ _ _ h => h
    | obtain ⟨_, rfl, -⟩ := Option.map_eq_some_iff.mp ‹_›
    | dsimp only [Program.bind]
    | exact .inr h.arrived
    | exact accounted_of_fails rfl rfl

theorem proxmox_createWith_obeys :
    (Proxmox.createWith (fun c => ask (.proxmox (providerKey v) c)) cfg req node config).Obeys
      (Allowed key) (Created v) log := by
  unfold Proxmox.createWith
  split
  · exact proxmox_createFromImportedDisk_obeys cfg h hname hnode
  split
  · refine (proxmox_createFromTemplate_obeys h hname hnode).bind ?_
    rintro (err | task) log' - hcloned
    · exact hcloned
    · exact .inr hcloned.arrived
  · refine h.bringUp ⟨v, h.read, rfl, ⟨hname, h.untouched, h.requested⟩, hnode⟩ ?_
    rintro (err | task) h hmade
    · exact (h rfl).accounted
    · exact .inr (hmade _ (hname ▸ rfl)).arrived

end

theorem proxmox_nextVMID_obeys (h : Serving key log v) :
    (Proxmox.nextVMID (fun c => ask (.proxmox (providerKey v) c))).Obeys (Allowed key)
      (fun _ log' => Serving key log' v) log := by
  repeat' first
    | exact h
    | refine h.step (fun h => ⟨v, h, rfl, trivial⟩) (fun _ => rfl) fun _ h => ?_
    | split

theorem proxmox_create_obeys (cfg : Proxmox.Config) (h : Serving key log v)
    (hname : req.name = v.objectMeta.name) :
    (Proxmox.create (fun c => ask (.proxmox (providerKey v) c)) cfg req).Obeys (Allowed key)
      (Created v) log := by
  refine Obeys.bind (P := fun parsed log' => Serving key log' v ∧ ∀ config node,
    parsed = .ok (config, node) → config.name = req.name ∧ FoundNode v log' node) ?_ ?_
  · refine (proxmox_nextVMID_obeys h).bind fun vmid log' _ h => ?_
    refine h.step (fun h => ⟨v, h, rfl, trivial⟩) (fun _ => rfl) ?_
    rintro (err | node) h
    · exact ⟨h, nofun⟩
    · refine ⟨h, ?_⟩
      rintro _ _ ⟨⟩
      exact ⟨rfl, .head _⟩
  rintro (err | ⟨config, node⟩) log₁ - ⟨h, hparsed⟩
  · exact h.accounted
  obtain ⟨hconfig, hnode⟩ := hparsed config node rfl
  refine h.step (fun h => ⟨v, h, rfl, trivial⟩) (fun _ => rfl) ?_
  rintro (err | existing) h
  · exact proxmox_createWith_obeys cfg h (hconfig.trans hname) (.tail _ hnode)
  dsimp only
  split
  · exact .inl ⟨h.untouched, h.requested,
      .proxmox node config.vmid existing (Eq.trans ‹_› hname) (.head _)⟩
  · refine (proxmox_nextVMID_obeys h).bind fun vmid log₂ hlog h => ?_
    exact proxmox_createWith_obeys cfg h (hconfig.trans hname)
      (hlog.subset (.tail _ hnode))

/-- Create, as the manager sees it: the request arrives or not, and the response is
received or not. -/
theorem providerCreate_obeys (cfg : Config) (type : ProviderType) (h : Start key log v)
    (hwants : WantsVM v log) (hname : req.name = v.objectMeta.name) :
    (providerCreate cfg (providerKey v) type req).Obeys (Allowed key) (Created v) log := by
  refine obeys_perform ⟨v, h.read, rfl, hname, h.untouched, hwants⟩ ?_
  rintro (_ | err)
  swap
  · exact (h.cons rfl).accounted
  have hserving : Serving key (⟨.request (providerKey v) (.create req), none⟩ :: log) v :=
    ⟨h.cons rfl, req, hname, .head _⟩
  refine Obeys.bind (P := Created v) ?_ ?_
  · cases type with
    | libvirt => exact libvirt_create_obeys hserving hname
    | vsphere => exact vsphere_create_obeys hserving hname
    | proxmox => exact proxmox_create_obeys cfg.proxmox hserving hname
    | firecracker | qemu => exact hserving.accounted
  · intro served log' _ hserved
    refine obeys_perform trivial ?_
    rintro (_ | err)
    · cases served with
      | ok resp => exact CreateAnswered.cons hserved rfl
      | error err => exact Accounted.cons hserved rfl
    · exact accounted_of_fails rfl rfl

/-- How the server's side of a Describe ends. -/
def Described {ε : Type} (key : ObjectKey) (v : VirtualMachine)
    (answer : Except ε DescribeResponse) (log : List LogEntry) : Prop :=
  Start key log v ∧ ∀ desc, answer = .ok desc → desc.doesExist = false → Gone v log

section

variable (h : Start key log v)
include h

theorem Described.of_error {ε : Type} {err : ε} :
    Described key v (.error err) log := ⟨h, nofun⟩

theorem Described.of_exists {ε : Type} {desc : DescribeResponse} (hdesc : desc.doesExist = true) :
    Described key v (.ok desc : Except ε _) log := by
  refine ⟨h, ?_⟩
  rintro _ ⟨⟩ habsent
  rw [hdesc] at habsent
  cases habsent

theorem libvirt_describe_obeys :
    (Libvirt.describe (fun c => ask (.libvirt (providerKey v) c)) v.status.id).Obeys (Allowed key)
      (Described key v) log := by
  repeat' first
    | exact .of_error h
    | exact .of_exists h rfl
    | refine h.step (fun h => ⟨v, h, rfl, trivial⟩) (fun _ => rfl) fun _ h => ?_
    | split

theorem vsphere_describe_obeys :
    (Vsphere.describe (fun c => ask (.vsphere (providerKey v) c)) v.status.id).Obeys (Allowed key)
      (Described key v) log := by
  repeat' first
    | exact .of_error h
    | exact .of_exists h rfl
    | exact ⟨h, fun _ _ _ => .vsphere _ (.head _)⟩
    | refine h.step (fun h => ⟨v, h, rfl, trivial⟩) (fun _ => rfl) fun _ h => ?_
    | split

theorem proxmox_parseVMReference_obeys (ref : String) :
    (Proxmox.parseVMReference (fun c => ask (.proxmox (providerKey v) c)) ref).Obeys (Allowed key)
      (fun parsed log' => Start key log' v ∧ ∀ vmid node, parsed = .ok (vmid, node) →
        Refers (providerKey v) ref log' vmid node) log := by
  unfold Proxmox.parseVMReference
  split
  · rename_i vmid hid
    refine h.step (fun h => ⟨v, h, rfl, trivial⟩) (fun _ => rfl) ?_
    rintro (err | node) h
    · exact ⟨h, nofun⟩
    · refine ⟨h, ?_⟩
      rintro _ _ ⟨⟩
      exact .inl ⟨hid, .head _⟩
  · rename_i hid
    split
    · rename_i node text hsplit
      split
      · refine ⟨h, ?_⟩
        rintro _ _ ⟨⟩
        exact .inr ⟨hid, text, by rw [hsplit, String.toList_ofList], ‹_›⟩
      · exact ⟨h, nofun⟩
    · exact ⟨h, nofun⟩

end

theorem proxmox_describe_obeys (cfg : Proxmox.Config) (h : Start key log v) :
    (Proxmox.describe (fun c => ask (.proxmox (providerKey v) c)) cfg v.status.id).Obeys
      (Allowed key) (Described key v) log := by
  refine (proxmox_parseVMReference_obeys h v.status.id).bind ?_
  rintro (err | ⟨vmid, node⟩) log' - ⟨h, hrefers⟩
  · exact ⟨h, nofun⟩
  have hrefers' := (hrefers vmid node rfl).mono (subset_cons_self
    ⟨.proxmox (providerKey v) (.getVM node vmid), .error .vmNotFound⟩ log')
  repeat' first
    | exact .of_error h
    | exact .of_exists h rfl
    | exact ⟨h, fun _ _ _ => .proxmox vmid node hrefers' (.head _)⟩
    | refine h.step (fun h => ⟨v, h, rfl, trivial⟩) (fun _ => rfl) fun _ h => ?_
    | split

theorem providerDescribe_obeys (cfg : Config) (type : ProviderType) (h : Start key log v) :
    (providerDescribe cfg (providerKey v) type v.status.id).Obeys (Allowed key)
      (Described key v) log := by
  refine h.step (fun h => ⟨v, h, rfl, rfl⟩) (fun _ => rfl) ?_
  rintro (_ | err) h
  swap
  · exact ⟨h, nofun⟩
  refine Obeys.bind (P := Described key v) ?_ ?_
  · cases type with
    | libvirt => exact libvirt_describe_obeys h
    | vsphere => exact vsphere_describe_obeys h
    | proxmox => exact proxmox_describe_obeys cfg.proxmox h
    | firecracker | qemu => exact ⟨h, nofun⟩
  · rintro served log' - ⟨h, hgone⟩
    refine h.step (fun _ => trivial) (fun _ => rfl) ?_
    rintro (_ | err) h
    swap
    · exact ⟨h, nofun⟩
    cases served with
    | ok desc =>
      refine ⟨h, ?_⟩
      rintro _ ⟨⟩ habsent
      exact (hgone desc rfl habsent).mono (subset_cons_self _ _)
    | error err => exact ⟨h, nofun⟩

theorem libvirt_deleteDiskFiles_obeys (h : Read key log v) (paths : List (List Char)) :
    (Libvirt.deleteDiskFiles (fun c => ask (.libvirt (providerKey v) c)) paths).Obeys
      (Allowed key) (fun _ log' => Read key log' v) log := by
  induction paths generalizing log with
  | nil => exact h
  | cons path paths ih => exact h.step (fun h => ⟨v, h, rfl, trivial⟩) fun _ h => ih h

theorem libvirt_delete_obeys (h : Read key log v) (hmay : MayTakeDown v v.status.id) :
    (Libvirt.delete (fun c => ask (.libvirt (providerKey v) c)) v.status.id).Heeds
      (Allowed key) log := by
  unfold Libvirt.delete Libvirt.cleanupOrphanedResources Libvirt.getDomainDiskPaths
    Libvirt.getCloudInitISOPath
  repeat' first
    | trivial
    | refine (libvirt_deleteDiskFiles_obeys h _).bind fun _ _ _ h => ?_
    | refine h.step (fun h => ⟨v, h, rfl, by trivial⟩) fun _ h => ?_
    | split
    | dsimp only [Program.bind]

theorem vsphere_delete_obeys (h : Read key log v) (hmay : MayTakeDown v v.status.id) :
    (Vsphere.delete (fun c => ask (.vsphere (providerKey v) c)) v.status.id).Heeds
      (Allowed key) log := by
  unfold Vsphere.delete Vsphere.powerOffFirst Vsphere.destroyVM
  repeat' first
    | trivial
    | refine h.step (fun h => ⟨v, h, rfl, by trivial⟩) fun _ h => ?_
    | split
    | dsimp only [Program.bind]

theorem proxmox_delete_obeys (h : Start key log v) (hmay : MayTakeDown v v.status.id) :
    (Proxmox.delete (fun c => ask (.proxmox (providerKey v) c)) v.status.id).Heeds
      (Allowed key) log := by
  unfold Proxmox.delete Proxmox.stopFirst Proxmox.awaitTask
  refine (proxmox_parseVMReference_obeys h v.status.id).bind ?_
  rintro (err | ⟨vmid, node⟩) log₁ - ⟨⟨h, -⟩, hrefers⟩
  · trivial
  have htakes : ∀ newer, ProxmoxAllowed v (newer ++ log₁) (.deleteVM node vmid) := fun newer =>
    .inl ⟨hmay, (hrefers vmid node rfl).mono (subset_append_right newer log₁)⟩
  repeat' first
    | trivial
    | refine h.step (fun h => ⟨v, h, rfl, by trivial⟩) fun _ h => ?_
    | refine h.step (fun h => ⟨v, h, rfl, htakes [_]⟩) fun _ h => ?_
    | refine h.step (fun h => ⟨v, h, rfl, htakes [_, _]⟩) fun _ h => ?_
    | refine h.step (fun h => ⟨v, h, rfl, htakes [_, _, _]⟩) fun _ h => ?_
    | split
    | dsimp only [Program.bind]

theorem providerDelete_obeys (type : ProviderType) (h : Start key log v)
    (hmay : MayTakeDown v v.status.id) :
    (providerDelete (providerKey v) type v.status.id).Obeys (Allowed key)
      (fun _ log' => Read key log' v) log := by
  refine h.step (fun h => ⟨v, h, rfl, hmay⟩) (fun _ => rfl) ?_
  rintro (_ | err) h
  swap
  · exact h.read
  refine Obeys.bind (P := fun _ _ => True) ?_ ?_
  · cases type with
    | libvirt => exact libvirt_delete_obeys h.read hmay
    | vsphere => exact vsphere_delete_obeys h.read hmay
    | proxmox => exact proxmox_delete_obeys h hmay
    | firecracker | qemu => trivial
  · intro served log' hlog _
    refine (h.read.mono hlog).step (fun _ => trivial) ?_
    rintro (_ | err) h <;> exact h

end Providers

end Virtrigaud.VM
