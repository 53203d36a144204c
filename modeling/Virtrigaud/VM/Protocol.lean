import Virtrigaud.VM.Reconcile

/-!
# What a reconcile may call, and when

The protocol of one reconcile of a VirtualMachine, in terms of its log: from which
version a VM is created, described and deleted, and where the ID comes from that a
status write persists. `broughtUp` are the calls that put a VM on a hypervisor.
-/

namespace Virtrigaud.VM

open Effects Program List

/-- The version a reconcile works from: its first call has read it. -/
def Read (key : ObjectKey) (log : List LogEntry) (v : VirtualMachine) : Prop :=
  log.getLast? = some ⟨.getVM key, .ok v⟩

variable {log log' : List LogEntry} {v : VirtualMachine}

theorem Read.mono {key : ObjectKey} (h : Read key log v) (hlog : log <:+ log') :
    Read key log' v := by
  obtain ⟨newer, rfl⟩ := hlog
  unfold Read at h ⊢
  rw [getLast?_append, h]
  rfl

variable {entry : LogEntry}

theorem Read.cons {key : ObjectKey} (h : Read key log v) : Read key (entry :: log) v :=
  h.mono (suffix_cons entry log)

theorem Read.unique {key other : ObjectKey} {w : VirtualMachine}
    (h : Read key log v) (h' : Read other log w) : key = other ∧ v = w := by
  unfold Read at h h'
  rw [h] at h'
  cases h'
  exact ⟨rfl, rfl⟩

/-- A VM as a provider presents it: the provider, the ID and the name. -/
structure Sighting where
  provider : ObjectKey
  (id name : String)
  deriving DecidableEq, Repr

/-- The VM that a call has put on the hypervisor. -/
def broughtUp : LogEntry → Option Sighting
  | ⟨.libvirt provider (.defineDomain name), none⟩ => some ⟨provider, name, name⟩
  | ⟨.vsphere provider (.createVirtualMachine req), .ok ref⟩ => some ⟨provider, ref, req.name⟩
  | ⟨.proxmox provider (.createVM _ config), .ok _⟩ =>
    some ⟨provider, Go.formatInt config.vmid, config.name⟩
  | ⟨.proxmox provider (.cloneVM _ _ config), .ok _⟩ =>
    some ⟨provider, Go.formatInt config.vmid, config.name⟩
  | _ => none

/-- The VMs that the calls of a log have put on the hypervisor. -/
def arrivals (log : List LogEntry) : List Sighting := log.filterMap broughtUp

/-- A failure that makes a Create end without its VM being recorded. -/
def fails : LogEntry → Bool
  | ⟨.proxmox _ (.waitForTask _ _), some _⟩ => true
  | ⟨.proxmox _ (.reconfigureVM _ _ _), .error _⟩ => true
  | ⟨.proxmox _ (.importDisk _ _ _ _), .error _⟩ => true
  | ⟨.proxmox _ (.attachDisk _ _), some _⟩ => true
  | ⟨.response _ _, some _⟩ => true
  | ⟨.statusUpdate _, some _⟩ => true
  | _ => false

/-- Something failed after a VM was put on the hypervisor. -/
def troubled : List LogEntry → Bool
  | [] => false
  | entry :: older => troubled older || (fails entry && !(arrivals older).isEmpty)

/-- No VM is left without a record by what happened so far. -/
def Accounted (log : List LogEntry) : Prop := arrivals log = [] ∨ troubled log = true

@[simp] theorem arrivals_cons (entry : LogEntry) (log : List LogEntry) :
    arrivals (entry :: log) =
      (match broughtUp entry with
      | some arrival => arrival :: arrivals log
      | none => arrivals log) := by
  unfold arrivals
  rw [filterMap_cons]
  cases broughtUp entry <;> rfl

theorem arrivals_cons_none (h : broughtUp entry = none) :
    arrivals (entry :: log) = arrivals log := by
  rw [arrivals_cons, h]

theorem troubled_mono (h : troubled log = true) (hlog : log <:+ log') :
    troubled log' = true := by
  obtain ⟨newer, rfl⟩ := hlog
  induction newer with
  | nil => exact h
  | cons entry newer ih => simp [troubled, ih]

/-- A call that puts no VM on the hypervisor leaves none without a record. -/
theorem Accounted.cons (h : Accounted log) (hentry : broughtUp entry = none) :
    Accounted (entry :: log) := by
  rcases h with harrivals | htroubled
  · exact .inl ((arrivals_cons_none hentry).trans harrivals)
  · exact .inr (troubled_mono htroubled (suffix_cons entry log))

/-- A failure accounts for the VM whose Create it ends. -/
theorem accounted_of_fails (hentry : broughtUp entry = none) (hfails : fails entry = true) :
    Accounted (entry :: log) := by
  by_cases harrivals : arrivals log = []
  · exact .inl ((arrivals_cons_none hentry).trans harrivals)
  · right
    simp [troubled, hfails, harrivals]

/-- How a VM reference denotes a VMID on a node, by what the log has looked up. -/
def Refers (provider : ObjectKey) (id : String) (log : List LogEntry) (vmid : Int)
    (node : String) : Prop :=
  (Go.atoi id = some vmid ∧ (⟨.proxmox provider .findNode, .ok node⟩ : LogEntry) ∈ log) ∨
    (Go.atoi id = none ∧ ∃ text, id.toList.splitOn ':' = [node.toList, text] ∧
      Go.atoi (String.ofList text) = some vmid)

/-- Describe has answered that the VM of the version does not exist. -/
inductive Gone (v : VirtualMachine) (log : List LogEntry) : Prop
  | vsphere (err : Vsphere.VimError) :
      (⟨.vsphere (providerKey v) (.retrieve v.status.id), .error err⟩ : LogEntry) ∈ log →
      Gone v log
  | proxmox (vmid : Int) (node : String) : Refers (providerKey v) v.status.id log vmid node →
      (⟨.proxmox (providerKey v) (.getVM node vmid), .error .vmNotFound⟩ : LogEntry) ∈ log →
      Gone v log

/-- Create has found a VM under the object's name. -/
inductive Found (v : VirtualMachine) (log : List LogEntry) : String → Prop
  | libvirt (domains : List String) : v.objectMeta.name ∈ domains →
      (⟨.libvirt (providerKey v) .listDomains, .ok domains⟩ : LogEntry) ∈ log →
      Found v log v.objectMeta.name
  | vsphere (ref : String) :
      (⟨.vsphere (providerKey v) (.findVirtualMachine v.objectMeta.name), .ok ref⟩ : LogEntry) ∈
        log → Found v log ref
  | proxmox (node : String) (vmid : Int) (vm : Proxmox.VM) : vm.name = v.objectMeta.name →
      (⟨.proxmox (providerKey v) (.getVM node vmid), .ok vm⟩ : LogEntry) ∈ log →
      Found v log (Go.formatInt vmid)

theorem Refers.mono {provider : ObjectKey} {id : String} {vmid : Int}
    {node : String} (h : Refers provider id log vmid node) (hlog : log ⊆ log') :
    Refers provider id log' vmid node := by
  rcases h with ⟨hid, hnode⟩ | hid
  · exact .inl ⟨hid, hlog hnode⟩
  · exact .inr hid

theorem Gone.mono (h : Gone v log) (hlog : log ⊆ log') : Gone v log' := by
  cases h with
  | vsphere err hmem => exact .vsphere err (hlog hmem)
  | proxmox vmid node hrefers hmem => exact .proxmox vmid node (hrefers.mono hlog) (hlog hmem)

theorem Found.mono {id : String} (h : Found v log id) (hlog : log ⊆ log') : Found v log' id := by
  cases h with
  | libvirt domains hname hmem => exact .libvirt domains hname (hlog hmem)
  | vsphere _ hmem => exact .vsphere _ (hlog hmem)
  | proxmox node vmid vm hname hmem => exact .proxmox node vmid vm hname (hlog hmem)

/-- The Create of this reconcile has reached its provider. -/
def Requested (v : VirtualMachine) (log : List LogEntry) : Prop :=
  ∃ req : CreateRequest, req.name = v.objectMeta.name ∧
    (⟨.request (providerKey v) (.create req), none⟩ : LogEntry) ∈ log

theorem Requested.mono (h : Requested v log) (hlog : log ⊆ log') : Requested v log' := by
  obtain ⟨req, hname, hmem⟩ := h
  exact ⟨req, hname, hlog hmem⟩

/-- Create has answered this ID: that of a VM it found, or of the one it made. -/
def CreateAnswered (v : VirtualMachine) (log : List LogEntry) (id : String) : Prop :=
  (arrivals log = [] ∧ Requested v log ∧ Found v log id) ∨
    arrivals log = [⟨providerKey v, id, v.objectMeta.name⟩]

/-- Where the ID comes from that a status write persists. -/
inductive IdSource (v : VirtualMachine) (log : List LogEntry) : String → Prop
  | kept : Accounted log → IdSource v log v.status.id
  | forgotten : Gone v log → Accounted log → IdSource v log ""
  | answered {id : String} : CreateAnswered v log id → IdSource v log id

/-- The version calls for a VM to be created: it is no adopted one without an ID, or the
VM under its ID was not found. -/
def WantsVM (v : VirtualMachine) (log : List LogEntry) : Prop :=
  v.objectMeta.deletionTimestamp.isSome = false ∧
    ((v.status.id = "" ∧ vmIsAdopted v = false) ∨ (v.status.id ≠ "" ∧ Gone v log))

theorem WantsVM.mono (h : WantsVM v log) (hlog : log ⊆ log') : WantsVM v log' :=
  ⟨h.1, h.2.imp_right fun hgone => ⟨hgone.1, hgone.2.mono hlog⟩⟩

section

variable (v : VirtualMachine) (log : List LogEntry)

/-- A VM may be put on the hypervisor under this name: nothing was yet, and Create was
called. -/
def MayBringUp (name : String) : Prop :=
  name = v.objectMeta.name ∧ arrivals log = [] ∧ Requested v log

/-- The VM under this ID may be taken off the hypervisor. -/
def MayTakeDown (id : String) : Prop :=
  id = v.status.id ∧ id ≠ "" ∧ v.objectMeta.deletionTimestamp.isSome = true

def LibvirtAllowed : Libvirt.Call → Prop
  | .defineDomain name => MayBringUp v log name
  | .destroyDomain id => MayTakeDown v id
  | .undefineDomain id => MayTakeDown v id
  | _ => True

def VsphereAllowed : Vsphere.Call → Prop
  | .createVirtualMachine req => MayBringUp v log req.name
  | .powerOff id => MayTakeDown v id
  | .destroy id => MayTakeDown v id
  | _ => True

/-- A node that FindNode has answered. -/
def FoundNode (node : String) : Prop :=
  (⟨.proxmox (providerKey v) .findNode, .ok node⟩ : LogEntry) ∈ log

def ProxmoxAllowed : Proxmox.Call → Prop
  | .createVM node config => MayBringUp v log config.name ∧ FoundNode v log node
  | .cloneVM node _ config => MayBringUp v log config.name ∧ FoundNode v log node
  | .deleteVM node vmid =>
      (MayTakeDown v v.status.id ∧ Refers (providerKey v) v.status.id log vmid node) ∨
        ⟨providerKey v, Go.formatInt vmid, v.objectMeta.name⟩ ∈ arrivals log
  | _ => True

def RpcAllowed : Rpc → Prop
  | .create req => req.name = v.objectMeta.name ∧ arrivals log = [] ∧ WantsVM v log
  | .describe id => id = v.status.id
  | .delete id => MayTakeDown v id

/-- A write of metadata only changes the finalizers. -/
def FinalizersOnly (vm : VirtualMachine) : Prop :=
  vm.spec = v.spec ∧ ∃ finalizers, vm.objectMeta = { v.objectMeta with finalizers }

end

/-- The calls that are made only in certain situations. -/
def Allowed (key : ObjectKey) (log : List LogEntry) : Call → Prop
  | .getVM k => k = key ∧ log = []
  | .updateVM vm => ∃ v, Read key log v ∧ FinalizersOnly v vm
  | .statusUpdate vm => ∃ v, Read key log v ∧ vm.objectMeta = v.objectMeta ∧ vm.spec = v.spec ∧
      IdSource v log vm.status.id
  | .request provider rpc => ∃ v, Read key log v ∧ provider = providerKey v ∧ RpcAllowed v log rpc
  | .libvirt provider c => ∃ v, Read key log v ∧ provider = providerKey v ∧ LibvirtAllowed v log c
  | .vsphere provider c => ∃ v, Read key log v ∧ provider = providerKey v ∧ VsphereAllowed v log c
  | .proxmox provider c => ∃ v, Read key log v ∧ provider = providerKey v ∧ ProxmoxAllowed v log c
  | _ => True

end Virtrigaud.VM
