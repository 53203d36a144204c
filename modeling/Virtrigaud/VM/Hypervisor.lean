import Virtrigaud.VM.Calls

/-!
# The VMs of one hypervisor

What a provider works on: the VMs that exist, each under its own ID, and a record of
all IDs with the names they have stood for. A libvirt domain is identified by its name,
a VM of vSphere by its reference, and one of Proxmox by its VMID.
-/

namespace Virtrigaud.VM

open List

/-- A VM on a hypervisor; `managed` ones were put there for a VirtualMachine. -/
structure Machine where
  name : String
  ref : String := ""
  vmid : Nat := 0
  node : String := ""
  managed : Bool := false
  deriving DecidableEq, Repr

/-- The ID that the provider of this kind gives the VM. -/
def Machine.id (kind : ProviderType) (m : Machine) : String :=
  match kind with
  | .libvirt => m.name
  | .proxmox => Go.formatInt m.vmid
  | _ => m.ref

/-- Every VM has an ID; PVE knows no VMID above the bound. -/
def Machine.Valid (kind : ProviderType) (m : Machine) : Prop :=
  m.id kind ≠ "" ∧ m.vmid ≤ 999999999

instance (kind : ProviderType) (m : Machine) : Decidable (m.Valid kind) :=
  inferInstanceAs (Decidable (_ ∧ _))

variable {m : Machine}

/-- A VMID prints to an ID that denotes it. -/
theorem Machine.Valid.atoi (h : m.Valid .proxmox) :
    Go.atoi (m.id .proxmox) = some (m.vmid : Int) := by
  have hbound : m.vmid ≤ 9223372036854775807 := by
    have := h.2
    omega
  exact Go.atoi_formatInt m.vmid hbound

structure Hypervisor (kind : ProviderType) where
  machines : List Machine
  /-- Every ID that ever was in use, with every name it stood for. -/
  records : List (String × String)
  valid : ∀ m ∈ machines, m.Valid kind
  distinct : (machines.map (Machine.id kind)).Nodup
  recorded : ∀ m ∈ machines, (m.id kind, m.name) ∈ records
  named : kind = .libvirt → ∀ record ∈ records, record.1 = record.2

namespace Hypervisor

/-- A hypervisor without VMs. -/
def empty (kind : ProviderType) : Hypervisor kind where
  machines := []
  records := []
  valid := nofun
  distinct := nodup_nil
  recorded := nofun
  named := nofun

variable {kind : ProviderType} (h : Hypervisor kind)

/-- The VM under an ID. -/
def find (id : String) : Option Machine := h.machines.find? fun m => m.id kind = id

/-- The VMs that were put there for a VirtualMachine. -/
def managed : List Machine := h.machines.filter (·.managed)

/-- A new VM, unless its ID is in use or none. -/
def add (m : Machine) : Option (Hypervisor kind) :=
  if hnew : m.Valid kind ∧ m.id kind ∉ h.machines.map (Machine.id kind) then
    some {
      machines := m :: h.machines
      records := (m.id kind, m.name) :: h.records
      valid := forall_mem_cons.mpr ⟨hnew.1, h.valid⟩
      distinct := nodup_cons.mpr ⟨hnew.2, h.distinct⟩
      recorded := forall_mem_cons.mpr
        ⟨.head _, fun m hm => .tail _ (h.recorded m hm)⟩
      named := by
        intro hkind
        subst hkind
        exact forall_mem_cons.mpr ⟨rfl, h.named rfl⟩ }
  else none

def remove (id : String) : Hypervisor kind where
  machines := h.machines.filter fun m => m.id kind ≠ id
  records := h.records
  valid m hm := h.valid m (mem_of_mem_filter hm)
  distinct := h.distinct.sublist (filter_sublist.map _)
  recorded m hm := h.recorded m (mem_of_mem_filter hm)
  named := h.named

/-- The VM after it was renamed or moved to another node. -/
def altered (kind : ProviderType) (id name node : String) (m : Machine) : Machine :=
  if kind ≠ .libvirt ∧ m.id kind = id then { m with name, node } else m

theorem altered_id (id name node : String) (m : Machine) :
    (altered kind id name node m).id kind = m.id kind := by
  unfold altered
  split
  · rename_i hm
    cases kind with
    | libvirt => exact absurd rfl hm.1
    | _ => rfl
  · rfl

variable {id : String}

theorem altered_valid {name node : String} (hm : m.Valid kind) :
    (altered kind id name node m).Valid kind := by
  refine ⟨?_, ?_⟩
  · rw [altered_id]
    exact hm.1
  · have hvmid : (altered kind id name node m).vmid = m.vmid := by
      unfold altered
      split <;> rfl
    rw [hvmid]
    exact hm.2

/-- Rename a VM, or move it to another node. A domain that is renamed is another one. -/
def alter (id name node : String) : Hypervisor kind where
  machines := h.machines.map (altered kind id name node)
  records := h.machines.map (fun m =>
    (m.id kind, (altered kind id name node m).name)) ++ h.records
  valid := by
    intro m hm
    obtain ⟨old, hold, rfl⟩ := mem_map.mp hm
    exact altered_valid (h.valid old hold)
  distinct := by
    have hids : (h.machines.map (altered kind id name node)).map (Machine.id kind) =
        h.machines.map (Machine.id kind) := by
      rw [map_map]
      exact map_congr_left fun m _ => altered_id id name node m
    rw [hids]
    exact h.distinct
  recorded := by
    intro m hm
    obtain ⟨old, hold, rfl⟩ := mem_map.mp hm
    rw [altered_id]
    exact mem_append_left _ (mem_map_of_mem hold)
  named := by
    intro hkind record hrecord
    subst hkind
    rcases mem_append.mp hrecord with hnew | hold
    · obtain ⟨m, -, rfl⟩ := mem_map.mp hnew
      rfl
    · exact h.named rfl record hold

variable {h}

theorem find_eq_some (hfind : h.find id = some m) : m ∈ h.machines ∧ m.id kind = id :=
  ⟨mem_of_find?_eq_some hfind, by simpa using find?_some hfind⟩

theorem recorded_of_find (hfind : h.find id = some m) : (id, m.name) ∈ h.records := by
  obtain ⟨hmem, rfl⟩ := find_eq_some hfind
  exact h.recorded m hmem

theorem isSome_find : (h.find id).isSome = true ↔ ∃ m ∈ h.machines, m.id kind = id := by
  simp [find]

theorem add_eq_some {h' : Hypervisor kind} (hadd : h.add m = some h') :
    h'.machines = m :: h.machines ∧ h'.records = (m.id kind, m.name) :: h.records := by
  unfold add at hadd
  split at hadd
  · cases hadd
    exact ⟨rfl, rfl⟩
  · cases hadd

variable (h)

def virsh : (c : Libvirt.Call) → Option (Libvirt.Answer c × Hypervisor kind)
  | .defineDomain name => (h.add { name, managed := true }).map (none, ·)
  | .undefineDomain id => some (none, h.remove id)
  | _ => none

/-- vCenter gives a new VM its reference. -/
def vcenter (ref : String) : (c : Vsphere.Call) → Option (Vsphere.Answer c × Hypervisor kind)
  | .createVirtualMachine req =>
    (h.add { name := req.name, ref, managed := true }).map (.ok ref, ·)
  | .destroy id => some (none, h.remove id)
  | _ => none

/-- The VM that Create puts on a node. -/
def machineOf (node : String) (config : Proxmox.VMConfig) : Machine :=
  { name := config.name, vmid := config.vmid.toNat, node, managed := true }

/-- Requests that PVE accepts start a task. -/
def pve (task : String) : (c : Proxmox.Call) → Option (Proxmox.Answer c × Hypervisor kind)
  | .createVM node config =>
    if 0 ≤ config.vmid then (h.add (machineOf node config)).map (.ok task, ·) else none
  | .cloneVM node _ config =>
    if 0 ≤ config.vmid then (h.add (machineOf node config)).map (.ok task, ·) else none
  | .deleteVM node vmid =>
    if (h.find (Go.formatInt vmid)).any (·.node = node) then
      some (.ok task, h.remove (Go.formatInt vmid))
    else none
  | _ => none

/-! ### Calls that leave the VMs as they are

Queries answer what is there, or fail. A call that would change something has failed. -/

def virshTruthful : (c : Libvirt.Call) → Libvirt.Answer c → Bool
  | .listDomains, .ok domains => domains = h.machines.map (·.name)
  | .defineDomain _, answer => answer.isSome
  | .undefineDomain _, answer => answer.isSome
  | _, _ => true

/-- A fault that says the object does not exist is true; other errors come at any time. -/
def vcenterTruthful : (c : Vsphere.Call) → Vsphere.Answer c → Bool
  | .findVirtualMachine name, .ok ref => (h.find ref).any (·.name = name)
  | .createVirtualMachine _, .ok _ => false
  | .retrieve id, .ok _ => (h.find id).isSome
  | .retrieve id, .error err =>
    (h.find id).isNone || decide (err.fault ≠ some .managedObjectNotFound)
  | .destroy _, answer => answer.isSome
  | _, _ => true

/-- PVE looks for a VM only on the node of the request. -/
def pveTruthful : (c : Proxmox.Call) → Proxmox.Answer c → Bool
  | .getVM node vmid, .ok vm =>
    (h.find (Go.formatInt vmid)).any fun m => m.node = node ∧ m.name = vm.name
  | .getVM node vmid, .error .vmNotFound => (h.find (Go.formatInt vmid)).all (·.node ≠ node)
  | .createVM _ _, .ok _ => false
  | .cloneVM _ _ _, .ok _ => false
  | .deleteVM _ _, .ok _ => false
  | _, _ => true

end Hypervisor

end Virtrigaud.VM
