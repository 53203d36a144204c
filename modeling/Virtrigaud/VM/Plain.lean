import Virtrigaud.VM.Reconcile

/-!
# Calls that only look or only serve

What a provider does to serve an RPC, and what the controller reads besides the object and
its class, are plain calls: they neither write an object, nor ask for a VM to be made or
changed, nor report on a task or an image.
-/

namespace Virtrigaud.VM

open Effects Program

def plain : Call → Bool
  | .getProvider _ | .getImage _ | .getNetwork _ | .getSecret _ | .getProviderInstance _
  | .libvirt _ _ | .vsphere _ _ | .proxmox _ _ | .now => true
  | .request _ (.describe _) | .request _ (.delete _) => true
  | .response _ (.describe _ _) | .response _ (.delete _ _) => true
  | _ => false

/-- All calls of the program are plain. -/
abbrev Plain {α : Type} (p : M α) : Prop := p.Only fun c => plain c = true

section Providers

variable (provider : ObjectKey)

theorem libvirt_deleteDiskFiles_plain (paths : List (List Char)) :
    Plain (Libvirt.deleteDiskFiles (fun c => ask (.libvirt provider c)) paths) := by
  induction paths with
  | nil => trivial
  | cons path paths ih => exact only_perform rfl fun _ => ih

theorem proxmox_create_plain (cfg : Proxmox.Config) (req : CreateRequest) :
    Plain (Proxmox.create (fun c => ask (.proxmox provider c)) cfg req) := by
  refine Proxmox.create_only (fun c => ?_) cfg req
  exact ⟨rfl, fun _ => trivial⟩

/-- What serves a Create. -/
theorem serveCreate_plain (cfg : Config) (type : ProviderType) (req : CreateRequest) :
    Plain (match type with
      | .libvirt => Libvirt.create (fun c => ask (.libvirt provider c)) req
      | .vsphere => Vsphere.create (fun c => ask (.vsphere provider c)) req
      | .proxmox => Proxmox.create (fun c => ask (.proxmox provider c)) cfg.proxmox req
      | _ => unimplemented "Create") := by
  repeat' first
    | trivial
    | exact proxmox_create_plain provider cfg.proxmox req
    | exact only_perform rfl fun _ => trivial
    | refine only_perform rfl fun _ => ?_
    | refine Only.bind ?_ fun _ => ?_
    | split

/-- What serves a Describe. -/
theorem serveDescribe_plain (cfg : Config) (type : ProviderType) (id : String) :
    Plain (match type with
      | .libvirt => Libvirt.describe (fun c => ask (.libvirt provider c)) id
      | .vsphere => Vsphere.describe (fun c => ask (.vsphere provider c)) id
      | .proxmox => Proxmox.describe (fun c => ask (.proxmox provider c)) cfg.proxmox id
      | _ => unimplemented "Describe") := by
  unfold Libvirt.describe Vsphere.describe Proxmox.describe Proxmox.parseVMReference
  repeat' first
    | trivial
    | exact only_perform rfl fun _ => trivial
    | refine only_perform rfl fun _ => ?_
    | refine Only.bind ?_ fun _ => ?_
    | split

/-- What serves a Delete. -/
theorem serveDelete_plain (type : ProviderType) (id : String) :
    Plain (match type with
      | .libvirt => Libvirt.delete (fun c => ask (.libvirt provider c)) id
      | .vsphere => Vsphere.delete (fun c => ask (.vsphere provider c)) id
      | .proxmox => Proxmox.delete (fun c => ask (.proxmox provider c)) id
      | _ => unimplemented "Delete") := by
  unfold Libvirt.delete Vsphere.delete Vsphere.powerOffFirst Vsphere.destroyVM Proxmox.delete
    Proxmox.parseVMReference Proxmox.stopFirst Proxmox.awaitTask
  repeat' first
    | trivial
    | exact libvirt_deleteDiskFiles_plain _ _
    | exact only_perform rfl fun _ => trivial
    | refine only_perform rfl fun _ => ?_
    | refine Only.bind ?_ fun _ => ?_
    | split

end Providers

/-- The calls that read what a request is built from. -/
def reading : Call → Bool
  | .getImage _ | .getNetwork _ | .getSecret _ => true
  | _ => false

theorem plain_of_reading {c : Call} (h : reading c = true) : plain c = true := by
  cases c <;> first | rfl | cases h

theorem plain_of_only {α : Type} {p : M α} (h : p.Only (reading · = true)) : Plain p :=
  h.mono fun _ => plain_of_reading

theorem getNetworks_reads (ns : String) (refs : List VMNetworkRef) :
    (getNetworks ns refs).Only (reading · = true) := by
  induction refs with
  | nil => trivial
  | cons netRef refs ih =>
    unfold getNetworks
    split
    · exact Only.bind ih fun _ => trivial
    · refine only_perform rfl ?_
      rintro (err | network)
      · trivial
      · exact Only.bind ih fun _ => trivial

theorem getVMImage_reads (vm : VirtualMachine) : (getVMImage vm).Only (reading · = true) := by
  unfold getVMImage
  split
  · trivial
  · refine only_perform rfl ?_
    rintro (err | image) <;> trivial

theorem buildCreateRequest_reads (vm : VirtualMachine) (deps : Dependencies) :
    (buildCreateRequest vm deps).Only (reading · = true) := by
  unfold buildCreateRequest resolveOptional resolveCloudInitUserData resolveCloudInitMetaData
    cloudInitParts
  repeat' first
    | trivial
    | refine only_perform rfl fun _ => ?_
    | refine Only.bind ?_ fun _ => ?_
    | split

/-- A request that could be built is for a VM of the object's name and of its class. -/
theorem buildCreateRequest_returns (vm : VirtualMachine) (deps : Dependencies) :
    (buildCreateRequest vm deps).Returns (OnOk fun req =>
      req.vmClass = convertClass deps.vmClass.spec ∧ req.name = vm.objectMeta.name) := by
  refine (returns_true _).bind ?_
  rintro (err | userData) -
  · trivial
  refine (returns_true _).bind ?_
  rintro (err | metaData) -
  · trivial
  · exact ⟨rfl, rfl⟩

end Virtrigaud.VM
