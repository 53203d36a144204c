import Virtrigaud.Providers.Libvirt.Lifecycle
import Virtrigaud.Providers.Proxmox.Lifecycle
import Virtrigaud.Providers.Vsphere.Lifecycle

/-!
# What the VirtualMachine controller calls

`Call` lists every point where `VirtualMachineReconciler`, or a provider that serves
it, leaves its own code. An RPC is a request that reaches the provider or not, what the
provider then does on its hypervisor, and a response that reaches the manager or not.
A provider is named by the key of its Provider object.
-/

namespace Virtrigaud.VM

open Effects

/-- The RPCs that create, describe and delete a VM. -/
inductive Rpc
  | create (req : CreateRequest)
  | describe (id : String)
  | delete (id : String)
  deriving DecidableEq, Repr

/-- What a provider answers to an RPC. -/
inductive Served
  | create (req : CreateRequest) (result : Except GrpcError CreateResponse)
  | describe (id : String) (result : Except GrpcError DescribeResponse)
  | delete (id : String) (result : Except GrpcError String)

/-- How `EnsureImageOnProvider` ends; it leaves the VMImage as it is then. -/
inductive ImageEnsured
  | ready (image : Option VMImage)
  | preparing
  | held
  | failed (err : GoError)

inductive Call
  | getVM (key : ObjectKey)
  | updateVM (vm : VirtualMachine)
  | statusUpdate (vm : VirtualMachine)
  | getProvider (key : ObjectKey)
  | getClass (key : ObjectKey)
  | getImage (key : ObjectKey)
  | getNetwork (key : ObjectKey)
  | getSecret (key : ObjectKey)
  | getProviderInstance (provider : ObjectKey)
  | ensureImage (vm : VirtualMachine) (image : Option VMImage) (provider : ObjectKey)
  | isTaskComplete (provider : ObjectKey) (taskRef : String)
  | power (provider : ObjectKey) (id : String) (op : PowerOp)
  | reconfigure (provider : ObjectKey) (id : String) (desired : CreateRequest)
  | request (provider : ObjectKey) (rpc : Rpc)
  | response (provider : ObjectKey) (served : Served)
  | libvirt (provider : ObjectKey) (c : Libvirt.Call)
  | vsphere (provider : ObjectKey) (c : Vsphere.Call)
  | proxmox (provider : ObjectKey) (c : Proxmox.Call)
  | now

@[reducible] def Answer : Call → Type
  | .getVM _ => Except GoError VirtualMachine
  | .updateVM _ => Option GoError
  | .statusUpdate _ => Option GoError
  | .getProvider _ => Except GoError Provider
  | .getClass _ => Except GoError VMClass
  | .getImage _ => Except GoError VMImage
  | .getNetwork _ => Except GoError VMNetworkAttachment
  | .getSecret _ => Except GoError Secret
  | .getProviderInstance _ => Option GoError
  | .ensureImage _ _ _ => ImageEnsured
  | .isTaskComplete _ _ => Except GoError Bool
  | .power _ _ _ => Except GoError String
  | .reconfigure _ _ _ => Except GoError String
  | .request _ _ => Option GrpcError
  | .response _ _ => Option GrpcError
  | .libvirt _ c => Libvirt.Answer c
  | .vsphere _ c => Vsphere.Answer c
  | .proxmox _ c => Proxmox.Answer c
  | .now => Time

/-- A computation of the controller and of the providers it calls. -/
abbrev M := Program Call Answer

/-- Make one call. -/
def ask (c : Call) : M (Answer c) := .perform c

abbrev LogEntry := Event Call Answer

/-- Run an RPC: the request may be lost, and so may the response of what was done. -/
def callProvider {α : Type} (provider : ObjectKey) (operation : String) (rpc : Rpc)
    (answer : Except GrpcError α → Served) (serve : M (Except GrpcError α)) :
    M (Except GoError α) := do
  match ← ask (.request provider rpc) with
  | some err => return .error (mapGRPCError operation err)
  | none =>
  let served ← serve
  match ← ask (.response provider (answer served)) with
  | some err => return .error (mapGRPCError operation err)
  | none => return served.mapError (mapGRPCError operation)

/-- The configuration of the providers, which their pods are started with. -/
structure Config where
  proxmox : Proxmox.Config := {}

/-- The server of a type without a provider in this repository. -/
def unimplemented {α : Type} (operation : String) : M (Except GrpcError α) :=
  return .error ⟨.internal, operation ++ " is not implemented"⟩

section

variable (cfg : Config) (provider : ObjectKey)

def providerCreate (type : ProviderType) (req : CreateRequest) :
    M (Except GoError CreateResponse) :=
  callProvider provider "create" (.create req) (.create req)
    (match type with
    | .libvirt => Libvirt.create (fun c => ask (.libvirt provider c)) req
    | .vsphere => Vsphere.create (fun c => ask (.vsphere provider c)) req
    | .proxmox => Proxmox.create (fun c => ask (.proxmox provider c)) cfg.proxmox req
    | _ => unimplemented "Create")

def providerDescribe (type : ProviderType) (id : String) : M (Except GoError DescribeResponse) :=
  callProvider provider "describe" (.describe id) (.describe id)
    (match type with
    | .libvirt => Libvirt.describe (fun c => ask (.libvirt provider c)) id
    | .vsphere => Vsphere.describe (fun c => ask (.vsphere provider c)) id
    | .proxmox => Proxmox.describe (fun c => ask (.proxmox provider c)) cfg.proxmox id
    | _ => unimplemented "Describe")

def providerDelete (type : ProviderType) (id : String) : M (Except GoError String) :=
  callProvider provider "delete" (.delete id) (.delete id)
    (match type with
    | .libvirt => Libvirt.delete (fun c => ask (.libvirt provider c)) id
    | .vsphere => Vsphere.delete (fun c => ask (.vsphere provider c)) id
    | .proxmox => Proxmox.delete (fun c => ask (.proxmox provider c)) id
    | _ => unimplemented "Delete")

end

end Virtrigaud.VM
