import Virtrigaud.Api.Clone
import Virtrigaud.Effects.Program

/-!
# What the clone controller calls

`Call` lists every point where `VMCloneReconciler` leaves its own code. A provider client
is named by the key of its Provider object. `classJSON` and `placementJSON` write the class and
the placement of the target as JSON, with the keys of the API types.
-/

namespace Virtrigaud.Clone

open Effects

inductive Call
  | getClone (key : ObjectKey)
  | updateClone (clone : VMClone)
  | statusUpdate (clone : VMClone)
  | getVirtualMachine (key : ObjectKey)
  | createVirtualMachine (vm : VirtualMachine)
  | vmStatusUpdate (vm : VirtualMachine)
  | getClass (key : ObjectKey)
  | getProvider (key : ObjectKey)
  | getProviderInstance (provider : ObjectKey)
  | supportsLinkedClones (provider : ObjectKey)
  | isCloner (provider : ObjectKey)
  | clone (provider : ObjectKey) (req : CloneRequest)
  | isTaskComplete (provider : ObjectKey) (taskRef : String)
  | now

/-- The answer to each call. A status write goes through only over the version the writer
saw, so a successful one answers with nothing but the new resource version.
`supportsLinkedClones` answers `none` when the client does not report capabilities. -/
@[reducible] def Answer : Call → Type
  | .getClone _ => Except GoError VMClone
  | .updateClone _ => Option GoError
  | .statusUpdate _ => Except GoError Nat
  | .getVirtualMachine _ => Except GoError VirtualMachine
  | .createVirtualMachine _ => Option GoError
  | .vmStatusUpdate _ => Option GoError
  | .getClass _ => Except GoError VMClass
  | .getProvider _ => Except GoError Provider
  | .getProviderInstance _ => Option GoError
  | .supportsLinkedClones _ => Option (Except GoError Bool)
  | .isCloner _ => Bool
  | .clone _ _ => Except GoError CloneResponse
  | .isTaskComplete _ _ => Except GoError Bool
  | .now => Time

/-- A computation of the clone controller. -/
abbrev M := Program Call Answer

/-- Make one call. -/
def ask (c : Call) : M (Answer c) := .perform c

/-- A call of the clone controller with its answer. -/
abbrev LogEntry := Event Call Answer

open Go

variable (codec : QuantityCodec) (key : String)

/-- A member that is left out when it is empty (`omitempty`). -/
def stringMember (value : String) : List (String × Json) :=
  if value = "" then [] else [(key, .str value)]

def boolMember (value : Bool) : List (String × Json) :=
  if value then [(key, .bool true)] else []

def intMember (value : Option Int) : List (String × Json) :=
  (value.map fun n => (key, Json.num n)).toList

def quantityMember (value : Option Int) : List (String × Json) :=
  (value.map fun bytes => (key, Json.str (codec.text bytes))).toList

def objectMember (value : Option (List (String × Json))) : List (String × Json) :=
  (value.map fun members => (key, Json.obj members)).toList

def mapMember (value : StringMap) : List (String × Json) :=
  if value = [] then [] else [(key, .obj (value.map fun entry => (entry.1, .str entry.2)))]

def diskDefaultsMembers (defaults : DiskDefaults) : List (String × Json) :=
  -- `omitempty` does not apply to a struct, so the size is always written.
  stringMember "type" defaults.type ++ [("size", .str (codec.text defaults.size))]

def resourceLimitsMembers (limits : VMResourceLimits) : List (String × Json) :=
  intMember "cpuLimit" limits.cpuLimit ++ intMember "cpuReservation" limits.cpuReservation ++
    quantityMember codec "memoryLimit" limits.memoryLimit ++
    quantityMember codec "memoryReservation" limits.memoryReservation ++
    intMember "cpuShares" limits.cpuShares

def performanceProfileMembers (profile : PerformanceProfile) : List (String × Json) :=
  stringMember "latencySensitivity" profile.latencySensitivity ++
    boolMember "cpuHotAddEnabled" profile.cpuHotAddEnabled ++
    boolMember "memoryHotAddEnabled" profile.memoryHotAddEnabled ++
    boolMember "virtualizationBasedSecurity" profile.virtualizationBasedSecurity ++
    boolMember "nestedVirtualization" profile.nestedVirtualization ++
    stringMember "hyperThreadingPolicy" profile.hyperThreadingPolicy

def encryptionPolicyMembers (policy : EncryptionPolicy) : List (String × Json) :=
  boolMember "enabled" policy.enabled ++ stringMember "keyProvider" policy.keyProvider ++
    boolMember "requireEncryption" policy.requireEncryption

def securityProfileMembers (profile : SecurityProfile) : List (String × Json) :=
  boolMember "secureBoot" profile.secureBoot ++ boolMember "tpmEnabled" profile.tpmEnabled ++
    stringMember "tpmVersion" profile.tpmVersion ++ boolMember "vtdEnabled" profile.vtdEnabled ++
    objectMember "encryptionPolicy" (profile.encryptionPolicy.map encryptionPolicyMembers)

/-- `json.Marshal` of a VMClassSpec. -/
def classMembers (spec : VMClassSpec) : List (String × Json) :=
  [("cpu", .num spec.cpu), ("memory", .str (codec.text spec.memory))] ++
    stringMember "firmware" spec.firmware ++
    objectMember "diskDefaults" (spec.diskDefaults.map (diskDefaultsMembers codec)) ++
    stringMember "guestToolsPolicy" spec.guestToolsPolicy ++
    mapMember "extraConfig" spec.extraConfig ++
    objectMember "resourceLimits" (spec.resourceLimits.map (resourceLimitsMembers codec)) ++
    objectMember "performanceProfile" (spec.performanceProfile.map performanceProfileMembers) ++
    objectMember "securityProfile" (spec.securityProfile.map securityProfileMembers)

def marshalClass (spec : VMClassSpec) : Json :=
  .obj (classMembers codec spec)

/-- `json.Marshal` of a LocalObjectReference. -/
def marshalReference (ref : LocalObjectReference) : Json := .obj [("name", .str ref.name)]

end Virtrigaud.Clone
