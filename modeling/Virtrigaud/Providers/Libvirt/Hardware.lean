import Virtrigaud.Api.Contracts
import Virtrigaud.Go.Ints

/-!
# The hardware of a new domain

`generateDomainXMLWithStorage`, as far as PCI addresses, CPUs and memory go, and what `ListVMs`
reads back. The interfaces are put on the slots from 3 upwards, whatever the template has there; and
with hot-add the largest allocation is read where the present one is meant.
-/

namespace Virtrigaud.Libvirt

def hotplugResourceMultiplier : Int := 4

def maxHotplugVCPUs : Int := 64

def computeHotplugCeilingVCPUs (initial : Int) : Int :=
  let initial := if initial < 1 then 1 else initial
  let ceiling := Go.int32 (initial * hotplugResourceMultiplier)
  let ceiling := if ceiling ≤ initial then Go.int32 (initial + 1) else ceiling
  let ceiling := if maxHotplugVCPUs < ceiling then maxHotplugVCPUs else ceiling
  if ceiling < initial then initial else ceiling

def computeHotplugCeilingMemoryMiB (initial : Int) : Int :=
  let initial := if initial < 1 then 1 else initial
  let ceiling := Go.int64 (initial * hotplugResourceMultiplier)
  if ceiling ≤ initial then Go.int64 (initial + 1) else ceiling

/-- `CPUMemoryXML`: the attributes and the content of each element. -/
structure CPUMemoryXML where
  (vcpu memory currentMemory : List Char × List Char)

def digits (n : Int) : List Char := (Go.formatInt n).toList

def buildCPUMemoryXML (cpuCount memMiB : Int) (cpuHotAdd memHotAdd : Bool) : CPUMemoryXML where
  vcpu := if cpuHotAdd then
      (" placement='static' current='".toList ++ digits cpuCount ++ ['\''],
        digits (computeHotplugCeilingVCPUs cpuCount))
    else (" placement='static'".toList, digits cpuCount)
  memory := (" unit='MiB'".toList,
    digits (if memHotAdd then computeHotplugCeilingMemoryMiB memMiB else memMiB))
  currentMemory := (" unit='MiB'".toList, digits memMiB)

namespace Hardware

structure PciAddress where
  (slot function : Nat)
  deriving DecidableEq, Repr

inductive InterfaceSource
  | bridge (name : String)
  | network (name : String)
  | user
  deriving DecidableEq, Repr

structure Interface where
  source : InterfaceSource
  model : String
  address : PciAddress
  deriving DecidableEq, Repr

def generateNetworkInterfacesXML (networks : List Contracts.NetworkAttachment) : List Interface :=
  if networks.isEmpty then [⟨.user, "virtio", ⟨0x03, 0x0⟩⟩]
  else networks.mapIdx fun idx net => {
    source :=
      if net.bridge ≠ "" then .bridge net.bridge
      else if net.networkName ≠ "" then .network net.networkName
      else .user
    model := if net.model ≠ "" then net.model else "virtio"
    address := ⟨3 + idx, 0x0⟩ }

/-- `<vcpu current='…'>`, `<memory>` and `<currentMemory>`, the last two in MiB. -/
structure CPUMemoryXML where
  vcpu : Int
  current : Option Int := none
  (memory currentMemory : Int)
  deriving DecidableEq, Repr

def buildCPUMemoryXML (cpuCount memMiB : Int) (cpuHotAdd memHotAdd : Bool) : CPUMemoryXML where
  vcpu := if cpuHotAdd then computeHotplugCeilingVCPUs cpuCount else cpuCount
  current := if cpuHotAdd then some cpuCount else none
  memory := if memHotAdd then computeHotplugCeilingMemoryMiB memMiB else memMiB
  currentMemory := memMiB

section

variable {n m : Int}

theorem computeHotplugCeilingVCPUs_small (h : 1 ≤ n) (hsmall : n < 64) :
    computeHotplugCeilingVCPUs n = min (4 * n) 64 := by
  have hceiling : Go.int32 (n * 4) = 4 * n := by
    rw [Go.int32, BitVec.toInt_ofInt, Int.bmod_eq_of_le] <;> omega
  simp only [computeHotplugCeilingVCPUs, hotplugResourceMultiplier,
    maxHotplugVCPUs, if_neg (Int.not_lt.mpr h), hceiling]
  omega

/-- From the cap on there is no headroom, also where the multiplication wraps. -/
theorem computeHotplugCeilingVCPUs_large (h : 64 ≤ n) :
    computeHotplugCeilingVCPUs n = n := by
  simp only [computeHotplugCeilingVCPUs, maxHotplugVCPUs,
    if_neg (show ¬ n < 1 by omega)]
  generalize (if Go.int32 _ ≤ n then _ else _ : Int) = ceiling
  omega

theorem computeHotplugCeilingMemoryMiB_eq (h : 1 ≤ m) (hsmall : m < 8796093022208) :
    computeHotplugCeilingMemoryMiB m = 4 * m := by
  have hceiling : Go.int64 (m * 4) = 4 * m := by
    rw [Go.int64, BitVec.toInt_ofInt, Int.bmod_eq_of_le] <;> omega
  simp only [computeHotplugCeilingMemoryMiB, hotplugResourceMultiplier,
    if_neg (Int.not_lt.mpr h), hceiling]
  omega

/-- The memory has no cap, so there is always headroom, also where the numbers wrap. -/
theorem computeHotplugCeilingMemoryMiB_ne (h : 1 ≤ m) :
    computeHotplugCeilingMemoryMiB m ≠ m := by
  have hnext : Go.int64 (m + 1) ≠ m := by
    intro heq
    have hmod := Int.bmod_emod (x := m + 1) (m := 2 ^ 64)
    rw [Go.int64, BitVec.toInt_ofInt] at heq
    rw [heq] at hmod
    omega
  simp only [computeHotplugCeilingMemoryMiB, if_neg (Int.not_lt.mpr h)]
  split
  · exact hnext
  · omega

/-- The text of the elements. -/
def CPUMemoryXML.rendered (size : CPUMemoryXML) : Libvirt.CPUMemoryXML where
  vcpu := (match size.current with
    | some current => " placement='static' current='".toList ++ digits current ++ ['\'']
    | none => " placement='static'".toList, digits size.vcpu)
  memory := (" unit='MiB'".toList, digits size.memory)
  currentMemory := (" unit='MiB'".toList, digits size.currentMemory)

theorem rendered_buildCPUMemoryXML (cpuHotAdd memHotAdd : Bool) :
    Libvirt.buildCPUMemoryXML n m cpuHotAdd memHotAdd =
      (buildCPUMemoryXML n m cpuHotAdd memHotAdd).rendered := by
  cases cpuHotAdd <;> cases memHotAdd <;> rfl

/-- The present allocation is within the largest one, which is larger where hot-add leaves room. -/
theorem allocation_within_ceiling (hn : 1 ≤ n) (hm : 1 ≤ m) (hsmall : m < 8796093022208)
    (cpuHotAdd memHotAdd : Bool) : ∃ size : CPUMemoryXML,
      Libvirt.buildCPUMemoryXML n m cpuHotAdd memHotAdd = size.rendered ∧
      size.current.getD size.vcpu = n ∧ n ≤ size.vcpu ∧ size.vcpu ≤ max n 64 ∧
      (n < size.vcpu ↔ cpuHotAdd = true ∧ n < 64) ∧
      size.currentMemory = m ∧ m ≤ size.memory ∧ (m < size.memory ↔ memHotAdd = true) := by
  refine ⟨_, rendered_buildCPUMemoryXML cpuHotAdd memHotAdd, ?_⟩
  have hmemory := computeHotplugCeilingMemoryMiB_eq hm hsmall
  rcases Int.lt_or_le n 64 with hcpu | hcpu
  · have hvcpu := computeHotplugCeilingVCPUs_small hn hcpu
    cases cpuHotAdd <;> cases memHotAdd <;>
      simp [buildCPUMemoryXML, hvcpu, hmemory, hcpu] <;> omega
  · have hvcpu := computeHotplugCeilingVCPUs_large hcpu
    cases cpuHotAdd <;> cases memHotAdd <;>
      simp [buildCPUMemoryXML, hvcpu, hmemory] <;> omega

theorem allocation_within_ceiling_wrapped : ∃ size : CPUMemoryXML,
    Libvirt.buildCPUMemoryXML 1073741824 2048 true true = size.rendered ∧ size.vcpu ≤ 1073741824 ∧
      2048 < size.memory := by
  obtain ⟨size, hsize, -, -, hmax, -, -, -, hmemory⟩ := allocation_within_ceiling
    (n := 1073741824) (m := 2048) (by decide) (by decide) (by decide) true true
  exact ⟨size, hsize, hmax, hmemory.mpr rfl⟩

end

/-- The devices with PCI addresses, in the order of the document. -/
structure DomainDefinition where
  size : CPUMemoryXML
  devices : List (String × PciAddress)
  deriving DecidableEq, Repr

def hotAdd (req : CreateRequest) (flag : PerformanceProfile → Bool) : Bool :=
  (req.vmClass.performanceProfile.map flag).getD false

def generateDomainXMLWithStorage (req : CreateRequest) : DomainDefinition where
  size := buildCPUMemoryXML (if req.vmClass.cpu > 0 then req.vmClass.cpu else 1)
    (if req.vmClass.memoryMiB > 0 then req.vmClass.memoryMiB else 1024)
    (hotAdd req (·.cpuHotAddEnabled)) (hotAdd req (·.memoryHotAddEnabled))
  devices :=
    [("disk", ⟨0x07, 0x0⟩), ("ich9-ehci1", ⟨0x05, 0x7⟩), ("ich9-uhci1", ⟨0x05, 0x0⟩),
      ("ich9-uhci2", ⟨0x05, 0x1⟩), ("ich9-uhci3", ⟨0x05, 0x2⟩), ("ide", ⟨0x01, 0x1⟩),
      ("virtio-serial", ⟨0x06, 0x0⟩)] ++
    (generateNetworkInterfacesXML req.networks).map (fun i => ("interface", i.address)) ++
    [("sound", ⟨0x04, 0x0⟩), ("video", ⟨0x02, 0x0⟩), ("memballoon", ⟨0x08, 0x0⟩)]

def DomainDefinition.addresses (domain : DomainDefinition) : List PciAddress :=
  domain.devices.map Prod.snd

variable {req : CreateRequest}

/-- The second interface, whatever it is attached to, is on the slot of the sound card. -/
theorem not_nodup_addresses {first second : Contracts.NetworkAttachment}
    {rest : List Contracts.NetworkAttachment} (h : req.networks = first :: second :: rest) :
    ¬ (generateDomainXMLWithStorage req).addresses.Nodup := by
  intro hnodup
  rw [DomainDefinition.addresses, generateDomainXMLWithStorage, h, List.map_append] at hnodup
  refine (List.nodup_append.mp hnodup).2.2 ⟨0x04, 0x0⟩ ?_ ⟨0x04, 0x0⟩ (by decide) rfl
  simp [generateNetworkInterfacesXML, List.mapIdx_cons]

/-- No two devices have the same address exactly if there is one interface at most. -/
theorem addresses_distinct (req : CreateRequest) :
    (generateDomainXMLWithStorage req).addresses.Nodup ∧
        (∀ address ∈ (generateDomainXMLWithStorage req).addresses, address.slot ≤ 0x1f) ↔
      req.networks.length ≤ 1 := by
  match hnetworks : req.networks with
  | first :: second :: rest =>
    refine iff_of_false (fun h => not_nodup_addresses hnetworks h.1) ?_
    simp
  | [] | [net] =>
    -- The addresses do not depend on what an interface is attached to.
    have hfixed : (generateDomainXMLWithStorage req).addresses =
        (generateDomainXMLWithStorage { name := "" }).addresses := by
      rw [generateDomainXMLWithStorage, hnetworks]
      rfl
    rw [hfixed]
    refine iff_of_true (by decide) ?_
    simp

/-- The second interface and the sound card are both on slot 4. -/
theorem second_interface_on_sound :
    ¬ (generateDomainXMLWithStorage
      { name := "web", networks := [{ name := "lan" }, { name := "san" }] }).addresses.Nodup := by
  decide

/-- The domain as `virsh dumpxml` shows it, with memory in KiB. -/
structure DomainXML where
  (vcpu memory : Int)
  unit : String
  deriving DecidableEq, Repr

def dumpxml (size : CPUMemoryXML) : DomainXML where
  vcpu := size.vcpu
  memory := size.memory * 1024
  unit := "KiB"

def DomainXML.memoryMiB (d : DomainXML) : Except GoError Int :=
  if d.unit ≠ "" ∧ d.unit ≠ "KiB" then
    .error (errorf ("unexpected memory unit \"" ++ d.unit ++ "\" (want KiB)"))
  else .ok (d.memory.tdiv 1024)

/-- CPUs and memory of a domain as `ListVMs` reports them; it skips a domain it cannot read. -/
def listed (d : DomainXML) : Option (Int × Int) :=
  let cpu := if d.vcpu = 0 then 1 else d.vcpu
  d.memoryMiB.toOption.map fun memoryMiB => (cpu, memoryMiB)

/-- What is listed is the content of `<vcpu>` and `<memory>`. -/
theorem listed_dumpxml {size : CPUMemoryXML} (h : size.vcpu ≠ 0) :
    listed (dumpxml size) = some (size.vcpu, size.memory) := by
  have hread : (size.memory * 1024).tdiv 1024 = size.memory := Int.mul_tdiv_cancel _ (by decide)
  simp [listed, dumpxml, DomainXML.memoryMiB, Except.toOption, hread, h]

theorem vcpu_ne_zero {n : Int} (h : 1 ≤ n) (m : Int) (cpuHotAdd memHotAdd : Bool) :
    (buildCPUMemoryXML n m cpuHotAdd memHotAdd).vcpu ≠ 0 := by
  cases cpuHotAdd with
  | false => exact Int.ne_of_gt h
  | true =>
    rcases Int.lt_or_le n 64 with hsmall | hlarge
    · simp only [buildCPUMemoryXML, computeHotplugCeilingVCPUs_small h hsmall]
      omega
    · simp only [buildCPUMemoryXML, computeHotplugCeilingVCPUs_large hlarge]
      omega

/-- The content of `<vcpu>` is the number that was asked for, unless there is headroom above it. -/
theorem vcpu_eq_iff {n : Int} (h : 1 ≤ n) (m : Int) (cpuHotAdd memHotAdd : Bool) :
    (buildCPUMemoryXML n m cpuHotAdd memHotAdd).vcpu = n ↔ (cpuHotAdd = true → 64 ≤ n) := by
  cases cpuHotAdd with
  | false => simp [buildCPUMemoryXML]
  | true =>
    rcases Int.lt_or_le n 64 with hsmall | hlarge
    · simp [buildCPUMemoryXML, computeHotplugCeilingVCPUs_small h hsmall]
      omega
    · simp [buildCPUMemoryXML, computeHotplugCeilingVCPUs_large hlarge, hlarge]

theorem memory_eq_iff {m : Int} (h : 1 ≤ m) (n : Int) (cpuHotAdd memHotAdd : Bool) :
    (buildCPUMemoryXML n m cpuHotAdd memHotAdd).memory = m ↔ memHotAdd = false := by
  cases memHotAdd with
  | false => simp [buildCPUMemoryXML]
  | true => simp [buildCPUMemoryXML, computeHotplugCeilingMemoryMiB_ne h]

/-- The size that was asked for is listed exactly if no hot-add leaves room above it: none of
memory, and of CPUs only from the cap on. -/
theorem listed_size_requested (hcpu : 0 < req.vmClass.cpu) (hmemory : 0 < req.vmClass.memoryMiB) :
    listed (dumpxml (generateDomainXMLWithStorage req).size) =
        some (req.vmClass.cpu, req.vmClass.memoryMiB) ↔
      (hotAdd req (·.cpuHotAddEnabled) = true → 64 ≤ req.vmClass.cpu) ∧
        hotAdd req (·.memoryHotAddEnabled) = false := by
  simp only [generateDomainXMLWithStorage, if_pos hcpu, if_pos hmemory]
  generalize hotAdd req (·.cpuHotAddEnabled) = cpuHotAdd
  generalize hotAdd req (·.memoryHotAddEnabled) = memHotAdd
  rw [listed_dumpxml (vcpu_ne_zero hcpu _ _ _), Option.some_inj, Prod.mk.injEq,
    vcpu_eq_iff hcpu, memory_eq_iff hmemory]

theorem listed_size_requested_small :
    listed (dumpxml (generateDomainXMLWithStorage
      { name := "web", vmClass := { cpu := 2, memoryMiB := 2048 } }).size) = some (2, 2048) :=
  (listed_size_requested (by decide) (by decide)).mpr (by decide)

/-- With hot-add a VM of two CPUs and 2 GiB is listed with eight CPUs and 8 GiB. -/
theorem listed_size_is_ceiling :
    listed (dumpxml (generateDomainXMLWithStorage { name := "web", vmClass := {
      cpu := 2
      memoryMiB := 2048
      performanceProfile := some { cpuHotAddEnabled := true, memoryHotAddEnabled := true } }
    }).size) = some (8, 8192) := by
  decide

end Hardware

end Virtrigaud.Libvirt
