import Virtrigaud.Api.Store
import Virtrigaud.VM.Conduct
import Virtrigaud.VM.Hypervisor

/-!
# VirtualMachines and the hypervisor they use

The API server keeps all VirtualMachines with their versions, and one Provider stands
for a hypervisor. A read may lag behind; a write goes through only over the version the
writer saw; a call is carried out, fails, or is carried out while its caller sees an
error. Other clients create, edit and delete objects, other controllers give adopted
objects their ID, and VMs come and go on the hypervisor. What other providers and the
objects that are not modelled answer is arbitrary.
-/

namespace Virtrigaud.VM

open Effects List Option

/-- What others do. Only adopted objects get their ID from another controller. -/
inductive Edit
  | createObject (vm : VirtualMachine)
  | editObject (vm : VirtualMachine)
  | deleteObject (key : ObjectKey) (clock : Time)
  | adopt (key : ObjectKey) (id : String)
  | addMachine (m : Machine)
  | alterMachine (id name node : String)
  | removeMachine (id : String)

/-- The answer to one call, as far as the site does not determine it. -/
inductive Reply
  /-- A cached read that lags behind. -/
  | lagging (versions : Nat)
  /-- The call is carried out and answered. -/
  | accept
  /-- The call changes nothing, and this is its answer. -/
  | reports (said : (c : Call) → Option (Answer c))
  /-- The call is carried out, but its caller sees this failure. -/
  | lose (said : (c : Call) → Option (Answer c))

structure Choice where
  /-- What others do before the call is answered. -/
  edits : List Edit := []
  /-- The reference or the task that the hypervisor gives out. -/
  ref : String := ""
  reply : Reply

structure Site (kind : ProviderType) where
  vms : VMStore
  hypervisor : Hypervisor kind

namespace Site

variable {kind : ProviderType}

section Operations

variable (site : Site kind)

/-- The VirtualMachines after an operation, or as they were when it does not apply. -/
def storeVMs (vms : Option VMStore) : Site kind := { site with vms := vms.getD site.vms }

/-- A new object as it is stored; its status subresource starts empty. -/
def newVM (vm : VirtualMachine) : VirtualMachine :=
  { vm with objectMeta := { vm.objectMeta with deletionTimestamp := none }, status := {} }

/-- The adopted object gets the ID of a VM that exists. -/
def adopt (key : ObjectKey) (id : String) : Option VMStore :=
  match site.vms.live key with
  | some vm =>
    if vmIsAdopted vm = true ∧ vm.status.id = "" ∧ (site.hypervisor.find id).isSome = true then
      site.vms.writeStatus key { vm.status with id }
    else none
  | none => none

def applyEdit : Edit → Site kind
  | .createObject vm => site.storeVMs (site.vms.create (newVM vm))
  | .editObject vm => site.storeVMs (site.vms.write vm)
  | .deleteObject key clock => site.storeVMs (site.vms.delete key clock)
  | .adopt key id => site.storeVMs (site.adopt key id)
  | .addMachine m =>
    { site with
      hypervisor := (site.hypervisor.add { m with managed := false }).getD site.hypervisor }
  | .alterMachine id name node =>
    { site with hypervisor := site.hypervisor.alter id name node }
  | .removeMachine id => { site with hypervisor := site.hypervisor.remove id }

def conflictError : GoError := ⟨.conflict, "the object has been modified"⟩

def notFoundError : GoError := ⟨.notFound, "not found"⟩

/-- A write by a client that saw the given version of the object. -/
def overwrite (vm : VirtualMachine) (vms : Option VMStore) : Option GoError × Site kind :=
  match site.vms.live vm.objectMeta.key, vms with
  | some old, some vms =>
    if old.objectMeta.resourceVersion = vm.objectMeta.resourceVersion then
      (none, { site with vms })
    else (some conflictError, site)
  | _, _ => (some notFoundError, site)

end Operations

section Answers

variable (provider : ObjectKey) (site : Site kind)

/-- Carry out a call that changes an object or the VMs. The hypervisor speaks the
dialect of its kind only. -/
def carryOut (ref : String) : (c : Call) → Option (Answer c × Site kind)
  | .updateVM vm => some (site.overwrite vm (site.vms.write vm))
  | .statusUpdate vm =>
    some (site.overwrite vm (site.vms.writeStatus vm.objectMeta.key vm.status))
  | .libvirt other c =>
    if other = provider ∧ kind = .libvirt then
      (site.hypervisor.virsh c).map fun done => (done.1, { site with hypervisor := done.2 })
    else none
  | .vsphere other c =>
    if other = provider ∧ kind = .vsphere then
      (site.hypervisor.vcenter ref c).map fun done => (done.1, { site with hypervisor := done.2 })
    else none
  | .proxmox other c =>
    if other = provider ∧ kind = .proxmox then
      (site.hypervisor.pve ref c).map fun done => (done.1, { site with hypervisor := done.2 })
    else none
  | _ => none

/-- The answers that leave the site as it is. -/
def truthful : (c : Call) → Answer c → Bool
  | .getVM _, .ok _ => false
  | .updateVM _, answer => answer.isSome
  | .statusUpdate _, answer => answer.isSome
  | .getProvider key, .ok found => decide (key ≠ provider) || decide (found.type = kind)
  | .libvirt other c, answer =>
    decide (other ≠ provider) ||
      (decide (kind = .libvirt) && site.hypervisor.virshTruthful c answer)
  | .vsphere other c, answer =>
    decide (other ≠ provider) ||
      (decide (kind = .vsphere) && site.hypervisor.vcenterTruthful c answer)
  | .proxmox other c, answer =>
    decide (other ≠ provider) || (decide (kind = .proxmox) && site.hypervisor.pveTruthful c answer)
  | _, _ => true

/-- A cached read of an object. -/
def readLagging (lag : Nat) : (c : Call) → Option (Answer c)
  | .getVM key =>
    ((site.vms.versions key).read lag).map fun
      | some vm => .ok vm
      | none => .error notFoundError
  | _ => none

/-- An answer that leaves the site as it is, if it is one. -/
def report (c : Call) (answer : Option (Answer c)) : Option (Answer c) :=
  answer.filter (site.truthful provider c)

end Answers

/-- Answer one call, after what others do. -/
def answer (provider : ObjectKey) (site : Site kind) (c : Call) (choice : Choice) :
    Option (Answer c × Site kind) :=
  let edited := choice.edits.foldl applyEdit site
  match choice.reply with
  | .lagging lag => (edited.readLagging lag c).map (·, edited)
  | .accept => edited.carryOut provider choice.ref c
  | .reports said => (edited.report provider c (said c)).map (·, edited)
  | .lose said =>
    match edited.carryOut provider choice.ref c, edited.report provider c (said c) with
    | some (_, next), some failure => some (failure, next)
    | _, _ => none

variable {c : Call}

section Truthful

variable {provider : ObjectKey} {site : Site kind}

theorem truthful_libvirt {c : Libvirt.Call} {r : Libvirt.Answer c}
    (h : site.truthful provider (.libvirt provider c) r = true) :
    kind = .libvirt ∧ site.hypervisor.virshTruthful c r = true := by
  simpa [truthful] using h

theorem truthful_vsphere {c : Vsphere.Call} {r : Vsphere.Answer c}
    (h : site.truthful provider (.vsphere provider c) r = true) :
    kind = .vsphere ∧ site.hypervisor.vcenterTruthful c r = true := by
  simpa [truthful] using h

theorem truthful_proxmox {c : Proxmox.Call} {r : Proxmox.Answer c}
    (h : site.truthful provider (.proxmox provider c) r = true) :
    kind = .proxmox ∧ site.hypervisor.pveTruthful c r = true := by
  simpa [truthful] using h

/-- A call that leaves the site as it is puts no VM on its hypervisor. -/
theorem not_broughtUp_of_truthful {r : Answer c} {sighting : Sighting}
    (h : site.truthful provider c r = true) (hup : broughtUp ⟨c, r⟩ = some sighting) :
    sighting.provider ≠ provider := by
  intro hprovider
  unfold broughtUp at hup
  split at hup
  case h_5 => cases hup
  all_goals
    rename_i heq
    cases heq
    cases hup
    cases hprovider
  · cases (truthful_libvirt h).2
  · cases (truthful_vsphere h).2
  all_goals cases (truthful_proxmox h).2

end Truthful

/-- One thing that others do. -/
inductive Edited (edits : List Edit) (site : Site kind) : Site kind → Prop
  | created {vm hkey} : Edit.createObject vm ∈ edits → site.vms.live vm.objectMeta.key = none →
      Edited edits site
        { site with vms := site.vms.put vm.objectMeta.key (some (newVM vm)) hkey }
  | written {vm old hkey} : Edit.editObject vm ∈ edits →
      site.vms.live vm.objectMeta.key = some old →
      Edited edits site
        { site with vms := site.vms.put vm.objectMeta.key (VMStore.written vm old) hkey }
  | deleted {key clock old hkey} : site.vms.live key = some old →
      Edited edits site { site with vms := site.vms.put key (VMStore.deleted clock old) hkey }
  | adopted {key id old hkey} : Edit.adopt key id ∈ edits → site.vms.live key = some old →
      vmIsAdopted old = true → old.status.id = "" → (site.hypervisor.find id).isSome = true →
      Edited edits site { site with
        vms := site.vms.put key (some (VMStore.withStatus { old.status with id } old)) hkey }
  | added {m hypervisor} : Edit.addMachine m ∈ edits →
      site.hypervisor.add { m with managed := false } = some hypervisor →
      Edited edits site { site with hypervisor }
  | altered {id name node} : Edit.alterMachine id name node ∈ edits →
      Edited edits site { site with hypervisor := site.hypervisor.alter id name node }
  | removed {id} : Edit.removeMachine id ∈ edits →
      Edited edits site { site with hypervisor := site.hypervisor.remove id }

variable {provider : ObjectKey} {site next : Site kind} {edits : List Edit}

theorem storeVMs_edited {vms : Option VMStore}
    (h : ∀ stored, vms = some stored → Edited edits site { site with vms := stored }) :
    site.storeVMs vms = site ∨ Edited edits site (site.storeVMs vms) := by
  cases vms with
  | none => exact .inl rfl
  | some stored => exact .inr (h stored rfl)

theorem applyEdit_edited {edit : Edit} (hedit : edit ∈ edits) :
    site.applyEdit edit = site ∨ Edited edits site (site.applyEdit edit) := by
  cases edit with
  | createObject vm =>
    apply storeVMs_edited
    intro stored hstored
    obtain ⟨hlive, hkey, rfl⟩ := VMStore.create_eq_some hstored
    exact @Edited.created _ edits site vm hkey hedit hlive
  | editObject vm =>
    apply storeVMs_edited
    intro stored hstored
    obtain ⟨old, hlive, hkey, rfl⟩ := VMStore.modify_eq_some hstored
    exact .written hedit hlive
  | deleteObject key clock =>
    apply storeVMs_edited
    intro stored hstored
    obtain ⟨old, hlive, hkey, rfl⟩ := VMStore.modify_eq_some hstored
    exact .deleted hlive
  | adopt key id =>
    apply storeVMs_edited
    intro stored hstored
    unfold adopt at hstored
    split at hstored
    · rename_i vm hvm
      split at hstored
      · rename_i hadopt
        obtain ⟨old, hlive, hkey, rfl⟩ := VMStore.modify_eq_some hstored
        obtain rfl : vm = old := some.inj (hvm.symm.trans hlive)
        exact .adopted hedit hlive hadopt.1 hadopt.2.1 hadopt.2.2
      · cases hstored
    · cases hstored
  | addMachine m =>
    simp only [applyEdit]
    cases hadd : site.hypervisor.add { m with managed := false } with
    | none => exact .inl rfl
    | some hypervisor => exact .inr (.added hedit hadd)
  | alterMachine id name node => exact .inr (.altered hedit)
  | removeMachine id => exact .inr (.removed hedit)

/-- What every edit preserves holds after all of them. -/
theorem edits_induct {P : Site kind → Prop} (hbase : P site)
    (hedit : ∀ before after, P before → Edited edits before after → P after) :
    P (edits.foldl applyEdit site) := by
  refine foldlRecOn edits applyEdit hbase ?_
  intro before hbefore edit hmem
  have hcases : before.applyEdit edit = before ∨ Edited edits before (before.applyEdit edit) :=
    applyEdit_edited hmem
  rcases hcases with hsame | hstep
  · rw [hsame]
    exact hbefore
  · exact hedit before _ hbefore hstep

/-- A machine that a call puts on the hypervisor. -/
def brings (ref : String) : Call → Option Machine
  | .libvirt _ (.defineDomain name) => some { name, managed := true }
  | .vsphere _ (.createVirtualMachine req) => some { name := req.name, ref, managed := true }
  | .proxmox _ (.createVM node config) => some (Hypervisor.machineOf node config)
  | .proxmox _ (.cloneVM node _ config) => some (Hypervisor.machineOf node config)
  | _ => none

/-- Provider and ID of the VM that a call takes off the hypervisor. -/
def takenDown : Call → Option (ObjectKey × String)
  | .libvirt other (.undefineDomain id) => some (other, id)
  | .vsphere other (.destroy id) => some (other, id)
  | .proxmox other (.deleteVM _ vmid) => some (other, Go.formatInt vmid)
  | _ => none

/-- The node on which a call places a VM. -/
def placedOn : Call → Option String
  | .proxmox _ (.createVM node _) => some node
  | .proxmox _ (.cloneVM node _ _) => some node
  | _ => none

/-- What a call does that is carried out. -/
inductive Carried (provider : ObjectKey) (site : Site kind) (ref : String) :
    LogEntry → Site kind → Prop
  | refused {c r} : site.truthful provider c r = true → Carried provider site ref ⟨c, r⟩ site
  | written {vm old hkey} : site.vms.live vm.objectMeta.key = some old →
      old.objectMeta.resourceVersion = vm.objectMeta.resourceVersion →
      Carried provider site ref ⟨.updateVM vm, none⟩
        { site with vms := site.vms.put vm.objectMeta.key (VMStore.written vm old) hkey }
  | statusWritten {vm old hkey} : site.vms.live vm.objectMeta.key = some old →
      old.objectMeta.resourceVersion = vm.objectMeta.resourceVersion →
      Carried provider site ref ⟨.statusUpdate vm, none⟩
        { site with
          vms := site.vms.put vm.objectMeta.key (some (VMStore.withStatus vm.status old)) hkey }
  | brought {c r m hypervisor} : brings ref c = some m →
      broughtUp ⟨c, r⟩ = some ⟨provider, m.id kind, m.name⟩ →
      (kind = .proxmox → placedOn c = some m.node) →
      site.hypervisor.add m = some hypervisor →
      Carried provider site ref ⟨c, r⟩ { site with hypervisor }
  | took {c r id} : takenDown c = some (provider, id) → broughtUp ⟨c, r⟩ = none →
      Carried provider site ref ⟨c, r⟩ { site with hypervisor := site.hypervisor.remove id }

/-- A write over the version the writer saw is refused or goes through. -/
theorem overwrite_cases {vm : VirtualMachine} {f hf} {r : Option GoError}
    (h : site.overwrite vm (site.vms.modify vm.objectMeta.key f hf) = (r, next)) :
    (r.isSome = true ∧ next = site) ∨
      ∃ old hkey, site.vms.live vm.objectMeta.key = some old ∧
        old.objectMeta.resourceVersion = vm.objectMeta.resourceVersion ∧
        r = none ∧ next = { site with vms := site.vms.put vm.objectMeta.key (f old) hkey } := by
  unfold overwrite at h
  split at h
  · rename_i hlive hmodify
    split at h
    · rename_i hversion
      cases h
      obtain ⟨old, hold, hkey, rfl⟩ := VMStore.modify_eq_some hmodify
      obtain rfl := some.inj (hlive.symm.trans hold)
      exact .inr ⟨_, hkey, hlive, hversion, rfl, rfl⟩
    · cases h
      exact .inl ⟨rfl, rfl⟩
  · cases h
    exact .inl ⟨rfl, rfl⟩

variable {ref : String}

theorem virsh_carried {site : Site .libvirt} {c : Libvirt.Call} {done}
    (hdone : site.hypervisor.virsh c = some done) :
    Carried provider site ref ⟨.libvirt provider c, done.1⟩
      { site with hypervisor := done.2 } := by
  cases c with
  | defineDomain name =>
    obtain ⟨hypervisor, hadd, rfl⟩ := map_eq_some_iff.mp hdone
    exact .brought rfl rfl nofun hadd
  | undefineDomain id =>
    cases hdone
    exact .took rfl rfl
  | _ => cases hdone

theorem vcenter_carried {site : Site .vsphere} {c : Vsphere.Call} {done}
    (hdone : site.hypervisor.vcenter ref c = some done) :
    Carried provider site ref ⟨.vsphere provider c, done.1⟩
      { site with hypervisor := done.2 } := by
  cases c with
  | createVirtualMachine req =>
    obtain ⟨hypervisor, hadd, rfl⟩ := map_eq_some_iff.mp hdone
    exact .brought rfl rfl nofun hadd
  | destroy id =>
    cases hdone
    exact .took rfl rfl
  | _ => cases hdone

theorem pve_carried {site : Site .proxmox} {c : Proxmox.Call} {done}
    (hdone : site.hypervisor.pve ref c = some done) :
    Carried provider site ref ⟨.proxmox provider c, done.1⟩
      { site with hypervisor := done.2 } := by
  -- A VMID that is not negative prints as that of the machine.
  have hid : ∀ (node : String) (config : Proxmox.VMConfig), 0 ≤ config.vmid →
      Go.formatInt config.vmid = (Hypervisor.machineOf node config).id .proxmox := by
    intro node config hvmid
    have hnat : ((config.vmid.toNat : Nat) : Int) = config.vmid := Int.toNat_of_nonneg hvmid
    show _ = Go.formatInt ((config.vmid.toNat : Nat) : Int)
    rw [hnat]
  cases c with
  | createVM node config
  | cloneVM node templateID config =>
    simp only [Hypervisor.pve] at hdone
    split at hdone
    · rename_i hvmid
      obtain ⟨hypervisor, hadd, rfl⟩ := map_eq_some_iff.mp hdone
      refine .brought rfl ?_ (fun _ => rfl) hadd
      rw [← hid node config hvmid]
      rfl
    · cases hdone
  | deleteVM node vmid =>
    simp only [Hypervisor.pve] at hdone
    split at hdone
    · cases hdone
      exact .took rfl rfl
    · cases hdone
  | _ => cases hdone

theorem carryOut_carried {r : Answer c} (h : site.carryOut provider ref c = some (r, next)) :
    Carried provider site ref ⟨c, r⟩ next := by
  cases c with
  | updateVM vm =>
    rcases overwrite_cases (some.inj h) with ⟨hr, rfl⟩ | ⟨old, hkey, hlive, hversion, rfl, rfl⟩
    · exact .refused hr
    · exact .written hlive hversion
  | statusUpdate vm =>
    rcases overwrite_cases (some.inj h) with ⟨hr, rfl⟩ | ⟨old, hkey, hlive, hversion, rfl, rfl⟩
    · exact .refused hr
    · exact .statusWritten hlive hversion
  | libvirt other c | vsphere other c | proxmox other c =>
    obtain ⟨⟨rfl, rfl⟩, hmap⟩ := ite_none_right_eq_some.mp h
    obtain ⟨done, hdone, hnext⟩ := map_eq_some_iff.mp hmap
    cases hnext
    first
    | exact virsh_carried hdone
    | exact vcenter_carried hdone
    | exact pve_carried hdone
  | _ => cases h

variable {choice : Choice}

/-- An answer follows what others do: it is a read, the call was carried out or refused,
or it was carried out while its caller sees a failure. -/
theorem answer_cases {r : Answer c} (h : site.answer provider c choice = some (r, next)) :
    (∃ lag, choice.reply = .lagging lag ∧
      (choice.edits.foldl applyEdit site).readLagging lag c = some r ∧
      next = choice.edits.foldl applyEdit site) ∨
    Carried provider (choice.edits.foldl applyEdit site) choice.ref ⟨c, r⟩ next ∨
    ∃ said r', choice.reply = .lose said ∧
      (choice.edits.foldl applyEdit site).truthful provider c r = true ∧
      Carried provider (choice.edits.foldl applyEdit site) choice.ref ⟨c, r'⟩ next := by
  unfold answer at h
  dsimp only at h
  split at h
  · rename_i lag hreply
    obtain ⟨_, hread, hnext⟩ := map_eq_some_iff.mp h
    cases hnext
    exact .inl ⟨lag, hreply, hread, rfl⟩
  · exact .inr (.inl (carryOut_carried h))
  · obtain ⟨_, hreport, hnext⟩ := map_eq_some_iff.mp h
    cases hnext
    exact .inr (.inl (.refused (filter_eq_some_iff.mp hreport).2))
  · rename_i said hreply
    split at h
    · rename_i r' after failure hcarry hreport
      cases h
      exact .inr (.inr ⟨said, r', hreply, (filter_eq_some_iff.mp hreport).2,
        carryOut_carried hcarry⟩)
    · cases h

/-- Nothing that was recorded or stored is taken back. -/
structure Extends (site next : Site kind) : Prop where
  records : site.hypervisor.records ⊆ next.hypervisor.records
  versions : ∀ key, (site.vms.versions key).all ⊆ (next.vms.versions key).all

theorem Extends.refl (site : Site kind) : Extends site site :=
  ⟨Subset.refl _, fun _ => Subset.refl _⟩

theorem Extends.trans {mid : Site kind} (h : Extends site mid) (h' : Extends mid next) :
    Extends site next :=
  ⟨Subset.trans h.records h'.records,
    fun key => Subset.trans (h.versions key) (h'.versions key)⟩

theorem extends_put {key : ObjectKey} {new : Option VirtualMachine} {hkey} :
    Extends site { site with vms := site.vms.put key new hkey } :=
  ⟨Subset.refl _, fun other => VMStore.subset_put hkey other⟩

variable {hypervisor : Hypervisor kind}

theorem extends_hypervisor (h : site.hypervisor.records ⊆ hypervisor.records) :
    Extends site { site with hypervisor } :=
  ⟨h, fun _ => Subset.refl _⟩

theorem extends_add {m : Machine} (hadd : site.hypervisor.add m = some hypervisor) :
    Extends site { site with hypervisor } := by
  apply extends_hypervisor
  rw [(Hypervisor.add_eq_some hadd).2]
  exact subset_cons_self _ _

theorem Edited.extends (h : Edited edits site next) : Extends site next := by
  cases h with
  | created | written | deleted | adopted => exact extends_put
  | added _ hadd => exact extends_add hadd
  | altered => exact extends_hypervisor (subset_append_right _ _)
  | removed => exact extends_hypervisor (Subset.refl _)

theorem Carried.extends {entry : LogEntry} (h : Carried provider site ref entry next) :
    Extends site next := by
  cases h with
  | refused => exact .refl _
  | written | statusWritten => exact extends_put
  | brought _ _ _ hadd => exact extends_add hadd
  | took => exact extends_hypervisor (Subset.refl _)

theorem edits_extend (site : Site kind) (edits : List Edit) :
    Extends site (edits.foldl applyEdit site) :=
  edits_induct (.refl site) fun _ _ h hedit => h.trans hedit.extends

theorem answer_extends {r : Answer c} (h : site.answer provider c choice = some (r, next)) :
    Extends site next := by
  have hedits := edits_extend site choice.edits
  rcases answer_cases h with ⟨_, _, _, rfl⟩ | hcarried | ⟨_, _, _, _, hcarried⟩
  · exact hedits
  · exact hedits.trans hcarried.extends
  · exact hedits.trans hcarried.extends

/-- A read answers a version that was stored. -/
theorem answer_read {key : ObjectKey} {v : VirtualMachine}
    (h : site.answer provider (.getVM key) choice = some (.ok v, next)) :
    some v ∈ (next.vms.versions key).all := by
  rcases answer_cases h with ⟨lag, -, hread, rfl⟩ | hcarried | ⟨_, _, _, htruthful, hcarried⟩
  · obtain ⟨found, hfound, hv⟩ := map_eq_some_iff.mp hread
    cases found with
    | none => cases hv
    | some found =>
      cases hv
      exact History.mem_of_read hfound
  · cases hcarried with
    | refused htruthful => cases htruthful
    | brought hbrings => cases hbrings
    | took htaken => cases htaken
  · cases htruthful

end Site

namespace Sample

/-! A libvirt provider in the namespace `infra`, and choices: a cached read, a call that
goes through, and answers that leave the site as it is. -/

def kvm : ObjectKey := ⟨"infra", "kvm"⟩

/-- An object whose disk was imported. -/
def object (ns name : String) (provider : ObjectKey) : VirtualMachine where
  objectMeta := {
    name, ns, uid := ns ++ "/" ++ name, generation := 1, resourceVersion := 1
    finalizers := [virtualMachineFinalizer] }
  spec := {
    providerRef := { name := provider.name, ns := provider.ns }
    importedDisk := some { diskID := "disk-1", path := "/var/lib/libvirt/images/disk-1.qcow2" } }

def cached : Choice := { reply := .lagging 0 }

def done : Choice := { reply := .accept }

/-- Everything is well outside the site, and `domains` are defined. -/
def libvirtAnswers (domains : List String) : (c : Call) → Option (Answer c)
  | .getProvider _ => some (.ok { type := .libvirt })
  | .getClass _ => some (.ok {})
  | .getProviderInstance _ => some none
  | .ensureImage _ _ _ => some (.ready none)
  | .request _ _ => some none
  | .response _ _ => some none
  | .libvirt _ .listDomains => some (.ok domains)
  | .libvirt _ (.prepareVM _) => some none
  | .libvirt _ (.dumpxml _) => some (.error (errorf "timed out"))
  | .libvirt _ (.destroyDomain _) => some none
  | _ => none

def virsh (domains : List String) : Choice := { reply := .reports (libvirtAnswers domains) }

end Sample

end Virtrigaud.VM
