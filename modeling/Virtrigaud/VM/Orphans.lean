import Virtrigaud.VM.Books

/-!
# The finalizer and the VMs that were created

Over whole runs: the finalizer of an object goes only after the VMs that Create has
answered are gone, as far as the controller was told. It needs that the ID of a new VM is
persisted and that the provider's client can be had: otherwise the object disappears and
its VM stays.
-/

namespace Virtrigaud.VM

open Effects Program List

/-- What one call means for the VMs that are outstanding: Create has answered one, or
Describe has reported one as gone. -/
def counted (provider : ObjectKey) (entry : LogEntry) (before : List String) : List String :=
  match entry with
  | ⟨.response other (.create _ (.ok resp)), none⟩ =>
    if other = provider then resp.id :: before else before
  | ⟨.response other (.describe id (.ok desc)), none⟩ =>
    if other = provider ∧ desc.doesExist = false then before.filter (· ≠ id) else before
  | _ => before

/-- The VMs that Create has answered and that no Describe has reported as gone since. -/
def outstanding (provider : ObjectKey) (log : List LogEntry) : List String :=
  log.foldr (counted provider) []

section Outstanding

variable {provider : ObjectKey} {log trace older : List LogEntry} {id : String}
  {v vm mem : VirtualMachine} {vmClass : VMClass}

theorem ReportedCreated.cons {entry : LogEntry} (h : ReportedCreated provider id log) :
    ReportedCreated provider id (entry :: log) := by
  obtain ⟨req, resp, hid, hmem⟩ := h
  exact ⟨req, resp, hid, .tail _ hmem⟩

/-- An outstanding VM was created, or it was outstanding before and not reported as gone. -/
theorem mem_outstanding_append (h : id ∈ outstanding provider (log ++ trace)) :
    ReportedCreated provider id log ∨
      (id ∈ outstanding provider trace ∧ ¬ ReportedMissing provider id log) := by
  induction log with
  | nil =>
    refine .inr ⟨h, ?_⟩
    rintro ⟨desc, -, hmem⟩
    cases hmem
  | cons entry log ih =>
    -- An entry other than the report that this VM is gone adds none.
    have hstep : id ∈ outstanding provider (log ++ trace) →
        (∀ desc, desc.doesExist = false →
          entry ≠ ⟨.response provider (.describe id (.ok desc)), none⟩) →
        ReportedCreated provider id (entry :: log) ∨
          (id ∈ outstanding provider trace ∧ ¬ ReportedMissing provider id (entry :: log)) := by
      intro hmem hentry
      rcases ih hmem with hcreated | ⟨hold, hmissing⟩
      · exact .inl hcreated.cons
      · refine .inr ⟨hold, ?_⟩
        rintro ⟨desc, hexists, hin⟩
        rcases mem_cons.mp hin with heq | hin
        · exact hentry desc hexists heq.symm
        · exact hmissing ⟨desc, hexists, hin⟩
    have h' : id ∈ counted provider entry (outstanding provider (log ++ trace)) := h
    unfold counted at h'
    split at h'
    · rename_i other req resp
      split at h'
      · rename_i hother
        subst hother
        rcases mem_cons.mp h' with rfl | hmem
        · exact .inl ⟨req, resp, rfl, .head _⟩
        · exact hstep hmem fun desc _ heq => by cases heq
      · exact hstep h' fun desc _ heq => by cases heq
    · rename_i other gone desc
      split at h'
      · obtain ⟨hmem, hne⟩ := mem_filter.mp h'
        refine hstep hmem fun _ _ heq => ?_
        cases heq
        exact absurd rfl (of_decide_eq_true hne)
      · rename_i hreport
        refine hstep h' fun _ hexists heq => ?_
        cases heq
        exact hreport ⟨rfl, hexists⟩
    · rename_i hnone
      exact hstep h' fun desc _ heq => hnone _ _ _ heq

/-- Create was not answered in a log without a size that was asked for. -/
theorem not_created_of_lastSize (h : lastSize log = none) : ¬ ReportedCreated provider id log := by
  rintro ⟨req, resp, -, hmem⟩
  have hnone := findSome?_eq_none_iff.mp h _ hmem
  cases hnone

/-- The ID that is written once the tasks are done: a new one only where no VM was left. -/
theorem Ended.id_cases (h : Ended v vmClass log mem vm) (hid : mem.status.id = v.status.id) :
    (vm.status.id = v.status.id ∧ ∀ provider id, ¬ ReportedCreated provider id log) ∨
    (Missing v log ∧ ∀ provider id, ReportedCreated provider id log → id = vm.status.id) := by
  cases h with
  | waiting _ _ hnone => exact .inl ⟨hid, fun _ _ => not_created_of_lastSize hnone⟩
  | notCreated _ hmissing hnone =>
    exact .inr ⟨hmissing, fun _ _ hcreated => absurd hcreated (not_created_of_lastSize hnone)⟩
  | created req resp older hmissing hlog hnone _ =>
    refine .inr ⟨hmissing, ?_⟩
    rintro provider id ⟨req', resp', rfl, hmem⟩
    rw [hlog] at hmem
    rcases mem_cons.mp hmem with heq | hin
    · cases heq
      unfold VM.created
      split <;> rfl
    · exact absurd ⟨req', resp', rfl, hin⟩ (not_created_of_lastSize hnone)
  | notDescribed _ hnone => exact .inl ⟨hid, fun _ _ => not_created_of_lastSize hnone⟩
  | powered desc op answer _ hnone =>
    refine .inl ⟨?_, fun _ _ => not_created_of_lastSize hnone⟩
    unfold powerAdjusted
    split
    · exact hid
    · split <;> exact hid
  | notReconfigured desc req err message _ hnone =>
    exact .inl ⟨hid, fun _ _ => not_created_of_lastSize hnone⟩
  | reconfigured desc req now taskRef older hlog hnone _ =>
    constructor
    refine ⟨?_, ?_⟩
    · unfold VM.reconfigured
      split <;> exact hid
    · rintro provider id ⟨req', resp', rfl, hmem⟩
      rw [hlog] at hmem
      rcases mem_cons.mp hmem with heq | hmem
      · cases heq
      rcases mem_cons.mp hmem with heq | hin
      · cases heq
      · exact not_created_of_lastSize hnone ⟨req', resp', rfl, hin⟩
  | ready desc _ _ hnone => exact .inl ⟨hid, fun _ _ => not_created_of_lastSize hnone⟩

theorem Written.id_cases (h : Written v log vm) :
    (vm.status.id = v.status.id ∧ ∀ provider id, ¬ ReportedCreated provider id log) ∨
    (Missing v log ∧ ∀ provider id, ReportedCreated provider id log → id = vm.status.id) := by
  cases h with
  | unready _ _ hnone
  | preparing _ _ _ _ hnone
  | task _ _ _ _ hnone
  | reconfigureTask _ _ _ _ hnone => exact .inl ⟨rfl, fun _ _ => not_created_of_lastSize hnone⟩
  | ended _ hresumed hended => exact hended.id_cases hresumed.id_eq

end Outstanding

section Runs

variable {provider key : ObjectKey} {trace log older : List LogEntry} {choices : List Choice}
  {v vm : VirtualMachine}

/-- What a history of calls means for the ID: every outstanding VM is the one it names. -/
def namesOutstanding (provider : ObjectKey) : Entitles := fun trace status =>
  ∀ id ∈ outstanding provider trace, id ≠ "" → status.id = id

/-- The condition on a reconcile: the object is not made anew, and uses the provider. -/
structure Owning (provider key : ObjectKey) (choices : List Choice)
    (log : List LogEntry) : Prop where
  edits : ∀ choice ∈ choices, ∀ vm, Edit.createObject vm ∈ choice.edits → vm.objectMeta.key ≠ key
  uses : ∀ v, Read key log v → providerKey v = provider ∧ v.spec.providerRef.name ≠ ""

/-- Create was answered with a VM. -/
def reportsCreated : LogEntry → Bool
  | ⟨.response _ (.create _ (.ok _)), none⟩ => true
  | _ => false

/-- The ID of a VM that was created is persisted: a write of the status goes through. -/
def Recorded (log : List LogEntry) : Prop :=
  (∃ entry ∈ log, reportsCreated entry = true) → ∃ entry ∈ log, records entry = true

instance (log : List LogEntry) : Decidable (Recorded log) := inferInstanceAs (Decidable (_ → _))

/-- What a reconcile writes names every VM that is outstanding then. -/
theorem Written.namesOutstanding (h : Written v log vm) (hprovider : providerKey v = provider)
    (hnames : VM.namesOutstanding provider trace v.status) :
    VM.namesOutstanding provider (log ++ trace) vm.status := by
  intro id hmem hne
  rcases h.id_cases with ⟨hid, hnone⟩ | ⟨hmissing, hcreated⟩
  · rw [hid]
    rcases mem_outstanding_append hmem with hnew | ⟨hold, -⟩
    · exact absurd hnew (hnone provider id)
    · exact hnames id hold hne
  · rcases mem_outstanding_append hmem with hnew | ⟨hold, hstays⟩
    · exact (hcreated provider id hnew).symm
    · have hread : v.status.id = id := hnames id hold hne
      rcases hmissing with hempty | hgone
      · exact absurd (hread.symm.trans hempty) hne
      · rw [hprovider, hread] at hgone
        exact absurd hgone hstays

/-- A reconcile under the condition pays what it owes. -/
theorem Owning.ledger (h : Owning provider key choices log) :
    Ledger (namesOutstanding provider) key trace choices log where
  admits := by
    intro choice hchoice
    constructor
    · exact h.edits choice hchoice
    · intro id _ status hnames hempty other hmem hne
      exact absurd ((hnames other hmem hne).symm.trans hempty) hne
  write := by
    intro vm v r older hsuffix hread hwritten hnames
    have huses := h.uses v (hread.mono ((suffix_cons _ older).trans hsuffix))
    exact hwritten.namesOutstanding huses.1 hnames

theorem Recorded.unseen (h : Recorded log) (hquiet : ∀ entry ∈ log, records entry = false)
    (status : VirtualMachineStatus) (hnames : namesOutstanding provider trace status) :
    namesOutstanding provider (log ++ trace) status := by
  intro id hmem hne
  rcases mem_outstanding_append hmem with ⟨req, resp, -, hin⟩ | ⟨hold, -⟩
  · obtain ⟨entry, hentry, hrecords⟩ := h ⟨_, hin, rfl⟩
    rw [hquiet entry hentry] at hrecords
    cases hrecords
  · exact hnames id hold hne

/-- The client of a provider cannot be had. -/
def clientFails : LogEntry → Bool
  | ⟨.getProviderInstance _, some _⟩ => true
  | _ => false

/-- Why the finalizer may go although the VM was created. -/
def Disposed (provider : ObjectKey) (v : VirtualMachine) (log : List LogEntry) : Prop :=
  ReportedDeleted provider v.status.id log ∨ DeleteNotFound provider v.status.id log ∨
    (∃ err : GoError, err.reason = .notFound ∧
      (⟨.getProvider provider, .error err⟩ : LogEntry) ∈ log) ∨
    hasForceDeleteAnnotation v = true

theorem Released.disposed (h : Released v log) (hid : v.status.id ≠ "")
    (hprovider : v.spec.providerRef.name ≠ "")
    (hreached : ∀ entry ∈ log, clientFails entry = false) : Disposed (providerKey v) v log := by
  cases h with
  | noID hempty => exact absurd hempty hid
  | noProviderRef hempty => exact absurd hempty hprovider
  | providerGone err hreason hmem => exact .inr (.inr (.inl ⟨err, hreason, hmem⟩))
  | unreachable err hmem => cases hreached _ hmem
  | deleted hdeleted => exact .inl hdeleted
  | notFound hnotFound => exact .inr (.inl hnotFound)
  | forced hforced => exact .inr (.inr (.inr hforced))

theorem FinalizerWrite.released (h : FinalizerWrite v log vm)
    (hremoved : vm.objectMeta.containsFinalizer virtualMachineFinalizer = false) :
    Released v log := by
  rcases h with ⟨-, rfl⟩ | ⟨-, -, hreleased⟩
  · simp [ObjectMeta.containsFinalizer, ObjectMeta.addFinalizer] at hremoved
  · exact hreleased

/-- In every run whose reconciles meet the condition and record what they create, and in a
further one that reaches the provider: where the finalizer is removed, every VM that is
outstanding is the one the status names, and Delete has answered that it is gone, or
NotFound, or the Provider is gone, or the deletion is forced. -/
theorem finalizer_removed_after_delete (r : Reconciler) {kind : ProviderType} {site : Site kind}
    {out : Outcome Call Answer (Site kind) Return}
    (hreach : (system r provider kind key).Reach
      (fun _ _ choices log => Owning provider key choices log ∧ Recorded log) site trace)
    (hrun : (r.reconcile key).run ⟨Site.answer provider⟩ site [] choices = some out)
    (howning : Owning provider key choices out.log)
    (hreached : ∀ entry ∈ out.log, clientFails entry = false)
    (hwrite : (⟨.updateVM vm, none⟩ :: older) <:+ out.log)
    (hremoved : vm.objectMeta.containsFinalizer virtualMachineFinalizer = false) :
    ∃ v, Read key older v ∧ ∀ id ∈ outstanding provider (older ++ trace), id ≠ "" →
      v.status.id = id ∧ Disposed provider v older := by
  have hnone : namesOutstanding provider [] {} := fun id hmem => by cases hmem
  have hbooks := books_of_reach r hnone
    (fun _ _ _ _ hmeets => ⟨hmeets.1.ledger, hmeets.2.unseen⟩) hreach
  have hpersisted := hbooks.run r hrun howning.ledger
  obtain ⟨v, hread, hnames⟩ := hpersisted.grounded _ _ hwrite rfl
  have houtlined : Outlined key older (.updateVM vm) :=
    (reconcile_outlined r key).run_allowed hrun hwrite
  obtain ⟨-, w, hread', hfinalizer, hunsized⟩ := houtlined
  obtain ⟨-, rfl⟩ := hread.unique hread'
  have hsuffix := (suffix_cons _ older).trans hwrite
  obtain ⟨hprovider, hname⟩ := howning.uses v (hread.mono hsuffix)
  refine ⟨v, hread, fun id hmem hne => ?_⟩
  have hid : v.status.id = id := by
    rcases mem_outstanding_append hmem with hnew | ⟨hold, -⟩
    · exact absurd hnew (not_created_of_lastSize hunsized)
    · exact hnames id hold hne
  have hdisposed := (hfinalizer.released hremoved).disposed (hid ▸ hne) hname
    fun entry hentry => hreached entry (hsuffix.subset hentry)
  rw [hprovider] at hdisposed
  exact ⟨hid, hdisposed⟩

end Runs

namespace Sample

/-! A libvirt provider and an object whose disk was imported, from its creation on. -/

def db : ObjectKey := ⟨"blue", "db"⟩

def dbSite : Site .libvirt where
  vms := .ofList [object db.ns db.name kvm]
  hypervisor := .empty .libvirt

/-- Create makes the VM; the choice is for the write of the status. -/
def createsDB (write : Choice) : List Choice :=
  [cached] ++ replicate 7 (virsh []) ++ [done, virsh [], write]

/-- The object is deleted by its owner before the call is answered. -/
def deletesDB (reply : Reply) : Choice := { edits := [.deleteObject db 5], reply }

def clientError : Choice where
  reply := .reports fun
    | .getProviderInstance _ => some (some (errorf "connection refused"))
    | _ => none

/-- The object is deleted, and Delete takes the VM off the host. -/
def deletesVM : List Choice :=
  [deletesDB (.lagging 0)] ++ replicate 7 (virsh ["db"]) ++ [done, virsh ["db"], done]

/-- A check of the condition. -/
def owningHolds (choices : List Choice) (log : List LogEntry) : Bool :=
  choices.all (fun choice => choice.edits.all fun
    | .createObject vm => decide (vm.objectMeta.key ≠ db)
    | _ => true) &&
  match log.getLast? with
  | some ⟨.getVM _, .ok v⟩ => decide (providerKey v = kvm) && decide (v.spec.providerRef.name ≠ "")
  | _ => true

theorem owning_of_holds {choices : List Choice} {log : List LogEntry}
    (h : owningHolds choices log = true) : Owning kvm db choices log := by
  obtain ⟨hedits, huses⟩ := Bool.and_eq_true_iff.mp h
  constructor
  · intro choice hchoice vm hmem
    exact of_decide_eq_true
      (all_eq_true.mp (all_eq_true.mp hedits choice hchoice) _ hmem)
  · intro v hread
    rw [hread] at huses
    obtain ⟨hprovider, hname⟩ := Bool.and_eq_true_iff.mp huses
    exact ⟨of_decide_eq_true hprovider, of_decide_eq_true hname⟩

/-- The newest call removes the finalizer while the VM is outstanding. -/
def removesFinalizer (trace : List LogEntry) : List LogEntry → Bool
  | ⟨.updateVM vm, none⟩ :: older =>
    !vm.objectMeta.containsFinalizer virtualMachineFinalizer &&
      decide ("db" ∈ outstanding kvm (older ++ trace))
  | _ => false

theorem exists_of_removesFinalizer {trace log : List LogEntry}
    (h : removesFinalizer trace log = true) :
    ∃ vm older, log = ⟨.updateVM vm, none⟩ :: older ∧
      vm.objectMeta.containsFinalizer virtualMachineFinalizer = false ∧
      "db" ∈ outstanding kvm (older ++ trace) := by
  unfold removesFinalizer at h
  split at h
  · obtain ⟨hremoved, hmem⟩ := Bool.and_eq_true_iff.mp h
    exact ⟨_, _, rfl, by simpa using hremoved, of_decide_eq_true hmem⟩
  · cases h

end Sample

open Sample

/-- Two runs that leave a VM without its object: the provider's client cannot be had when
the object is deleted; and the object is deleted while its VM is created, so that the write
of the ID conflicts. -/
theorem object_gone_vm_stays :
    (∃ site trace, (system {} kvm .libvirt db).Reach (fun _ _ choices log =>
        Owning kvm db choices log ∧ Recorded log) site trace ∧
      site.vms.live db = none ∧ site.hypervisor.managed ≠ []) ∧
    ∃ site trace, (system {} kvm .libvirt db).Reach (fun _ _ choices log =>
        Owning kvm db choices log ∧
          ∀ entry ∈ log, clientFails entry = false) site trace ∧
      site.vms.live db = none ∧ site.hypervisor.managed ≠ [] := by
  have hinit : (system {} kvm .libvirt db).init dbSite :=
    ⟨⟨_, rfl, rfl⟩, rfl⟩
  constructor
  · exact (system {} kvm .libvirt db).exists_reach_of_replay
      (fun _ _ choices log => owningHolds choices log && decide (Recorded log))
      [createsDB done, [deletesDB (.lagging 0), virsh ["db"],
        clientError, done]]
      (fun _ _ _ _ h => (Bool.and_eq_true_iff.mp h).imp owning_of_holds
        of_decide_eq_true) hinit (by decide +kernel)
  · exact (system {} kvm .libvirt db).exists_reach_of_replay
      (fun _ _ choices log =>
        owningHolds choices log && decide (∀ entry ∈ log, clientFails entry = false))
      [createsDB (deletesDB .accept), [cached, done]]
      (fun _ _ _ _ h => (Bool.and_eq_true_iff.mp h).imp owning_of_holds of_decide_eq_true)
      hinit (by decide +kernel)

/-- A VM is created and recorded, and the object deleted: the finalizer goes after Delete. -/
theorem finalizer_removed_after_delete_sample : ∃ site trace choices out vm older v,
    (system {} kvm .libvirt db).Reach (fun _ _ choices log =>
      Owning kvm db choices log ∧ Recorded log) site trace ∧
    (({} : Reconciler).reconcile db).run ⟨Site.answer kvm⟩ site [] choices =
      some out ∧ out.log = ⟨.updateVM vm, none⟩ :: older ∧ Read db older v ∧
    v.status.id = "db" ∧ Disposed kvm v older := by
  obtain ⟨site, trace, hreach, out, hrun, howning, hreached, hremoves⟩ :=
    (system {} kvm .libvirt db).exists_reach_of_replay
    (P := fun site trace => ∃ out ∈ (({} : Reconciler).reconcile db).run
      ⟨Site.answer kvm⟩ site [] deletesVM,
      owningHolds deletesVM out.log = true ∧
      (∀ entry ∈ out.log, clientFails entry = false) ∧
      removesFinalizer trace out.log = true)
    (fun _ _ choices log => owningHolds choices log && decide (Recorded log))
    [createsDB done]
    (fun _ _ _ _ h => (Bool.and_eq_true_iff.mp h).imp owning_of_holds
      of_decide_eq_true) (s := dbSite) ⟨⟨_, rfl, rfl⟩, rfl⟩ (by decide +kernel)
  obtain ⟨vm, older, hlog, hremoved, hmem⟩ := exists_of_removesFinalizer hremoves
  have hwrite : (⟨.updateVM vm, none⟩ :: older) <:+ out.log :=
    hlog ▸ suffix_refl out.log
  obtain ⟨v, hread, hdisposed⟩ := finalizer_removed_after_delete {} hreach hrun
    (owning_of_holds howning) hreached hwrite hremoved
  obtain ⟨hid, hgone⟩ := hdisposed "db" hmem (by decide)
  exact ⟨site, trace, deletesVM, out, vm, older, v, hreach, hrun, hlog, hread, hid, hgone⟩

end Virtrigaud.VM
