import Virtrigaud.Clone.Reconcile

/-!
# What one reconcile of a clone can do

`Allowed` says when `VMCloneReconciler.Reconcile` makes each call that changes something,
by the version it read and the answers it got; `reconcile_obeys` proves it, once and for
every answer.
-/

namespace Virtrigaud.Clone

open Effects Program List

/-- `v` is the version the reconcile works from: its first call answered it. -/
def Read (key : ObjectKey) (log : List LogEntry) (v : VMClone) : Prop :=
  log.getLast? = some ⟨.getClone key, .ok v⟩

/-- The response of a Clone RPC that succeeded. -/
def cloned : LogEntry → Option CloneResponse
  | ⟨.clone _ _, .ok resp⟩ => some resp
  | _ => none

/-- A status write that went through. -/
def statusWritten : LogEntry → Bool
  | ⟨.statusUpdate _, .ok _⟩ => true
  | _ => false

/-- Neither of the two. -/
def quiet (entry : LogEntry) : Bool := (cloned entry).isNone && !statusWritten entry

/-- An error on a VirtualMachine that says nothing about the object. -/
def hitch : LogEntry → Bool
  | ⟨.getVirtualMachine _, .error err⟩ => decide (err.reason ≠ .notFound)
  | ⟨.createVirtualMachine _, some err⟩ => decide (err.reason ≠ .alreadyExists)
  | ⟨.vmStatusUpdate _, some _⟩ => true
  | _ => false

/-- The calls that neither write nor clone. -/
def reads : Call → Bool
  | .updateClone _ | .statusUpdate _ | .createVirtualMachine _ | .vmStatusUpdate _
  | .clone _ _ => false
  | _ => true

/-- The target VM ID in memory: the one that was read, or that of this reconcile's Clone. -/
inductive Records (v : VMClone) (log : List LogEntry) : String → Prop
  | kept : (∀ entry ∈ log, cloned entry = none) → Records v log v.status.targetVMID
  | made {entry resp} : entry ∈ log → cloned entry = some resp →
      (∀ other ∈ log, other = entry ∨ cloned other = none) → Records v log resp.targetVmID

/-- The target VM ID is in the version that was read, or in a status that was written. -/
def Persisted (v : VMClone) (log : List LogEntry) (id : String) : Prop :=
  v.status.targetVMID = id ∨ ∃ stored version,
    ⟨.statusUpdate stored, .ok version⟩ ∈ log ∧ stored.status.targetVMID = id

/-- The version the object in memory stands for: the one that was read, or after a write
that went through the one it made, with the same target VM ID. -/
inductive Saw (v : VMClone) (log : List LogEntry) (clone : VMClone) : Prop
  | read : clone.objectMeta.resourceVersion = v.objectMeta.resourceVersion →
      (∀ entry ∈ log, statusWritten entry = false) → Saw v log clone
  | written {stored} :
      ⟨.statusUpdate stored, .ok clone.objectMeta.resourceVersion⟩ ∈ log →
      stored.status.targetVMID = clone.status.targetVMID → Saw v log clone

/-- The source of the clone, and the provider its reference leads to. -/
def FoundSource (v : VMClone) (log : List LogEntry) (sourceVM : VirtualMachine)
    (provider : ObjectKey) : Prop :=
  ∃ ref found, named v.spec.vmRef = some ref ∧
    ⟨.getVirtualMachine ⟨v.objectMeta.ns, ref.name⟩, .ok sourceVM⟩ ∈ log ∧
    ⟨.getProvider (providerKey sourceVM), .ok found⟩ ∈ log ∧ found.objectMeta.key = provider

/-- The target object was found with the ID, or was given it. -/
def Bound (v : VMClone) (log : List LogEntry) (id : String) : Prop :=
  ∃ vm, ⟨.getVirtualMachine (targetKey v), .ok vm⟩ ∈ log ∧ (vm.status.id = id ∨
    ⟨.vmStatusUpdate { vm with status := { vm.status with id } }, none⟩ ∈ log)

/-- The target object could not be created. -/
def CreateFailed (log : List LogEntry) : Prop :=
  ∃ vm err, ⟨.createVirtualMachine vm, some err⟩ ∈ log ∧ err.reason ≠ .alreadyExists

/-- A status write: what it says of the VM that was cloned. -/
structure Persists (v : VMClone) (log : List LogEntry) (clone : VMClone) : Prop where
  live : terminal v.status.phase = false
  records : Records v log clone.status.targetVMID
  saw : Saw v log clone
  ready : clone.status.phase = .ready → clone.status.targetVMID ≠ "" ∧
    Bound v log clone.status.targetVMID
  failed : clone.status.phase = .failed → (∀ entry ∈ log, hitch entry = false) ∨ CreateFailed log

/-- When a reconcile of the object makes a call. Calls that only read or poll are not
restricted. -/
def Allowed (key : ObjectKey) (log : List LogEntry) : Call → Prop
  | .statusUpdate clone => ∃ v, Read key log v ∧ Persists v log clone
  | .updateClone clone => ∃ v, Read key log v ∧ clone.spec = v.spec ∧
      ∃ finalizers, clone.objectMeta = { v.objectMeta with finalizers := finalizers }
  | .clone provider req => ∃ v sourceVM classJSON, Read key log v ∧
      terminal v.status.phase = false ∧ v.status.targetVMID = "" ∧
      (∀ entry ∈ log, reads entry.1 = true) ∧ FoundSource v log sourceVM provider ∧
      (∃ err, ⟨.getVirtualMachine (targetKey v), .error err⟩ ∈ log ∧ err.reason = .notFound) ∧
      req = cloneRequest v sourceVM classJSON
  | .createVirtualMachine vm => ∃ v sourceVM provider id err, Read key log v ∧
      terminal v.status.phase = false ∧ FoundSource v log sourceVM provider ∧
      Persisted v log id ∧ id ≠ "" ∧ vm = buildTargetVM v sourceVM ∧
      ⟨.getVirtualMachine (targetKey v), .error err⟩ ∈ log ∧ err.reason = .notFound
  | .vmStatusUpdate vm => ∃ v found id, Read key log v ∧ terminal v.status.phase = false ∧
      Persisted v log id ∧ id ≠ "" ∧ vm = { found with status := { found.status with id } } ∧
      ⟨.getVirtualMachine (targetKey v), .ok found⟩ ∈ log
  | _ => True

variable {sourceVM : VirtualMachine}

section Log

variable {key : ObjectKey} {log log' : List LogEntry} {v w : VMClone} {entry : LogEntry}

theorem Read.mono (h : Read key log v) (hlog : log <:+ log') : Read key log' v := by
  obtain ⟨newer, rfl⟩ := hlog
  have hne : log ≠ [] := by
    rintro rfl
    cases h
  rw [Read, getLast?_append_of_ne_nil _ hne]
  exact h

theorem Read.cons (h : Read key log v) : Read key (entry :: log) v := h.mono (suffix_cons _ _)

theorem Read.unique {other : ObjectKey} (h : Read key log v) (h' : Read other log w) : v = w := by
  have heq := h.symm.trans h'
  cases heq
  rfl

theorem Records.cons {id : String} (h : Records v log id) (hentry : cloned entry = none) :
    Records v (entry :: log) id := by
  cases h with
  | kept hnone => exact .kept (forall_mem_cons.mpr ⟨hentry, hnone⟩)
  | made hmem hcloned hother =>
    exact .made (.tail _ hmem) hcloned (forall_mem_cons.mpr ⟨.inr hentry, hother⟩)

theorem Saw.cons (h : Saw v log w) (hentry : statusWritten entry = false) :
    Saw v (entry :: log) w := by
  cases h with
  | read hversion hnone => exact .read hversion (forall_mem_cons.mpr ⟨hentry, hnone⟩)
  | written hmem hid => exact .written (.tail _ hmem) hid

theorem cloned_of_quiet (h : quiet entry = true) : cloned entry = none :=
  Option.isNone_iff_eq_none.mp (Bool.and_eq_true_iff.mp h).1

theorem statusWritten_of_quiet (h : quiet entry = true) : statusWritten entry = false :=
  Bool.not_eq_true' _ ▸ (Bool.and_eq_true_iff.mp h).2

theorem Persisted.mono {id : String} (h : Persisted v log id) (hlog : log ⊆ log') :
    Persisted v log' id :=
  h.imp_right fun ⟨stored, version, hmem, hid⟩ => ⟨stored, version, hlog hmem, hid⟩

theorem FoundSource.mono {provider : ObjectKey} (h : FoundSource v log sourceVM provider)
    (hlog : log ⊆ log') :
    FoundSource v log' sourceVM provider := by
  obtain ⟨ref, found, href, hsource, hprovider, hkey⟩ := h
  exact ⟨ref, found, href, hlog hsource, hlog hprovider, hkey⟩

end Log

theorem quiet_of_reads {entry : LogEntry} (h : reads entry.1 = true) : quiet entry = true := by
  obtain ⟨c, r⟩ := entry
  cases c <;> trivial

/-- The object in memory comes from the version that was read, and so does its target VM
ID, or it is that of the Clone. -/
structure Held (key : ObjectKey) (log : List LogEntry) (v clone : VMClone) : Prop where
  read : Read key log v
  live : terminal v.status.phase = false
  spec : clone.spec = v.spec
  named : clone.objectMeta.key = v.objectMeta.key
  records : Records v log clone.status.targetVMID
  saw : Saw v log clone

section Memory

variable {key : ObjectKey} {log : List LogEntry} {v clone : VMClone} {entry : LogEntry}

variable (h : Held key log v clone)
include h

theorem Held.cons (hentry : quiet entry = true) :
    Held key (entry :: log) v clone :=
  ⟨h.read.cons, h.live, h.spec, h.named, h.records.cons (cloned_of_quiet hentry),
    h.saw.cons (statusWritten_of_quiet hentry)⟩

/-- Another status with the same target VM ID. -/
theorem Held.withStatus {status : VMCloneStatus}
    (hid : status.targetVMID = clone.status.targetVMID) :
    Held key log v { clone with status } := by
  refine ⟨h.read, h.live, h.spec, h.named, hid ▸ h.records, ?_⟩
  cases h.saw with
  | read hversion hnone => exact .read hversion hnone
  | written hmem hstored => exact .written hmem (hstored.trans hid.symm)

theorem Held.targetKey : targetKey clone = Clone.targetKey v := by
  have hns : clone.objectMeta.ns = v.objectMeta.ns := congrArg ObjectKey.ns h.named
  rw [Clone.targetKey, Clone.targetKey, targetNamespace, targetNamespace, h.spec, hns]

theorem Held.buildTargetVM (sourceVM : VirtualMachine) :
    buildTargetVM clone sourceVM = Clone.buildTargetVM v sourceVM := by
  have hns : clone.objectMeta.ns = v.objectMeta.ns := congrArg ObjectKey.ns h.named
  have hname : clone.objectMeta.name = v.objectMeta.name := congrArg ObjectKey.name h.named
  rw [Clone.buildTargetVM, Clone.buildTargetVM, targetNamespace, targetNamespace, h.spec, hns,
    hname]

end Memory

section Handlers

variable {key : ObjectKey} {log : List LogEntry} {v clone : VMClone}

variable (hheld : Held key log v clone)
include hheld

theorem updateStatus_obeys
    (hready : clone.status.phase = .ready → clone.status.targetVMID ≠ "" ∧
      Bound v log clone.status.targetVMID)
    (hfailed : clone.status.phase = .failed →
      (∀ entry ∈ log, hitch entry = false) ∨ CreateFailed log) :
    (updateStatus clone).Obeys (Allowed key)
      (fun result log' => (∃ answer, log' = ⟨.statusUpdate clone, answer⟩ :: log) ∧
        ∀ stored, result = .ok stored → Held key log' v stored ∧
          stored.status = clone.status ∧ Persisted v log' stored.status.targetVMID) log := by
  refine obeys_perform ⟨v, hheld.read, hheld.live, hheld.records, hheld.saw, hready,
    hfailed⟩ ?_
  rintro (err | resourceVersion)
  · exact ⟨⟨_, rfl⟩, fun stored heq => nomatch heq⟩
  · refine ⟨⟨_, rfl⟩, fun stored heq => ?_⟩
    cases heq
    exact ⟨⟨hheld.read.cons, hheld.live, hheld.spec, hheld.named, hheld.records.cons rfl,
      .written (.head _) rfl⟩, rfl, .inr ⟨clone, _, .head _, rfl⟩⟩

theorem markFailed_obeys (hfailed : (∀ entry ∈ log, hitch entry = false) ∨ CreateFailed log)
    (reason message : String) :
    (markFailed clone reason message).Heeds (Allowed key) log := by
  have hheld' : Held key log v
      { clone with status := failedStatus clone.status reason message } := hheld.withStatus rfl
  exact (updateStatus_obeys hheld' nofun fun _ => hfailed).bind
    fun _ _ _ _ => trivial

theorem markPending_obeys (reason message : String) :
    (markPending clone reason message).Heeds (Allowed key) log := by
  have hheld' : Held key log v
      { clone with status := pendingStatus clone.status reason message } := hheld.withStatus rfl
  exact (updateStatus_obeys hheld' nofun fun h => nomatch h).bind
    fun _ _ _ _ => trivial

theorem finalizeReady_obeys (hid : clone.status.targetVMID ≠ "")
    (hbound : Bound v log clone.status.targetVMID) :
    (finalizeReady clone).Heeds (Allowed key) log := by
  refine obeys_perform trivial fun now => ?_
  have hheld' : Held key (⟨.now, now⟩ :: log) v { clone with
      status := readyStatus clone.status clone.spec.target.name now } :=
    (hheld.cons rfl).withStatus rfl
  have hbound' : Bound v (⟨.now, now⟩ :: log) clone.status.targetVMID := by
    obtain ⟨vm, hmem, hset⟩ := hbound
    exact ⟨vm, .tail _ hmem, hset.imp_right (.tail _)⟩
  refine (updateStatus_obeys hheld' (fun _ => ⟨hid, hbound'⟩) fun h => nomatch h).bind ?_
  rintro (err | stored) _ _ _ <;> trivial

variable (hpersisted : Persisted v log clone.status.targetVMID)
include hpersisted

/-- A seed that ends without error leaves the target bound. -/
theorem seedStatusID_obeys (hid : clone.status.targetVMID ≠ "") (attempts : Nat) :
    (seedStatusID (targetKey v) clone.status.targetVMID attempts).Obeys (Allowed key)
      (fun err log' => Held key log' v clone ∧
        (err = none → Bound v log' clone.status.targetVMID)) log := by
  induction attempts generalizing log with
  | zero => exact ⟨hheld, nofun⟩
  | succ attempts ih =>
    refine obeys_perform trivial ?_
    rintro (err | latest)
    · dsimp only
      split
      · exact ih (hheld.cons rfl) (hpersisted.mono (subset_cons_self _ _))
      · exact ⟨hheld.cons rfl, nofun⟩
    have hread : Held key (⟨.getVirtualMachine (targetKey v), .ok latest⟩ :: log) v clone :=
      hheld.cons rfl
    have hpersisted' := hpersisted.mono
      (subset_cons_self (⟨.getVirtualMachine (targetKey v), .ok latest⟩ : LogEntry) log)
    dsimp only
    split
    · rename_i hsame
      exact ⟨hread, fun _ => ⟨latest, .head _, .inl hsame⟩⟩
    refine obeys_perform ⟨v, latest, _, hread.read, hread.live, hpersisted', hid, rfl,
      (.head _)⟩ ?_
    rintro (_ | err)
    · exact ⟨hread.cons rfl,
        fun _ => ⟨latest, .tail _ (.head _), .inr (.head _)⟩⟩
    · dsimp only
      split
      · exact ih (hread.cons rfl) (hpersisted'.mono (subset_cons_self _ _))
      · exact ⟨hread.cons rfl, nofun⟩

theorem seedTargetVM_obeys (hid : clone.status.targetVMID ≠ "") :
    (seedTargetVM clone clone.status.targetVMID).Heeds (Allowed key) log := by
  unfold seedTargetVM
  rw [hheld.targetKey]
  refine (seedStatusID_obeys hheld hpersisted hid 5).bind ?_
  rintro (_ | err) log' - ⟨hheld', hbound⟩
  · exact finalizeReady_obeys hheld' hid (hbound rfl)
  · trivial

theorem bindTargetVM_obeys {provider : ObjectKey} (hsource : FoundSource v log sourceVM provider)
    (hsmooth : ∀ entry ∈ log, hitch entry = false) :
    (bindTargetVM clone sourceVM clone.status.targetVMID).Heeds (Allowed key) log := by
  unfold bindTargetVM
  split
  · exact markFailed_obeys hheld (.inl hsmooth) _ _
  rename_i hid
  rw [hheld.targetKey, hheld.buildTargetVM]
  refine obeys_perform trivial ?_
  rintro (err | found)
  swap
  · exact seedTargetVM_obeys (hheld.cons rfl) (hpersisted.mono (subset_cons_self _ _)) hid
  dsimp only
  split
  · rename_i hreason
    have hpersisted' := hpersisted.mono
      (subset_cons_self (⟨.getVirtualMachine (targetKey v), .error err⟩ : LogEntry) log)
    refine obeys_perform ⟨v, sourceVM, provider, _, err, hheld.read.cons, hheld.live,
      hsource.mono (subset_cons_self _ _), hpersisted', hid, rfl,
      (.head _), hreason⟩ ?_
    rintro (_ | createErr)
    · exact seedTargetVM_obeys ((hheld.cons rfl).cons rfl)
        (hpersisted'.mono (subset_cons_self _ _)) hid
    · dsimp only
      split
      · exact seedTargetVM_obeys ((hheld.cons rfl).cons rfl)
          (hpersisted'.mono (subset_cons_self _ _)) hid
      · rename_i hexists
        exact markFailed_obeys ((hheld.cons rfl).cons rfl)
          (.inr ⟨_, createErr, .head _, hexists⟩) _ _
  · trivial

end Handlers

section Cloning

variable {key : ObjectKey} {log : List LogEntry} {v clone : VMClone} (r : Reconciler)

/-- The state before the Clone: nothing but reads and polls so far. -/
structure Before (key : ObjectKey) (log : List LogEntry) (v clone : VMClone) : Prop
    extends Held key log v clone where
  status : clone.status.targetVMID = v.status.targetVMID
  phase : clone.status.phase = v.status.phase
  version : clone.objectMeta.resourceVersion = v.objectMeta.resourceVersion
  reading : ∀ entry ∈ log, reads entry.1 = true
  smooth : ∀ entry ∈ log, hitch entry = false

theorem phase_of_live {phase : ClonePhase} (h : terminal phase = false) :
    phase ≠ .ready ∧ phase ≠ .failed := by
  constructor <;> (rintro rfl; cases h)

theorem Before.cons {entry : LogEntry} (h : Before key log v clone)
    (hentry : (reads entry.1 && !hitch entry) = true) : Before key (entry :: log) v clone := by
  obtain ⟨hreads, hsmooth⟩ := Bool.and_eq_true_iff.mp hentry
  rw [Bool.not_eq_true'] at hsmooth
  exact ⟨h.toHeld.cons (quiet_of_reads hreads), h.status, h.phase, h.version,
    forall_mem_cons.mpr ⟨hreads, h.reading⟩, forall_mem_cons.mpr ⟨hsmooth, h.smooth⟩⟩

theorem Before.quiet (h : Before key log v clone) : ∀ entry ∈ log, quiet entry = true :=
  fun entry hentry => quiet_of_reads (h.reading entry hentry)

theorem classJSON_before (h : Before key log v clone) :
    (r.classJSON clone).Obeys (Allowed key)
      (fun _ log' => Before key log' v clone ∧ log ⊆ log') log := by
  unfold Reconciler.classJSON
  split
  · exact ⟨h, Subset.refl _⟩
  refine obeys_perform trivial ?_
  rintro (err | vmClass) <;> exact ⟨h.cons rfl, subset_cons_self _ _⟩

variable {provider : ObjectKey}

section

variable (h : Before key log v clone)
include h

theorem startClone_obeys {err : GoError} (hsource : FoundSource v log sourceVM provider)
    (hid : v.status.targetVMID = "")
    (habsent : ⟨.getVirtualMachine (targetKey v), .error err⟩ ∈ log)
    (hreason : err.reason = .notFound) :
    (r.startClone clone sourceVM provider).Heeds (Allowed key) log := by
  refine obeys_perform trivial fun cloner => ?_
  split
  · exact markFailed_obeys (h.cons rfl).toHeld (.inl (h.cons rfl).smooth) _ _
  refine (classJSON_before r (h.cons rfl)).bind ?_
  rintro classJSON log₁ - ⟨h₁, hlog₁⟩
  refine obeys_perform trivial fun now => ?_
  have h₂ : Before key (⟨.now, now⟩ :: log₁) v clone := h₁.cons rfl
  have hsource₂ : FoundSource v (⟨.now, now⟩ :: log₁) sourceVM provider :=
    hsource.mono fun entry hentry => .tail _ (hlog₁ (.tail _ hentry))
  have habsent₂ : ⟨.getVirtualMachine (targetKey v), .error err⟩ ∈
      (⟨.now, now⟩ :: log₁ : List LogEntry) :=
    .tail _ (hlog₁ (.tail _ habsent))
  have hreq : ∀ status, cloneRequest { clone with status } sourceVM classJSON =
      cloneRequest v sourceVM classJSON := by
    intro status
    rw [cloneRequest, cloneRequest, linkedRequested, linkedRequested, placementJSON, placementJSON,
      h.spec]
  dsimp only
  rw [hreq]
  refine obeys_perform ⟨v, sourceVM, classJSON, h₂.read, h₂.live, hid, h₂.reading, hsource₂,
    ⟨err, habsent₂, hreason⟩, rfl⟩ ?_
  have hsmooth : ∀ answer, ∀ entry ∈ (⟨.clone provider (cloneRequest v sourceVM classJSON),
      answer⟩ :: ⟨.now, now⟩ :: log₁ : List LogEntry), hitch entry = false := fun answer =>
    forall_mem_cons.mpr ⟨rfl, h₂.smooth⟩
  rintro (cloneErr | resp)
  · have hheld : Held key (⟨.clone provider (cloneRequest v sourceVM classJSON),
        .error cloneErr⟩ :: ⟨.now, now⟩ :: log₁) v { clone with
          status := cloningStatus clone.status (linkedRequested clone) now } :=
      (h₂.toHeld.cons rfl).withStatus rfl
    exact markFailed_obeys hheld (.inl (hsmooth _)) _ _
  -- from here on the ID in memory is that of the new VM
  have hheld : Held key (⟨.clone provider (cloneRequest v sourceVM classJSON), .ok resp⟩ ::
      ⟨.now, now⟩ :: log₁) v { clone with
        status := clonedStatus (cloningStatus clone.status (linkedRequested clone) now) resp } := by
    refine ⟨h₂.read.cons, h₂.live, h₂.spec, h₂.named, ?_, .read h₂.version ?_⟩
    · exact .made (.head _) rfl fun other hother =>
        (mem_cons.mp hother).imp_right fun hold => cloned_of_quiet (h₂.quiet other hold)
    · exact forall_mem_cons.mpr
        ⟨rfl, fun entry hentry => statusWritten_of_quiet (h₂.quiet entry hentry)⟩
  refine (updateStatus_obeys hheld nofun fun h => nomatch h).bind ?_
  rintro (writeErr | stored) log₃ - ⟨⟨answer, rfl⟩, hstored⟩
  · trivial
  obtain ⟨hheld, hstatus, hpersisted⟩ := hstored stored rfl
  dsimp only
  split
  · have hbound : stored.status.targetVMID = resp.targetVmID := by rw [hstatus]; rfl
    rw [← hbound]
    refine bindTargetVM_obeys hheld hpersisted (hsource₂.mono ?_)
      (forall_mem_cons.mpr ⟨rfl, hsmooth _⟩)
    exact fun entry hentry => .tail _ (.tail _ hentry)
  · trivial

theorem pollCloneTask_obeys (hsource : FoundSource v log sourceVM provider) :
    (pollCloneTask clone sourceVM provider).Heeds (Allowed key) log := by
  refine obeys_perform trivial ?_
  rintro (err | _ | _)
  · exact markFailed_obeys (h.cons rfl).toHeld (.inl (h.cons rfl).smooth) _ _
  · trivial
  have hheld : Held key (⟨.isTaskComplete provider clone.status.taskRef, .ok true⟩ :: log) v
      { clone with status := { clone.status with taskRef := "" } } :=
    (h.cons rfl).toHeld.withStatus rfl
  refine (updateStatus_obeys hheld (fun hready => ?_) fun hfailed => ?_).bind ?_
  · exact absurd hready (h.phase ▸ (phase_of_live h.live).1)
  · exact absurd hfailed (h.phase ▸ (phase_of_live h.live).2)
  rintro (writeErr | stored) log₁ - ⟨⟨answer, rfl⟩, hstored⟩
  · trivial
  obtain ⟨hheld', -, hpersisted⟩ := hstored stored rfl
  refine bindTargetVM_obeys hheld' hpersisted (hsource.mono ?_)
    (forall_mem_cons.mpr ⟨rfl, (h.cons rfl).smooth⟩)
  exact fun entry hentry => .tail _ (.tail _ hentry)

theorem linkedCloneBlocked_before :
    (linkedCloneBlocked clone provider).Obeys (Allowed key)
      (fun _ log' => Before key log' v clone ∧ log ⊆ log') log := by
  unfold linkedCloneBlocked
  split
  · refine obeys_perform trivial fun answer => ?_
    split <;> exact ⟨h.cons rfl, subset_cons_self _ _⟩
  · exact ⟨h, Subset.refl _⟩

theorem reconcileClone_obeys (hsource : FoundSource v log sourceVM provider) :
    (r.reconcileClone clone sourceVM provider).Heeds (Allowed key) log := by
  refine (linkedCloneBlocked_before h).bind ?_
  rintro blocked log₁ - ⟨h₁, hlog₁⟩
  have hsource₁ := hsource.mono hlog₁
  split
  · exact markFailed_obeys h₁.toHeld (.inl h₁.smooth) _ _
  split
  · exact pollCloneTask_obeys h₁ hsource₁
  split
  · exact bindTargetVM_obeys h₁.toHeld (.inl h₁.status.symm) hsource₁ h₁.smooth
  rename_i hid
  rw [not_not, h₁.status] at hid
  rw [h₁.targetKey]
  refine obeys_perform trivial ?_
  rintro (err | found)
  · dsimp only
    split
    · rename_i hreason
      have habsent : hitch ⟨.getVirtualMachine (targetKey v), .error err⟩ = false := by
        simp only [hitch, hreason, ne_eq, not_true_eq_false, decide_false]
      have h₂ : Before key (⟨.getVirtualMachine (targetKey v), .error err⟩ :: log₁) v clone :=
        h₁.cons (Bool.and_eq_true_iff.mpr ⟨rfl, by rw [habsent]; rfl⟩)
      exact startClone_obeys r h₂ (hsource₁.mono (subset_cons_self _ _)) hid
        (.head _) hreason
    · trivial
  · exact markFailed_obeys (h₁.cons rfl).toHeld (.inl (h₁.cons rfl).smooth) _ _

theorem reconcileSource_obeys {ref : LocalObjectReference} (href : named v.spec.vmRef = some ref) :
    (r.reconcileSource clone ref.name).Heeds (Allowed key) log := by
  have hns : clone.objectMeta.ns = v.objectMeta.ns := congrArg ObjectKey.ns h.named
  unfold Reconciler.reconcileSource
  rw [hns]
  refine obeys_perform trivial ?_
  rintro (err | sourceVM)
  · dsimp only
    split
    · exact markPending_obeys (h.toHeld.cons rfl) _ _
    · trivial
  dsimp only
  split
  · exact markPending_obeys (h.cons rfl).toHeld _ _
  refine obeys_perform trivial ?_
  rintro (err | provider)
  · exact markPending_obeys ((h.cons rfl).cons rfl).toHeld _ _
  refine obeys_perform trivial ?_
  rintro (_ | err)
  · refine reconcileClone_obeys r (((h.cons rfl).cons rfl).cons rfl)
      ⟨ref, provider, href, ?_, ?_, rfl⟩
    · exact .tail _ (.tail _ (.head _))
    · exact .tail _ (.head _)
  · exact markPending_obeys (((h.cons rfl).cons rfl).cons rfl).toHeld _ _

end

/-- The rule of one reconcile. -/
theorem reconcile_obeys (key : ObjectKey) :
    (r.reconcile key).Heeds (Allowed key) [] := by
  refine obeys_perform trivial ?_
  rintro (err | v)
  · dsimp only
    split <;> trivial
  have hread : Read key [⟨.getClone key, .ok v⟩] v := rfl
  dsimp only
  split
  · exact obeys_perform ⟨v, hread, rfl, _, rfl⟩ fun _ => trivial
  split
  · exact obeys_perform ⟨v, hread, rfl, _, rfl⟩ fun _ => trivial
  split
  · trivial
  rename_i hopen
  have hbefore : Before key [⟨.getClone key, .ok v⟩] v { v with
      status := { v.status with observedGeneration := v.objectMeta.generation } } := by
    refine ⟨⟨hread, Bool.not_eq_true _ ▸ hopen, rfl, rfl, .kept ?_, .read rfl ?_⟩,
      rfl, rfl, rfl, ?_, ?_⟩
    all_goals exact forall_mem_singleton.mpr rfl
  split
  · exact markFailed_obeys hbefore.toHeld (.inl hbefore.smooth) _ _
  · exact reconcileSource_obeys r hbefore ‹_›

end Cloning

end Virtrigaud.Clone
