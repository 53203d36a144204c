import Virtrigaud.VM.Outline
import Virtrigaud.VM.Providers

/-!
# The controller keeps to protocol and outline

One lemma per function of the controller, following its branches, up to `Reconcile` itself.
What serves an RPC consists of plain calls, so for the outline it is passed over as a whole.
-/

namespace Virtrigaud.VM

open Effects Program List

/-- A reconcile that read `v` has written nothing and asked for no size yet. -/
structure Working (key : ObjectKey) (log : List LogEntry) (v : VirtualMachine) : Prop where
  read : Read key log v
  clean : ∀ entry ∈ log, writes entry = false
  unsized : lastSize log = none

section

variable {key : ObjectKey} {log log' : List LogEntry} {v vm : VirtualMachine}

theorem Working.cons {entry : LogEntry} (h : Working key log v) (hwrites : writes entry = false)
    (hsize : requestedSize entry = none) : Working key (entry :: log) v where
  read := h.read.cons
  clean := forall_mem_cons.mpr ⟨hwrites, h.clean⟩
  unsized := by
    unfold lastSize
    rw [findSome?_cons, hsize]
    exact h.unsized

section

variable {c : Call} (h : plain c = true)
include h

theorem writes_of_plain (r : Answer c) : writes ⟨c, r⟩ = false := by
  cases c <;> first | rfl | cases h

theorem requestedSize_of_plain (r : Answer c) : requestedSize ⟨c, r⟩ = none := by
  cases c with
  | response provider served => cases served <;> first | rfl | cases h
  | _ => first | rfl | cases h

theorem classRead_of_plain (r : Answer c) : classRead (⟨c, r⟩ :: log) = classRead log := by
  cases c <;> first | rfl | cases h

theorem outlined_of_plain (hclean : ∀ entry ∈ log, writes entry = false) : Outlined key log c := by
  refine ⟨hclean, ?_⟩
  cases c with
  | request provider rpc => cases rpc <;> trivial
  | _ => trivial

end

/-- A plain program leaves the reconcile where it was. -/
theorem Plain.outlined {α : Type} {p : M α} {Q : α → Prop} (h : Plain p) (hreturns : p.Returns Q)
    (hworking : Working key log v) :
    p.Obeys (Outlined key)
      (fun a log' => Q a ∧ Working key log' v ∧ classRead log' = classRead log) log := by
  refine Only.obeys h hreturns
    (R := fun log' => Working key log' v ∧ classRead log' = classRead log) ⟨hworking, rfl⟩ ?_
  intro log' c hafter hc
  refine ⟨outlined_of_plain hc hafter.1.clean, fun r => ⟨?_, ?_⟩⟩
  · exact hafter.1.cons (writes_of_plain hc r) (requestedSize_of_plain hc r)
  · exact (classRead_of_plain hc r).trans hafter.2

theorem Resumed.mono {vmClass : VMClass} (h : Resumed v vmClass log vm) (hlog : log ⊆ log') :
    Resumed v vmClass log' vm := by
  rcases h with hnone | ⟨htask, hdone, heq⟩
  · exact .inl hnone
  · exact .inr ⟨htask, hlog hdone, heq⟩

theorem Missing.mono (h : Missing v log) (hlog : log ⊆ log') : Missing v log' := by
  rcases h with hid | ⟨desc, hexists, hmem⟩
  · exact .inl hid
  · exact .inr ⟨desc, hexists, hlog hmem⟩

/-- The calls that a reconcile makes. -/
def Conforms (key : ObjectKey) (log : List LogEntry) (c : Call) : Prop :=
  Allowed key log c ∧ Outlined key log c

/-- The reconcile has put no VM on a hypervisor yet, either. -/
structure Running (key : ObjectKey) (log : List LogEntry) (v : VirtualMachine) : Prop
    extends Working key log v where
  untouched : arrivals log = []

theorem Running.start (h : Running key log v) : Start key log v := ⟨h.read, h.untouched⟩

theorem Running.cons {entry : LogEntry} (h : Running key log v) (hwrites : writes entry = false)
    (hsize : requestedSize entry = none) (hentry : broughtUp entry = none) :
    Running key (entry :: log) v :=
  { h.toWorking.cons hwrites hsize with
    untouched := (arrivals_cons_none hentry).trans h.untouched }

/-- A program that only reads leaves the reconcile where it was. -/
theorem Running.reads {α : Type} {p : M α} {Q : α → Prop} (h : Running key log v)
    (honly : p.Only (reading · = true)) (hreturns : p.Returns Q) :
    p.Obeys (Conforms key)
      (fun a log' => Q a ∧ Running key log' v ∧ classRead log' = classRead log) log :=
  ((h.start.reads honly (returns_true p)).and
    ((plain_of_only honly).outlined hreturns h.toWorking)).mono
    fun _ _ _ ⟨hstart, hreturned, hworking, hclass⟩ =>
      ⟨hreturned, { hworking with untouched := hstart.2.untouched }, hclass⟩

/-- What is written keeps to the version that was read. -/
theorem Written.kept (h : Written v log vm) :
    vm.objectMeta = v.objectMeta ∧ vm.spec = v.spec := by
  cases h with
  | unready | preparing | task | reconfigureTask => exact ⟨rfl, rfl⟩
  | @ended vmClass mem _ _ hresumed hended =>
    have hmem : mem.objectMeta = v.objectMeta ∧ mem.spec = v.spec := by
      rcases hresumed with ⟨-, rfl⟩ | ⟨-, -, rfl⟩ <;> exact ⟨rfl, rfl⟩
    cases hended with
    | powered desc op answer =>
      unfold powerAdjusted
      split
      · exact hmem
      · split <;> exact hmem
    | created =>
      unfold created
      split <;> exact hmem
    | reconfigured =>
      unfold reconfigured
      split <;> exact hmem
    | _ => exact hmem

/-- What is written ends the reconcile. -/
theorem requeue_conforms (delay : Duration) (hread : Read key log v)
    (hclean : ∀ entry ∈ log, writes entry = false) (hwritten : Written v log vm)
    (hid : IdSource v log vm.status.id) :
    (requeue vm delay).Heeds (Conforms key) log :=
  ⟨⟨⟨v, hread, hwritten.kept.1, hwritten.kept.2, hid⟩, hclean, v, hread, hwritten⟩,
    fun _ => trivial⟩

/-- A write of the ID that was read. -/
theorem Running.requeue {delay : Duration} (h : Running key log v) (hwritten : Written v log vm)
    (hid : vm.status.id = v.status.id) :
    (requeue vm delay).Heeds (Conforms key) log :=
  requeue_conforms delay h.read h.clean hwritten (hid ▸ .kept h.start.accounted)

end

section Rpcs

variable {key : ObjectKey} {log : List LogEntry} {v : VirtualMachine} {provider : ObjectKey}

/-- How an RPC ended, in the log. -/
def Reported {α : Type} (provider : ObjectKey) (operation : String) (rpc : Rpc)
    (answer : Except GrpcError α → Served) (Q : Except GrpcError α → Prop) (log : List LogEntry) :
    Except GoError α → Prop
  | .ok a => Q (.ok a) ∧ (⟨.response provider (answer (.ok a)), none⟩ : LogEntry) ∈ log
  | .error err => ∃ status : GrpcError, err = mapGRPCError operation status ∧
      ((⟨.request provider rpc, some status⟩ : LogEntry) ∈ log ∨
        (∃ served, (⟨.response provider served, some status⟩ : LogEntry) ∈ log) ∨
        (⟨.response provider (answer (.error status)), none⟩ : LogEntry) ∈ log)

theorem callProvider_outlined {α : Type} {operation : String} {rpc : Rpc}
    {answer : Except GrpcError α → Served} {serve : M (Except GrpcError α)}
    {Q : Except GrpcError α → Prop} (hworking : Working key log v)
    (hrpc : plain (.request provider rpc) = true)
    (hanswer : ∀ served, plain (.response provider (answer served)) = true)
    (hserve : Plain serve) (hreturns : serve.Returns Q) :
    (callProvider provider operation rpc answer serve).Obeys (Outlined key)
      (fun result log' => Reported provider operation rpc answer Q log' result ∧
        Working key log' v ∧ classRead log' = classRead log) log := by
  have hcons : ∀ {c : Call} {log' : List LogEntry}, plain c = true → Working key log' v →
      ∀ r, Working key (⟨c, r⟩ :: log') v := fun hc hw r =>
    hw.cons (writes_of_plain hc r) (requestedSize_of_plain hc r)
  refine obeys_perform (outlined_of_plain hrpc hworking.clean) ?_
  rintro (_ | status)
  swap
  · exact ⟨⟨status, rfl, .inl (.head _)⟩, hcons hrpc hworking _,
      classRead_of_plain hrpc _⟩
  refine (Plain.outlined hserve hreturns (hcons hrpc hworking _)).bind ?_
  rintro served log₁ - ⟨hserved, hworking₁, hclass₁⟩
  have hclass := hclass₁.trans (classRead_of_plain hrpc _)
  refine obeys_perform (outlined_of_plain (hanswer served) hworking₁.clean) ?_
  have hafter := hcons (hanswer served) hworking₁
  have hclass' : ∀ r, classRead (⟨.response provider (answer served), r⟩ :: log₁) =
      classRead log := fun r => (classRead_of_plain (hanswer served) r).trans hclass
  rintro (_ | status)
  · cases served with
    | ok a => exact ⟨⟨hserved, .head _⟩, hafter _, hclass' _⟩
    | error status =>
      exact ⟨⟨status, rfl, .inr (.inr (.head _))⟩, hafter _, hclass' _⟩
  · exact ⟨⟨status, rfl, .inr (.inl ⟨_, .head _⟩)⟩, hafter _, hclass' _⟩

theorem providerDescribe_outlined (cfg : Config) (type : ProviderType) (id : String)
    (h : Working key log v) :
    (providerDescribe cfg provider type id).Obeys (Outlined key)
      (fun result log' => Reported provider "describe" (.describe id) (.describe id)
        (fun _ => True) log' result ∧ Working key log' v ∧ classRead log' = classRead log) log := by
  refine callProvider_outlined h rfl (fun _ => rfl) ?_ (returns_true _)
  exact serveDescribe_plain provider cfg type id

/-- No provider leaves a task of Delete to be waited for. -/
theorem providerDelete_outlined (type : ProviderType) (id : String) (h : Working key log v) :
    (providerDelete provider type id).Obeys (Outlined key)
      (fun result log' => Reported provider "delete" (.delete id) (.delete id)
        (OnOk (· = "")) log' result ∧ Working key log' v ∧ classRead log' = classRead log) log := by
  refine callProvider_outlined h rfl (fun _ => rfl) ?_ ?_
  · exact serveDelete_plain provider type id
  · repeat' first
      | trivial
      | exact rfl
      | refine (returns_true _).bind fun _ _ => ?_
      | split

/-- How a Create has ended: the size it asked for counts once it has answered. -/
def CreateEnded (key provider : ObjectKey) (v : VirtualMachine) (req : CreateRequest)
    (log : List LogEntry) : Except GoError CreateResponse → Prop
  | .ok resp => Read key log v ∧ (∀ entry ∈ log, writes entry = false) ∧
      ∃ older, log = ⟨.response provider (.create req (.ok resp)), none⟩ :: older ∧
        lastSize older = none
  | .error _ => Working key log v

theorem providerCreate_outlined (cfg : Config) (type : ProviderType) (req : CreateRequest)
    (h : Working key log v) (hprovider : provider = providerKey v) :
    (providerCreate cfg provider type req).Obeys (Outlined key)
      (fun result log' => CreateEnded key provider v req log' result ∧
        classRead log' = classRead log) log := by
  refine obeys_perform ⟨h.clean, v, h.read, hprovider⟩ ?_
  rintro (_ | err)
  swap
  · exact ⟨h.cons rfl rfl, rfl⟩
  refine (Plain.outlined (serveCreate_plain provider cfg type req) (returns_true _)
    (h.cons rfl rfl)).bind ?_
  rintro served log₁ - ⟨-, hworking, hclass⟩
  refine obeys_perform ⟨hworking.clean, trivial⟩ ?_
  rintro (_ | err)
  · cases served with
    | ok resp =>
      exact ⟨⟨hworking.read.cons, forall_mem_cons.mpr ⟨rfl, hworking.clean⟩, log₁, rfl,
        hworking.unsized⟩, hclass⟩
    | error err => exact ⟨hworking.cons rfl rfl, hclass⟩
  · exact ⟨hworking.cons rfl (by cases served <;> rfl), hclass⟩

end Rpcs

section Handlers

variable (r : Reconciler) {key : ObjectKey} {log : List LogEntry} {v vm : VirtualMachine}

variable {vmClass : VMClass}

section

variable (h : Resumed v vmClass log vm)
include h

theorem Resumed.providerKey_eq : providerKey vm = providerKey v := by
  rcases h with ⟨-, rfl⟩ | ⟨-, -, rfl⟩ <;> rfl

theorem Resumed.id_eq : vm.status.id = v.status.id := by
  rcases h with ⟨-, rfl⟩ | ⟨-, -, rfl⟩ <;> rfl

theorem Resumed.spec_eq : vm.spec = v.spec := by
  rcases h with ⟨-, rfl⟩ | ⟨-, -, rfl⟩ <;> rfl

theorem Resumed.objectMeta_eq : vm.objectMeta = v.objectMeta := by
  rcases h with ⟨-, rfl⟩ | ⟨-, -, rfl⟩ <;> rfl

end

theorem size_eq {req : CreateRequest} (h : req.vmClass = convertClass vmClass.spec) :
    CreateRequest.size req = sentSize vmClass := by
  unfold CreateRequest.size sentSize
  rw [h]

theorem forgetID_eq (h : vm.status.id = "") : Reconciler.forgetID vm = vm := by
  unfold Reconciler.forgetID
  rw [← h]

theorem idle_eq (h : vm.status.lastTaskRef = "") : idle vm = vm := by
  unfold idle
  rw [← h]

theorem createVM_conforms (deps : Dependencies) (h : Running key log v)
    (hclass : classRead log = some deps.vmClass) (hresumed : Resumed v deps.vmClass log vm)
    (hmissing : Missing v log) (hwants : WantsVM v log) :
    (r.createVM (Reconciler.forgetID vm) deps).Heeds (Conforms key) log := by
  have hfailed : ∀ {log' : List LogEntry} (message : String), Working key log' v →
      log ⊆ log' → classRead log' = some deps.vmClass →
      Written v log' (setProvisioningCondition (Reconciler.forgetID vm) .conditionFalse
        "ProviderError" message) :=
    fun message hworking hlog hclass' =>
      .ended hclass' (hresumed.mono hlog)
        (.notCreated message (hmissing.mono hlog) hworking.unsized)
  -- Unless Create answers, the empty ID is written: it was read, or the VM is gone.
  have hempty : ∀ {log' : List LogEntry}, log ⊆ log' → Accounted log' → IdSource v log' "" := by
    intro log' hlog haccounted
    rcases (hwants.mono hlog).2 with ⟨hread, -⟩ | ⟨-, hgone⟩
    · rw [← hread]
      exact .kept haccounted
    · exact .forgotten hgone haccounted
  unfold Reconciler.createVM
  split
  · rename_i err _
    have hwritten := hfailed err.text h.toWorking (Subset.refl _) hclass
    exact ⟨⟨⟨v, h.read, hwritten.kept.1, hwritten.kept.2,
      hempty (Subset.refl _) h.start.accounted⟩, h.clean, v, h.read, hwritten⟩,
      fun _ => trivial⟩
  refine (h.reads (buildCreateRequest_reads _ deps) (buildCreateRequest_returns _ deps)).bind ?_
  rintro (err | req) log₁ hlog₁ ⟨hreq, h, hclass₁⟩
  · exact requeue_conforms _ h.read h.clean
      (hfailed _ h.toWorking hlog₁.subset (hclass₁.trans hclass))
      (hempty hlog₁.subset h.start.accounted)
  have hname : req.name = v.objectMeta.name := hreq.2.trans (congrArg _ hresumed.objectMeta_eq)
  rw [show providerKey (Reconciler.forgetID vm) = providerKey v from hresumed.providerKey_eq]
  refine ((providerCreate_obeys r.cfg deps.provider.type h.start (hwants.mono hlog₁.subset)
    hname).and (providerCreate_outlined r.cfg deps.provider.type req h.toWorking rfl)).bind ?_
  rintro (err | resp) log₂ hlog₂ ⟨hcreated, hended, hclass₂⟩
  · have hlog := (hlog₁.trans hlog₂).subset
    exact requeue_conforms _ hended.read hended.clean
      (hfailed _ hended hlog (hclass₂.trans (hclass₁.trans hclass))) (hempty hlog hcreated)
  · obtain ⟨hread, hclean, older, hentry, hunsized⟩ := hended
    have hlog := (hlog₁.trans hlog₂).subset
    refine requeue_conforms _ hread hclean
      (.ended (hclass₂.trans (hclass₁.trans hclass)) (hresumed.mono hlog)
        (.created req resp older (hmissing.mono hlog) hentry hunsized (size_eq hreq.1))) ?_
    unfold created
    split <;> exact .answered hcreated

theorem adjustPowerState_conforms (desc : DescribeResponse)
    (h : Running key log v) (hclass : classRead log = some vmClass)
    (hresumed : Resumed v vmClass log vm) :
    (adjustPowerState (described vm desc) (desiredPowerState (described vm desc))).Heeds
      (Conforms key) log := by
  have hop : desiredPowerState (described vm desc) = desiredPowerState v := by
    unfold desiredPowerState described
    rw [hresumed.spec_eq]
  have hprovider : providerKey (described vm desc) = providerKey v := hresumed.providerKey_eq
  have hid : (described vm desc).status.id = v.status.id := hresumed.id_eq
  unfold adjustPowerState
  rw [hprovider, hid, hop]
  refine obeys_perform ⟨trivial, h.clean, v, h.read, rfl, rfl, rfl⟩ fun answer => ?_
  let entry : LogEntry :=
    ⟨.power (providerKey v) v.status.id (powerOp (desiredPowerState v)), answer⟩
  have hrunning : Running key (entry :: log) v := h.cons rfl rfl rfl
  have hwritten : Written v (entry :: log) (powerAdjusted (described vm desc) answer) :=
    .ended (show classRead (entry :: log) = some vmClass from hclass)
      (hresumed.mono (subset_cons_self _ _))
      (.powered desc _ answer (.head _) hrunning.unsized)
  cases answer with
  | error err => exact hrunning.requeue hwritten hid
  | ok taskRef =>
    dsimp only [powerAdjusted] at hwritten ⊢
    split
    · rename_i htask
      rw [if_pos htask] at hwritten
      exact hrunning.requeue hwritten hid
    · rename_i htask
      rw [if_neg htask] at hwritten
      exact hrunning.requeue hwritten hid

section

variable (deps : Dependencies) (desc : DescribeResponse) (h : Running key log v)
  (hclass : classRead log = some deps.vmClass) (hresumed : Resumed v deps.vmClass log vm)
include deps desc h hclass hresumed

theorem reconfigureVM_conforms :
    (reconfigureVM (described vm desc) deps).Heeds (Conforms key) log := by
  have hprovider : providerKey (described vm desc) = providerKey v := hresumed.providerKey_eq
  have hid : (described vm desc).status.id = v.status.id := hresumed.id_eq
  refine (h.reads (buildCreateRequest_reads _ deps) (buildCreateRequest_returns _ deps)).bind ?_
  rintro (err | req) log₁ hlog₁ ⟨hreq, hrunning, hclass₁⟩
  · trivial
  rw [hprovider, hid]
  refine obeys_perform ⟨trivial, hrunning.clean, v, hrunning.read, rfl, rfl⟩ fun answer => ?_
  let entry : LogEntry := ⟨.reconfigure (providerKey v) v.status.id req, answer⟩
  have hclass₂ : classRead (entry :: log₁) = some deps.vmClass := hclass₁.trans hclass
  have hresumed₂ := hresumed.mono
    (Subset.trans hlog₁.subset (subset_cons_self entry log₁))
  cases answer with
  | error err =>
    have hrunning₂ : Running key (entry :: log₁) v := hrunning.cons rfl rfl rfl
    exact hrunning₂.requeue (.ended hclass₂ hresumed₂
      (.notReconfigured desc req err _ (.head _) hrunning₂.unsized)) hid
  | ok taskRef =>
    have hclean : ∀ e ∈ entry :: log₁, writes e = false :=
      forall_mem_cons.mpr ⟨rfl, hrunning.clean⟩
    refine obeys_perform ⟨trivial, hclean, trivial⟩ fun now => ?_
    refine requeue_conforms _ hrunning.read.cons.cons (forall_mem_cons.mpr ⟨rfl, hclean⟩)
      (.ended hclass₂ (hresumed₂.mono (subset_cons_self _ _))
        (.reconfigured desc req now taskRef log₁ rfl hrunning.unsized (size_eq hreq.1))) ?_
    have hkept : IdSource v (⟨.now, now⟩ :: entry :: log₁) (described vm desc).status.id :=
      hid ▸ .kept (.inl hrunning.untouched)
    unfold reconfigured
    split <;> exact hkept

theorem reconcileExisting_conforms (hid : v.status.id ≠ "") :
    (reconcileExisting vm deps desc).Heeds (Conforms key) log := by
  unfold reconcileExisting
  dsimp only
  split
  · exact adjustPowerState_conforms desc h hclass hresumed
  split
  · exact reconfigureVM_conforms deps desc h hclass hresumed
  · rename_i _ hneeds
    refine h.requeue (.ended hclass hresumed (.ready desc hid ?_ h.unsized)) hresumed.id_eq
    rwa [Bool.not_eq_true] at hneeds

end

theorem ensureVM_conforms (deps : Dependencies) (h : Running key log v)
    (hlive : v.objectMeta.deletionTimestamp.isSome = false)
    (hclass : classRead log = some deps.vmClass) (hresumed : Resumed v deps.vmClass log vm) :
    (r.ensureVM vm deps).Heeds (Conforms key) log := by
  unfold Reconciler.ensureVM
  by_cases hid : vm.status.id = ""
  · have hread : v.status.id = "" := hresumed.id_eq.symm.trans hid
    rw [if_pos hid]
    split
    · exact h.requeue (.ended hclass hresumed (.waiting _ hread h.unsized)) hresumed.id_eq
    · rename_i hadopted
      have hown : vmIsAdopted v = false := by
        rw [← Bool.not_eq_true]
        unfold vmIsAdopted at hadopted ⊢
        rwa [hresumed.objectMeta_eq] at hadopted
      rw [← forgetID_eq hid]
      exact createVM_conforms r deps h hclass hresumed (.inl hread)
        ⟨hlive, .inl ⟨hread, hown⟩⟩
  · rw [if_neg hid, hresumed.providerKey_eq, hresumed.id_eq]
    rw [hresumed.id_eq] at hid
    refine ((providerDescribe_obeys r.cfg deps.provider.type h.start).and
      (providerDescribe_outlined r.cfg deps.provider.type v.status.id h.toWorking)).bind ?_
    rintro (err | desc) log₁ hlog₁ ⟨⟨hstart, hgone⟩, hreported, hworking, hclass₁⟩ <;>
      have hrunning : Running key log₁ v := { hworking with untouched := hstart.untouched }
    · exact hrunning.requeue (.ended (hclass₁.trans hclass) (hresumed.mono hlog₁.subset)
        (.notDescribed _ hrunning.unsized)) hresumed.id_eq
    · dsimp only
      split
      · rename_i habsent
        have hmissing : ReportedMissing (providerKey v) v.status.id log₁ :=
          ⟨desc, by simpa using habsent, hreported.2⟩
        exact createVM_conforms r deps hrunning (hclass₁.trans hclass)
          (hresumed.mono hlog₁.subset) (.inr hmissing)
          ⟨hlive, .inr ⟨hid, hgone desc rfl (by simpa using habsent)⟩⟩
      · exact reconcileExisting_conforms deps desc hrunning (hclass₁.trans hclass)
          (hresumed.mono hlog₁.subset) hid

/-- A stage of a reconcile has ended it, or goes on with such an object. -/
def Continues (key : ObjectKey) (v : VirtualMachine) (vmClass : VMClass)
    (P : VirtualMachine → List LogEntry → Prop) :
    Except Return VirtualMachine → List LogEntry → Prop
  | .ok vm, log => Running key log v ∧ classRead log = some vmClass ∧ P vm log
  | .error _, _ => True

section

variable (h : Running key log v) (hclass : classRead log = some vmClass)
include h hclass

theorem checkTask_conforms {taskRef failure progress : String} {done : VirtualMachine}
    {P : VirtualMachine → List LogEntry → Prop}
    {setCondition : VirtualMachine → ConditionStatus → String → String → VirtualMachine}
    (hnone : taskRef = "" → P vm log)
    (hdone : taskRef ≠ "" → P done (⟨.isTaskComplete (providerKey vm) taskRef, .ok true⟩ :: log))
    (hwaits : taskRef ≠ "" → ∀ log' status reason message, lastSize log' = none →
      Written v log' (setCondition vm status reason message) ∧
        (setCondition vm status reason message).status.id = v.status.id) :
    (checkTask vm taskRef setCondition failure progress done).Obeys (Conforms key)
      (Continues key v vmClass P) log := by
  unfold checkTask
  by_cases htask : taskRef = ""
  · rw [if_pos htask]
    exact ⟨h, hclass, hnone htask⟩
  · rw [if_neg htask]
    refine obeys_perform ⟨trivial, h.clean, trivial⟩ fun answer => ?_
    let entry : LogEntry := ⟨.isTaskComplete (providerKey vm) taskRef, answer⟩
    have hrunning : Running key (entry :: log) v := h.cons rfl rfl rfl
    have hwritten := fun status reason message =>
      hwaits htask (entry :: log) status reason message hrunning.unsized
    rcases answer with err | _ | _
    case ok.true => exact ⟨hrunning, hclass, hdone htask⟩
    all_goals
      exact (hrunning.requeue (hwritten _ _ _).1 (hwritten _ _ _).2).bind fun _ _ _ _ => trivial

theorem checkLastTask_conforms :
    (checkLastTask (observed v)).Obeys (Conforms key)
      (Continues key v vmClass fun vm _ => vm = idle (observed v)) log := by
  refine checkTask_conforms h hclass ?_ ?_ ?_
  · intro htask
    exact (idle_eq htask).symm
  · intro _
    rfl
  · intro htask log' status reason message hsize
    exact ⟨.task status reason message htask hsize, rfl⟩

theorem checkReconfigureTask_conforms :
    (checkReconfigureTask (idle (observed v)) vmClass).Obeys (Conforms key)
      (Continues key v vmClass fun vm log => Resumed v vmClass log vm) log := by
  refine checkTask_conforms h hclass ?_ ?_ ?_
  · intro htask
    exact .inl ⟨htask, rfl⟩
  · intro htask
    exact .inr ⟨htask, .head _, rfl⟩
  · intro htask log' status reason message hsize
    exact ⟨.reconfigureTask status reason message htask hsize, rfl⟩

end

theorem reconcileTasks_conforms (deps : Dependencies) (h : Running key log v)
    (hlive : v.objectMeta.deletionTimestamp.isSome = false)
    (hclass : classRead log = some deps.vmClass) :
    (r.reconcileTasks (observed v) deps).Heeds (Conforms key) log := by
  refine (checkLastTask_conforms h hclass).bind ?_
  rintro (result | vm₁) log₁ - hnext
  · trivial
  obtain ⟨hrunning₁, hclass₁, rfl⟩ := hnext
  refine (checkReconfigureTask_conforms hrunning₁ hclass₁).bind ?_
  rintro (result | vm₂) log₂ - hnext
  · trivial
  · obtain ⟨hrunning₂, hclass₂, hresumed⟩ := hnext
    exact ensureVM_conforms r deps hrunning₂ hlive hclass₂ hresumed

/-- The dependencies are there and their class was read, or the reconcile has to wait. -/
def Resolves (key : ObjectKey) (v : VirtualMachine) :
    Except GoError Dependencies → List LogEntry → Prop
  | .ok deps, log => Running key log v ∧ classRead log = some deps.vmClass
  | .error _, log => Running key log v

theorem getDependencies_conforms (h : Running key log v) :
    (getDependencies vm).Obeys (Conforms key) (Resolves key v) log := by
  refine obeys_perform ⟨trivial, h.clean, trivial⟩ ?_
  rintro (err | provider)
  · dsimp only
    split <;> exact h.cons rfl rfl rfl
  refine obeys_perform ⟨trivial, (h.cons rfl rfl rfl).clean, trivial⟩ ?_
  rintro (err | vmClass)
  · exact (h.cons rfl rfl rfl).cons rfl rfl rfl
  refine (((h.cons rfl rfl rfl).cons rfl rfl rfl).reads (getVMImage_reads vm)
    (returns_true _)).bind ?_
  rintro (err | vmImage) log₁ - ⟨-, hrunning₁, hclass₁⟩
  · exact hrunning₁
  refine (hrunning₁.reads (getNetworks_reads _ _) (returns_true _)).bind ?_
  rintro (err | networks) log₂ - ⟨-, hrunning₂, hclass₂⟩
  · exact hrunning₂
  · exact ⟨hrunning₂, hclass₂.trans hclass₁⟩

/-- The image is there, or the reconcile has ended. -/
def Prepared (key : ObjectKey) (v : VirtualMachine) (vmClass : VMClass) :
    Except Return (Option VMImage) → List LogEntry → Prop
  | .ok _, log => Running key log v ∧ classRead log = some vmClass
  | .error _, _ => True

theorem ensureImage_conforms (deps : Dependencies) (h : Running key log v)
    (hclass : classRead log = some deps.vmClass) :
    (ensureImage (observed v) deps).Obeys (Conforms key) (Prepared key v deps.vmClass) log := by
  refine obeys_perform ⟨trivial, h.clean, trivial⟩ fun ensured => ?_
  let entry : LogEntry :=
    ⟨.ensureImage (observed v) deps.vmImage (providerKey (observed v)), ensured⟩
  have hrunning : Running key (entry :: log) v := h.cons rfl rfl rfl
  cases ensured with
  | ready image => exact ⟨hrunning, hclass⟩
  | preparing =>
    exact (hrunning.requeue (.preparing _ _ hclass (.head _) hrunning.unsized) rfl).bind
      fun _ _ _ _ => trivial
  | held | failed err =>
    exact (hrunning.requeue (.unready _ _ hrunning.unsized) rfl).bind fun _ _ _ _ => trivial

theorem reconcileVM_conforms (h : Running key log v)
    (hlive : v.objectMeta.deletionTimestamp.isSome = false) :
    (r.reconcileVM v).Heeds (Conforms key) log := by
  refine (getDependencies_conforms h).bind ?_
  rintro (err | deps) log₁ - hresolves
  · unfold waitForDependencies
    dsimp only
    split <;> exact Running.requeue hresolves (.unready _ _ hresolves.unsized) rfl
  obtain ⟨hrunning, hclass⟩ := hresolves
  refine obeys_perform ⟨trivial, hrunning.clean, trivial⟩ fun unreachable => ?_
  have hrunning₁ : Running key
      (⟨.getProviderInstance (providerKey (observed v)), unreachable⟩ :: log₁) v :=
    hrunning.cons rfl rfl rfl
  cases unreachable with
  | some err => exact hrunning₁.requeue (.unready _ _ hrunning₁.unsized) rfl
  | none =>
  refine (ensureImage_conforms deps hrunning₁ hclass).bind ?_
  rintro (result | vmImage) log₂ - hprepared
  · trivial
  · exact reconcileTasks_conforms r { deps with vmImage } hprepared.1 hlive hprepared.2

/-- Only a deletion that has reached its end goes on to the finalizer. -/
def MayRelease (key : ObjectKey) (v : VirtualMachine) : Option Return → List LogEntry → Prop
  | none, log => Working key log v ∧ Released v log
  | some _, _ => True

theorem code_of_mapGRPCError {operation : String} {err : GrpcError}
    (h : (mapGRPCError operation err).reason = .notFound) : err.code = .notFound := by
  unfold mapGRPCError at h
  split at h
  · assumption
  all_goals cases h

section

variable (h : Running key log v) (hdeleted : v.objectMeta.deletionTimestamp.isSome = true)
include h hdeleted

theorem deleteFromProvider_conforms :
    (Reconciler.deleteFromProvider v).Obeys (Conforms key) (MayRelease key v) log := by
  unfold Reconciler.deleteFromProvider
  by_cases hid : v.status.id = "" ∨ v.spec.providerRef.name = ""
  · rw [if_pos hid]
    exact ⟨h.toWorking, hid.elim .noID .noProviderRef⟩
  rw [if_neg hid]
  refine obeys_perform ⟨trivial, h.clean, trivial⟩ ?_
  rintro (err | provider)
  · dsimp only
    split
    · rename_i hreason
      exact ⟨h.toWorking.cons rfl rfl, .providerGone err hreason (.head _)⟩
    · trivial
  refine obeys_perform ⟨trivial, (h.cons rfl rfl rfl).clean, trivial⟩ ?_
  rintro (_ | err)
  swap
  · exact ⟨(h.toWorking.cons rfl rfl).cons rfl rfl, .unreachable err (.head _)⟩
  have hmay : MayTakeDown v v.status.id := ⟨rfl, fun hnone => hid (.inl hnone), hdeleted⟩
  refine ((providerDelete_obeys provider.type
    ((h.cons rfl rfl rfl).cons rfl rfl rfl).start hmay).and
    (providerDelete_outlined provider.type v.status.id
      ((h.toWorking.cons rfl rfl).cons rfl rfl))).bind ?_
  rintro (err | task) log₁ - ⟨-, hreported, hrunning, -⟩
  · dsimp only
    split
    · rename_i hends
      refine ⟨hrunning, hends.elim (fun hreason => .notFound ?_) .forced⟩
      obtain ⟨status, rfl, hstatus⟩ := hreported
      exact ⟨status, code_of_mapGRPCError hreason, hstatus⟩
    · trivial
  · obtain ⟨htask, hmem⟩ := hreported
    obtain rfl : task = "" := htask
    exact ⟨hrunning, .deleted hmem⟩

theorem handleDeletion_conforms :
    (Reconciler.handleDeletion v).Heeds (Conforms key) log := by
  unfold Reconciler.handleDeletion
  split
  · trivial
  refine (deleteFromProvider_conforms h hdeleted).bind ?_
  rintro (_ | result) log₁ - hnext
  · exact obeys_perform ⟨⟨v, hnext.1.read, rfl, _, rfl⟩, hnext.1.clean, v, hnext.1.read,
      .inr ⟨hdeleted, rfl, hnext.2⟩, hnext.1.unsized⟩ fun _ => trivial
  · trivial

end

/-- Whatever is answered, a reconcile makes only such calls. -/
theorem reconcile_conforms (key : ObjectKey) :
    (r.reconcile key).Heeds (Conforms key) [] := by
  refine obeys_perform ⟨⟨rfl, rfl⟩, fun _ hmem => (not_mem_nil hmem).elim, rfl, rfl⟩ ?_
  rintro (err | v)
  · trivial
  have h : Running key [⟨.getVM key, .ok v⟩] v :=
    ⟨⟨rfl, forall_mem_singleton.mpr rfl, rfl⟩, rfl⟩
  dsimp only
  split
  · exact handleDeletion_conforms h ‹_›
  rename_i hlive
  rw [Bool.not_eq_true] at hlive
  split
  · refine obeys_perform ⟨⟨v, h.read, rfl, _, rfl⟩, h.clean, v, h.read, .inl ⟨hlive, rfl⟩,
      h.unsized⟩ ?_
    rintro (_ | err) <;> trivial
  · exact reconcileVM_conforms r h hlive

theorem reconcile_obeys (key : ObjectKey) :
    (r.reconcile key).Heeds (Allowed key) [] :=
  (reconcile_conforms r key).weaken fun _ _ h => h.1

theorem reconcile_outlined (key : ObjectKey) :
    (r.reconcile key).Heeds (Outlined key) [] :=
  (reconcile_conforms r key).weaken fun _ _ h => h.2

end Handlers

end Virtrigaud.VM
