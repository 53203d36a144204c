import Mathlib.Data.List.Basic
import Mathlib.Data.Set.Operations
import Virtrigaud.Api.Objects

/-!
# Preparing an image on a provider

`EnsureImageOnProvider`, the only writer of what a VMImage says about its preparation. The status
has one entry for each provider's name, but one Ready and one PrepareTaskRef for all of them.
-/

namespace Virtrigaud.VM.Preparation

inductive ImageMissingAction
  | unset
  | fetch
  | fail
  | wait
  deriving DecidableEq, Repr

/-- The spec of a VMImage; `fetched` is the source that is pulled over HTTP, from a registry or from
a DataVolume, and `contentLibrary` belongs to the vSphere source. -/
structure ImageSpec where
  vsphere : Option VSphereImageSource := none
  contentLibrary : Option String := none
  libvirt : Option LibvirtImageSource := none
  proxmox : Option ProxmoxImageSource := none
  fetched : String := ""
  onMissing : ImageMissingAction := .unset
  deriving DecidableEq, Repr

inductive ImagePhase
  | unset
  | pending
  | importing
  | ready
  | failed
  deriving DecidableEq, Repr

structure ProviderStatus extends ProviderImageStatus where
  lastUpdated : Option Time := none
  message : String := ""
  deriving DecidableEq, Repr

/-- The status of a VMImage. A provider without an entry reads as the zero value. -/
structure ImageStatus where
  ready : Bool := false
  phase : ImagePhase := .unset
  message : String := ""
  availableOn : List String := []
  conditions : List Condition := []
  lastPrepareTime : Option Time := none
  prepareTaskRef : String := ""
  providerStatus : String → ProviderStatus := fun _ => {}

structure Image where
  name : String := ""
  spec : ImageSpec
  status : ImageStatus := {}

/-- The source alone: what is to be done when the image is missing is no part of it. -/
def ImageSpec.source (spec : ImageSpec) : ImageSpec := { spec with onMissing := .unset }

variable (status : ImageStatus)

def ImageStatus.available (provider : String) : Bool :=
  (status.providerStatus provider).available

structure ImagePrepareResponse where
  (taskRef preparedImageID preparedImagePath : String := "")
  deriving DecidableEq, Repr

def held (phase : ImagePhase) (reason message : String) (status : ImageStatus) : ImageStatus :=
  { status with
    ready := false
    phase
    message
    conditions := setCondition status.conditions "Ready" .conditionFalse reason message }

def missingOnProvider (provider : String) : ImageStatus → ImageStatus :=
  held .failed "MissingOnProvider"
    ("image not available on provider \"" ++ provider ++ "\" and Prepare.OnMissing=Fail")

def waitingForImage (provider : String) : ImageStatus → ImageStatus :=
  held .pending "WaitingForImage"
    ("image not available on provider \"" ++ provider ++ "\"; waiting (Prepare.OnMissing=Wait)")

def markImagePreparing : ImageStatus :=
  { status with
    phase := .importing
    ready := false
    conditions := setCondition status.conditions "Importing" .conditionTrue "Importing"
      "image import in progress" }

/-- An asynchronous preparation has begun; its location is known already. -/
def prepareStarted (provider : String) (resp : ImagePrepareResponse) (now : Time)
    (status : ImageStatus) : ImageStatus :=
  let message := "importing image into provider \"" ++ provider ++ "\""
  { status with
    prepareTaskRef := resp.taskRef
    phase := .importing
    ready := false
    message
    lastPrepareTime := some now
    providerStatus :=
      if resp.preparedImageID ≠ "" ∨ resp.preparedImagePath ≠ "" then
        Function.update status.providerStatus provider
          { available := false, id := resp.preparedImageID, path := resp.preparedImagePath,
            lastUpdated := some now, message := "image import in progress" }
      else status.providerStatus
    conditions := setCondition status.conditions "Importing" .conditionTrue "Importing" message }

def appendDedup (list : List String) (s : String) : List String :=
  if s ∈ list then list else list ++ [s]

def markImagePrepared (provider id path : String) (now : Time) (status : ImageStatus) :
    ImageStatus :=
  let entry := status.providerStatus provider
  { status with
    providerStatus := Function.update status.providerStatus provider
      { available := true
        id := if id ≠ "" then id else entry.id
        path := if path ≠ "" then path else entry.path
        lastUpdated := some now
        message := "image prepared" }
    availableOn := appendDedup status.availableOn provider
    prepareTaskRef := ""
    ready := true
    phase := .ready
    message := ""
    lastPrepareTime := some now
    conditions := setCondition (setCondition status.conditions "Ready" .conditionTrue "Prepared"
      ("image prepared on provider \"" ++ provider ++ "\"")) "Importing" .conditionFalse "Prepared"
      "image import complete" }

/-- What a call is made with, and how the RPCs it may make are answered. -/
structure Ensure where
  hasImageRef : Bool := true
  image : Image
  provider : ObjectKey
  (isPreparer supportsImageImport : Bool := true)
  isTaskComplete : Except GoError Bool := .ok false
  prepareImage : Except GoError ImagePrepareResponse := .ok {}
  now : Time := 0

inductive Rpc
  | isTaskComplete (taskRef : String)
  | prepareImage (spec : ImageSpec)
  deriving DecidableEq, Repr

inductive Outcome
  | proceed
  | requeue
  | hold
  | error (err : GoError)

/-- The RPC of a call, what it does to the status, and how it ends once that is written. -/
structure Ensured where
  rpc : Option Rpc := none
  mutate : Option (ImageStatus → ImageStatus) := none
  outcome : Outcome

/-- An image that is on the provider already is only referred to. -/
def imageSourceNeedsPrepare (spec : ImageSpec) : Bool :=
  match spec.libvirt, spec.vsphere, spec.proxmox with
  | some libvirt, _, _ => libvirt.url ≠ "" || libvirt.path = ""
  | none, some vsphere, _ =>
    vsphere.ovaURL ≠ "" || (vsphere.templateName = "" && spec.contentLibrary.isNone)
  | none, none, some proxmox => proxmox.templateID.isNone && proxmox.templateName = ""
  | none, none, none => true

def pollPrepare (call : Ensure) : Ensured :=
  let rpc := some (.isTaskComplete call.image.status.prepareTaskRef)
  match call.isTaskComplete with
  | .error err => { rpc, outcome := .error (err.wrap
      ("check image prepare task " ++ call.image.status.prepareTaskRef)) }
  | .ok false => { rpc, mutate := some markImagePreparing, outcome := .requeue }
  | .ok true =>
    { rpc
      mutate := some (markImagePrepared call.provider.name "" "" call.now)
      outcome := .proceed }

def triggerPrepare (call : Ensure) : Ensured :=
  let rpc := some (.prepareImage call.image.spec)
  match call.prepareImage with
  | .error err => { rpc, outcome := .error (err.wrap
      ("prepare image " ++ call.image.name ++ " on provider " ++ call.provider.name)) }
  | .ok resp =>
    if resp.taskRef ≠ "" then
      { rpc, mutate := some (prepareStarted call.provider.name resp call.now), outcome := .requeue }
    else
      { rpc
        mutate := some (markImagePrepared call.provider.name resp.preparedImageID
          resp.preparedImagePath call.now)
        outcome := .proceed }

def ensureImageOnProvider (call : Ensure) : Ensured :=
  if ¬ call.hasImageRef ∨ ¬ call.isPreparer ∨ ¬ call.supportsImageImport ∨
      call.image.status.available call.provider.name ∨
      ¬ imageSourceNeedsPrepare call.image.spec then { outcome := .proceed }
  else match call.image.spec.onMissing with
    | .fail => { mutate := some (missingOnProvider call.provider.name), outcome := .hold }
    | .wait => { mutate := some (waitingForImage call.provider.name), outcome := .hold }
    | .unset | .fetch =>
      if call.image.status.prepareTaskRef ≠ "" then pollPrepare call else triggerPrepare call

/-- The VirtualMachine has to wait for the image. -/
def Outcome.waits : Outcome → Bool
  | .requeue | .hold => true
  | _ => false

/-- What a call may do: it reports the image as prepared when the task it polled is done or when
PrepareImage left none, it begins a preparation, or all it may write is that the image is not
ready. -/
inductive Does (call : Ensure) : Ensured → Prop
  | nothing {rpc outcome} : Does call ⟨rpc, none, outcome⟩
  | unready {rpc mutate outcome} (hwaits : outcome.waits = true)
      (hkept : ∀ status, ∃ phase message conditions,
        mutate status = { status with ready := false, phase, message, conditions }) :
      Does call ⟨rpc, some mutate, outcome⟩
  | polled (href : call.image.status.prepareTaskRef ≠ "") (hdone : call.isTaskComplete = .ok true) :
      Does call ⟨some (.isTaskComplete call.image.status.prepareTaskRef),
        some (markImagePrepared call.provider.name "" "" call.now), .proceed⟩
  | started {resp} (hresp : call.prepareImage = .ok resp) :
      Does call ⟨some (.prepareImage call.image.spec),
        some (prepareStarted call.provider.name resp call.now), .requeue⟩
  | prepared {resp} (hresp : call.prepareImage = .ok resp) (href : resp.taskRef = "") :
      Does call ⟨some (.prepareImage call.image.spec),
        some (markImagePrepared call.provider.name resp.preparedImageID resp.preparedImagePath
          call.now), .proceed⟩

theorem pollPrepare_does {call : Ensure} (href : call.image.status.prepareTaskRef ≠ "") :
    Does call (pollPrepare call) := by
  unfold pollPrepare
  split
  · exact .nothing
  · exact .unready rfl fun _ => ⟨_, _, _, rfl⟩
  · exact .polled href ‹_›

theorem triggerPrepare_does (call : Ensure) : Does call (triggerPrepare call) := by
  unfold triggerPrepare
  split
  · exact .nothing
  · split
    · exact .started ‹_›
    · exact .prepared ‹_› (not_not.mp ‹_›)

theorem ensureImageOnProvider_does (call : Ensure) :
    Does call (ensureImageOnProvider call) := by
  unfold ensureImageOnProvider
  split
  · exact .nothing
  split
  · exact .unready rfl fun _ => ⟨_, _, _, rfl⟩
  · exact .unready rfl fun _ => ⟨_, _, _, rfl⟩
  all_goals
    split
    · exact pollPrepare_does ‹_›
    · exact triggerPrepare_does call

/-- The versions of an image, newest first, and the calls that were made for it. A call may have
read any of the versions, and it changes the newest one under `may`; its write may also be lost.
Others edit the spec. -/
inductive Run (may : Image → Ensure → Prop) : List Image → List Ensure → Prop
  | init (image : Image) (h : image.status = {}) : Run may [image] []
  | edit {current versions trace} (spec : ImageSpec) : Run may (current :: versions) trace →
      Run may ({ current with spec } :: current :: versions) trace
  | lost {versions trace} (call : Ensure) : Run may versions trace → call.image ∈ versions →
      Run may versions (call :: trace)
  | written {current versions trace} (call : Ensure) {mutate} :
      Run may (current :: versions) trace → call.image ∈ current :: versions → may current call →
      (ensureImageOnProvider call).mutate = some mutate →
      Run may ({ current with status := mutate current.status } :: current :: versions)
        (call :: trace)

/-- The three fields that say where the image is available agree. -/
structure Consistent : Prop where
  ready_iff : status.ready = true ↔ ∃ provider, status.available provider = true
  mem_availableOn (provider : String) :
    provider ∈ status.availableOn ↔ status.available provider = true
  nodup : status.availableOn.Nodup

@[simp] theorem available_markImagePrepared (status : ImageStatus) (provider id path other : String)
    (now : Time) : (markImagePrepared provider id path now status).available other =
      (decide (other = provider) || status.available other) := by
  by_cases h : other = provider <;> simp [markImagePrepared, ImageStatus.available, h]

theorem consistent_markImagePrepared {status : ImageStatus} (h : Consistent status)
    (provider id path : String) (now : Time) :
    Consistent (markImagePrepared provider id path now status) where
  ready_iff := iff_of_true rfl ⟨provider, by simp⟩
  mem_availableOn other := by
    have hother := h.mem_availableOn other
    rw [available_markImagePrepared]
    change other ∈ appendDedup status.availableOn provider ↔ _
    unfold appendDedup
    split <;> grind
  nodup := by
    have hnodup := h.nodup
    simp only [markImagePrepared, appendDedup]
    split <;> grind

/-- A status that is available nowhere stays consistent when the image is not ready. -/
theorem consistent_of_nowhere {status status' : ImageStatus} (h : Consistent status)
    (hnowhere : ∀ provider, status.available provider = false)
    (hready : status'.ready = false) (hlist : status'.availableOn = status.availableOn)
    (havailable : ∀ provider, status'.available provider = true →
      status.available provider = true) :
    Consistent status' := by
  have hnone : ∀ provider, status'.available provider = false := by
    intro provider
    rw [← Bool.not_eq_true]
    intro hsome
    simpa [hnowhere] using havailable provider hsome
  refine ⟨?_, ?_, hlist ▸ h.nodup⟩
  · simp [hready, hnone]
  · intro provider
    rw [hlist, h.mem_availableOn, hnowhere, hnone]

/-- The VirtualMachines that are to wait do so while the image is available nowhere. -/
def WaitsForFirst (current : Image) (call : Ensure) : Prop :=
  (ensureImageOnProvider call).outcome.waits = true →
    ∀ provider, current.status.available provider = false

theorem available_prepareStarted {status : ImageStatus} {name provider : String}
    {resp : ImagePrepareResponse} {now : Time}
    (h : (prepareStarted name resp now status).available provider = true) :
    status.available provider = true := by
  unfold prepareStarted ImageStatus.available at h
  dsimp only at h
  split at h
  · by_cases hsame : provider = name
    · simp [hsame] at h
    · rwa [Function.update_of_ne hsame] at h
  · exact h

/-- If VirtualMachines have to wait only while the image is available nowhere, then every version
of its status is consistent. -/
theorem status_consistent {versions : List Image} {trace : List Ensure}
    (hrun : Run WaitsForFirst versions trace) : ∀ image ∈ versions, Consistent image.status := by
  induction hrun with
  | init image h =>
    refine List.forall_mem_singleton.mpr (h ▸ ⟨?_, ?_, List.nodup_nil⟩) <;>
      simp [ImageStatus.available]
  | @edit current _ _ _ _ ih =>
    exact List.forall_mem_cons.mpr ⟨ih current (.head _), ih⟩
  | lost call _ _ ih => exact ih
  | @written current versions trace call mutate _ _ hmay hmutate ih =>
    refine List.forall_mem_cons.mpr ⟨?_, ih⟩
    have hcurrent := ih current (.head _)
    have hdoes := ensureImageOnProvider_does call
    unfold WaitsForFirst at hmay
    generalize ensureImageOnProvider call = ensured at hdoes hmay hmutate
    cases hdoes with
    | nothing => cases hmutate
    | unready hwaits hkept =>
      cases hmutate
      obtain ⟨_, _, _, hstatus⟩ := hkept current.status
      rw [hstatus]
      exact consistent_of_nowhere hcurrent (hmay hwaits) rfl rfl fun _ => id
    | started =>
      cases hmutate
      exact consistent_of_nowhere hcurrent (hmay rfl) rfl rfl fun _ => available_prepareStarted
    | polled | prepared => cases hmutate; exact consistent_markImagePrepared hcurrent _ _ _ _

namespace Sample

/-- An image behind this URL, for a libvirt provider. -/
def image (url : String) (onMissing : ImageMissingAction) : Image where
  spec := { libvirt := some { url }, onMissing }

/-- A VirtualMachine on the Provider blue/kvm has to wait for the image. -/
def waits : Ensure where
  image := image "http://images/1" .wait
  provider := ⟨"blue", "kvm"⟩

def waiting : Image :=
  { waits.image with status := waitingForImage "kvm" {} }

/-- The image is prepared there, in the course of the call. -/
def prepares : Ensure where
  image := { waiting with spec := (image "http://images/1" .unset).spec }
  provider := ⟨"blue", "kvm"⟩
  prepareImage := .ok { preparedImagePath := "/images/1" }

def prepared : Image :=
  { prepares.image with status := markImagePrepared "kvm" "" "/images/1" 0 prepares.image.status }

theorem run_prepared {P : Image → Ensure → Prop} (hwaits : P waits.image waits)
    (hprepares : P prepares.image prepares) :
    Run P [prepared, prepares.image, waiting, waits.image] [prepares, waits] :=
  .written prepares (.edit _ (.written waits (.init _ rfl) (.head _) hwaits rfl)) (.head _)
    hprepares rfl

/-- Then esx has to wait for it. -/
def waitsToo : Ensure where
  image := { prepared with spec := (image "http://images/1" .wait).spec }
  provider := ⟨"blue", "esx"⟩

/-- Or esx begins to prepare it, and asks until that is done. -/
def starts : Ensure where
  image := prepared
  provider := ⟨"blue", "esx"⟩
  prepareImage := .ok { taskRef := "task-1" }

def started : Image :=
  { prepared with status := prepareStarted "esx" { taskRef := "task-1" } 0 prepared.status }

def polls : Ensure where
  image := started
  provider := ⟨"blue", "esx"⟩
  isTaskComplete := .ok true

def imported : Image :=
  { started with status := markImagePrepared "esx" "" "" 0 started.status }

theorem run_imported : Run (fun _ _ => True)
    [imported, started, prepared, prepares.image, waiting, waits.image]
    [polls, starts, prepares, waits] :=
  .written polls (.written starts (run_prepared trivial trivial) (.head _) trivial rfl)
    (.head _) trivial rfl

end Sample

open Preparation.Sample List

/-- The image is ready on the one provider it is prepared on. -/
theorem status_consistent_sample : Consistent prepared.status :=
  status_consistent (run_prepared (fun _ _ => rfl) nofun) _ (.head _)

/-- An image that is available on kvm is not Ready once esx has to wait for it. -/
theorem unready_while_available : ∃ versions trace, Run (fun _ _ => True) versions trace ∧
    ∃ image ∈ versions, image.status.ready = false ∧ image.status.available "kvm" = true :=
  ⟨_, _, .written waitsToo (.edit _ (run_prepared trivial trivial)) (.head _) trivial rfl,
    _, .head _, rfl, rfl⟩

/-- The provider has answered PrepareImage of this source with this task. -/
def Ensure.Issues (call : Ensure) (source : ImageSpec) (taskRef : String) : Prop :=
  ∃ spec resp, (ensureImageOnProvider call).rpc = some (.prepareImage spec) ∧
    spec.source = source ∧ call.prepareImage = .ok resp ∧ resp.taskRef = taskRef

variable (provider : ObjectKey) (source : ImageSpec) (trace : List Ensure)

def Issued (taskRef : String) (trace : List Ensure) : Prop :=
  ∃ call ∈ trace, call.provider = provider ∧ call.Issues source taskRef

/-- This source was prepared by the provider: at once, or by a task that it later reported as
done. -/
def Completed : Prop :=
  Issued provider source "" trace ∨ ∃ poll earlier taskRef, poll :: earlier <:+ trace ∧
    poll.provider = provider ∧
    (ensureImageOnProvider poll).rpc = some (.isTaskComplete taskRef) ∧
    poll.isTaskComplete = .ok true ∧ Issued provider source taskRef earlier

/-- The providers have different names, only the source is prepared, and a task is polled on the
provider that has answered with it. -/
structure Orderly (providers : Set ObjectKey) : Prop where
  names : Set.InjOn ObjectKey.name providers
  calls : ∀ call ∈ trace, call.provider ∈ providers
  issues : ∀ call ∈ trace, ∀ spec taskRef, call.Issues spec taskRef → spec = source
  polls : ∀ poll earlier taskRef, poll :: earlier <:+ trace →
    (ensureImageOnProvider poll).rpc = some (.isTaskComplete taskRef) →
    ∀ call ∈ earlier, call.Issues source taskRef → call.provider = poll.provider

/-- All that a status has recorded goes back to preparations by the providers. -/
structure Grounded : Prop where
  available (name : String) : status.available name = true →
    ∃ call ∈ trace, call.provider.name = name ∧ Completed call.provider source trace
  task : status.prepareTaskRef ≠ "" → ∃ provider, Issued provider source status.prepareTaskRef trace

section Grounds

variable {provider : ObjectKey} {source : ImageSpec} {trace : List Ensure} {status : ImageStatus}
  {providers : Set ObjectKey}

theorem Orderly.tail {call : Ensure} (h : Orderly source (call :: trace) providers) :
    Orderly source trace providers where
  names := h.names
  calls := (forall_mem_cons.mp h.calls).2
  issues := (forall_mem_cons.mp h.issues).2
  polls poll earlier taskRef hsuffix :=
    h.polls poll earlier taskRef (hsuffix.trans (suffix_cons _ _))

theorem Issued.cons {taskRef : String} (h : Issued provider source taskRef trace) (call : Ensure) :
    Issued provider source taskRef (call :: trace) := by
  obtain ⟨issuer, hmem, hissued⟩ := h
  exact ⟨issuer, .tail _ hmem, hissued⟩

theorem Completed.cons (h : Completed provider source trace) (call : Ensure) :
    Completed provider source (call :: trace) := by
  obtain hissued | ⟨poll, earlier, taskRef, hsuffix, hpoll⟩ := h
  · exact .inl (hissued.cons call)
  · exact .inr ⟨poll, earlier, taskRef, hsuffix.trans (suffix_cons _ _), hpoll⟩

theorem Grounded.cons (h : Grounded status source trace) (call : Ensure) :
    Grounded status source (call :: trace) where
  available name hname := by
    obtain ⟨preparer, hmem, hpreparer, hcompleted⟩ := h.available name hname
    exact ⟨preparer, .tail _ hmem, hpreparer, hcompleted.cons call⟩
  task htask := (h.task htask).imp fun _ hissued => hissued.cons call

theorem grounded_markImagePrepared {call : Ensure} (h : Grounded status source trace)
    (hcall : call ∈ trace) (hcompleted : Completed call.provider source trace) (id path : String)
    (now : Time) :
    Grounded (markImagePrepared call.provider.name id path now status) source trace where
  available name hname := by
    rw [available_markImagePrepared, Bool.or_eq_true, decide_eq_true_eq] at hname
    rcases hname with rfl | hname
    · exact ⟨call, hcall, rfl, hcompleted⟩
    · exact h.available name hname
  task htask := absurd rfl htask

end Grounds

theorem run_grounded {may : Image → Ensure → Prop} {versions : List Image} {trace : List Ensure}
    {source : ImageSpec} {providers : Set ObjectKey} (hrun : Run may versions trace)
    (h : Orderly source trace providers) :
    ∀ image ∈ versions, Grounded image.status source trace := by
  induction hrun with
  | init image hnew =>
    refine forall_mem_singleton.mpr (hnew ▸ ⟨?_, ?_⟩) <;> simp [ImageStatus.available]
  | @edit current _ _ _ _ ih =>
    exact forall_mem_cons.mpr ⟨ih h current (.head _), ih h⟩
  | lost call _ _ ih => exact fun image hmem => (ih h.tail image hmem).cons call
  | @written current versions trace call mutate _ hread _ hmutate ih =>
    have hold : ∀ image ∈ current :: versions, Grounded image.status source (call :: trace) :=
      fun image hmem => (ih h.tail image hmem).cons call
    refine forall_mem_cons.mpr ⟨?_, hold⟩
    have hcurrent := hold current (.head _)
    have hdoes := ensureImageOnProvider_does call
    have hissued : ∀ spec resp, (ensureImageOnProvider call).rpc = some (.prepareImage spec) →
        call.prepareImage = .ok resp →
          Issued call.provider source resp.taskRef (call :: trace) := by
      intro spec resp hrpc hresp
      have hissues : call.Issues spec.source resp.taskRef := ⟨spec, resp, hrpc, rfl, hresp, rfl⟩
      exact ⟨call, .head _, rfl, h.issues call (.head _) _ _ hissues ▸ hissues⟩
    have hpolled := h.polls call trace
    -- What the call asked for stays known while its result is split.
    generalize hensured : ensureImageOnProvider call = ensured at hdoes hmutate hissued hpolled
    cases hdoes with
    | nothing => cases hmutate
    | unready _ hkept =>
      cases hmutate
      obtain ⟨_, _, _, hstatus⟩ := hkept current.status
      rw [hstatus]
      exact ⟨hcurrent.available, hcurrent.task⟩
    | polled href hdone =>
      cases hmutate
      obtain ⟨provider, issuer, hmem, rfl, hissues⟩ := (ih h.tail call.image hread).task href
      refine grounded_markImagePrepared hcurrent (.head _) (.inr ⟨call, trace, _, suffix_refl _,
        rfl, by rw [hensured], hdone, issuer, hmem, ?_, hissues⟩) _ _ _
      exact hpolled _ (suffix_refl _) rfl issuer hmem hissues
    | @started resp hresp =>
      cases hmutate
      refine ⟨fun name hname => hcurrent.available name (available_prepareStarted hname), ?_⟩
      exact fun _ => ⟨call.provider, hissued _ resp rfl hresp⟩
    | @prepared resp hresp href =>
      cases hmutate
      exact grounded_markImagePrepared hcurrent (.head _) (.inl (href ▸ hissued _ resp rfl hresp))
        _ _ _

/-- If the providers have different names, no other source than the current one was prepared on
them, and tasks are polled where they were begun, then the image is available only on providers that
have prepared it. -/
theorem available_is_prepared {may : Image → Ensure → Prop} {current : Image}
    {versions : List Image} {trace : List Ensure} {providers : Set ObjectKey}
    (hrun : Run may (current :: versions) trace)
    (horderly : Orderly current.spec.source trace providers) (provider : ObjectKey)
    (hprovider : provider ∈ providers)
    (havailable : current.status.available provider.name = true) :
    Completed provider current.spec.source trace := by
  obtain ⟨call, hcall, hname, hcompleted⟩ :=
    (run_grounded hrun horderly current (.head _)).available _ havailable
  rwa [← horderly.names (horderly.calls call hcall) hprovider hname]

theorem Sample.orderly : Orderly prepared.spec.source [polls, starts, prepares, waits]
    {⟨"blue", "kvm"⟩, ⟨"blue", "esx"⟩} where
  names := by
    rintro _ (rfl | rfl) _ (rfl | rfl) h <;> first | rfl | exact absurd h (by decide)
  calls := by
    simp only [forall_mem_cons]
    exact ⟨.inr rfl, .inr rfl, .inl rfl, .inl rfl, forall_mem_nil _⟩
  issues := by
    simp only [forall_mem_cons]
    refine ⟨?_, ?_, ?_, ?_, forall_mem_nil _⟩ <;> rintro _ _ ⟨spec, resp, hrpc, rfl, -⟩ <;>
      cases hrpc <;> rfl
  polls := by
    intro poll earlier taskRef hsuffix hrpc
    simp only [suffix_cons_iff, suffix_nil, cons.injEq, reduceCtorEq, or_false] at hsuffix
    rcases hsuffix with ⟨rfl, rfl⟩ | ⟨rfl, rfl⟩ | ⟨rfl, rfl⟩ | ⟨rfl, rfl⟩ <;> cases hrpc
    simp only [forall_mem_cons]
    refine ⟨fun _ => rfl, ?_, ?_, forall_mem_nil _⟩
    · rintro ⟨_, _, -, -, ⟨⟩, htask⟩
      exact absurd htask (by decide)
    · rintro ⟨_, _, ⟨⟩, _⟩

/-- kvm had to wait and prepared the image then; esx did so by a task. -/
theorem available_is_prepared_sample :
    Completed ⟨"blue", "kvm"⟩ prepared.spec.source [polls, starts, prepares, waits] ∧
      Completed ⟨"blue", "esx"⟩ prepared.spec.source [polls, starts, prepares, waits] :=
  ⟨available_is_prepared run_imported orderly _ (.inl rfl) rfl,
    available_is_prepared run_imported orderly _ (.inr rfl) rfl⟩

/-- The source of an image is replaced. It stays available on blue/kvm, which prepared the former
one, and counts as available on green/kvm, which was never asked. -/
theorem available_without_preparation : ∃ current versions trace,
    Run (fun _ _ => True) (current :: versions) trace ∧ current.status.available "kvm" = true ∧
    (∀ call ∈ trace, (ensureImageOnProvider call).rpc ≠ some (.prepareImage current.spec) ∧
      call.provider ≠ ⟨"green", "kvm"⟩) ∧
    (ensureImageOnProvider { image := current, provider := ⟨"green", "kvm"⟩ }).rpc = none :=
  ⟨_, _, _, .edit (image "http://images/2" .unset).spec (run_prepared trivial trivial), rfl,
    forall_mem_cons.mpr ⟨⟨by decide, by decide⟩,
      forall_mem_singleton.mpr ⟨by decide, by decide⟩⟩, rfl⟩

end Virtrigaud.VM.Preparation
