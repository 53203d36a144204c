import Virtrigaud.Api.Names
import Virtrigaud.Api.Objects
import Virtrigaud.Effects.System
import Mathlib.Data.List.Nodup

/-!
# The Deployment of a provider

`reconcileDeployment` of the Provider controller, as far as the volumes of the pod go: the
claims with the label of migration storage are discovered and mounted, each as a volume that is
named after its claim.
-/

namespace Virtrigaud.Runtime

open Effects Program List

structure Volume where
  name : String
  claimName : Option String := none
  deriving DecidableEq, Repr

structure VolumeMount where
  (name mountPath : String)
  deriving DecidableEq, Repr

structure PodTemplate where
  volumes : List Volume := []
  mounts : List VolumeMount := []
  deriving DecidableEq, Repr

/-- The Deployment object: what the controller sets, and the status of its rollout. -/
structure ProviderDeployment where
  replicas : Int
  template : PodTemplate
  (updatedReplicas readyReplicas : Int := 0)
  deriving DecidableEq, Repr

/-- `spec.runtime`, as far as replicas and volumes depend on it. -/
structure RuntimeSpec where
  replicas : Option Int := none
  tlsEnabled : Bool := false
  deriving DecidableEq, Repr

inductive Call
  | listClaims (ns labelKey labelValue : String)
  | getDeployment (key : ObjectKey)
  | createDeployment (key : ObjectKey) (deployment : ProviderDeployment)
  | updateDeployment (key : ObjectKey) (deployment : ProviderDeployment)

@[reducible] def Answer : Call → Type
  | .listClaims _ _ _ => Except GoError (List PersistentVolumeClaim)
  | .getDeployment _ => Except GoError ProviderDeployment
  | .createDeployment _ _ => Option GoError
  | .updateDeployment _ _ => Option GoError

/-- A computation of the Provider controller. -/
abbrev M := Program Call Answer

def ask (c : Call) : M (Answer c) := .perform c

def migrationPVCLabelKey : String := "virtrigaud.io/component"

def migrationPVCLabelValue : String := "migration-storage"

variable (provider : Provider) (spec : RuntimeSpec) (claims : List PersistentVolumeClaim)
  (pvc : PersistentVolumeClaim)

/-- A claim that is being deleted is not mounted. -/
def migrationPVCIsMountable : Bool :=
  pvc.objectMeta.deletionTimestamp.isNone

def volumeName : String := "migration-" ++ pvc.objectMeta.name

def migrationVolume : Volume where
  name := volumeName pvc
  claimName := some pvc.objectMeta.name

def migrationMount : VolumeMount where
  name := volumeName pvc
  mountPath := "/mnt/migration-storage/" ++ pvc.objectMeta.name

/-- One entry per claim the label selects. An error of the list is only logged. -/
def discover {α : Type} (ns : String) (entry : PersistentVolumeClaim → α) : M (List α) := do
  match ← ask (.listClaims ns migrationPVCLabelKey migrationPVCLabelValue) with
  | .error _ => return []
  | .ok claims => return (claims.filter migrationPVCIsMountable).map entry

def discoverMigrationPVCs (ns : String) : M (List Volume) := discover ns migrationVolume

def discoverMigrationVolumeMounts (ns : String) : M (List VolumeMount) :=
  discover ns migrationMount

/-- The mounts of the container before and after those of the claims. -/
def buildProviderContainer : M (List VolumeMount) := do
  let migrationMounts ← discoverMigrationVolumeMounts provider.objectMeta.ns
  return [⟨"provider-credentials", "/etc/virtrigaud/credentials"⟩] ++
    (if spec.tlsEnabled then [⟨"provider-tls", "/etc/virtrigaud/tls"⟩] else []) ++
    migrationMounts ++ [⟨"tmp", "/tmp"⟩] ++
    (if provider.type = .libvirt then [⟨"libvirt-ssh-key", "/tmp/virtrigaud-libvirt"⟩] else [])

def buildPodVolumes : M (List Volume) := do
  let migrationVolumes ← discoverMigrationPVCs provider.objectMeta.ns
  return [{ name := "provider-credentials" }] ++
    (if spec.tlsEnabled then [{ name := "provider-tls" }] else []) ++
    migrationVolumes ++ [{ name := "tmp" }] ++
    (if provider.type = .libvirt then [{ name := "libvirt-ssh-key" }] else [])

/-- `getDeploymentName`, with the namespace. -/
def deploymentKey (provider : ObjectKey) : ObjectKey :=
  ⟨provider.ns, "virtrigaud-provider-" ++ provider.ns ++ "-" ++ provider.name⟩

/-- `retry.RetryOnConflict` around the update, with the steps that are left and the last
conflict. -/
def updateDeployment (key : ObjectKey) (desired : ProviderDeployment) :
    Nat → GoError → M (Except GoError ProviderDeployment)
  | 0, conflict => return .error conflict
  | steps + 1, _ => do
    match ← ask (.getDeployment key) with
    | .error err =>
      if err.reason = .conflict then updateDeployment key desired steps err
      else return .error err
    | .ok existing =>
    let updated := { existing with replicas := desired.replicas, template := desired.template }
    match ← ask (.updateDeployment key updated) with
    | none => return .ok updated
    | some err =>
      if err.reason = .conflict then updateDeployment key desired steps err
      else return .error err

def reconcileDeployment : M (Except GoError ProviderDeployment) := do
  let mounts ← buildProviderContainer provider spec
  let volumes ← buildPodVolumes provider spec
  let desired : ProviderDeployment :=
    { replicas := spec.replicas.getD 1, template := { volumes, mounts } }
  let key := deploymentKey provider.objectMeta.key
  match ← ask (.getDeployment key) with
  | .error err =>
    if err.reason = .notFound then
      match ← ask (.createDeployment key desired) with
      | some err => return .error (err.wrap "failed to create deployment")
      | none => return .ok desired
    else return .error (err.wrap "failed to get deployment")
  | .ok _ =>
  match ← updateDeployment key desired 5 (errorf "") with
  | .error err => return .error (err.wrap "failed to update deployment")
  | .ok updated => return .ok updated

/-- The template `reconcileDeployment` builds from the claims it discovers. -/
def podTemplate : PodTemplate where
  volumes := [{ name := "provider-credentials" }] ++
    (if spec.tlsEnabled then [{ name := "provider-tls" }] else []) ++
    claims.map migrationVolume ++ [{ name := "tmp" }] ++
    (if provider.type = .libvirt then [{ name := "libvirt-ssh-key" }] else [])
  mounts := [⟨"provider-credentials", "/etc/virtrigaud/credentials"⟩] ++
    (if spec.tlsEnabled then [⟨"provider-tls", "/etc/virtrigaud/tls"⟩] else []) ++
    claims.map migrationMount ++ [⟨"tmp", "/tmp"⟩] ++
    (if provider.type = .libvirt then [⟨"libvirt-ssh-key", "/tmp/virtrigaud-libvirt"⟩] else [])

/-- The names of the volumes are DNS labels and differ, every mount is of a volume, and no two
are at one path. -/
def PodTemplate.valid (template : PodTemplate) : Bool :=
  template.volumes.all (fun volume => isDNSLabel volume.name) &&
    decide (template.volumes.map Volume.name).Nodup &&
    template.mounts.all (fun mount => (template.volumes.map Volume.name).contains mount.name) &&
    decide (template.mounts.map VolumeMount.mountPath).Nodup

section Valid

variable {provider : Provider} {spec : RuntimeSpec} {claims : List PersistentVolumeClaim}
  {names : List String}

/-- A list stays free of repetitions when such entries are put between its parts. -/
theorem nodup_between {front back : List String} (hfixed : (front ++ back).Nodup)
    (hnames : names.Nodup) (hdisjoint : ∀ name ∈ names, name ∉ front ++ back) :
    (front ++ names ++ back).Nodup := by
  rw [append_assoc]
  have hperm : (front ++ (names ++ back)).Perm (names ++ (front ++ back)) := by
    rw [← append_assoc, ← append_assoc]
    exact perm_append_comm.append_right back
  refine hperm.nodup_iff.mpr (nodup_append.mpr ⟨hnames, hfixed, ?_⟩)
  rintro name hname other hother rfl
  exact hdisjoint name hname hother

variable {start : String}

theorem nodup_map_append (h : names.Nodup) : (names.map (start ++ ·)).Nodup :=
  Nodup.map (fun _ _ heq => (String.append_right_inj start).mp heq) h

/-- A text that begins otherwise is no such name. -/
theorem append_notMem {name : String} {texts : List String}
    (h : texts.all (fun text => !start.toList.isPrefixOf text.toList) = true) :
    start ++ name ∉ texts := by
  intro hmem
  have hbegins : (!start.toList.isPrefixOf (start ++ name).toList) = true :=
    all_eq_true.mp h _ hmem
  rw [String.toList_append, isPrefixOf_iff_prefix.mpr (prefix_append _ _)] at hbegins
  cases hbegins

/-- Names that all begin in one way, between names that do not. -/
theorem nodup_named {front back : List String} (hfixed : (front ++ back).Nodup)
    (hother : (front ++ back).all (fun text => !start.toList.isPrefixOf text.toList) = true)
    (hnames : names.Nodup) : (front ++ names.map (start ++ ·) ++ back).Nodup := by
  refine nodup_between hfixed (nodup_map_append hnames) fun name hname => ?_
  obtain ⟨rest, -, rfl⟩ := mem_map.mp hname
  exact append_notMem hother

theorem volumes_nodup (hdistinct : (claims.map (·.objectMeta.name)).Nodup) :
    ((podTemplate provider spec claims).volumes.map Volume.name).Nodup := by
  have hvolume : Volume.name ∘ migrationVolume = ("migration-" ++ ·) ∘ (·.objectMeta.name) := rfl
  unfold podTemplate
  simp only [map_append, map_map, hvolume]
  rw [← map_map, append_assoc _ (map Volume.name [_])]
  refine nodup_named ?_ ?_ hdistinct <;> split <;> split <;> decide

theorem paths_nodup (hdistinct : (claims.map (·.objectMeta.name)).Nodup) :
    ((podTemplate provider spec claims).mounts.map VolumeMount.mountPath).Nodup := by
  have hmount : VolumeMount.mountPath ∘ migrationMount =
      ("/mnt/migration-storage/" ++ ·) ∘ (·.objectMeta.name) := rfl
  unfold podTemplate
  simp only [map_append, map_map, hmount]
  rw [← map_map, append_assoc _ (map VolumeMount.mountPath [_])]
  refine nodup_named ?_ ?_ hdistinct <;> split <;> split <;> decide

/-- The pods mount the claims that are discovered, and no others. -/
theorem podTemplate_claims : (podTemplate provider spec claims).volumes.filterMap Volume.claimName =
    claims.map (·.objectMeta.name) := by
  have hclaims : (claims.map migrationVolume).filterMap Volume.claimName =
      claims.map (·.objectMeta.name) := by
    rw [filterMap_map]
    exact congrFun filterMap_eq_map' claims
  unfold podTemplate
  simp only [filterMap_append, hclaims]
  split <;> split <;> simp

/-- The volumes are those of a template without claims, and one for each claim. -/
theorem mem_volumes {volume : Volume} : volume ∈ (podTemplate provider spec claims).volumes ↔
    volume ∈ (podTemplate provider spec []).volumes ∨
      ∃ pvc ∈ claims, migrationVolume pvc = volume := by
  simp only [podTemplate, map_nil, append_nil, mem_append, mem_map, or_assoc, or_comm,
    or_left_comm]

theorem mem_mounts {mount : VolumeMount} : mount ∈ (podTemplate provider spec claims).mounts ↔
    mount ∈ (podTemplate provider spec []).mounts ∨
      ∃ pvc ∈ claims, migrationMount pvc = mount := by
  simp only [podTemplate, map_nil, append_nil, mem_append, mem_map, or_assoc, or_comm,
    or_left_comm]

variable (provider spec) in
/-- Without claims every mount is of a volume, whose name is a label and not that of a claim. -/
theorem podTemplate_nil :
    (∀ mount ∈ (podTemplate provider spec []).mounts,
      mount.name ∈ (podTemplate provider spec []).volumes.map Volume.name) ∧
    ∀ volume ∈ (podTemplate provider spec []).volumes, isDNSLabel volume.name = true ∧
      "migration-".toList.isPrefixOf volume.name.toList = false := by
  unfold podTemplate
  split <;> split <;> decide

theorem volumes_labels : (podTemplate provider spec claims).volumes.all
    (fun volume => isDNSLabel volume.name) = true ↔
      ∀ pvc ∈ claims, isDNSLabel (volumeName pvc) = true := by
  rw [all_eq_true]
  constructor
  · intro h pvc hpvc
    exact h (migrationVolume pvc) (mem_volumes.mpr (.inr ⟨pvc, hpvc, rfl⟩))
  · intro h volume hvolume
    rcases mem_volumes.mp hvolume with hfixed | ⟨pvc, hpvc, rfl⟩
    · exact ((podTemplate_nil provider spec).2 volume hfixed).1
    · exact h pvc hpvc

variable {mounted listed : List PersistentVolumeClaim}

/-- A claim has a volume of its name exactly if it was listed. -/
theorem volumeName_mem {pvc : PersistentVolumeClaim} :
    volumeName pvc ∈ (podTemplate provider spec listed).volumes.map Volume.name ↔
      pvc.objectMeta.name ∈ listed.map (·.objectMeta.name) := by
  rw [mem_map, mem_map]
  constructor
  · rintro ⟨volume, hvolume, hname⟩
    rcases mem_volumes.mp hvolume with hfixed | ⟨other, hother, rfl⟩
    · have hother := ((podTemplate_nil provider spec).2 volume hfixed).2
      rw [hname, volumeName, String.toList_append, isPrefixOf_iff_prefix.mpr (prefix_append _ _)]
        at hother
      cases hother
    · exact ⟨other, hother, (String.append_right_inj _).mp hname⟩
  · rintro ⟨other, hother, hname⟩
    exact ⟨_, mem_volumes.mpr (.inr ⟨other, hother, rfl⟩), congrArg ("migration-" ++ ·) hname⟩

/-- Every mount is of a volume exactly if the claims that are mounted were listed. -/
theorem mounts_subset : (podTemplate provider spec mounted).mounts.all (fun mount =>
    ((podTemplate provider spec listed).volumes.map Volume.name).contains mount.name) = true ↔
      mounted.map (·.objectMeta.name) ⊆ listed.map (·.objectMeta.name) := by
  simp only [all_eq_true, contains_iff_mem]
  constructor
  · intro h name hname
    obtain ⟨pvc, hpvc, rfl⟩ := mem_map.mp hname
    exact volumeName_mem.mp (h _ (mem_mounts.mpr (.inr ⟨pvc, hpvc, rfl⟩)))
  · intro h mount hmount
    rcases mem_mounts.mp hmount with hfixed | ⟨pvc, hpvc, rfl⟩
    · obtain ⟨volume, hvolume, hname⟩ :=
        mem_map.mp ((podTemplate_nil provider spec).1 mount hfixed)
      exact mem_map.mpr ⟨volume, mem_volumes.mpr (.inl hvolume), hname⟩
    · exact volumeName_mem.mpr (h (mem_map_of_mem hpvc))

/-- Nothing but the names of the claims decides whether the template is accepted. -/
theorem podTemplate_valid_iff (hmounted : (mounted.map (·.objectMeta.name)).Nodup)
    (hlisted : (listed.map (·.objectMeta.name)).Nodup) :
    (PodTemplate.mk (podTemplate provider spec listed).volumes
        (podTemplate provider spec mounted).mounts).valid = true ↔
      (∀ pvc ∈ listed, isDNSLabel (volumeName pvc) = true) ∧
        mounted.map (·.objectMeta.name) ⊆ listed.map (·.objectMeta.name) := by
  rw [PodTemplate.valid, decide_eq_true (volumes_nodup hlisted),
    decide_eq_true (paths_nodup hmounted),
    Bool.and_true, Bool.and_true, Bool.and_eq_true_iff, volumes_labels, mounts_subset]

theorem podTemplate_valid (provider : Provider) (spec : RuntimeSpec)
    (hdistinct : (claims.map (·.objectMeta.name)).Nodup)
    (hnames : ∀ pvc ∈ claims, isDNSLabel (volumeName pvc) = true) :
    (podTemplate provider spec claims).valid = true :=
  (podTemplate_valid_iff hdistinct hdistinct).mpr ⟨hnames, Subset.refl _⟩

end Valid

/-- The claims that are mounted of those a list answers with. -/
def mountable : Except GoError (List PersistentVolumeClaim) → List PersistentVolumeClaim
  | .error _ => []
  | .ok claims => claims.filter migrationPVCIsMountable

/-- The template that a call sends to the API server. -/
def template? : Call → Option PodTemplate
  | .createDeployment _ deployment | .updateDeployment _ deployment => some deployment.template
  | _ => none

/-- The two lists of the reconcile were answered like this. -/
def Listed (mounted listed : Except GoError (List PersistentVolumeClaim))
    (log : List (Event Call Answer)) : Prop :=
  ∃ ns, [⟨.listClaims ns migrationPVCLabelKey migrationPVCLabelValue, listed⟩,
    ⟨.listClaims ns migrationPVCLabelKey migrationPVCLabelValue, mounted⟩] <:+ log

/-- A template that is sent after these answers is admissible. -/
def Admissible (mounted listed : Except GoError (List PersistentVolumeClaim))
    (log : List (Event Call Answer)) (c : Call) : Prop :=
  Listed mounted listed log → ∀ template ∈ template? c, template.valid = true

section Applied

variable {mounted listed : Except GoError (List PersistentVolumeClaim)}
  {log : List (Event Call Answer)}

/-- The first two calls of a log are what they are. -/
theorem Listed.eq {ns : String} {mounted' listed' : Except GoError (List PersistentVolumeClaim)}
    (h : Listed mounted listed log)
    (hlog : [⟨.listClaims ns migrationPVCLabelKey migrationPVCLabelValue, listed'⟩,
      ⟨.listClaims ns migrationPVCLabelKey migrationPVCLabelValue, mounted'⟩] <:+ log) :
    listed' = listed ∧ mounted' = mounted := by
  obtain ⟨ns', hlists⟩ := h
  have heq := (suffix_of_suffix_length_le hlog hlists (by simp)).eq_of_length rfl
  cases heq
  exact ⟨rfl, rfl⟩

theorem discover_eq {α : Type} (ns : String) (entry : PersistentVolumeClaim → α) :
    discover ns entry = ask (.listClaims ns migrationPVCLabelKey migrationPVCLabelValue) >>=
      fun answer => .done ((mountable answer).map entry) := by
  refine congrArg (Program.call _) (funext fun answer => ?_)
  cases answer <;> rfl

theorem updateDeployment_admissible {key : ObjectKey} {desired : ProviderDeployment} {steps : Nat}
    {conflict : GoError} {before : List (Event Call Answer)} (hlog : before <:+ log)
    (h : ∀ log', before <:+ log' → Listed mounted listed log' → desired.template.valid = true) :
    (updateDeployment key desired steps conflict).Heeds (Admissible mounted listed) log := by
  induction steps generalizing conflict log with
  | zero => trivial
  | succ steps ih =>
    refine obeys_perform (fun _ => nofun) fun found => ?_
    have hlog := hlog.trans (suffix_cons (⟨.getDeployment key, found⟩ : Event Call Answer) log)
    cases found with
    | error err =>
      dsimp only
      split
      · exact ih hlog
      · trivial
    | ok existing =>
      refine obeys_perform (fun hlisted _ heq => Option.some.inj heq ▸ h _ hlog hlisted)
        fun failed => ?_
      cases failed with
      | none => trivial
      | some err =>
        dsimp only
        split
        · exact ih (hlog.trans (suffix_cons _ _))
        · trivial

/-- Every template that is sent to the API server is admissible exactly if the claims that the
second list finds make volume names, and those of the first are among them. -/
theorem template_admissible (provider : Provider) (spec : RuntimeSpec)
    (hmounted : ((mountable mounted).map (·.objectMeta.name)).Nodup)
    (hlisted : ((mountable listed).map (·.objectMeta.name)).Nodup) :
    (reconcileDeployment provider spec).Obeys (Admissible mounted listed) (fun _ _ => True) [] ↔
      (∀ pvc ∈ mountable listed, isDNSLabel (volumeName pvc) = true) ∧
        (mountable mounted).map (·.objectMeta.name) ⊆
          (mountable listed).map (·.objectMeta.name) := by
  rw [← podTemplate_valid_iff hmounted hlisted]
  unfold reconcileDeployment buildProviderContainer buildPodVolumes discoverMigrationPVCs
    discoverMigrationVolumeMounts
  rw [discover_eq, discover_eq]
  constructor
  · intro h
    have hsent := (((h.2 mounted).2 listed).2 (.error ⟨.notFound, ""⟩)).1
    exact hsent ⟨_, suffix_cons _ _⟩ _ rfl
  · intro hvalid
    refine obeys_perform (fun _ => nofun) fun mounted' => ?_
    refine obeys_perform (fun _ => nofun) fun listed' => ?_
    refine obeys_perform (fun _ => nofun) fun found => ?_
    -- the mounts are those of the first list, the volumes those of the second
    have htemplate : ∀ log, [⟨.listClaims _ _ _, listed'⟩, ⟨.listClaims _ _ _, mounted'⟩] <:+ log →
        Listed mounted listed log →
          (PodTemplate.mk (podTemplate provider spec (mountable listed')).volumes
            (podTemplate provider spec (mountable mounted')).mounts).valid = true := by
      intro log hlog hlists
      obtain ⟨rfl, rfl⟩ := hlists.eq hlog
      exact hvalid
    cases found with
    | error err =>
      dsimp only
      split
      · refine obeys_perform ?_ fun failed => by cases failed <;> trivial
        rintro hlists template ⟨⟩
        exact htemplate _ (suffix_cons _ _) hlists
      · trivial
    | ok existing =>
      refine (updateDeployment_admissible (suffix_cons _ _) htemplate).bind fun result _ _ _ => ?_
      cases result <;> trivial

end Applied

namespace Sample

def claim (name : String) : PersistentVolumeClaim := { objectMeta := { name } }

/-- A first reconcile that finds these claims sends a template that is refused. -/
def refused (mounted listed : List PersistentVolumeClaim) : Bool :=
  let finds (claims : List PersistentVolumeClaim) : (c : Call) → Answer c
    | .listClaims _ _ _ => .ok claims
    | .getDeployment _ => .error ⟨.notFound, "not found"⟩
    | .createDeployment _ _ | .updateDeployment _ _ => none
  ((reconcileDeployment {} {}).run Host.free () []
    [finds mounted, finds listed, finds [], finds []]).any fun out =>
      out.log.any fun event => (template? event.1).any fun template => !template.valid

end Sample

open Sample

/-- A claim that appears between the two lists is no harm. -/
theorem template_admissible_sample : (reconcileDeployment {} {}).Obeys
    (Admissible (.ok [claim "scratch"]) (.ok [claim "new", claim "scratch"]))
    (fun _ _ => True) [] :=
  (template_admissible {} {} (by decide) (by decide)).mpr (by decide)

/-- A claim that disappears between the two lists leaves a mount without its volume, and neither
a name with a dot nor a long one makes a volume name. -/
theorem template_not_admissible :
    refused [claim "scratch"] [] = true ∧
      refused [claim "vm.disk"] [claim "vm.disk"] = true ∧
      let long := claim (String.ofList (replicate 54 'a'))
      refused [long] [long] = true := by
  refine ⟨?_, ?_, ?_⟩ <;> decide

end Virtrigaud.Runtime
