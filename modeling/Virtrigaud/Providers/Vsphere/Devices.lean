import Virtrigaud.Providers.Vsphere.Creation

/-!
# The devices of a new VM

The configuration that is submitted adds a TPM, a network adapter, and a controller with the
imported disk. The adapter is not added to the list of changes but replaces it, and the TPM, the
adapter and the controller have the same temporary key.
-/

namespace Virtrigaud.Vsphere.Creation

open Effects Program List Option

/-- The key that a device is added with. -/
def Device.key : Device → Int
  | .scsiController controller => controller.key
  | .disk added => added.key
  | .vmxnet3 _ _ | .tpm => -1
  | .other key => key

/-- The configuration has the devices that are asked for, under different keys. -/
structure Complete (spec : VMSpec) (config : ConfigSpec) : Prop where
  tpm : spec.tpmEnabled = true → { device := .tpm } ∈ config.deviceChange
  adapter : spec.networkName ≠ "" →
    ∃ network, { device := .vmxnet3 spec.networkName network } ∈ config.deviceChange
  disk : spec.diskPath ≠ "" → importedDisk spec.diskPath ⊆ config.deviceChange
  keys : (config.deviceChange.map (·.device.key)).Nodup

/-- Of TPM, network and imported disk one at most is asked for. -/
def Lone (spec : VMSpec) : Prop :=
  (spec.tpmEnabled = true → spec.networkName = "" ∧ spec.diskPath = "") ∧
    (spec.networkName ≠ "" → spec.diskPath = "")

/-- A configuration that is submitted is complete. -/
def Submits (spec : VMSpec) (c : Call) : Prop :=
  ∀ submitted, c.submitted = some submitted → Complete spec submitted

variable (base64 : String → String)

theorem deviceChange_withCloudInit (spec : VMSpec) (config : ConfigSpec) :
    (withCloudInit base64 spec config).deviceChange = config.deviceChange := by
  unfold withCloudInit addCloudInitToConfigSpec
  split_ifs <;> rfl

variable {spec : VMSpec} {network : Option MoRef}

theorem submits_of_none {c : Call} (h : c.submitted = none) : Submits spec c := by
  intro submitted hsubmitted
  rw [h] at hsubmitted
  cases hsubmitted

theorem placeVM_network (config : Config) (spec : VMSpec) :
    (placeVM perform config spec : Program Call Answer _).Returns fun result =>
      ∀ place, result = .ok place → (place.network = none ↔ spec.networkName = "") := by
  have hnetwork : (findNetwork perform spec : Program Call Answer _).Returns fun result =>
      ∀ network, result = .ok network → (network = none ↔ spec.networkName = "") := by
    unfold findNetwork
    split
    · rintro network ⟨⟩
      exact iff_of_true rfl ‹_›
    · rintro (err | network)
      · exact fun _ h => nomatch h
      · rintro network ⟨⟩
        exact iff_of_false (fun h => nomatch h) ‹_›
  unfold placeVM
  repeat' first
    | refine hnetwork.bind fun network hfound => ?_
    | refine (returns_true _).bind fun _ _ => ?_
    | split
    | exact fun _ h => Except.ok.inj h ▸ hfound _ rfl
    | exact fun _ h => nomatch h

/-- The configuration that `buildVM` submits. -/
def submission (spec : VMSpec) (network : Option MoRef) : ConfigSpec :=
  if spec.diskPath ≠ "" then diskConfig base64 spec network else cloneConfig base64 spec network

theorem deviceChange_submission (spec : VMSpec) (network : Option MoRef) :
    (submission base64 spec network).deviceChange = initialDevices spec network ++
      if spec.diskPath = "" then [] else importedDisk spec.diskPath := by
  by_cases hdisk : spec.diskPath = ""
  · rw [submission, if_neg (not_not_intro hdisk), if_pos hdisk, append_nil]
    exact deviceChange_withCloudInit ..
  · rw [submission, if_pos hdisk, if_neg hdisk]
    exact congrArg (· ++ _) (deviceChange_withCloudInit ..)

theorem submission_complete_iff (hnetwork : network = none ↔ spec.networkName = "") :
    Complete spec (submission base64 spec network) ↔ Lone spec := by
  have hdevices := deviceChange_submission base64 spec network
  constructor
  · rintro ⟨htpm, -, -, hkeys⟩
    rw [hdevices] at htpm hkeys
    refine ⟨fun hasked => ?_, fun hname => ?_⟩
    · cases network with
      | none =>
        refine ⟨hnetwork.mp rfl, ?_⟩
        by_contra hdisk
        simp [initialDevices, importedDisk, Device.key, hasked, hdisk] at hkeys
      | some network =>
        have hlost := htpm hasked
        split at hlost <;> simp [initialDevices, importedDisk] at hlost
    · cases network with
      | none => exact absurd (hnetwork.mp rfl) hname
      | some network =>
        by_contra hdisk
        simp [initialDevices, importedDisk, Device.key, hdisk] at hkeys
  · rintro ⟨htpm, hname⟩
    by_cases hdisk : spec.diskPath = ""
    all_goals
      cases network with
      | none | some network =>
        cases hasked : spec.tpmEnabled <;>
          constructor <;> simp_all [initialDevices, importedDisk, Device.key]

/-- The VM is submitted first, and nothing after it. -/
theorem buildVM_eq (spec : VMSpec) (place : Place) :
    ∃ c next, buildVM perform base64 spec place = (.call c next : Program Call Answer _) ∧
      c.submitted = some (submission base64 spec place.network) ∧
      ∀ r, (next r).Only (·.submitted = none) := by
  unfold buildVM submission createFromDisk cloneFromTemplate
  split_ifs
  all_goals
    refine ⟨_, _, rfl, rfl, fun task => ?_⟩
    cases task with
    | error err => trivial
    | ok task =>
      refine ⟨rfl, fun result => ?_⟩
      rcases result with err | (typeName | vmRef) <;> trivial

/-- Whatever vCenter answers, the devices of a spec are submitted with different keys, exactly if
it asks for one of them at most. -/
theorem devices_submitted_iff (config : Config)
    (hsource : spec.diskPath ≠ "" ∨ spec.templateName ≠ "") :
    (createVirtualMachine perform base64 config spec : Program Call Answer _).Only
      (Submits spec) ↔ Lone spec := by
  constructor
  · intro h
    obtain ⟨place, _, hplace⟩ := placeVM_building config spec [] rfl hsource
    have hnetwork := (placeVM_network config spec).of_eval hplace place rfl
    have hbuild := h.of_eval_bind hplace
    obtain ⟨c, next, heq, hc, -⟩ := buildVM_eq base64 spec place
    dsimp only at hbuild
    rw [heq] at hbuild
    exact (submission_complete_iff base64 hnetwork).mp (hbuild.1 _ hc)
  · intro hlone
    refine ((placeVM_only config spec).mono fun c hc => submits_of_none hc.2).bind_returns
      (placeVM_network config spec) fun place hplace => ?_
    cases place with
    | error err => trivial
    | ok place =>
    have hcomplete := (submission_complete_iff base64 (hplace place rfl)).mpr hlone
    refine Only.bind ?_ fun created => ?_
    · obtain ⟨c, next, heq, hc, hnext⟩ := buildVM_eq base64 spec place
      rw [heq]
      refine ⟨fun submitted hsubmitted => ?_, fun r => (hnext r).mono fun _ => submits_of_none⟩
      rw [← some.inj (hc.symm.trans hsubmitted)]
      exact hcomplete
    · cases created with
      | error err => trivial
      | ok created =>
      exact ((finishVM_only spec place.datastore created).mono
        fun c hc => submits_of_none hc.2).bind fun _ => trivial

namespace Sample

def withTPM : VMSpec := { name := "web", templateName := "debian", tpmEnabled := true }

end Sample

open Creation.Sample

theorem devices_submitted_tpm :
    (createVirtualMachine perform id {} withTPM : Program Call Answer _).Only
      (Submits withTPM) :=
  (devices_submitted_iff id {} (.inr (by decide))).mpr
    ⟨fun _ => ⟨rfl, rfl⟩, (absurd rfl ·)⟩

/-- With a network the TPM is lost, and around an imported disk the adapter and the controller
have the same key. -/
theorem devices_lost :
    (∃ out ∈ outcome { withTPM with networkName := "lan" } 10, ∃ event ∈ out.log,
      ∃ submitted ∈ event.1.submitted, { device := .tpm } ∉ submitted.deviceChange) ∧
    ∃ out ∈ outcome { fromDisk with networkName := "lan" } 9, ∃ event ∈ out.log,
      ∃ submitted ∈ event.1.submitted,
        submitted.deviceChange.map (·.device.key) = [-1, -1, -2] := by
  decide +kernel

end Virtrigaud.Vsphere.Creation
