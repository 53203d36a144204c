import Virtrigaud.VM.Adoption

/-!
# When a VM is created

Over whole runs of reconciles of one VirtualMachine: at most one VM that was made for it
exists at a time, Create is called only when none does, and never for an adopted object,
as long as every reconcile meets the conditions of `Setting.orderly` and `settled`.
Without them the controller loses track: a status write that fails leaves a VM that no
ID points to, and an adopted VM that is not found is replaced.
-/

namespace Virtrigaud.VM

open Effects Program List

section Runs

variable {kind : ProviderType} {provider : ObjectKey} {key : ObjectKey} {setting : Setting}
  {site : Site kind} {log : List LogEntry} {choices : List Choice}
  {out : Outcome Call Answer (Site kind) Return}

/-- Everything that is known while a reconcile is under way. -/
def Kept (provider : ObjectKey) (key : ObjectKey) (setting : Setting) (site : Site kind)
    (log : List LogEntry) : Prop :=
  Follows provider key setting site log ∧
    ∀ adopted, setting.adopted = some adopted → Adopts provider key setting adopted site log

/-- A reconcile under the conditions keeps it, wherever it is cut off. -/
theorem Kept.run (r : Reconciler) (h : Kept provider key setting site [])
    (hrun : (r.reconcile key).run ⟨Site.answer provider⟩ site [] choices = some out)
    (horderly : setting.orderly provider kind key choices out.log = true) :
    Kept provider key setting out.state out.log := by
  simp only [Setting.orderly, Bool.and_eq_true, all_eq_true] at horderly
  obtain ⟨hchoices, hhonest⟩ := horderly
  refine ((reconcile_obeys r key).run_induct (I := Kept provider key setting) hrun hchoices h
    ?_).1
  intro s log c choice answer next hkept hallowed hchoice hanswer hsuffix
  have hhonest' : ∀ entry ∈ (⟨c, answer⟩ : LogEntry) :: log, setting.honest provider entry = true :=
    fun entry hmem => hhonest entry (hsuffix.subset hmem)
  constructor
  · exact hkept.1.answer hallowed hchoice.1 hchoice.2 hhonest' hanswer
  · intro adopted hadopted
    exact (hkept.2 adopted hadopted).answer hkept.1 hadopted hallowed hchoice.1 hchoice.2 hhonest'
      hanswer

/-- A reconcile that has settled leaves a site the next one can start from. -/
theorem Kept.settle (h : Kept provider key setting site log) (hsettled : settled log = true) :
    Kept provider key setting site [] := by
  constructor
  · exact ⟨h.1.steady, (fun _ hv => nomatch hv), h.1.single, (fun _ hv => nomatch hv),
      (fun _ hv => nomatch hv), fun hne => absurd rfl hne, fun _ => h.1.tracked hsettled⟩
  · intro adopted hadopted
    have hadopts := h.2 adopted hadopted
    exact ⟨hadopts.ids, hadopts.stays, (fun _ hv => nomatch hv), (fun _ hv => nomatch hv),
      (fun _ hv => nomatch hv), rfl, fun _ _ _ hmem => nomatch hmem⟩

/-- The object and the VMs at the start are as the setting says. -/
def Setting.Begins (provider : ObjectKey) (key : ObjectKey) (setting : Setting)
    (site : Site kind) : Prop :=
  (∀ v, site.vms.live key = some v → Suits provider setting v) ∧
    ∀ m ∈ site.hypervisor.machines, setting.homely kind m.node = true

theorem kept_of_begins (r : Reconciler) (hinit : (system r provider kind key).init site)
    (hbegins : setting.Begins provider key site) : Kept provider key setting site [] := by
  obtain ⟨⟨v, hversions, hstatus⟩, hmanaged⟩ := hinit
  have hlive : site.vms.live key = some v := by
    unfold VMStore.live
    rw [hversions]
  have hall : ∀ w, some w ∈ (site.vms.versions key).all → w = v := by
    intro w hw
    rw [hversions] at hw
    exact Option.some.inj (mem_singleton.mp hw)
  have hempty : v.status.id = "" := by
    rw [hstatus]
  constructor
  · constructor
    · exact ⟨fun w hw => hall w hw ▸ hbegins.1 v hlive, hbegins.2⟩
    · exact fun _ hw => nomatch hw
    · intro m hm
      rw [hmanaged] at hm
      cases hm
    · exact fun _ hw => nomatch hw
    · exact fun _ hw => nomatch hw
    · exact fun hne => absurd rfl hne
    · intro _ w _ m hm
      rw [hmanaged] at hm
      cases hm
  · intro adopted _
    constructor
    · intro w hw hne
      rw [hall w hw] at hne
      exact absurd hempty hne
    · intro w hw hneed
      rw [hall w (VMStore.mem_of_live _ hw)] at hneed
      exact absurd hempty hneed.2
    · exact fun _ hw => nomatch hw
    · exact fun _ hw => nomatch hw
    · exact fun _ hw => nomatch hw
    · rfl
    · exact fun _ _ _ hmem => nomatch hmem

theorem kept_of_reach (r : Reconciler) {trace : List LogEntry}
    (hreach : ((system r provider kind key).startingFrom (setting.Begins provider key)).Reach
      (fun _ _ choices log =>
        setting.orderly provider kind key choices log = true ∧ settled log = true) site trace) :
    Kept provider key setting site [] := by
  refine hreach.invariant (J := fun site _ => Kept provider key setting site []) ?_ ?_
  · intro s hs
    exact kept_of_begins r hs.1 hs.2
  · intro s trace choices out hkept hrun hcond
    have hstate : ((system r provider kind key).startingFrom (setting.Begins provider key)).settle
        out = out.state := by
      unfold System.settle
      split <;> rfl
    rw [hstate]
    exact (hkept.run r hrun hcond.1).settle hcond.2

/-- VMs made for one object that all have one ID are one VM. -/
theorem Follows.length_managed (h : Follows provider key setting site log) :
    site.hypervisor.managed.length ≤ 1 := by
  have hdistinct : (site.hypervisor.managed.map (Machine.id kind)).Nodup :=
    site.hypervisor.distinct.sublist (filter_sublist.map _)
  have hsingle := h.single
  generalize site.hypervisor.managed = managed at hdistinct hsingle
  cases managed with
  | nil => exact Nat.zero_le 1
  | cons m rest =>
    cases rest with
    | nil => exact Nat.le_refl 1
    | cons m' rest =>
      have hsame : m.id kind = m'.id kind :=
        hsingle m (.head _) m' (.tail _ (.head _))
      simp [hsame] at hdistinct

/-- In every run whose reconciles meet the conditions, at any moment of a further one: at
most one VM that was made for the object exists, none where a Create is issued, and no
Create is issued where the object that was read is an adopted one. -/
theorem create_only_when_gone (r : Reconciler) {trace : List LogEntry}
    (hreach : ((system r provider kind key).startingFrom (setting.Begins provider key)).Reach
      (fun _ _ choices log =>
        setting.orderly provider kind key choices log = true ∧ settled log = true) site trace)
    (hrun : (r.reconcile key).run ⟨Site.answer provider⟩ site [] choices = some out)
    (horderly : setting.orderly provider kind key choices out.log = true) :
    out.state.hypervisor.managed.length ≤ 1 ∧
    ∀ other req answer older, out.log = ⟨.request other (.create req), answer⟩ :: older →
      out.state.hypervisor.managed = [] ∧ ∀ v, Read key older v → vmIsAdopted v = false := by
  have hkept := (kept_of_reach r hreach).run r hrun horderly
  refine ⟨hkept.1.length_managed, ?_⟩
  intro other req answer older hlog
  have hsuffix : ⟨.request other (.create req), answer⟩ :: older <:+ out.log :=
    hlog ▸ suffix_refl out.log
  have hallowed : Allowed key older (.request other (.create req)) :=
    (reconcile_obeys r key).run_allowed hrun hsuffix
  obtain ⟨v, hread, -, -, harrivals, hwants⟩ := hallowed
  have hhonest : ∀ entry ∈ out.log, setting.honest provider entry = true := by
    simp only [Setting.orderly, Bool.and_eq_true, all_eq_true] at horderly
    exact horderly.2
  rw [hlog] at hkept hhonest
  have hwants' := hwants.mono (subset_cons_self ⟨.request other (.create req), answer⟩ older)
  constructor
  · exact hkept.1.wanted hhonest hread.cons ((arrivals_cons_none rfl).trans harrivals) hwants'
  · intro w hw
    have hsuits := hkept.1.steady.users w (hkept.1.read w hw.cons)
    cases hadopted : setting.adopted with
    | none =>
      rw [hsuits.2, hadopted]
      rfl
    | some adopted =>
      exact absurd (.head _) ((hkept.2 adopted hadopted).unasked other req answer)

end Runs

namespace Sample

/-! A Proxmox provider, an object made from an image, and a host without VMs. -/

def pve : ObjectKey := ⟨"infra", "pve"⟩

def key : ObjectKey := ⟨"blue", "web"⟩

def fromImage (labels : StringMap) : VirtualMachine where
  objectMeta := {
    name := key.name, ns := key.ns, uid := "8f14e45f", generation := 1, resourceVersion := 1
    finalizers := [virtualMachineFinalizer], labels }
  spec := { providerRef := { name := pve.name, ns := pve.ns }, imageRef := some { name := "base" } }

def proxmoxSite (labels : StringMap) : Site .proxmox where
  vms := .ofList [fromImage labels]
  hypervisor := .empty .proxmox

/-- Everything is well outside the site. PVE draws the VMID, does not find VMs, and writes
of the status conflict. -/
def pveAnswers (vmid : Int) : (c : Call) → Option (Answer c)
  | .getProvider _ => some (.ok { type := .proxmox })
  | .getClass _ => some (.ok {})
  | .getImage _ => some (.ok {})
  | .getProviderInstance _ => some none
  | .ensureImage _ _ _ => some (.ready (some {}))
  | .request _ _ => some none
  | .response _ _ => some none
  | .proxmox _ .getNextVMID => some (.ok vmid)
  | .proxmox _ .findNode => some (.ok "pve1")
  | .proxmox _ (.getVM _ _) => some (.error .vmNotFound)
  | .statusUpdate _ => some (some Site.conflictError)
  | _ => none

def drawing (vmid : Int) : Choice := { reply := .reports (pveAnswers vmid) }

/-- Create makes a VM under the VMID; the choice is for the write of the status. -/
def creates (vmid : Int) (write : Choice) : List Choice :=
  [cached] ++ replicate 9 (drawing vmid) ++ [done, drawing vmid, write]

/-- A status names a VM; Describe does not find it, and Create is called. The edits are
those before the object is read. -/
def recreates (edits : List Edit) : List Choice :=
  [{ edits, reply := .lagging 0 }] ++ replicate 10 (drawing 101)

def adoptedLabels : StringMap := [("virtrigaud.io/adopted", "true")]

/-- A VM on another node than the one FindNode answers, which the object adopts. -/
def adoptsLegacy : List Edit :=
  [.addMachine { name := "legacy", vmid := 200, node := "pve2" }, .adopt key "200"]

/-- Create after `recreates`; the ID of the new VM is written. -/
def replaces (edits : List Edit) : List Choice :=
  recreates edits ++ replicate 3 (drawing 101) ++ [done, drawing 101, done]

/-- The newest call is a Create request. -/
def createIssued : List LogEntry → Bool
  | ⟨.request _ (.create _), _⟩ :: _ => true
  | _ => false

theorem exists_of_createIssued {log : List LogEntry} (h : createIssued log = true) :
    ∃ other req answer older, log = ⟨.request other (.create req), answer⟩ :: older := by
  unfold createIssued at h
  split at h
  · exact ⟨_, _, _, _, rfl⟩
  · cases h

theorem proxmoxSite_init (r : Reconciler) (labels : StringMap) :
    (system r pve .proxmox key).init (proxmoxSite labels) :=
  ⟨⟨fromImage labels, rfl, rfl⟩, rfl⟩

end Sample

open Sample

/-- Two status writes that conflict leave two VMs for one object; and a VM that was
adopted on another node is replaced by a new one while it exists. -/
theorem create_while_one_exists :
    (∃ site trace, (system {} pve .proxmox key).Reach (fun _ _ _ _ => True)
      site trace ∧ 1 < site.hypervisor.managed.length) ∧
    ∃ site trace v, (system {} pve .proxmox key).Reach (fun _ _ _ _ => True)
      site trace ∧ site.vms.live key = some v ∧ vmIsAdopted v = true ∧
      v.status.id = "101" ∧ (site.hypervisor.find "200").isSome = true := by
  constructor
  · exact (system {} pve .proxmox key).exists_reach
      [creates 100 (drawing 100), creates 101 (drawing 101)]
      (proxmoxSite_init {} []) (fun _ _ _ hshows => hshows) (by decide +kernel)
  · obtain ⟨site, trace, hreach, ⟨v, hlive, hadopted, hid⟩, hstays⟩ :=
      (system {} pve .proxmox key).exists_reach_of_replay
      (P := fun site _ => (∃ v ∈ site.vms.live key, vmIsAdopted v = true ∧
        v.status.id = "101") ∧ (site.hypervisor.find "200").isSome = true)
      (fun _ _ _ _ => true) [replaces adoptsLegacy] (fun _ _ _ _ _ => trivial)
      (proxmoxSite_init {} adoptedLabels) (by decide +kernel)
    exact ⟨site, trace, v, hreach, hlive, hadopted, hid, hstays⟩

/-- A VM is created and recorded, and others remove it: Create is called, and nothing is
there. -/
theorem create_only_when_gone_sample : ∃ site trace choices out,
    ((system {} pve .proxmox key).startingFrom
      (Setting.Begins pve key { node := "pve1" })).Reach
      (fun _ _ choices log =>
        Setting.orderly pve .proxmox key { node := "pve1" } choices log = true ∧
          settled log = true) site trace ∧
    (({} : Reconciler).reconcile key).run ⟨Site.answer pve⟩ site [] choices =
      some out ∧
    site.hypervisor.managed.length = 1 ∧ out.state.hypervisor.managed = [] := by
  let setting : Setting := { node := "pve1" }
  let choices := recreates [.removeMachine "100"]
  have hbegins : setting.Begins pve key (proxmoxSite []) := by
    constructor
    · intro v hv
      cases hv
      exact ⟨rfl, rfl⟩
    · intro m hm
      cases hm
  obtain ⟨site, trace, hreach, hone, out, hrun, horderly, hcreates⟩ :=
    ((system {} pve .proxmox key).startingFrom
      (setting.Begins pve key)).exists_reach_of_replay
    (P := fun site _ => site.hypervisor.managed.length = 1 ∧
      ∃ out ∈ (({} : Reconciler).reconcile key).run ⟨Site.answer pve⟩ site [] choices,
        setting.orderly pve .proxmox key choices out.log = true ∧
          createIssued out.log = true)
    (fun _ _ choices log =>
      setting.orderly pve .proxmox key choices log && settled log)
    [creates 100 done] (fun _ _ _ _ h => Bool.and_eq_true_iff.mp h)
    ⟨proxmoxSite_init {} [], hbegins⟩ (by decide +kernel)
  have hgone := create_only_when_gone {} hreach hrun horderly
  obtain ⟨other, req, answer, older, hlog⟩ := exists_of_createIssued hcreates
  exact ⟨site, trace, choices, out, hreach, hrun, hone, (hgone.2 other req answer older hlog).1⟩

end Virtrigaud.VM
