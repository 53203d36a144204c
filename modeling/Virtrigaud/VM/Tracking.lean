import Virtrigaud.VM.Site

/-!
# Following the VMs of one object

Serialized reconciles of one VirtualMachine, and the conditions under which the status
keeps up with the hypervisor: reads are current, no call is carried out behind the
caller's back, queries are answered honestly, and a VM that was put on the hypervisor is
recorded before the reconcile ends. Then every VM that was made for the object is the
one its status names.
-/

namespace Virtrigaud.VM

open Effects Program Hypervisor VMStore Site List Option

variable {kind : ProviderType}

/-- Reconciles of one object, from its creation. A lost process loses no state. -/
def system (r : Reconciler) (provider : ObjectKey) (kind : ProviderType) (key : ObjectKey) :
    System Call Answer (Site kind) Choice Return where
  host := ⟨answer provider⟩
  program := r.reconcile key
  restart := id
  init site := (∃ v, site.vms.versions key = ⟨some v, []⟩ ∧ v.status = {}) ∧
    site.hypervisor.managed = []

/-- What stays the same during a run: the node that FindNode answers, and the VM that
the object adopts, if it is an adopted one. -/
structure Setting where
  node : String := ""
  adopted : Option String := none

section Conditions

variable (provider : ObjectKey) (kind : ProviderType) (key : ObjectKey) (setting : Setting)

/-- Only Proxmox places VMs on nodes. -/
def Setting.homely (node : String) : Bool :=
  decide (kind ≠ .proxmox) || decide (node = setting.node)

/-- The object keeps its provider and stays adopted or not; VMs stay on the node, and the adopted
one stays. Any other edit is admitted. -/
def Setting.admits : Edit → Bool
  | .createObject vm => vm.objectMeta.key ≠ key
  | .editObject vm => decide (vm.objectMeta.key ≠ key) ||
      (decide (providerKey vm = provider) && decide (vmIsAdopted vm = setting.adopted.isSome))
  | .deleteObject _ _ => true
  | .adopt other id => decide (other ≠ key) || setting.adopted.all (· = id)
  | .addMachine m => setting.homely kind m.node
  | .alterMachine _ _ node => setting.homely kind node
  | .removeMachine id => setting.adopted.all (· ≠ id)

/-- Reads are current, and a call whose caller sees a failure was not carried out. -/
def Reply.plain : Reply → Bool
  | .lagging lag => lag = 0
  | .lose _ => false
  | _ => true

/-- A property query fails only for a VM that does not exist, and FindNode answers the
node. -/
def Setting.honest : LogEntry → Bool
  | ⟨.vsphere other (.retrieve _), .error err⟩ =>
    decide (other ≠ provider) || decide (err.fault = some .managedObjectNotFound)
  | ⟨.proxmox other .findNode, .ok node⟩ =>
    decide (other ≠ provider) || decide (node = setting.node)
  | _ => true

def Setting.Admits (edits : List Edit) : Prop :=
  ∀ edit ∈ edits, setting.admits provider kind key edit = true

def Setting.Honest (log : List LogEntry) : Prop :=
  ∀ entry ∈ log, setting.honest provider entry = true

/-- The condition on what others do and answer in a reconcile. -/
def Setting.orderly (choices : List Choice) (log : List LogEntry) : Bool :=
  choices.all (fun choice => choice.reply.plain &&
    choice.edits.all (setting.admits provider kind key)) &&
  log.all (setting.honest provider)

end Conditions

/-- A status write that went through. -/
def records : LogEntry → Bool
  | ⟨.statusUpdate _, none⟩ => true
  | _ => false

/-- A VM was put on the hypervisor, and no status write went through since. -/
def unrecorded : List LogEntry → Bool
  | [] => false
  | entry :: older => !records entry && ((broughtUp entry).isSome || unrecorded older)

/-- No failure has kept a VM from being recorded, and no loss of the process. -/
def settled (log : List LogEntry) : Bool := !unrecorded log && !troubled log

variable {entry : LogEntry}

theorem settled_cons {log : List LogEntry} (h : settled (entry :: log) = true)
    (hrecords : records entry = false) : broughtUp entry = none ∧ settled log = true := by
  unfold settled at h ⊢
  simp only [unrecorded, troubled, hrecords, Bool.not_false, Bool.true_and, Bool.not_or,
    Bool.and_eq_true, Bool.not_eq_true', isSome_eq_false_iff, isNone_iff_eq_none] at h
  obtain ⟨⟨hup, hunrecorded⟩, htroubled, -⟩ := h
  simp [hup, hunrecorded, htroubled]

variable {m : Machine}

namespace Hypervisor

/-- No VM is made for an object: those that were there before may have gone. -/
def Shrinks (h h' : Hypervisor kind) : Prop :=
  ∀ m ∈ h'.managed, ∃ old ∈ h.managed, old.id kind = m.id kind

variable {h : Hypervisor kind}

theorem mem_managed :
    m ∈ h.managed ↔ m ∈ h.machines ∧ m.managed = true :=
  mem_filter

theorem Shrinks.refl (h : Hypervisor kind) : Shrinks h h := fun m hm => ⟨m, hm, rfl⟩

theorem shrinks_remove (h : Hypervisor kind) (id : String) : Shrinks h (h.remove id) := by
  intro m hm
  obtain ⟨hmem, hmanaged⟩ := mem_managed.mp hm
  exact ⟨m, mem_managed.mpr ⟨mem_of_mem_filter hmem, hmanaged⟩, rfl⟩

theorem altered_managed (id name node : String) (m : Machine) :
    (altered kind id name node m).managed = m.managed := by
  unfold altered
  split <;> rfl

theorem shrinks_alter (h : Hypervisor kind) (id name node : String) :
    Shrinks h (h.alter id name node) := by
  intro m hm
  obtain ⟨hmem, hmanaged⟩ := mem_managed.mp hm
  obtain ⟨old, hold, rfl⟩ := mem_map.mp hmem
  rw [altered_managed] at hmanaged
  exact ⟨old, mem_managed.mpr ⟨hold, hmanaged⟩, (altered_id id name node old).symm⟩

theorem shrinks_add {h' : Hypervisor kind} (hadd : h.add { m with managed := false } = some h') :
    Shrinks h h' := by
  intro m' hm'
  obtain ⟨hmem, hmanaged⟩ := mem_managed.mp hm'
  rw [(add_eq_some hadd).1] at hmem
  rcases mem_cons.mp hmem with rfl | hold
  · cases hmanaged
  · exact ⟨m', mem_managed.mpr ⟨hold, hmanaged⟩, rfl⟩

theorem managed_ne_empty (hm : m ∈ h.managed) :
    m.id kind ≠ "" :=
  (h.valid m (mem_managed.mp hm).1).1

/-- Where no VM was made for an object, none is after. -/
theorem Shrinks.nil {h' : Hypervisor kind} (hshrinks : Shrinks h h') (hnil : h.managed = []) :
    h'.managed = [] := by
  apply eq_nil_iff_forall_not_mem.mpr
  intro m hm
  obtain ⟨old, hold, -⟩ := hshrinks m hm
  rw [hnil] at hold
  cases hold

end Hypervisor

section Reconcile

variable {provider : ObjectKey} {key : ObjectKey} {setting : Setting} {site next : Site kind}
  {log : List LogEntry} {edits : List Edit}

/-- The VMs made for the object are the one that its status names. -/
def Tracked (key : ObjectKey) (site : Site kind) : Prop :=
  ∀ v, site.vms.live key = some v → ∀ m ∈ site.hypervisor.managed, m.id kind = v.status.id

/-- The object uses the provider and is an adopted one as the setting says. -/
def Suits (provider : ObjectKey) (setting : Setting) (v : VirtualMachine) : Prop :=
  providerKey v = provider ∧ vmIsAdopted v = setting.adopted.isSome

variable {v : VirtualMachine}

theorem Suits.congr {w : VirtualMachine} (h : Suits provider setting v)
    (hspec : w.spec = v.spec) (hlabels : w.objectMeta.labels = v.objectMeta.labels)
    (hkey : w.objectMeta.key = v.objectMeta.key) : Suits provider setting w := by
  have hns : w.objectMeta.ns = v.objectMeta.ns := congrArg ObjectKey.ns hkey
  constructor
  · unfold providerKey
    rw [hspec, hns]
    exact h.1
  · unfold vmIsAdopted
    rw [hlabels]
    exact h.2

/-- What the setting says of all versions and all VMs. -/
structure Steady (provider : ObjectKey) (key : ObjectKey) (setting : Setting) (site : Site kind) :
    Prop where
  users : ∀ v, some v ∈ (site.vms.versions key).all → Suits provider setting v
  home : ∀ m ∈ site.hypervisor.machines, setting.homely kind m.node = true

/-- A query has not found the VM under an ID. -/
def missing (provider : ObjectKey) (kind : ProviderType) (node id : String) : LogEntry → Prop
  | ⟨.vsphere other (.retrieve asked), .error _⟩ => other = provider ∧ asked = id
  | ⟨.proxmox other (.getVM on vmid), .error .vmNotFound⟩ =>
    other = provider ∧ (kind = .proxmox → on = node ∧ Go.atoi id = some vmid)
  | _ => False

/-- How the VMs that were made for the object relate to a reconcile that is under way. -/
structure Follows (provider : ObjectKey) (key : ObjectKey) (setting : Setting) (site : Site kind)
    (log : List LogEntry) : Prop where
  steady : Steady provider key setting site
  read : ∀ v, Read key log v → some v ∈ (site.vms.versions key).all
  single : ∀ m ∈ site.hypervisor.managed, ∀ m' ∈ site.hypervisor.managed, m.id kind = m'.id kind
  early : ∀ v, Read key log v → arrivals log = [] →
    ∀ m ∈ site.hypervisor.managed, m.id kind = v.status.id
  absent : ∀ v, Read key log v → arrivals log = [] →
    (∃ entry ∈ log, missing provider kind setting.node v.status.id entry) ∨ Requested v log →
    site.hypervisor.managed = []
  late : arrivals log ≠ [] → ∀ m ∈ site.hypervisor.managed,
    ∃ name, ⟨provider, m.id kind, name⟩ ∈ arrivals log
  tracked : settled log = true → Tracked key site

theorem Read.of_cons (h : Read key (entry :: log) v) :
    (log = [] ∧ entry = ⟨.getVM key, .ok v⟩) ∨ Read key log v := by
  cases log with
  | nil => exact .inl ⟨rfl, some.inj h⟩
  | cons older rest =>
    rw [Read, getLast?_cons_cons] at h
    exact .inr h

theorem Read.before (h : Read key (entry :: log) v)
    (hfirst : log = [] → ∀ v, entry ≠ ⟨.getVM key, .ok v⟩) : Read key log v := by
  rcases h.of_cons with ⟨hnil, heq⟩ | hold
  · exact absurd heq (hfirst hnil v)
  · exact hold

theorem Requested.of_cons (h : Requested v (entry :: log)) :
    (∃ other req, entry = ⟨.request other (.create req), none⟩) ∨ Requested v log := by
  obtain ⟨req, hname, hmem⟩ := h
  rcases mem_cons.mp hmem with heq | hold
  · exact .inl ⟨_, req, heq.symm⟩
  · exact .inr ⟨req, hname, hold⟩

variable {new : Option VirtualMachine}

section

variable (h : Steady provider key setting site)
include h

theorem Steady.put {other : ObjectKey} {hkey}
    (hnew : ∀ v, new = some v → other = key → Suits provider setting v) :
    Steady provider key setting { site with vms := site.vms.put other new hkey } where
  users := by
    intro v hv
    rcases mem_put hkey hv with ⟨heq, hlast⟩ | hold
    · exact hnew v hlast.symm heq.symm
    · exact h.users v hold
  home := h.home

theorem Steady.live (hlive : site.vms.live key = some v) : Suits provider setting v :=
  h.users v (mem_of_live _ hlive)

theorem Steady.hypervisor {hypervisor : Hypervisor kind}
    (hhome : ∀ m ∈ hypervisor.machines, setting.homely kind m.node = true) :
    Steady provider key setting { site with hypervisor } where
  users := h.users
  home := hhome

/-- Edits that the setting admits keep it. -/
theorem Steady.edited (hadmits : setting.Admits provider kind key edits)
    (hedit : Edited edits site next) : Steady provider key setting next := by
  cases hedit with
  | created hmem _ =>
    apply h.put
    intro v _ hkey
    exact absurd hkey (of_decide_eq_true (hadmits _ hmem))
  | @written vm old hkey hmem hlive =>
    apply h.put
    intro w hw hvm
    have hadmitted := hadmits _ hmem
    simp only [Setting.admits, hvm, ne_eq, not_true_eq_false, decide_false, Bool.false_or,
      Bool.and_eq_true, decide_eq_true_eq] at hadmitted
    have hsuits : Suits provider setting vm := hadmitted
    obtain ⟨-, hspec, hlabels, -⟩ := written_eq_some hw
    exact hsuits.congr hspec hlabels (hkey w hw)
  | @deleted other clock old hkey hlive =>
    apply h.put
    intro w hw hother
    subst hother
    obtain ⟨-, hspec, hlabels, -⟩ := deleted_eq_some hw
    exact (h.live hlive).congr hspec hlabels ((hkey w hw).trans (live_key _ hlive).symm)
  | adopted _ hlive _ _ _ =>
    apply h.put
    intro w hw hother
    subst hother
    cases hw
    exact (h.live hlive).congr rfl rfl rfl
  | added hmem hadd =>
    apply h.hypervisor
    rw [(add_eq_some hadd).1]
    exact forall_mem_cons.mpr ⟨hadmits _ hmem, h.home⟩
  | @altered id name node hmem =>
    apply h.hypervisor
    intro m hm
    obtain ⟨old, hold, rfl⟩ := mem_map.mp hm
    unfold altered
    split
    · exact hadmits _ hmem
    · exact h.home old hold
  | removed _ =>
    apply h.hypervisor
    intro m hm
    exact h.home m (mem_of_mem_filter hm)

end

/-- Others make no VM for the object. -/
theorem shrinks_edited (hedit : Edited edits site next) :
    site.hypervisor.Shrinks next.hypervisor := by
  cases hedit with
  | added _ hadd => exact shrinks_add hadd
  | altered _ => exact shrinks_alter _ _ _ _
  | removed _ => exact shrinks_remove _ _
  | _ => exact Shrinks.refl _

/-- A version with the same ID is tracked as the one before. -/
theorem Tracked.put {other : ObjectKey} {hkey} (h : Tracked key site)
    (hnew : ∀ v, new = some v → other = key →
      ∀ m ∈ site.hypervisor.managed, m.id kind = v.status.id) :
    Tracked key { site with vms := site.vms.put other new hkey } := by
  intro v hlive
  rcases live_put_cases hkey hlive with ⟨heq, hlast⟩ | hold
  · exact hnew v hlast heq
  · exact h v hold

theorem Tracked.shrinks {hypervisor : Hypervisor kind} (h : Tracked key site)
    (hshrinks : site.hypervisor.Shrinks hypervisor) :
    Tracked key { site with hypervisor } := by
  intro v hlive m hm
  obtain ⟨old, hold, hid⟩ := hshrinks m hm
  rw [← hid]
  exact h v hlive old hold

theorem Tracked.edited (h : Tracked key site)
    (hadmits : setting.Admits provider kind key edits)
    (hedit : Edited edits site next) : Tracked key next := by
  have hshrinks := shrinks_edited hedit
  cases hedit with
  | created hmem _ =>
    apply h.put
    intro v _ hkey
    exact absurd hkey (of_decide_eq_true (hadmits _ hmem))
  | written _ hlive =>
    apply h.put
    intro w hw hother
    rw [(written_eq_some hw).1]
    exact h _ (hother ▸ hlive)
  | deleted hlive =>
    apply h.put
    intro w hw hother
    rw [(deleted_eq_some hw).1]
    exact h _ (hother ▸ hlive)
  | adopted _ hlive _ hempty _ =>
    -- An object without an ID has no VM.
    apply h.put
    intro w hw hother m hm
    have hid := h _ (hother ▸ hlive) m hm
    rw [hempty] at hid
    exact absurd hid (managed_ne_empty hm)
  | added | altered | removed => exact h.shrinks hshrinks

variable {c : Call} {r : Answer c}

/-- A query that was answered honestly and has not found the VM: there is none. -/
theorem not_found_of_missing {id : String}
    (hsteady : Steady provider key setting site) (htruthful : site.truthful provider c r = true)
    (hhonest : setting.honest provider ⟨c, r⟩ = true)
    (hmissing : missing provider kind setting.node id ⟨c, r⟩) :
    ∀ m ∈ site.hypervisor.machines, m.id kind ≠ id := by
  intro m hm hid
  unfold missing at hmissing
  split at hmissing
  · rename_i other asked err heq
    cases heq
    obtain ⟨rfl, rfl⟩ := hmissing
    have hfault : err.fault = some .managedObjectNotFound := by
      simpa [Setting.honest] using hhonest
    have hnone : site.hypervisor.find asked = none := by
      have hanswer := (truthful_vsphere htruthful).2
      simpa [vcenterTruthful, hfault] using hanswer
    have hsome := isSome_find.mpr ⟨m, hm, hid⟩
    rw [hnone] at hsome
    cases hsome
  · rename_i other on vmid heq
    cases heq
    obtain ⟨rfl, hasked⟩ := hmissing
    obtain ⟨rfl, hanswer⟩ := truthful_proxmox htruthful
    obtain ⟨rfl, hvmid⟩ := hasked rfl
    -- The VM has the VMID that was asked for, and lives on the node that was asked.
    rw [← hid, (site.hypervisor.valid m hm).atoi] at hvmid
    obtain rfl := some.inj hvmid
    obtain ⟨found, hfound⟩ := isSome_iff_exists.mp
      (isSome_find.mpr ⟨m, hm, rfl⟩)
    have hnode := hsteady.home found (find_eq_some hfound).1
    have hnot : decide (found.node ≠ setting.node) = true := by
      rw [pveTruthful] at hanswer
      change (site.hypervisor.find (m.id .proxmox)).all _ = true at hanswer
      rw [hfound] at hanswer
      exact hanswer
    simp [Setting.homely] at hnode
    exact absurd hnode (of_decide_eq_true hnot)
  · exact hmissing

/-- Describe reports an existing VM as gone only after a query that has not found it. -/
theorem missing_of_gone (hgone : Gone v log) (hprovider : providerKey v = provider)
    (hhonest : setting.Honest provider log)
    (hm : m ∈ site.hypervisor.machines) (hid : m.id kind = v.status.id) :
    ∃ entry ∈ log, missing provider kind setting.node v.status.id entry := by
  cases hgone with
  | vsphere err hmem => exact ⟨_, hmem, hprovider, rfl⟩
  | proxmox vmid node hrefers hmem =>
    refine ⟨_, hmem, hprovider, fun hkind => ?_⟩
    subst hkind
    rcases hrefers with ⟨hvmid, hnode⟩ | ⟨hnone, -⟩
    · have hanswered := hhonest _ hnode
      simp only [Setting.honest, hprovider, ne_eq, not_true_eq_false, decide_false,
        Bool.false_or, decide_eq_true_eq] at hanswered
      exact ⟨hanswered, hvmid⟩
    · rw [← hid, (site.hypervisor.valid m hm).atoi] at hnone
      cases hnone

/-- An entry that is no read, no request, no answer about a VM and no status write. -/
structure Unremarkable (provider : ObjectKey) (kind : ProviderType) (e : LogEntry) : Prop where
  up : broughtUp e = none
  read : ∀ key v, e ≠ ⟨.getVM key, .ok v⟩
  missing : ∀ node id, ¬ missing provider kind node id e
  request : ∀ other req, e ≠ ⟨.request other (.create req), none⟩
  records : records e = false

theorem unremarkable_of_takenDown {target : ObjectKey × String}
    (htaken : takenDown c = some target) (hup : broughtUp ⟨c, r⟩ = none) :
    Unremarkable provider kind ⟨c, r⟩ := by
  unfold takenDown at htaken
  split at htaken
  case h_4 => cases htaken
  all_goals exact ⟨hup, fun _ _ => nofun, fun _ _ => id, fun _ _ => nofun, rfl⟩

/-- A VM is put on the hypervisor only for a Create that has reached its provider. -/
theorem mayBringUp_of_allowed {sighting : Sighting} (hallowed : Allowed key log c)
    (hup : broughtUp ⟨c, r⟩ = some sighting) :
    ∃ v, Read key log v ∧ sighting.provider = providerKey v ∧ MayBringUp v log sighting.name ∧
      ∀ node, placedOn c = some node → FoundNode v log node := by
  unfold broughtUp at hup
  split at hup
  case h_5 => cases hup
  all_goals
    rename_i heq
    cases heq
    cases hup
    obtain ⟨v, hread, hprovider, hmay⟩ := hallowed
  iterate 2 exact ⟨v, hread, hprovider, hmay, nofun⟩
  all_goals exact ⟨v, hread, hprovider, hmay.1, fun _ hnode => some.inj hnode ▸ hmay.2⟩

section

variable (h : Follows provider key setting site log)
include h

/-- Others only take VMs away, and add versions. -/
theorem Follows.mono
    (hsteady : Steady provider key setting next) (hextends : Extends site next)
    (hshrinks : site.hypervisor.Shrinks next.hypervisor)
    (htracked : settled log = true → Tracked key next) :
    Follows provider key setting next log where
  steady := hsteady
  read v hread := hextends.versions key (h.read v hread)
  single m hm m' hm' := by
    obtain ⟨old, hold, hid⟩ := hshrinks m hm
    obtain ⟨old', hold', hid'⟩ := hshrinks m' hm'
    rw [← hid, ← hid']
    exact h.single old hold old' hold'
  early v hread harrivals m hm := by
    obtain ⟨old, hold, hid⟩ := hshrinks m hm
    rw [← hid]
    exact h.early v hread harrivals old hold
  absent v hread harrivals hevidence :=
    hshrinks.nil (h.absent v hread harrivals hevidence)
  late harrivals m hm := by
    obtain ⟨old, hold, hid⟩ := hshrinks m hm
    rw [← hid]
    exact h.late harrivals old hold
  tracked := htracked

theorem Follows.edited (hadmits : setting.Admits provider kind key edits)
    (hedit : Edited edits site next) : Follows provider key setting next log :=
  h.mono (h.steady.edited hadmits hedit) hedit.extends (shrinks_edited hedit)
    fun hsettled => (h.tracked hsettled).edited hadmits hedit

/-- Where a VM is wanted, none that was made for the object is left. -/
theorem Follows.wanted (hhonest : setting.Honest provider log)
    (hread : Read key log v) (harrivals : arrivals log = []) (hwants : WantsVM v log) :
    site.hypervisor.managed = [] := by
  apply eq_nil_iff_forall_not_mem.mpr
  intro m hm
  have hid := h.early v hread harrivals m hm
  rcases hwants.2 with ⟨hempty, -⟩ | ⟨-, hgone⟩
  · exact managed_ne_empty hm (hid.trans hempty)
  · have hprovider := (h.steady.users v (h.read v hread)).1
    have hmissing := missing_of_gone hgone hprovider hhonest (mem_managed.mp hm).1 hid
    rw [h.absent v hread harrivals (.inl hmissing)] at hm
    cases hm

/-- A call that puts no VM on the hypervisor. What it tells may show that none is left. -/
theorem Follows.cons {e : LogEntry} (hup : broughtUp e = none)
    (hfirst : log = [] → ∀ v, e ≠ ⟨.getVM key, .ok v⟩)
    (hmissing : ∀ v, Read key log v → arrivals log = [] →
      missing provider kind setting.node v.status.id e → site.hypervisor.managed = [])
    (hrequest : ∀ v, Read key log v → arrivals log = [] → Requested v (e :: log) →
      Requested v log ∨ site.hypervisor.managed = [])
    (htracked : settled (e :: log) = true → Tracked key site) :
    Follows provider key setting site (e :: log) := by
  have harrivals : arrivals (e :: log) = arrivals log := arrivals_cons_none hup
  have hread := fun v (hv : Read key (e :: log) v) => hv.before hfirst
  constructor
  · exact h.steady
  · exact fun v hv => h.read v (hread v hv)
  · exact h.single
  · intro v hv hnone
    rw [harrivals] at hnone
    exact h.early v (hread v hv) hnone
  · intro v hv hnone hevidence
    rw [harrivals] at hnone
    rcases hevidence with ⟨entry, hmem, hentry⟩ | hasked
    · rcases mem_cons.mp hmem with rfl | hold
      · exact hmissing v (hread v hv) hnone hentry
      · exact h.absent v (hread v hv) hnone (.inl ⟨entry, hold, hentry⟩)
    · rcases hrequest v (hread v hv) hnone hasked with hold | hnil
      · exact h.absent v (hread v hv) hnone (.inr hold)
      · exact hnil
  · rw [harrivals]
    exact h.late
  · exact htracked

theorem Follows.unremarkable {e : LogEntry} (he : Unremarkable provider kind e) :
    Follows provider key setting site (e :: log) := by
  refine h.cons he.up (fun _ v => he.read key v) ?_ ?_ ?_
  · intro v _ _ hmissing
    exact absurd hmissing (he.missing _ _)
  · intro v _ _ hasked
    rcases hasked.of_cons with ⟨other, req, heq⟩ | hold
    · exact absurd heq (he.request other req)
    · exact .inl hold
  · intro hsettled
    exact h.tracked (settled_cons hsettled he.records).2

/-- A call that is refused, or a query. -/
theorem Follows.refused (hallowed : Allowed key log c)
    (hhonest : setting.Honest provider (⟨c, r⟩ :: log))
    (htruthful : site.truthful provider c r = true) :
    Follows provider key setting site (⟨c, r⟩ :: log) := by
  obtain ⟨hhonest, hbefore⟩ := forall_mem_cons.mp hhonest
  refine h.cons ?_ ?_ ?_ ?_ ?_
  · cases hup : broughtUp ⟨c, r⟩ with
    | none => rfl
    | some sighting =>
      obtain ⟨v, hread, hprovider, -⟩ := mayBringUp_of_allowed hallowed hup
      rw [(h.steady.users v (h.read v hread)).1] at hprovider
      exact absurd hprovider (not_broughtUp_of_truthful htruthful hup)
  · intro _ v heq
    cases heq
    cases htruthful
  · intro v hread harrivals hmissing
    apply eq_nil_iff_forall_not_mem.mpr
    intro m hm
    exact not_found_of_missing h.steady htruthful hhonest hmissing m
      (mem_managed.mp hm).1 (h.early v hread harrivals m hm)
  · intro v hread harrivals hasked
    rcases hasked.of_cons with ⟨other, req, heq⟩ | hold
    · cases heq
      obtain ⟨v', hread', -, hrpc⟩ := hallowed
      obtain ⟨-, rfl⟩ := hread.unique hread'
      exact .inr (h.wanted hbefore hread harrivals hrpc.2.2)
    · exact .inl hold
  · intro hsettled
    have hrecords : records ⟨c, r⟩ = false := by
      unfold records
      split
      · rename_i heq
        cases heq
        cases htruthful
      · rfl
    exact h.tracked (settled_cons hsettled hrecords).2

/-- The ID that a status write persists is that of the VM made for the object, unless a
failure has come between. -/
theorem Follows.status {id : String}
    (hhonest : setting.Honest provider log) (hread : Read key log v)
    (hid : IdSource v log id) (htroubled : troubled log = false) :
    ∀ m ∈ site.hypervisor.managed, m.id kind = id := by
  intro m hm
  have huntroubled : Accounted log → arrivals log = [] := by
    intro haccounted
    rcases haccounted with hnone | htroubled'
    · exact hnone
    · rw [htroubled] at htroubled'
      cases htroubled'
  cases hid with
  | kept haccounted => exact h.early v hread (huntroubled haccounted) m hm
  | forgotten hgone haccounted =>
    have harrivals := huntroubled haccounted
    have hprovider := (h.steady.users v (h.read v hread)).1
    have hmissing := missing_of_gone hgone hprovider hhonest (mem_managed.mp hm).1
      (h.early v hread harrivals m hm)
    rw [h.absent v hread harrivals (.inl hmissing)] at hm
    cases hm
  | answered hanswered =>
    rcases hanswered with ⟨harrivals, hasked, -⟩ | hmade
    · rw [h.absent v hread harrivals (.inr hasked)] at hm
      cases hm
    · obtain ⟨name, hmem⟩ := h.late (by rw [hmade]; exact cons_ne_nil _ _) m hm
      rw [hmade] at hmem
      exact congrArg Sighting.id (mem_singleton.mp hmem)

/-- A write of metadata by the controller keeps labels, spec and status. -/
theorem Follows.written {vm old : VirtualMachine} {hkey}
    (hallowed : Allowed key log (.updateVM vm))
    (hlive : site.vms.live vm.objectMeta.key = some old) :
    Follows provider key setting
      { site with vms := site.vms.put vm.objectMeta.key (VMStore.written vm old) hkey }
      (⟨.updateVM vm, none⟩ :: log) := by
  obtain ⟨v, hread, hspec, finalizers, hmeta⟩ := hallowed
  have hsuits : Suits provider setting vm := by
    refine (h.steady.users v (h.read v hread)).congr hspec ?_ ?_
    · rw [hmeta]
    · rw [hmeta]
      rfl
  have hfollows : Follows provider key setting
      { site with vms := site.vms.put vm.objectMeta.key (VMStore.written vm old) hkey } log := by
    refine h.mono ?_ extends_put (Shrinks.refl _) ?_
    · apply h.steady.put
      intro w hw _
      obtain ⟨-, hspec', hlabels, -⟩ := VMStore.written_eq_some hw
      exact hsuits.congr hspec' hlabels (hkey w hw)
    · intro hsettled
      apply (h.tracked hsettled).put
      intro w hw hother
      rw [(VMStore.written_eq_some hw).1]
      exact h.tracked hsettled _ (hother ▸ hlive)
  exact hfollows.unremarkable ⟨rfl, fun _ _ => nofun, fun _ _ => id, fun _ _ => nofun, rfl⟩

/-- A status write records what was made for the object. -/
theorem Follows.statusWritten {vm old : VirtualMachine} {hkey}
    (hallowed : Allowed key log (.statusUpdate vm))
    (hhonest : setting.Honest provider log)
    (hlive : site.vms.live vm.objectMeta.key = some old) :
    Follows provider key setting
      { site with
        vms := site.vms.put vm.objectMeta.key (some (withStatus vm.status old)) hkey }
      (⟨.statusUpdate vm, none⟩ :: log) := by
  obtain ⟨v, hread, hmeta, -, hid⟩ := hallowed
  have hvm : vm.objectMeta.key = key := by
    rw [hmeta]
    exact site.vms.keyed key v (h.read v hread)
  have htracked : troubled log = false → Tracked key { site with
      vms := site.vms.put vm.objectMeta.key (some (withStatus vm.status old)) hkey } := by
    intro htroubled w hw m hm
    rw [← hvm, live_put_self] at hw
    cases hw
    exact h.status hhonest hread hid htroubled m hm
  have hfollows : Follows provider key setting { site with
      vms := site.vms.put vm.objectMeta.key (some (withStatus vm.status old)) hkey }
      log := by
    refine h.mono ?_ extends_put (Shrinks.refl _) ?_
    · apply h.steady.put
      intro w hw hother
      have hold : site.vms.live key = some old := hother ▸ hlive
      cases hw
      exact (h.steady.live hold).congr rfl rfl rfl
    · intro hsettled
      unfold settled at hsettled
      apply htracked
      simp only [Bool.and_eq_true, Bool.not_eq_true'] at hsettled
      exact hsettled.2
  refine hfollows.cons rfl (fun _ _ => nofun) (fun _ _ _ => False.elim) ?_ ?_
  · intro w _ _ hasked
    rcases hasked.of_cons with ⟨_, _, heq⟩ | hold
    · cases heq
    · exact .inl hold
  · intro hsettled
    apply htracked
    simp only [settled, troubled, Bool.and_eq_true, Bool.not_eq_true', Bool.or_eq_false_iff]
      at hsettled
    exact hsettled.2.1

/-- The Create that was asked for puts a VM on an empty place. -/
theorem Follows.brought {hypervisor : Hypervisor kind}
    (hallowed : Allowed key log c) (hhonest : setting.Honest provider log)
    (hup : broughtUp ⟨c, r⟩ = some ⟨provider, m.id kind, m.name⟩)
    (hplaced : kind = .proxmox → placedOn c = some m.node)
    (hadd : site.hypervisor.add m = some hypervisor) :
    Follows provider key setting { site with hypervisor } (⟨c, r⟩ :: log) := by
  obtain ⟨v, hread, hprovider, ⟨-, harrivals, hasked⟩, hnode⟩ := mayBringUp_of_allowed hallowed hup
  have hnone := h.absent v hread harrivals (.inr hasked)
  have hmachines := (add_eq_some hadd).1
  have hmanaged : ∀ m' ∈ hypervisor.managed, m' = m := by
    intro m' hm'
    obtain ⟨hmem, hyes⟩ := mem_managed.mp hm'
    rw [hmachines] at hmem
    rcases mem_cons.mp hmem with heq | hold
    · exact heq
    · have hm'' : m' ∈ site.hypervisor.managed := mem_managed.mpr ⟨hold, hyes⟩
      rw [hnone] at hm''
      cases hm''
  have hafter : arrivals (⟨c, r⟩ :: log) = [⟨provider, m.id kind, m.name⟩] := by
    rw [arrivals_cons, hup, harrivals]
  have hne : arrivals (⟨c, r⟩ :: log) ≠ [] := by
    rw [hafter]
    exact cons_ne_nil _ _
  constructor
  · apply h.steady.hypervisor
    rw [hmachines]
    refine forall_mem_cons.mpr ⟨?_, h.steady.home⟩
    by_cases hkind : kind = .proxmox
    · have hanswered := hhonest _ (hnode _ (hplaced hkind))
      simp only [Setting.honest, ← hprovider, ne_eq, not_true_eq_false, decide_false,
        Bool.false_or] at hanswered
      simp only [Setting.homely, hanswered, Bool.or_true]
    · simp [Setting.homely, hkind]
  · intro w hw
    rcases hw.of_cons with ⟨-, heq⟩ | hold
    · cases heq
      cases hup
    · exact h.read w hold
  · intro m' hm' m'' hm''
    rw [hmanaged m' hm', hmanaged m'' hm'']
  · intro w _ hnil
    exact absurd hnil hne
  · intro w _ hnil
    exact absurd hnil hne
  · intro _ m' hm'
    rw [hafter, hmanaged m' hm']
    exact ⟨m.name, mem_singleton.mpr rfl⟩
  · intro hsettled
    have hrecords : records ⟨c, r⟩ = false := by
      unfold records
      split
      · rename_i heq
        cases heq
        cases hup
      · rfl
    have hnot := (settled_cons hsettled hrecords).1
    rw [hup] at hnot
    cases hnot

/-- What a call does that is carried out. -/
theorem Follows.carried {ref : String} (hallowed : Allowed key log c)
    (hhonest : setting.Honest provider (⟨c, r⟩ :: log))
    (hcarried : Carried provider site ref ⟨c, r⟩ next) :
    Follows provider key setting next (⟨c, r⟩ :: log) := by
  have hbefore := (forall_mem_cons.mp hhonest).2
  cases hcarried with
  | refused htruthful => exact h.refused hallowed hhonest htruthful
  | written hlive => exact h.written hallowed hlive
  | statusWritten hlive => exact h.statusWritten hallowed hbefore hlive
  | brought _ hup hplaced hadd => exact h.brought hallowed hbefore hup hplaced hadd
  | took htaken hup =>
    have hshrinks := shrinks_remove site.hypervisor
    refine (h.mono ?_ ?_ (hshrinks _) ?_).unremarkable (unremarkable_of_takenDown htaken hup)
    · apply h.steady.hypervisor
      intro m hm
      exact h.steady.home m (mem_of_mem_filter hm)
    · exact extends_hypervisor (Subset.refl _)
    · intro hsettled
      exact (h.tracked hsettled).shrinks (hshrinks _)

end

section

variable {answer : Except GoError VirtualMachine}
  (hread : site.readLagging 0 (.getVM key) = some answer)
include hread

/-- A current read answers the live version. -/
theorem live_of_read (hv : Read key [⟨.getVM key, answer⟩] v) : site.vms.live key = some v := by
  have hanswer : answer = .ok v := by
    cases some.inj hv
    rfl
  subst hanswer
  simp only [readLagging] at hread
  obtain ⟨found, hfound, hanswer⟩ := map_eq_some_iff.mp hread
  have hcurrent : found = site.vms.live key := (some.inj hfound).symm
  cases found with
  | none => cases hanswer
  | some w =>
    cases hanswer
    exact hcurrent.symm

/-- A current read: the VMs made for the object are under the ID that was read. -/
theorem Follows.getVM (h : Follows provider key setting site []) :
    Follows provider key setting site [⟨.getVM key, answer⟩] := by
  have hlive : ∀ v, Read key [⟨.getVM key, answer⟩] v → site.vms.live key = some v :=
    fun v => live_of_read hread
  have htracked : Tracked key site := h.tracked rfl
  constructor
  · exact h.steady
  · exact fun v hv => mem_of_live _ (hlive v hv)
  · exact h.single
  · exact fun v hv _ => htracked v (hlive v hv)
  · intro v _ _ hevidence
    rcases hevidence with ⟨entry, hmem, hentry⟩ | ⟨req, -, hmem⟩
    · obtain rfl := mem_singleton.mp hmem
      exact False.elim hentry
    · cases mem_singleton.mp hmem
  · intro hne
    exact absurd rfl hne
  · exact fun _ => htracked

end

/-- One answered call of a reconcile under the conditions of the setting. -/
theorem Follows.answer {choice : Choice}
    (h : Follows provider key setting site log) (hallowed : Allowed key log c)
    (hplain : choice.reply.plain = true)
    (hadmits : setting.Admits provider kind key choice.edits)
    (hhonest : setting.Honest provider (⟨c, r⟩ :: log))
    (hanswer : site.answer provider c choice = some (r, next)) :
    Follows provider key setting next (⟨c, r⟩ :: log) := by
  have hedited : Follows provider key setting (choice.edits.foldl applyEdit site) log :=
    edits_induct (P := fun site => Follows provider key setting site log) h
      fun _ _ hbefore hedit => hbefore.edited hadmits hedit
  rcases answer_cases hanswer with ⟨lag, hreply, hread, rfl⟩ | hcarried | ⟨_, _, hreply, _⟩
  · rw [hreply] at hplain
    obtain rfl : lag = 0 := of_decide_eq_true hplain
    cases c with
    | getVM other =>
      obtain ⟨rfl, rfl⟩ := hallowed
      exact hedited.getVM hread
    | _ => cases hread
  · exact hedited.carried hallowed hhonest hcarried
  · rw [hreply] at hplain
    cases hplain

end Reconcile

end Virtrigaud.VM
