import Virtrigaud.Effects.Threads
import Virtrigaud.VM.Site

/-!
# VirtualMachines that share a hypervisor

Any number of workers reconcile all VirtualMachines of a cluster. The ID in a status was
presented by the provider under the name of the object: Create answers a VM of that name
if there is one, whoever it was made for. Objects with different names therefore never
hold one ID, and those of the same name in two namespaces may.
-/

namespace Virtrigaud.VM

open Effects Site List Option

/-- The VMs that an answer presents. -/
def sightings : LogEntry → List Sighting
  | ⟨.libvirt provider .listDomains, .ok domains⟩ => domains.map fun name => ⟨provider, name, name⟩
  | ⟨.vsphere provider (.findVirtualMachine name), .ok ref⟩ => [⟨provider, ref, name⟩]
  | ⟨.proxmox provider (.getVM _ vmid), .ok vm⟩ => [⟨provider, Go.formatInt vmid, vm.name⟩]
  | entry => (broughtUp entry).toList

variable {sighting : Sighting}

theorem sightings_of_broughtUp {entry : LogEntry} (h : broughtUp entry = some sighting) :
    sightings entry = [sighting] := by
  unfold sightings
  split
  · cases h
  · cases h
  · cases h
  · rw [h]
    rfl

variable {log : List LogEntry} {v : VirtualMachine}

/-- The ID that Create answers was presented under the name of the object. -/
theorem CreateAnswered.sighted {id : String} (h : CreateAnswered v log id) :
    ∃ entry ∈ log, ⟨providerKey v, id, v.objectMeta.name⟩ ∈ sightings entry := by
  rcases h with ⟨-, -, hfound⟩ | hmade
  · cases hfound with
    | libvirt domains hname hmem => exact ⟨_, hmem, mem_map_of_mem hname⟩
    | vsphere _ hmem => exact ⟨_, hmem, mem_singleton.mpr rfl⟩
    | proxmox node vmid vm hname hmem =>
      refine ⟨_, hmem, mem_singleton.mpr ?_⟩
      rw [← hname]
  · have harrived : ⟨providerKey v, id, v.objectMeta.name⟩ ∈ arrivals log := by
      rw [hmade]
      exact mem_singleton.mpr rfl
    obtain ⟨entry, hmem, hentry⟩ := mem_filterMap.mp harrived
    refine ⟨entry, hmem, ?_⟩
    rw [sightings_of_broughtUp hentry]
    exact mem_singleton.mpr rfl

variable {c : Call} {r : Answer c} {choice : Choice}

namespace Site

variable {kind : ProviderType} {provider : ObjectKey} {site next : Site kind} {edits : List Edit}

theorem truthful_sighted (h : site.truthful provider c r = true)
    (hmem : sighting ∈ sightings ⟨c, r⟩) (hprovider : sighting.provider = provider) :
    (sighting.id, sighting.name) ∈ site.hypervisor.records := by
  unfold sightings at hmem
  split at hmem
  · rename_i other domains heq
    cases heq
    obtain ⟨name, hname, rfl⟩ := mem_map.mp hmem
    cases hprovider
    obtain ⟨rfl, hlisted⟩ := truthful_libvirt h
    obtain rfl := of_decide_eq_true hlisted
    obtain ⟨m, hm, rfl⟩ := mem_map.mp hname
    exact site.hypervisor.recorded m hm
  · rename_i other name ref heq
    cases heq
    obtain rfl := mem_singleton.mp hmem
    cases hprovider
    obtain ⟨m, hfind, hname⟩ := (any_eq_true _ _).mp (truthful_vsphere h).2
    obtain rfl := of_decide_eq_true hname
    exact Hypervisor.recorded_of_find hfind
  · rename_i other node vmid vm heq
    cases heq
    obtain rfl := mem_singleton.mp hmem
    cases hprovider
    obtain ⟨m, hfind, hname⟩ := (any_eq_true _ _).mp (truthful_proxmox h).2
    have hname' : m.name = vm.name := (of_decide_eq_true hname).2
    rw [← hname']
    exact Hypervisor.recorded_of_find hfind
  · exact absurd hprovider (not_broughtUp_of_truthful h (mem_toList.mp hmem))

/-- A call that takes a VM down presents none. -/
theorem sightings_of_takenDown {target : ObjectKey × String} (h : takenDown c = some target) :
    sightings ⟨c, r⟩ = [] := by
  unfold takenDown at h
  split at h
  · rfl
  · rfl
  · rfl
  · cases h

/-- Everything that an answer presents is on record. -/
theorem answer_sighted (h : site.answer provider c choice = some (r, next))
    (hmem : sighting ∈ sightings ⟨c, r⟩) (hprovider : sighting.provider = provider) :
    (sighting.id, sighting.name) ∈ next.hypervisor.records := by
  rcases answer_cases h with ⟨lag, -, hread, rfl⟩ | hcarried | ⟨_, _, _, htruthful, hcarried⟩
  · cases c with
    | getVM key => cases hmem
    | _ => cases hread
  · cases hcarried with
    | refused htruthful => exact truthful_sighted htruthful hmem hprovider
    | written | statusWritten => cases hmem
    | brought hbrings hup _ hadd =>
      rw [sightings_of_broughtUp hup] at hmem
      obtain rfl := mem_singleton.mp hmem
      rw [(Hypervisor.add_eq_some hadd).2]
      exact .head _
    | took htaken hup =>
      rw [sightings_of_takenDown htaken] at hmem
      cases hmem
  · exact hcarried.extends.records (truthful_sighted htruthful hmem hprovider)

end Site

variable {key : ObjectKey}

section Names

variable {kind : ProviderType} {provider : ObjectKey} {site next : Site kind} {edits : List Edit}

/-- An ID that an object under the key may hold: one that has stood for its name, unless
the object was adopted or used another provider. -/
def Named (provider : ObjectKey) (site : Site kind) (key : ObjectKey) (id : String) : Prop :=
  id = "" ∨ (id, key.name) ∈ site.hypervisor.records ∨
    ∃ u, some u ∈ (site.vms.versions key).all ∧ (vmIsAdopted u = true ∨ providerKey u ≠ provider)

theorem Named.mono {id : String} (h : Named provider site key id) (hextends : Extends site next) :
    Named provider next key id := by
  rcases h with hempty | hrecorded | ⟨u, hu, hother⟩
  · exact .inl hempty
  · exact .inr (.inl (hextends.records hrecorded))
  · exact .inr (.inr ⟨u, hextends.versions key hu, hother⟩)

/-- Every object holds such an ID, in all of its versions. -/
def AllNamed (provider : ObjectKey) (site : Site kind) : Prop :=
  ∀ key v, some v ∈ (site.vms.versions key).all → Named provider site key v.status.id

variable (h : AllNamed provider site)
include h

theorem AllNamed.hypervisor (hextends : Extends site next) (hvms : next.vms = site.vms) :
    AllNamed provider next := by
  intro key v hv
  rw [hvms] at hv
  exact (h key v hv).mono hextends

theorem AllNamed.put {new : Option VirtualMachine} {hkey}
    (hnew : ∀ v, new = some v → Named provider site key v.status.id) :
    AllNamed provider { site with vms := site.vms.put key new hkey } := by
  intro other v hv
  rcases VMStore.mem_put hkey hv with ⟨rfl, hlast⟩ | hold
  · exact (hnew v hlast.symm).mono extends_put
  · exact (h other v hold).mono extends_put

theorem AllNamed.edited (hedit : Edited edits site next) : AllNamed provider next := by
  cases hedit with
  | created _ _ =>
    apply h.put
    intro v hv
    cases hv
    exact .inl rfl
  | written _ hlive =>
    apply h.put
    intro v hv
    rw [(VMStore.written_eq_some hv).1]
    exact h _ _ (VMStore.mem_of_live _ hlive)
  | deleted hlive =>
    apply h.put
    intro v hv
    rw [(VMStore.deleted_eq_some hv).1]
    exact h _ _ (VMStore.mem_of_live _ hlive)
  | adopted _ hlive hadopted _ _ =>
    apply h.put
    intro v hv
    exact .inr (.inr ⟨_, VMStore.mem_of_live _ hlive, .inl hadopted⟩)
  | added _ hadd => exact h.hypervisor (extends_add hadd) rfl
  | altered hmem => exact h.hypervisor (Edited.altered hmem).extends rfl
  | removed hmem => exact h.hypervisor (Edited.removed hmem).extends rfl

/-- A status write is the only call that gives an object another ID. -/
theorem AllNamed.carried {ref : String} (hcarried : Carried provider site ref ⟨c, r⟩ next)
    (hstatus : ∀ vm, c = .statusUpdate vm → Named provider site vm.objectMeta.key vm.status.id) :
    AllNamed provider next := by
  have hextends := hcarried.extends
  cases hcarried with
  | refused => exact h
  | written hlive =>
    apply h.put
    intro v hv
    rw [(VMStore.written_eq_some hv).1]
    exact h _ _ (VMStore.mem_of_live _ hlive)
  | statusWritten hlive =>
    apply h.put
    intro v hv
    cases hv
    exact hstatus _ rfl
  | brought | took => exact h.hypervisor hextends rfl

theorem AllNamed.answer
    (hstatus : ∀ vm, c = .statusUpdate vm → Named provider site vm.objectMeta.key vm.status.id)
    (hanswer : site.answer provider c choice = some (r, next)) : AllNamed provider next := by
  have hedited : AllNamed provider (choice.edits.foldl applyEdit site) :=
    edits_induct h fun _ _ hbefore hedit => hbefore.edited hedit
  have hstatus' := fun vm hc => (hstatus vm hc).mono (edits_extend site choice.edits)
  rcases answer_cases hanswer with ⟨_, _, _, rfl⟩ | hcarried | ⟨_, _, _, _, hcarried⟩
  · exact hedited
  · exact hedited.carried hcarried hstatus'
  · exact hedited.carried hcarried hstatus'

end Names

/-- The workers of a manager and the site they share. -/
abbrev Workers (kind : ProviderType) (ι : Type) : Type := Threads Call Answer (Site kind) Return ι

/-- The workers reconcile VirtualMachines, in any order and interleaved in any way. -/
def manage {kind : ProviderType} {ι : Type} [DecidableEq ι] (r : Reconciler)
    (provider : ObjectKey) (workers : Workers kind ι) (moves : List (Move ι ObjectKey Choice)) :
    Option (Workers kind ι) :=
  workers.run ⟨answer provider⟩ r.reconcile moves

/-- Provider and ID of the VM that a Delete switches off or removes. -/
def strikes : Call → Option (ObjectKey × String)
  | .libvirt provider (.destroyDomain id) => some (provider, id)
  | .libvirt provider (.undefineDomain id) => some (provider, id)
  | .vsphere provider (.powerOff id) => some (provider, id)
  | .vsphere provider (.destroy id) => some (provider, id)
  | _ => none

theorem strikes_of_allowed {target : ObjectKey × String} (hallowed : Allowed key log c)
    (h : strikes c = some target) :
    ∃ v, Read key log v ∧ MayTakeDown v target.2 := by
  unfold strikes at h
  split at h
  case h_5 => cases h
  all_goals
    cases h
    obtain ⟨v, hread, -, hmay⟩ := hallowed
    exact ⟨v, hread, hmay⟩

/-- The object that a reconcile works on, by its log. -/
def readKey (log : List LogEntry) : Option ObjectKey :=
  match log.getLast? with
  | some ⟨.getVM key, .ok _⟩ => some key
  | _ => none

theorem Read.mem (h : Read key log v) :
    (⟨.getVM key, .ok v⟩ : LogEntry) ∈ log :=
  mem_of_getLast? h

section Logs

variable {ι : Type} [DecidableEq ι] {logs : ι → List LogEntry} {i j : ι} {entry newest : LogEntry}

theorem mem_of_mem_update_nil (h : entry ∈ Function.update logs i [] j) : entry ∈ logs j := by
  by_cases hj : j = i
  · subst hj
    rw [Function.update_self] at h
    cases h
  · rwa [Function.update_of_ne hj] at h

theorem mem_of_mem_update_cons (h : entry ∈ Function.update logs i (newest :: logs i) j) :
    entry = newest ∨ entry ∈ logs j := by
  by_cases hj : j = i
  · subst hj
    rw [Function.update_self] at h
    exact mem_cons.mp h
  · rw [Function.update_of_ne hj] at h
    exact .inr h

end Logs

/-- What holds of the site, the logs of all workers and the trace. -/
structure Sound {kind : ProviderType} {ι : Type} (provider : ObjectKey) (site : Site kind)
    (logs : ι → List LogEntry) (trace : List (Moment Call Answer)) : Prop where
  named : AllNamed provider site
  read : ∀ i key v, (⟨.getVM key, .ok v⟩ : LogEntry) ∈ logs i →
    some v ∈ (site.vms.versions key).all
  seen : ∀ i, ∀ entry ∈ logs i, ∀ sighting ∈ sightings entry, sighting.provider = provider →
    (sighting.id, sighting.name) ∈ site.hypervisor.records
  struck : ∀ log c target, Moment.issued log c ∈ trace → strikes c = some target →
    ∃ key v, Read key log v ∧ some v ∈ (site.vms.versions key).all ∧
      v.status.id = target.2 ∧ target.2 ≠ ""

namespace Sound

variable {kind : ProviderType} {ι : Type} {provider : ObjectKey} {site next : Site kind}
  {logs : ι → List LogEntry} {trace : List (Moment Call Answer)}

section

variable (h : Sound provider site logs trace) (i : ι)
include h i

theorem empty [DecidableEq ι] :
    Sound provider site (Function.update logs i []) trace where
  named := h.named
  read j key v hmem := h.read j key v (mem_of_mem_update_nil hmem)
  seen j entry hmem := h.seen j entry (mem_of_mem_update_nil hmem)
  struck := h.struck

theorem issue (hallowed : ∃ key, Allowed key (logs i) c) :
    Sound provider site logs (.issued (logs i) c :: trace) where
  named := h.named
  read := h.read
  seen := h.seen
  struck := by
    intro log c' target hmem hstrikes
    rcases mem_cons.mp hmem with heq | hold
    · cases heq
      obtain ⟨key, hallowed⟩ := hallowed
      obtain ⟨v, hread, hid, hne, -⟩ := strikes_of_allowed hallowed hstrikes
      exact ⟨key, v, hread, h.read i key v hread.mem, hid.symm, hne⟩
    · exact h.struck log c' target hold hstrikes

/-- The ID that a status write persists is one the object may hold. -/
theorem status_named {vm : VirtualMachine} (hallowed : Allowed key (logs i) (.statusUpdate vm)) :
    Named provider site vm.objectMeta.key vm.status.id := by
  obtain ⟨v, hread, hmeta, -, hid⟩ := hallowed
  have hstored : some v ∈ (site.vms.versions key).all := h.read i key v hread.mem
  have hkey : vm.objectMeta.key = key := by
    rw [hmeta]
    exact site.vms.keyed key v hstored
  have hname : v.objectMeta.name = key.name :=
    congrArg ObjectKey.name (site.vms.keyed key v hstored)
  rw [hkey]
  generalize vm.status.id = id at hid
  cases hid with
  | kept => exact h.named key v hstored
  | forgotten => exact .inl rfl
  | answered hanswered =>
    by_cases hprovider : providerKey v = provider
    · obtain ⟨entry, hmem, hsighting⟩ := hanswered.sighted
      have hrecord := h.seen i entry hmem _ hsighting hprovider
      rw [hname] at hrecord
      exact .inr (.inl hrecord)
    · exact .inr (.inr ⟨v, hstored, .inr hprovider⟩)

theorem answer [DecidableEq ι] (hallowed : ∃ key, Allowed key (logs i) c)
    (hanswer : site.answer provider c choice = some (r, next)) :
    Sound provider next (Function.update logs i (⟨c, r⟩ :: logs i))
      (.answered (logs i) ⟨c, r⟩ :: trace) := by
  have hextends := answer_extends hanswer
  constructor
  · refine h.named.answer ?_ hanswer
    intro vm hc
    subst hc
    obtain ⟨key, hallowed⟩ := hallowed
    exact h.status_named i hallowed
  · intro j key v hmem
    rcases mem_of_mem_update_cons hmem with heq | hold
    · cases heq
      exact answer_read hanswer
    · exact hextends.versions key (h.read j key v hold)
  · intro j entry hmem sighting hsighting hprovider
    rcases mem_of_mem_update_cons hmem with rfl | hold
    · exact answer_sighted hanswer hsighting hprovider
    · exact hextends.records (h.seen j entry hold sighting hsighting hprovider)
  · intro log c' target hmem hstrikes
    have hold : Moment.issued log c' ∈ trace := by simpa using hmem
    obtain ⟨key, v, hread, hstored, hid⟩ := h.struck log c' target hold hstrikes
    exact ⟨key, v, hread, hextends.versions key hstored, hid⟩

end

end Sound

section Isolation

variable {kind : ProviderType} {ι : Type} [DecidableEq ι] {provider : ObjectKey}

/-- Workers that have not begun, on a site whose objects have no ID yet. -/
def Begin (workers : Workers kind ι) : Prop :=
  (∀ i, workers.threads i = .idle) ∧ workers.trace = [] ∧
    ∀ key v, some v ∈ (workers.shared.vms.versions key).all → v.status.id = ""

theorem sound_of_manage (r : Reconciler) {workers next : Workers kind ι}
    {moves : List (Move ι ObjectKey Choice)} (hbegin : Begin workers)
    (hrun : manage r provider workers moves = some next) :
    Sound provider next.shared next.logs next.trace := by
  obtain ⟨hidle, htrace, hids⟩ := hbegin
  have hlogs : ∀ i, workers.logs i = [] := by
    intro i
    rw [Threads.logs, hidle i]
    rfl
  have hprogram : ∀ key, (r.reconcile key).Heeds (fun log c => ∃ key, Allowed key log c) [] :=
    fun key => (reconcile_obeys r key).weaken fun _ _ hallowed => ⟨key, hallowed⟩
  refine (Threads.invariant (J := fun site logs trace => Sound provider site logs trace)
    (s := workers) hprogram ?_ ?_ ?_ ?_ ?_ hrun).1
  · intro site logs trace i h
    exact h.empty i
  · intro site logs trace i c h hallowed
    exact h.issue i hallowed
  · intro site logs trace i c choice answer after h hallowed hanswer
    exact h.answer i hallowed hanswer
  · constructor
    · intro key v hv
      exact .inl (hids key v hv)
    · intro i key v hmem
      rw [hlogs i] at hmem
      cases hmem
    · intro i entry hmem
      rw [hlogs i] at hmem
      cases hmem
    · intro log c target hmem
      rw [htrace] at hmem
      cases hmem
  · intro i
    rw [hidle i]
    trivial

/-- A VirtualMachine that was never adopted and always used the provider. -/
def Uses (provider : ObjectKey) (site : Site kind) (key : ObjectKey) : Prop :=
  ∀ v, some v ∈ (site.vms.versions key).all → vmIsAdopted v = false ∧ providerKey v = provider

/-- No ID has stood for two names: VMs are not renamed, and references not reused. -/
def OneName (records : List (String × String)) : Prop :=
  ∀ id name other, (id, name) ∈ records → (id, other) ∈ records → name = other

theorem oneName_of_libvirt (h : Hypervisor .libvirt) : OneName h.records := by
  intro id name other hname hother
  exact (h.named rfl _ hname).symm.trans (h.named rfl _ hother)

/-- The ID of an object that uses the provider stands for its name. -/
theorem recorded_of_uses {site : Site kind} (hnamed : AllNamed provider site)
    (huses : Uses provider site key) (hv : some v ∈ (site.vms.versions key).all)
    (hid : v.status.id ≠ "") :
    (v.status.id, key.name) ∈ site.hypervisor.records := by
  rcases hnamed key v hv with hempty | hrecorded | ⟨u, hu, hother⟩
  · exact absurd hempty hid
  · exact hrecorded
  · obtain ⟨hadopted, hprovider⟩ := huses u hu
    rcases hother with hyes | hne
    · rw [hadopted] at hyes
      cases hyes
    · exact absurd hprovider hne

/-- Objects of different names that share a provider never hold one ID, in whatever
versions they are compared, and a Delete for one never strikes the ID of another. -/
theorem ids_isolated (r : Reconciler) {workers next : Workers kind ι}
    {moves : List (Move ι ObjectKey Choice)} (hbegin : Begin workers)
    (hrun : manage r provider workers moves = some next)
    (hrefs : kind ≠ .libvirt → OneName next.shared.hypervisor.records)
    {objects : ObjectKey → Prop} (hobjects : ∀ key, objects key → Uses provider next.shared key)
    (hnames : ∀ key other, objects key → objects other → key.name = other.name → key = other) :
    (∀ key other v w, objects key → objects other → key ≠ other →
      some v ∈ (next.shared.vms.versions key).all →
      some w ∈ (next.shared.vms.versions other).all →
      v.status.id ≠ "" → v.status.id ≠ w.status.id) ∧
    ∀ log c target, Moment.issued log c ∈ next.trace → strikes c = some target →
      ∃ key v, Read key log v ∧ v.status.id = target.2 ∧
        (objects key → ∀ other w, objects other → key ≠ other →
          some w ∈ (next.shared.vms.versions other).all → w.status.id ≠ target.2) := by
  have hsound := sound_of_manage r hbegin hrun
  have hone : OneName next.shared.hypervisor.records := by
    by_cases hkind : kind = .libvirt
    · subst hkind
      exact oneName_of_libvirt _
    · exact hrefs hkind
  have hdistinct : ∀ key other v w, objects key → objects other → key ≠ other →
      some v ∈ (next.shared.vms.versions key).all →
      some w ∈ (next.shared.vms.versions other).all →
      v.status.id ≠ "" → v.status.id ≠ w.status.id := by
    intro key other v w hkey hother hne hv hw hid hsame
    have hrecord := recorded_of_uses hsound.named (hobjects key hkey) hv hid
    have hrecord' := recorded_of_uses hsound.named (hobjects other hother) hw (hsame ▸ hid)
    rw [← hsame] at hrecord'
    exact hne (hnames key other hkey hother (hone _ _ _ hrecord hrecord'))
  refine ⟨hdistinct, ?_⟩
  intro log c target hmem hstrikes
  obtain ⟨key, v, hread, hstored, hid, hne⟩ := hsound.struck log c target hmem hstrikes
  refine ⟨key, v, hread, hid, ?_⟩
  intro hkey other w hother hdifferent hw hsame
  rw [← hid] at hne hsame
  exact hdistinct key other v w hkey hother hdifferent hstored hw hne hsame.symm

end Isolation

namespace Sample

/-- A site with these objects and an empty libvirt host. -/
def libvirtSite (objects : List VirtualMachine) : Site .libvirt where
  vms := .ofList objects
  hypervisor := .empty .libvirt

def begin (objects : List VirtualMachine) : Workers .libvirt Unit :=
  { shared := libvirtSite objects }

/-- The worker reconciles an object, its calls answered one after another. -/
def reconcile (key : ObjectKey) (choices : List Choice) : List (Move Unit ObjectKey Choice) :=
  .start () key :: choices.flatMap fun choice => [.issue (), .answer () choice]

/-- Create defines a domain beside the others. -/
def defines (domains : List String) : List Choice :=
  [cached] ++ replicate 7 (virsh domains) ++ [done, virsh domains, done]

/-- Create answers the domain of its name. -/
def finds (domains : List String) : List Choice :=
  [cached] ++ replicate 7 (virsh domains) ++ [done]

/-- The object is deleted; the domain is listed, inspected, destroyed and undefined. -/
def deletes (key : ObjectKey) (domains : List String) : List Choice :=
  [{ edits := [.deleteObject key 0], reply := .lagging 0 }] ++
    replicate 7 (virsh domains) ++ [done]

/-- Two teams have a VM of the same name, and one deletes its own. -/
def sameName : List (Move Unit ObjectKey Choice) :=
  reconcile ⟨"blue", "web"⟩ (defines []) ++ [.finish ()] ++
  reconcile ⟨"green", "web"⟩ (finds ["web"]) ++ [.finish ()] ++
  reconcile ⟨"green", "web"⟩ (deletes ⟨"green", "web"⟩ ["web"])

/-- The same with different names. -/
def otherName : List (Move Unit ObjectKey Choice) :=
  reconcile ⟨"blue", "web"⟩ (defines []) ++ [.finish ()] ++
  reconcile ⟨"green", "db"⟩ (defines ["web"]) ++ [.finish ()] ++
  reconcile ⟨"green", "db"⟩ (deletes ⟨"green", "db"⟩ ["db", "web"])

/-- The VM of the provider under this ID was struck in a reconcile of the object. -/
def struckFor (key : ObjectKey) (id : String) : Moment Call Answer → Bool
  | .issued log c => decide (readKey log = some key) && decide (strikes c = some (kvm, id))
  | .answered _ _ => false

/-- The object lives with this ID, was not adopted and uses the provider. -/
def holds (site : Site .libvirt) (key : ObjectKey) (id : String) : Bool :=
  (site.vms.live key).any fun v =>
    decide (v.status.id = id) && !vmIsAdopted v && decide (providerKey v = kvm)

/-- All versions of the object are such that it `Uses` the provider. -/
def usesKvm (site : Site .libvirt) (key : ObjectKey) : Bool :=
  (site.vms.versions key).all.all fun version =>
    version.all fun v => !vmIsAdopted v && decide (providerKey v = kvm)

theorem uses_of_usesKvm {site : Site .libvirt} (h : usesKvm site key = true) :
    Uses kvm site key := by
  intro v hv
  have hversion := all_eq_true.mp h _ hv
  simpa using hversion

end Sample

open Sample

/-- Two objects of the same name in two namespaces hold one ID, and the Delete for the
one has removed the domain of the other. -/
theorem id_shared : ∃ next,
    manage {} kvm (begin
      [object "blue" "web" kvm, object "green" "web" kvm])
      sameName = some next ∧
    holds next.shared ⟨"blue", "web"⟩ "web" = true ∧
    holds next.shared ⟨"green", "web"⟩ "web" = true ∧
    (∃ moment ∈ next.trace, struckFor ⟨"green", "web"⟩ "web" moment = true) ∧
    next.shared.hypervisor.machines = [] := by
  decide +kernel

/-- With different names the ID of the other object was never touched. -/
theorem ids_isolated_sample : ∃ next,
    manage {} kvm (begin
      [object "blue" "web" kvm, object "green" "db" kvm])
      otherName = some next ∧
    holds next.shared ⟨"blue", "web"⟩ "web" = true ∧
    (∃ moment ∈ next.trace, struckFor ⟨"green", "db"⟩ "db" moment = true) ∧
    ∀ v w, some v ∈ (next.shared.vms.versions ⟨"green", "db"⟩).all →
      some w ∈ (next.shared.vms.versions ⟨"blue", "web"⟩).all →
      v.status.id ≠ "" → v.status.id ≠ w.status.id := by
  obtain ⟨next, hrun, hholds, hstruck, hblue, hgreen⟩ :
      ∃ next ∈ manage {} kvm (begin
        [object "blue" "web" kvm, object "green" "db" kvm])
        otherName,
      holds next.shared ⟨"blue", "web"⟩ "web" = true ∧
      (∃ moment ∈ next.trace, struckFor ⟨"green", "db"⟩ "db" moment = true) ∧
      usesKvm next.shared ⟨"blue", "web"⟩ = true ∧
      usesKvm next.shared ⟨"green", "db"⟩ = true := by decide +kernel
  have hbegin : Begin (begin
      [object "blue" "web" kvm, object "green" "db" kvm]) := by
    refine ⟨fun _ => rfl, rfl, ?_⟩
    intro key v hv
    have hfound := mem_of_find?_eq_some (mem_singleton.mp hv).symm
    rcases mem_pair.mp hfound with rfl | rfl <;> rfl
  have hobjects : ∀ key, key = ⟨"blue", "web"⟩ ∨ key = ⟨"green", "db"⟩ →
      Uses kvm next.shared key := by
    intro key hkey
    rcases hkey with rfl | rfl
    · exact uses_of_usesKvm hblue
    · exact uses_of_usesKvm hgreen
  have hnames : ∀ key other : ObjectKey, key = ⟨"blue", "web"⟩ ∨ key = ⟨"green", "db"⟩ →
      other = ⟨"blue", "web"⟩ ∨ other = ⟨"green", "db"⟩ → key.name = other.name → key = other := by
    intro key other hkey hother hname
    rcases hkey with rfl | rfl <;> rcases hother with rfl | rfl
    · rfl
    · simp at hname
    · simp at hname
    · rfl
  have hisolated := (ids_isolated {} hbegin hrun (fun hne => absurd rfl hne) hobjects hnames).1
  refine ⟨next, hrun, hholds, hstruck, fun v w hv hw hid => ?_⟩
  exact hisolated _ _ v w (.inr rfl) (.inl rfl) (by decide) hv hw hid

end Virtrigaud.VM
