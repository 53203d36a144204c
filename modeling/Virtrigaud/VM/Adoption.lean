import Virtrigaud.VM.Tracking

/-!
# The VM of an adopted object

An adopted object gets its ID from another controller. As long as others leave the VM on
the hypervisor, and queries are answered honestly, Describe never misses it, and so no
Create is ever asked for.
-/

namespace Virtrigaud.VM

open Effects Program VMStore Site List

variable {kind : ProviderType} {provider : ObjectKey} {key : ObjectKey} {setting : Setting}
  {site next : Site kind} {log : List LogEntry} {edits : List Edit} {adopted : String}

/-- There is a VM under the ID. -/
def Present (site : Site kind) (id : String) : Prop :=
  ∃ m ∈ site.hypervisor.machines, m.id kind = id

/-- A version that calls for its VM to be there. -/
def Needs (v : VirtualMachine) : Prop :=
  v.objectMeta.deletionTimestamp.isSome = false ∧ v.status.id ≠ ""

/-- How the adopted VM relates to a reconcile that is under way. -/
structure Adopts (provider : ObjectKey) (key : ObjectKey) (setting : Setting) (adopted : String)
    (site : Site kind) (log : List LogEntry) : Prop where
  ids : ∀ v, some v ∈ (site.vms.versions key).all → v.status.id ≠ "" → v.status.id = adopted
  stays : ∀ v, site.vms.live key = some v → Needs v → Present site adopted
  here : ∀ v, Read key log v → Needs v → Present site adopted
  marked : ∀ v, Read key log v → v.objectMeta.deletionTimestamp.isSome = true →
    ∀ w, site.vms.live key = some w → w.objectMeta.deletionTimestamp.isSome = true
  seen : ∀ v, Read key log v → Needs v →
    ∀ entry ∈ log, ¬ missing provider kind setting.node adopted entry
  untouched : arrivals log = []
  unasked : ∀ other req r, (⟨.request other (.create req), r⟩ : LogEntry) ∉ log

/-- Others leave the adopted VM. -/
theorem Present.edited (h : Present site adopted) (hadopted : setting.adopted = some adopted)
    (hadmits : setting.Admits provider kind key edits)
    (hedit : Edited edits site next) : Present next adopted := by
  obtain ⟨m, hm, hid⟩ := h
  cases hedit with
  | added _ hadd =>
    refine ⟨m, ?_, hid⟩
    rw [(Hypervisor.add_eq_some hadd).1]
    exact .tail _ hm
  | altered _ => exact ⟨_, mem_map_of_mem hm, (Hypervisor.altered_id _ _ _ _).trans hid⟩
  | removed hmem =>
    have hne := hadmits _ hmem
    rw [Setting.admits, hadopted] at hne
    refine ⟨m, mem_filter.mpr ⟨hm, ?_⟩, hid⟩
    rw [hid]
    exact hne
  | _ => exact ⟨m, hm, hid⟩

section

variable (h : Adopts provider key setting adopted site log)
include h

/-- The versions an edit leads to: the ID, what is needed, and the deletion mark. -/
theorem Adopts.put {other : ObjectKey} {new : Option VirtualMachine} {hkey}
    (hid : ∀ v, new = some v → other = key → v.status.id ≠ "" → v.status.id = adopted)
    (hneeds : ∀ v, new = some v → other = key → Needs v → Present site adopted)
    (hmarked : other = key → ∃ old, site.vms.live key = some old ∧ ∀ v, new = some v →
      old.objectMeta.deletionTimestamp.isSome = true →
      v.objectMeta.deletionTimestamp.isSome = true) :
    Adopts provider key setting adopted { site with vms := site.vms.put other new hkey } log := by
  constructor
  · intro v hv
    rcases mem_put hkey hv with ⟨heq, hlast⟩ | hold
    · exact hid v hlast.symm heq.symm
    · exact h.ids v hold
  · intro v hv
    rcases live_put_cases hkey hv with ⟨heq, hlast⟩ | hold
    · exact hneeds v hlast heq
    · exact h.stays v hold
  · exact h.here
  · intro v hv hdeleted w hw
    rcases live_put_cases hkey hw with ⟨heq, hlast⟩ | hold
    · obtain ⟨old, hold, hnew⟩ := hmarked heq
      exact hnew w hlast (h.marked v hv hdeleted old hold)
    · exact h.marked v hv hdeleted w hold
  · exact h.seen
  · exact h.untouched
  · exact h.unasked

theorem Adopts.hypervisor {hypervisor : Hypervisor kind}
    (hpresent : Present site adopted → Present { site with hypervisor } adopted) :
    Adopts provider key setting adopted { site with hypervisor } log where
  ids := h.ids
  stays v hv hneed := hpresent (h.stays v hv hneed)
  here v hv hneed := hpresent (h.here v hv hneed)
  marked := h.marked
  seen := h.seen
  untouched := h.untouched
  unasked := h.unasked

/-- A write of metadata and spec keeps the status and the deletion mark. -/
theorem Adopts.written {vm old : VirtualMachine} {hkey}
    (hlive : site.vms.live vm.objectMeta.key = some old) :
    Adopts provider key setting adopted
      { site with vms := site.vms.put vm.objectMeta.key (VMStore.written vm old) hkey } log := by
  refine h.put ?_ ?_ ?_
  · intro v hv hother
    rw [(written_eq_some hv).1]
    exact h.ids old (mem_of_live _ (hother ▸ hlive))
  · intro v hv hother hneed
    obtain ⟨hstatus, -, -, hmark⟩ := written_eq_some hv
    refine h.stays old (hother ▸ hlive) ?_
    unfold Needs at hneed ⊢
    rwa [hstatus, hmark] at hneed
  · intro hother
    refine ⟨old, hother ▸ hlive, fun v hv hmark => ?_⟩
    rw [(written_eq_some hv).2.2.2]
    exact hmark

theorem Adopts.edited (hadopted : setting.adopted = some adopted)
    (hadmits : setting.Admits provider kind key edits)
    (hedit : Edited edits site next) : Adopts provider key setting adopted next log := by
  have hpresent := fun hhere : Present site adopted => hhere.edited hadopted hadmits hedit
  cases hedit with
  | created hmem _ =>
    have hne := of_decide_eq_true (hadmits _ hmem)
    exact h.put (fun _ _ hkey => absurd hkey hne) (fun _ _ hkey => absurd hkey hne)
      (absurd · hne)
  | written _ hlive => exact h.written hlive
  | deleted hlive =>
    refine h.put ?_ ?_ ?_
    · intro w hw hother
      subst hother
      rw [(deleted_eq_some hw).1]
      exact h.ids _ (mem_of_live _ hlive)
    · intro w hw _ hneed
      have hnot := hneed.1
      rw [(deleted_eq_some hw).2.2.2] at hnot
      cases hnot
    · intro hother
      subst hother
      exact ⟨_, hlive, fun w hw _ => (deleted_eq_some hw).2.2.2⟩
  | @adopted other id old hkey hmem hlive _ _ hfound =>
    have hid : other = key → id = adopted := by
      intro hother
      have hadmitted := hadmits _ hmem
      rw [Setting.admits, hadopted] at hadmitted
      simpa [hother, eq_comm] using hadmitted
    refine h.put ?_ ?_ ?_
    · intro w hw hother _
      cases hw
      exact hid hother
    · intro w _ hother _
      rw [← hid hother]
      exact Hypervisor.isSome_find.mp hfound
    · intro hother
      subst hother
      refine ⟨old, hlive, fun w hw hmark => ?_⟩
      cases hw
      exact hmark
  | added | altered | removed => exact h.hypervisor hpresent

end

variable {c : Call} {r : Answer c} {target : ObjectKey × String}

/-- A VM is taken down only for an object that is being deleted. -/
theorem deleted_of_takenDown (hallowed : Allowed key log c) (htaken : takenDown c = some target)
    (harrivals : arrivals log = []) :
    ∃ v, Read key log v ∧ v.objectMeta.deletionTimestamp.isSome = true := by
  unfold takenDown at htaken
  split at htaken
  case h_4 => cases htaken
  all_goals obtain ⟨v, hread, -, hmay⟩ := hallowed
  iterate 2 exact ⟨v, hread, hmay.2.2⟩
  rcases hmay with ⟨hmay, -⟩ | hmem
  · exact ⟨v, hread, hmay.2.2⟩
  · rw [harrivals] at hmem
    cases hmem

section

variable (h : Adopts provider key setting adopted site log)
  (hfollows : Follows provider key setting site log) (hadopted : setting.adopted = some adopted)
include h

include hfollows hadopted in
/-- No VM is wanted for the object. -/
theorem Adopts.not_wanted (hhonest : setting.Honest provider log) {v : VirtualMachine}
    (hread : Read key log v) : ¬ WantsVM v log := by
  intro hwants
  have hsuits := hfollows.steady.users v (hfollows.read v hread)
  rcases hwants.2 with ⟨-, hnot⟩ | ⟨hid, hgone⟩
  · rw [hsuits.2, hadopted] at hnot
    cases hnot
  · have hneed : Needs v := ⟨hwants.1, hid⟩
    obtain ⟨m, hm, hmid⟩ := h.here v hread hneed
    have hsame := h.ids v (hfollows.read v hread) hid
    obtain ⟨entry, hmem, hmissing⟩ :=
      missing_of_gone hgone hsuits.1 hhonest hm (hmid.trans hsame.symm)
    rw [hsame] at hmissing
    exact h.seen v hread hneed entry hmem hmissing

/-- A call that puts no VM on the hypervisor and asks for none. -/
theorem Adopts.cons {e : LogEntry} (hup : broughtUp e = none)
    (hfirst : log = [] → ∀ v, e ≠ ⟨.getVM key, .ok v⟩)
    (hmissing : ∀ v, Read key log v → Needs v → ¬ missing provider kind setting.node adopted e)
    (hrequest : ∀ other req r, e ≠ ⟨.request other (.create req), r⟩) :
    Adopts provider key setting adopted site (e :: log) := by
  have hread := fun v (hv : Read key (e :: log) v) => hv.before hfirst
  constructor
  · exact h.ids
  · exact h.stays
  · exact fun v hv => h.here v (hread v hv)
  · exact fun v hv => h.marked v (hread v hv)
  · intro v hv hneed
    exact forall_mem_cons.mpr ⟨hmissing v (hread v hv) hneed, h.seen v (hread v hv) hneed⟩
  · exact (arrivals_cons_none hup).trans h.untouched
  · intro other req r hmem
    rcases mem_cons.mp hmem with heq | hold
    · exact hrequest other req r heq.symm
    · exact h.unasked other req r hold

/-- No call puts a VM on the hypervisor. -/
theorem Adopts.not_broughtUp (hallowed : Allowed key log c) :
    broughtUp ⟨c, r⟩ = none := by
  cases hup : broughtUp ⟨c, r⟩ with
  | none => rfl
  | some sighting =>
    obtain ⟨v, -, -, ⟨-, -, req, -, hmem⟩, -⟩ := mayBringUp_of_allowed hallowed hup
    exact absurd hmem (h.unasked _ req _)

include hfollows hadopted in
theorem Adopts.refused (hallowed : Allowed key log c)
    (hhonest : setting.Honest provider (⟨c, r⟩ :: log))
    (htruthful : site.truthful provider c r = true) :
    Adopts provider key setting adopted site (⟨c, r⟩ :: log) := by
  obtain ⟨hhonest, hbefore⟩ := forall_mem_cons.mp hhonest
  refine h.cons (h.not_broughtUp hallowed) ?_ ?_ ?_
  · intro _ v heq
    cases heq
    cases htruthful
  · intro v hread hneed hmissing
    obtain ⟨m, hm, hid⟩ := h.here v hread hneed
    exact not_found_of_missing hfollows.steady htruthful hhonest hmissing m hm hid
  · intro other req answer heq
    cases heq
    obtain ⟨v, hread, -, hrpc⟩ := hallowed
    exact h.not_wanted hfollows hadopted hbefore hread hrpc.2.2

theorem Adopts.took {hypervisor : Hypervisor kind} (hallowed : Allowed key log c)
    (htaken : takenDown c = some target) (hup : broughtUp ⟨c, r⟩ = none) :
    Adopts provider key setting adopted { site with hypervisor } (⟨c, r⟩ :: log) := by
  obtain ⟨v, hread, hdeleted⟩ := deleted_of_takenDown hallowed htaken h.untouched
  have hquiet : Unremarkable provider kind ⟨c, r⟩ := unremarkable_of_takenDown htaken hup
  -- Neither the version that was read nor the live one needs the VM any more.
  have hunneeded : ∀ w, Read key log w → ¬ Needs w := by
    intro w hw hneed
    obtain ⟨-, rfl⟩ := hread.unique hw
    rw [hneed.1] at hdeleted
    cases hdeleted
  have hafter : Adopts provider key setting adopted { site with hypervisor } log := by
    constructor
    · exact h.ids
    · intro w hw hneed
      have hmark := h.marked v hread hdeleted w hw
      rw [hneed.1] at hmark
      cases hmark
    · exact fun w hw hneed => absurd hneed (hunneeded w hw)
    · exact h.marked
    · exact h.seen
    · exact h.untouched
    · exact h.unasked
  refine hafter.cons hup (fun _ w => hquiet.read key w) ?_ ?_
  · exact fun w _ _ => hquiet.missing _ _
  · intro other req answer heq
    cases heq
    cases htaken

include hfollows in
theorem Adopts.statusWritten {vm old : VirtualMachine} {hkey}
    (hallowed : Allowed key log (.statusUpdate vm))
    (hlive : site.vms.live vm.objectMeta.key = some old) :
    Adopts provider key setting adopted
      { site with
        vms := site.vms.put vm.objectMeta.key (some (withStatus vm.status old)) hkey }
      (⟨.statusUpdate vm, none⟩ :: log) := by
  obtain ⟨v, hread, hmeta, -, hid⟩ := hallowed
  have hvm : vm.objectMeta.key = key := by
    rw [hmeta]
    exact site.vms.keyed key v (hfollows.read v hread)
  -- The ID is the one that was read, or none.
  have hkept : vm.status.id ≠ "" → vm.status.id = v.status.id := by
    intro hne
    generalize vm.status.id = id at hid hne
    cases hid with
    | kept => rfl
    | forgotten => exact absurd rfl hne
    | answered hanswered =>
      rcases hanswered with ⟨-, ⟨req, -, hmem⟩, -⟩ | hmade
      · exact absurd hmem (h.unasked _ req _)
      · rw [h.untouched] at hmade
        cases hmade
  have hstatus : Adopts provider key setting adopted { site with
      vms := site.vms.put vm.objectMeta.key (some (withStatus vm.status old)) hkey }
      log := by
    refine h.put ?_ ?_ ?_
    · intro w hw _ hne
      cases hw
      have hsame := hkept hne
      rw [withStatus, hsame] at hne
      exact hsame.trans (h.ids v (hfollows.read v hread) hne)
    · intro w hw _ hneed
      cases hw
      have hold : site.vms.live key = some old := hvm ▸ hlive
      refine h.here v hread ⟨?_, ?_⟩
      · have hlives : old.objectMeta.deletionTimestamp.isSome = false := hneed.1
        cases hdeleted : v.objectMeta.deletionTimestamp.isSome with
        | false => rfl
        | true =>
          rw [h.marked v hread hdeleted old hold] at hlives
          cases hlives
      · rw [← hkept hneed.2]
        exact hneed.2
    · intro _
      refine ⟨old, hvm ▸ hlive, fun w hw hmark => ?_⟩
      cases hw
      exact hmark
  exact hstatus.cons rfl (fun _ _ => nofun) (fun _ _ _ => id) fun _ _ _ => nofun

include hfollows hadopted in
theorem Adopts.carried {ref : String} (hallowed : Allowed key log c)
    (hhonest : setting.Honest provider (⟨c, r⟩ :: log))
    (hcarried : Carried provider site ref ⟨c, r⟩ next) :
    Adopts provider key setting adopted next (⟨c, r⟩ :: log) := by
  cases hcarried with
  | refused htruthful => exact h.refused hfollows hadopted hallowed hhonest htruthful
  | written hlive =>
    exact (h.written hlive).cons rfl (fun _ _ => nofun) (fun _ _ _ => id) fun _ _ _ => nofun
  | statusWritten hlive => exact h.statusWritten hfollows hallowed hlive
  | brought _ hup _ _ =>
    rw [h.not_broughtUp hallowed] at hup
    cases hup
  | took htaken hup => exact h.took hallowed htaken hup

end

/-- A current read of the object. -/
theorem Adopts.getVM {answer : Except GoError VirtualMachine}
    (h : Adopts provider key setting adopted site [])
    (hread : site.readLagging 0 (.getVM key) = some answer) :
    Adopts provider key setting adopted site [⟨.getVM key, answer⟩] := by
  have hlive : ∀ v, Read key [⟨.getVM key, answer⟩] v → site.vms.live key = some v :=
    fun v => live_of_read hread
  constructor
  · exact h.ids
  · exact h.stays
  · exact fun v hv => h.stays v (hlive v hv)
  · intro v hv hdeleted w hw
    obtain rfl : v = w := Option.some.inj ((hlive v hv).symm.trans hw)
    exact hdeleted
  · intro v _ _ entry hmem hmissing
    obtain rfl := mem_singleton.mp hmem
    exact hmissing
  · rfl
  · intro other req r hmem
    cases mem_singleton.mp hmem

/-- One answered call of a reconcile under the conditions of the setting. -/
theorem Adopts.answer {choice : Choice}
    (h : Adopts provider key setting adopted site log)
    (hfollows : Follows provider key setting site log) (hadopted : setting.adopted = some adopted)
    (hallowed : Allowed key log c) (hplain : choice.reply.plain = true)
    (hadmits : setting.Admits provider kind key choice.edits)
    (hhonest : setting.Honest provider (⟨c, r⟩ :: log))
    (hanswer : site.answer provider c choice = some (r, next)) :
    Adopts provider key setting adopted next (⟨c, r⟩ :: log) := by
  have hedited : Adopts provider key setting adopted (choice.edits.foldl applyEdit site) log ∧
      Follows provider key setting (choice.edits.foldl applyEdit site) log :=
    edits_induct (P := fun site => Adopts provider key setting adopted site log ∧
      Follows provider key setting site log) ⟨h, hfollows⟩ fun _ _ hbefore hedit =>
        ⟨hbefore.1.edited hadopted hadmits hedit, hbefore.2.edited hadmits hedit⟩
  rcases answer_cases hanswer with ⟨lag, hreply, hread, rfl⟩ | hcarried | ⟨_, _, hreply, _⟩
  · rw [hreply] at hplain
    obtain rfl : lag = 0 := of_decide_eq_true hplain
    cases c with
    | getVM other =>
      obtain ⟨rfl, rfl⟩ := hallowed
      exact hedited.1.getVM hread
    | _ => cases hread
  · exact hedited.1.carried hedited.2 hadopted hallowed hhonest hcarried
  · rw [hreply] at hplain
    cases hplain

end Virtrigaud.VM
