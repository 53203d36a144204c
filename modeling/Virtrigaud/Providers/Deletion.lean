import Virtrigaud.Providers.Proxmox.Lifecycle
import Virtrigaud.Providers.Vsphere.Lifecycle

/-!
# What a successful Delete says

The vSphere provider takes every fault of vCenter for a VM that is gone, and the Proxmox provider
every VM that the node it asks does not know. The hypervisors are given by what is documented of
them; what they answer is open.
-/

namespace Virtrigaud

open Effects Program Option List

/-- A vCenter and the VMs it has, which questions do not change. -/
structure Vsphere.Vcenter (σ Choice : Type) extends
    Host Vsphere.Call Vsphere.Answer σ Choice where
  has : σ → String → Prop
  asked {s s' : σ} {id : String} {c : Vsphere.Call} {choice : Choice} {r : Vsphere.Answer c} :
    answer s c choice = some (r, s') → c = .defaultDatacenter ∨ c = .powerState id →
      (has s' id ↔ has s id)
  notFound {s s' : σ} {id : String} {choice : Choice} {err : Vsphere.VimError} :
    answer s (.powerState id) choice = some (.error err, s') →
    err.fault = some .managedObjectNotFound → ¬ has s' id
  destroyed {s s' : σ} {id : String} {choice : Choice} :
    answer s (.awaitDestroy id) choice = some (none, s') → ¬ has s' id

/-- The node a request is sent to. -/
def Proxmox.Call.node? : Proxmox.Call → Option String
  | .getVM node _ | .cloneVM node _ _ | .createVM node _ | .waitForTask node _
  | .reconfigureVM node _ _ | .detectPrimaryDisk node _ | .powerOperation node _ _
  | .deleteVM node _ | .guestNetworkIPs node _ => some node
  | _ => none

/-- A PVE cluster and the nodes its VMs are on, which requests to other nodes do not change. The
answer 404 to a deletion, and one without a task, is the empty task. -/
structure Proxmox.Pve (σ Choice : Type) extends Host Proxmox.Call Proxmox.Answer σ Choice where
  hosts : σ → String → Int → Prop
  elsewhere {s s' : σ} {c : Proxmox.Call} {choice : Choice} {r : Proxmox.Answer c} {node : String}
    {vmid : Int} : answer s c choice = some (r, s') → c.node? ≠ some node →
      (hosts s' node vmid ↔ hosts s node vmid)
  absent {s s' : σ} {node : String} {vmid : Int} {choice : Choice} :
    answer s (.deleteVM node vmid) choice = some (.ok "", s') → ¬ hosts s' node vmid
  destroyed {s s₁ s' : σ} {node task : String} {vmid : Int} {choice choice' : Choice} :
    answer s (.deleteVM node vmid) choice = some (.ok task, s₁) → task ≠ "" →
    answer s₁ (.waitForTask node task) choice' = some (none, s') → ¬ hosts s' node vmid

variable {σ Choice : Type} {s : σ}

namespace Vsphere

/-- The question for the power state was answered with a fault that says something else than that
there is no such VM. -/
def Faulted (id : String) (log : List (Event Call Answer)) : Prop :=
  ∃ fault text, fault ≠ .managedObjectNotFound ∧
    (⟨.powerState id, .error ⟨some fault, text⟩⟩ : Event Call Answer) ∈ log

theorem not_faulted_cons {id : String} {log : List (Event Call Answer)} {c : Call} {r : Answer c}
    (hc : c ≠ .powerState id) (h : ¬ Faulted id log) : ¬ Faulted id (⟨c, r⟩ :: log) := by
  rintro ⟨fault, text, hfault, hmem⟩
  rcases mem_cons.mp hmem with heq | hmem
  · exact hc (congrArg Sigma.fst heq).symm
  · exact h ⟨fault, text, hfault, hmem⟩

/-- A VM that was found is destroyed, or an error is returned. -/
theorem destroyVM_gone (v : Vcenter σ Choice) {id : String} {log : List (Event Call Answer)}
    (hlog : ¬ Faulted id log) (poweredOn : Bool) :
    (powerOffFirst perform id poweredOn >>= fun failure => match failure with
      | some err => pure (.error err)
      | none => destroyVM perform id : Program Call Answer _).Ensures v.toHost
      (fun result s' log => OnOk (fun _ => ¬ v.has s' id) result ∧ ¬ Faulted id log) s log := by
  have hoff : (powerOffFirst perform id poweredOn : Program Call Answer _).Ensures v.toHost
      (fun _ _ log => ¬ Faulted id log) s log := by
    cases poweredOn with
    | false => exact hlog
    | true =>
      rintro choice (_ | err) s₁ -
      · exact fun _ _ _ _ => not_faulted_cons nofun (not_faulted_cons nofun hlog)
      · exact not_faulted_cons nofun hlog
  refine hoff.bind ?_
  rintro (_ | err) s₁ log₁ - hlog
  swap
  · exact ⟨trivial, hlog⟩
  refine ensures_perform ?_
  rintro choice (_ | err) s₂ -
  swap
  · exact ⟨trivial, not_faulted_cons nofun hlog⟩
  refine ensures_perform ?_
  rintro choice (_ | err) s₃ hawait
  · exact ⟨v.destroyed hawait, not_faulted_cons nofun (not_faulted_cons nofun hlog)⟩
  · exact ⟨trivial, not_faulted_cons nofun (not_faulted_cons nofun hlog)⟩

theorem delete_gone_iff (v : Vcenter σ Choice) (id : String) :
    (delete perform id).Ensures v.toHost (fun result s' log =>
      OnOk (fun _ => ¬ v.has s' id) result ↔ (Faulted id log → ¬ v.has s id)) s [] := by
  refine ensures_perform ?_
  rintro choice (_ | err) s₁ hdatacenter
  swap
  · exact iff_of_true trivial (by simp [Faulted])
  refine ensures_perform ?_
  rintro choice (⟨_ | fault, text⟩ | poweredOn) s₂ hstate
  · exact iff_of_true trivial (by simp [Faulted])
  · have hsame : v.has s₂ id ↔ v.has s id :=
      (v.asked hstate (.inr rfl)).trans (v.asked hdatacenter (.inl rfl))
    change ¬ v.has s₂ id ↔ _
    by_cases hfault : fault = .managedObjectNotFound
    · exact iff_of_true (v.notFound hstate (congrArg some hfault)) (by simp [Faulted, hfault])
    · rw [hsame, forall_prop_of_true]
      exact ⟨fault, text, hfault, .head _⟩
  · refine (destroyVM_gone v (by simp [Faulted]) poweredOn).mono fun result s' log _ h => ?_
    exact iff_of_true h.1 fun hfaulted => absurd hfaulted h.2

end Vsphere

namespace Proxmox

/-- The number of the VM that an id denotes. -/
def vmidOf (id : String) : Option Int :=
  match Go.atoi id, id.toList.splitOn ':' with
  | some vmid, _ => some vmid
  | none, [_, text] => Go.atoi (String.ofList text)
  | none, _ => none

/-- The node has acknowledged the deletion: it knows no such VM, or started no task, or the task
has come to its end. -/
inductive Acknowledged (node : String) (vmid : Int) (log : List (Event Call Answer)) : Prop
  | unknown (h : ⟨.deleteVM node vmid, .ok ""⟩ ∈ log)
  | completed {task : String} {older : List (Event Call Answer)}
    (h : ⟨.waitForTask node task, none⟩ :: ⟨.deleteVM node vmid, .ok task⟩ :: older <:+ log)

/-- No deletion was asked for yet. -/
def Undeleted (log : List (Event Call Answer)) : Prop :=
  ∀ event ∈ log, ∀ node vmid, event.1 ≠ .deleteVM node vmid

variable {node : String} {vmid : Int} {log : List (Event Call Answer)}

theorem Undeleted.not_acknowledged (h : Undeleted log) : ¬ Acknowledged node vmid log := by
  rintro (hmem | hsuffix)
  · exact h _ hmem node vmid rfl
  · exact h _ (hsuffix.subset (.tail _ (.head _))) node vmid rfl

/-- The VMs of other nodes are where they were. -/
def Elsewhere (c : Pve σ Choice) (node : String) (s s' : σ) : Prop :=
  ∀ other ≠ node, ∀ vmid, c.hosts s' other vmid ↔ c.hosts s other vmid

theorem Elsewhere.step {c : Pve σ Choice} {s s' s'' : σ} {call : Call} {choice : Choice}
    {r : Answer call} (h : Elsewhere c node s s')
    (hanswer : c.answer s' call choice = some (r, s''))
    (hnode : call.node? = some node) : Elsewhere c node s s'' := by
  intro other hother vmid
  refine (c.elsewhere hanswer ?_).trans (h other hother vmid)
  rw [hnode]
  exact fun heq => hother (some.inj heq).symm

theorem parseVMReference_resolves (c : Pve σ Choice) (id : String) :
    (parseVMReference perform id).Ensures c.toHost (fun parsed s' log => Undeleted log ∧
      OnOk (fun ref => vmidOf id = some ref.1 ∧ Elsewhere c ref.2 s s') parsed) s [] := by
  unfold parseVMReference
  cases hid : Go.atoi id with
  | some vmid =>
    refine ensures_perform ?_
    rintro choice (err | node) s' hfind
    · exact ⟨by simp [Undeleted], trivial⟩
    · refine ⟨by simp [Undeleted], by simp [vmidOf, hid], fun other _ vmid => ?_⟩
      exact c.elsewhere hfind nofun
  | none =>
    dsimp only
    split
    · rename_i node text hsplit
      split
      · exact ⟨nofun, by simpa [vmidOf, hid, hsplit], fun _ _ _ => Iff.rfl⟩
      · exact ⟨nofun, trivial⟩
    · exact ⟨nofun, trivial⟩

/-- So far nothing was done to the VMs of other nodes, and no deletion was asked for. -/
def Quiet (c : Pve σ Choice) (node : String) (s s' : σ) (log : List (Event Call Answer)) : Prop :=
  Undeleted log ∧ Elsewhere c node s s'

theorem Quiet.step {c : Pve σ Choice} {s s' s'' : σ} {call : Call} {choice : Choice}
    {r : Answer call} (h : Quiet c node s s' log)
    (hanswer : c.answer s' call choice = some (r, s'')) (hnode : call.node? = some node)
    (hcall : ∀ node vmid, call ≠ .deleteVM node vmid) : Quiet c node s s'' (⟨call, r⟩ :: log) :=
  ⟨forall_mem_cons.mpr ⟨hcall, h.1⟩, h.2.step hanswer hnode⟩

theorem stopFirst_quiet (c : Pve σ Choice) {s₁ : σ} (h : Quiet c node s s₁ log) (vmid : Int) :
    (stopFirst perform node vmid).Ensures c.toHost (fun _ => Quiet c node s) s₁ log := by
  refine ensures_perform ?_
  rintro choice (err | vm) s₂ hget
  · exact h.step hget rfl nofun
  have h := h.step hget rfl nofun
  dsimp only
  split
  swap
  · exact h
  refine ensures_perform ?_
  rintro choice (err | task) s₃ hstop
  · exact h.step hstop rfl nofun
  have h := h.step hstop rfl nofun
  dsimp only [awaitTask]
  split
  · exact fun choice r s₄ hwait => h.step hwait rfl nofun
  · exact h

/-- A request that was refused is not acknowledged. -/
theorem Undeleted.refused {err : GoError} (h : Undeleted log) {other : String} {vmid' : Int} :
    ¬ Acknowledged other vmid' (⟨.deleteVM node vmid, .error err⟩ :: log) := by
  rintro (hmem | hsuffix)
  · rcases mem_cons.mp hmem with heq | hmem
    · cases heq
    · exact h _ hmem other vmid' rfl
  · rcases suffix_cons_iff.mp hsuffix with heq | hsuffix
    · cases heq
    · exact h _ (hsuffix.subset (.tail _ (.head _))) other vmid' rfl

/-- A task that failed acknowledges nothing. -/
theorem Undeleted.failed {task : String} {err : GoError} (h : Undeleted log) (htask : task ≠ "")
    {other : String} {vmid' : Int} : ¬ Acknowledged other vmid'
      (⟨.waitForTask node task, some err⟩ :: ⟨.deleteVM node vmid, .ok task⟩ :: log) := by
  rintro (hmem | hsuffix)
  · rcases mem_cons.mp hmem with heq | hmem
    · cases heq
    rcases mem_cons.mp hmem with heq | hmem
    · cases heq
      exact htask rfl
    · exact h _ hmem other vmid' rfl
  · rcases suffix_cons_iff.mp hsuffix with heq | hsuffix
    · cases heq
    rcases suffix_cons_iff.mp hsuffix with heq | hsuffix
    · cases heq
    · exact h _ (hsuffix.subset (.tail _ (.head _))) other vmid' rfl

/-- Only one node was asked to delete the VM, so only that one can have acknowledged it. -/
theorem Acknowledged.node_eq {other : String} {vmid' : Int} (h : Acknowledged other vmid' log)
    (hasked : ∀ event ∈ log, ∀ n v, event.1 = .deleteVM n v → n = node) : other = node := by
  rcases h with hmem | hsuffix
  · exact hasked _ hmem other vmid' rfl
  · exact hasked _ (hsuffix.subset (.tail _ (.head _))) other vmid' rfl

/-- Once the node has acknowledged the deletion, the VM is gone exactly if no other node had it. -/
theorem gone_iff {c : Pve σ Choice} {id : String} {s' : σ} (hvmid : vmidOf id = some vmid)
    (hsame : Elsewhere c node s s') (hgone : ¬ c.hosts s' node vmid)
    (hack : Acknowledged node vmid log)
    (hasked : ∀ event ∈ log, ∀ n v, event.1 = .deleteVM n v → n = node) :
    (∀ vmid ∈ vmidOf id, ∀ node, ¬ c.hosts s' node vmid) ↔
      ∀ vmid ∈ vmidOf id, ∀ node, Acknowledged node vmid log →
        ∀ other ≠ node, ¬ c.hosts s other vmid := by
  rw [hvmid]
  constructor
  · rintro h _ ⟨⟩ node' hack' other hother
    obtain rfl := hack'.node_eq hasked
    rw [← hsame other hother]
    exact h vmid rfl other
  · rintro h _ ⟨⟩ other
    by_cases hother : other = node
    · rwa [hother]
    · rw [hsame other hother]
      exact h vmid rfl node hack other hother

theorem delete_gone_iff (c : Pve σ Choice) (id : String) :
    (delete perform id).Ensures c.toHost (fun result s' log =>
      OnOk (fun _ => ∀ vmid ∈ vmidOf id, ∀ node, ¬ c.hosts s' node vmid) result ↔
        ∀ vmid ∈ vmidOf id, ∀ node, Acknowledged node vmid log →
          ∀ other ≠ node, ¬ c.hosts s other vmid) s [] := by
  have hfailed : ∀ {log : List (Event Call Answer)} {P : Int → String → Prop},
      (∀ node vmid, ¬ Acknowledged node vmid log) →
        ∀ vmid ∈ vmidOf id, ∀ node, Acknowledged node vmid log → P vmid node :=
    fun h vmid _ node hack => absurd hack (h node vmid)
  refine (parseVMReference_resolves c id).bind ?_
  rintro (err | ⟨vmid, node⟩) s₁ log₁ - ⟨hlog, hparsed⟩
  · exact iff_of_true trivial (hfailed fun _ _ => hlog.not_acknowledged)
  obtain ⟨hvmid, hsame⟩ := hparsed
  refine (stopFirst_quiet c ⟨hlog, hsame⟩ vmid).bind ?_
  rintro (_ | err) s₂ log₂ - ⟨hlog, hsame⟩
  swap
  · exact iff_of_true trivial (hfailed fun _ _ => hlog.not_acknowledged)
  refine ensures_perform ?_
  rintro choice (err | task) s₃ hdelete
  · exact iff_of_true trivial (hfailed fun _ _ => hlog.refused)
  have hsame := hsame.step hdelete rfl
  dsimp only [awaitTask]
  split
  · rename_i htask
    refine ensures_perform ?_
    rintro choice (_ | err) s₄ hawait
    · refine gone_iff hvmid (hsame.step hawait rfl) (c.destroyed hdelete htask hawait)
        (.completed (suffix_refl _)) ?_
      simp only [forall_mem_cons]
      refine ⟨nofun, ?_, fun event hevent n v heq => absurd heq (hlog event hevent n v)⟩
      rintro n v ⟨⟩
      rfl
    · exact iff_of_true trivial (hfailed fun _ _ => hlog.failed htask)
  · rename_i htask
    obtain rfl : task = "" := not_not.mp htask
    refine gone_iff hvmid hsame (c.absent hdelete) (.unknown (.head _)) ?_
    refine forall_mem_cons.mpr ⟨?_, fun event hevent n v heq => absurd heq (hlog event hevent n v)⟩
    rintro n v ⟨⟩
    rfl

end Proxmox

namespace Deletion.Sample

/-- A vCenter that has every VM and lets nobody look at one. -/
def vcenter : Vsphere.Vcenter Unit Unit where
  answer _ c _ :=
    match c with
    | .defaultDatacenter => some (none, ())
    | .powerState _ => some (.error ⟨some (.other "NoPermission"), ""⟩, ())
    | _ => none
  has _ _ := True
  asked _ _ := Iff.rfl
  notFound := by
    rintro _ _ _ _ _ ⟨⟩ hfault
    cases hfault
  destroyed := nofun

/-- Two nodes, of which the first is asked and the second has the VM. -/
def cluster : Proxmox.Pve Unit Unit where
  answer _ c _ :=
    match c with
    | .findNode => some (.ok "pve1", ())
    | .getVM _ _ => some (.error .vmNotFound, ())
    | .deleteVM node _ => if node = "pve1" then some (.ok "", ()) else none
    | _ => none
  hosts _ node _ := node = "pve2"
  elsewhere _ _ := Iff.rfl
  absent := by
    rintro _ _ node _ _ h rfl
    cases h
  destroyed := by
    intro _ _ _ node task _ _ _ h htask
    dsimp only at h
    split at h <;> cases h
    exact absurd rfl htask

end Deletion.Sample

open Deletion.Sample

end Virtrigaud
