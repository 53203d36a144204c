import Virtrigaud.VM.Tracking

/-!
# What the status of an object says about its history

A write of the status goes through only over the version that the reconcile has read, so
what holds of a persisted status, in terms of all calls so far, is carried from write to
write: `Ledger` is what one reconcile owes for that, and `books_of_reach` what it gives for
whole runs. A reconcile whose write is not seen to go through leaves the books as they were.
-/

namespace Virtrigaud.VM

open Effects Program VMStore Option

variable {kind : ProviderType}

/-- Every earlier version of the object has a smaller number than the live one. -/
def Ordered (key : ObjectKey) (site : Site kind) : Prop :=
  ∀ v, site.vms.live key = some v → ∀ w, some w ∈ (site.vms.versions key).all →
    w = v ∨ w.objectMeta.resourceVersion < v.objectMeta.resourceVersion

/-- What the calls so far mean for a status. -/
abbrev Entitles := List LogEntry → VirtualMachineStatus → Prop

/-- The persisted status is what the history entitles it to. -/
structure Books (P : Entitles) (key : ObjectKey) (trace : List LogEntry) (site : Site kind) :
    Prop where
  ordered : Ordered key site
  status : ∀ v, site.vms.live key = some v → P trace v.status

variable {c : Call} {r : Answer c}

section Books

variable {P : Entitles} {provider key : ObjectKey} {trace log : List LogEntry}
  {site next : Site kind} {edits : List Edit}

theorem Ordered.eq_of_version (h : Ordered key site) {v w : VirtualMachine}
    (hlive : site.vms.live key = some v) (hw : some w ∈ (site.vms.versions key).all)
    (hversion : v.objectMeta.resourceVersion = w.objectMeta.resourceVersion) : w = v := by
  rcases h v hlive w hw with heq | hlt
  · exact heq
  · omega

variable {new : Option VirtualMachine}

theorem Ordered.put {other : ObjectKey} {hkey} (h : Ordered key site)
    (hnew : ∀ v, new = some v → other = key → ∃ old, site.vms.live key = some old ∧
      v.objectMeta.resourceVersion = old.objectMeta.resourceVersion + 1) :
    Ordered key { site with vms := site.vms.put other new hkey } := by
  intro v hlive w hw
  by_cases hother : other = key
  · subst hother
    rw [live_put_self] at hlive
    obtain ⟨old, hold, hversion⟩ := hnew v hlive rfl
    rcases mem_put hkey hw with ⟨-, heq⟩ | hmem
    · exact .inl (some.inj (heq.trans hlive))
    · right
      rcases h old hold w hmem with rfl | hlt <;> omega
  · rw [live_put_of_ne (Ne.symm hother)] at hlive
    rw [put_versions_of_ne (Ne.symm hother)] at hw
    exact h v hlive w hw

theorem Books.put {other : ObjectKey} {hkey} (h : Books P key trace site)
    (hnew : ∀ v, new = some v → other = key → ∃ old, site.vms.live key = some old ∧
      v.objectMeta.resourceVersion = old.objectMeta.resourceVersion + 1 ∧ P trace v.status) :
    Books P key trace { site with vms := site.vms.put other new hkey } where
  ordered := h.ordered.put fun v hv hother =>
    (hnew v hv hother).imp fun _ hold => ⟨hold.1, hold.2.1⟩
  status := by
    intro v hlive
    rcases live_put_cases hkey hlive with ⟨heq, hlast⟩ | hold
    · obtain ⟨old, -, -, hstatus⟩ := hnew v hlast heq
      exact hstatus
    · exact h.status v hold

theorem Books.hypervisor {hypervisor : Hypervisor kind} (h : Books P key trace site) :
    Books P key trace { site with hypervisor } :=
  ⟨h.ordered, h.status⟩

/-- A write of metadata and spec leaves the status. -/
theorem Books.written {vm old : VirtualMachine} {hkey} (h : Books P key trace site)
    (hlive : site.vms.live vm.objectMeta.key = some old) :
    Books P key trace
      { site with vms := site.vms.put vm.objectMeta.key (written vm old) hkey } := by
  apply h.put
  intro v hv hother
  rw [hother] at hlive
  refine ⟨old, hlive, written_version hv, ?_⟩
  rw [(written_eq_some hv).1]
  exact h.status old hlive

/-- The edits that keep the books: the object is not made anew, and an ID that another
controller gives it is one its history admits. -/
structure Admits (P : Entitles) (key : ObjectKey) (trace : List LogEntry) (edits : List Edit) :
    Prop where
  create : ∀ vm, Edit.createObject vm ∈ edits → vm.objectMeta.key ≠ key
  adopt : ∀ id, Edit.adopt key id ∈ edits → ∀ status : VirtualMachineStatus, P trace status →
    status.id = "" → P trace { status with id }

theorem Books.edited (h : Books P key trace site) (hadmits : Admits P key trace edits)
    (hedit : Site.Edited edits site next) : Books P key trace next := by
  cases hedit with
  | created hmem _ =>
    apply h.put
    intro v _ hother
    exact absurd hother (hadmits.create _ hmem)
  | written _ hlive => exact h.written hlive
  | @deleted other clock old hkey hlive =>
    apply h.put
    intro v hv hother
    subst hother
    refine ⟨old, hlive, deleted_version hv, ?_⟩
    rw [(deleted_eq_some hv).1]
    exact h.status old hlive
  | @adopted other id old hkey hmem hlive _ hid _ =>
    apply h.put
    intro v hv hother
    subst hother
    obtain rfl := some.inj hv
    exact ⟨old, hlive, rfl, hadmits.adopt id hmem old.status (h.status old hlive) hid⟩
  | added _ _ | altered _ | removed _ => exact h.hypervisor

theorem FinalizerWrite.version_eq {v vm : VirtualMachine} (h : FinalizerWrite v log vm) :
    vm.objectMeta.resourceVersion = v.objectMeta.resourceVersion ∧
      vm.objectMeta.key = v.objectMeta.key := by
  rcases h with ⟨-, rfl⟩ | ⟨-, rfl, -⟩ <;> exact ⟨rfl, rfl⟩

/-- A write of the object that went through. -/
def persists : LogEntry → Bool
  | ⟨.updateVM _, none⟩ | ⟨.statusUpdate _, none⟩ => true
  | _ => false

theorem persists_of_truthful (h : site.truthful provider c r = true) : persists ⟨c, r⟩ = false := by
  unfold persists
  split
  case h_3 => rfl
  all_goals
    rename_i heq
    cases heq
    cases h

/-- What is left of a call that was carried out: only a write touches the object, and it
was over the version that was read. -/
theorem Books.carried {ref : String} (h : Books P key trace site)
    (hread : ∀ v, Read key log v → some v ∈ (site.vms.versions key).all)
    (houtlined : Outlined key log c) (hcarried : Site.Carried provider site ref ⟨c, r⟩ next) :
    (next.vms = site.vms ∧ persists ⟨c, r⟩ = false) ∨
    (∃ vm v, c = .updateVM vm ∧ Read key log v ∧ site.vms.live key = some v ∧
      Books P key trace next) ∨
    ∃ vm v, c = .statusUpdate vm ∧ Read key log v ∧ Written v log vm ∧
      site.vms.live key = some v ∧ Ordered key next ∧
      ∀ w, next.vms.live key = some w → w.status = vm.status := by
  cases hcarried with
  | refused htruthful => exact .inl ⟨rfl, persists_of_truthful htruthful⟩
  | brought hbrings => exact .inl ⟨rfl, by cases c <;> first | rfl | cases hbrings⟩
  | took htaken => exact .inl ⟨rfl, by cases c <;> first | rfl | cases htaken⟩
  | @written vm old hkey hlive hversion =>
    obtain ⟨-, v, hv, hfinalizer, -⟩ := houtlined
    have hmem := hread v hv
    obtain ⟨hsame, hkeys⟩ := hfinalizer.version_eq
    rw [hkeys, site.vms.keyed key v hmem] at hlive
    obtain rfl := h.ordered.eq_of_version hlive hmem (hversion.trans hsame)
    refine .inr (.inl ⟨vm, v, rfl, hv, hlive, h.written ?_⟩)
    rw [hkeys, site.vms.keyed key v hmem]
    exact hlive
  | @statusWritten vm old hkey hlive hversion =>
    obtain ⟨-, v, hv, hwritten⟩ := houtlined
    have hmem := hread v hv
    have hkeys : vm.objectMeta.key = key := by
      rw [hwritten.kept.1]
      exact site.vms.keyed key v hmem
    rw [hkeys] at hlive
    rw [hwritten.kept.1] at hversion
    obtain rfl := h.ordered.eq_of_version hlive hmem hversion
    refine .inr (.inr ⟨vm, v, rfl, hv, hwritten, hlive, h.ordered.put ?_, ?_⟩)
    · intro w hw _
      obtain rfl := some.inj hw
      exact ⟨v, hlive, rfl⟩
    · intro w hw
      rw [← hkeys, live_put_self] at hw
      obtain rfl := some.inj hw
      rfl

end Books

/-- What a reconcile owes to the books: each write of a status gives what the history
entitles it to, where the version that was read has. -/
structure Ledger (P : Entitles) (key : ObjectKey) (trace : List LogEntry) (choices : List Choice)
    (log : List LogEntry) : Prop where
  admits : ∀ choice ∈ choices, Admits P key trace choice.edits
  write : ∀ vm v r older, (⟨.statusUpdate vm, r⟩ :: older) <:+ log → Read key older v →
    Written v older vm → P trace v.status → P (⟨.statusUpdate vm, r⟩ :: older ++ trace) vm.status

/-- What was persisted was based on a version with a status as it should be. -/
def Grounded (P : Entitles) (key : ObjectKey) (trace log : List LogEntry) : Prop :=
  ∀ entry older, (entry :: older) <:+ log → persists entry = true →
    ∃ v, Read key older v ∧ P trace v.status

/-- The books while a reconcile is under way. -/
structure Persisted (P : Entitles) (key : ObjectKey) (trace : List LogEntry) (site : Site kind)
    (log : List LogEntry) : Prop where
  read : ∀ v, Read key log v → some v ∈ (site.vms.versions key).all
  before : (∀ entry ∈ log, writes entry = false) → Books P key trace site
  after : ((∀ entry ∈ log, records entry = false) ∧ Books P key trace site) ∨
    Books P key (log ++ trace) site
  grounded : Grounded P key trace log

section Reconcile

variable {P : Entitles} {provider key : ObjectKey} {trace log : List LogEntry}
  {site next : Site kind} {choices : List Choice} {out : Outcome Call Answer (Site kind) Return}
  {entry : LogEntry}

theorem Grounded.cons (h : Grounded P key trace log)
    (hentry : persists entry = true → ∃ v, Read key log v ∧ P trace v.status) :
    Grounded P key trace (entry :: log) := by
  intro e older hsuffix hpersists
  rcases List.suffix_cons_iff.mp hsuffix with heq | hsuffix
  · cases heq
    exact hentry hpersists
  · exact h e older hsuffix hpersists

theorem Persisted.start (h : Books P key trace site) : Persisted P key trace site [] where
  read := fun v hv => by cases hv
  before := fun _ => h
  after := .inr h
  grounded := fun entry older hsuffix => by simp at hsuffix

theorem records_of_writes (h : writes entry = false) : records entry = false := by
  unfold records
  split
  · cases h
  · rfl

theorem records_of_persists (h : persists entry = false) : records entry = false := by
  unfold records
  split
  · cases h
  · rfl

/-- A call that leaves the status leaves the books. -/
theorem Persisted.kept (hclean : ∀ entry ∈ log, writes entry = false)
    (hread : ∀ v, Read key (entry :: log) v → some v ∈ (site.vms.versions key).all)
    (hbooks : Books P key trace site) (hentry : records entry = false)
    (hgrounded : Grounded P key trace (entry :: log)) :
    Persisted P key trace site (entry :: log) where
  read := hread
  before := fun _ => hbooks
  after := .inl ⟨List.forall_mem_cons.mpr ⟨hentry, fun e he => records_of_writes (hclean e he)⟩,
    hbooks⟩
  grounded := hgrounded

theorem Persisted.read_next {choice : Choice} (h : Persisted P key trace site log)
    (hanswer : site.answer provider c choice = some (r, next)) (v : VirtualMachine)
    (hv : Read key (⟨c, r⟩ :: log) v) : some v ∈ (next.vms.versions key).all := by
  rcases hv.of_cons with ⟨-, heq⟩ | hold
  · cases heq
    exact Site.answer_read hanswer
  · exact (Site.answer_extends hanswer).versions key (h.read v hold)

/-- One call of a reconcile keeps the books. -/
theorem Persisted.answer {choice : Choice} (h : Persisted P key trace site log)
    (houtlined : Outlined key log c) (hadmits : Admits P key trace choice.edits)
    (hwrite : ∀ vm v, c = .statusUpdate vm → Read key log v → Written v log vm →
      P trace v.status → P (⟨c, r⟩ :: log ++ trace) vm.status)
    (hanswer : site.answer provider c choice = some (r, next)) :
    Persisted P key trace next (⟨c, r⟩ :: log) := by
  have hread := h.read_next hanswer
  have hclean := houtlined.1
  let edited := choice.edits.foldl Site.applyEdit site
  have hbooks : Books P key trace edited :=
    Site.edits_induct (h.before hclean) fun _ _ hbefore hedit => hbefore.edited hadmits hedit
  have hread' : ∀ v, Read key log v → some v ∈ (edited.vms.versions key).all :=
    fun v hv => (Site.edits_extend site choice.edits).versions key (h.read v hv)
  -- What a call leaves that was carried out, whatever its caller sees.
  have hcarries : ∀ r', Site.Carried provider edited choice.ref ⟨c, r'⟩ next →
      (persists ⟨c, r'⟩ = false → persists ⟨c, r⟩ = false) →
      Persisted P key trace next (⟨c, r⟩ :: log) := by
    intro r' hcarried hseen
    rcases hbooks.carried hread' houtlined hcarried with
      ⟨hsame, hunseen⟩ | ⟨vm, v, rfl, hv, hlive, hafter⟩ |
      ⟨vm, v, rfl, hv, hwritten, hlive, hordered, hstatus⟩
    · have hkept : Books P key trace next := by
        constructor
        · intro v hlive w hw
          rw [hsame] at hlive hw
          exact hbooks.ordered v hlive w hw
        · intro v hlive
          rw [hsame] at hlive
          exact hbooks.status v hlive
      refine .kept hclean hread hkept (records_of_persists (hseen hunseen)) (h.grounded.cons ?_)
      intro hpersists
      rw [hseen hunseen] at hpersists
      cases hpersists
    · exact .kept hclean hread hafter rfl
        (h.grounded.cons fun _ => ⟨v, hv, hbooks.status v hlive⟩)
    · constructor
      · exact hread
      · intro hunwritten
        cases hunwritten _ (.head _)
      · right
        refine ⟨hordered, fun w hw => ?_⟩
        rw [hstatus w hw]
        exact hwrite vm v rfl hv hwritten (hbooks.status v hlive)
      · exact h.grounded.cons fun _ => ⟨v, hv, hbooks.status v hlive⟩
  rcases Site.answer_cases hanswer with ⟨lag, -, hlagging, rfl⟩ | hcarried |
    ⟨said, r', -, htruthful, hcarried⟩
  · have hentry : persists ⟨c, r⟩ = false := by
      cases c <;> first | rfl | cases hlagging
    refine .kept hclean hread hbooks (records_of_persists hentry) (h.grounded.cons ?_)
    intro hpersists
    rw [hentry] at hpersists
    cases hpersists
  · exact hcarries r hcarried id
  · exact hcarries r' hcarried fun _ => persists_of_truthful htruthful

/-- A reconcile that pays what it owes keeps the books, wherever it is cut off. -/
theorem Books.run (r : Reconciler) (h : Books P key trace site)
    (hrun : (r.reconcile key).run ⟨Site.answer provider⟩ site [] choices = some out)
    (hledger : Ledger P key trace choices out.log) :
    Persisted P key trace out.state out.log := by
  refine ((reconcile_outlined r key).run_induct (I := Persisted P key trace) hrun
    hledger.admits (.start h) ?_).1
  intro s log c choice answer next hpersisted houtlined hadmits hanswer hsuffix
  refine hpersisted.answer houtlined hadmits ?_ hanswer
  rintro vm v rfl hread hwritten hstatus
  exact hledger.write vm v answer log hsuffix hread hwritten hstatus

/-- The next reconcile finds the books in order: a write of this one was seen to go
through, or what it did asks for none. -/
theorem Persisted.settle (h : Persisted P key trace site log)
    (hunseen : (∀ entry ∈ log, records entry = false) →
      ∀ status, P trace status → P (log ++ trace) status) : Books P key (log ++ trace) site := by
  rcases h.after with ⟨hquiet, hbooks⟩ | hbooks
  · exact ⟨hbooks.ordered, fun v hlive => hunseen hquiet v.status (hbooks.status v hlive)⟩
  · exact hbooks

/-- In every run whose reconciles pay what they owe, the books are in order. -/
theorem books_of_reach (r : Reconciler) {cond : System.Condition Call Answer (Site kind) Choice}
    (hinit : P [] {})
    (hcond : ∀ site trace choices log, cond site trace choices log →
      Ledger P key trace choices log ∧ ((∀ entry ∈ log, records entry = false) →
        ∀ status, P trace status → P (log ++ trace) status))
    (hreach : (system r provider kind key).Reach cond site trace) : Books P key trace site := by
  refine hreach.invariant (J := fun site trace => Books P key trace site) ?_ ?_
  · rintro s ⟨⟨v, hversions, hstatus⟩, -⟩
    have honly : ∀ w, some w ∈ (s.vms.versions key).all → w = v := by
      intro w hw
      rw [hversions] at hw
      exact some.inj (List.mem_singleton.mp hw)
    constructor
    · intro w hlive w' hw'
      left
      rw [honly w' hw', honly w (mem_of_live _ hlive)]
    · intro w hlive
      rw [honly w (mem_of_live _ hlive), hstatus]
      exact hinit
  · intro s trace choices out hbooks hrun hmeets
    obtain ⟨hledger, hunseen⟩ := hcond _ _ _ _ hmeets
    have hstate : (system r provider kind key).settle out = out.state := by
      unfold System.settle
      split <;> rfl
    rw [hstate]
    exact (hbooks.run r hrun hledger).settle hunseen

end Reconcile

end Virtrigaud.VM
