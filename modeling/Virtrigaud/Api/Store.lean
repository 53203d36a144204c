import Mathlib.Logic.Function.Basic
import Virtrigaud.Api.Objects
import Virtrigaud.Effects.History

/-!
# VirtualMachines in the API server

The store keeps every key with its versions, where an absent object is a version as
well. An object never changes its key or its UID: a new UID means a new object.
-/

namespace Virtrigaud

open Effects Option

/-- The VirtualMachines of a cluster, each under its own key. -/
structure VMStore where
  versions : ObjectKey → History (Option VirtualMachine)
  keyed : ∀ key vm, some vm ∈ (versions key).all → vm.objectMeta.key = key

namespace VMStore

variable (store : VMStore)

/-- The VirtualMachine that lives under a key now. -/
def live (key : ObjectKey) : Option VirtualMachine := (store.versions key).current

variable {vm : VirtualMachine}

theorem live_key {key : ObjectKey} (h : store.live key = some vm) :
    vm.objectMeta.key = key :=
  store.keyed key vm (h ▸ History.current_mem_all _)

theorem mem_of_live {key : ObjectKey} (h : store.live key = some vm) :
    some vm ∈ (store.versions key).all :=
  h ▸ History.current_mem_all _

/-- Make `vm` the current version of a key. -/
def put (key : ObjectKey) (vm : Option VirtualMachine)
    (hkey : ∀ new, vm = some new → new.objectMeta.key = key) : VMStore where
  versions := Function.update store.versions key ((store.versions key).push vm)
  keyed := by
    intro other found hfound
    by_cases hother : other = key
    · subst hother
      rw [Function.update_self] at hfound
      rcases History.mem_all_push.mp hfound with heq | hold
      · exact hkey found heq.symm
      · exact store.keyed other found hold
    · rw [Function.update_of_ne hother] at hfound
      exact store.keyed other found hfound

/-- Store a new object, unless one lives under its key. -/
def create (vm : VirtualMachine) : Option VMStore :=
  match store.live vm.objectMeta.key with
  | some _ => none
  | none => some (store.put vm.objectMeta.key (some vm) fun _ h => some.inj h ▸ rfl)

/-- Replace the object that lives under a key by one of the same key, or remove it. -/
def modify (key : ObjectKey) (f : VirtualMachine → Option VirtualMachine)
    (hf : ∀ old new, f old = some new → new.objectMeta.key = old.objectMeta.key) :
    Option VMStore :=
  match h : store.live key with
  | none => none
  | some old => some (store.put key (f old) fun new hnew =>
      (hf old new hnew).trans (store.live_key h))

/-- A write of metadata, spec and status over the live object. -/
def replace (vm : VirtualMachine) : Option VMStore :=
  store.modify vm.objectMeta.key
    (fun old => some { vm with
      objectMeta := old.objectMeta.next vm.objectMeta (old.spec ≠ vm.spec) })
    fun _ _ h => some.inj h ▸ rfl

/-- A write of metadata and spec; the status is a subresource. -/
def update (vm : VirtualMachine) : Option VMStore :=
  store.modify vm.objectMeta.key
    (fun old => some { old with
      objectMeta := old.objectMeta.next vm.objectMeta (old.spec ≠ vm.spec), spec := vm.spec })
    fun _ _ h => some.inj h ▸ rfl

/-- The merge patch that sets the desired power state. -/
def poweredOff (old : VirtualMachine) : VirtualMachine :=
  { old with
    objectMeta := old.objectMeta.next old.objectMeta true
    spec := { old.spec with powerState := .off } }

def powerOff (key : ObjectKey) : Option VMStore :=
  store.modify key (fun old => some (poweredOff old)) fun _ _ h => some.inj h ▸ rfl

/-- What a deletion leaves: an object with finalizers is only marked. -/
def deleted (clock : Time) (old : VirtualMachine) : Option VirtualMachine :=
  if old.objectMeta.finalizers = [] then none
  else some { old with objectMeta := { old.objectMeta with
    deletionTimestamp := some (old.objectMeta.deletionTimestamp.getD clock)
    resourceVersion := old.objectMeta.resourceVersion + 1 } }

variable {old : VirtualMachine} {new : VirtualMachine}

theorem deleted_eq_some {clock : Time} (h : deleted clock old = some new) :
    new.status = old.status ∧ new.spec = old.spec ∧ new.objectMeta.labels = old.objectMeta.labels ∧
      new.objectMeta.deletionTimestamp.isSome = true := by
  unfold deleted at h
  split at h
  · cases h
  · cases h
    exact ⟨rfl, rfl, rfl, rfl⟩

theorem deleted_version {clock : Time} (h : deleted clock old = some new) :
    new.objectMeta.resourceVersion = old.objectMeta.resourceVersion + 1 := by
  unfold deleted at h
  split at h
  · cases h
  · cases h
    rfl

def delete (key : ObjectKey) (clock : Time) : Option VMStore :=
  store.modify key (deleted clock) fun old new h => by
    unfold deleted at h
    split at h
    · cases h
    · rw [← some.inj h]
      rfl

/-- What a write of metadata and spec leaves: an object that is being deleted goes with its
last finalizer. -/
def written (vm old : VirtualMachine) : Option VirtualMachine :=
  if old.objectMeta.deletionTimestamp.isSome ∧ vm.objectMeta.finalizers = [] then none
  else some { old with
    objectMeta := { old.objectMeta.next vm.objectMeta (old.spec ≠ vm.spec) with
      deletionTimestamp := old.objectMeta.deletionTimestamp }
    spec := vm.spec }

theorem written_eq_some (h : written vm old = some new) :
    new.status = old.status ∧ new.spec = vm.spec ∧ new.objectMeta.labels = vm.objectMeta.labels ∧
      new.objectMeta.deletionTimestamp = old.objectMeta.deletionTimestamp := by
  unfold written at h
  split at h
  · cases h
  · cases h
    exact ⟨rfl, rfl, rfl, rfl⟩

theorem written_version (h : written vm old = some new) :
    new.objectMeta.resourceVersion = old.objectMeta.resourceVersion + 1 := by
  unfold written at h
  split at h
  · cases h
  · cases h
    rfl

def write (vm : VirtualMachine) : Option VMStore :=
  store.modify vm.objectMeta.key (written vm) fun old new h => by
    unfold written at h
    split at h
    · cases h
    · rw [← some.inj h]
      rfl

/-- The object as a write of the status leaves it. -/
def withStatus (status : VirtualMachineStatus) (old : VirtualMachine) : VirtualMachine :=
  { old with objectMeta := old.objectMeta.next old.objectMeta false, status }

def writeStatus (key : ObjectKey) (status : VirtualMachineStatus) : Option VMStore :=
  store.modify key (fun old => some (withStatus status old)) fun _ _ h => some.inj h ▸ rfl

/-- The object is gone. -/
def remove (key : ObjectKey) : Option VMStore :=
  store.modify key (fun _ => none) fun _ _ h => by cases h

/-- A store with the given objects and no history. -/
def ofList (vms : List VirtualMachine) : VMStore where
  versions key := ⟨vms.find? (·.objectMeta.key = key), []⟩
  keyed := by
    intro key vm hvm
    have hfound := List.mem_singleton.mp hvm
    simpa using List.find?_some hfound.symm

variable {store} {next : VMStore} {key other : ObjectKey} {vm : VirtualMachine}

variable {new : Option VirtualMachine}

@[simp] theorem put_versions_self {hkey} :
    (store.put key new hkey).versions key = (store.versions key).push new :=
  Function.update_self ..

theorem put_versions_of_ne {hkey} (hother : other ≠ key) :
    (store.put key new hkey).versions other = store.versions other :=
  Function.update_of_ne hother ..

theorem live_put_self {hkey} :
    (store.put key new hkey).live key = new := by
  unfold live
  rw [put_versions_self, History.current_push]

theorem live_put_of_ne {hkey} (hother : other ≠ key) :
    (store.put key new hkey).live other = store.live other := by
  unfold live
  rw [put_versions_of_ne hother]

theorem live_put_cases {vm : VirtualMachine}
    (hkey : ∀ vm, new = some vm → vm.objectMeta.key = key)
    (h : (store.put key new hkey).live other = some vm) :
    (key = other ∧ new = some vm) ∨ store.live other = some vm := by
  by_cases hother : other = key
  · subst hother
    rw [live_put_self] at h
    exact .inl ⟨rfl, h⟩
  · rw [live_put_of_ne hother] at h
    exact .inr h

theorem mem_put {version : Option VirtualMachine}
    (hkey : ∀ vm, new = some vm → vm.objectMeta.key = key)
    (h : version ∈ ((store.put key new hkey).versions other).all) :
    (other = key ∧ version = new) ∨ version ∈ (store.versions other).all := by
  by_cases hother : other = key
  · subst hother
    rw [put_versions_self] at h
    rcases History.mem_all_push.mp h with hnew | hold
    · exact .inl ⟨rfl, hnew⟩
    · exact .inr hold
  · rw [put_versions_of_ne hother] at h
    exact .inr h

theorem subset_put (hkey : ∀ vm, new = some vm → vm.objectMeta.key = key) (other : ObjectKey) :
    (store.versions other).all ⊆ ((store.put key new hkey).versions other).all := by
  by_cases hother : other = key
  · subst hother
    rw [put_versions_self]
    exact List.subset_cons_self _ _
  · rw [put_versions_of_ne hother]
    exact List.Subset.refl _

theorem create_eq_some (h : store.create vm = some next) :
    store.live vm.objectMeta.key = none ∧
      ∃ hkey, next = store.put vm.objectMeta.key (some vm) hkey := by
  unfold create at h
  split at h
  · cases h
  · rename_i hlive
    cases h
    exact ⟨hlive, _, rfl⟩

variable {f : VirtualMachine → Option VirtualMachine}

theorem modify_eq_some {hf} (h : store.modify key f hf = some next) :
    ∃ old, store.live key = some old ∧ ∃ hkey, next = store.put key (f old) hkey := by
  unfold modify at h
  split at h
  · cases h
  · rename_i old hlive
    cases h
    exact ⟨old, hlive, _, rfl⟩

/-- The live object was replaced by another version of itself. -/
def SameObject (old new : Option VirtualMachine) : Prop :=
  ∃ o n, old = some o ∧ new = some n ∧ n.objectMeta.uid = o.objectMeta.uid

theorem create_grows (h : store.create vm = some next) (other : ObjectKey) :
    History.Grows (fun old new => other = vm.objectMeta.key ∧ old = none ∧ new = some vm)
      (store.versions other) (next.versions other) := by
  obtain ⟨hlive, hkey, rfl⟩ := create_eq_some h
  by_cases hother : other = vm.objectMeta.key
  · rw [hother, put_versions_self]
    exact (History.Grows.refl _).push ⟨rfl, hlive, rfl⟩
  · rw [put_versions_of_ne hother]
    exact .refl _

theorem modify_grows {hf} (h : store.modify key f hf = some next) (other : ObjectKey) :
    History.Grows (fun old new => other = key ∧ ∃ o, old = some o ∧ new = f o)
      (store.versions other) (next.versions other) := by
  obtain ⟨old, hlive, hkey, rfl⟩ := modify_eq_some h
  by_cases hother : other = key
  · rw [hother, put_versions_self]
    exact (History.Grows.refl _).push ⟨rfl, old, hlive, rfl⟩
  · rw [put_versions_of_ne hother]
    exact .refl _

/-- An operation that keeps the UID replaces the object by a version of itself. -/
theorem modify_grows_same {hf} (h : store.modify key f hf = some next)
    (huid : ∀ old, ∃ new, f old = some new ∧ new.objectMeta.uid = old.objectMeta.uid)
    (other : ObjectKey) :
    History.Grows SameObject (store.versions other) (next.versions other) := by
  refine (modify_grows h other).mono ?_
  rintro _ _ ⟨-, old, rfl, rfl⟩
  obtain ⟨new, hnew, hsame⟩ := huid old
  exact ⟨old, new, rfl, hnew, hsame⟩

theorem replace_grows (h : store.replace vm = some next) (other : ObjectKey) :
    History.Grows SameObject (store.versions other) (next.versions other) :=
  modify_grows_same h (fun _ => ⟨_, rfl, rfl⟩) other

theorem update_grows (h : store.update vm = some next) (other : ObjectKey) :
    History.Grows SameObject (store.versions other) (next.versions other) :=
  modify_grows_same h (fun _ => ⟨_, rfl, rfl⟩) other

theorem powerOff_grows (h : store.powerOff key = some next) (other : ObjectKey) :
    History.Grows SameObject (store.versions other) (next.versions other) :=
  modify_grows_same h (fun _ => ⟨_, rfl, rfl⟩) other

end VMStore

end Virtrigaud
