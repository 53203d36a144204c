import Virtrigaud.Api.Meta

/-!
# The snapshot that an id stands for

`SnapshotDelete` and `SnapshotRevert` look the id up in the tree of snapshots, where a node is taken
for its reference or for its name, whichever comes first.
-/

namespace Virtrigaud.Vsphere

/-- A node of the tree: the value of its reference, and its name. -/
structure Snapshot where
  (value name : String)
  deriving DecidableEq, Repr

/-- A list of `VirtualMachineSnapshotTree`: the first node with its children, and its siblings. -/
inductive SnapshotTrees
  | nil
  | cons (root : Snapshot) (children rest : SnapshotTrees)

def SnapshotTrees.nodes : SnapshotTrees → List Snapshot
  | .nil => []
  | .cons root children rest => root :: (children.nodes ++ rest.nodes)

def findSnapshotByID (id : String) : SnapshotTrees → Option Snapshot
  | .nil => none
  | .cons root children rest =>
    if root.value = id then some root
    else if root.name = id then some root
    else (findSnapshotByID id children).or (findSnapshotByID id rest)

/-- The node whose reference goes into the task, from the answer about the VM's snapshots. -/
def locate (failure : String) (snapshots : Except GoError (Option SnapshotTrees)) (id : String) :
    Except GoError Snapshot :=
  match snapshots with
  | .error err => .error (err.wrap failure)
  | .ok none => .error (errorf "VM has no snapshots")
  | .ok (some trees) =>
    match findSnapshotByID id trees with
    | none => .error (errorf ("snapshot not found: " ++ id))
    | some snapshot => .ok snapshot

def snapshotDelete := locate "failed to get VM snapshot properties"

def snapshotRevert := locate "failed to get VM properties"

variable {id : String} {snapshot : Snapshot}

/-- The search takes the first node, in depth-first order, with the reference or the name. -/
theorem findSnapshotByID_eq_find? (trees : SnapshotTrees) :
    findSnapshotByID id trees = trees.nodes.find? fun s => s.value = id ∨ s.name = id := by
  induction trees with
  | nil => rfl
  | cons root children rest ihChildren ihRest =>
    rw [findSnapshotByID, SnapshotTrees.nodes, List.find?_cons, List.find?_append, ihChildren,
      ihRest]
    split_ifs with hroot hname
    · simp [hroot]
    · simp [hname]
    · simp [hroot, hname]

/-- Of a list that has the reference: the first match is one of the reference exactly if no node
before it has the name. -/
theorem find?_value_iff {nodes : List Snapshot} (hmem : snapshot ∈ nodes)
    (hvalue : snapshot.value = id) :
    (∃ found, nodes.find? (fun s => s.value = id ∨ s.name = id) = some found ∧
        found.value = id) ↔
      ∀ before ∈ nodes.takeWhile (·.value ≠ id), before.name ≠ id := by
  induction nodes with
  | nil => cases hmem
  | cons node nodes ih =>
    by_cases hnode : node.value = id
    · simp [hnode]
    · have htail : snapshot ∈ nodes := by
        refine (List.mem_cons.mp hmem).resolve_left ?_
        rintro rfl
        exact hnode hvalue
      by_cases hname : node.name = id
      · simp [hname, hnode]
      · simpa [hname, hnode] using ih htail

/-- The operations work on the snapshot with the id for its reference exactly if no node that the
search meets before it has the id for its name. -/
theorem id_designates_snapshot {trees : SnapshotTrees} (hmem : snapshot ∈ trees.nodes)
    (hvalue : snapshot.value = id) :
    (∃ found ∈ trees.nodes, found.value = id ∧ findSnapshotByID id trees = some found ∧
        snapshotDelete (.ok (some trees)) id = .ok found ∧
        snapshotRevert (.ok (some trees)) id = .ok found) ↔
      ∀ before ∈ trees.nodes.takeWhile (·.value ≠ id), before.name ≠ id := by
  rw [← find?_value_iff hmem hvalue, ← findSnapshotByID_eq_find?]
  constructor
  · rintro ⟨found, -, hid, hfound, -⟩
    exact ⟨found, hfound, hid⟩
  · rintro ⟨found, hfound, hid⟩
    have hnode : found ∈ trees.nodes := by
      rw [findSnapshotByID_eq_find?] at hfound
      exact List.mem_of_find?_eq_some hfound
    have hlocate : ∀ failure, locate failure (.ok (some trees)) id = .ok found := by
      intro failure
      simp only [locate, hfound]
    exact ⟨found, hnode, hid, hfound, hlocate _, hlocate _⟩

namespace Sample

/-- A snapshot of this name, and one that was taken after it. -/
def nested (name : String) : SnapshotTrees :=
  .cons ⟨"snapshot-7", name⟩ (.cons ⟨"snapshot-8", "after"⟩ .nil .nil) .nil

end Sample

theorem id_designates_snapshot_nested :
    ∃ found ∈ (Sample.nested "before").nodes, found.value = "snapshot-8" ∧
      findSnapshotByID "snapshot-8" (Sample.nested "before") = some found ∧
      snapshotDelete (.ok (some (Sample.nested "before"))) "snapshot-8" = .ok found ∧
      snapshotRevert (.ok (some (Sample.nested "before"))) "snapshot-8" = .ok found :=
  (@id_designates_snapshot _ ⟨"snapshot-8", "after"⟩ _ (by decide) rfl).mpr (by decide)

/-- A snapshot that is called as another one is referred to is deleted in its place. -/
theorem name_hides_snapshot :
    ⟨"snapshot-8", "after"⟩ ∈ (Sample.nested "snapshot-8").nodes ∧
      (snapshotDelete (.ok (some (Sample.nested "snapshot-8"))) "snapshot-8").toOption.map
        Snapshot.value = some "snapshot-7" ∧
      (snapshotRevert (.ok (some (Sample.nested "snapshot-8"))) "snapshot-8").toOption.map
        Snapshot.value = some "snapshot-7" := by
  decide

end Virtrigaud.Vsphere
