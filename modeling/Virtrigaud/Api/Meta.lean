import Mathlib.Tactic.Common

/-!
# Object metadata, errors and conditions

The parts of the Kubernetes API machinery that the controllers read and write:
namespaced names, references, object metadata, API errors and status conditions.
Optional string fields are the empty string, as in the Go types.
-/

namespace Virtrigaud

/-- Nanoseconds since the epoch. -/
abbrev Time := Int

/-- `time.Duration`: nanoseconds. -/
abbrev Duration := Int

def second : Duration := 1000000000

def minute : Duration := 60 * second

/-- What `errors.IsNotFound`, `errors.IsConflict` and `errors.IsAlreadyExists` tell apart. -/
inductive ErrorReason
  | notFound
  | conflict
  | alreadyExists
  | other
  deriving DecidableEq, Repr

/-- An error value: its text, and its reason, which `%w` keeps. -/
structure GoError where
  reason : ErrorReason
  text : String
  deriving DecidableEq, Repr

/-- `fmt.Errorf` without a wrapped error. -/
def errorf (text : String) : GoError := ⟨.other, text⟩

/-- `fmt.Errorf("message: %w", err)`. -/
def GoError.wrap (err : GoError) (message : String) : GoError :=
  { err with text := message ++ ": " ++ err.text }

/-- `types.NamespacedName`. -/
structure ObjectKey where
  (ns name : String)
  deriving DecidableEq, Repr

structure ObjectRef where
  (name ns : String := "")
  deriving DecidableEq, Repr

structure LocalObjectReference where
  name : String
  deriving DecidableEq, Repr

/-- The key a reference denotes for an object in `defaultNamespace`. -/
def ObjectRef.key (ref : ObjectRef) (defaultNamespace : String) : ObjectKey :=
  ⟨if ref.ns = "" then defaultNamespace else ref.ns, ref.name⟩

/-- `map[string]string`; the first pair of a key counts. -/
abbrev StringMap := List (String × String)

def StringMap.set (m : StringMap) (key value : String) : StringMap :=
  (key, value) :: m.filter fun pair => pair.1 ≠ key

/-- The entry of a key, or the empty string. -/
def StringMap.get (m : StringMap) (key : String) : String := (m.lookup key).getD ""

structure ObjectMeta where
  (name ns uid : String := "")
  generation : Int := 0
  resourceVersion : Nat := 0
  creationTimestamp : Time := 0
  deletionTimestamp : Option Time := none
  finalizers : List String := []
  (labels annotations : StringMap := [])
  deriving DecidableEq, Repr

section

variable (m : ObjectMeta) (finalizer : String)

def ObjectMeta.key : ObjectKey := ⟨m.ns, m.name⟩

/-- `controllerutil.ContainsFinalizer`. -/
def ObjectMeta.containsFinalizer : Bool :=
  m.finalizers.contains finalizer

/-- `controllerutil.AddFinalizer` on an object that does not have it. -/
def ObjectMeta.addFinalizer : ObjectMeta :=
  { m with finalizers := m.finalizers ++ [finalizer] }

/-- `controllerutil.RemoveFinalizer`. -/
def ObjectMeta.removeFinalizer : ObjectMeta :=
  { m with finalizers := m.finalizers.filter (· ≠ finalizer) }

end

/-- The metadata of an object's next version. Its identity does not change. -/
def ObjectMeta.next (old new : ObjectMeta) (specChanged : Bool) : ObjectMeta :=
  { new with
    name := old.name, ns := old.ns, uid := old.uid
    generation := if specChanged then old.generation + 1 else old.generation
    resourceVersion := old.resourceVersion + 1 }

/-- `ctrl.Result`. -/
structure Result where
  requeue : Bool := false
  requeueAfter : Duration := 0
  deriving DecidableEq, Repr

/-- What Reconcile and its handlers return. -/
abbrev Return := Result × Option GoError

def Result.again : Result := { requeue := true }

def Result.after (delay : Duration) : Result := { requeueAfter := delay }

inductive ConditionStatus
  | conditionTrue
  | conditionFalse
  | conditionUnknown
  deriving DecidableEq, Repr

/-- How a condition status prints. -/
def ConditionStatus.text : ConditionStatus → String
  | .conditionTrue => "True"
  | .conditionFalse => "False"
  | .conditionUnknown => "Unknown"

structure Condition where
  type : String
  status : ConditionStatus
  (reason message : String)
  deriving DecidableEq, Repr

/-- Replace the first condition of the type, or append a new one. -/
def setCondition (conditions : List Condition) (conditionType : String)
    (status : ConditionStatus) (reason message : String) : List Condition :=
  match conditions with
  | [] => [⟨conditionType, status, reason, message⟩]
  | existing :: rest =>
    if existing.type = conditionType then ⟨conditionType, status, reason, message⟩ :: rest
    else existing :: setCondition rest conditionType status reason message

def getCondition (conditions : List Condition) (conditionType : String) : Option Condition :=
  conditions.find? fun condition => condition.type = conditionType

def isConditionTrue (conditions : List Condition) (conditionType : String) : Bool :=
  match getCondition conditions conditionType with
  | some condition => condition.status = .conditionTrue
  | none => false

/-- Setting a condition is seen by a lookup of its type and by no other lookup. -/
theorem getCondition_setCondition (conditions : List Condition) (conditionType other : String)
    (status : ConditionStatus) (reason message : String) :
    getCondition (setCondition conditions conditionType status reason message) other =
      if conditionType = other then some ⟨conditionType, status, reason, message⟩
      else getCondition conditions other := by
  induction conditions with
  | nil =>
    by_cases h : conditionType = other <;> simp [setCondition, getCondition, h]
  | cons existing rest ih =>
    rw [setCondition]
    by_cases hsame : existing.type = conditionType
    · by_cases h : conditionType = other
      · simp [getCondition, hsame, h]
      · simp [getCondition, hsame, h]
    · rw [if_neg hsame]
      by_cases h : existing.type = other
      · have hne : conditionType ≠ other := fun he => hsame (h.trans he.symm)
        simp [getCondition, h, hne]
      · simp only [getCondition, List.find?_cons, h, decide_false] at ih ⊢
        exact ih

@[simp] theorem isConditionTrue_setCondition (conditions : List Condition)
    (conditionType other : String) (status : ConditionStatus) (reason message : String) :
    isConditionTrue (setCondition conditions conditionType status reason message) other =
      if conditionType = other then decide (status = .conditionTrue)
      else isConditionTrue conditions other := by
  rw [isConditionTrue, getCondition_setCondition]
  by_cases h : conditionType = other
  · simp [h]
  · simp [h, isConditionTrue]

end Virtrigaud
