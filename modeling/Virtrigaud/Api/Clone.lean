import Virtrigaud.Api.Contracts
import Virtrigaud.Go.Json

/-!
# VMClone

The VMClone object and the clone RPC, reduced to the fields the clone controller reads or
writes. A JSON text is its tree, and no tree when the text is empty.
-/

namespace Virtrigaud

inductive CloneType
  | unset
  | fullClone
  | linkedClone
  | instantClone
  deriving DecidableEq, Repr

inductive ClonePhase
  | unset
  | pending
  | preparing
  | cloning
  | customizing
  | poweringOn
  | ready
  | failed
  deriving DecidableEq, Repr

structure VMCloneTarget where
  name : String
  ns : String := ""
  (classRef placementRef : Option LocalObjectReference := none)
  networks : List VMNetworkRef := []
  (labels annotations : StringMap := [])
  deriving DecidableEq, Repr

/-- `type` is the member of `options`, and `customization` the JSON of the field. -/
structure VMCloneSpec where
  vmRef : Option LocalObjectReference := none
  target : VMCloneTarget
  type : CloneType := .unset
  customization : Option Go.Json := none

structure VMCloneStatus where
  targetRef : Option LocalObjectReference := none
  targetVMID : String := ""
  phase : ClonePhase := .unset
  (message taskRef : String := "")
  (startTime completionTime : Option Time := none)
  actualCloneType : CloneType := .unset
  conditions : List Condition := []
  observedGeneration : Int := 0
  deriving DecidableEq, Repr

structure VMClone where
  objectMeta : ObjectMeta := {}
  spec : VMCloneSpec
  status : VMCloneStatus := {}

structure CloneRequest where
  (sourceVmID targetName : String)
  linked : Bool := false
  (classJSON placementJSON customizeJSON : Option Go.Json := none)

structure CloneResponse where
  targetVmID : String
  taskRef : String := ""
  deriving DecidableEq, Repr

/-- How a `resource.Quantity` is printed and parsed; what was printed parses to itself. -/
structure QuantityCodec where
  text : Int → String
  parse : String → Option Int
  parse_text : ∀ bytes, parse (text bytes) = some bytes

end Virtrigaud
