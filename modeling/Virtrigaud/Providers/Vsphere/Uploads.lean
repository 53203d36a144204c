import Mathlib.Tactic.Common

/-!
# Uploads to a datastore

`UploadFile` takes its parameters through a pointer to the default ones of the library, so all
uploads of the process write the length of their file to one place. `Datastore.Upload` copies what
is there when it makes its request.
-/

namespace Virtrigaud.Vsphere.Uploads

/-- `soap.Upload`. The progress of `UploadFile` is counted by its reader and not here. -/
structure Params where
  type : String := "application/octet-stream"
  method : String := "PUT"
  contentLength : Int := 0
  progress : Option Nat := none
  deriving DecidableEq, Repr

def defaultUpload : Params := {}

/-- The two steps of an upload: its length is set, and the request is made. -/
inductive Step
  | prepare (upload : Nat)
  | send (upload : Nat)

/-- A file of unknown or no length leaves what was set before. -/
def prepare (param : Params) (contentLength : Int) : Params :=
  if contentLength > 0 then { param with contentLength } else param

/-- The requests of a run, with the parameters they are made with. -/
def requests (length : Nat → Int) : Params → List Step → List (Nat × Params)
  | _, [] => []
  | param, .prepare upload :: later => requests length (prepare param (length upload)) later
  | param, .send upload :: later => (upload, param) :: requests length param later

/-- What an upload is to be sent with. -/
def own (contentLength : Int) : Params := prepare defaultUpload contentLength

/-- Every request is made while the last length that was set is its own. -/
def Undisturbed : Option Nat → List Step → Prop
  | _, [] => True
  | _, .prepare upload :: later => Undisturbed (some upload) later
  | last, .send upload :: later => last = some upload ∧ Undisturbed last later

/-- A run in which the parameters are those of the upload that has set them last. -/
theorem requests_own {length : Nat → Int} (hlength : ∀ upload, 0 < length upload)
    {steps : List Step} {param : Params} {last : Option Nat}
    (hsteps : Undisturbed last steps)
    (hparam : { param with contentLength := 0 } = defaultUpload)
    (hlast : ∀ upload, last = some upload → param = own (length upload)) :
    ∀ request ∈ requests length param steps, request.2 = own (length request.1) := by
  induction steps generalizing param last with
  | nil => exact nofun
  | cons step later ih =>
    cases step with
    | prepare upload =>
      have hset : prepare param (length upload) = own (length upload) := by
        have hdefault : prepare { param with contentLength := 0 } (length upload) =
            prepare param (length upload) := by
          unfold prepare
          rw [if_pos (hlength upload), if_pos (hlength upload)]
        rw [← hdefault, hparam]
        rfl
      refine ih hsteps ?_ fun other hother => ?_
      · rw [hset, own, prepare, if_pos (hlength upload)]
        rfl
      · rw [hset, Option.some.inj hother]
    | send upload =>
      exact List.forall_mem_cons.mpr ⟨hlast upload hsteps.1, ih hsteps.2 hparam hlast⟩

/-- Uploads of files that are not empty, none of which sets its length while another is between its
two steps. -/
theorem uploads_independent {length : Nat → Int} (hlength : ∀ upload, 0 < length upload)
    {steps : List Step} (hsteps : Undisturbed none steps) :
    ∀ request ∈ requests length defaultUpload steps, request.2 = own (length request.1) :=
  requests_own hlength hsteps rfl nofun

/-- Two uploads, one after the other. -/
def Sample.twice : List Step := [.prepare 0, .send 0, .prepare 6, .send 6]

theorem uploads_independent_twice :
    Undisturbed none Sample.twice ∧
      ∀ request ∈ requests (fun upload => upload + 1) defaultUpload Sample.twice,
        request.2 = own (request.1 + 1) := by
  have hsteps : Undisturbed none Sample.twice := ⟨rfl, rfl, trivial⟩
  exact ⟨hsteps,
    uploads_independent (fun upload => Int.natCast_pos.mpr upload.succ_pos) hsteps⟩

/-- An empty file after one of seven bytes, and two uploads at the same time. -/
theorem uploads_interfere :
    requests (fun upload => if upload = 0 then 7 else 0) defaultUpload
        [.prepare 0, .send 0, .prepare 1, .send 1] = [(0, own 7), (1, own 7)] ∧
      requests (fun upload => if upload = 0 then 7 else 9) defaultUpload
        [.prepare 0, .prepare 1, .send 0, .send 1] = [(0, own 9), (1, own 9)] ∧
      own 7 ≠ own 0 ∧ own 7 ≠ own 9 := by
  decide

end Virtrigaud.Vsphere.Uploads
