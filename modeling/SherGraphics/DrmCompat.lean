/-
`graphics_compat`: the requests that the DRM shim answers with calls of the
runtime, and the machine of live handles that a client of the shim takes it
for.
-/
import Mathlib.Data.Set.Insert
import SherGraphics.Execution
import SherGraphics.Runtime

namespace SherGraphics

inductive DrmRequest where
  | gemCreate (device : ObjectId) (size : Nat)
  | gemClose (handle : ObjectId)
  | primeHandleToFd (handle : ObjectId)
  | modeGetResources
deriving DecidableEq, Repr

inductive DrmResponse where
  | gemHandle (id : ObjectId)
  | closed
  | primeFd (id : ObjectId)
  | resources (ids : List ObjectId)
deriving DecidableEq, Repr

namespace DrmCompatShim

variable {D P : Type} [GpuDriver D]

/-- The shim holds nothing but the runtime it was given. -/
def handle : DrmRequest → Method Error (GraphicsRuntime D P) DrmResponse
  | .gemCreate device size => do
      let resource ← GraphicsRuntime.createResource device (.buffer size {})
        .deviceLocal
      pure (.gemHandle resource.id)
  | .gemClose handle => do
      GraphicsRuntime.freeResource handle
      pure .closed
  | .primeHandleToFd handle => pure (.primeFd handle)
  | .modeGetResources => pure (.resources [])

/-- The shim as a machine. -/
def step (runtime : GraphicsRuntime D P) (request : DrmRequest) :
    Result DrmResponse × GraphicsRuntime D P :=
  handle request runtime

end DrmCompatShim

/-! ### The machine of live handles -/

/-- The handles that are live, and those that were ever issued. -/
structure GemTable where
  live : Set ObjectId
  issued : Set ObjectId

namespace GemTable

def empty : GemTable := ⟨∅, ∅⟩

/-- What the machine may answer.  Whether there is memory for a new object is
left open, and so is the text of an error. -/
inductive Step : GemTable → DrmRequest → Result DrmResponse → GemTable → Prop
  | created {table : GemTable} {device handle : ObjectId} {size : Nat}
      (hnew : handle ∉ table.issued) :
      Step table (.gemCreate device size) (.ok (.gemHandle handle))
        ⟨insert handle table.live, insert handle table.issued⟩
  | notCreated {table : GemTable} {device : ObjectId} {size : Nat}
      (error : Error) :
      Step table (.gemCreate device size) (.error error) table
  | closed {table : GemTable} {handle : ObjectId}
      (hlive : handle ∈ table.live) :
      Step table (.gemClose handle) (.ok .closed)
        { table with live := table.live \ {handle} }
  | notClosed {table : GemTable} {handle : ObjectId}
      (hdead : handle ∉ table.live) (error : Error) :
      Step table (.gemClose handle) (.error error) table
  | exported {table : GemTable} {handle : ObjectId}
      (hlive : handle ∈ table.live) :
      Step table (.primeHandleToFd handle) (.ok (.primeFd handle)) table
  | notExported {table : GemTable} {handle : ObjectId}
      (hdead : handle ∉ table.live) (error : Error) :
      Step table (.primeHandleToFd handle) (.error error) table
  | resources {table : GemTable} :
      Step table .modeGetResources (.ok (.resources [])) table

/-- The machine can answer these requests so, and ends with this table. -/
def Answers (observed : List (DrmRequest × Result DrmResponse))
    (last : GemTable) : Prop :=
  ∃ trace, Execution Step empty trace last ∧
    trace.map (fun e => (e.action, e.answer)) = observed

end GemTable

end SherGraphics
