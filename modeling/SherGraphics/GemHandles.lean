/-
The handles of the DRM shim over the software driver, from a runtime without
resources.  Creating and closing follow the machine of live handles.  Exporting
does not ask whether the handle is live.
-/
import SherGraphics.DrmCompat

namespace SherGraphics

namespace GemTable

/-- A table, a request and an answer leave one table to go on with. -/
theorem Step.deterministic {table next other : GemTable} {request : DrmRequest}
    {answer : Result DrmResponse} (hstep : Step table request answer next)
    (hother : Step table request answer other) : next = other := by
  cases hstep with
  | created hnew => cases hother with | created _ => rfl
  | notCreated error => cases hother with | notCreated _ => rfl
  | closed hlive => cases hother with | closed _ => rfl
  | notClosed hdead error => cases hother with | notClosed _ _ => rfl
  | exported hlive => cases hother with | exported _ => rfl
  | notExported hdead error => cases hother with | notExported _ _ => rfl
  | resources => cases hother with | resources => rfl

theorem answers_nil {last : GemTable} : Answers [] last ↔ last = empty := by
  constructor
  · rintro ⟨trace, hrun, hseen⟩
    rw [List.map_eq_nil_iff] at hseen
    subst hseen
    generalize hpast : ([] : List (Event GemTable DrmRequest
      (Result DrmResponse))) = past at hrun
    cases hrun with
    | nil => rfl
    | snoc hbefore hstep => simp at hpast
  · rintro rfl
    exact ⟨[], .nil, rfl⟩

/-- One answer more is one step more of the machine. -/
theorem answers_concat {observed : List (DrmRequest × Result DrmResponse)}
    {request : DrmRequest} {answer : Result DrmResponse} {last : GemTable} :
    Answers (observed ++ [(request, answer)]) last ↔
      ∃ table, Answers observed table ∧ Step table request answer last := by
  constructor
  · rintro ⟨trace, hrun, hseen⟩
    cases hrun with
    | nil => simp at hseen
    | @snoc past now _ action given hbefore hstep =>
        rw [List.map_append] at hseen
        obtain ⟨hpast, hlast⟩ := List.append_inj' hseen rfl
        simp only [List.map_cons, List.map_nil, List.cons.injEq,
          Prod.mk.injEq, and_true] at hlast
        obtain ⟨rfl, rfl⟩ := hlast
        exact ⟨now, ⟨past, hbefore, hpast⟩, hstep⟩
  · rintro ⟨table, ⟨trace, hrun, rfl⟩, hstep⟩
    exact ⟨_, hrun.snoc hstep, by simp⟩

end GemTable

namespace DrmCompatShim

open GraphicsRuntime

variable {P : Type}

/-- The handle names a resource of the runtime. -/
def Registered (runtime : SoftwareRuntime P) (handle : ObjectId) : Prop :=
  ∃ row, runtime.resources.get handle = some row

/-- The memory of every resource can be freed. -/
def Freeable (runtime : SoftwareRuntime P) : Prop :=
  ∀ handle, Registered runtime handle → ∃ allocation found,
    runtime.driver.allocations.get handle = some allocation ∧
      runtime.driver.devices.get allocation.device = some found

/-- The table and the runtime have the same handles. -/
structure Tracks (table : GemTable) (runtime : SoftwareRuntime P) : Prop where
  live : ∀ handle, handle ∈ table.live ↔ Registered runtime handle
  issued : ∀ handle ∈ table.issued, runtime.ids.Issued handle
  freeable : Freeable runtime

/-- An export is asked for a handle that names a resource. -/
def ExportsLive (e : Event (SoftwareRuntime P) DrmRequest
    (Result DrmResponse)) : Prop :=
  ∀ handle, e.action = .primeHandleToFd handle → Registered e.before handle

/-! ### Creating -/

section Create

variable (now : SoftwareRuntime P)

/-- The runtime after a successful `GemCreate`. -/
def afterCreate (allocation : GpuAllocation) (row : Resource) :
    SoftwareRuntime P :=
  { now with
    driver := now.driver.afterAllocate allocation
    ids := now.ids.advance 1
    resources := now.resources.insert now.ids.next row }

/-- A creation is refused and changes nothing, or takes the next identifier for
memory of a device that the driver knows. -/
theorem step_gemCreate (device : ObjectId) (size : Nat) :
    (∃ error, step now (.gemCreate device size) = (.error error, now)) ∨
      ∃ allocation found row,
        now.driver.devices.get allocation.device = some found ∧
          allocation.id = now.ids.next ∧
          step now (.gemCreate device size) =
            (.ok (.gemHandle now.ids.next), afterCreate now allocation row) := by
  rw [step, handle]
  cases hcontext : now.devices.get device with
  | none =>
      have hrun := createResource_of_unknown now hcontext (.buffer size {})
        .deviceLocal
      exact Or.inl ⟨_, Method.bind_of_error hrun⟩
  | some context =>
      rcases now.driver.allocateVram_cases now.ids context.gpu size
        .deviceLocal with ⟨found, hfound, -, hgranted⟩ | ⟨-, error, hrefused⟩
      · have hrun := createResource_of_granted now (.buffer size {})
          hcontext hgranted
        refine Or.inr ⟨SoftwareGpuDriver.grantedAllocation now.ids context.gpu
          found size .deviceLocal, found,
          ⟨now.ids.next, device, .buffer size {}, .deviceLocal⟩,
          hfound, rfl, ?_⟩
        rw [Method.bind_of_ok hrun]
        rfl
      · have hrun := createResource_of_refused now (.buffer size {})
          hcontext hrefused
        exact Or.inl ⟨error, Method.bind_of_error hrun⟩

theorem registered_afterCreate (allocation : GpuAllocation) (row : Resource)
    (handle : ObjectId) :
    Registered (afterCreate now allocation row) handle ↔
      handle = now.ids.next ∨ Registered now handle := by
  unfold Registered afterCreate
  rw [Table.get_insert]
  by_cases hnew : handle = now.ids.next
  · simp [hnew]
  · simp [hnew]

theorem Freeable.create (hfreeable : Freeable now) {allocation : GpuAllocation}
    {found : DeviceState}
    (hfound : now.driver.devices.get allocation.device = some found)
    (hid : allocation.id = now.ids.next) (row : Resource) :
    Freeable (afterCreate now allocation row) := by
  have hkept : ∀ device state, now.driver.devices.get device = some state →
      ∃ after, (afterCreate now allocation row).driver.devices.get device =
        some after := by
    intro device state hstate
    rw [afterCreate, SoftwareGpuDriver.afterAllocate, Table.get_modify]
    split
    · exact ⟨_, by rw [hstate]; rfl⟩
    · exact ⟨state, hstate⟩
  intro handle hregistered
  rw [registered_afterCreate] at hregistered
  by_cases hnew : handle = now.ids.next
  · obtain ⟨after, hafter⟩ := hkept _ _ hfound
    refine ⟨allocation, after, ?_, hafter⟩
    simp [afterCreate, SoftwareGpuDriver.afterAllocate, hnew, hid]
  · obtain ⟨held, state, hheld, hstate⟩ :=
      hfreeable handle (hregistered.resolve_left hnew)
    obtain ⟨after, hafter⟩ := hkept _ _ hstate
    refine ⟨held, after, ?_, hafter⟩
    rw [afterCreate, SoftwareGpuDriver.afterAllocate, hid,
      Table.get_insert_ne _ _ hnew]
    exact hheld

end Create

/-! ### Closing -/

section Close

variable (now : SoftwareRuntime P)

/-- The runtime after a successful `GemClose`. -/
def afterClose (handle : ObjectId) (allocation : GpuAllocation) :
    SoftwareRuntime P :=
  { now with
    resources := now.resources.erase handle
    driver := now.driver.afterFree allocation handle }

theorem step_gemClose_of_unknown {handle : ObjectId}
    (hunknown : ¬ Registered now handle) :
    step now (.gemClose handle) =
      (.error (.memory "unknown resource"), now) := by
  have hrow : now.resources.get handle = none := by
    cases hget : now.resources.get handle with
    | none => rfl
    | some row => exact absurd ⟨row, hget⟩ hunknown
  rw [step, DrmCompatShim.handle,
    Method.bind_of_error (freeResource_of_unknown now hrow)]

theorem step_gemClose_of_known (hfreeable : Freeable now) {handle : ObjectId}
    (hknown : Registered now handle) :
    ∃ allocation,
      step now (.gemClose handle) =
        (.ok .closed, afterClose now handle allocation) := by
  obtain ⟨allocation, found, hlive, hfound⟩ := hfreeable handle hknown
  obtain ⟨row, hrow⟩ := hknown
  have hdriver : GpuDriver.freeVram handle now.driver =
      (.ok (), now.driver.afterFree allocation handle) :=
    SoftwareGpuDriver.freeVram_of_live hlive hfound
  have hrun := freeResource_of_known now hrow
  rw [hdriver] at hrun
  refine ⟨allocation, ?_⟩
  rw [step, DrmCompatShim.handle, Method.bind_of_ok hrun]
  rfl

theorem registered_afterClose (closed : ObjectId) (allocation : GpuAllocation)
    (handle : ObjectId) :
    Registered (afterClose now closed allocation) handle ↔
      handle ≠ closed ∧ Registered now handle := by
  unfold Registered afterClose
  rw [Table.get_erase]
  by_cases hclosed : handle = closed
  · simp [hclosed]
  · simp [hclosed]

theorem Freeable.close (hfreeable : Freeable now) (closed : ObjectId)
    (allocation : GpuAllocation) :
    Freeable (afterClose now closed allocation) := by
  intro handle hregistered
  rw [registered_afterClose] at hregistered
  obtain ⟨held, state, hheld, hstate⟩ := hfreeable handle hregistered.2
  refine ⟨held, ?_⟩
  rw [afterClose, SoftwareGpuDriver.afterFree,
    Table.get_erase_ne _ hregistered.1, Table.get_modify]
  split
  · exact ⟨_, hheld, by rw [hstate]; rfl⟩
  · exact ⟨state, hheld, hstate⟩

end Close

/-! ### One request -/

theorem Tracks.not_mem_issued {table : GemTable} {now : SoftwareRuntime P}
    (htracks : Tracks table now) : now.ids.next ∉ table.issued :=
  fun hissued => now.ids.next_not_issued (htracks.issued _ hissued)

theorem Tracks.create {table : GemTable} {now : SoftwareRuntime P}
    (htracks : Tracks table now) {allocation : GpuAllocation}
    {found : DeviceState}
    (hfound : now.driver.devices.get allocation.device = some found)
    (hid : allocation.id = now.ids.next) (row : Resource) :
    Tracks ⟨insert now.ids.next table.live, insert now.ids.next table.issued⟩
      (afterCreate now allocation row) where
  live handle := by
    rw [registered_afterCreate, Set.mem_insert_iff, htracks.live]
  issued handle hissued := by
    rcases hissued with rfl | hold
    · exact now.ids.next_issued
    · exact (htracks.issued handle hold).mono (now.ids.advance_advances 1)
  freeable := htracks.freeable.create now hfound hid row

theorem Tracks.close {table : GemTable} {now : SoftwareRuntime P}
    (htracks : Tracks table now) (closed : ObjectId)
    (allocation : GpuAllocation) :
    Tracks { table with live := table.live \ {closed} }
      (afterClose now closed allocation) where
  live handle := by
    rw [registered_afterClose, Set.mem_sdiff, htracks.live,
      Set.mem_singleton_iff, and_comm]
  issued := htracks.issued
  freeable := htracks.freeable.close now closed allocation

/-- The machine answers a request as the shim does, unless an export was asked
for a handle that is not live. -/
theorem Tracks.step {table : GemTable} {now : SoftwareRuntime P}
    (htracks : Tracks table now) (request : DrmRequest)
    (hexports : ExportsLive (Machine.event step now request)) :
    ∃ next, GemTable.Step table request (step now request).1 next ∧
      Tracks next (step now request).2 := by
  cases request with
  | gemCreate device size =>
      rcases step_gemCreate now device size with
        ⟨error, hrun⟩ | ⟨allocation, found, row, hfound, hid, hrun⟩
      · rw [hrun]
        exact ⟨table, .notCreated error, htracks⟩
      · rw [hrun]
        exact ⟨_, .created htracks.not_mem_issued,
          htracks.create hfound hid row⟩
  | gemClose handle =>
      by_cases hknown : Registered now handle
      · obtain ⟨allocation, hrun⟩ :=
          step_gemClose_of_known now htracks.freeable hknown
        rw [hrun]
        exact ⟨_, .closed ((htracks.live handle).mpr hknown),
          htracks.close handle allocation⟩
      · have hdead := mt (htracks.live handle).mp hknown
        rw [step_gemClose_of_unknown now hknown]
        exact ⟨table, .notClosed hdead _, htracks⟩
  | primeHandleToFd handle =>
      have hlive := (htracks.live handle).mpr (hexports handle rfl)
      exact ⟨table, .exported hlive, htracks⟩
  | modeGetResources => exact ⟨table, .resources, htracks⟩

/-- The shim always exports, so the machine follows it only for a live
handle. -/
theorem Tracks.exportsLive {table next : GemTable} {now : SoftwareRuntime P}
    (htracks : Tracks table now) {request : DrmRequest}
    (hstep : GemTable.Step table request (DrmCompatShim.step now request).1
      next) :
    ExportsLive (Machine.event DrmCompatShim.step now request) := by
  intro handle hasked
  change request = _ at hasked
  subst hasked
  cases hstep with
  | exported hlive => exact (htracks.live handle).mp hlive

/-! ### Runs -/

/-- What a client sees of a run of requests. -/
def observed (start : SoftwareRuntime P) (requests : List DrmRequest) :
    List (DrmRequest × Result DrmResponse) :=
  (Machine.trace step start requests).map fun e => (e.action, e.answer)

theorem observed_concat (start : SoftwareRuntime P)
    (requests : List DrmRequest) (request : DrmRequest) :
    observed start (requests ++ [request]) =
      observed start requests ++
        [(request, (step (Machine.run step start requests) request).1)] := by
  simp [observed, Machine.trace_concat, Machine.event]

variable {start : SoftwareRuntime P}

theorem tracks_empty (hempty : ∀ handle, start.resources.get handle = none) :
    Tracks GemTable.empty start where
  live handle := by simp [GemTable.empty, Registered, hempty]
  issued handle hissued := nomatch hissued
  freeable handle hregistered := by
    obtain ⟨row, hrow⟩ := hregistered
    rw [hempty] at hrow
    cases hrow

/-- A table that answers like the shim has seen live handles exported only,
and has the handles of the runtime. -/
theorem tracks_of_answers
    (hempty : ∀ handle, start.resources.get handle = none)
    {requests : List DrmRequest} {last : GemTable}
    (hanswers : GemTable.Answers (observed start requests) last) :
    Machine.Meets step start requests (fun _ e => ExportsLive e) ∧
      Tracks last (Machine.run step start requests) := by
  induction requests using List.reverseRecOn generalizing last with
  | nil =>
      rw [GemTable.answers_nil.mp hanswers]
      exact ⟨Machine.meets_of_prefixes (by simp), tracks_empty hempty⟩
  | append_singleton requests request ih =>
      rw [observed_concat, GemTable.answers_concat] at hanswers
      obtain ⟨table, hanswers, hstep⟩ := hanswers
      obtain ⟨hmeets, htracks⟩ := ih hanswers
      have hexports := htracks.exportsLive hstep
      obtain ⟨next, hnext, hafter⟩ := htracks.step request hexports
      rw [Machine.run_concat, Machine.meets_concat, hstep.deterministic hnext]
      exact ⟨⟨hmeets, hexports⟩, hafter⟩

theorem answers_of_meets (hempty : ∀ handle, start.resources.get handle = none)
    {requests : List DrmRequest}
    (hmeets : Machine.Meets step start requests fun _ e => ExportsLive e) :
    ∃ last, GemTable.Answers (observed start requests) last := by
  induction requests using List.reverseRecOn with
  | nil => exact ⟨_, GemTable.answers_nil.mpr rfl⟩
  | append_singleton requests request ih =>
      rw [Machine.meets_concat] at hmeets
      obtain ⟨table, hanswers⟩ := ih hmeets.1
      have htracks := (tracks_of_answers hempty hanswers).2
      obtain ⟨last, hstep, -⟩ := htracks.step request hmeets.2
      rw [observed_concat]
      exact ⟨last, GemTable.answers_concat.mpr ⟨table, hanswers, hstep⟩⟩

/-- From a runtime without resources, and whatever is requested: the shim
answers like the machine of live handles, and ends with that machine's handles,
in exactly the runs that export live handles only. -/
theorem gem_handles_agree_iff
    (hempty : ∀ handle, start.resources.get handle = none)
    (requests : List DrmRequest) :
    (∃ last, GemTable.Answers (observed start requests) last ∧
        ∀ handle, handle ∈ last.live ↔
          Registered (Machine.run step start requests) handle) ↔
      Machine.Meets step start requests fun _ e => ExportsLive e := by
  constructor
  · rintro ⟨last, hanswers, -⟩
    exact (tracks_of_answers hempty hanswers).1
  · intro hmeets
    obtain ⟨last, hanswers⟩ := answers_of_meets hempty hmeets
    exact ⟨last, hanswers, (tracks_of_answers hempty hanswers).2.live⟩

end DrmCompatShim

namespace StaleHandle

open DrmCompatShim

/-- A context over one device of 1024 bytes. -/
def start : SoftwareRuntime BareDisplay :=
  (GraphicsRuntime.createDevice ⟨0⟩ .full (.sample 1 1024)).2

theorem start_empty : ∀ handle, start.resources.get handle = none :=
  fun _ => rfl

def opening : List DrmRequest := [.gemCreate ⟨1⟩ 64, .gemClose ⟨5⟩]

def requests : List DrmRequest := opening ++ [.primeHandleToFd ⟨5⟩]

/-- A handle that was closed is still exported. -/
theorem closed_handle_exported :
    (∀ handle, start.resources.get handle = none) ∧
      ¬ ∃ last, GemTable.Answers (observed start requests) last := by
  refine ⟨start_empty, ?_⟩
  rintro ⟨last, hanswers⟩
  obtain ⟨hmeets, -⟩ := tracks_of_answers start_empty hanswers
  obtain ⟨row, hrow⟩ := hmeets.at_step ⟨5⟩ rfl
  have hclosed : (Machine.run step start opening).resources.get ⟨5⟩ = none := by
    decide
  change (Machine.run step start opening).resources.get ⟨5⟩ = some row at hrow
  rw [hclosed] at hrow
  cases hrow

def liveRequests : List DrmRequest :=
  [.gemCreate ⟨1⟩ 64, .primeHandleToFd ⟨5⟩, .gemClose ⟨5⟩]

theorem live_handle_exported :
    (∀ handle, start.resources.get handle = none) ∧
      ∃ last, GemTable.Answers (observed start liveRequests) last ∧
        ∀ handle, handle ∈ last.live ↔
          Registered (Machine.run step start liveRequests) handle := by
  refine ⟨start_empty, (gem_handles_agree_iff start_empty _).mpr ?_⟩
  intro past e future hsplit handle hasked
  have hmem : e ∈ Machine.trace step start liveRequests := by
    rw [hsplit]
    exact List.mem_append_right _ List.mem_cons_self
  simp only [liveRequests, Machine.trace, List.mem_cons, List.not_mem_nil,
    or_false] at hmem
  rcases hmem with rfl | rfl | rfl
  · cases hasked
  · cases hasked
    exact ⟨_, rfl⟩
  · cases hasked

end StaleHandle

end SherGraphics
