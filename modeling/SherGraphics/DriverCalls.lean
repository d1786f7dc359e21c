/-
The calls that the driver receives, and what licenses each of them.  Only four
operations ask for a capability when they are called, and `create_resource`
asks for none: it relies on the set that its context was opened with.  So the
licence of a call lies partly in the step that makes it and partly in the step
that opened the context.
-/
import SherGraphics.ContextTable
import SherGraphics.RecordingDriver
import SherGraphics.RuntimeFrame

namespace SherGraphics

namespace GraphicsRuntime

/-! ### The calls of one step -/

section Calls

variable {D P : Type}

/-- The calls that an operation makes, in order, and what the runtime has
checked before it makes them. -/
inductive Calls (before : GraphicsRuntime (Recorded D) P) :
    Op (Recorded D) → List DriverCall → Prop
  | none (op : Op (Recorded D)) : Calls before op []
  | initialized {gpu : ObjectId} {caps : CapabilitySet} {info : DeviceInfo}
      (hgranted : caps.hasCapability .gpuMemoryAlloc = true)
      (hgpu : info.id = gpu) :
      Calls before (.createDevice gpu caps) [.initializeDevice info]
  | allocated {id : ObjectId} {kind : ResourceKind}
      {memoryClass : MemoryClass} {found : GraphicsDevice}
      (hcontext : before.devices.get id = some found) :
      Calls before (.createResource id kind memoryClass)
        [.allocateVram found.gpu (resourceSize kind) memoryClass]
  | freed (name : ObjectId) : Calls before (.freeResource name) [.freeVram name]
  | submitted {queue : QueueHandle} {stream : CommandStream}
      {timeline gpu : ObjectId} {signalValue : Nat}
      (hready : SubmitReady before queue stream timeline signalValue gpu) :
      Calls before (.submit queue stream timeline signalValue)
        [.submit gpu queue.workload (translateOps stream.ops)]
  | contained {queue : QueueHandle} {stream : CommandStream}
      {timeline gpu : ObjectId} {signalValue : Nat}
      (hready : SubmitReady before queue stream timeline signalValue gpu)
      (description : String) :
      Calls before (.submit queue stream timeline signalValue)
        [.submit gpu queue.workload (translateOps stream.ops),
          .markFaulted gpu description]
  | reset {id : ObjectId} {caps : CapabilitySet} {found : GraphicsDevice}
      (hadmin : caps.hasCapability .gpuAdmin = true)
      (hcontext : before.devices.get id = some found) :
      Calls before (.recoverDevice id caps) [.resetDevice found.gpu]

/-- The step makes these calls and no others. -/
def Makes (before : GraphicsRuntime (Recorded D) P) (op : Op (Recorded D))
    (after : GraphicsRuntime (Recorded D) P) : Prop :=
  ∃ calls, Calls before op calls ∧
    after.driver.calls = before.driver.calls ++ calls

variable {before after : GraphicsRuntime (Recorded D) P}
  {op : Op (Recorded D)}

theorem Makes.nothing (hdriver : after.driver = before.driver) :
    Makes before op after :=
  ⟨[], .none op, by rw [hdriver, List.append_nil]⟩

variable [GpuDriver D] (before)

theorem createDevice_makes (gpu : ObjectId) (caps : CapabilitySet) :
    Makes before (.createDevice gpu caps) (createDevice gpu caps before).2 := by
  rw [createDevice]
  rcases requireCapability_cases caps .gpuMemoryAlloc with
    ⟨hgranted, hcheck⟩ | ⟨hdenied, error, hcheck⟩
  · rw [Method.bind_of_ok (log_of_granted before _ _ hcheck), hcheck,
      Method.ofResult_ok_bind, Method.read_bind, audited_driver]
    cases hprobe : GpuDriver.probe before.driver with
    | error error => exact .nothing rfl
    | ok known =>
        rw [Method.ofResult_ok_bind]
        cases hfind : known.find? (fun info => info.id = gpu) with
        | none => exact .nothing rfl
        | some info =>
            have hgpu : info.id = gpu := by simpa using List.find?_some hfind
            refine ⟨_, .initialized hgranted hgpu, ?_⟩
            rw [Method.okOr_some_bind, Method.bind_run]
            have hcalls : (onDriver (GpuDriver.initializeDevice info)
                (before.audited gpu "create_device" true)).2.driver.calls =
                  before.driver.calls ++ [.initializeDevice info] := rfl
            cases hrun : onDriver (GpuDriver.initializeDevice info)
                (before.audited gpu "create_device" true) with
            | mk result sent =>
                rw [hrun] at hcalls
                cases result with
                | ok value => exact hcalls
                | error error => exact hcalls
  · rw [Method.bind_of_ok (log_of_denied before _ _ hcheck), hcheck,
      Method.ofResult_error_bind]
    exact .nothing rfl

theorem createResource_makes (id : ObjectId) (kind : ResourceKind)
    (memoryClass : MemoryClass) :
    Makes before (.createResource id kind memoryClass)
      (createResource id kind memoryClass before).2 := by
  cases hcontext : before.devices.get id with
  | none =>
      rw [createResource_of_unknown before hcontext]
      exact .nothing rfl
  | some found =>
      refine ⟨_, .allocated hcontext, ?_⟩
      have hcalls : (GpuDriver.allocateVram found.gpu (resourceSize kind)
          memoryClass (before.driver, before.ids)).2.1.calls =
            before.driver.calls ++
              [.allocateVram found.gpu (resourceSize kind) memoryClass] := rfl
      cases hrun : GpuDriver.allocateVram found.gpu (resourceSize kind)
          memoryClass (before.driver, before.ids) with
      | mk result world =>
          rw [hrun] at hcalls
          cases result with
          | ok allocation =>
              rw [createResource_of_granted before kind hcontext hrun]
              exact hcalls
          | error error =>
              rw [createResource_of_refused before kind hcontext hrun]
              exact hcalls

theorem freeResource_makes (name : ObjectId) :
    Makes before (.freeResource name) (freeResource name before).2 := by
  cases hrow : before.resources.get name with
  | none =>
      rw [freeResource_of_unknown before hrow]
      exact .nothing rfl
  | some row =>
      rw [freeResource_of_known before hrow]
      exact ⟨_, .freed name, rfl⟩

theorem submit_makes (queue : QueueHandle) (stream : CommandStream)
    (timeline : ObjectId) (signalValue : Nat) :
    Makes before (.submit queue stream timeline signalValue)
      (submit queue stream timeline signalValue before).2 := by
  by_cases hready : ∃ gpu,
      SubmitReady before queue stream timeline signalValue gpu
  · obtain ⟨gpu, hready⟩ := hready
    obtain ⟨rest, hcalls, rfl | ⟨description, rfl⟩⟩ :=
      submit_calls_of_ready hready
    · exact ⟨_, .submitted hready, hcalls⟩
    · exact ⟨_, .contained hready description, hcalls⟩
  · obtain ⟨error, audit, hrun⟩ :=
      submit_of_not_ready before (not_exists.mp hready)
    rw [hrun]
    exact .nothing rfl

theorem recoverDevice_makes (id : ObjectId) (caps : CapabilitySet) :
    Makes before (.recoverDevice id caps) (recoverDevice id caps before).2 := by
  cases hadmin : caps.hasCapability .gpuAdmin with
  | false =>
      obtain ⟨error, hrun⟩ := recoverDevice_of_denied before id hadmin
      rw [hrun]
      exact .nothing rfl
  | true =>
      cases hcontext : before.devices.get id with
      | none =>
          have hcheck : requireCapability caps .gpuAdmin = .ok () := by
            rw [requireCapability, if_pos hadmin]
          rw [recoverDevice,
            Method.bind_of_ok (log_of_granted before _ _ hcheck), hcheck,
            Method.ofResult_ok_bind, Method.bind_of_error
              (device_of_unknown (before.audited id "recover_device" true)
                hcontext)]
          exact .nothing rfl
      | some found =>
          refine ⟨_, .reset hadmin hcontext, ?_⟩
          rw [recoverDevice_of_live before hadmin hcontext]
          have hcalls : (GpuDriver.resetDevice found.gpu
              before.driver).2.calls =
                before.driver.calls ++ [.resetDevice found.gpu] := rfl
          cases hreset : GpuDriver.resetDevice found.gpu before.driver with
          | mk result driver =>
            rw [hreset] at hcalls
            cases result with
            | ok value => exact hcalls
            | error error => exact hcalls

variable [GPUDriver P]

/-- What an operation other than `driver_mut` asks of the driver. -/
theorem step_makes (hsealed : op.Sealed) :
    Makes before op (step before op).2 := by
  by_cases hwrites : .driver ∈ op.writes
  · cases op with
    | createDevice gpu caps =>
        rw [step, perform, Method.map_run]
        exact createDevice_makes before gpu caps
    | createResource device kind memoryClass =>
        rw [step, perform, Method.map_run]
        exact createResource_makes before device kind memoryClass
    | submit queue stream timeline signalValue =>
        rw [step, perform, Method.map_run]
        exact submit_makes before queue stream timeline signalValue
    | freeResource name =>
        rw [step, perform, Method.map_run]
        exact freeResource_makes before name
    | recoverDevice id caps =>
        rw [step, perform, Method.map_run]
        exact recoverDevice_makes before id caps
    | driverMut caps use => exact absurd hsealed id
    | _ => simp [Op.writes] at hwrites
  · exact .nothing (step_keeps hides_driver hwrites before)

end Calls

/-! ### What licenses a call -/

section Licences

variable {D P : Type}

/-- A live context of the GPU was opened with a set that grants the
capability. -/
def ContextGrants (past : List (RuntimeEvent D P))
    (now : GraphicsRuntime D P) (gpu : ObjectId) (capability : Capability) :
    Prop :=
  ∃ id found caps, now.devices.get id = some found ∧ found.gpu = gpu ∧
    (∃ e ∈ past, OpensContext e id gpu caps) ∧
      caps.hasCapability capability = true

/-- What must have been granted for a call of the driver: to a live context on
the GPU that it is made on, or to the caller of the operation that makes it. -/
def Licensed (past : List (RuntimeEvent D P)) (e : RuntimeEvent D P) :
    DriverCall → Prop
  | .submit gpu _ _ => ContextGrants past e.before gpu .gpuCommandSubmit
  | .allocateVram gpu _ _ => ContextGrants past e.before gpu .gpuMemoryAlloc
  | .initializeDevice info =>
      ∃ caps, e.action = .createDevice info.id caps ∧
        caps.hasCapability .gpuMemoryAlloc = true
  | .resetDevice gpu =>
      ∃ id caps found, e.action = .recoverDevice id caps ∧
        caps.hasCapability .gpuAdmin = true ∧
          e.before.devices.get id = some found ∧ found.gpu = gpu
  | .freeVram _ | .mapDma _ | .markFaulted _ _ => True

/-- Every call of the step is licensed, and the record loses none. -/
def CallsLicensed (past : List (RuntimeEvent (Recorded D) P))
    (e : RuntimeEvent (Recorded D) P) : Prop :=
  e.action.Sealed → ∃ calls,
    e.after.driver.calls = e.before.driver.calls ++ calls ∧
      ∀ call ∈ calls, Licensed past e call

/-- Every set under which a context was opened grants the allocation of
memory, which `create_resource` does not ask for again. -/
def OpenedToAllocate (past : List (RuntimeEvent D P)) : Prop :=
  ∀ e ∈ past, ∀ id gpu caps, OpensContext e id gpu caps →
    caps.hasCapability .gpuMemoryAlloc = true

theorem openedToAllocate_run [GpuDriver D] [GPUDriver P]
    (start : GraphicsRuntime D P) (ops : List (Op D)) :
    OpenedToAllocate (Machine.trace step start ops) := by
  rintro e hmem id gpu caps ⟨hop, created, hanswer, -, -⟩
  obtain ⟨now, he⟩ := Machine.mem_trace step hmem
  rw [he] at hanswer
  change (step now e.action).1 = _ at hanswer
  have heffect := step_effect now e.action
  rw [hop] at heffect hanswer
  generalize (step now (.createDevice gpu caps)).1 = answer at *
  generalize (step now (.createDevice gpu caps)).2 = after at *
  cases heffect with
  | quiet hquiet hsealed htables hids hdriver =>
      exact absurd trivial (hquiet ⟨_, hanswer⟩)
  | createdDevice hgranted hprobe hfind => exact hgranted

theorem ContextHistory.grants {past : List (RuntimeEvent D P)}
    {now : GraphicsRuntime D P} (hhistory : ContextHistory past now)
    {id : ObjectId} {found : GraphicsDevice} {capability : Capability}
    (hcontext : now.devices.get id = some found)
    (hgrants : ∀ caps, now.deviceCaps.get id = some caps →
      (∃ e ∈ past, OpensContext e id found.gpu caps) →
        caps.hasCapability capability = true) :
    ContextGrants past now found.gpu capability := by
  obtain ⟨caps, hcaps, hopened⟩ := hhistory.opened id found hcontext
  exact ⟨id, found, caps, hcontext, rfl, hopened, hgrants caps hcaps hopened⟩

/-- What the runtime has checked before a call, together with the history of
its contexts, licenses the call. -/
theorem Calls.licensed {past : List (RuntimeEvent (Recorded D) P)}
    {e : RuntimeEvent (Recorded D) P} {calls : List DriverCall}
    (hcalls : Calls e.before e.action calls)
    (hhistory : ContextHistory past e.before)
    (hallocate : OpenedToAllocate past) :
    ∀ call ∈ calls, Licensed past e call := by
  obtain ⟨before, op, answer, after⟩ := e
  have hsubmit : ∀ {queue stream timeline gpu signalValue},
      SubmitReady before queue stream timeline signalValue gpu →
        ContextGrants past before gpu .gpuCommandSubmit := by
    intro queue stream timeline gpu signalValue hready
    obtain ⟨found, hcontext, rfl⟩ := hready.context
    obtain ⟨granted, hgranted, hsubmit⟩ := hready.granted
    refine hhistory.grants hcontext fun caps hcaps _ => ?_
    cases hgranted.symm.trans hcaps
    exact hsubmit
  intro call hmem
  cases hcalls with
  | none => cases hmem
  | initialized hgranted hgpu =>
      obtain rfl := List.mem_singleton.mp hmem
      subst hgpu
      exact ⟨_, rfl, hgranted⟩
  | allocated hcontext =>
      obtain rfl := List.mem_singleton.mp hmem
      refine hhistory.grants hcontext fun caps _ hopened => ?_
      obtain ⟨opening, hopening, hopens⟩ := hopened
      exact hallocate opening hopening _ _ caps hopens
  | freed name =>
      obtain rfl := List.mem_singleton.mp hmem
      trivial
  | submitted hready =>
      obtain rfl := List.mem_singleton.mp hmem
      exact hsubmit hready
  | contained hready description =>
      rcases List.mem_pair.mp hmem with rfl | rfl
      · exact hsubmit hready
      · trivial
  | reset hadmin hcontext =>
      obtain rfl := List.mem_singleton.mp hmem
      exact ⟨_, _, _, rfl, hadmin, hcontext, rfl⟩

/-- In every run over every driver, each call of the driver is licensed. -/
theorem driver_calls_licensed [GpuDriver D] [GPUDriver P] (driver : D)
    (vramBytes : Nat) (ids : IdSource) (ops : List (Op (Recorded D))) :
    let start : GraphicsRuntime (Recorded D) P := new ⟨driver, []⟩ vramBytes ids
    Machine.Meets step start ops CallsLicensed := by
  intro start
  apply Machine.meets_of_prefixes
  intro first op later _ hsealed
  obtain ⟨calls, hcalls, hrecord⟩ :=
    step_makes (Machine.run step start first) hsealed
  exact ⟨calls, hrecord, Calls.licensed hcalls
    (contextHistory_run ⟨driver, []⟩ vramBytes ids first)
    (openedToAllocate_run start first)⟩

end Licences

end GraphicsRuntime

end SherGraphics
