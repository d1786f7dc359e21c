/-
Drivers that can stand in for each other.  The laws compare two drivers method
by method: same result, same error, the same status afterwards, with the
identifiers of one renamed on the other.  A runtime cannot tell such drivers
apart.
-/
import SherGraphics.RuntimePairing

namespace SherGraphics

namespace IdSource

variable {name : ObjectId → ObjectId} {ids ids' : IdSource}

/-- From here on the second source hands out the identifiers of the first
under their other names. -/
def DrawsAs (name : ObjectId → ObjectId) (ids ids' : IdSource) : Prop :=
  ∀ index, ids'.draw (ids'.drawn + index) = name (ids.draw (ids.drawn + index))

theorem DrawsAs.next_eq (hdraws : DrawsAs name ids ids') :
    ids'.next = name ids.next :=
  hdraws 0

theorem DrawsAs.advance (hdraws : DrawsAs name ids ids') (count : Nat) :
    DrawsAs name (ids.advance count) (ids'.advance count) := by
  intro index
  rw [ids.draw_advance, ids'.draw_advance]
  exact hdraws (count + index)

end IdSource

/-- A method was run on both sides: the results correspond, and so do the
receivers afterwards. -/
structure Matched {S T α β : Type} (rel : S → T → Prop) (values : α → β → Prop)
    (run : Except Error α × S) (run' : Except Error β × T) : Prop where
  answer : ResultRel (· = ·) values run.1 run'.1
  after : rel run.2 run'.2

/-- Related drivers answer every method of the trait alike, addresses apart.
The commands of a submit do not decide its result. -/
structure Interchangeable (name : ObjectId → ObjectId) {D E : Type}
    [GpuDriver D] [GpuDriver E] (rel : D → E → Prop) : Prop where
  probe : ∀ {left right}, rel left right → ∀ gpu, ∃ infos infos',
    GpuDriver.probe left = .ok infos ∧ GpuDriver.probe right = .ok infos' ∧
    Option.Rel (fun one other => one.id = gpu ∧ other.id = name gpu)
      (infos.find? fun info => info.id = gpu)
      (infos'.find? fun info => info.id = name gpu)
  initializeDevice : ∀ {left right}, rel left right → ∀ {info info'},
    info'.id = name info.id →
      Matched rel (· = ·) (GpuDriver.initializeDevice info left)
        (GpuDriver.initializeDevice info' right)
  allocateVram : ∀ {left right ids ids'}, rel left right →
    ids.DrawsAs name ids' → ∀ gpu size memoryClass,
      Matched
        (fun world other => rel world.1 other.1 ∧ world.2.DrawsAs name other.2)
        (fun one other => other.id = name one.id)
        (GpuDriver.allocateVram gpu size memoryClass (left, ids))
        (GpuDriver.allocateVram (name gpu) size memoryClass (right, ids'))
  freeVram : ∀ {left right}, rel left right → ∀ allocation,
    Matched rel (· = ·) (GpuDriver.freeVram allocation left)
      (GpuDriver.freeVram (name allocation) right)
  submit : ∀ {left right}, rel left right → ∀ gpu workload ops ops',
    ∃ result after after',
      GpuDriver.submit gpu workload ops left = (.returned result, after) ∧
      GpuDriver.submit (name gpu) workload ops' right =
        (.returned result, after') ∧
      rel after after'
  faultStatus : ∀ {left right}, rel left right → ∀ gpu,
    GpuDriver.faultStatus right (name gpu) =
      (GpuDriver.faultStatus left gpu).map
        (Option.map (GpuFault.withGpu name))
  vramAvailable : ∀ {left right}, rel left right → ∀ gpu,
    GpuDriver.vramAvailable right (name gpu) =
      GpuDriver.vramAvailable left gpu
  resetDevice : ∀ {left right}, rel left right → ∀ gpu,
    Matched rel (· = ·) (GpuDriver.resetDevice gpu left)
      (GpuDriver.resetDevice (name gpu) right)
  markFaulted : ∀ {left right}, rel left right → ∀ gpu description,
    rel (GpuDriver.markFaulted gpu description left)
      (GpuDriver.markFaulted (name gpu) description right)

/-! ### Actions on either runtime -/

/-- Mark a GPU as faulted through the borrow of the driver. -/
def GpuDriver.faultMark {D : Type} [GpuDriver D] (gpu : ObjectId)
    (description : String) : DriverUse D Reply where
  run := fun (driver, ids) =>
    (.ok .unit, markFaulted gpu description driver, ids)
  advances := fun _ ids => .refl ids

/-- A call on contexts, their objects and their GPUs, or a fault that the
borrower of the driver marks on a GPU. -/
inductive ApiAction (D : Type) where
  | call (op : Op D) (hapi : op.onApi = true)
  | markFaulted (gpu : ObjectId) (caps : CapabilitySet) (description : String)

/-- The call under other names, GPUs included. -/
def Op.renameAll {D : Type} (name : ObjectId → ObjectId) (op : Op D) : Op D :=
  (op.rename name).withGpus name

def Reply.renameAll (name : ObjectId → ObjectId) (reply : Reply) : Reply :=
  (reply.rename name).withGpus name

theorem Op.onApi_renameAll {D : Type} (name : ObjectId → ObjectId)
    (op : Op D) : (op.renameAll name).onApi = op.onApi := by
  cases op <;> rfl

namespace ApiAction

variable {D : Type}

def toOp [GpuDriver D] : ApiAction D → Op D
  | .call op _ => op
  | .markFaulted gpu caps description =>
      .driverMut caps (GpuDriver.faultMark gpu description)

def rename (name : ObjectId → ObjectId) : ApiAction D → ApiAction D
  | .call op hapi =>
      .call (op.renameAll name) ((op.onApi_renameAll name).trans hapi)
  | .markFaulted gpu caps description =>
      .markFaulted (name gpu) caps description

end ApiAction

namespace GraphicsRuntime

open Method

variable {D P : Type} {name : Equiv.Perm ObjectId} {rel : D → D → Prop}
  {left right : GraphicsRuntime D P}

/-- Two runtimes that differ in their driver and in the names of all
identifiers. -/
structure Swapped (name : Equiv.Perm ObjectId) (rel : D → D → Prop)
    (left right : GraphicsRuntime D P) : Prop where
  rows : SameRows (fun _ => True) name (.total name) left right
  driver : rel left.driver right.driver
  ids : left.ids.DrawsAs name right.ids

theorem swapped_new [GpuDriver D] [GPUDriver P] {driver driver' : D}
    {ids ids' : IdSource} (hdrivers : rel driver driver')
    (hids : ids.DrawsAs name ids') (presentationVramBytes : Nat) :
    Swapped name rel (new (P := P) driver presentationVramBytes ids)
      (new driver' presentationVramBytes ids') where
  rows :=
    { devices := .empty
      deviceCaps := .empty
      resources := .empty
      shaders := .empty
      pipelines := .empty
      timelines := .empty }
  driver := hdrivers
  ids := hids

namespace Swapped

theorem dropped (hswapped : Swapped name rel left right) {id id' : ObjectId}
    (hid : SameContext (.total name) id id') :
    Swapped name rel (dropContext id left) (dropContext id' right) where
  rows :=
    { devices := hswapped.rows.devices.erase hid.2
      deviceCaps := hswapped.rows.deviceCaps.erase hid.2
      resources := hswapped.rows.resources.retain
        fun _ _ _ _ hrel => hid.kept_eq hrel.1
      shaders := hswapped.rows.shaders.retain
        fun _ _ _ _ hrel => hid.kept_eq hrel
      pipelines := hswapped.rows.pipelines.retain
        fun _ _ _ _ hrel => hid.kept_eq hrel
      timelines := hswapped.rows.timelines }
  driver := hswapped.driver
  ids := hswapped.ids

/-- The driver is replaced on both sides, and identifiers may have been
drawn. -/
theorem served (hswapped : Swapped name rel left right) {driver driver' : D}
    {ids ids' : IdSource} (hdriver : rel driver driver')
    (hids : ids.DrawsAs name ids') :
    Swapped name rel { left with driver, ids }
      { right with driver := driver', ids := ids' } where
  rows := { hswapped.rows with }
  driver := hdriver
  ids := hids

end Swapped

/-- The runtimes are swapped, and all identifiers are renamed from the
start. -/
def SwappedAll (name : Equiv.Perm ObjectId) (rel : D → D → Prop)
    (naming : Renaming ObjectId) (left right : GraphicsRuntime D P) : Prop :=
  naming = .total name ∧ Swapped name rel left right

section Methods

variable {naming : Renaming ObjectId} {α : Type} {values : α → α → Prop}

theorem swaps_onDriver {method other : Method Error D α}
    (hmethods : ∀ driver driver', rel driver driver' →
      Matched rel values (method driver) (other driver')) :
    Simulates (· = ·) (SwappedAll (P := P) name rel) naming (fun _ => values)
      (onDriver method) (onDriver other) := by
  rintro left right ⟨rfl, hswapped⟩
  obtain ⟨hanswer, hafter⟩ := hmethods _ _ hswapped.driver
  exact ⟨_, le_rfl, hanswer, rfl, hswapped.served hafter hswapped.ids⟩

variable [GpuDriver D] (hlaws : Interchangeable name rel)

include hlaws

theorem swaps_allocateVram (gpu : ObjectId) (size : Nat)
    (memoryClass : MemoryClass) :
    Simulates (· = ·) (SwappedAll (P := P) name rel) naming
      (fun later one other => SameContext later one.id other.id)
      (onDriverAndIds (GpuDriver.allocateVram gpu size memoryClass))
      (onDriverAndIds (GpuDriver.allocateVram (name gpu) size memoryClass)) := by
  rintro left right ⟨rfl, hswapped⟩
  obtain ⟨hanswer, hdriver, hids⟩ := hlaws.allocateVram hswapped.driver
    hswapped.ids gpu size memoryClass
  exact ⟨_, le_rfl, hanswer.mono fun _ _ hsame => ⟨trivial, hsame.symm⟩,
    rfl, hswapped.served hdriver hids⟩

theorem swaps_submitToDriver (gpu : ObjectId) (workload : WorkloadClass)
    (ops ops' : List DriverOp) :
    Simulates (· = ·) (SwappedAll (P := P) name rel) naming
      (fun _ => (· = ·)) (submitToDriver gpu workload ops)
      (submitToDriver (name gpu) workload ops') := by
  rintro left right ⟨rfl, hswapped⟩
  obtain ⟨result, after, after', hleft, hright, hafter⟩ :=
    hlaws.submit hswapped.driver gpu workload ops ops'
  rw [submitToDriver, submitToDriver, hleft, hright]
  refine ⟨_, le_rfl, ?_, rfl, hswapped.served hafter hswapped.ids⟩
  cases result with
  | ok value => exact .ok rfl
  | error error => exact .error rfl

end Methods

/-- Interchangeable drivers make a pairing of all runtimes over them. -/
def swap [GpuDriver D] (hlaws : Interchangeable name rel) :
    RuntimePairing D P where
  related := SwappedAll name rel
  compared := fun _ => True
  gpuName := name
  rows := by
    rintro _ left right ⟨rfl, hswapped⟩
    exact hswapped.rows
  audited _ _ hrelated := ⟨hrelated.1,
    { hrelated.2 with rows := { hrelated.2.rows with } }⟩
  drawn := by
    rintro _ left right ⟨rfl, hswapped⟩
    refine ⟨_, le_rfl, ⟨trivial, hswapped.ids.next_eq.symm⟩, rfl, ?_⟩
    exact hswapped.served hswapped.driver (hswapped.ids.advance 1)
  registered := by
    rintro _ left right one other caps ⟨rfl, hswapped⟩ hnew hgpu -
    exact ⟨rfl, { hswapped with rows := { hswapped.rows with
      devices := hswapped.rows.devices.insert hnew.2 ⟨hgpu, trivial⟩
      deviceCaps := hswapped.rows.deviceCaps.insert hnew.2 rfl } }⟩
  signaled := by
    rintro _ left right timeline timeline' value ⟨rfl, hswapped⟩ htimeline
    exact ⟨rfl, { hswapped with rows := { hswapped.rows with
      timelines := hswapped.rows.timelines.insert htimeline.2 rfl } }⟩
  resourceAdded := by
    rintro _ left right one other ⟨rfl, hswapped⟩ hnew hcontext hkind
    exact ⟨rfl, { hswapped with rows := { hswapped.rows with
      resources := hswapped.rows.resources.insert hnew.2
        ⟨hcontext, hkind⟩ } }⟩
  shaderAdded := by
    rintro _ left right one other ⟨rfl, hswapped⟩ hnew hcontext
    exact ⟨rfl, { hswapped with rows := { hswapped.rows with
      shaders := hswapped.rows.shaders.insert hnew.2 hcontext } }⟩
  pipelineAdded := by
    rintro _ left right one other ⟨rfl, hswapped⟩ hnew hcontext
    exact ⟨rfl, { hswapped with rows := { hswapped.rows with
      pipelines := hswapped.rows.pipelines.insert hnew.2 hcontext } }⟩
  resourceErased := by
    rintro _ left right id id' ⟨rfl, hswapped⟩ hid
    exact ⟨rfl, { hswapped with rows := { hswapped.rows with
      resources := hswapped.rows.resources.erase hid.2 } }⟩
  dropped := by
    rintro _ left right id id' ⟨rfl, hswapped⟩ hid
    exact ⟨rfl, hswapped.dropped hid⟩
  probed hrelated _ := hlaws.probe hrelated.2.driver _
  initializesDevice _ hinfo := swaps_onDriver fun _ _ hdrivers =>
    hlaws.initializeDevice hdrivers hinfo
  allocatesVram size memoryClass _ :=
    swaps_allocateVram hlaws _ size memoryClass
  freesVram := by
    rintro naming id id' hid left right ⟨rfl, hswapped⟩
    obtain ⟨-, rfl⟩ := hid
    exact swaps_onDriver (fun _ _ hdrivers => hlaws.freeVram hdrivers id) left
      right ⟨rfl, hswapped⟩
  resetsDevice _ := swaps_onDriver fun _ _ hdrivers =>
    hlaws.resetDevice hdrivers _
  submits workload ops ops' _ := swaps_submitToDriver hlaws _ workload ops ops'
  faultStatus hrelated _ := hlaws.faultStatus hrelated.2.driver _

/-! ### Whole runs -/

section Runs

variable [GpuDriver D] [GPUDriver P] (hlaws : Interchangeable name rel)

/-- The runtime under actions on contexts and marked faults. -/
def apiStep (runtime : GraphicsRuntime D P) (action : ApiAction D) :
    Result Reply × GraphicsRuntime D P :=
  step runtime action.toOp

include hlaws

theorem swaps_markFaulted (gpu : ObjectId) (caps : CapabilitySet)
    (description : String) {naming : Renaming ObjectId} :
    (swap (P := P) hlaws).Alike naming (swap (P := P) hlaws).SameReply
      (perform (ApiAction.markFaulted gpu caps description).toOp)
      (perform (ApiAction.markFaulted (name gpu) caps description).toOp) := by
  refine Simulates.bind ((swap hlaws).alike_ofResult _)
    fun later hle _ _ _ => ?_
  rintro left right ⟨rfl, hswapped⟩
  have hdriver := hlaws.markFaulted hswapped.driver gpu description
  exact ⟨_, le_rfl, .ok ⟨by simp [Reply.names], rfl⟩, rfl,
    hswapped.served hdriver hswapped.ids⟩

theorem swapped_step (hswapped : Swapped name rel left right)
    (action : ApiAction D) :
    (apiStep right (action.rename name)).1 =
        (apiStep left action).1.map (Reply.renameAll name) ∧
      Swapped name rel (apiStep left action).2
        (apiStep right (action.rename name)).2 := by
  have halike : (swap (P := P) hlaws).Alike (.total name)
      (swap (P := P) hlaws).SameReply
      (perform action.toOp) (perform (action.rename name).toOp) := by
    cases action with
    | call op hapi =>
        exact (swap hlaws).alike_perform hapi (fun _ _ => trivial)
          fun _ _ => ⟨trivial, rfl⟩
    | markFaulted gpu caps description =>
        exact swaps_markFaulted hlaws gpu caps description
  obtain ⟨_, -, hresults, rfl, hafter⟩ := halike left right ⟨rfl, hswapped⟩
  have hanswers := hresults.mono fun _ _ hreply => hreply.2.symm
  exact ⟨hanswers.eq_map, hafter⟩

/-- Two swapped runtimes give the same answers to all actions, in other
names, and stay swapped. -/
theorem swapped_run (hswapped : Swapped name rel left right)
    (actions : List (ApiAction D)) :
    Machine.answers apiStep right (actions.map (ApiAction.rename name)) =
        (Machine.answers apiStep left actions).map
          (Except.map (Reply.renameAll name)) ∧
      Swapped name rel (Machine.run apiStep left actions)
        (Machine.run apiStep right
          (actions.map (ApiAction.rename name))) := by
  have hstep : ∀ (now now' : GraphicsRuntime D P) (action : ApiAction D),
      Swapped name rel now now' →
        (apiStep now' (action.rename name)).1 =
            (apiStep now action).1.map (Reply.renameAll name) ∧
          Swapped name rel (apiStep now action).2
            (apiStep now' (action.rename name)).2 :=
    fun _ _ action hnow => swapped_step hlaws hnow action
  exact Machine.lockstep hstep hswapped actions

/-- What can be asked of both runtimes at any time has the same answer, in
other names. -/
structure SameObservations (name : ObjectId → ObjectId)
    (left right : GraphicsRuntime D P) : Prop where
  timelineValue : ∀ timeline,
    (GraphicsRuntime.timelineValue (name timeline) right).1 =
      (GraphicsRuntime.timelineValue timeline left).1
  faultStatus : ∀ gpu, GpuDriver.faultStatus right.driver (name gpu) =
    (GpuDriver.faultStatus left.driver gpu).map
      (Option.map (GpuFault.withGpu name))
  vramAvailable : ∀ gpu, GpuDriver.vramAvailable right.driver (name gpu) =
    GpuDriver.vramAvailable left.driver gpu

omit [GPUDriver P] in
theorem swapped_observed (hswapped : Swapped name rel left right) :
    SameObservations name left right where
  timelineValue timeline := by
    have hvalue := (swap (P := P) hlaws).alike_timelineValue
      (⟨trivial, rfl⟩ : SameContext (.total name) timeline (name timeline))
      left right ⟨rfl, hswapped⟩
    obtain ⟨_, -, hresults, -⟩ := hvalue
    exact hresults.eq.symm
  faultStatus := hlaws.faultStatus hswapped.driver
  vramAvailable := hlaws.vramAvailable hswapped.driver

end Runs

end GraphicsRuntime

end SherGraphics
