/-
GPUs do not interfere.  Deleting from a run everything that happened on one
GPU, its allocations, faults and recoveries included, changes nothing in the
answers that the other GPUs get, once the identifiers are renamed.
-/
import SherGraphics.AlikeCalls
import SherGraphics.AwayActions

namespace SherGraphics

namespace GraphicsRuntime

open Method

variable {P : Type}

/-! ### Actions on another GPU -/

section Kept

variable {away : ObjectId} {foreign : ObjectId → Prop}
  {naming : Renaming ObjectId} {name : ObjectId → ObjectId}

theorem alike_objects [GPUDriver P] {op : Op SoftwareGpuDriver}
    (hobjects : op.onObjects = true) (htarget : ∀ gpu ∈ op.target, gpu ≠ away)
    (hnames : ∀ id ∈ op.names, SameContext naming id (name id)) :
    Alike (P := P) away foreign naming ReplyAgree (perform op)
      (perform (op.rename name)) := by
  by_cases hapi : op.onApi = true
  · have hcall := (isolation (P := P) away foreign).alike_perform hapi htarget
      hnames
    intro left right hagree
    obtain ⟨later, hle, hresults, hafter⟩ := hcall left right hagree
    change ResultRel _ _ _ (perform ((op.rename name).withGpus id) right).1
      at hresults
    change Agree _ _ _ _ (perform ((op.rename name).withGpus id) right).2
      at hafter
    rw [Op.withGpus_id] at hresults hafter
    exact ⟨later, hle, hresults.mono fun _ _ => isolation_sameReply.mp,
      hafter⟩
  · cases op with
    | setCursorImage connector image =>
        have himage := hnames image (by simp [Op.names])
        exact Simulates.map (alike_setCursorImage himage connector)
          fun _ _ _ _ _ => ⟨by simp [Reply.names], rfl⟩
    | _ => exact absurd hobjects hapi

theorem alike_display [GPUDriver P] {op : Op SoftwareGpuDriver}
    (hdisplay : op.onDisplay = true) :
    Alike (P := P) away foreign naming (fun _ _ _ => True) (perform op)
      (perform op) := by
  cases op with
  | registerConnector connector =>
      exact Simulates.map (alike_onPresentation _) fun _ _ _ _ _ => trivial
  | presentFrame connector width height =>
      exact Simulates.map (alike_onPresentation _) fun _ _ _ _ _ => trivial
  | setCursorPosition connector x y =>
      exact Simulates.map (alike_cursorMut connector _ _)
        fun _ _ _ _ _ => trivial
  | showCursor connector =>
      exact Simulates.map (alike_cursorMut connector _ _)
        fun _ _ _ _ _ => trivial
  | hideCursor connector =>
      exact Simulates.map (alike_cursorMut connector _ _)
        fun _ _ _ _ _ => trivial
  | cursorState connector =>
      exact Simulates.map (alike_cursorState connector)
        fun _ _ _ _ _ => trivial
  | _ => cases hdisplay

theorem alike_inject [GPUDriver P] (gpu : ObjectId) (caps : CapabilitySet)
    (address : Nat) (description : String) :
    Alike (P := P) away foreign naming ReplyAgree
      (perform (.driverMut caps
        (SoftwareGpuDriver.injection gpu address description)))
      (perform (.driverMut caps
        (SoftwareGpuDriver.injection gpu address description))) := by
  refine Simulates.bind ((isolation away foreign).alike_ofResult _)
    fun later hle _ _ _ => ?_
  intro left right hagree
  exact ⟨later, le_rfl, .ok ⟨by simp [Reply.names], rfl⟩, { hagree with
    driver := hagree.driver.modify gpu _ fun _ => rfl }⟩

theorem alike_vramQuery [GPUDriver P] {gpu : ObjectId} (hgpu : gpu ≠ away)
    (caps : CapabilitySet) :
    Alike (P := P) away foreign naming ReplyAgree
      (perform (.driverMut caps (SoftwareGpuDriver.vramQuery gpu)))
      (perform (.driverMut caps (SoftwareGpuDriver.vramQuery gpu))) := by
  refine Simulates.bind ((isolation away foreign).alike_ofResult _)
    fun later hle _ _ _ => ?_
  intro left right hagree
  have hdevice := hagree.driver.devices gpu hgpu
  refine ⟨later, le_rfl, ?_, hagree⟩
  change ResultRel _ _
    ((SoftwareGpuDriver.vramAvailable left.driver gpu).map Reply.vram)
    ((SoftwareGpuDriver.vramAvailable right.driver gpu).map Reply.vram)
  cases hstate : left.driver.devices.get gpu with
  | none =>
      rw [SoftwareGpuDriver.vramAvailable, SoftwareGpuDriver.vramAvailable,
        SoftwareGpuDriver.state_of_unknown hstate,
        SoftwareGpuDriver.state_of_unknown (hdevice.trans hstate)]
      exact .error rfl
  | some state =>
      rw [SoftwareGpuDriver.vramAvailable, SoftwareGpuDriver.vramAvailable,
        SoftwareGpuDriver.state_of_known hstate,
        SoftwareGpuDriver.state_of_known (hdevice.trans hstate)]
      exact .ok ⟨by simp [Reply.names], rfl⟩

/-- An action that is not on the other GPU is answered alike. -/
theorem alike_action [GPUDriver P] {action : GpuAction}
    {owned : ObjectId → List ObjectId} (hkept : action.gpu ≠ some away)
    (hown : action.NamesOwn owned)
    (hnames : ∀ gpu, action.gpu = some gpu → ∀ id ∈ owned gpu,
      SameContext naming id (name id)) :
    Alike (P := P) away foreign naming
      (fun later reply reply' => action.gpu.isSome →
        ReplyAgree later reply reply')
      (perform action.toOp) (perform (action.rename name).toOp) := by
  have hsome : ∀ {left right : Method Error (SoftwareRuntime P) Reply},
      Alike away foreign naming ReplyAgree left right →
        Alike away foreign naming (fun later reply reply' =>
          action.gpu.isSome → ReplyAgree later reply reply') left right := by
    intro left right hmethods first second hagree
    obtain ⟨later, hle, hresults, hafter⟩ := hmethods first second hagree
    exact ⟨later, hle, hresults.mono fun _ _ hreply _ => hreply, hafter⟩
  cases action with
  | call gpu op =>
      obtain ⟨hobjects, htarget, hop⟩ := hown
      have hgpu : gpu ≠ away := fun heq => hkept (congrArg some heq)
      apply hsome
      apply alike_objects hobjects
      · intro opened hopened
        rwa [htarget opened hopened]
      · intro id hid
        exact hnames gpu rfl id (hop id hid)
  | display op =>
      intro left right hagree
      obtain ⟨later, hle, hresults, hafter⟩ :=
        alike_display hown left right hagree
      refine ⟨later, hle, hresults.mono ?_, hafter⟩
      intro _ _ _ hsome
      cases hsome
  | inject gpu caps address description =>
      exact hsome (alike_inject gpu caps address description)
  | vramAvailable gpu caps =>
      have hgpu : gpu ≠ away := fun heq => hkept (congrArg some heq)
      exact hsome (alike_vramQuery hgpu caps)

end Kept

/-! ### Answers that agree -/

section Answers

variable {naming later : Renaming ObjectId} {answer answer' : Result Reply}

theorem createdBy_covered
    (hanswers : ResultRel (· = ·) (ReplyAgree naming) answer answer') :
    ∀ id ∈ createdBy answer, naming.covers id := by
  intro id hid
  cases hanswers with
  | ok hreply => exact hreply.1 id (Reply.created_subset_names _ hid)
  | error herrors => cases hid

/-- The two answers differ in names only, which a later renaming keeps. -/
theorem renamed_of_agree
    (hanswers : ResultRel (· = ·) (ReplyAgree naming) answer answer')
    (hle : naming ≤ later) :
    answer' = answer.map (Reply.rename later.perm) := by
  cases hanswers with
  | error herrors => rw [herrors, Except.map]
  | @ok reply reply' hreply =>
      obtain ⟨hcovered, rfl⟩ := hreply
      have hsame : ∀ id ∈ reply.names, naming.perm id = later.perm id :=
        fun id hid => (Renaming.perm_of_le hle (hcovered id hid)).symm
      rw [Except.map, Reply.rename_congr hsame]

end Answers

/-! ### Runs -/

section Runs

variable [GPUDriver P]

/-- The second run started as the first did and left out the actions on
`away`. -/
structure RunsAgree (away : ObjectId) (naming : Renaming ObjectId)
    (past : List (GpuEvent P)) (left right : SoftwareRuntime P) : Prop where
  states : Agree away (· ∈ createdFor past away) naming left right
  covered : ∀ gpu, gpu ≠ away → ∀ id ∈ createdFor past gpu, naming.covers id

variable {away : ObjectId} {naming : Renaming ObjectId}
  {past : List (GpuEvent P)} {left right : SoftwareRuntime P}
  {action : GpuAction}

/-- An action on `away` is taken in the first run only. -/
theorem RunsAgree.away_step (hruns : RunsAgree away naming past left right)
    (hgpu : action.gpu = some away) (hown : action.NamesOwn (createdFor past)) :
    RunsAgree away naming (past ++ [Machine.event gpuStep left action])
      (gpuStep left action).2 right where
  states := by
    have hafter := hruns.states.gpuStep_left hgpu hown fun _ hid => hid
    simpa only [createdFor_concat_of_on hgpu, List.mem_append] using hafter
  covered := by
    intro gpu hne id hid
    have hoff : action.gpu ≠ some gpu := by
      rw [hgpu]
      exact fun heq => hne (Option.some.inj heq).symm
    rw [createdFor_concat_of_off hoff] at hid
    exact hruns.covered gpu hne id hid

/-- Any other action is taken in both runs, and answered alike. -/
theorem RunsAgree.kept_step (hruns : RunsAgree away naming past left right)
    (hkept : action.gpu ≠ some away)
    (hown : action.NamesOwn (createdFor past)) :
    ∃ later, naming ≤ later ∧
      (action.gpu.isSome →
        ResultRel (· = ·) (ReplyAgree later) (gpuStep left action).1
          (gpuStep right (action.rename naming.perm)).1) ∧
      RunsAgree away later (past ++ [Machine.event gpuStep left action])
        (gpuStep left action).2
        (gpuStep right (action.rename naming.perm)).2 := by
  have hnames : ∀ gpu, action.gpu = some gpu → ∀ id ∈ createdFor past gpu,
      SameContext naming id (naming.perm id) := by
    intro gpu hgpu id hid
    have hne : gpu ≠ away := by
      rintro rfl
      exact hkept hgpu
    exact ⟨hruns.covered gpu hne id hid, rfl⟩
  obtain ⟨later, hle, hresults, hafter⟩ :=
    alike_action hkept hown hnames left right hruns.states
  have hanswers : action.gpu.isSome →
      ResultRel (· = ·) (ReplyAgree later) (gpuStep left action).1
        (gpuStep right (action.rename naming.perm)).1 :=
    fun hsome => hresults.mono fun _ _ hreply => hreply hsome
  refine ⟨later, hle, hanswers, ?_, ?_⟩
  · rw [createdFor_concat_of_off hkept]
    exact hafter
  · intro gpu hne id hid
    by_cases hgpu : action.gpu = some gpu
    · rw [createdFor_concat_of_on hgpu, List.mem_append] at hid
      rcases hid with hold | hnew
      · exact Renaming.covers_of_le hle (hruns.covered gpu hne id hold)
      · exact createdBy_covered (hanswers (by simp [hgpu])) id hnew
    · rw [createdFor_concat_of_off hgpu] at hid
      exact Renaming.covers_of_le hle (hruns.covered gpu hne id hid)

/-- The answers on every other GPU are the same in both runs, under a renaming
that extends the one the two runs have reached. -/
theorem RunsAgree.answers {start : SoftwareRuntime P}
    {done rest : List GpuAction}
    (hruns : RunsAgree away naming (Machine.trace gpuStep start done)
      (Machine.run gpuStep start done) right)
    (hown : Machine.Meets gpuStep start (done ++ rest) NamesOwn) :
    ∃ later, naming ≤ later ∧ ∀ gpu, gpu ≠ away →
      answersOn gpu (Machine.trace gpuStep right
          ((without away rest).map (GpuAction.rename later.perm))) =
        (answersOn gpu (Machine.trace gpuStep
          (Machine.run gpuStep start done) rest)).map
            (Except.map (Reply.rename later.perm)) := by
  induction rest generalizing done naming right with
  | nil => exact ⟨naming, le_rfl, fun gpu hne => rfl⟩
  | cons action rest ih =>
      have hstep : action.NamesOwn
          (createdFor (Machine.trace gpuStep start done)) := hown.at_step
      have hlonger : done ++ action :: rest = (done ++ [action]) ++ rest := by
        simp
      rw [hlonger] at hown
      by_cases hgpu : action.gpu = some away
      · have hafter := hruns.away_step hgpu hstep
        rw [← Machine.run_concat, ← Machine.trace_concat] at hafter
        obtain ⟨later, hle, hanswers⟩ := ih hafter hown
        refine ⟨later, hle, ?_⟩
        intro gpu hne
        have hoff : action.gpu ≠ some gpu := by
          rw [hgpu]
          exact fun heq => hne (Option.some.inj heq).symm
        rw [without_cons_of_on hgpu, answersOn_cons_of_off hoff,
          hanswers gpu hne, Machine.run_concat]
      · obtain ⟨now, hnow, hanswer, hafter⟩ := hruns.kept_step hgpu hstep
        rw [← Machine.run_concat, ← Machine.trace_concat] at hafter
        obtain ⟨later, hlater, hanswers⟩ := ih hafter hown
        refine ⟨later, hnow.trans hlater, ?_⟩
        intro gpu hne
        have hsame : gpuStep right (action.rename later.perm) =
            gpuStep right (action.rename naming.perm) := by
          apply gpuStep_rename_congr hstep
          intro owner howner id hid
          have hother : owner ≠ away := by
            rintro rfl
            exact hgpu howner
          exact Renaming.perm_of_le (hnow.trans hlater)
            (hruns.covered owner hother id hid)
        rw [Machine.run_concat] at hanswers
        rw [without_cons_of_off hgpu, List.map_cons]
        by_cases hon : action.gpu = some gpu
        · have hon' : (action.rename later.perm).gpu = some gpu := by
            rwa [GpuAction.gpu_rename]
          rw [answersOn_cons_of_on hon, answersOn_cons_of_on hon', hsame,
            hanswers gpu hne, List.map_cons,
            renamed_of_agree (hanswer (by simp [hon])) hlater]
        · have hoff : (action.rename later.perm).gpu ≠ some gpu := by
            rwa [GpuAction.gpu_rename]
          rw [answersOn_cons_of_off hon, answersOn_cons_of_off hoff, hsame,
            hanswers gpu hne]

/-- GPU `b` answers the same without the actions on GPU `a`, up to names. -/
def SameAnswers (name : ObjectId → ObjectId) (start : SoftwareRuntime P)
    (a b : ObjectId) (actions : List GpuAction) : Prop :=
  answersOn b (Machine.trace gpuStep start
      ((without a actions).map (GpuAction.rename name))) =
    (answersOn b (Machine.trace gpuStep start actions)).map
      (Except.map (Reply.rename name))

theorem RunsAgree.sameAnswers {start : SoftwareRuntime P}
    {actions : List GpuAction} (hstart : RunsAgree away naming [] start start)
    (hown : Machine.Meets gpuStep start actions NamesOwn) :
    ∃ later, naming ≤ later ∧ ∀ gpu, gpu ≠ away →
      SameAnswers later.perm start away gpu actions := by
  have hempty : RunsAgree away naming (Machine.trace gpuStep start [])
      (Machine.run gpuStep start []) start := hstart
  have hactions : Machine.Meets gpuStep start ([] ++ actions) NamesOwn := hown
  exact hempty.answers hactions

variable (count vramBytesPerDevice presentationVramBytes : Nat)
  (ids : IdSource)

theorem runsAgree_start :
    RunsAgree away
      (Renaming.refl (overSoftware (P := P) count vramBytesPerDevice
        presentationVramBytes ids).ids.Issued) []
      (overSoftware (P := P) count vramBytesPerDevice presentationVramBytes
        ids)
      (overSoftware (P := P) count vramBytesPerDevice presentationVramBytes
        ids) where
  states :=
    { issued := fun id hissued => ⟨hissued, hissued⟩
      foreignIssued := by simp [createdFor]
      foreignApart := by simp [createdFor]
      foreignContexts := by simp [createdFor]
      devices := .empty
      deviceCaps := .empty
      resources := .empty
      shaders := .empty
      pipelines := .empty
      timelines := .empty
      driver :=
        { devices := fun _ _ => rfl
          keyed := SoftwareGpuDriver.keyed_withDevices _ _ _
          keyed' := SoftwareGpuDriver.keyed_withDevices _ _ _
          allocations := .empty
          foreign := by simp [createdFor] }
      presentation := rfl }
  covered := by simp [createdFor]

/-- Take any run whose calls name only objects of their own GPU.  Without the
actions on GPU `a`, every other GPU gives the same answers, up to the names of
the identifiers drawn during the run. -/
theorem gpus_isolated (a : ObjectId) (actions : List GpuAction)
    (hown : Machine.Meets gpuStep (overSoftware (P := P) count
      vramBytesPerDevice presentationVramBytes ids) actions NamesOwn) :
    ∃ name : Equiv.Perm ObjectId,
      (∀ id, (overSoftware (P := P) count vramBytesPerDevice
        presentationVramBytes ids).ids.Issued id → name id = id) ∧
      ∀ b, b ≠ a → SameAnswers name (overSoftware (P := P) count
        vramBytesPerDevice presentationVramBytes ids) a b actions := by
  have hstart : RunsAgree a _ _ _ _ := runsAgree_start (P := P) count
    vramBytesPerDevice presentationVramBytes ids
  obtain ⟨later, hle, hanswers⟩ := hstart.sameAnswers hown
  refine ⟨later.perm, ?_, hanswers⟩
  intro id hissued
  exact Renaming.perm_of_le hle hissued

end Runs

/-! ### A GPU beside a broken one -/

namespace BrokenNeighbour

def start : SoftwareRuntime BareDisplay := sample 2 4096

/-- GPU 0 runs out of memory, breaks and is recovered while GPU 1 works. -/
def actions : List GpuAction :=
  [.call ⟨0⟩ (.createDevice ⟨0⟩ .full),
    .call ⟨1⟩ (.createDevice ⟨1⟩ .full),
    .call ⟨0⟩ (.createResource ⟨2⟩ (.buffer 4096 {}) .deviceLocal),
    .call ⟨1⟩ (.createResource ⟨6⟩ (.buffer 1024 {}) .deviceLocal),
    .inject ⟨0⟩ .full 64 "page fault",
    .call ⟨1⟩ (.createTimeline ⟨6⟩),
    .call ⟨1⟩ (.submit ⟨⟨7⟩, .graphics⟩
      ⟨⟨13⟩, ⟨6⟩, .graphics, [.bindResource 0 ⟨11⟩]⟩ ⟨12⟩ 1),
    .call ⟨0⟩ (.recoverDevice ⟨2⟩ .full),
    .call ⟨1⟩ (.deviceFault ⟨6⟩),
    .call ⟨1⟩ (.timelineValue ⟨12⟩),
    .vramAvailable ⟨1⟩ .full]

theorem gpus_isolated_beside_broken :
    ∃ name : Equiv.Perm ObjectId,
      (∀ id, start.ids.Issued id → name id = id) ∧
      ∀ b, b ≠ ⟨0⟩ → SameAnswers name start ⟨0⟩ b actions :=
  gpus_isolated 2 4096 0 .sequential ⟨0⟩ actions (by decide)

end BrokenNeighbour

end GraphicsRuntime

end SherGraphics
