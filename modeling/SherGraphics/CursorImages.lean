/-
Cursor images.  `set_cursor_image` takes only a registered image resource, and
the cursor keeps its identifier; `free_resource` and `recover_device` forget
resources without looking at the cursors.
-/
import SherGraphics.RuntimeFrame

namespace SherGraphics

/-- The display never forgets a connector. -/
structure KeepsConnectors (P : Type) [GPUDriver P] : Prop where
  registerConnector : ∀ connector (display : P) id,
    (GPUDriver.getConnector display id).isSome = true →
      (GPUDriver.getConnector (GPUDriver.registerConnector connector
        display).2 id).isSome = true
  allocateFramebuffer : ∀ width height (display : P) id,
    (GPUDriver.getConnector display id).isSome = true →
      (GPUDriver.getConnector (GPUDriver.allocateFramebuffer width height
        display).2 id).isSome = true
  pageFlip : ∀ connector framebuffer (display : P) id,
    (GPUDriver.getConnector display id).isSome = true →
      (GPUDriver.getConnector (GPUDriver.pageFlip connector framebuffer
        display).2 id).isSome = true

theorem KeepsConnectors.present {P : Type} [GPUDriver P]
    (hkeeps : KeepsConnectors P) {bridge : PresentationBridge P}
    {connector : ObjectId} (target : ObjectId) (width height : UInt32)
    (hknown : bridge.hasConnector connector = true) :
    (PresentationBridge.present target width height
      bridge).2.hasConnector connector = true := by
  let kept (bridge : PresentationBridge P) : Prop :=
    bridge.hasConnector connector = true
  have hflip : ∀ framebuffer bridge, kept bridge →
      kept ((do
        PresentationBridge.onDisplay (GPUDriver.pageFlip target framebuffer)
        pure framebuffer) bridge).2 := by
    intro framebuffer
    apply Method.bind_preserves
    · intro bridge hbridge
      exact hkeeps.pageFlip target framebuffer _ connector hbridge
    · exact fun _ _ hbridge => hbridge
  have hpresent : ∀ bridge, kept bridge →
      kept (PresentationBridge.present target width height bridge).2 := by
    apply Method.bind_preserves
    · intro bridge hbridge
      exact hkeeps.allocateFramebuffer width height _ connector hbridge
    · exact fun framebuffer => hflip framebuffer.id
  exact hpresent bridge hknown

namespace GraphicsRuntime

section Images

variable {D P : Type}

/-- The identifier is that of a registered image. -/
def IsLiveImage (now : GraphicsRuntime D P) (image : ObjectId) : Prop :=
  ∃ row, now.resources.get image = some row ∧ isImage row.kind = true

/-- Every cursor that can be asked for shows a registered image, if any. -/
def CursorsSound [GPUDriver P] (now : GraphicsRuntime D P) : Prop :=
  ∀ connector cursor image, (cursorState connector now).1 = .ok cursor →
    cursor.image = some image → IsLiveImage now image

/-- Some connector has the image on its cursor. -/
def OnCursor (now : GraphicsRuntime D P) (image : ObjectId) : Prop :=
  ∃ connector cursor, now.cursors.get connector = some cursor ∧
    cursor.image = some image

/-- The operation takes the resource out of the resource table. -/
def Deletes [GpuDriver D] (before : GraphicsRuntime D P) (image : ObjectId) :
    Op D → Prop
  | .freeResource name => name = image
  | .recoverDevice id caps => caps.hasCapability .gpuAdmin = true ∧
      ∃ found row, before.devices.get id = some found ∧
        IsOk (GpuDriver.resetDevice found.gpu before.driver).1 ∧
          before.resources.get image = some row ∧ row.device = id
  | _ => False

/-- The step takes away no resource that is on a cursor. -/
def SparesCursors [GpuDriver D] (e : RuntimeEvent D P) : Prop :=
  ∀ image, OnCursor e.before image → ¬ Deletes e.before image e.action

/-! ### What a step does to the cursors -/

/-- A step leaves the cursors alone, or changes the cursor of one connector
that the display knows; an image is put on it only when it is registered. -/
inductive CursorEffect [GPUDriver P] (before after : GraphicsRuntime D P) :
    Prop
  | kept (hcursors : after.cursors = before.cursors)
  | changed (connector : ObjectId) (cursor : CursorState)
      (hknown : before.presentation.hasConnector connector = true)
      (hcursors : after.cursors = before.cursors.insert connector cursor)
      (hpresentation : after.presentation = before.presentation)
      (hresources : after.resources = before.resources)
      (himage : ∀ image, cursor.image = some image →
        OnCursor before image ∨ IsLiveImage before image)

section Cursors

variable [GPUDriver P] (before : GraphicsRuntime D P)

theorem cursorMut_effect_of (connector : ObjectId)
    (update : CursorState → CursorState)
    (himage : ∀ image, (update ((before.cursors.get connector).getD {})).image =
      some image → OnCursor before image ∨ IsLiveImage before image) :
    CursorEffect before (cursorMut connector update before).2 := by
  rw [cursorMut, Method.read_bind]
  by_cases hknown : before.presentation.hasConnector connector = false
  · rw [Method.rejectIf_bind_of_pos _ _ _ hknown]
    exact .kept rfl
  · rw [Method.rejectIf_bind_of_neg _ _ _ hknown]
    exact .changed connector _ (by simpa using hknown) rfl rfl rfl himage

omit [GPUDriver P] in
/-- The image that was already on the cursor. -/
theorem onCursor_of_getD {connector image : ObjectId}
    (himage : ((before.cursors.get connector).getD {}).image = some image) :
    OnCursor before image := by
  cases hrow : before.cursors.get connector with
  | none =>
      rw [hrow] at himage
      cases himage
  | some cursor =>
      rw [hrow] at himage
      exact ⟨connector, cursor, hrow, himage⟩

theorem setCursorImage_cursorEffect (connector image : ObjectId) :
    CursorEffect before (setCursorImage connector image before).2 := by
  rw [setCursorImage, Method.read_bind]
  cases hrow : before.resources.get image with
  | none =>
      rw [Method.okOr_none_bind]
      exact .kept rfl
  | some row =>
      rw [Method.okOr_some_bind]
      by_cases hkind : isImage row.kind = false
      · rw [Method.rejectIf_bind_of_pos _ _ _ hkind]
        exact .kept rfl
      · rw [Method.rejectIf_bind_of_neg _ _ _ hkind]
        apply cursorMut_effect_of
        rintro other ⟨⟩
        exact Or.inr ⟨row, hrow, by simpa using hkind⟩

variable [GpuDriver D]

theorem step_cursorEffect (op : Op D) :
    CursorEffect before (step before op).2 := by
  by_cases hwrites : .cursors ∈ op.writes
  · cases op with
    | setCursorImage connector image =>
        rw [step, perform, Method.map_run]
        exact setCursorImage_cursorEffect before connector image
    | setCursorPosition connector x y =>
        rw [step, perform, Method.map_run]
        exact cursorMut_effect_of before connector _ fun image himage =>
          Or.inl (onCursor_of_getD before himage)
    | showCursor connector =>
        rw [step, perform, Method.map_run]
        exact cursorMut_effect_of before connector _ fun image himage =>
          Or.inl (onCursor_of_getD before himage)
    | hideCursor connector =>
        rw [step, perform, Method.map_run]
        exact cursorMut_effect_of before connector _ fun image himage =>
          Or.inl (onCursor_of_getD before himage)
    | _ => simp [Op.writes] at hwrites
  · exact .kept (step_keeps hides_cursors hwrites before)

end Cursors

/-! ### What a step does to a resource -/

section Resources

variable [GpuDriver D] {before after : GraphicsRuntime D P} {op : Op D}
  {answer : Result Reply} {image : ObjectId}

/-- A registered resource stays as it is unless the step deletes it. -/
theorem Effect.resource_after [FreshAllocations D]
    (heffect : Effect before op answer after) {row : Resource}
    (hissued : before.ids.Issued image)
    (hrow : before.resources.get image = some row)
    (hspared : ¬ Deletes before image op) :
    after.resources.get image = some row := by
  cases heffect with
  | quiet hanswer hsealed htables hids hdriver =>
      have hresources : after.resources = before.resources :=
        congrArg ObjectTables.resources htables
      rw [hresources, hrow]
  | createdResource hcontext hallocated =>
      obtain ⟨hfresh, -⟩ := FreshAllocations.fresh _ _ _ _ _ _ _ _ hallocated
      refine (Table.get_insert_ne _ _ ?_).trans hrow
      rintro rfl
      exact hfresh hissued
  | @freed name freed hfreed =>
      have hne : image ≠ name := fun heq => hspared heq.symm
      exact (Table.get_erase_ne _ hne).trans hrow
  | @recovered id caps found driver hadmin hcontext hreset =>
      have hdevice : row.device ≠ id := by
        intro heq
        exact hspared ⟨hadmin, found, row, hcontext,
          by rw [hreset]; exact isOk_ok _, hrow, heq⟩
      refine (Table.get_retain _ _ _).trans ?_
      simp [hrow, Option.filter_some, hdevice]
  | borrowed hadmin => exact hrow
  | notBorrowed hdenied => exact hrow
  | createdDevice hgranted hprobe hfind => exact hrow
  | createdTimeline hcontext => exact hrow
  | createdShader hcontext => exact hrow
  | createdPipeline hcontext hshader => exact hrow
  | submitted hready haccepted => exact hrow
  | panicked hready hpanicked => exact hrow

/-- Every resource is filed under an identifier that was handed out. -/
def ResourcesIssued (now : GraphicsRuntime D P) : Prop :=
  ∀ name row, now.resources.get name = some row → now.ids.Issued name

theorem ResourcesIssued.preserved [FreshAllocations D]
    (hissued : ResourcesIssued before)
    (heffect : Effect before op answer after) : ResourcesIssued after := by
  intro name row hrow
  rcases heffect.resource_origin hrow with hbefore | ⟨-, hnew⟩
  · exact (hissued name row hbefore).mono heffect.advances
  · exact hnew

variable [GPUDriver P]

/-- A deleted resource is no longer registered. -/
theorem Deletes.absent (hdeletes : Deletes before image op) :
    (step before op).2.resources.get image = none := by
  cases op with
  | freeResource name =>
      cases hdeletes
      rw [step, perform, Method.map_run, freeResource, Method.read_bind]
      cases hrow : before.resources.get image with
      | none => exact hrow
      | some row => exact Table.get_erase_self _ _
  | recoverDevice id caps =>
      obtain ⟨hadmin, found, row, hcontext, ⟨value, hok⟩, hrow, hdevice⟩ :=
        hdeletes
      rw [step, perform, Method.map_run,
        recoverDevice_of_live before hadmin hcontext]
      cases hreset : GpuDriver.resetDevice found.gpu before.driver with
      | mk result driver =>
          rw [hreset] at hok
          cases hok
          refine (Table.get_retain _ _ _).trans ?_
          simp [hrow, hdevice]
  | _ => cases hdeletes

end Resources

/-! ### Runs -/

section Runs

/-- Every image on a cursor is registered, whether or not its connector is
known. -/
structure CursorInvariant (now : GraphicsRuntime D P) : Prop where
  issued : ResourcesIssued now
  live : ∀ image, OnCursor now image → IsLiveImage now image

/-- Every connector with a cursor is one that the display knows. -/
def CursorsKnown [GPUDriver P] (now : GraphicsRuntime D P) : Prop :=
  ∀ connector cursor, now.cursors.get connector = some cursor →
    now.presentation.hasConnector connector = true

variable [GPUDriver P]

theorem cursorState_of_known {now : GraphicsRuntime D P} {connector : ObjectId}
    (hknown : now.presentation.hasConnector connector = true) :
    (cursorState connector now).1 =
      .ok ((now.cursors.get connector).getD {}) := by
  rw [cursorState, Method.read_bind,
    Method.rejectIf_bind_of_neg _ _ _ (by simp [hknown])]
  rfl

theorem CursorInvariant.sound {now : GraphicsRuntime D P}
    (hinvariant : CursorInvariant now) : CursorsSound now := by
  intro connector cursor image hcursor himage
  apply hinvariant.live
  rw [cursorState, Method.read_bind] at hcursor
  by_cases hknown : now.presentation.hasConnector connector = false
  · rw [Method.rejectIf_bind_of_pos _ _ _ hknown] at hcursor
    cases hcursor
  · rw [Method.rejectIf_bind_of_neg _ _ _ hknown] at hcursor
    cases hcursor
    exact onCursor_of_getD now himage

theorem CursorsSound.live {now : GraphicsRuntime D P}
    (hsound : CursorsSound now) (hknown : CursorsKnown now) {image : ObjectId}
    (hcursor : OnCursor now image) : IsLiveImage now image := by
  obtain ⟨connector, cursor, hrow, himage⟩ := hcursor
  have hstate := cursorState_of_known (hknown connector cursor hrow)
  rw [hrow] at hstate
  exact hsound connector cursor image hstate himage

variable [GpuDriver D]

theorem CursorInvariant.preserved [FreshAllocations D]
    {before : GraphicsRuntime D P} (hinvariant : CursorInvariant before)
    {op : Op D} (hspares : SparesCursors (Machine.event step before op)) :
    CursorInvariant (step before op).2 := by
  have heffect := step_effect before op
  refine ⟨hinvariant.issued.preserved heffect, ?_⟩
  rintro image ⟨connector, cursor, hrow, himage⟩
  cases step_cursorEffect before op with
  | kept hcursors =>
      rw [hcursors] at hrow
      have hcursor : OnCursor before image := ⟨connector, cursor, hrow, himage⟩
      obtain ⟨row, hlive, hkind⟩ := hinvariant.live image hcursor
      have hissued := hinvariant.issued image row hlive
      exact ⟨row, heffect.resource_after hissued hlive (hspares image hcursor),
        hkind⟩
  | changed connector' cursor' hknown hcursors hpresentation hresources
      himages =>
      rw [IsLiveImage, hresources]
      rw [hcursors] at hrow
      rcases Table.row_of_insert hrow with ⟨-, rfl⟩ | ⟨-, hold⟩
      · rcases himages image himage with hcursor | hlive
        · exact hinvariant.live image hcursor
        · exact hlive
      · exact hinvariant.live image ⟨connector, cursor, hold, himage⟩

theorem hasConnector_step (hkeeps : KeepsConnectors P)
    (before : GraphicsRuntime D P) (op : Op D) {connector : ObjectId}
    (hknown : before.presentation.hasConnector connector = true) :
    (step before op).2.presentation.hasConnector connector = true := by
  by_cases hwrites : .presentation ∈ op.writes
  · cases op with
    | registerConnector added =>
        rw [step, perform, Method.map_run]
        exact hkeeps.registerConnector added _ connector hknown
    | presentFrame target width height =>
        rw [step, perform, Method.map_run]
        exact hkeeps.present target width height hknown
    | _ => simp [Op.writes] at hwrites
  · rw [step_keeps hides_presentation hwrites before]
    exact hknown

theorem cursorsKnown_step (hkeeps : KeepsConnectors P)
    {before : GraphicsRuntime D P} (hknown : CursorsKnown before) (op : Op D) :
    CursorsKnown (step before op).2 := by
  intro connector cursor hrow
  apply hasConnector_step hkeeps
  cases step_cursorEffect before op with
  | kept hcursors =>
      rw [hcursors] at hrow
      exact hknown connector cursor hrow
  | changed changed cursor' hlive hcursors hpresentation hresources himages =>
      rw [hcursors] at hrow
      rcases Table.row_of_insert hrow with ⟨rfl, -⟩ | ⟨-, hold⟩
      · exact hlive
      · exact hknown connector cursor hold

/-- A step that deletes a resource leaves the cursors alone, so a cursor with
that resource on it is left dangling. -/
theorem sparesCursors_of_sound {before : GraphicsRuntime D P} {op : Op D}
    (hknown : CursorsKnown (step before op).2)
    (hsound : CursorsSound (step before op).2) :
    SparesCursors (Machine.event step before op) := by
  rintro image ⟨connector, cursor, hrow, himage⟩ hdeletes
  have hwrites : .cursors ∉ op.writes := by
    cases op with
    | freeResource name => simp [Op.writes]
    | recoverDevice id caps => simp [Op.writes]
    | _ => cases hdeletes
  have hcursors : (step before op).2.cursors = before.cursors :=
    step_keeps hides_cursors hwrites before
  have hcursor : OnCursor (step before op).2 image :=
    ⟨connector, cursor, by rw [hcursors]; exact hrow, himage⟩
  obtain ⟨row, hlive, -⟩ := hsound.live hknown hcursor
  cases hlive.symm.trans (Deletes.absent hdeletes)

/-- No cursor dangles in a run that deletes no resource while it is on a
cursor; over a display that never forgets a connector, these are the only runs
in which none ever does. -/
theorem cursors_sound_of_spared [FreshAllocations D] (driver : D)
    (vramBytes : Nat) (ids : IdSource) (ops : List (Op D)) :
    let start : GraphicsRuntime D P := new driver vramBytes ids
    (Machine.Meets step start ops (fun _ e => SparesCursors e) →
        Machine.Throughout step start ops (fun _ now => CursorsSound now)) ∧
      (KeepsConnectors P →
        Machine.Throughout step start ops (fun _ now => CursorsSound now) →
          Machine.Meets step start ops (fun _ e => SparesCursors e)) := by
  intro start
  constructor
  · intro hspares
    have hinit : CursorInvariant start := by
      refine ⟨by simp [ResourcesIssued, start, new], ?_⟩
      rintro image ⟨connector, cursor, hrow, -⟩
      simp [start, new] at hrow
    have hall : Machine.Throughout step start ops
        (fun _ now => CursorInvariant now) :=
      Machine.throughout_of_meets hinit
        (fun _ now op hnow hspared => hnow.preserved hspared) hspares
    exact hall.mono fun _ now hnow => hnow.sound
  · intro hkeeps hall
    apply Machine.meets_of_prefixes
    rintro first op later hops
    have hknown : CursorsKnown (Machine.run step start (first ++ [op])) :=
      Machine.run_invariant CursorsKnown (by simp [CursorsKnown, start, new])
        (fun now op hnow => cursorsKnown_step hkeeps hnow op) _
    have hsound := hall (first ++ [op]) later (by simpa using hops)
    rw [Machine.run_concat] at hknown hsound
    exact sparesCursors_of_sound hknown hsound

end Runs

end Images

namespace DanglingCursor

/-- Image 5 of context 1 is put on the cursor of connector 100. -/
def opening : List (Op SoftwareGpuDriver) :=
  [.registerConnector ⟨⟨100⟩⟩, .createDevice ⟨0⟩ .full,
    .createResource ⟨1⟩ (.image 1 1 1 .rgba8Unorm {}) .deviceLocal,
    .setCursorImage ⟨100⟩ ⟨5⟩]

/-- The cursor keeps the freed image. -/
theorem cursor_dangles_after_free :
    ¬ Machine.Throughout step (sample 1 1024)
      (opening ++ [.freeResource ⟨5⟩]) (fun _ now => CursorsSound now) := by
  intro hall
  obtain ⟨row, hrow, -⟩ := hall.last ⟨100⟩ { image := some ⟨5⟩ } ⟨5⟩
    (by decide) rfl
  have hfreed : (Machine.run step (sample 1 1024)
      (opening ++ [.freeResource ⟨5⟩])).resources.get ⟨5⟩ = none := by decide
  cases hfreed.symm.trans hrow

theorem bareDisplay_keepsConnectors : KeepsConnectors BareDisplay where
  registerConnector added display id hknown := by
    change ((display.connectors.insert added.id added).get id).isSome = true
    rw [Table.get_insert]
    by_cases heq : id = added.id
    · rw [if_pos heq]
      rfl
    · rw [if_neg heq]
      exact hknown
  allocateFramebuffer width height display id hknown := hknown
  pageFlip target framebuffer display id hknown := by
    have hkept : Method.Keeps BareDisplay.connectors
        (GPUDriver.pageFlip target framebuffer :
          Method Error BareDisplay Unit) :=
      .bind (.read _) fun _ => .bind (.okOr _ _) fun _ => .pure _
    have hsame := congrArg (fun table => (table.get id).isSome) (hkept display)
    exact hsame.trans hknown

/-- Hiding the cursor deletes nothing. -/
theorem hidden_cursor_sound :
    let ops := opening ++ [.hideCursor ⟨100⟩]
    KeepsConnectors BareDisplay ∧
      Machine.Throughout step (sample 1 1024) ops
        (fun _ now => CursorsSound now) ∧
      Machine.Meets step (sample 1 1024) ops (fun _ e => SparesCursors e) := by
  intro ops
  obtain ⟨hsufficient, hnecessary⟩ :=
    cursors_sound_of_spared (P := BareDisplay)
      (SoftwareGpuDriver.withDevices 1 1024 .sequential).1 0
      (SoftwareGpuDriver.withDevices 1 1024 .sequential).2 ops
  have hspares : Machine.Meets step (sample 1 1024) ops
      (fun _ e => SparesCursors e) := by
    apply Machine.meets_of_prefixes
    intro first op later hops image _ hdeletes
    have hmem : op ∈ ops := by simp [hops]
    simp only [ops, opening, List.cons_append, List.nil_append, List.mem_cons,
      List.not_mem_nil, or_false] at hmem
    rcases hmem with rfl | rfl | rfl | rfl | rfl
    all_goals exact hdeletes
  have hsound := hsufficient hspares
  exact ⟨bareDisplay_keepsConnectors, hsound,
    hnecessary bareDisplay_keepsConnectors hsound⟩

end DanglingCursor

end GraphicsRuntime

end SherGraphics
