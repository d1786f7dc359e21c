/-
What a screen shows is what was last put on it.  Each part of a connector's
cursor is as its last successful change has left it, whatever has become of the
contexts and resources since, and the framebuffer on screen is the one that the
last successful present to the connector returned.
-/
import SherGraphics.DisplayMemory
import SherGraphics.Ongoing

namespace SherGraphics

namespace GraphicsRuntime

open FramebufferPool

section Screens

variable {D P : Type}

/-! ### What a call puts on a screen -/

/-- The image that the call put on the connector's cursor. -/
def imageSet (connector : ObjectId) (e : RuntimeEvent D P) : Option ObjectId :=
  match e.action, e.answer with
  | .setCursorImage named image, .ok _ =>
      if connector = named then some image else none
  | _, _ => none

/-- The place that the call moved the connector's cursor to. -/
def positionSet (connector : ObjectId) (e : RuntimeEvent D P) :
    Option (Int32 × Int32) :=
  match e.action, e.answer with
  | .setCursorPosition named x y, .ok _ =>
      if connector = named then some (x, y) else none
  | _, _ => none

/-- Whether the call showed or hid the connector's cursor. -/
def visibilitySet (connector : ObjectId) (e : RuntimeEvent D P) :
    Option Bool :=
  match e.action, e.answer with
  | .showCursor named, .ok _ => if connector = named then some true else none
  | .hideCursor named, .ok _ => if connector = named then some false else none
  | _, _ => none

/-- The framebuffer that the call presented on the connector. -/
def framePresented (connector : ObjectId) (e : RuntimeEvent D P) :
    Option ObjectId :=
  match e.action, e.answer with
  | .presentFrame named _ _, .ok (.framebuffer framebuffer) =>
      if connector = named then some framebuffer else none
  | _, _ => none

/-- The cursor that the history has left on the connector. -/
def cursorOf (past : List (RuntimeEvent D P)) (connector : ObjectId) :
    CursorState where
  image := lastWrite (imageSet connector) past
  position := (lastWrite (positionSet connector) past).getD (0, 0)
  visible := (lastWrite (visibilitySet connector) past).getD false

/-- The call registers the connector, for the first time or again. -/
def Registers (connector : ObjectId) (e : RuntimeEvent D P) : Prop :=
  ∃ added, e.action = .registerConnector added ∧ added.id = connector

/-- The framebuffer was presented on the connector, and nothing else has been
nor was the connector registered again since. -/
def Displayed (connector framebuffer : ObjectId) :
    List (RuntimeEvent D P) → Prop :=
  Ongoing (fun e => framePresented connector e = some framebuffer)
    fun e => framePresented connector e ≠ none ∨ Registers connector e

/-! ### Cursors -/

section Cursors

variable {past : List (RuntimeEvent D P)}

/-- The cursor that a connector has, by the table. -/
def cursorAt (now : GraphicsRuntime D P) (connector : ObjectId) : CursorState :=
  (now.cursors.get connector).getD {}

/-- The cursor after a call that found it like this. -/
def cursorAfter (connector : ObjectId) (e : RuntimeEvent D P)
    (cursor : CursorState) : CursorState where
  image := (imageSet connector e).or cursor.image
  position := (positionSet connector e).getD cursor.position
  visible := (visibilitySet connector e).getD cursor.visible

theorem cursorOf_concat (connector : ObjectId) (e : RuntimeEvent D P) :
    cursorOf (past ++ [e]) connector =
      cursorAfter connector e (cursorOf past connector) := by
  have hgetD : ∀ {α : Type} (new old : Option α) (default : α),
      (new.or old).getD default = new.getD (old.getD default) := by
    intro α new old default
    cases new <;> rfl
  simp [cursorOf, cursorAfter, lastWrite_concat, hgetD]

/-- A call that fails changes no cursor. -/
theorem cursorAfter_of_error {before after : GraphicsRuntime D P} (op : Op D)
    (error : Error) (connector : ObjectId) (cursor : CursorState) :
    cursorAfter connector ⟨before, op, .error error, after⟩ cursor =
      cursor := by
  cases op <;> rfl

variable [GPUDriver P]

theorem cursorMut_run (now : GraphicsRuntime D P) (connector : ObjectId)
    (update : CursorState → CursorState) :
    (∃ error, cursorMut connector update now = (.error error, now)) ∨
      ∃ after, cursorMut connector update now = (.ok (), after) ∧
        ∀ other, cursorAt after other =
          if other = connector then update (cursorAt now connector)
          else cursorAt now other := by
  rw [cursorMut, Method.read_bind]
  by_cases hknown : now.presentation.hasConnector connector = false
  · rw [Method.rejectIf_bind_of_pos _ _ _ hknown]
    exact Or.inl ⟨_, rfl⟩
  · rw [Method.rejectIf_bind_of_neg _ _ _ hknown]
    refine Or.inr ⟨_, rfl, fun other => ?_⟩
    by_cases hother : other = connector
    · simp [cursorAt, hother]
    · simp [cursorAt, Table.get_insert, hother]

/-- The image is put on the cursor, or the call fails. -/
theorem setCursorImage_run (now : GraphicsRuntime D P)
    (connector image : ObjectId) :
    (∃ error, setCursorImage connector image now = (.error error, now)) ∨
      setCursorImage connector image now = cursorMut connector
        (fun cursor => { cursor with image := some image }) now := by
  rw [setCursorImage, Method.read_bind]
  cases hrow : now.resources.get image with
  | none => exact Or.inl ⟨_, rfl⟩
  | some row =>
      rw [Method.okOr_some_bind]
      by_cases hkind : isImage row.kind = false
      · rw [Method.rejectIf_bind_of_pos _ _ _ hkind]
        exact Or.inl ⟨_, rfl⟩
      · rw [Method.rejectIf_bind_of_neg _ _ _ hkind]
        exact Or.inr rfl

variable [GpuDriver D]

/-- A call of a cursor primitive, by what it does to the cursor. -/
theorem cursorAt_step_of {now : GraphicsRuntime D P} {op : Op D}
    {named : ObjectId} {update : CursorState → CursorState}
    {method : Method Error (GraphicsRuntime D P) Unit}
    (hop : perform op = (fun _ => Reply.unit) <$> method)
    (hmethod : (∃ error, method now = (.error error, now)) ∨
      method now = cursorMut named update now)
    (hwritten : ∀ before after connector cursor,
      cursorAfter connector (⟨before, op, .ok .unit, after⟩ :
        RuntimeEvent D P) cursor =
          if connector = named then update cursor else cursor)
    (connector : ObjectId) :
    cursorAt (step now op).2 connector = cursorAfter connector
      (Machine.event step now op) (cursorAt now connector) := by
  have hrefused : ∀ error, method now = (.error error, now) →
      cursorAt (step now op).2 connector = cursorAfter connector
        (Machine.event step now op) (cursorAt now connector) := by
    intro error hrun
    have hstep : step now op = (.error error, now) := by
      rw [step, hop, Method.map_run, hrun]
      rfl
    rw [Machine.event, hstep, cursorAfter_of_error]
  rcases hmethod with ⟨error, hrun⟩ | hrun
  · exact hrefused error hrun
  · rcases cursorMut_run now named update with ⟨error, hmut⟩ |
      ⟨after, hmut, hcursors⟩
    · exact hrefused error (hrun.trans hmut)
    · have hstep : step now op = (.ok .unit, after) := by
        rw [step, hop, Method.map_run, hrun, hmut]
        rfl
      rw [Machine.event, hstep, hwritten, hcursors]
      by_cases hnamed : connector = named
      · rw [if_pos hnamed, if_pos hnamed, hnamed]
      · rw [if_neg hnamed, if_neg hnamed]

theorem cursorAt_step (now : GraphicsRuntime D P) (op : Op D)
    (connector : ObjectId) :
    cursorAt (step now op).2 connector = cursorAfter connector
      (Machine.event step now op) (cursorAt now connector) := by
  cases op with
  | setCursorImage named image =>
      apply cursorAt_step_of rfl (setCursorImage_run now named image)
      intro before after other cursor
      by_cases hnamed : other = named <;>
        simp [cursorAfter, imageSet, positionSet, visibilitySet, hnamed]
  | setCursorPosition named x y =>
      apply cursorAt_step_of rfl (Or.inr rfl)
      intro before after other cursor
      by_cases hnamed : other = named <;>
        simp [cursorAfter, imageSet, positionSet, visibilitySet, hnamed]
  | showCursor named =>
      apply cursorAt_step_of rfl (Or.inr rfl)
      intro before after other cursor
      by_cases hnamed : other = named <;>
        simp [cursorAfter, imageSet, positionSet, visibilitySet, hnamed]
  | hideCursor named =>
      apply cursorAt_step_of rfl (Or.inr rfl)
      intro before after other cursor
      by_cases hnamed : other = named <;>
        simp [cursorAfter, imageSet, positionSet, visibilitySet, hnamed]
  | _ =>
      rw [cursorAt, step_keeps hides_cursors (by simp [Op.writes]) now]
      rfl

end Cursors

/-! ### Frames -/

section Frames

variable [GPUDriver P] [FramebufferPool P] [GpuDriver D]

/-- What a call does to the screen of a connector. -/
inductive ScreenEffect (connector : ObjectId) (e : RuntimeEvent D P) : Prop
  | shown (framebuffer : ObjectId)
      (hframe : framePresented connector e = some framebuffer)
      (hcurrent : current e.after.presentation.display connector =
        some framebuffer)
  | kept (hframe : framePresented connector e = none)
      (hcurrent : current e.after.presentation.display connector =
        current e.before.presentation.display connector)
  | blanked (hframe : framePresented connector e = none)
      (hregisters : Registers connector e)
      (hcurrent : current e.after.presentation.display connector = none)

theorem step_screenEffect (now : GraphicsRuntime D P) (op : Op D)
    (connector : ObjectId) :
    ScreenEffect connector (Machine.event step now op) := by
  cases op with
  | presentFrame named width height =>
      obtain ⟨result, after, hrun, hpresents⟩ :=
        step_presentFrame now named width height
      rw [Machine.event, hrun]
      cases hpresents with
      | refused error hrefused hsame =>
          exact .kept rfl (by rw [hsame])
      | lost framebuffer error _ _ _ hadded hcurrent =>
          exact .kept rfl (congrFun hcurrent connector)
      | shown framebuffer _ hfresh _ hadded hcurrent =>
          by_cases hnamed : connector = named
          · apply ScreenEffect.shown framebuffer
            · simp [framePresented, Except.map, hnamed]
            · simp [hcurrent, hnamed]
          · apply ScreenEffect.kept
            · simp [framePresented, Except.map, hnamed]
            · simp [hcurrent, hnamed]
  | registerConnector added =>
      obtain ⟨-, -, hothers, hown⟩ :=
        registered added now.presentation.display _ _ rfl
      have hafter := step_registerConnector now added
      by_cases hnamed : connector = added.id
      · subst hnamed
        rcases hown with hnone | hsame
        · apply ScreenEffect.blanked rfl ⟨added, rfl, rfl⟩
          rw [Machine.event, hafter]
          exact hnone
        · apply ScreenEffect.kept rfl
          rw [Machine.event, hafter]
          exact hsame
      · apply ScreenEffect.kept rfl
        rw [Machine.event, hafter]
        exact hothers connector hnamed
  | _ =>
      apply ScreenEffect.kept rfl
      rw [Machine.event, step_keeps hides_presentation (by simp [Op.writes]) now]

end Frames

/-! ### A whole run -/

section Runs

variable [GPUDriver P] [FramebufferPool P] {past : List (RuntimeEvent D P)}

/-- Cursors and frames are as the history has left them.  A frame that is on
screen is the last one presented there, and it stays there until another is
presented or the connector is registered again. -/
structure ScreenHistory (past : List (RuntimeEvent D P))
    (now : GraphicsRuntime D P) : Prop where
  cursors : ∀ connector, cursorAt now connector = cursorOf past connector
  last : ∀ connector framebuffer,
    current now.presentation.display connector = some framebuffer →
      lastWrite (framePresented connector) past = some framebuffer
  stays : ∀ connector framebuffer, Displayed connector framebuffer past →
    current now.presentation.display connector = some framebuffer

theorem screenHistory_new (driver : D) (vramBytes : Nat) (ids : IdSource) :
    ScreenHistory [] (new driver vramBytes ids : GraphicsRuntime D P) where
  cursors connector := by simp [cursorAt, cursorOf, new]
  last connector framebuffer hcurrent := by
    cases (new_current vramBytes connector).symm.trans hcurrent
  stays connector framebuffer hdisplayed := absurd hdisplayed not_ongoing_nil

variable [GpuDriver D]

theorem ScreenHistory.extend {now : GraphicsRuntime D P}
    (hhistory : ScreenHistory past now) (op : Op D) :
    ScreenHistory (past ++ [Machine.event step now op]) (step now op).2 where
  cursors connector := by
    rw [cursorAt_step, cursorOf_concat, hhistory.cursors]
  last connector framebuffer hcurrent := by
    rw [lastWrite_concat]
    cases step_screenEffect now op connector with
    | shown shown hframe hshown =>
        rw [hframe]
        exact hshown.symm.trans hcurrent
    | kept hframe hsame =>
        rw [hframe]
        exact hhistory.last connector framebuffer (hsame.symm.trans hcurrent)
    | blanked hframe hregisters hnone => cases hnone.symm.trans hcurrent
  stays connector framebuffer hdisplayed := by
    rcases ongoing_concat.mp hdisplayed with hpresented | ⟨hbefore, hends⟩
    · cases step_screenEffect now op connector with
      | shown shown hframe hshown =>
          cases hframe.symm.trans hpresented
          exact hshown
      | kept hframe hsame => cases hframe.symm.trans hpresented
      | blanked hframe hregisters hnone => cases hframe.symm.trans hpresented
    · obtain ⟨hnone, hregisters⟩ := not_or.mp hends
      cases step_screenEffect now op connector with
      | shown shown hframe hshown => exact absurd (by simp [hframe]) hnone
      | kept hframe hsame =>
          exact hsame.trans (hhistory.stays connector framebuffer hbefore)
      | blanked hframe hblank hnone => exact absurd hblank hregisters

theorem screenHistory_run (driver : D) (vramBytes : Nat) (ids : IdSource)
    (ops : List (Op D)) :
    ScreenHistory
      (Machine.trace step (new driver vramBytes ids : GraphicsRuntime D P) ops)
      (Machine.run step (new driver vramBytes ids) ops) :=
  Machine.history_invariant (screenHistory_new driver vramBytes ids)
    (fun _ _ op hhistory => hhistory.extend op) ops

/-- What a caller is told of the cursor of a connector, and what the connector
shows, in every reachable state. -/
theorem screens_show_last (driver : D) (vramBytes : Nat) (ids : IdSource)
    (ops : List (Op D)) (connector : ObjectId) :
    let start : GraphicsRuntime D P := new driver vramBytes ids
    let past := Machine.trace step start ops
    let now := Machine.run step start ops
    (cursorState connector now).1 =
        (if now.presentation.hasConnector connector then
            .ok (cursorOf past connector)
          else .error (.device "unknown presentation connector")) ∧
      (∀ framebuffer,
        current now.presentation.display connector = some framebuffer →
          lastWrite (framePresented connector) past = some framebuffer) ∧
      ∀ framebuffer, Displayed connector framebuffer past →
        current now.presentation.display connector = some framebuffer := by
  intro start past now
  have hhistory := screenHistory_run (P := P) driver vramBytes ids ops
  refine ⟨?_, hhistory.last connector, hhistory.stays connector⟩
  rw [cursorState, Method.read_bind]
  by_cases hknown : now.presentation.hasConnector connector = false
  · rw [Method.rejectIf_bind_of_pos _ _ _ hknown, if_neg (by simp [hknown])]
  · rw [Method.rejectIf_bind_of_neg _ _ _ hknown,
      if_pos (by simpa using hknown)]
    exact congrArg Except.ok (hhistory.cursors connector)

end Runs

end Screens

namespace LostFrames

/-- A screen shows the second of two frames, under a cursor that was shown. -/
theorem last_frame_shown :
    let now := Machine.run step start (twice ++ [.showCursor ⟨9⟩])
    (cursorState ⟨9⟩ now).1 = .ok { visible := true } ∧
      current now.presentation.display ⟨9⟩ = some ⟨1⟩ := by
  obtain ⟨hcursor, -, hstays⟩ := screens_show_last (P := PooledDisplay)
    (SoftwareGpuDriver.withDevices 1 1024 .sequential).1 16
    (IdSource.sequential.advance 1) (twice ++ [.showCursor ⟨9⟩]) ⟨9⟩
  refine ⟨hcursor, hstays ⟨1⟩ ⟨Machine.trace step start (twice.take 2), _, [_],
    rfl, rfl, ?_⟩⟩
  intro later hmem
  rw [List.mem_singleton.mp hmem]
  rintro (hframe | ⟨added, hregisters, -⟩)
  · exact hframe rfl
  · cases hregisters

end LostFrames

end GraphicsRuntime

end SherGraphics
