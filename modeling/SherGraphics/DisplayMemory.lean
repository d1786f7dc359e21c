/-
What the frames that the runtime presents hold of the display's memory.  It
stays with the frames on screen only as long as every new framebuffer reaches a
connector, and one that shows nothing yet.
-/
import SherGraphics.FramebufferPool
import SherGraphics.RuntimeFrame

namespace SherGraphics

namespace GraphicsRuntime

open FramebufferPool

section Runs

variable {D P : Type} [GPUDriver P] [FramebufferPool P]

/-- A failed present leaves the display memory as it was. -/
def FailsClean (e : RuntimeEvent D P) : Prop :=
  ∀ connector width height, e.action = .presentFrame connector width height →
    ¬ IsOk e.answer →
      SameMemory e.before.presentation.display e.after.presentation.display

/-- A new framebuffer goes to a registered connector that shows none, and a
connector that shows one is not blanked by registering it again. -/
def PutsOnScreen (e : RuntimeEvent D P) : Prop :=
  let display := e.before.presentation.display
  match e.action with
  | .presentFrame connector width height =>
      IsOk (GPUDriver.allocateFramebuffer width height display).1 →
        (GPUDriver.getConnector display connector).isSome = true ∧
          current display connector = none
  | .registerConnector connector =>
      ∀ framebuffer, current display connector.id = some framebuffer →
        current (GPUDriver.registerConnector connector display).2
          connector.id = some framebuffer
  | _ => True

/-- Every framebuffer is on screen, and on one connector only. -/
structure OnScreen (runtime : GraphicsRuntime D P) : Prop where
  shows : Shows runtime.presentation.display
  allShown : AllShown runtime.presentation.display

theorem OnScreen.congr {now after : GraphicsRuntime D P}
    (hnow : OnScreen now) (hsame : after.presentation = now.presentation) :
    OnScreen after where
  shows := by
    rw [hsame]
    exact hnow.shows
  allShown := by
    rw [hsame]
    exact hnow.allShown

variable [GpuDriver D]

theorem step_presentFrame (now : GraphicsRuntime D P) (connector : ObjectId)
    (width height : UInt32) :
    ∃ result after, step now (.presentFrame connector width height) =
        (result.map Reply.framebuffer, { now with presentation := ⟨after⟩ }) ∧
      Presents now.presentation.display connector width height after
        result := by
  have hpresents := present_presents now.presentation connector width height
  refine ⟨_, _, ?_, hpresents⟩
  rw [step, perform, Method.map_run]
  rfl

omit [FramebufferPool P] in
theorem step_registerConnector (now : GraphicsRuntime D P)
    (connector : Connector) :
    (step now (.registerConnector connector)).2 =
      { now with
        presentation := ⟨(GPUDriver.registerConnector connector
          now.presentation.display).2⟩ } := by
  rw [step, perform, Method.map_run]
  rfl

theorem shows_step (now : GraphicsRuntime D P)
    (hshows : Shows now.presentation.display) (op : Op D) :
    Shows (step now op).2.presentation.display := by
  cases op with
  | presentFrame connector width height =>
      obtain ⟨result, after, hrun, hpresents⟩ :=
        step_presentFrame now connector width height
      rw [hrun]
      cases hpresents with
      | refused error hrefused hsame => exact hsame ▸ hshows
      | lost framebuffer error _ _ _ hadded hcurrent =>
          refine hshows.grow ?_ hcurrent
          rw [hadded]
          exact Set.subset_insert _ _
      | shown framebuffer _ hfresh _ hadded hcurrent =>
          exact hshows.flip hfresh hadded hcurrent
  | registerConnector connector =>
      rw [step_registerConnector]
      exact hshows.register rfl
  | _ =>
      rw [step_keeps hides_presentation (by simp [Op.writes]) now]
      exact hshows

theorem onScreen_presentFrame (now : GraphicsRuntime D P)
    (hnow : OnScreen now) (connector : ObjectId) (width height : UInt32) :
    OnScreen (step now (.presentFrame connector width height)).2 ↔
      PutsOnScreen (Machine.event step now
        (.presentFrame connector width height)) := by
  obtain ⟨result, after, hrun, hpresents⟩ :=
    step_presentFrame now connector width height
  rw [hrun]
  cases hpresents with
  | refused error hrefused hsame =>
      subst hsame
      exact iff_of_true (hnow.congr rfl) fun hok => absurd hok hrefused
  | lost framebuffer error hallocated hfresh hunknown hadded hcurrent =>
      refine iff_of_false (fun hafter => ?_) fun hputs => ?_
      · exact hnow.shows.not_allShown_of_lost hfresh hadded hcurrent
          hafter.allShown
      · have hknown := (hputs hallocated).1
        change (GPUDriver.getConnector now.presentation.display
          connector).isSome = true at hknown
        rw [hunknown] at hknown
        cases hknown
  | shown framebuffer hallocated hfresh hknown hadded hcurrent =>
      have hiff := hnow.shows.allShown_flip_iff hnow.allShown hfresh hadded
        hcurrent
      constructor
      · intro hafter _
        exact ⟨hknown, hiff.mp hafter.allShown⟩
      · intro hputs
        exact ⟨hnow.shows.flip hfresh hadded hcurrent,
          hiff.mpr (hputs hallocated).2⟩

theorem onScreen_registerConnector (now : GraphicsRuntime D P)
    (hnow : OnScreen now) (connector : Connector) :
    OnScreen (step now (.registerConnector connector)).2 ↔
      PutsOnScreen (Machine.event step now (.registerConnector connector)) := by
  rw [step_registerConnector]
  have hiff := hnow.shows.allShown_register_iff hnow.allShown
    (Prod.mk.eta (p := GPUDriver.registerConnector connector
      now.presentation.display)).symm
  constructor
  · intro hafter
    exact hiff.mp hafter.allShown
  · intro hputs
    exact ⟨hnow.shows.register rfl, hiff.mpr hputs⟩

/-- A step keeps the screen accounted for exactly if it puts on screen what it
allocates. -/
theorem onScreen_step (now : GraphicsRuntime D P) (hnow : OnScreen now)
    (op : Op D) :
    OnScreen (step now op).2 ↔ PutsOnScreen (Machine.event step now op) := by
  cases op with
  | presentFrame connector width height =>
      exact onScreen_presentFrame now hnow connector width height
  | registerConnector connector =>
      exact onScreen_registerConnector now hnow connector
  | _ =>
      refine iff_of_true (hnow.congr ?_) trivial
      exact step_keeps hides_presentation (by simp [Op.writes]) now

/-- A present that puts on screen what it allocates leaves nothing behind when
it fails. -/
theorem PutsOnScreen.failsClean {now : GraphicsRuntime D P} {op : Op D}
    (hputs : PutsOnScreen (Machine.event step now op)) :
    FailsClean (Machine.event step now op) := by
  rintro connector width height hop hfailed
  change op = _ at hop
  subst hop
  change ¬ IsOk (step now _).1 at hfailed
  change SameMemory now.presentation.display
    (step now _).2.presentation.display
  obtain ⟨result, after, hrun, hpresents⟩ :=
    step_presentFrame now connector width height
  rw [hrun] at hfailed ⊢
  cases hpresents with
  | refused error hrefused hsame =>
      subst hsame
      exact ⟨rfl, rfl⟩
  | lost framebuffer error hallocated hfresh hunknown hadded hcurrent =>
      have hknown := (hputs hallocated).1
      change (GPUDriver.getConnector now.presentation.display
        connector).isSome = true at hknown
      rw [hunknown] at hknown
      cases hknown
  | shown framebuffer hallocated hfresh hknown hadded hcurrent =>
      exact absurd (isOk_ok _) hfailed

/-- Over every driver and every display with such a pool, and from a new
runtime: in exactly the runs that put every new framebuffer on a registered
connector that shows none, no failed present holds display memory, and every
framebuffer is the current one of some connector at every point. -/
theorem display_memory_on_screen_iff (driver : D) (presentationVramBytes : Nat)
    (ids : IdSource) (ops : List (Op D)) :
    let start : GraphicsRuntime D P := new driver presentationVramBytes ids
    (Machine.Throughout step start ops
          (fun _ now => AllShown now.presentation.display) ∧
        Machine.Meets step start ops (fun _ e => FailsClean e)) ↔
      Machine.Meets step start ops (fun _ e => PutsOnScreen e) := by
  intro start
  have hfresh : OnScreen start :=
    ⟨shows_new presentationVramBytes, allShown_new presentationVramBytes⟩
  have hscreen : Machine.Throughout step start ops
        (fun _ now => OnScreen now) ↔
      Machine.Meets step start ops (fun _ e => PutsOnScreen e) := by
    apply Machine.throughout_iff_meets hfresh
    intro past now op hnow
    exact onScreen_step now hnow op
  have hshows : ∀ first,
      Shows (Machine.run step start first).presentation.display :=
    Machine.run_invariant
      (fun now : GraphicsRuntime D P => Shows now.presentation.display)
      hfresh.shows fun now op hnow => shows_step now hnow op
  rw [← hscreen]
  constructor
  · rintro ⟨hall, -⟩ first later hsplit
    exact ⟨hshows first, hall first later hsplit⟩
  · intro hall
    refine ⟨hall.mono fun _ _ hnow => hnow.allShown, ?_⟩
    apply Machine.meets_of_prefixes
    rintro first op later rfl
    exact ((hscreen.mp hall).at_step).failsClean

end Runs

namespace LostFrames

/-- A runtime over a display with room for four pixels. -/
def start : GraphicsRuntime SoftwareGpuDriver PooledDisplay :=
  .new (SoftwareGpuDriver.withDevices 1 1024 .sequential).1 16
    (IdSource.sequential.advance 1)

def twice : List (Op SoftwareGpuDriver) :=
  [.registerConnector ⟨⟨9⟩⟩, .presentFrame ⟨9⟩ 1 1, .presentFrame ⟨9⟩ 1 1]

/-- A frame for a connector that is not registered takes memory and fails, and
the second frame of a connector takes the screen from the first but not its
memory. -/
theorem frames_lost :
    ¬ Machine.Meets step start [.presentFrame ⟨9⟩ 1 1]
        (fun _ e => FailsClean e) ∧
      ¬ Machine.Throughout step start twice
        (fun _ now => AllShown now.presentation.display) := by
  constructor
  · intro hclean
    have hsame := (hclean [] _ [] rfl) ⟨9⟩ 1 1 rfl (not_isOk_error _)
    have havailable : (12 : Nat) = 16 := hsame.2
    cases havailable
  · intro hall
    have hfirst : (0 : Nat) < 2 := by decide
    obtain ⟨connector, hcurrent⟩ := hall.last ⟨0⟩ hfirst
    change ((Table.empty.insert ⟨9⟩ ⟨0⟩).insert ⟨9⟩ ⟨1⟩ :
      Table ObjectId ObjectId).get connector = some ⟨0⟩ at hcurrent
    rw [Table.get_insert, Table.get_insert] at hcurrent
    split at hcurrent
    · cases hcurrent
    · rw [Table.get_empty] at hcurrent
      cases hcurrent

/-- A frame for which there is room, and one for which there is none. -/
def once : List (Op SoftwareGpuDriver) :=
  [.registerConnector ⟨⟨9⟩⟩, .presentFrame ⟨9⟩ 1 1, .presentFrame ⟨9⟩ 8 8]

theorem frame_stays_on_screen :
    Machine.Throughout step start once
        (fun _ now => AllShown now.presentation.display) ∧
      Machine.Meets step start once (fun _ e => FailsClean e) := by
  apply (display_memory_on_screen_iff (P := PooledDisplay) _ 16 _ once).mpr
  apply Machine.meets_of_prefixes
  intro first op rest hsplit
  rcases first with _ | ⟨registered, _ | ⟨shown, _ | ⟨refused, first⟩⟩⟩
  · obtain ⟨rfl, -⟩ := List.cons.inj hsplit
    exact fun _ => nofun
  · obtain ⟨rfl, hrest⟩ := List.cons.inj hsplit
    obtain ⟨rfl, -⟩ := List.cons.inj hrest
    exact fun _ => ⟨rfl, rfl⟩
  · obtain ⟨rfl, hrest⟩ := List.cons.inj hsplit
    obtain ⟨rfl, hlast⟩ := List.cons.inj hrest
    obtain ⟨rfl, -⟩ := List.cons.inj hlast
    exact fun hallocated => absurd hallocated (not_isOk_error _)
  · simp [once] at hsplit

end LostFrames

end GraphicsRuntime

end SherGraphics
