/-
Display drivers whose framebuffers come from a finite pool, and what the
presentation bridge does to one.  A present takes a new framebuffer first and
flips a connector to it second, and nothing ever gives a framebuffer back.
-/
import SherGraphics.Runtime

namespace SherGraphics

/-- A display driver whose framebuffers come from a finite pool.  A failed
allocation has no effect, a flip shows the framebuffer on a registered
connector and fails on any other, and neither gives a framebuffer back.
Registering a connector again may blank it, but no other. -/
class FramebufferPool (P : Type) [GPUDriver P] where
  framebuffers : P → Set ObjectId
  available : P → Nat
  current : P → ObjectId → Option ObjectId
  new_framebuffers : ∀ bytes, framebuffers (GPUDriver.new bytes) = ∅
  new_current : ∀ bytes connector,
    current (GPUDriver.new bytes) connector = none
  allocated : ∀ width height (display : P) framebuffer after,
    GPUDriver.allocateFramebuffer width height display =
        (.ok framebuffer, after) →
      framebuffer.id ∉ framebuffers display ∧
        framebuffers after = insert framebuffer.id (framebuffers display) ∧
        available after ≤ available display ∧
        current after = current display ∧
        GPUDriver.getConnector after = GPUDriver.getConnector display
  refused : ∀ width height (display : P) error after,
    GPUDriver.allocateFramebuffer width height display =
        (.error error, after) → after = display
  flipped : ∀ connector framebuffer (display : P),
    (GPUDriver.getConnector display connector).isSome = true →
      framebuffer ∈ framebuffers display →
        ∃ after, GPUDriver.pageFlip connector framebuffer display =
            (.ok (), after) ∧
          framebuffers after = framebuffers display ∧
          available after = available display ∧
          current after =
            Function.update (current display) connector (some framebuffer)
  unregistered : ∀ connector framebuffer (display : P),
    GPUDriver.getConnector display connector = none →
      ∃ error after, GPUDriver.pageFlip connector framebuffer display =
          (.error error, after) ∧
        framebuffers after = framebuffers display ∧
        available after = available display ∧
        current after = current display
  registered : ∀ connector (display : P) result after,
    GPUDriver.registerConnector connector display = (result, after) →
      framebuffers after = framebuffers display ∧
        available after = available display ∧
        (∀ other, other ≠ connector.id →
          current after other = current display other) ∧
        (current after connector.id = none ∨
          current after connector.id = current display connector.id)

namespace FramebufferPool

variable {P : Type} [GPUDriver P] [FramebufferPool P]

/-- Every framebuffer is the current one of some connector. -/
def AllShown (display : P) : Prop :=
  ∀ framebuffer ∈ framebuffers display,
    ∃ connector, current display connector = some framebuffer

/-- A connector shows a framebuffer that exists, and no other shows it too. -/
structure Shows (display : P) : Prop where
  exists_of_current : ∀ connector framebuffer,
    current display connector = some framebuffer →
      framebuffer ∈ framebuffers display
  alone : ∀ connector other framebuffer,
    current display connector = some framebuffer →
      current display other = some framebuffer → other = connector

/-- What a display holds is not changed. -/
def SameMemory (before after : P) : Prop :=
  framebuffers after = framebuffers before ∧
    available after = available before

theorem shows_new (bytes : Nat) : Shows (GPUDriver.new bytes : P) where
  exists_of_current := by
    intro connector framebuffer hcurrent
    rw [new_current] at hcurrent
    cases hcurrent
  alone := by
    intro connector other framebuffer hcurrent
    rw [new_current] at hcurrent
    cases hcurrent

theorem allShown_new (bytes : Nat) : AllShown (GPUDriver.new bytes : P) := by
  intro framebuffer hmem
  rw [new_framebuffers] at hmem
  exact absurd hmem (Set.notMem_empty _)

theorem Shows.grow {display after : P} (hshows : Shows display)
    (hframebuffers : framebuffers display ⊆ framebuffers after)
    (hcurrent : current after = current display) : Shows after where
  exists_of_current := by
    rw [hcurrent]
    intro connector framebuffer hfound
    exact hframebuffers
      (hshows.exists_of_current connector framebuffer hfound)
  alone := by
    rw [hcurrent]
    exact hshows.alone

/-! ### One present -/

/-- What a present does to the display. -/
inductive Presents (display : P) (connector : ObjectId) (width height : UInt32)
    (after : P) : Result ObjectId → Prop
  | refused (error : Error)
      (hrefused : ¬ IsOk
        (GPUDriver.allocateFramebuffer width height display).1)
      (hsame : after = display) :
      Presents display connector width height after (.error error)
  | lost (framebuffer : ObjectId) (error : Error)
      (hallocated : IsOk
        (GPUDriver.allocateFramebuffer width height display).1)
      (hfresh : framebuffer ∉ framebuffers display)
      (hunknown : GPUDriver.getConnector display connector = none)
      (hadded : framebuffers after =
        insert framebuffer (framebuffers display))
      (hcurrent : current after = current display) :
      Presents display connector width height after (.error error)
  | shown (framebuffer : ObjectId)
      (hallocated : IsOk
        (GPUDriver.allocateFramebuffer width height display).1)
      (hfresh : framebuffer ∉ framebuffers display)
      (hknown : (GPUDriver.getConnector display connector).isSome = true)
      (hadded : framebuffers after =
        insert framebuffer (framebuffers display))
      (hcurrent : current after =
        Function.update (current display) connector (some framebuffer)) :
      Presents display connector width height after (.ok framebuffer)

theorem present_presents (bridge : PresentationBridge P) (connector : ObjectId)
    (width height : UInt32) :
    Presents bridge.display connector width height
      (PresentationBridge.present connector width height bridge).2.display
      (PresentationBridge.present connector width height bridge).1 := by
  rw [PresentationBridge.present]
  cases hallocate : GPUDriver.allocateFramebuffer width height
      bridge.display with
  | mk result middle =>
      cases result with
      | error error =>
          rw [Method.bind_of_error
            (PresentationBridge.onDisplay_run hallocate)]
          exact .refused error (by simp [hallocate])
            (refused width height _ error middle hallocate)
      | ok framebuffer =>
          obtain ⟨hfresh, hadded, -, hcurrent, hconnectors⟩ :=
            allocated width height _ framebuffer middle hallocate
          rw [Method.bind_of_ok (PresentationBridge.onDisplay_run hallocate)]
          cases hknown : GPUDriver.getConnector bridge.display connector with
          | none =>
              obtain ⟨error, after, hflip, hsame, -, hkept⟩ :=
                unregistered connector framebuffer.id middle
                  (by rw [hconnectors, hknown])
              rw [Method.bind_of_error
                (PresentationBridge.onDisplay_run hflip)]
              exact .lost framebuffer.id error (by simp [hallocate]) hfresh
                hknown (hsame.trans hadded) (hkept.trans hcurrent)
          | some found =>
              obtain ⟨after, hflip, hsame, -, hnow⟩ :=
                flipped connector framebuffer.id middle
                  (by rw [hconnectors, hknown]; rfl)
                  (by rw [hadded]; exact Set.mem_insert _ _)
              rw [hcurrent] at hnow
              rw [Method.bind_of_ok (PresentationBridge.onDisplay_run hflip)]
              exact .shown framebuffer.id (by simp [hallocate]) hfresh
                (by rw [hknown]; rfl) (hsame.trans hadded) hnow

section Step

variable {display after : P} {connector framebuffer : ObjectId}

/-- A framebuffer that no connector was flipped to is shown nowhere. -/
theorem Shows.not_allShown_of_lost (hshows : Shows display)
    (hfresh : framebuffer ∉ framebuffers display)
    (hadded : framebuffers after = insert framebuffer (framebuffers display))
    (hcurrent : current after = current display) : ¬ AllShown after := by
  intro hall
  have hmem : framebuffer ∈ framebuffers after := by
    rw [hadded]
    exact Set.mem_insert _ _
  obtain ⟨other, hother⟩ := hall framebuffer hmem
  rw [hcurrent] at hother
  exact hfresh (hshows.exists_of_current other framebuffer hother)

theorem Shows.flip (hshows : Shows display)
    (hfresh : framebuffer ∉ framebuffers display)
    (hadded : framebuffers after = insert framebuffer (framebuffers display))
    (hcurrent : current after =
      Function.update (current display) connector (some framebuffer)) :
    Shows after where
  exists_of_current := by
    intro other found hfound
    rw [hadded]
    rw [hcurrent, Function.update_apply] at hfound
    split at hfound
    · cases hfound
      exact Set.mem_insert _ _
    · exact Set.mem_insert_of_mem _
        (hshows.exists_of_current other found hfound)
  alone := by
    intro first second found hfirst hsecond
    have hold : ∀ other, current display other ≠ some framebuffer :=
      fun other hother =>
        hfresh (hshows.exists_of_current other framebuffer hother)
    rw [hcurrent, Function.update_apply] at hfirst hsecond
    split at hfirst
    · next heq =>
        cases hfirst
        split at hsecond
        · next hsame => rw [heq, hsame]
        · exact absurd hsecond (hold second)
    · split at hsecond
      · cases hsecond
        exact absurd hfirst (hold first)
      · exact hshows.alone first second found hfirst hsecond

/-- A flip keeps every framebuffer on screen exactly if the connector showed
none: the one it showed has lost its only connector. -/
theorem Shows.allShown_flip_iff (hshows : Shows display)
    (hall : AllShown display)
    (hfresh : framebuffer ∉ framebuffers display)
    (hadded : framebuffers after = insert framebuffer (framebuffers display))
    (hcurrent : current after =
      Function.update (current display) connector (some framebuffer)) :
    AllShown after ↔ current display connector = none := by
  constructor
  · intro hafter
    rw [Option.eq_none_iff_forall_ne_some]
    intro old hold
    have hmem := hshows.exists_of_current connector old hold
    obtain ⟨other, hother⟩ := hafter old (by
      rw [hadded]
      exact Set.mem_insert_of_mem _ hmem)
    rw [hcurrent, Function.update_apply] at hother
    split at hother
    · cases hother
      exact hfresh hmem
    · next hne => exact hne (hshows.alone connector other old hold hother)
  · intro hblank found hmem
    rw [hadded] at hmem
    rw [hcurrent]
    rcases Set.mem_insert_iff.mp hmem with rfl | hold
    · exact ⟨connector, Function.update_self _ _ _⟩
    · obtain ⟨other, hother⟩ := hall found hold
      refine ⟨other, ?_⟩
      rw [Function.update_of_ne, hother]
      rintro rfl
      cases hblank.symm.trans hother

variable {added : Connector}

theorem Shows.register (hshows : Shows display) {result : Result Unit}
    (hrun : GPUDriver.registerConnector added display = (result, after)) :
    Shows after := by
  obtain ⟨hframebuffers, -, hothers, hown⟩ :=
    registered added display result after hrun
  have hold : ∀ other found, current after other = some found →
      current display other = some found := by
    intro other found hfound
    by_cases heq : other = added.id
    · subst heq
      rcases hown with hnone | hsame
      · cases hnone.symm.trans hfound
      · rw [← hsame, hfound]
    · rw [← hothers other heq, hfound]
  exact
    { exists_of_current := by
        intro other found hfound
        rw [hframebuffers]
        exact hshows.exists_of_current other found (hold other found hfound)
      alone := by
        intro first second found hfirst hsecond
        exact hshows.alone first second found (hold first found hfirst)
          (hold second found hsecond) }

/-- Registering a connector keeps every framebuffer on screen exactly if it
does not blank a connector that shows one. -/
theorem Shows.allShown_register_iff (hshows : Shows display)
    (hall : AllShown display) {result : Result Unit}
    (hrun : GPUDriver.registerConnector added display = (result, after)) :
    AllShown after ↔ ∀ found, current display added.id = some found →
      current after added.id = some found := by
  obtain ⟨hframebuffers, -, hothers, hown⟩ :=
    registered added display result after hrun
  constructor
  · intro hafter found hfound
    have hmem := hshows.exists_of_current added.id found hfound
    obtain ⟨other, hother⟩ := hafter found (by rw [hframebuffers]; exact hmem)
    by_cases heq : other = added.id
    · rw [← heq, hother]
    · rw [hothers other heq] at hother
      exact absurd (hshows.alone added.id other found hfound hother) heq
  · intro hkept found hmem
    rw [hframebuffers] at hmem
    obtain ⟨other, hother⟩ := hall found hmem
    refine ⟨other, ?_⟩
    by_cases heq : other = added.id
    · subst heq
      exact hkept found hother
    · rw [hothers other heq, hother]

end Step

end FramebufferPool

/-- A display with a pool of bytes, whose framebuffers are numbered in the
order of their allocation. -/
structure PooledDisplay where
  available : Nat
  allocated : Nat
  connectors : Table ObjectId Connector
  current : Table ObjectId ObjectId

namespace PooledDisplay

def allocateFramebuffer (width height : UInt32) :
    Method Error PooledDisplay Framebuffer :=
  fun display =>
    let size := width.toNat * height.toNat * 4
    if display.available < size then
      (.error (.memory "insufficient display memory"), display)
    else
      (.ok ⟨⟨display.allocated⟩⟩,
        { display with
          available := display.available - size
          allocated := display.allocated + 1 })

def pageFlip (connector framebuffer : ObjectId) :
    Method Error PooledDisplay Unit :=
  fun display =>
    match display.connectors.get connector with
    | none => (.error (.device "unknown connector"), display)
    | some _ =>
        (.ok (),
          { display with
            current := display.current.insert connector framebuffer })

instance : GPUDriver PooledDisplay where
  new bytes := ⟨bytes, 0, Table.empty, Table.empty⟩
  registerConnector connector :=
    Method.change fun display =>
      { display with
        connectors := display.connectors.insert connector.id connector }
  getConnector display connector := display.connectors.get connector
  allocateFramebuffer := allocateFramebuffer
  pageFlip := pageFlip

instance : FramebufferPool PooledDisplay where
  framebuffers display := { framebuffer | framebuffer.raw < display.allocated }
  available := PooledDisplay.available
  current display connector := display.current.get connector
  new_framebuffers := by
    intro bytes
    ext framebuffer
    simp [GPUDriver.new]
  new_current := by
    intro bytes connector
    exact Table.get_empty connector
  allocated := by
    intro width height display framebuffer after hrun
    change allocateFramebuffer width height display = _ at hrun
    rw [allocateFramebuffer] at hrun
    split at hrun
    · cases hrun
    · cases hrun
      refine ⟨by simp, ?_, Nat.sub_le _ _, rfl, rfl⟩
      ext ⟨raw⟩
      simp
      omega
  refused := by
    intro width height display error after hrun
    change allocateFramebuffer width height display = _ at hrun
    rw [allocateFramebuffer] at hrun
    split at hrun
    · cases hrun
      rfl
    · cases hrun
  flipped := by
    intro connector framebuffer display hknown hmem
    obtain ⟨found, hfound⟩ := Option.isSome_iff_exists.mp hknown
    change display.connectors.get connector = some found at hfound
    refine ⟨{ display with
      current := display.current.insert connector framebuffer }, ?_, rfl, rfl,
      ?_⟩
    · change pageFlip connector framebuffer display = _
      rw [pageFlip, hfound]
    · funext other
      exact (Table.get_insert _ _ _ _).trans
        (Function.update_apply _ _ _ _).symm
  unregistered := by
    intro connector framebuffer display hunknown
    change display.connectors.get connector = none at hunknown
    refine ⟨.device "unknown connector", display, ?_, rfl, rfl, rfl⟩
    change pageFlip connector framebuffer display = _
    rw [pageFlip, hunknown]
  registered := by
    intro connector display result after hrun
    cases hrun
    exact ⟨rfl, rfl, fun _ _ => rfl, Or.inr rfl⟩

end PooledDisplay

end SherGraphics
