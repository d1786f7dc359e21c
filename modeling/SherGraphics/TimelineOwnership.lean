/-
Who advances a timeline.  The timeline table does not record the context a
timeline was created on, and `submit` does not ask for it, so ownership is a
fact about the run: it is kept exactly by the runs whose accepted submissions
signal timelines of the context they were recorded on.
-/
import SherGraphics.ContextTable
import SherGraphics.TimelineHistory

namespace SherGraphics

namespace GraphicsRuntime

section Owners

variable {D P : Type}

/-- The step created the timeline on the context. -/
def CreatesTimeline (e : RuntimeEvent D P) (timeline device : ObjectId) :
    Prop :=
  e.action = .createTimeline device ∧ ∃ created,
    e.answer = .ok (.timeline created) ∧ created.id = timeline

/-- The timeline was created on the context earlier in the run. -/
def TimelineOf (past : List (RuntimeEvent D P))
    (timeline device : ObjectId) : Prop :=
  ∃ e ∈ past, CreatesTimeline e timeline device

theorem TimelineOf.mono {past later : List (RuntimeEvent D P)}
    {timeline device : ObjectId} (howner : TimelineOf past timeline device)
    (hsub : ∀ e ∈ past, e ∈ later) : TimelineOf later timeline device := by
  obtain ⟨e, hmem, hcreates⟩ := howner
  exact ⟨e, hsub e hmem, hcreates⟩

theorem timelineOf_concat {past : List (RuntimeEvent D P)}
    {e : RuntimeEvent D P} {timeline device : ObjectId} :
    TimelineOf (past ++ [e]) timeline device ↔
      TimelineOf past timeline device ∨ CreatesTimeline e timeline device := by
  simp only [TimelineOf, List.mem_append, List.mem_singleton]
  constructor
  · rintro ⟨earlier, hpast | rfl, hcreates⟩
    · exact Or.inl ⟨earlier, hpast, hcreates⟩
    · exact Or.inr hcreates
  · rintro (⟨earlier, hpast, hcreates⟩ | hcreates)
    · exact ⟨earlier, Or.inl hpast, hcreates⟩
    · exact ⟨e, Or.inr rfl, hcreates⟩

/-- The timelines of the table are those created in the run, each on one
context. -/
structure TimelineOwners (past : List (RuntimeEvent D P))
    (now : GraphicsRuntime D P) : Prop where
  issued : TimelinesIssued now
  present : ∀ timeline device, TimelineOf past timeline device →
    ∃ value, now.timelines.get timeline = some value
  owned : ∀ timeline value, now.timelines.get timeline = some value →
    ∃ device, TimelineOf past timeline device
  unique : ∀ timeline device other, TimelineOf past timeline device →
    TimelineOf past timeline other → device = other

variable {past : List (RuntimeEvent D P)} {before after : GraphicsRuntime D P}

/-- No timeline is created, and none is lost. -/
theorem TimelineOwners.unchanged {later : List (RuntimeEvent D P)}
    (howners : TimelineOwners past before) (hissued : TimelinesIssued after)
    (hsame : ∀ timeline device, TimelineOf later timeline device ↔
      TimelineOf past timeline device)
    (hrows : ∀ timeline, (∃ value, after.timelines.get timeline = some value) ↔
      ∃ value, before.timelines.get timeline = some value) :
    TimelineOwners later after where
  issued := hissued
  present timeline device howner := by
    rw [hrows]
    exact howners.present timeline device ((hsame _ _).mp howner)
  owned timeline value hrow := by
    obtain ⟨current, hcurrent⟩ := (hrows timeline).mp ⟨value, hrow⟩
    obtain ⟨device, howner⟩ := howners.owned timeline current hcurrent
    exact ⟨device, (hsame _ _).mpr howner⟩
  unique timeline device other howner hother :=
    howners.unique timeline device other ((hsame _ _).mp howner)
      ((hsame _ _).mp hother)

/-- One timeline is created, under an identifier that none had before. -/
theorem TimelineOwners.created {later : List (RuntimeEvent D P)}
    {device : ObjectId} (howners : TimelineOwners past before)
    (hissued : TimelinesIssued after)
    (hlater : ∀ timeline owner, TimelineOf later timeline owner ↔
      TimelineOf past timeline owner ∨
        timeline = before.ids.next ∧ owner = device)
    (htable : after.timelines =
      before.timelines.insert before.ids.next 0) :
    TimelineOwners later after := by
  have hfresh : ∀ owner, ¬ TimelineOf past before.ids.next owner := by
    intro owner howner
    obtain ⟨value, hrow⟩ := howners.present _ owner howner
    rw [howners.issued.fresh] at hrow
    cases hrow
  refine ⟨hissued, ?_, ?_, ?_⟩
  · intro timeline owner howner
    rw [htable, Table.get_insert]
    rcases (hlater _ _).mp howner with hold | ⟨heq, -⟩
    · by_cases heq : timeline = before.ids.next
      · exact ⟨0, if_pos heq⟩
      · rw [if_neg heq]
        exact howners.present timeline owner hold
    · exact ⟨0, if_pos heq⟩
  · intro timeline value hrow
    rw [htable] at hrow
    rcases Table.row_of_insert hrow with ⟨heq, -⟩ | ⟨-, hrow⟩
    · exact ⟨device, (hlater _ _).mpr (Or.inr ⟨heq, rfl⟩)⟩
    · obtain ⟨owner, howner⟩ := howners.owned timeline value hrow
      exact ⟨owner, (hlater _ _).mpr (Or.inl howner)⟩
  · intro timeline owner other howner hother
    rcases (hlater _ _).mp howner with hold | ⟨rfl, rfl⟩
    · rcases (hlater _ _).mp hother with hold' | ⟨rfl, -⟩
      · exact howners.unique timeline owner other hold hold'
      · exact absurd hold (hfresh owner)
    · rcases (hlater _ _).mp hother with hold' | ⟨-, rfl⟩
      · exact absurd hold' (hfresh other)
      · rfl

variable [GpuDriver D] {op : Op D} {answer : Result Reply}

theorem TimelineOwners.extend (howners : TimelineOwners past before)
    (heffect : Effect before op answer after) :
    TimelineOwners (past ++ [⟨before, op, answer, after⟩]) after := by
  have hissued := howners.issued.preserved heffect
  cases heffect.onTimelines with
  | kept hsubmit hcreate htable =>
      apply howners.unchanged hissued
      · intro timeline device
        rw [timelineOf_concat, or_iff_left]
        rintro ⟨hop, created, hanswer, hid⟩
        exact hcreate device hop ⟨_, hanswer⟩
      · intro timeline
        rw [htable]
  | @created device found hcontext hids htable =>
      have hnew : ∀ timeline owner, CreatesTimeline
          ⟨before, .createTimeline device,
            .ok (.timeline ⟨before.ids.next, device, 0⟩), after⟩
          timeline owner ↔ timeline = before.ids.next ∧ owner = device := by
        intro timeline owner
        constructor
        · rintro ⟨hop, created, hanswer, rfl⟩
          cases hop
          cases hanswer
          exact ⟨rfl, rfl⟩
        · rintro ⟨rfl, rfl⟩
          exact ⟨rfl, _, rfl, rfl⟩
      exact howners.created hissued
        (fun timeline owner => by rw [timelineOf_concat, hnew]) htable
  | @signalled queue stream named gpu signalValue driver hready haccepted
      htable =>
      apply howners.unchanged hissued
      · intro timeline device
        rw [timelineOf_concat, or_iff_left]
        rintro ⟨hop, -⟩
        cases hop
      · intro timeline
        obtain ⟨current, hcurrent, -⟩ := hready.increases
        rw [htable, Table.get_insert]
        by_cases heq : timeline = named
        · subst heq
          simp [hcurrent]
        · rw [if_neg heq]

/-- A timeline changes only by successful submissions of streams recorded on
the context it was created on. -/
def ChangedByOwner (past : List (RuntimeEvent D P)) (e : RuntimeEvent D P) :
    Prop :=
  ∀ timeline device, TimelineOf past timeline device →
    e.after.timelines.get timeline ≠ e.before.timelines.get timeline →
      ∃ queue stream value, e.action = .submit queue stream timeline value ∧
        IsOk e.answer ∧ stream.device = device

/-- A submission that passes every check and that the driver takes names a
timeline created on the stream's context. -/
def SignalsOwnTimeline (past : List (RuntimeEvent D P))
    (e : RuntimeEvent D P) : Prop :=
  ∀ queue stream timeline value gpu,
    e.action = .submit queue stream timeline value →
      SubmitReady e.before queue stream timeline value gpu →
        (GpuDriver.submit gpu queue.workload (translateOps stream.ops)
          e.before.driver).1 = .returned (.ok ()) →
            TimelineOf past timeline stream.device

theorem Effect.changedByOwner (howners : TimelineOwners past before)
    (heffect : Effect before op answer after)
    (hown : SignalsOwnTimeline past ⟨before, op, answer, after⟩) :
    ChangedByOwner past ⟨before, op, answer, after⟩ := by
  intro timeline device howner hchanged
  cases heffect.onTimelines with
  | kept hsubmit hcreate htable => exact absurd (by rw [htable]) hchanged
  | created hcontext hids htable =>
      obtain ⟨value, hrow⟩ := howners.present timeline device howner
      have hne : timeline ≠ before.ids.next := by
        rintro rfl
        rw [howners.issued.fresh] at hrow
        cases hrow
      exact absurd (by rw [htable, Table.get_insert_ne _ _ hne]) hchanged
  | @signalled queue stream named gpu signalValue driver hready haccepted
      htable =>
      by_cases heq : timeline = named
      · subst heq
        have hsame : TimelineOf past timeline stream.device :=
          hown queue stream timeline signalValue gpu rfl hready
            (by rw [haccepted])
        exact ⟨queue, stream, signalValue, rfl, isOk_ok _,
          howners.unique timeline _ _ hsame howner⟩
      · exact absurd (by rw [htable, Table.get_insert_ne _ _ heq]) hchanged

/-- A timeline changed only by its owner does not change on a step taken after
the owner is closed. -/
theorem ChangedByOwner.unchanged_of_closed {timeline device : ObjectId}
    (hchanged : ChangedByOwner past ⟨before, op, answer, after⟩)
    (heffect : Effect before op answer after)
    (hclosed : Closed before device)
    (howner : TimelineOf past timeline device) :
    after.timelines.get timeline = before.timelines.get timeline := by
  by_contra hdiffers
  obtain ⟨queue, stream, value, hop, hok, hdevice⟩ :=
    hchanged timeline device howner hdiffers
  have hop' : op = .submit queue stream timeline value := hop
  subst hop'
  cases heffect.onTimelines with
  | kept hsubmit hcreate htable =>
      exact hsubmit queue stream timeline value rfl hok
  | signalled hready haccepted htable =>
      exact hclosed.not_submitReady hready hdevice

end Owners

section Runs

variable {D P : Type} [GpuDriver D] [GPUDriver P]
  {past : List (RuntimeEvent D P)}

/-- A submission that passes every check and that the driver takes succeeds,
and raises the timeline it names. -/
theorem submit_accepted (before : GraphicsRuntime D P) {queue : QueueHandle}
    {stream : CommandStream} {timeline gpu : ObjectId} {signalValue : Nat}
    (hready : SubmitReady before queue stream timeline signalValue gpu)
    (haccepted : (GpuDriver.submit gpu queue.workload
      (translateOps stream.ops) before.driver).1 = .returned (.ok ())) :
    (step before (.submit queue stream timeline signalValue)).1 = .ok .unit ∧
      (step before (.submit queue stream timeline signalValue)).2.timelines =
        before.timelines.insert timeline signalValue := by
  rw [step, perform, Method.map_run, submit_of_ready before hready,
    submitToDriver, audited_driver]
  cases hsent : GpuDriver.submit gpu queue.workload
      (translateOps stream.ops) before.driver with
  | mk outcome driver =>
      rw [hsent] at haccepted
      cases haccepted
      exact ⟨rfl, rfl⟩

theorem signalsOwnTimeline_of_changedByOwner {before : GraphicsRuntime D P}
    {op : Op D} (howners : TimelineOwners past before)
    (hchanged : ChangedByOwner past (Machine.event step before op)) :
    SignalsOwnTimeline past (Machine.event step before op) := by
  rintro queue stream timeline value gpu rfl hready haccepted
  obtain ⟨current, hcurrent, hincreases⟩ := hready.increases
  change before.timelines.get timeline = some current at hcurrent
  obtain ⟨device, howner⟩ := howners.owned timeline current hcurrent
  have hafter := (submit_accepted before hready haccepted).2
  have hdiffers : (Machine.event step before
        (.submit queue stream timeline value)).after.timelines.get timeline ≠
      before.timelines.get timeline := by
    change (step before _).2.timelines.get timeline ≠ _
    rw [hafter, Table.get_insert_self, hcurrent]
    intro heq
    have hsame : value = current := Option.some.inj heq
    omega
  obtain ⟨_, _, _, hop, -, hdevice⟩ :=
    hchanged timeline device howner hdiffers
  cases hop
  rwa [hdevice]

/-- After a successful recovery of a context the timelines created on it keep
their values. -/
def FrozenAfterRecovery (start : GraphicsRuntime D P) (ops : List (Op D)) :
    Prop :=
  ∀ first id caps middle last timeline,
    ops = first ++ .recoverDevice id caps :: middle ++ last →
      IsOk (step (Machine.run step start first) (.recoverDevice id caps)).1 →
        TimelineOf (Machine.trace step start first) timeline id →
          (Machine.run step start
              (first ++ .recoverDevice id caps :: middle)).timelines.get
              timeline =
            (Machine.run step start first).timelines.get timeline

omit [GpuDriver D] in
theorem timelineOwners_new (driver : D) (vramBytes : Nat) (ids : IdSource) :
    TimelineOwners []
      (new driver vramBytes ids : GraphicsRuntime D P) where
  issued := by simp [TimelinesIssued, new]
  present := by simp [TimelineOf]
  owned := by simp [new]
  unique := by simp [TimelineOf]

theorem timelineOwners_run (driver : D) (vramBytes : Nat) (ids : IdSource)
    (ops : List (Op D)) :
    TimelineOwners
      (Machine.trace step (new driver vramBytes ids : GraphicsRuntime D P) ops)
      (Machine.run step (new driver vramBytes ids) ops) :=
  Machine.history_invariant (timelineOwners_new driver vramBytes ids)
    (fun _ now op howners => howners.extend (step_effect now op)) ops

theorem recovery_keeps_timelines {before : GraphicsRuntime D P}
    {id : ObjectId} {caps : CapabilitySet} :
    (step before (.recoverDevice id caps)).2.timelines =
      before.timelines := by
  have heffect := step_effect before (.recoverDevice id caps)
  generalize (step before (.recoverDevice id caps)).1 = answer at heffect
  cases heffect.onTimelines with
  | kept hsubmit hcreate htable => exact htable

theorem frozen_of_changedByOwner (driver : D) (vramBytes : Nat)
    (ids : IdSource) {ops : List (Op D)}
    (hchanged : Machine.Meets step
      (new driver vramBytes ids : GraphicsRuntime D P) ops ChangedByOwner) :
    FrozenAfterRecovery
      (new driver vramBytes ids : GraphicsRuntime D P) ops := by
  rintro first id caps middle last timeline rfl hok howner
  have hissued := (contextHistory_run driver vramBytes ids first
    (P := P)).issued
  have hclosed := (step_effect _ (.recoverDevice id caps)).closes hissued hok
  -- The step at the end of `middle` is the one that could change the value.
  induction middle using List.reverseRecOn generalizing last with
  | nil =>
      rw [Machine.run_append]
      exact congrArg (Table.get · timeline) recovery_keeps_timelines
  | append_singleton middle op ih =>
      rw [← List.cons_append, ← List.append_assoc,
        List.append_assoc _ [op]] at hchanged
      have hstep := hchanged.at_step
      rw [← ih _ hchanged, ← List.cons_append, ← List.append_assoc,
        Machine.run_concat]
      refine hstep.unchanged_of_closed (step_effect _ op) ?_ (howner.mono ?_)
      · rw [Machine.run_append]
        exact hclosed.run middle
      · intro e hmem
        rw [Machine.trace_append]
        exact List.mem_append_left _ hmem

/-- The runs that respect timeline ownership are those in which every accepted
submission signals a timeline of its own context. -/
theorem timeline_ownership_iff (driver : D) (vramBytes : Nat)
    (ids : IdSource) (ops : List (Op D)) :
    let start : GraphicsRuntime D P := new driver vramBytes ids
    (Machine.Meets step start ops ChangedByOwner ∧
        FrozenAfterRecovery start ops) ↔
      Machine.Meets step start ops SignalsOwnTimeline := by
  intro start
  have howners : ∀ first, TimelineOwners (Machine.trace step start first)
      (Machine.run step start first) := timelineOwners_run driver vramBytes ids
  have hagree : Machine.Meets step start ops ChangedByOwner ↔
      Machine.Meets step start ops SignalsOwnTimeline := by
    apply Machine.meets_congr
    intro first op
    constructor
    · exact signalsOwnTimeline_of_changedByOwner (howners first)
    · exact (step_effect _ op).changedByOwner (howners first)
  constructor
  · rintro ⟨hchanged, -⟩
    exact hagree.mp hchanged
  · intro hsignals
    have hchanged := hagree.mpr hsignals
    exact ⟨hchanged, frozen_of_changedByOwner driver vramBytes ids hchanged⟩

end Runs

namespace SharedTimeline

/-- Context 1 and context 5 share GPU 0, and timeline 9 belongs to context 1. -/
def opening : List (Op SoftwareGpuDriver) :=
  [.createDevice ⟨0⟩ .full, .createDevice ⟨0⟩ .full, .createTimeline ⟨1⟩]

/-- Context 5 signals timeline 9. -/
def signal : Op SoftwareGpuDriver :=
  .submit ⟨⟨6⟩, .graphics⟩ ⟨⟨10⟩, ⟨5⟩, .graphics, []⟩ ⟨9⟩ 1

def ops : List (Op SoftwareGpuDriver) :=
  opening ++ .recoverDevice ⟨1⟩ .full :: [signal]

theorem timelineOf_opening :
    TimelineOf (Machine.trace step (sample 1 1024) opening) ⟨9⟩ ⟨1⟩ :=
  ⟨_, List.mem_cons_of_mem _ (List.mem_cons_of_mem _ List.mem_cons_self),
    rfl, _, rfl, rfl⟩

/-- The timeline of a recovered context is advanced by another context. -/
theorem timeline_ownership_fails :
    ¬ Machine.Meets step (sample 1 1024) ops ChangedByOwner ∧
      ¬ FrozenAfterRecovery (sample 1 1024) ops := by
  have hfrozen : ¬ FrozenAfterRecovery (sample 1 1024) ops := by
    intro hfrozen
    have hsame := hfrozen opening ⟨1⟩ .full [signal] [] ⟨9⟩ rfl
      ⟨.unit, rfl⟩ timelineOf_opening
    exact absurd hsame (by decide)
  refine ⟨?_, hfrozen⟩
  intro hchanged
  exact hfrozen (frozen_of_changedByOwner _ 0 _ hchanged)

end SharedTimeline

end GraphicsRuntime

end SherGraphics
