/-
Timelines over a whole run.  The runtime stores one number for each timeline;
here that number is tied to the submissions that produced it, whatever else
happened in between.
-/
import SherGraphics.RuntimeStep

namespace SherGraphics

/-- The row of a counter against the values it was raised to, oldest first.  A
counter starts at zero and is only ever raised. -/
inductive CounterRow : Option Nat → List Nat → Prop
  | absent : CounterRow none []
  | unraised : CounterRow (some 0) []
  | raised {current value : Nat} {earlier : List Nat}
      (hearlier : CounterRow (some current) earlier)
      (hincreases : current < value) :
      CounterRow (some value) (earlier ++ [value])

namespace CounterRow

theorem values_of_absent {raised : List Nat}
    (hrow : CounterRow none raised) : raised = [] := by
  cases hrow
  rfl

/-- The counter holds the value it was last raised to. -/
theorem latest {current : Nat} {raised : List Nat}
    (hrow : CounterRow (some current) raised) :
    current = raised.getLast?.getD 0 := by
  cases hrow with
  | unraised => rfl
  | raised hearlier hincreases => rw [List.getLast?_concat, Option.getD_some]

theorem le_current {row : Option Nat} {raised : List Nat}
    (hrow : CounterRow row raised) :
    ∀ value ∈ raised, ∃ current, row = some current ∧ value ≤ current := by
  induction hrow with
  | absent => simp
  | unraised => simp
  | @raised current value earlier hearlier hincreases ih =>
      intro other hother
      refine ⟨value, rfl, ?_⟩
      rcases List.mem_append.mp hother with hold | hnew
      · obtain ⟨bound, hbound, hle⟩ := ih other hold
        have hsame : current = bound := Option.some.inj hbound
        omega
      · rw [List.mem_singleton] at hnew
        omega

/-- The counter is the greatest value it was ever raised to. -/
theorem greatest {current : Nat} {raised : List Nat}
    (hrow : CounterRow (some current) raised) :
    ∀ value ∈ raised, value ≤ current := by
  intro value hvalue
  obtain ⟨bound, hbound, hle⟩ := hrow.le_current value hvalue
  rwa [← Option.some.inj hbound] at hle

theorem current_mem {current : Nat} {raised : List Nat}
    (hrow : CounterRow (some current) raised) (hraised : raised ≠ []) :
    current ∈ raised := by
  cases hrow with
  | unraised => exact absurd rfl hraised
  | raised hearlier hincreases => simp

end CounterRow

namespace GraphicsRuntime

section Effects

variable {D P : Type} [GpuDriver D] {runtime after : GraphicsRuntime D P}
  {op : Op D} {answer : Result Reply}

/-- What an operation does to the timeline table. -/
inductive TimelineEffect (runtime after : GraphicsRuntime D P) :
    Op D → Result Reply → Prop
  | kept {op : Op D} {answer : Result Reply}
      (hsubmit : ∀ queue stream timeline value,
        op = .submit queue stream timeline value → ¬ IsOk answer)
      (hcreate : ∀ device, op = .createTimeline device → ¬ IsOk answer)
      (htable : after.timelines = runtime.timelines) :
      TimelineEffect runtime after op answer
  | created {device : ObjectId} {found : GraphicsDevice}
      (hcontext : runtime.devices.get device = some found)
      (hids : after.ids = runtime.ids.advance 1)
      (htable : after.timelines =
        runtime.timelines.insert runtime.ids.next 0) :
      TimelineEffect runtime after (.createTimeline device)
        (.ok (.timeline ⟨runtime.ids.next, device, 0⟩))
  | signalled {queue : QueueHandle} {stream : CommandStream}
      {timeline gpu : ObjectId} {signalValue : Nat} {driver : D}
      (hready : SubmitReady runtime queue stream timeline signalValue gpu)
      (haccepted : GpuDriver.submit gpu queue.workload
        (translateOps stream.ops) runtime.driver =
          (.returned (.ok ()), driver))
      (htable : after.timelines =
        runtime.timelines.insert timeline signalValue) :
      TimelineEffect runtime after
        (.submit queue stream timeline signalValue) (.ok .unit)

theorem Effect.onTimelines (heffect : Effect runtime op answer after) :
    TimelineEffect runtime after op answer := by
  cases heffect with
  | quiet hanswer hsealed htables hids hdriver =>
      refine .kept ?_ ?_ (congrArg ObjectTables.timelines htables)
      · rintro queue stream timeline value rfl hok
        exact hanswer hok trivial
      · rintro device rfl hok
        exact hanswer hok trivial
  | createdTimeline hcontext => exact .created hcontext rfl rfl
  | submitted hready haccepted => exact .signalled hready haccepted rfl
  | borrowed hadmin => exact .kept (by simp) (by simp) rfl
  | notBorrowed hdenied => exact .kept (by simp) (by simp) rfl
  | createdDevice hgranted hprobe hfind =>
      exact .kept (by simp) (by simp) rfl
  | createdResource hcontext hallocated =>
      exact .kept (by simp) (by simp) rfl
  | createdShader hcontext => exact .kept (by simp) (by simp) rfl
  | createdPipeline hcontext hshader => exact .kept (by simp) (by simp) rfl
  | panicked hready hpanicked => exact .kept (by simp) (by simp) rfl
  | freed hrow => exact .kept (by simp) (by simp) rfl
  | recovered hadmin hcontext hreset => exact .kept (by simp) (by simp) rfl

end Effects

/-! ### The signals of a run -/

section Signals

variable {D P : Type}

/-- Every timeline is stored under an identifier that was handed out. -/
def TimelinesIssued (now : GraphicsRuntime D P) : Prop :=
  ∀ timeline value, now.timelines.get timeline = some value →
    now.ids.Issued timeline

theorem TimelinesIssued.fresh {now : GraphicsRuntime D P}
    (hissued : TimelinesIssued now) :
    now.timelines.get now.ids.next = none := by
  rw [Option.eq_none_iff_forall_ne_some]
  intro value hrow
  exact now.ids.next_not_issued (hissued _ value hrow)

/-- The value a step signals on a timeline: it is a successful submission that
names the timeline. -/
def signalOn (timeline : ObjectId) (e : RuntimeEvent D P) : Option Nat :=
  match e.action, e.answer with
  | .submit _ _ named signalValue, .ok _ =>
      if named = timeline then some signalValue else none
  | _, _ => none

/-- The values signalled on a timeline, oldest first. -/
def signals (timeline : ObjectId) (past : List (RuntimeEvent D P)) : List Nat :=
  past.filterMap (signalOn timeline)

theorem signals_concat (timeline : ObjectId) (past : List (RuntimeEvent D P))
    (e : RuntimeEvent D P) :
    signals timeline (past ++ [e]) =
      signals timeline past ++ (signalOn timeline e).toList := by
  rw [signals, List.filterMap_append]
  cases hsignal : signalOn timeline e with
  | none => simp [signals, hsignal]
  | some value => simp [signals, hsignal]

theorem signalOn_submit (timeline named : ObjectId)
    (before after : GraphicsRuntime D P) (queue : QueueHandle)
    (stream : CommandStream) (value : Nat) (reply : Reply) :
    signalOn timeline
        ⟨before, .submit queue stream named value, .ok reply, after⟩ =
      if named = timeline then some value else none := rfl

theorem signalOn_of_refused {timeline : ObjectId} {e : RuntimeEvent D P}
    (hrefused : ∀ queue stream named value,
      e.action = .submit queue stream named value → ¬ IsOk e.answer) :
    signalOn timeline e = none := by
  obtain ⟨before, action, answer, after⟩ := e
  cases action with
  | submit queue stream named value =>
      cases answer with
      | ok reply => exact absurd (isOk_ok reply) (hrefused _ _ _ _ rfl)
      | error error => rfl
  | _ => rfl

variable [GpuDriver D]

/-- The step is a submission that the driver of the context's GPU took. -/
def DriverAccepted (e : RuntimeEvent D P) : Prop :=
  ∃ queue stream timeline value found,
    e.action = .submit queue stream timeline value ∧
      e.before.devices.get stream.device = some found ∧
      (GpuDriver.submit found.gpu queue.workload (translateOps stream.ops)
        e.before.driver).1 = .returned (.ok ())

namespace TimelinesIssued

variable {before after : GraphicsRuntime D P} {op : Op D}
  {answer : Result Reply}

theorem preserved (hissued : TimelinesIssued before)
    (heffect : Effect before op answer after) : TimelinesIssued after := by
  intro timeline value hrow
  have hadvances := heffect.advances
  cases heffect.onTimelines with
  | kept hsubmit hcreate htable =>
      rw [htable] at hrow
      exact (hissued timeline value hrow).mono hadvances
  | created hcontext hids htable =>
      rw [htable] at hrow
      rcases Table.row_of_insert hrow with ⟨rfl, -⟩ | ⟨-, hrow⟩
      · rw [hids]
        exact before.ids.next_issued
      · exact (hissued timeline value hrow).mono hadvances
  | @signalled queue stream named gpu signalValue driver hready haccepted
      htable =>
      rw [htable] at hrow
      rcases Table.row_of_insert hrow with ⟨rfl, -⟩ | ⟨-, hrow⟩
      · obtain ⟨current, hcurrent, hincreases⟩ := hready.increases
        exact (hissued _ current hcurrent).mono hadvances
      · exact (hissued timeline value hrow).mono hadvances

/-- A step never lowers a timeline, and a signal on it raises it. -/
theorem le_step (hissued : TimelinesIssued before)
    (heffect : Effect before op answer after) {timeline : ObjectId}
    {value : Nat} (hrow : before.timelines.get timeline = some value) :
    ∃ later, after.timelines.get timeline = some later ∧ value ≤ later ∧
      (signalOn timeline ⟨before, op, answer, after⟩ ≠ none →
        value < later) := by
  cases heffect.onTimelines with
  | kept hsubmit hcreate htable =>
      refine ⟨value, by rw [htable, hrow], Nat.le_refl value, ?_⟩
      intro hsignal
      exact absurd (signalOn_of_refused hsubmit) hsignal
  | created hcontext hids htable =>
      have hne : timeline ≠ before.ids.next := by
        rintro rfl
        rw [hissued.fresh] at hrow
        cases hrow
      refine ⟨value, ?_, Nat.le_refl value, fun hsignal => absurd rfl hsignal⟩
      rw [htable, Table.get_insert_ne _ _ hne, hrow]
  | @signalled queue stream named gpu signalValue driver hready haccepted
      htable =>
      by_cases heq : timeline = named
      · obtain ⟨current, hcurrent, hincreases⟩ := hready.increases
        rw [heq, hcurrent] at hrow
        have hsame : current = value := Option.some.inj hrow
        refine ⟨signalValue, ?_, by omega, fun _ => by omega⟩
        rw [heq, htable, Table.get_insert_self]
      · refine ⟨value, ?_, Nat.le_refl value, ?_⟩
        · rw [htable, Table.get_insert_ne _ _ heq, hrow]
        · intro hsignal
          exact absurd (if_neg (Ne.symm heq)) hsignal

theorem le_run [GPUDriver P] (hissued : TimelinesIssued before)
    {timeline : ObjectId} {value : Nat}
    (hrow : before.timelines.get timeline = some value) (ops : List (Op D)) :
    ∃ later, (Machine.run step before ops).timelines.get
      timeline = some later ∧ value ≤ later := by
  let kept := fun now : GraphicsRuntime D P => TimelinesIssued now ∧
    ∃ later, now.timelines.get timeline = some later ∧ value ≤ later
  have hkept : kept (Machine.run step before ops) := by
    refine Machine.run_invariant kept ?_ ?_ ops
    · exact ⟨hissued, value, hrow, Nat.le_refl value⟩
    · rintro now op ⟨hnow, middle, hmiddle, hle⟩
      have heffect := step_effect now op
      obtain ⟨later, hlater, hle', -⟩ := hnow.le_step heffect hmiddle
      exact ⟨hnow.preserved heffect, later, hlater, Nat.le_trans hle hle'⟩
  exact hkept.2

end TimelinesIssued

/-- What the timeline table says about the run so far. -/
structure TimelineHistory (past : List (RuntimeEvent D P))
    (now : GraphicsRuntime D P) : Prop where
  rows : ∀ timeline,
    CounterRow (now.timelines.get timeline) (signals timeline past)
  accepted : ∀ timeline, ∀ signal ∈ signals timeline past, ∃ e ∈ past,
    signalOn timeline e = some signal ∧ DriverAccepted e
  issued : TimelinesIssued now

namespace TimelineHistory

variable {past : List (RuntimeEvent D P)} {before after : GraphicsRuntime D P}
  {op : Op D} {answer : Result Reply}

theorem rows_step (hhistory : TimelineHistory past before)
    (heffect : Effect before op answer after) (timeline : ObjectId) :
    CounterRow (after.timelines.get timeline)
      (signals timeline (past ++ [⟨before, op, answer, after⟩])) := by
  have hrow := hhistory.rows timeline
  rw [signals_concat]
  cases heffect.onTimelines with
  | kept hsubmit hcreate htable =>
      rw [signalOn_of_refused hsubmit, htable]
      simpa using hrow
  | created hcontext hids htable =>
      change CounterRow _ (signals timeline past ++ [])
      rw [List.append_nil, htable, Table.get_insert]
      by_cases heq : timeline = before.ids.next
      · rw [heq, hhistory.issued.fresh] at hrow
        rw [if_pos heq, heq, hrow.values_of_absent]
        exact .unraised
      · rwa [if_neg heq]
  | @signalled queue stream named gpu signalValue driver hready haccepted
      htable =>
      rw [htable, Table.get_insert, signalOn_submit]
      by_cases heq : timeline = named
      · obtain ⟨current, hcurrent, hincreases⟩ := hready.increases
        rw [heq, hcurrent] at hrow
        rw [if_pos heq, if_pos heq.symm, heq]
        exact .raised hrow hincreases
      · rw [if_neg heq, if_neg (Ne.symm heq)]
        simpa using hrow

theorem accepted_step (hhistory : TimelineHistory past before)
    (heffect : Effect before op answer after) (timeline : ObjectId) :
    ∀ signal ∈ signals timeline (past ++ [⟨before, op, answer, after⟩]),
      ∃ e ∈ past ++ [⟨before, op, answer, after⟩],
        signalOn timeline e = some signal ∧ DriverAccepted e := by
  intro signal hsignal
  rw [signals_concat, List.mem_append, Option.mem_toList] at hsignal
  rcases hsignal with hold | hnew
  · obtain ⟨e, hmem, haccepted⟩ := hhistory.accepted timeline signal hold
    exact ⟨e, List.mem_append_left _ hmem, haccepted⟩
  · refine ⟨_, List.mem_append_right past List.mem_cons_self, hnew, ?_⟩
    cases heffect.onTimelines with
    | kept hsubmit hcreate htable =>
        rw [signalOn_of_refused hsubmit] at hnew
        cases hnew
    | created hcontext hids htable => cases hnew
    | signalled hready haccepted htable =>
        obtain ⟨found, hcontext, rfl⟩ := hready.context
        exact ⟨_, _, _, _, found, rfl, hcontext, by rw [haccepted]⟩

theorem extend (hhistory : TimelineHistory past before)
    (heffect : Effect before op answer after) :
    TimelineHistory (past ++ [⟨before, op, answer, after⟩]) after where
  rows := hhistory.rows_step heffect
  accepted := hhistory.accepted_step heffect
  issued := hhistory.issued.preserved heffect

end TimelineHistory

/-! ### Monotone timelines and stable waits -/

/-- What `timeline_value` returns is the last successful signal, or zero; it
is the greatest of all of them, and the driver accepted it. -/
def ReportsSignals (past : List (RuntimeEvent D P))
    (now : GraphicsRuntime D P) : Prop :=
  ∀ timeline value, (timelineValue timeline now).1 = .ok value →
    value = (signals timeline past).getLast?.getD 0 ∧
      (∀ signal ∈ signals timeline past, signal ≤ value) ∧
      (signals timeline past ≠ [] → ∃ e ∈ past,
        signalOn timeline e = some value ∧ DriverAccepted e)

/-- Between two states of a run `timeline_value` does not decrease. -/
def NeverDecreases (before after : GraphicsRuntime D P) : Prop :=
  ∀ timeline value, (timelineValue timeline before).1 = .ok value →
    ∃ later, (timelineValue timeline after).1 = .ok later ∧ value ≤ later

/-- A successful submission raises the timeline it names. -/
def RaisesSignalled (e : RuntimeEvent D P) : Prop :=
  ∀ timeline signal, signalOn timeline e = some signal →
    ∃ value later, (timelineValue timeline e.before).1 = .ok value ∧
      (timelineValue timeline e.after).1 = .ok later ∧ value < later

/-- A wait that returned keeps returning, for every smaller value too. -/
def KeepsWaits (before after : GraphicsRuntime D P) : Prop :=
  ∀ timeline value lower, IsOk (wait timeline value before).1 →
    lower ≤ value → IsOk (wait timeline lower after).1

theorem TimelineHistory.reportsSignals {past : List (RuntimeEvent D P)}
    {now : GraphicsRuntime D P} (hhistory : TimelineHistory past now) :
    ReportsSignals past now := by
  intro timeline value hvalue
  have hrow := hhistory.rows timeline
  rw [timelineValue_eq_ok.mp hvalue] at hrow
  refine ⟨hrow.latest, hrow.greatest, ?_⟩
  intro hsignalled
  exact hhistory.accepted timeline value (hrow.current_mem hsignalled)

theorem TimelinesIssued.raisesSignalled {before after : GraphicsRuntime D P}
    {op : Op D} {answer : Result Reply} (hissued : TimelinesIssued before)
    (heffect : Effect before op answer after) :
    RaisesSignalled ⟨before, op, answer, after⟩ := by
  intro timeline signal hsignal
  have hpresent : ∃ value, before.timelines.get timeline = some value := by
    cases heffect.onTimelines with
    | kept hsubmit hcreate htable =>
        rw [signalOn_of_refused hsubmit] at hsignal
        cases hsignal
    | created hcontext hids htable => cases hsignal
    | @signalled queue stream named _ signalValue _ hready haccepted htable =>
        obtain ⟨current, hcurrent, hincreases⟩ := hready.increases
        rw [signalOn_submit] at hsignal
        by_cases heq : named = timeline
        · exact ⟨current, heq ▸ hcurrent⟩
        · rw [if_neg heq] at hsignal
          cases hsignal
  obtain ⟨value, hvalue⟩ := hpresent
  obtain ⟨later, hlater, -, hraised⟩ := hissued.le_step heffect hvalue
  exact ⟨value, later, timelineValue_eq_ok.mpr hvalue,
    timelineValue_eq_ok.mpr hlater, hraised (by simp [hsignal])⟩

variable [GPUDriver P]

theorem timelineHistory_new (driver : D) (vramBytes : Nat) (ids : IdSource) :
    TimelineHistory [] (new driver vramBytes ids : GraphicsRuntime D P) where
  rows := fun _ => .absent
  accepted := by simp [signals]
  issued := by simp [TimelinesIssued, new]

/-- The history law at the end of every run. -/
theorem timelineHistory_run (driver : D) (vramBytes : Nat) (ids : IdSource)
    (ops : List (Op D)) :
    TimelineHistory
      (Machine.trace step (new driver vramBytes ids : GraphicsRuntime D P) ops)
      (Machine.run step (new driver vramBytes ids) ops) :=
  Machine.history_invariant (timelineHistory_new driver vramBytes ids)
    (fun _ now op hhistory => hhistory.extend (step_effect now op)) ops

theorem TimelinesIssued.neverDecreases {before : GraphicsRuntime D P}
    (hissued : TimelinesIssued before) (ops : List (Op D)) :
    NeverDecreases before (Machine.run step before ops) := by
  intro timeline value hvalue
  obtain ⟨later, hlater, hle⟩ :=
    hissued.le_run (timelineValue_eq_ok.mp hvalue) ops
  exact ⟨later, timelineValue_eq_ok.mpr hlater, hle⟩

theorem TimelinesIssued.keepsWaits {before : GraphicsRuntime D P}
    (hissued : TimelinesIssued before) (ops : List (Op D)) :
    KeepsWaits before (Machine.run step before ops) := by
  intro timeline value lower hwait hlower
  obtain ⟨current, hcurrent, hle⟩ := wait_isOk.mp hwait
  obtain ⟨later, hlater, hle'⟩ := hissued.le_run hcurrent ops
  exact wait_isOk.mpr ⟨later, hlater, by omega⟩

/-- Timelines are monotone and waits are stable, in every run over every
driver. -/
theorem timelines_monotone_waits_stable (driver : D) (vramBytes : Nat)
    (ids : IdSource) (ops : List (Op D)) :
    let start : GraphicsRuntime D P := new driver vramBytes ids
    Machine.Throughout step start ops ReportsSignals ∧
      Machine.Meets step start ops (fun _ e => RaisesSignalled e) ∧
      ∀ first middle last, ops = first ++ middle ++ last →
        NeverDecreases (Machine.run step start first)
            (Machine.run step start (first ++ middle)) ∧
          KeepsWaits (Machine.run step start first)
            (Machine.run step start (first ++ middle)) := by
  intro start
  have hhistory : ∀ first, TimelineHistory (Machine.trace step start first)
      (Machine.run step start first) := timelineHistory_run driver vramBytes ids
  refine ⟨?_, ?_, ?_⟩
  · intro first last _
    exact (hhistory first).reportsSignals
  · apply Machine.meets_of_prefixes
    intro first op last _
    exact (hhistory first).issued.raisesSignalled (step_effect _ op)
  · intro first middle last _
    rw [Machine.run_append]
    exact ⟨(hhistory first).issued.neverDecreases middle,
      (hhistory first).issued.keepsWaits middle⟩

end Signals

end GraphicsRuntime

end SherGraphics
