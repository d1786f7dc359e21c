/-
Methods that clean up after themselves, and rules for proving what a method
ensures, what it adds to a log, when it ends in a value, and when it leaves
something broken.  An error is either caught, and then an outcome like any
other, or it stops every caller.
-/
import SherGraphics.Method

universe u v w

namespace Method

variable {E F : Type u} {S : Type v} {α β : Type u} {caught : E → Option F}

/-- The outcome of a method as a value. -/
def attempt (caught : E → Option F) (body : Method E S α) :
    Method E S (Except F α) :=
  fun receiver =>
    match body receiver with
    | (.ok value, changed) => (.ok (.ok value), changed)
    | (.error error, changed) =>
        match caught error with
        | some reason => (.ok (.error reason), changed)
        | none => (.error error, changed)

/-- Clean up before an error is returned. -/
def onError (caught : E → Option F) (body : Method E S α)
    (cleanup : Method E S PUnit) : Method E S α :=
  fun receiver =>
    match body receiver with
    | (.ok value, changed) => (.ok value, changed)
    | (.error error, changed) =>
        if (caught error).isSome then (cleanup >>= fun _ => fail error) changed
        else (.error error, changed)

/-! ### What it takes to end in a value -/

theorem ok_of_bind {first : Method E S α} {next : α → Method E S β}
    {receiver changed : S} {value : β}
    (hrun : (first >>= next) receiver = (.ok value, changed)) :
    ∃ found middle, first receiver = (.ok found, middle) ∧
      next found middle = (.ok value, changed) := by
  rw [bind_run] at hrun
  generalize first receiver = ended at hrun ⊢
  obtain ⟨result, middle⟩ := ended
  cases result with
  | ok found => exact ⟨found, middle, rfl, hrun⟩
  | error error => cases hrun

theorem ok_bind {first : Method E S α} {next : α → Method E S β} {receiver : S}
    (hfirst : ∃ found middle, first receiver = (.ok found, middle))
    (hnext : ∀ found middle, ∃ value changed,
      next found middle = (.ok value, changed)) :
    ∃ value changed, (first >>= next) receiver = (.ok value, changed) := by
  obtain ⟨found, middle, hrun⟩ := hfirst
  obtain ⟨value, changed, hrest⟩ := hnext found middle
  exact ⟨value, changed, (bind_of_ok hrun).trans hrest⟩

theorem ok_of_attempt {body : Method E S α} {receiver changed : S} {value : α}
    (hrun : attempt caught body receiver = (.ok (.ok value), changed)) :
    body receiver = (.ok value, changed) := by
  rw [attempt] at hrun
  generalize body receiver = ended at hrun ⊢
  obtain ⟨result, middle⟩ := ended
  cases result with
  | ok found =>
      cases hrun
      rfl
  | error error =>
      dsimp only at hrun
      cases hcaught : caught error with
      | some reason => simp [hcaught] at hrun
      | none => simp [hcaught] at hrun

/-! ### What a method ensures -/

/-- Started where `pre` holds, the method ends in a value with `post`, in an
error with `failed`, or is stopped. -/
def Ensures (caught : E → Option F) (pre : S → Prop) (method : Method E S α)
    (post : α → S → Prop) (failed : S → Prop) : Prop :=
  ∀ receiver, pre receiver →
    match method receiver with
    | (.ok value, changed) => post value changed
    | (.error error, changed) => (caught error).isSome = true → failed changed

namespace Ensures

variable {pre between failed : S → Prop} {post : α → S → Prop}

theorem pure {value : α}
    (hpost : ∀ receiver, pre receiver → post value receiver) :
    Ensures caught pre (pure value : Method E S α) post failed :=
  hpost

theorem change {update : S → S} {post : PUnit → S → Prop}
    (hpost : ∀ receiver, pre receiver → post ⟨⟩ (update receiver)) :
    Ensures caught pre (change update : Method E S PUnit) post failed :=
  hpost

theorem okOr {value : Option α} {error : E}
    (hpost : ∀ found receiver, value = some found → pre receiver →
      post found receiver)
    (hfailed : ∀ receiver, pre receiver → failed receiver) :
    Ensures caught pre (okOr value error : Method E S α) post failed := by
  cases value with
  | none => exact fun receiver hpre _ => hfailed receiver hpre
  | some found => exact fun receiver hpre => hpost found receiver rfl hpre

theorem ofResult {result : Except E α}
    (hpost : ∀ value receiver, result = .ok value → pre receiver →
      post value receiver)
    (hfailed : ∀ receiver, pre receiver → failed receiver) :
    Ensures caught pre (ofResult result : Method E S α) post failed := by
  cases result with
  | ok value => exact fun receiver hpre => hpost value receiver rfl hpre
  | error error => exact fun receiver hpre _ => hfailed receiver hpre

theorem bind {first : Method E S α} {next : α → Method E S β}
    {middle : α → S → Prop} {post : β → S → Prop}
    (hfirst : Ensures caught pre first middle failed)
    (hnext : ∀ value,
      Ensures caught (middle value) (next value) post failed) :
    Ensures caught pre (first >>= next) post failed := by
  intro receiver hpre
  have hmiddle := hfirst receiver hpre
  rw [bind_run]
  generalize first receiver = ended at hmiddle ⊢
  obtain ⟨result, changed⟩ := ended
  cases result with
  | ok value => exact hnext value changed hmiddle
  | error error => exact hmiddle

theorem read_bind {view : S → α} {next : α → Method E S β}
    {post : β → S → Prop}
    (hnext : ∀ value, Ensures caught pre (next value) post failed) :
    Ensures caught pre (read view >>= next) post failed :=
  fun receiver hpre => hnext (view receiver) receiver hpre

theorem trivial (method : Method E S α) :
    Ensures caught pre method (fun _ _ => True) fun _ => True := by
  intro receiver _
  generalize method receiver = ended
  obtain ⟨result, changed⟩ := ended
  cases result with
  | ok value => exact True.intro
  | error error => exact fun _ => True.intro

/-- A fact that a value brings with it. -/
theorem given {method : Method E S α} {fact : Prop}
    (hensures : fact → Ensures caught pre method post failed) :
    Ensures caught (fun receiver => fact ∧ pre receiver) method post failed :=
  fun receiver hpre => hensures hpre.1 receiver hpre.2

/-- The rule of consequence. -/
theorem weaken {method : Method E S α} {given after : S → Prop}
    {wanted : α → S → Prop} (hensures : Ensures caught pre method post failed)
    (hpre : ∀ receiver, given receiver → pre receiver)
    (hpost : ∀ value receiver, post value receiver → wanted value receiver)
    (hfailed : ∀ receiver, failed receiver → after receiver) :
    Ensures caught given method wanted after := by
  intro receiver hgiven
  have hended := hensures receiver (hpre receiver hgiven)
  generalize method receiver = ended at hended ⊢
  obtain ⟨result, changed⟩ := ended
  cases result with
  | ok value => exact hpost value changed hended
  | error error => exact fun hcaught => hfailed changed (hended hcaught)

/-- An attempt goes on after an error. -/
theorem attempt {body : Method E S α} {ended : Except F α → S → Prop}
    (hbody : Ensures caught pre body (fun value => ended (.ok value))
      fun changed => ∀ reason, ended (.error reason) changed) :
    Ensures caught pre (attempt caught body) ended failed := by
  intro receiver hpre
  have hended := hbody receiver hpre
  rw [Method.attempt]
  generalize body receiver = last at hended ⊢
  obtain ⟨result, changed⟩ := last
  cases result with
  | ok value => exact hended
  | error error =>
      dsimp only at hended ⊢
      cases hcaught : caught error with
      | some reason => exact hended (by simp [hcaught]) reason
      | none => simp [hcaught]

/-- The cleanup starts where the body failed. -/
theorem onError {body : Method E S α} {cleanup : Method E S PUnit}
    (hbody : Ensures caught pre body post between)
    (hcleanup : Ensures caught between cleanup (fun _ => failed) failed) :
    Ensures caught pre (onError caught body cleanup) post failed := by
  intro receiver hpre
  have hended := hbody receiver hpre
  rw [Method.onError]
  generalize body receiver = last at hended ⊢
  obtain ⟨result, changed⟩ := last
  cases result with
  | ok value => exact hended
  | error error =>
      dsimp only at hended ⊢
      by_cases hcaught : (caught error).isSome = true
      · have hclean := hcleanup changed (hended hcaught)
        rw [if_pos hcaught, bind_run]
        generalize cleanup changed = cleaned at hclean ⊢
        obtain ⟨outcome, after⟩ := cleaned
        cases outcome with
        | ok done => exact fun _ => hclean
        | error other => exact hclean
      · rw [if_neg hcaught]
        exact fun hsome => absurd hsome hcaught

/-- What holds after every error holds after a cleanup that keeps it. -/
theorem onError_all {body : Method E S α} {cleanup : Method E S PUnit}
    (hbody : Ensures some pre body post failed)
    (hcleanup : Ensures some failed cleanup (fun _ => failed) failed) :
    Ensures some pre (Method.onError caught body cleanup) post failed := by
  intro receiver hpre
  have hended := hbody receiver hpre
  rw [Method.onError]
  generalize body receiver = last at hended ⊢
  obtain ⟨result, changed⟩ := last
  cases result with
  | ok value => exact hended
  | error error =>
      have hclean := hcleanup changed (hended rfl)
      dsimp only
      by_cases hcaught : (caught error).isSome = true
      · rw [if_pos hcaught, bind_run]
        generalize cleanup changed = cleaned at hclean ⊢
        obtain ⟨outcome, after⟩ := cleaned
        cases outcome with
        | ok done => exact fun _ => hclean
        | error other => exact hclean
      · rw [if_neg hcaught]
        exact hended

/-- An attempt ends in a value or is stopped. -/
theorem attempt_all {body : Method E S α} {ended : Except F α → S → Prop}
    (hbody : Ensures some pre body (fun value => ended (.ok value)) failed)
    (hcaught : ∀ reason changed, failed changed →
      ended (.error reason) changed) :
    Ensures some pre (Method.attempt caught body) ended failed := by
  intro receiver hpre
  have hended := hbody receiver hpre
  rw [Method.attempt]
  generalize body receiver = last at hended ⊢
  obtain ⟨result, changed⟩ := last
  cases result with
  | ok value => exact hended
  | error error =>
      dsimp only
      cases hreason : caught error with
      | some reason => exact hcaught reason changed (hended rfl)
      | none => exact hended

end Ensures

/-! ### What a method writes to a log -/

section Writes

variable {C : Type v} {allowed : C → Prop}

/-- Whatever comes of it, the method adds only such entries to the log that it
runs on. -/
def Writes (allowed : C → Prop) (method : Method E (List C) α) : Prop :=
  ∀ log, ∃ more, (method log).2 = log ++ more ∧ ∀ call ∈ more, allowed call

namespace Writes

theorem nothing {method : Method E (List C) α}
    (hsame : ∀ log, (method log).2 = log) : Writes allowed method :=
  fun log => ⟨[], by simp [hsame]⟩

theorem pure (value : α) :
    Writes allowed (Pure.pure value : Method E (List C) α) :=
  nothing fun _ => rfl

theorem okOr (value : Option α) (error : E) :
    Writes allowed (okOr value error : Method E (List C) α) := by
  cases value with
  | none => exact nothing fun _ => rfl
  | some found => exact nothing fun _ => rfl

theorem ofResult (result : Except E α) :
    Writes allowed (ofResult result : Method E (List C) α) :=
  nothing fun _ => rfl

theorem rejectIf (test : Prop) [Decidable test] (error : E) :
    Writes allowed (rejectIf test error : Method E (List C) PUnit) := by
  refine nothing fun log => ?_
  rw [rejectIf_run]
  by_cases htest : test
  · rw [if_pos htest]
  · rw [if_neg htest]

theorem one {method : Method E (List C) α} {entry : List C → C}
    (hone : ∀ log, (method log).2 = log ++ [entry log])
    (hallowed : ∀ log, allowed (entry log)) : Writes allowed method :=
  fun log => ⟨[entry log], hone log, by simpa using hallowed log⟩

theorem bind {first : Method E (List C) α} {next : α → Method E (List C) β}
    (hfirst : Writes allowed first) (hnext : ∀ value, Writes allowed (next value)) :
    Writes allowed (first >>= next) := by
  intro log
  obtain ⟨more, hmore, hall⟩ := hfirst log
  rw [bind_run]
  generalize first log = ended at hmore ⊢
  obtain ⟨result, changed⟩ := ended
  cases result with
  | error error => exact ⟨more, hmore, hall⟩
  | ok value =>
      obtain ⟨rest, hrest, hothers⟩ := hnext value changed
      refine ⟨more ++ rest, ?_, ?_⟩
      · change (next value changed).2 = _
        rw [hrest, show changed = log ++ more from hmore, List.append_assoc]
      · intro call hmem
        rcases List.mem_append.mp hmem with hold | hnew
        · exact hall call hold
        · exact hothers call hnew

theorem attempt {body : Method E (List C) α} (hbody : Writes allowed body) :
    Writes allowed (attempt caught body) := by
  intro log
  obtain ⟨more, hmore, hall⟩ := hbody log
  refine ⟨more, ?_, hall⟩
  rw [Method.attempt]
  generalize body log = ended at hmore ⊢
  obtain ⟨result, changed⟩ := ended
  cases result with
  | ok value => exact hmore
  | error error =>
      cases hcaught : caught error with
      | some reason => simpa [hcaught] using hmore
      | none => simpa [hcaught] using hmore

theorem onError {body : Method E (List C) α}
    {cleanup : Method E (List C) PUnit} (hbody : Writes allowed body)
    (hcleanup : Writes allowed cleanup) :
    Writes allowed (onError caught body cleanup) := by
  intro log
  obtain ⟨more, hmore, hall⟩ := hbody log
  rw [Method.onError]
  generalize body log = ended at hmore ⊢
  obtain ⟨result, changed⟩ := ended
  cases result with
  | ok value => exact ⟨more, hmore, hall⟩
  | error error =>
      dsimp only
      split
      · have hfail : Writes allowed
            (cleanup >>= fun _ => fail error : Method E (List C) α) :=
          hcleanup.bind fun _ => nothing fun _ => rfl
        obtain ⟨rest, hrest, hothers⟩ := hfail changed
        refine ⟨more ++ rest, ?_, ?_⟩
        · rw [hrest, show changed = log ++ more from hmore, List.append_assoc]
        · intro call hmem
          rcases List.mem_append.mp hmem with hold | hnew
          · exact hall call hold
          · exact hothers call hnew
      · exact ⟨more, hmore, hall⟩

theorem mono {method : Method E (List C) α} {other : C → Prop}
    (hwrites : Writes allowed method) (himp : ∀ call, allowed call → other call) :
    Writes other method := by
  intro log
  obtain ⟨more, hmore, hall⟩ := hwrites log
  exact ⟨more, hmore, fun call hmem => himp call (hall call hmem)⟩

/-- What such entries keep of a log is kept however the method ends. -/
theorem kept_run {method : Method E (List C) α} {kept : List C → Prop}
    (hwrites : Writes allowed method)
    (hkept : ∀ log more, kept log → (∀ call ∈ more, allowed call) →
      kept (log ++ more)) {log : List C} (hlog : kept log) :
    kept (method log).2 := by
  obtain ⟨more, hmore, hall⟩ := hwrites log
  rw [hmore]
  exact hkept log more hlog hall

theorem keeps {method : Method E (List C) α} {kept : List C → Prop}
    (hwrites : Writes allowed method)
    (hkept : ∀ log more, kept log → (∀ call ∈ more, allowed call) →
      kept (log ++ more)) :
    Ensures some kept method (fun _ => kept) kept := by
  intro log hlog
  have hchanged := hwrites.kept_run hkept hlog
  generalize method log = ended at hchanged ⊢
  obtain ⟨result, changed⟩ := ended
  cases result with
  | ok value => exact hchanged
  | error error => exact fun _ => hchanged

/-- An entry that the first part wrote stays in the log. -/
theorem mem_bind {first : Method E (List C) α} {next : α → Method E (List C) β}
    (hnext : ∀ value, Writes allowed (next value)) {log : List C} {call : C}
    (hmem : call ∈ (first log).2) : call ∈ ((first >>= next) log).2 := by
  rw [bind_run]
  generalize first log = ended at hmem ⊢
  obtain ⟨result, changed⟩ := ended
  cases result with
  | error error => exact hmem
  | ok value =>
      exact (hnext value).kept_run
        (fun _ more hold _ => List.mem_append_left more hold) hmem

/-- What is known of the values of such a method holds as well. -/
theorem ensures {method : Method E (List C) α} {pre kept : List C → Prop}
    {post : α → List C → Prop} (hwrites : Writes allowed method)
    (hpost : Ensures caught pre method post fun _ => True)
    (hkept : ∀ log more, pre log → (∀ call ∈ more, allowed call) →
      kept (log ++ more)) :
    Ensures some pre method (fun value log => kept log ∧ post value log)
      kept := by
  intro log hpre
  have hvalue := hpost log hpre
  obtain ⟨more, hmore, hall⟩ := hwrites log
  generalize method log = ended at hmore hvalue ⊢
  obtain ⟨result, changed⟩ := ended
  have hchanged : kept changed := by
    rw [show changed = log ++ more from hmore]
    exact hkept log more hpre hall
  cases result with
  | ok value => exact ⟨hchanged, hvalue⟩
  | error error => exact fun _ => hchanged

end Writes

end Writes

/-! ### When a method ends in a value -/

section Succeeds

variable {condition other : Prop}

/-- The method ends in a value exactly if the condition holds, whatever it runs
on. -/
def Succeeds (condition : Prop) (method : Method E S α) : Prop :=
  ∀ receiver,
    (∃ value changed, method receiver = (.ok value, changed)) ↔ condition

namespace Succeeds

theorem pure (value : α) : Succeeds True (Pure.pure value : Method E S α) :=
  fun receiver => iff_of_true ⟨value, receiver, rfl⟩ True.intro

theorem change (update : S → S) :
    Succeeds True (change update : Method E S PUnit) :=
  fun receiver => iff_of_true ⟨⟨⟩, update receiver, rfl⟩ True.intro

theorem rejectIf (test : Prop) [Decidable test] (error : E) :
    Succeeds (¬ test) (rejectIf test error : Method E S PUnit) := by
  intro receiver
  rw [rejectIf_run]
  by_cases htest : test
  · simp [htest]
  · simp [htest]

theorem congr {method : Method E S α} (hsucceeds : Succeeds condition method)
    (hiff : condition ↔ other) : Succeeds other method :=
  fun receiver => (hsucceeds receiver).trans hiff

theorem okOr (value : Option α) (error : E) :
    Succeeds (∃ found, value = some found)
      (okOr value error : Method E S α) := by
  intro receiver
  cases value with
  | none => simp [Method.okOr, Method.fail]
  | some found => exact iff_of_true ⟨found, receiver, rfl⟩ ⟨found, rfl⟩

theorem bind {first : Method E S α} {next : α → Method E S β}
    (hfirst : Succeeds condition first)
    (hnext : ∀ value, Succeeds other (next value)) :
    Succeeds (condition ∧ other) (first >>= next) := by
  intro receiver
  rw [← hfirst receiver, bind_run]
  obtain ⟨result, changed⟩ := first receiver
  cases result with
  | ok value =>
      refine (hnext value changed).trans ?_
      simp
  | error error => simp

theorem onError {body : Method E S α} (hbody : Succeeds condition body)
    (cleanup : Method E S PUnit) :
    Succeeds condition (onError caught body cleanup) := by
  intro receiver
  rw [← hbody receiver, Method.onError]
  obtain ⟨result, changed⟩ := body receiver
  cases result with
  | ok value => rfl
  | error error =>
      dsimp only
      split
      · rw [bind_run]
        obtain ⟨outcome, after⟩ := cleanup changed
        cases outcome with
        | ok done => simp
        | error other => simp
      · rfl

end Succeeds

end Succeeds

/-! ### When a method leaves something broken -/

section BreaksIff

variable {bad condition : Prop} {pre broken sound : S → Prop}

/-- Started where `pre` holds, the method leaves its receiver broken if the
condition holds, and sound if not, however it ends. -/
def BreaksIff (bad : Prop) (pre broken sound : S → Prop)
    (method : Method E S α) : Prop :=
  ∀ receiver, pre receiver →
    (bad → broken (method receiver).2) ∧ (¬ bad → sound (method receiver).2)

namespace BreaksIff

theorem congr {method : Method E S α} {other : Prop}
    (hbreaks : BreaksIff bad pre broken sound method) (hiff : bad ↔ other) :
    BreaksIff other pre broken sound method := by
  rwa [← propext hiff]

theorem of_ensures {method : Method E S α}
    (hbad : bad → ∀ receiver, pre receiver → broken (method receiver).2)
    (hgood : ¬ bad → Ensures some pre method (fun _ => sound) sound) :
    BreaksIff bad pre broken sound method := by
  refine fun receiver hpre => ⟨fun h => hbad h receiver hpre, fun h => ?_⟩
  have hended := hgood h receiver hpre
  generalize method receiver = ended at hended ⊢
  obtain ⟨result, changed⟩ := ended
  cases result with
  | ok value => exact hended
  | error error => exact hended rfl

/-- A fact that the receiver brings with it. -/
theorem given {method : Method E S α} {fact : Prop}
    (hbreaks : fact → BreaksIff bad pre broken sound method) :
    BreaksIff bad (fun receiver => pre receiver ∧ fact) broken sound method :=
  fun receiver hpre => hbreaks hpre.2 receiver hpre.1

/-- The rest of the method is broken, and its first part has to succeed. -/
theorem bind {first : Method E S α} {next : α → Method E S β}
    {middle : α → S → Prop} (hsucceeds : Succeeds condition first)
    (hfirst : Ensures some pre first middle sound)
    (hnext : ∀ value, BreaksIff bad (middle value) broken sound (next value)) :
    BreaksIff (condition ∧ bad) pre broken sound (first >>= next) := by
  intro receiver hpre
  have hended := hfirst receiver hpre
  have hreaches := hsucceeds receiver
  rw [bind_run]
  generalize first receiver = ended at hended hreaches ⊢
  obtain ⟨result, changed⟩ := ended
  cases result with
  | ok value =>
      have hcondition : condition := hreaches.mp ⟨value, changed, rfl⟩
      have hrest := hnext value changed hended
      exact ⟨fun hbad => hrest.1 hbad.2,
        fun hgood => hrest.2 fun hbad => hgood ⟨hcondition, hbad⟩⟩
  | error error =>
      refine ⟨fun hbad => ?_, fun _ => hended rfl⟩
      obtain ⟨value, after, hok⟩ := hreaches.mpr hbad.1
      cases hok

theorem attempt {body : Method E S α}
    (hbody : BreaksIff bad pre broken sound body) :
    BreaksIff bad pre broken sound (attempt caught body) := by
  intro receiver hpre
  have hended := hbody receiver hpre
  rw [Method.attempt]
  generalize body receiver = last at hended ⊢
  obtain ⟨result, changed⟩ := last
  cases result with
  | ok value => exact hended
  | error error =>
      dsimp only at hended ⊢
      cases hcaught : caught error with
      | some reason => exact hended
      | none => exact hended

/-- What follows neither breaks nor repairs anything. -/
theorem bind_keeping {first : Method E S α} {next : α → Method E S β}
    (hfirst : BreaksIff bad pre broken sound first)
    (hbroken : ∀ value receiver, broken receiver →
      broken (next value receiver).2)
    (hsound : ∀ value receiver, sound receiver →
      sound (next value receiver).2) :
    BreaksIff bad pre broken sound (first >>= next) := by
  intro receiver hpre
  have hended := hfirst receiver hpre
  rw [bind_run]
  generalize first receiver = ended at hended ⊢
  obtain ⟨result, changed⟩ := ended
  cases result with
  | error error => exact hended
  | ok value =>
      exact ⟨fun hbad => hbroken value changed (hended.1 hbad),
        fun hgood => hsound value changed (hended.2 hgood)⟩

end BreaksIff

end BreaksIff

end Method
