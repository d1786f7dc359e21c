/-
What `validate_stream` decides.  The loop of the source carries the pipeline
bound so far; the law here speaks of positions of the stream instead.
-/
import SherGraphics.Runtime

/-- The cuts of a list: at its head, or further on. -/
theorem List.forall_cut_cons {α : Type*} (Q : List α → α → Prop) (head : α)
    (rest : List α) :
    (∀ earlier op later, head :: rest = earlier ++ op :: later →
        Q earlier op) ↔
      Q [] head ∧ ∀ earlier op later, rest = earlier ++ op :: later →
        Q (head :: earlier) op := by
  constructor
  · intro hall
    refine ⟨hall [] head rest rfl, ?_⟩
    rintro earlier op later rfl
    exact hall (head :: earlier) op later rfl
  · rintro ⟨hhead, hrest⟩ earlier op later hsplit
    cases earlier with
    | nil =>
        obtain ⟨rfl, -⟩ := List.cons.inj hsplit
        exact hhead
    | cons first earlier =>
        obtain ⟨rfl, hrest'⟩ := List.cons.inj hsplit
        exact hrest earlier op later hrest'

namespace SherGraphics

/-- The operation binds a pipeline. -/
def GraphicsOp.BindsPipeline : GraphicsOp → Prop
  | .bindPipeline _ => True
  | _ => False

/-- What is asked of one operation of a stream of a device, where `bound` says
whether a pipeline was bound at an earlier position. -/
def OpValid (device : ObjectId) (pipelines : Table ObjectId Pipeline)
    (resources : Table ObjectId Resource) (bound : Prop) : GraphicsOp → Prop
  | .bindPipeline pipeline =>
      ∃ row, pipelines.get pipeline = some row ∧ row.device = device
  | .bindResource _ resource =>
      ∃ row, resources.get resource = some row ∧ row.device = device
  | .draw _ _ | .dispatch _ _ _ => bound
  | .copy src dst =>
      (∃ row, resources.get src = some row) ∧
        ∃ row, resources.get dst = some row
  | .barrier => True

/-- The pipeline bound after an operation. -/
def boundAfter (boundPipeline : Option ObjectId) :
    GraphicsOp → Option ObjectId
  | .bindPipeline pipeline => some pipeline
  | _ => boundPipeline

section Validation

variable {device : ObjectId} {pipelines : Table ObjectId Pipeline}
  {resources : Table ObjectId Resource} {boundPipeline : Option ObjectId}

theorem isSome_boundAfter (op : GraphicsOp) :
    (boundAfter boundPipeline op).isSome = true ↔
      boundPipeline.isSome = true ∨ op.BindsPipeline := by
  cases op <;> simp [boundAfter, GraphicsOp.BindsPipeline]

/-- One iteration of the loop accepts what is asked, and goes on with the
pipeline bound then. -/
theorem validateOp_of_valid {op : GraphicsOp}
    (hvalid : OpValid device pipelines resources
      (boundPipeline.isSome = true) op) :
    validateOp device pipelines resources boundPipeline op =
      .ok (boundAfter boundPipeline op) := by
  cases op with
  | bindPipeline pipeline =>
      obtain ⟨row, hrow, hdevice⟩ := hvalid
      simp [validateOp, boundAfter, hrow, hdevice]
  | bindResource binding resource =>
      obtain ⟨row, hrow, hdevice⟩ := hvalid
      simp [validateOp, boundAfter, hrow, hdevice]
  | draw vertexCount instanceCount =>
      have hbound : boundPipeline.isNone = false :=
        Option.isNone_eq_false_iff.mpr hvalid
      simp [validateOp, boundAfter, hbound]
  | dispatch x y z =>
      have hbound : boundPipeline.isNone = false :=
        Option.isNone_eq_false_iff.mpr hvalid
      simp [validateOp, boundAfter, hbound]
  | copy src dst =>
      obtain ⟨⟨source, hsrc⟩, target, hdst⟩ := hvalid
      simp [validateOp, boundAfter, Table.contains, hsrc, hdst]
  | barrier => rfl

theorem valid_of_validateOp {op : GraphicsOp} {bound : Option ObjectId}
    (haccepted : validateOp device pipelines resources boundPipeline op =
      .ok bound) :
    OpValid device pipelines resources (boundPipeline.isSome = true) op := by
  cases op with
  | bindPipeline pipeline =>
      cases hrow : pipelines.get pipeline with
      | none => simp [validateOp, hrow] at haccepted
      | some row =>
          refine ⟨row, hrow, ?_⟩
          by_contra hdevice
          simp [validateOp, hrow, hdevice] at haccepted
  | bindResource binding resource =>
      cases hrow : resources.get resource with
      | none => simp [validateOp, hrow] at haccepted
      | some row =>
          refine ⟨row, hrow, ?_⟩
          by_contra hdevice
          simp [validateOp, hrow, hdevice] at haccepted
  | draw vertexCount instanceCount =>
      cases boundPipeline with
      | none => simp [validateOp] at haccepted
      | some pipeline => rfl
  | dispatch x y z =>
      cases boundPipeline with
      | none => simp [validateOp] at haccepted
      | some pipeline => rfl
  | copy src dst =>
      simp only [validateOp, Bool.or_eq_true, Bool.not_eq_true'] at haccepted
      split at haccepted
      · cases haccepted
      · next hknown =>
        simp only [not_or, Bool.not_eq_false,
          Table.contains_eq_true_iff] at hknown
        exact hknown
  | barrier => trivial

/-- One step of the loop, as far as it is accepted. -/
theorem validateOps_cons_iff (op : GraphicsOp) (rest : List GraphicsOp) :
    validateOps device pipelines resources boundPipeline (op :: rest) =
        .ok () ↔
      OpValid device pipelines resources (boundPipeline.isSome = true) op ∧
        validateOps device pipelines resources (boundAfter boundPipeline op)
          rest = .ok () := by
  rw [validateOps]
  constructor
  · intro haccepted
    cases hop : validateOp device pipelines resources boundPipeline op with
    | error error => simp [hop] at haccepted
    | ok bound =>
        have hvalid := valid_of_validateOp hop
        rw [validateOp_of_valid hvalid] at haccepted
        exact ⟨hvalid, haccepted⟩
  · rintro ⟨hvalid, hrest⟩
    rw [validateOp_of_valid hvalid]
    exact hrest

/-- The loop accepts exactly the streams all of whose positions are valid. -/
theorem validateOps_eq_ok_iff (ops : List GraphicsOp) :
    validateOps device pipelines resources boundPipeline ops = .ok () ↔
      ∀ earlier op later, ops = earlier ++ op :: later →
        OpValid device pipelines resources
          (boundPipeline.isSome = true ∨
            ∃ previous ∈ earlier, previous.BindsPipeline) op := by
  induction ops generalizing boundPipeline with
  | nil => simp [validateOps]
  | cons head rest ih =>
      rw [validateOps_cons_iff, ih, isSome_boundAfter, List.forall_cut_cons
        fun earlier op => OpValid device pipelines resources
          (boundPipeline.isSome = true ∨
            ∃ previous ∈ earlier, previous.BindsPipeline) op]
      simp [or_assoc]

end Validation

/-- `validate_stream` accepts exactly the streams all of whose positions are
valid for the stream's device. -/
theorem validateStream_eq_ok_iff (stream : CommandStream)
    (pipelines : Table ObjectId Pipeline)
    (resources : Table ObjectId Resource) :
    validateStream stream pipelines resources = .ok () ↔
      ∀ earlier op later, stream.ops = earlier ++ op :: later →
        OpValid stream.device pipelines resources
          (∃ previous ∈ earlier, previous.BindsPipeline) op := by
  rw [validateStream, validateOps_eq_ok_iff]
  simp

/-- What an accepted stream says about an operation anywhere in it. -/
theorem opValid_of_mem {stream : CommandStream}
    {pipelines : Table ObjectId Pipeline} {resources : Table ObjectId Resource}
    (haccepted : validateStream stream pipelines resources = .ok ())
    {op : GraphicsOp} (hop : op ∈ stream.ops) :
    ∃ bound, OpValid stream.device pipelines resources bound op := by
  obtain ⟨earlier, later, hsplit⟩ := List.append_of_mem hop
  exact ⟨_, (validateStream_eq_ok_iff stream pipelines resources).mp haccepted
    earlier op later hsplit⟩

end SherGraphics
