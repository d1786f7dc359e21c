/-
The streams that `validate_stream` accepts, by the positions of their
operations, and how accepted streams can be cut, joined and extended.
-/
import SherGraphics.StreamValidation

namespace SherGraphics

section Loop

variable {device : ObjectId} {pipelines : Table ObjectId Pipeline}
  {resources : Table ObjectId Resource}
  {boundPipeline otherPipeline : Option ObjectId}

/-- More bound before an operation does no harm. -/
theorem OpValid.mono {bound later : Prop} {op : GraphicsOp}
    (hvalid : OpValid device pipelines resources bound op)
    (himp : bound → later) : OpValid device pipelines resources later op := by
  cases op with
  | draw vertexCount instanceCount => exact himp hvalid
  | dispatch x y z => exact himp hvalid
  | _ => exact hvalid

/-- A loop that starts with a pipeline bound accepts no less. -/
theorem validateOps_mono {ops : List GraphicsOp}
    (haccepted : validateOps device pipelines resources boundPipeline ops =
      .ok ())
    (hbound : boundPipeline.isSome = true → otherPipeline.isSome = true) :
    validateOps device pipelines resources otherPipeline ops = .ok () := by
  rw [validateOps_eq_ok_iff] at haccepted ⊢
  intro earlier op later hsplit
  exact (haccepted earlier op later hsplit).mono (Or.imp_left hbound)

/-- The loop over a joined list is the loop over its parts. -/
theorem validateOps_append_iff (first later : List GraphicsOp) :
    validateOps device pipelines resources boundPipeline (first ++ later) =
        .ok () ↔
      validateOps device pipelines resources boundPipeline first = .ok () ∧
        validateOps device pipelines resources
          (first.foldl boundAfter boundPipeline) later = .ok () := by
  induction first generalizing boundPipeline with
  | nil => simp [validateOps]
  | cons op rest ih =>
      rw [List.cons_append, validateOps_cons_iff, validateOps_cons_iff, ih,
        List.foldl_cons, and_assoc]

/-- Whatever an accepted list does alone, it does after any other. -/
theorem validateOps_anywhere {ops : List GraphicsOp}
    (haccepted : validateOps device pipelines resources none ops = .ok ()) :
    validateOps device pipelines resources boundPipeline ops = .ok () :=
  validateOps_mono haccepted nofun

theorem validateOps_insert {first later : List GraphicsOp} {op : GraphicsOp}
    (hop : validateOps device pipelines resources none [op] = .ok ())
    (haccepted : validateOps device pipelines resources none
      (first ++ later) = .ok ()) :
    validateOps device pipelines resources none (first ++ op :: later) =
      .ok () := by
  rw [validateOps_append_iff] at haccepted ⊢
  obtain ⟨hfirst, hlater⟩ := haccepted
  have hhere : validateOps device pipelines resources
      (first.foldl boundAfter none) [op] = .ok () := validateOps_anywhere hop
  rw [validateOps_cons_iff] at hhere ⊢
  refine ⟨hfirst, hhere.1, validateOps_mono hlater fun hbound => ?_⟩
  exact (isSome_boundAfter op).mpr (Or.inl hbound)

end Loop

/-! ### By position -/

/-- A pipeline is bound before this position. -/
def BoundBefore (ops : List GraphicsOp) (index : Nat) : Prop :=
  ∃ earlier < index, ∃ pipeline, ops[earlier]? = some (.bindPipeline pipeline)

theorem bindsPipeline_iff (op : GraphicsOp) :
    op.BindsPipeline ↔ ∃ pipeline, op = .bindPipeline pipeline := by
  cases op <;> simp [GraphicsOp.BindsPipeline]

theorem boundBefore_iff (earlier rest : List GraphicsOp) :
    BoundBefore (earlier ++ rest) earlier.length ↔
      ∃ previous ∈ earlier, previous.BindsPipeline := by
  constructor
  · rintro ⟨index, hlt, pipeline, hbinds⟩
    rw [List.getElem?_append_left hlt] at hbinds
    exact ⟨_, List.mem_of_getElem? hbinds,
      (bindsPipeline_iff _).mpr ⟨pipeline, rfl⟩⟩
  · rintro ⟨previous, hmem, hbinds⟩
    obtain ⟨pipeline, rfl⟩ := (bindsPipeline_iff _).mp hbinds
    obtain ⟨index, hlt, hindex⟩ := List.getElem_of_mem hmem
    refine ⟨index, hlt, pipeline, ?_⟩
    rw [List.getElem?_append_left hlt, List.getElem?_eq_getElem hlt, hindex]

/-- Every position of the stream is valid, read off the stream itself. -/
def StreamValid (stream : CommandStream) (pipelines : Table ObjectId Pipeline)
    (resources : Table ObjectId Resource) : Prop :=
  ∀ index op, stream.ops[index]? = some op →
    OpValid stream.device pipelines resources (BoundBefore stream.ops index) op

section Streams

variable {stream : CommandStream} {pipelines : Table ObjectId Pipeline}
  {resources : Table ObjectId Resource}

/-- The loop decides what the positions say. -/
theorem validateStream_eq_ok_iff_valid :
    validateStream stream pipelines resources = .ok () ↔
      StreamValid stream pipelines resources := by
  rw [validateStream_eq_ok_iff]
  constructor
  · intro hall index op hop
    obtain ⟨hlt, hget⟩ := List.getElem?_eq_some_iff.mp hop
    have hsplit : stream.ops =
        stream.ops.take index ++ op :: stream.ops.drop (index + 1) := by
      rw [← hget, List.cons_getElem_drop_succ, List.take_append_drop]
    have hlength : (stream.ops.take index).length = index :=
      List.length_take_of_le hlt.le
    refine (hall _ op _ hsplit).mono fun hbound => ?_
    rw [← boundBefore_iff, ← hsplit, hlength] at hbound
    exact hbound
  · intro hvalid earlier op later hsplit
    have hop : stream.ops[earlier.length]? = some op := by simp [hsplit]
    refine (hvalid earlier.length op hop).mono fun hbound => ?_
    rw [hsplit, boundBefore_iff] at hbound
    exact hbound

/-- `validate_stream` accepts exactly the streams all of whose positions are
valid.  What it accepts can be cut short, joined with another accepted stream
of the device, and extended anywhere by an operation that it accepts alone. -/
theorem validate_stream_decides (pipelines : Table ObjectId Pipeline)
    (resources : Table ObjectId Resource) :
    let accepts := fun stream =>
      validateStream stream pipelines resources = .ok ()
    (∀ stream, accepts stream ↔ StreamValid stream pipelines resources) ∧
      (∀ stream first later, stream.ops = first ++ later → accepts stream →
        accepts { stream with ops := first }) ∧
      (∀ left right : CommandStream, left.device = right.device →
        accepts left → accepts right →
          accepts { left with ops := left.ops ++ right.ops }) ∧
      ∀ stream first later op, stream.ops = first ++ later → accepts stream →
        accepts { stream with ops := [op] } →
          accepts { stream with ops := first ++ op :: later } := by
  refine ⟨fun stream => validateStream_eq_ok_iff_valid, ?_, ?_, ?_⟩
  · intro stream first later hsplit haccepted
    rw [validateStream, hsplit, validateOps_append_iff] at haccepted
    exact haccepted.1
  · intro left right hdevice hleft hright
    rw [validateStream, ← hdevice] at hright
    exact (validateOps_append_iff _ _).mpr
      ⟨hleft, validateOps_anywhere hright⟩
  · intro stream first later op hsplit haccepted hop
    rw [validateStream, hsplit] at haccepted
    exact validateOps_insert hop haccepted

end Streams

end SherGraphics
