import VulkanSceneGraph.Core

/-!
# Window resize handling in `RenderGraph::accept`

Each record of a render graph compares the window's extent with `previous_extent`. The
first record only stores the extent; a later record that sees a new extent sets the render
area and the camera's scissor to it and traverses the graph with `UpdatePipeline`, which
re-creates every graphics pipeline built with the camera's viewport state. `previous_extent`
starts at `invalid_dimension`, a constant of the `RenderGraph` header that is not part of
the sources and is a parameter here.
-/
namespace VulkanSceneGraph

/-- The part of a `Camera` that `accept` changes: its viewport state, named by a number as
pipeline states are, and that state's scissor extent. -/
structure Camera where
  viewportState : Nat
  scissor : Extent2D
  deriving DecidableEq, Repr

/-- A graphics pipeline as `UpdatePipeline` leaves it: re-created when it was built with the
viewport state. -/
def regeneratePipeline (viewport : Option Nat) (p : GraphicsPipeline) : GraphicsPipeline :=
  if p.pipelineStates.any fun s => some s = viewport then
    { p with generation := p.generation + 1 }
  else p

/-- The traversal of `UpdatePipeline`: `apply(Object&)` traverses every node, `apply(StateGroup&)`
visits the state commands and then the children, and `apply(BindGraphicsPipeline&)`
re-creates the bound pipeline. A `Node` is a tree, so a pipeline bound along two paths of a
shared subgraph, which the source re-creates once per path, is not expressed. -/
def updatePipeline (viewport : Option Nat) : Node → Node
  | .group children => .group (updateChildren children)
  | .stateGroup stateCommands children =>
    .stateGroup (updateChildren stateCommands) (updateChildren children)
  | .other children => .other (updateChildren children)
  | .bindGraphicsPipeline pipeline => .bindGraphicsPipeline (pipeline.map (regeneratePipeline viewport))
  | .executeCommands cmdgraphs => .executeCommands cmdgraphs
  | .command id => .command id
where
  updateChildren : List Node → List Node
    | [] => []
    | n :: ns => updatePipeline viewport n :: updateChildren ns

/-- The fields of a `RenderGraph` that `accept` reads and writes; `renderArea` is its
extent, the offset being always `{0, 0}`. -/
structure RenderGraph where
  window : Option Nat
  camera : Option Camera
  renderArea : Extent2D
  previousExtent : Extent2D
  children : List Node
  deriving Repr

section Accept

variable (invalidDimension : Nat)

/-- The resize branch of `accept`: with a camera, the scissor and the render area take the
new extent; then `UpdatePipeline` traverses the children. -/
def RenderGraph.resized (rg : RenderGraph) (extent : Extent2D) : RenderGraph :=
  let rg := match rg.camera with
    | some c => { rg with camera := some { c with scissor := extent }, renderArea := extent }
    | none => rg
  { rg with children := rg.children.map (updatePipeline (rg.camera.map Camera.viewportState)),
            previousExtent := extent }

/-- The resize handling of `RenderGraph::accept`, given the window's extent at this record.
The source tests the width twice where the height is meant. -/
def RenderGraph.accept (rg : RenderGraph) (extent : Extent2D) : RenderGraph :=
  if rg.window.isNone then rg
  else if rg.previousExtent.width = invalidDimension ∨ rg.previousExtent.width = invalidDimension then
    { rg with previousExtent := extent }
  else if rg.previousExtent.width ≠ extent.width ∨ rg.previousExtent.height ≠ extent.height then
    rg.resized extent
  else rg

/-- Records at successive window extents. -/
def RenderGraph.acceptAll (rg : RenderGraph) (extents : List Extent2D) : RenderGraph :=
  extents.foldl (RenderGraph.accept invalidDimension) rg

@[simp] theorem RenderGraph.acceptAll_cons (rg : RenderGraph) (e : Extent2D) (es : List Extent2D) :
    rg.acceptAll invalidDimension (e :: es) =
      (rg.accept invalidDimension e).acceptAll invalidDimension es := rfl

/-- Once an extent is stored, a record resizes exactly when the window's extent changed. -/
theorem accept_of_previousExtent (rg : RenderGraph) (e : Extent2D) (hw : rg.window.isSome)
    (hv : rg.previousExtent.width ≠ invalidDimension) :
    rg.accept invalidDimension e = if e = rg.previousExtent then rg else rg.resized e := by
  have hne : rg.window.isNone = false := by
    simpa [Option.isNone_iff_eq_none, Option.isSome_iff_ne_none] using hw
  simp only [RenderGraph.accept, hne, hv, or_self, if_false, Bool.false_eq_true]
  by_cases he : e = rg.previousExtent
  · simp [he]
  · rw [if_pos ((Extent2D.ne_iff _ _).1 (Ne.symm he)), if_neg he]

/-- The state a render graph with camera `cam` keeps between records once an extent is
stored: the render area and the scissor equal the stored extent. -/
def RenderGraph.Tracks (rg : RenderGraph) (cam : Camera) : Prop :=
  rg.window.isSome ∧ rg.previousExtent.width ≠ invalidDimension ∧
    rg.renderArea = rg.previousExtent ∧ rg.camera = some ⟨cam.viewportState, rg.previousExtent⟩

theorem RenderGraph.Tracks.accept {rg : RenderGraph} {cam : Camera}
    (h : rg.Tracks invalidDimension cam) (e : Extent2D) (he : e.width ≠ invalidDimension) :
    (rg.accept invalidDimension e).Tracks invalidDimension cam ∧
      rg.accept invalidDimension e =
        if e = rg.renderArea then rg else rg.resized e := by
  obtain ⟨hw, hv, ha, hc⟩ := h
  rw [accept_of_previousExtent invalidDimension rg e hw hv, ha]
  split_ifs with hep
  · exact ⟨⟨hw, hv, ha, hc⟩, rfl⟩
  · refine ⟨⟨?_, ?_, ?_, ?_⟩, rfl⟩ <;> simp [RenderGraph.resized, hc, hw, he]

theorem RenderGraph.Tracks.acceptAll {rg : RenderGraph} {cam : Camera}
    (h : rg.Tracks invalidDimension cam) (es : List Extent2D)
    (hes : ∀ x ∈ es, x.width ≠ invalidDimension) :
    (rg.acceptAll invalidDimension es).Tracks invalidDimension cam := by
  induction es generalizing rg with
  | nil => exact h
  | cons e es ih =>
    exact ih (h.accept invalidDimension e (hes e (List.mem_cons_self _ _))).1
      fun x hx => hes x (List.mem_cons_of_mem _ hx)

end Accept

end VulkanSceneGraph
