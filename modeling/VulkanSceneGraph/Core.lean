import Mathlib.Tactic

/-!
# Vulkan handles and the scene graph

The values the viewer passes to and receives from the Vulkan driver, and the scene-graph
nodes that its two visitors (`UpdatePipeline` of `RenderGraph.cpp` and
`CollectSecondaryCommandGraph` of `Viewer.cpp`) walk. Objects the viewer shares by
`ref_ptr` (devices, windows, command graphs, command buffers, semaphores) are named by a
number; the state that owns them keeps one table of them.
-/
namespace VulkanSceneGraph

/-- The `VkResult` codes that `Window::acquireNextImage` can return. -/
inductive VkResult
  | success
  | notReady
  | timeout
  | suboptimal
  | errorOutOfDate
  | errorSurfaceLost
  | errorDeviceLost
  deriving DecidableEq, Repr

/-- `VkExtent2D`. -/
structure Extent2D where
  width : Nat
  height : Nat
  deriving DecidableEq, Repr

theorem Extent2D.ne_iff (a b : Extent2D) :
    a ≠ b ↔ a.width ≠ b.width ∨ a.height ≠ b.height := by
  cases a; cases b; simp only [ne_eq, Extent2D.mk.injEq, not_and_or]

/-- A queue as `Device::getQueue(family)` hands it out: one per device and family. -/
structure Queue where
  device : Nat
  family : Int
  deriving DecidableEq, Repr

def getQueue (device : Nat) (family : Int) : Queue := ⟨device, family⟩

/-- A `GraphicsPipeline`: the ids of the pipeline states it was built from, and how many
times `UpdatePipeline` has re-created it. -/
structure GraphicsPipeline where
  pipelineStates : List Nat
  generation : Nat
  deriving DecidableEq, Repr

/-- The scene-graph nodes the viewer's visitors distinguish. `group` stands for `Group` and
the classes deriving from it (`RenderGraph`, `CommandGraph`, ...), which a `ConstVisitor`
sends to `apply(const Group&)`; `other` is a node outside that hierarchy whose
`traverse` still visits children (a `LOD`, say). -/
inductive Node
  | group (children : List Node)
  | stateGroup (stateCommands : List Node) (children : List Node)
  | other (children : List Node)
  | bindGraphicsPipeline (pipeline : Option GraphicsPipeline)
  | executeCommands (cmdgraphs : List Nat)
  | command (id : Nat)
  deriving Repr

end VulkanSceneGraph
