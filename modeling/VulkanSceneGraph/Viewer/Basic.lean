import VulkanSceneGraph.OrderedMap
import VulkanSceneGraph.CommandGraph
import VulkanSceneGraph.Window

/-!
# The state of a `Viewer`

The viewer holds its windows (`_windows` names them; the window objects are shared with the
application), the per-device objects of `_deviceMap`, the current `FrameStamp` and the
events of the frame, the record-and-submit tasks and presentations, and the command graphs
with the command buffers they pool.
-/
namespace VulkanSceneGraph

structure FrameStamp where
  time : Nat
  frameCount : Nat
  deriving DecidableEq, Repr

/-- The events the viewer keeps: those the windows report, and the `FrameEvent` of each new
frame. -/
inductive Event
  | window (id : Nat)
  | frame (frameStamp : FrameStamp)
  deriving DecidableEq, Repr

/-- `Viewer::PerDeviceObjects`; a default-constructed one holds null handles and empty lists. -/
structure PerDeviceObjects where
  renderFinishedSemaphore : Option Nat := none
  graphicsQueue : Option Queue := none
  presentQueue : Option Queue := none
  signalSemaphores : List Nat := []
  windows : List Nat := []
  imageIndices : List Nat := []
  commandBuffers : List Nat := []
  swapchains : List (Option Nat) := []
  deriving DecidableEq, Repr

/-- The calls on windows, queues and devices that the viewer makes while it acquires a frame,
and when it finds itself inactive, in the order it makes them. -/
inductive Call
  | acquireNextImage (window : Nat)
  | waitIdle (queue : Option Queue)
  | resize (window : Nat)
  | deviceWaitIdle (device : Nat)
  deriving DecidableEq, Repr

structure RecordAndSubmitTask where
  commandGraphs : List Nat
  signalSemaphores : List Nat
  databasePager : Option Nat
  windows : List Nat
  queue : Queue
  deriving DecidableEq, Repr

structure Presentation where
  waitSemaphores : List Nat
  windows : List Nat
  queue : Queue
  deriving DecidableEq, Repr

structure Viewer where
  windowStore : Nat → Window
  windows : List Nat
  deviceMap : OrderedMap Nat PerDeviceObjects
  frameStamp : Option FrameStamp
  events : List Event
  close : Bool
  recordAndSubmitTasks : List RecordAndSubmitTask
  presentations : List Presentation
  graphState : GraphState
  /-- Number of semaphores the viewer has created; the next one is named by it. -/
  nextSemaphore : Nat
  /-- The calls made so far (not a member of the source's `Viewer`). -/
  calls : List Call

namespace Viewer

/-- `Viewer::Viewer()`, over the windows and command graphs the application made. -/
def create (windowStore : Nat → Window) (graphState : GraphState) : Viewer where
  windowStore := windowStore
  windows := []
  deviceMap := []
  frameStamp := none
  events := []
  close := false
  recordAndSubmitTasks := []
  presentations := []
  graphState := graphState
  nextSemaphore := 0
  calls := []

/-- The command graph named `g`. -/
def graph (v : Viewer) (g : Nat) : CommandGraph := v.graphState.graphs g

/-- `commandGraph->_primary = primary`. -/
def setPrimary (v : Viewer) (g primary : Nat) : Viewer :=
  { v with graphState := v.graphState.setGraph g { v.graph g with primary := some primary } rfl }

@[simp] theorem graph_setPrimary (v : Viewer) (g primary g' : Nat) :
    (v.setPrimary g primary).graph g' =
      if g' = g then { v.graph g with primary := some primary } else v.graph g' := by
  simp [setPrimary, graph, Function.update_apply]

end Viewer

end VulkanSceneGraph
