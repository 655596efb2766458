import VulkanSceneGraph.Core
import VulkanSceneGraph.OrderedMap
import VulkanSceneGraph.CommandGraph
import VulkanSceneGraph.Window
import VulkanSceneGraph.RenderGraph
import VulkanSceneGraph.Geometry
import VulkanSceneGraph.Array2D
import VulkanSceneGraph.Viewer.Basic
import VulkanSceneGraph.Viewer.Assign
import VulkanSceneGraph.Viewer.Frame
import VulkanSceneGraph.Viewer.Acquire
import VulkanSceneGraph.Viewer.Compile
import VulkanSceneGraph.Viewer.FrameCache
import VulkanSceneGraph.Viewer.FrameStamp
import VulkanSceneGraph.Viewer.Submit
import VulkanSceneGraph.Viewer.Lifecycle
import VulkanSceneGraph.WindowSetup
