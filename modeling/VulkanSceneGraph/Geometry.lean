import VulkanSceneGraph.Core

/-!
# `Geometry::compile` and `Geometry::dispatch`

`compile` uploads the geometry's vertex arrays (and its index array, if any) with
`createBufferAndTransferData` and stores the commands that bind them, followed by the
geometry's own commands, in `_renderImplementation`; `dispatch` records that list. A
geometry that already has a render implementation is not compiled again. The
`createBufferAndTransferData` function is not part of the sources and is a parameter: it
returns no buffers when it fails and one `BufferData` per `Data` otherwise.
-/
namespace VulkanSceneGraph

/-- A `BufferData`: the device its buffer was created for, and the `Data` it holds. -/
structure BufferData where
  device : Nat
  data : Nat
  deriving DecidableEq, Repr

/-- The commands a render implementation holds: the two bind commands `compile` makes, and
`draw` for any command of the geometry's own list (`Draw`, `DrawIndexed`, ...). -/
inductive Command
  | bindVertexBuffers (firstBinding : Nat) (bufferData : List BufferData)
  | bindIndexBuffer (bufferData : BufferData)
  | draw (id : Nat)
  deriving DecidableEq, Repr

/-- The buffers a command binds when it is recorded. -/
def Command.boundBuffers : Command → List BufferData
  | .bindVertexBuffers _ bufferData => bufferData
  | .bindIndexBuffer bufferData => [bufferData]
  | .draw _ => []

/-- The compile `Context`: the device that the compile traversal compiles for. -/
structure Context where
  device : Nat
  deriving DecidableEq, Repr

/-- A `Geometry` node; `Data` objects are named by numbers. -/
structure Geometry where
  arrays : List Nat
  indices : Option Nat
  commands : List Command
  renderImplementation : List Command
  deriving DecidableEq, Repr

namespace Geometry

variable (createBufferAndTransferData : Context → List Nat → List BufferData)

/-- The bind commands `compile` makes, and whether making them failed. With indices, one
buffer list is created for the arrays followed by the indices; the last `BufferData` (there
is one exactly when the list is not empty) is the index buffer's. `BindVertexBuffers::create`
and `BindIndexBuffer::create` always return an object. -/
def bindCommands (context : Context) (g : Geometry) : List Command × Bool :=
  match g.indices with
  | some indices =>
    let bufferData := createBufferAndTransferData context (g.arrays ++ [indices])
    match bufferData.getLast? with
    | some last => ([.bindVertexBuffers 0 (bufferData.take g.arrays.length), .bindIndexBuffer last],
        false)
    | none => ([], true)
  | none =>
    let vertexBufferData := createBufferAndTransferData context g.arrays
    if vertexBufferData.isEmpty then ([], true) else ([.bindVertexBuffers 0 vertexBufferData], false)

/-- `Geometry::compile`. -/
def compile (context : Context) (g : Geometry) : Geometry :=
  if !g.renderImplementation.isEmpty then g
  else
    let (bindings, failure) := bindCommands createBufferAndTransferData context g
    if failure then { g with renderImplementation := [] }
    else { g with renderImplementation := bindings ++ g.commands }

/-- `Geometry::dispatch`: the commands recorded, in order. -/
def dispatch (g : Geometry) : List Command := g.renderImplementation

/-- A geometry compiled once is never compiled again, whatever device the context is for. -/
theorem compile_of_renderImplementation_ne_nil (context : Context) (g : Geometry)
    (h : g.renderImplementation ≠ []) : g.compile createBufferAndTransferData context = g := by
  simp [compile, List.isEmpty_iff, h]

theorem compile_of_renderImplementation_eq_nil (context : Context) (g : Geometry)
    (h : g.renderImplementation = []) :
    g.compile createBufferAndTransferData context =
      if (bindCommands createBufferAndTransferData context g).2 then
        { g with renderImplementation := [] }
      else { g with renderImplementation :=
        (bindCommands createBufferAndTransferData context g).1 ++ g.commands } := by
  simp [compile, h]

/-- Creating no buffers makes no bind commands and fails. -/
theorem bindCommands_of_eq_nil (context : Context) (g : Geometry)
    (h : createBufferAndTransferData context (g.arrays ++ g.indices.toList) = []) :
    bindCommands createBufferAndTransferData context g = ([], true) := by
  unfold bindCommands
  cases hi : g.indices <;> simp_all

/-- Creating one `BufferData` per `Data` binds the arrays' buffers as vertex buffers from
binding 0 and the indices' buffer, if any, as the index buffer. -/
theorem bindCommands_of_ne_nil (context : Context) (g : Geometry)
    (hmap : (createBufferAndTransferData context (g.arrays ++ g.indices.toList)).map
      BufferData.data = g.arrays ++ g.indices.toList)
    (h : createBufferAndTransferData context (g.arrays ++ g.indices.toList) ≠ []) :
    ∃ (vertexBufferData : List BufferData) (indexBufferData : Option BufferData),
      createBufferAndTransferData context (g.arrays ++ g.indices.toList) =
        vertexBufferData ++ indexBufferData.toList ∧
      vertexBufferData.map BufferData.data = g.arrays ∧
      indexBufferData.map BufferData.data = g.indices ∧
      bindCommands createBufferAndTransferData context g =
        (.bindVertexBuffers 0 vertexBufferData :: (indexBufferData.map .bindIndexBuffer).toList,
          false) := by
  unfold bindCommands
  cases hi : g.indices with
  | none =>
    simp only [hi, Option.toList_none, List.append_nil] at hmap h ⊢
    exact ⟨_, none, (List.append_nil _).symm, hmap, rfl, by simp [h]⟩
  | some indices =>
    simp only [hi, Option.toList_some] at hmap h ⊢
    obtain ⟨vertexBufferData, l, he, hv, hl⟩ := List.map_eq_append_iff.1 hmap
    obtain _ | ⟨last, _ | ⟨_, _⟩⟩ := l <;> simp at hl
    refine ⟨vertexBufferData, some last, he, hv, by simp [hl], ?_⟩
    rw [he, List.getLast?_concat, List.take_left' (by rw [← hv, List.length_map])]
    rfl

end Geometry

/-- Compiled for device 0 and then for device 1, a geometry keeps the vertex buffer of
device 0, which `dispatch` binds when recording for device 1. -/
theorem compile_keeps_buffers_of_first_device :
    let create : Context → List Nat → List BufferData := fun context ds =>
      ds.map (⟨context.device, ·⟩)
    let g : Geometry := ⟨[0], none, [.draw 0], []⟩
    ((g.compile create ⟨0⟩).compile create ⟨1⟩).dispatch = [.bindVertexBuffers 0 [⟨0, 0⟩], .draw 0] :=
  rfl

/-- With a `createBufferAndTransferData` that creates no buffer when it fails and one
`BufferData` per `Data` otherwise, `compile` leaves a compiled geometry unchanged. Otherwise
it leaves the render implementation empty when creation fails; when it succeeds, it sets it
to the binding of the arrays' buffers from binding 0, the binding of the indices' buffer if
there are indices, and the geometry's own commands. A later `compile` then changes nothing,
and `dispatch` records that list. -/
theorem compile_all_or_nothing
    (createBufferAndTransferData : Context → List Nat → List BufferData)
    (hcreate : ∀ context dataList, createBufferAndTransferData context dataList = [] ∨
      (createBufferAndTransferData context dataList).map BufferData.data = dataList)
    (context : Context) (g : Geometry) :
    (g.renderImplementation ≠ [] → g.compile createBufferAndTransferData context = g) ∧
    (g.renderImplementation = [] →
      (createBufferAndTransferData context (g.arrays ++ g.indices.toList) = [] →
        g.compile createBufferAndTransferData context = { g with renderImplementation := [] }) ∧
      (createBufferAndTransferData context (g.arrays ++ g.indices.toList) ≠ [] →
        ∃ (vertexBufferData : List BufferData) (indexBufferData : Option BufferData),
          createBufferAndTransferData context (g.arrays ++ g.indices.toList) =
            vertexBufferData ++ indexBufferData.toList ∧
          vertexBufferData.map BufferData.data = g.arrays ∧
          indexBufferData.map BufferData.data = g.indices ∧
          let commands := .bindVertexBuffers 0 vertexBufferData ::
            (indexBufferData.map .bindIndexBuffer).toList ++ g.commands
          g.compile createBufferAndTransferData context =
            { g with renderImplementation := commands } ∧
          ∀ context', (g.compile createBufferAndTransferData context).compile
              createBufferAndTransferData context' = g.compile createBufferAndTransferData context ∧
            (g.compile createBufferAndTransferData context).dispatch = commands)) := by
  refine ⟨Geometry.compile_of_renderImplementation_ne_nil _ context g, fun h => ⟨fun hf => ?_,
    fun hs => ?_⟩⟩
  · simp [Geometry.compile_of_renderImplementation_eq_nil _ context g h,
      Geometry.bindCommands_of_eq_nil _ context g hf]
  · obtain ⟨vertexBufferData, indexBufferData, he, hv, hi, hb⟩ :=
      Geometry.bindCommands_of_ne_nil _ context g ((hcreate _ _).resolve_left hs) hs
    have hc :=
      Geometry.compile_of_renderImplementation_eq_nil createBufferAndTransferData context g h
    rw [hb, if_neg Bool.false_ne_true] at hc
    refine ⟨vertexBufferData, indexBufferData, he, hv, hi, hc, fun context' =>
      ⟨Geometry.compile_of_renderImplementation_ne_nil _ context' _ (by simp [hc]), by
        rw [hc]; rfl⟩⟩

/-- Buffer creation that never fails: one buffer on the context's device per `Data`. -/
def createOnDevice (context : Context) (dataList : List Nat) : List BufferData :=
  dataList.map (⟨context.device, ·⟩)

/-- A geometry with two vertex arrays, an index array and one draw command. -/
def indexedGeometry : Geometry := ⟨[0, 1], some 2, [.draw 0], []⟩

theorem compile_all_or_nothing_indexedGeometry :
    (∀ context dataList, createOnDevice context dataList = [] ∨
      (createOnDevice context dataList).map BufferData.data = dataList) ∧
    (indexedGeometry.renderImplementation ≠ [] →
      indexedGeometry.compile createOnDevice ⟨0⟩ = indexedGeometry) ∧
    (indexedGeometry.renderImplementation = [] →
      (createOnDevice ⟨0⟩ (indexedGeometry.arrays ++ indexedGeometry.indices.toList) = [] →
        indexedGeometry.compile createOnDevice ⟨0⟩ =
          { indexedGeometry with renderImplementation := [] }) ∧
      (createOnDevice ⟨0⟩ (indexedGeometry.arrays ++ indexedGeometry.indices.toList) ≠ [] →
        ∃ (vertexBufferData : List BufferData) (indexBufferData : Option BufferData),
          createOnDevice ⟨0⟩ (indexedGeometry.arrays ++ indexedGeometry.indices.toList) =
            vertexBufferData ++ indexBufferData.toList ∧
          vertexBufferData.map BufferData.data = indexedGeometry.arrays ∧
          indexBufferData.map BufferData.data = indexedGeometry.indices ∧
          let commands := .bindVertexBuffers 0 vertexBufferData ::
            (indexBufferData.map .bindIndexBuffer).toList ++ indexedGeometry.commands
          indexedGeometry.compile createOnDevice ⟨0⟩ =
            { indexedGeometry with renderImplementation := commands } ∧
          ∀ context', (indexedGeometry.compile createOnDevice ⟨0⟩).compile createOnDevice context' =
              indexedGeometry.compile createOnDevice ⟨0⟩ ∧
            (indexedGeometry.compile createOnDevice ⟨0⟩).dispatch = commands)) :=
  have hcreate : ∀ context dataList, createOnDevice context dataList = [] ∨
      (createOnDevice context dataList).map BufferData.data = dataList :=
    fun _ _ => .inr (by simp [createOnDevice, Function.comp_def])
  ⟨hcreate, compile_all_or_nothing createOnDevice hcreate ⟨0⟩ indexedGeometry⟩

end VulkanSceneGraph
