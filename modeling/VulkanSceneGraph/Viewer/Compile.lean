import VulkanSceneGraph.Viewer.Frame

/-!
# The passes of `Viewer::compile`

`compileCalls` lists the calls `Viewer::compile` makes, in order: the statistics visitor of
each task graph's device; one `CompileTraversal` per device of `deviceResourceMap`; for each
task graph its `_maxSlot`, the compile context of a secondary's primary, and its compile; then
every device's dispatch and wait, and the database pagers' start. `maxSlot_compile` ties it to
`Viewer.compile`, the function the viewer's runs use.
-/
namespace VulkanSceneGraph

/-- What a device's `CollectDescriptorStats` reports about the command graphs it visited.
The visitor is not part of the sources: `slots g` is the largest slot it finds in graph `g`,
and `numDescriptorSets` and `descriptorPoolSizes` are its `computeNumDescriptorSets` and
`computeDescriptorPoolSizes`, as functions of the graphs it visited. -/
structure CollectDescriptorStats where
  slots : Nat → Nat
  numDescriptorSets : List Nat → Nat
  descriptorPoolSizes : List Nat → List (Nat × Nat)

/-- A `DescriptorPool` as `DescriptorPool::create(device, maxSets, descriptorPoolSizes)`
makes it. -/
structure DescriptorPool where
  maxSets : Nat
  descriptorPoolSizes : List (Nat × Nat)
  deriving DecidableEq, Repr

namespace CollectDescriptorStats

variable (collect : CollectDescriptorStats)

/-- `collectStats.maxSlot` once the visitor has visited `graphs`. -/
def maxSlot (graphs : List Nat) : Nat :=
  graphs.foldl (fun maxSlot g => max maxSlot (collect.slots g)) 0

/-- The `DescriptorPool` of a device whose visitor visited `graphs`: one is made only when
the statistics hold pool sizes. -/
def descriptorPool (graphs : List Nat) : Option DescriptorPool :=
  if (collect.descriptorPoolSizes graphs).isEmpty then none
  else some ⟨collect.numDescriptorSets graphs, collect.descriptorPoolSizes graphs⟩

end CollectDescriptorStats

/-- The calls `Viewer::compile` makes: a command graph visited by the statistics visitor of
a device, a `CompileTraversal` created for a device, a graph's `_maxSlot` set, a device's
compile context given the render pass, viewport state and extent of the render graph under
`primary`, a graph compiled by a device's traversal, a database pager given a device's
traversal, a device's context dispatching or waiting for its transfers, and a database pager
started. -/
inductive CompileCall
  | collectStats (graph device : Nat)
  | createCompileTraversal (device : Nat) (descriptorPool : Option DescriptorPool)
  | setMaxSlot (graph maxSlot : Nat)
  | setContext (device primary : Nat)
  | compile (graph device : Nat)
  | assignPager (databasePager device : Nat)
  | dispatch (device : Nat)
  | waitForCompletion (device : Nat)
  | startPager (databasePager : Nat)
  deriving DecidableEq, Repr

namespace Viewer

/-- `deviceResourceMap` after the first pass of `compile`: for each device, the command
graphs its `CollectDescriptorStats` visited, in order. -/
def deviceResourceMap (v : Viewer) : OrderedMap Nat (List Nat) :=
  v.taskCommandGraphs.foldl
    (fun m g => OrderedMap.update natLt (v.graph g).device [] (· ++ [g]) m) []

/-- `deviceResourceMap[device]`: the graphs the device's statistics visitor visited. -/
def deviceStats (v : Viewer) (device : Nat) : List Nat :=
  (OrderedMap.find? device v.deviceResourceMap).getD []

/-- The calls for command graph `g` in the third pass of `compile`: its `_maxSlot` set to
its device's `maxSlot`; for a secondary, its device's compile context set from the render
graph of its `_primary`; and its compile by its device's traversal. -/
def graphCompileCalls (v : Viewer) (collect : CollectDescriptorStats) (g : Nat) :
    List CompileCall :=
  .setMaxSlot g (collect.maxSlot (v.deviceStats (v.graph g).device)) ::
    ((v.graph g).primary.map (.setContext (v.graph g).device)).toList ++
    [.compile g (v.graph g).device]

/-- The third pass of `compile` ("create the Vulkan objects"): for each task, the calls of
each of its command graphs, and the task's database pager takes the traversal of the device
of its first graph. -/
def compileTasks (v : Viewer) (collect : CollectDescriptorStats) : List CompileCall :=
  v.recordAndSubmitTasks.flatMap fun task =>
    task.commandGraphs.flatMap (v.graphCompileCalls collect) ++
    match task.databasePager, task.commandGraphs with
    | some databasePager, g :: _ => [.assignPager databasePager (v.graph g).device]
    | _, _ => []

/-- `Viewer::compile`, as the calls it makes. -/
def compileCalls (v : Viewer) (collect : CollectDescriptorStats) : List CompileCall :=
  if v.recordAndSubmitTasks.isEmpty then []
  else
    v.taskCommandGraphs.map (fun g => .collectStats g (v.graph g).device) ++
    v.deviceResourceMap.map (fun e => .createCompileTraversal e.1 (collect.descriptorPool e.2)) ++
    v.compileTasks collect ++
    v.deviceResourceMap.map (.dispatch ·.1) ++
    v.deviceResourceMap.map (.waitForCompletion ·.1) ++
    v.recordAndSubmitTasks.filterMap (·.databasePager.map .startPager)

/-! ### The device map of the first pass -/

/-- Visiting `gs` keeps the device map sorted, adds the devices of `gs`, and appends to each
device's entry the graphs of `gs` on that device, in order. -/
theorem foldl_update_graphs (device : Nat → Nat) (gs : List Nat)
    (m : OrderedMap Nat (List Nat)) (hs : OrderedMap.Sorted natLt m) :
    let m' := gs.foldl (fun m g => OrderedMap.update natLt (device g) [] (· ++ [g]) m) m
    OrderedMap.Sorted natLt m' ∧
      (∀ d, d ∈ OrderedMap.keys m' ↔ d ∈ OrderedMap.keys m ∨ ∃ g ∈ gs, device g = d) ∧
      ∀ d, (OrderedMap.find? d m').getD [] =
        (OrderedMap.find? d m).getD [] ++ gs.filter fun g => device g = d := by
  induction gs generalizing m with
  | nil => exact ⟨hs, by simp, by simp⟩
  | cons g gs ih =>
    obtain ⟨hs', hk, hf⟩ := ih _ (OrderedMap.sorted_update natLt_strictOrder hs)
    refine ⟨hs', fun d => ?_, fun d => ?_⟩
    · rw [List.foldl_cons, hk, OrderedMap.mem_keys_update natLt_strictOrder]
      simp only [List.mem_cons, exists_eq_or_imp, eq_comm (a := d)]
      exact or_assoc.trans or_left_comm
    · rw [List.foldl_cons, hf]
      rcases eq_or_ne d (device g) with rfl | hne
      · simp [OrderedMap.find?_update_self natLt_strictOrder hs]
      · simp [OrderedMap.find?_update_ne natLt_strictOrder hne, Ne.symm hne]

theorem deviceResourceMap_spec (v : Viewer) :
    OrderedMap.Sorted natLt v.deviceResourceMap ∧
      (∀ d, d ∈ OrderedMap.keys v.deviceResourceMap ↔
        ∃ g ∈ v.taskCommandGraphs, (v.graph g).device = d) ∧
      ∀ d, v.deviceStats d = v.taskCommandGraphs.filter fun g => (v.graph g).device = d := by
  obtain ⟨hs, hk, hf⟩ := foldl_update_graphs (fun g => (v.graph g).device) v.taskCommandGraphs
    [] List.Pairwise.nil
  exact ⟨hs, fun d => by simpa using hk d, fun d => by simpa using hf d⟩

/-- Each entry of the device map holds the graphs of its device. -/
theorem deviceStats_of_mem (v : Viewer) {e : Nat × List Nat} (he : e ∈ v.deviceResourceMap) :
    e.2 = v.deviceStats e.1 := by
  rw [deviceStats, OrderedMap.find?_of_mem
    ((deviceResourceMap_spec v).1.nodup natLt_strictOrder) he]
  rfl

/-- The `maxSlot` the third pass gives a graph is the one `Viewer.compile` gives it. -/
theorem maxSlot_deviceStats (v : Viewer) (collect : CollectDescriptorStats) (device : Nat) :
    collect.maxSlot (v.deviceStats device) = v.collectedMaxSlot collect.slots device := by
  rw [(deviceResourceMap_spec v).2.2]
  rfl

/-! ### `Viewer.compile` sets the `maxSlot` of the calls -/

theorem foldl_setMaxSlot_maxSlot (f : Nat → Nat) (gs : List Nat) (s : GraphState) (g : Nat) :
    ((gs.foldl (fun s g => s.setMaxSlot g (f g)) s).graphs g).maxSlot =
      if g ∈ gs then f g else (s.graphs g).maxSlot := by
  induction gs generalizing s with
  | nil => simp
  | cons g' gs ih =>
    rw [List.foldl_cons, ih]
    by_cases hg : g ∈ gs
    · simp [hg]
    · rcases eq_or_ne g g' with rfl | hne
      · simp [GraphState.setMaxSlot]
      · simp [hg, hne, GraphState.setMaxSlot, Function.update_noteq hne]

/-- `Viewer.compile` leaves every command graph of a task with the `maxSlot` of its
`setMaxSlot` call in `compileCalls`, and every other graph as it was. -/
theorem maxSlot_compile (v : Viewer) (collect : CollectDescriptorStats) (g : Nat) :
    ((v.compile collect.slots).graph g).maxSlot =
      if g ∈ v.taskCommandGraphs then collect.maxSlot (v.deviceStats (v.graph g).device)
      else (v.graph g).maxSlot := by
  rw [maxSlot_deviceStats]
  unfold compile
  split_ifs with he hg hg
  · simp [taskCommandGraphs, List.isEmpty_iff.1 he] at hg
  · rfl
  · exact foldl_setMaxSlot_maxSlot _ _ _ g ▸ if_pos hg
  · exact foldl_setMaxSlot_maxSlot _ _ _ g ▸ if_neg hg

/-! ### The third pass -/

theorem infix_flatMap_of_mem {α β : Type} {l : List α} (f : α → List β) {a : α} (h : a ∈ l) :
    f a <:+: l.flatMap f :=
  List.infix_of_mem_flatten (List.mem_map_of_mem f h)

/-- Each command graph of a task gets its device's `maxSlot`, then its primary's context
if it is a secondary, and is then compiled by its device's traversal. -/
theorem infix_compileTasks (v : Viewer) (collect : CollectDescriptorStats)
    {task : RecordAndSubmitTask} (htask : task ∈ v.recordAndSubmitTasks) {g : Nat}
    (hg : g ∈ task.commandGraphs) :
    .setMaxSlot g (v.collectedMaxSlot collect.slots (v.graph g).device) ::
      ((v.graph g).primary.map (.setContext (v.graph g).device)).toList ++
      [.compile g (v.graph g).device] <:+: v.compileTasks collect := by
  rw [← maxSlot_deviceStats, compileTasks]
  refine List.IsInfix.trans ?_ (infix_flatMap_of_mem _ htask)
  exact (infix_flatMap_of_mem (v.graphCompileCalls collect) hg).trans
    (List.prefix_append _ _).isInfix

/-- The third pass makes only `maxSlot` settings, compile contexts set from a graph's
primary, and compiles of task graphs, each for the graph's own device, and database pager
assignments. -/
theorem mem_compileTasks (v : Viewer) (collect : CollectDescriptorStats) {c : CompileCall}
    (hc : c ∈ v.compileTasks collect) :
    (∃ g ∈ v.taskCommandGraphs,
        c = .setMaxSlot g (v.collectedMaxSlot collect.slots (v.graph g).device) ∨
        (∃ primary, (v.graph g).primary = some primary ∧
          c = .setContext (v.graph g).device primary) ∨
        c = .compile g (v.graph g).device) ∨
      ∃ databasePager device, c = .assignPager databasePager device := by
  obtain ⟨task, htask, hc⟩ := List.mem_flatMap.1 hc
  rcases List.mem_append.1 hc with hc | hc
  · obtain ⟨g, hg, hc⟩ := List.mem_flatMap.1 hc
    refine .inl ⟨g, List.mem_flatMap.2 ⟨task, htask, hg⟩, ?_⟩
    simp only [graphCompileCalls, maxSlot_deviceStats, List.cons_append, List.mem_cons,
      List.mem_append, List.not_mem_nil, or_false] at hc
    rcases hc with hc | hc | hc
    · exact .inl hc
    · cases hp : (v.graph g).primary <;> simp [hp] at hc
      exact .inr (.inl ⟨_, rfl, hc⟩)
    · exact .inr (.inr hc)
  · right
    split at hc
    · exact ⟨_, _, List.mem_singleton.1 hc⟩
    · exact absurd hc (List.not_mem_nil _)

end Viewer

/-- For any tasks, `Viewer::compile` first has every command graph of every task visited by
its device's statistics visitor. Only then does it create one `CompileTraversal` for each
distinct device, with a `DescriptorPool` sized from the statistics of all the graphs on the
device when they hold pool sizes. Then, task by task, it sets each graph's `_maxSlot` to its
device's collected `maxSlot`, gives a secondary's device context its primary's render pass and
viewport, and compiles the graph with its device's traversal; only after that does it
dispatch, and then wait, on every device. So every graph is compiled against a pool whose
statistics include it, and `Viewer.compile` leaves each task graph with that `_maxSlot`. -/
theorem compile_collects_stats_before_compiling (v : Viewer)
    (collect : CollectDescriptorStats) :
    ∃ (devices : List Nat) (compiles : List CompileCall),
      devices.Nodup ∧ (∀ d, d ∈ devices ↔ ∃ g ∈ v.taskCommandGraphs, (v.graph g).device = d) ∧
      v.compileCalls collect =
        v.taskCommandGraphs.map (fun g => .collectStats g (v.graph g).device) ++
        devices.map (fun d => .createCompileTraversal d
          (collect.descriptorPool (v.taskCommandGraphs.filter fun g => (v.graph g).device = d))) ++
        compiles ++ devices.map .dispatch ++ devices.map .waitForCompletion ++
        v.recordAndSubmitTasks.filterMap (·.databasePager.map .startPager) ∧
      (∀ task ∈ v.recordAndSubmitTasks, ∀ g ∈ task.commandGraphs,
        .setMaxSlot g (v.collectedMaxSlot collect.slots (v.graph g).device) ::
          ((v.graph g).primary.map (.setContext (v.graph g).device)).toList ++
          [.compile g (v.graph g).device] <:+: compiles) ∧
      (∀ c ∈ compiles, (∃ g ∈ v.taskCommandGraphs,
          c = .setMaxSlot g (v.collectedMaxSlot collect.slots (v.graph g).device) ∨
          (∃ primary, (v.graph g).primary = some primary ∧
            c = .setContext (v.graph g).device primary) ∨
          c = .compile g (v.graph g).device) ∨
        ∃ databasePager device, c = .assignPager databasePager device) ∧
      (∀ g device, .compile g device ∈ compiles →
        g ∈ v.taskCommandGraphs.filter fun g => (v.graph g).device = device) ∧
      ∀ g, ((v.compile collect.slots).graph g).maxSlot =
        if g ∈ v.taskCommandGraphs then v.collectedMaxSlot collect.slots (v.graph g).device
        else (v.graph g).maxSlot := by
  obtain ⟨hs, hk, hf⟩ := Viewer.deviceResourceMap_spec v
  refine ⟨OrderedMap.keys v.deviceResourceMap, v.compileTasks collect,
    hs.nodup natLt_strictOrder, hk, ?_, fun _ => Viewer.infix_compileTasks v collect,
    fun _ => Viewer.mem_compileTasks v collect, fun g device hc => ?_, fun g => ?_⟩
  · unfold Viewer.compileCalls
    split_ifs with he
    · simp [Viewer.deviceResourceMap, Viewer.taskCommandGraphs, Viewer.compileTasks,
        List.isEmpty_iff.1 he]
    · have hc : v.deviceResourceMap.map (fun e => CompileCall.createCompileTraversal e.1
            (collect.descriptorPool e.2)) =
          (OrderedMap.keys v.deviceResourceMap).map fun d => .createCompileTraversal d
            (collect.descriptorPool
              (v.taskCommandGraphs.filter fun g => (v.graph g).device = d)) := by
        rw [OrderedMap.keys, List.map_map]
        exact List.map_congr_left fun e he => by
          simp [Viewer.deviceStats_of_mem v he, hf]
      simp [hc, OrderedMap.keys, Function.comp_def]
  · rcases Viewer.mem_compileTasks v collect hc with
      ⟨g', hg', hc' | ⟨_, -, hc'⟩ | hc'⟩ | ⟨_, _, hc'⟩ <;> cases hc'
    exact List.mem_filter.2 ⟨hg', by simp⟩
  · rw [Viewer.maxSlot_compile, Viewer.maxSlot_deviceStats]

end VulkanSceneGraph
