import VulkanSceneGraph.Viewer.Frame

/-!
# The frame cache of `_deviceMap`

`addWindow` files each window under its device, with an image index, a command buffer and
the swapchain the window has then; `acquireNextFrame` refills all of them once it has resized
a window. So in every state a run of the viewer's calls reaches, the cache describes the
windows as they are: `_deviceMap` holds one entry per device of `_windows`, each entry lists
the windows on its device in the order they were added, with one image index, one command
buffer and the current swapchain each. This needs windows that have a swapchain when the
viewer first sees them (platform windows build one when created): `acquireNextImage` would
otherwise build one outside a resize, and the cache would keep the missing one.
-/
namespace VulkanSceneGraph

namespace PerDeviceObjects

@[simp] theorem setUp_windows (device : Nat) (queueFamily : Int × Int) (s : Nat)
    (pdo : PerDeviceObjects) : (pdo.setUp device queueFamily s).windows = pdo.windows := rfl
@[simp] theorem setUp_imageIndices (device : Nat) (queueFamily : Int × Int) (s : Nat)
    (pdo : PerDeviceObjects) : (pdo.setUp device queueFamily s).imageIndices = pdo.imageIndices := rfl
@[simp] theorem setUp_commandBuffers (device : Nat) (queueFamily : Int × Int) (s : Nat)
    (pdo : PerDeviceObjects) :
    (pdo.setUp device queueFamily s).commandBuffers = pdo.commandBuffers := rfl
@[simp] theorem setUp_swapchains (device : Nat) (queueFamily : Int × Int) (s : Nat)
    (pdo : PerDeviceObjects) : (pdo.setUp device queueFamily s).swapchains = pdo.swapchains := rfl

end PerDeviceObjects

namespace Viewer

/-- What the entry `pdo` of device `d` caches in viewer `v`: the windows of `_windows` on
`d`, in order, with one image index, one command buffer and the current swapchain each. -/
structure CachesDevice (v : Viewer) (d : Nat) (pdo : PerDeviceObjects) : Prop where
  windows : pdo.windows = v.windows.filter fun w => (v.windowStore w).device = d
  imageIndices : pdo.imageIndices.length = pdo.windows.length
  commandBuffers : pdo.commandBuffers.length = pdo.windows.length
  swapchains : pdo.swapchains = pdo.windows.map fun w => (v.windowStore w).swapchain

/-- `_deviceMap` is sorted by device, holds exactly the devices of `_windows`, and caches
each of them. -/
structure FrameCacheValid (v : Viewer) : Prop where
  sorted : OrderedMap.Sorted natLt v.deviceMap
  keys : ∀ d, d ∈ OrderedMap.keys v.deviceMap ↔ ∃ w ∈ v.windows, (v.windowStore w).device = d
  cache : ∀ d pdo, OrderedMap.find? d v.deviceMap = some pdo → v.CachesDevice d pdo

/-- Every window has a swapchain. -/
def Built (v : Viewer) : Prop := ∀ w, (v.windowStore w).swapchain.isSome

/-- `v'` has the windows and `_deviceMap` of `v`, and each window is on the device it was. -/
structure SameDevices (v v' : Viewer) : Prop where
  deviceMap : v'.deviceMap = v.deviceMap
  windows : v'.windows = v.windows
  device : ∀ w, (v'.windowStore w).device = (v.windowStore w).device

theorem SameDevices.filter_eq {v v' : Viewer} (h : SameDevices v v') (d : Nat) :
    (v'.windows.filter fun w => (v'.windowStore w).device = d) =
      v.windows.filter fun w => (v.windowStore w).device = d := by
  simp only [h.windows, h.device]

/-! ### The calls that keep windows and devices -/

/-- With the same windows, devices and swapchains, the cache stays valid. -/
theorem FrameCacheValid.of_sameDevices {v v' : Viewer} (h : v.FrameCacheValid)
    (hv : SameDevices v v') (hs : ∀ w, (v'.windowStore w).swapchain = (v.windowStore w).swapchain) :
    v'.FrameCacheValid where
  sorted := hv.deviceMap ▸ h.sorted
  keys d := by rw [hv.deviceMap, hv.windows, h.keys]; simp only [hv.device]
  cache d pdo hp := by
    have hc := h.cache d pdo (hv.deviceMap ▸ hp)
    exact ⟨hc.windows.trans (hv.filter_eq d).symm, hc.imageIndices, hc.commandBuffers,
      by simp only [hs, hc.swapchains]⟩

/-- A call that changes none of the windows, `_windows` and `_deviceMap` keeps the cache
valid. -/
theorem FrameCacheValid.congr {v v' : Viewer} (h : v.FrameCacheValid)
    (hm : v'.deviceMap = v.deviceMap) (hw : v'.windows = v.windows)
    (hs : v'.windowStore = v.windowStore) : v'.FrameCacheValid :=
  h.of_sameDevices ⟨hm, hw, fun w => by rw [hs]⟩ fun w => by rw [hs]

/-- `reassignFrameCache` makes the cache valid again, whatever the swapchains became. -/
theorem frameCacheValid_reassignFrameCache {v v' : Viewer} (h : v.FrameCacheValid)
    (hv : SameDevices v v') : v'.reassignFrameCache.FrameCacheValid where
  sorted := by simpa [reassignFrameCache, hv.deviceMap] using h.sorted
  keys d := by simpa [reassignFrameCache, hv.deviceMap, hv.windows, hv.device] using h.keys d
  cache d pdo hp := by
    simp only [reassignFrameCache, OrderedMap.find?_mapValues, hv.deviceMap,
      Option.map_eq_some'] at hp
    obtain ⟨pdo₀, hp₀, rfl⟩ := hp
    exact ⟨(h.cache d pdo₀ hp₀).windows.trans (hv.filter_eq d).symm, by simp, by simp, rfl⟩

/-! ### `addWindow` -/

@[simp] theorem addWindow_windows (v : Viewer) (window : Nat) :
    (v.addWindow window).windows = v.windows ++ [window] := by
  simp only [addWindow, apply_ite Viewer.windows, ite_self]

@[simp] theorem addWindow_windowStore (v : Viewer) (window : Nat) :
    (v.addWindow window).windowStore = v.windowStore := by
  simp only [addWindow, apply_ite Viewer.windowStore, ite_self]

theorem addWindow_deviceMap (v : Viewer) (window : Nat) :
    let w := v.windowStore window
    (v.addWindow window).deviceMap = OrderedMap.update natLt w.device {}
      (PerDeviceObjects.addWindow window w.swapchain)
      (if (OrderedMap.find? w.device v.deviceMap).isNone then
        OrderedMap.update natLt w.device {}
          (PerDeviceObjects.setUp w.device w.queueFamily v.nextSemaphore) v.deviceMap
      else v.deviceMap) := by
  simp only [addWindow, apply_ite Viewer.deviceMap, apply_ite Viewer.nextSemaphore]

/-- The windows on a device that `v` has no entry for: none. -/
theorem FrameCacheValid.filter_eq_nil {v : Viewer} (h : v.FrameCacheValid) {d : Nat}
    (hd : OrderedMap.find? d v.deviceMap = none) :
    (v.windows.filter fun w => (v.windowStore w).device = d) = [] := by
  rw [List.filter_eq_nil_iff]
  intro w hw hwd
  have : d ∈ OrderedMap.keys v.deviceMap := (h.keys d).2 ⟨w, hw, of_decide_eq_true hwd⟩
  simp [← OrderedMap.isSome_find?_iff, hd] at this

/-- The entry of the new window's device after the "set up per device settings" block:
sorted, with the device's entry caching the device as `v` has it. -/
theorem FrameCacheValid.setUp {v : Viewer} (h : v.FrameCacheValid) (window : Nat) :
    let w := v.windowStore window
    let m := if (OrderedMap.find? w.device v.deviceMap).isNone then
        OrderedMap.update natLt w.device {}
          (PerDeviceObjects.setUp w.device w.queueFamily v.nextSemaphore) v.deviceMap
      else v.deviceMap
    OrderedMap.Sorted natLt m ∧
      (∀ d, d ∈ OrderedMap.keys m ↔ d = w.device ∨ d ∈ OrderedMap.keys v.deviceMap) ∧
      (∀ d, d ≠ w.device → OrderedMap.find? d m = OrderedMap.find? d v.deviceMap) ∧
      v.CachesDevice w.device ((OrderedMap.find? w.device m).getD {}) := by
  intro w m
  have ho := natLt_strictOrder
  cases hf : OrderedMap.find? w.device v.deviceMap with
  | none =>
    have hm : m = OrderedMap.update natLt w.device {}
        (PerDeviceObjects.setUp w.device w.queueFamily v.nextSemaphore) v.deviceMap := by
      simp [m, hf]
    rw [hm, OrderedMap.find?_update_self ho h.sorted, hf]
    refine ⟨OrderedMap.sorted_update ho h.sorted, fun d => OrderedMap.mem_keys_update ho,
      fun d hd => OrderedMap.find?_update_ne ho hd, ⟨?_, rfl, rfl, rfl⟩⟩
    exact (h.filter_eq_nil hf).symm
  | some pdo =>
    have hm : m = v.deviceMap := by simp [m, hf]
    have hk : w.device ∈ OrderedMap.keys v.deviceMap := by
      simp [← OrderedMap.isSome_find?_iff, hf]
    rw [hm, hf]
    exact ⟨h.sorted, fun d => ⟨.inr, fun hd => hd.elim (· ▸ hk) id⟩, fun _ _ => rfl,
      h.cache _ pdo hf⟩

/-- The "add per window details to pdo" block caches the new window on its device. -/
theorem CachesDevice.addWindow {v : Viewer} {pdo : PerDeviceObjects} (window : Nat)
    (h : v.CachesDevice (v.windowStore window).device pdo) :
    (v.addWindow window).CachesDevice (v.windowStore window).device
      (pdo.addWindow window (v.windowStore window).swapchain) where
  windows := by simp [PerDeviceObjects.addWindow, h.windows, List.filter_append]
  imageIndices := by simp [PerDeviceObjects.addWindow, h.imageIndices]
  commandBuffers := by simp [PerDeviceObjects.addWindow, h.commandBuffers]
  swapchains := by simp [PerDeviceObjects.addWindow, h.swapchains]

/-- Another device's entry stays cached when a window is added. -/
theorem CachesDevice.addWindow_of_ne {v : Viewer} {d : Nat} {pdo : PerDeviceObjects}
    (window : Nat) (hd : d ≠ (v.windowStore window).device) (h : v.CachesDevice d pdo) :
    (v.addWindow window).CachesDevice d pdo :=
  ⟨by simp [h.windows, List.filter_append, Ne.symm hd], h.imageIndices, h.commandBuffers,
    by simp [h.swapchains]⟩

theorem frameCacheValid_addWindow {v : Viewer} (h : v.FrameCacheValid) (window : Nat) :
    (v.addWindow window).FrameCacheValid := by
  have ho := natLt_strictOrder
  obtain ⟨hs, hk, hne, hc⟩ := h.setUp window
  refine ⟨?_, fun d => ?_, fun d pdo hp => ?_⟩
  · rw [addWindow_deviceMap]; exact OrderedMap.sorted_update ho hs
  · rw [addWindow_deviceMap, OrderedMap.mem_keys_update ho, hk, h.keys]
    simp only [addWindow_windows, addWindow_windowStore, List.mem_append, List.mem_singleton,
      or_and_right, exists_or, exists_eq_left, @eq_comm _ d]
    constructor
    · rintro (hd | hd | hd)
      exacts [.inr hd, .inr hd, .inl hd]
    · rintro (hd | hd)
      exacts [.inr (.inr hd), .inl hd]
  · rw [addWindow_deviceMap] at hp
    rcases eq_or_ne d (v.windowStore window).device with rfl | hd
    · rw [OrderedMap.find?_update_self ho hs, Option.some.injEq] at hp
      exact hp ▸ hc.addWindow window
    · rw [OrderedMap.find?_update_ne ho hd, hne d hd] at hp
      exact CachesDevice.addWindow_of_ne window hd (h.cache d pdo hp)

/-! ### `acquireNextFrame` and the calls built on it -/

theorem frameCacheValid_acquireNextFrame {v : Viewer} (h : v.FrameCacheValid) (hb : v.Built)
    (answer : Nat → Acquired) :
    (v.acquireNextFrame answer).2.FrameCacheValid ∧ (v.acquireNextFrame answer).2.Built := by
  unfold acquireNextFrame
  split
  · exact ⟨h, hb⟩
  · have hk := AcquireLoop.keeps_acquireWindows answer v.presentQueues maximumTries v.windows
      (s := ⟨.success, false, 0, v.windowStore, v.calls⟩) hb
    have hv : SameDevices v { v with
        windowStore := (AcquireLoop.acquireWindows answer v.presentQueues maximumTries v.windows
          ⟨.success, false, 0, v.windowStore, v.calls⟩).windowStore
        calls := (AcquireLoop.acquireWindows answer v.presentQueues maximumTries v.windows
          ⟨.success, false, 0, v.windowStore, v.calls⟩).calls } :=
      ⟨rfl, rfl, hk.device⟩
    dsimp only
    split
    · exact ⟨frameCacheValid_reassignFrameCache h hv, hk.built⟩
    · rcases hk.swapchain with hn | hs
      · exact absurd hn ‹_›
      · exact ⟨h.of_sameDevices hv hs, hk.built⟩

theorem frameCacheValid_pollEvents {v : Viewer} (h : v.FrameCacheValid) (hb : v.Built)
    (discardPreviousEvents : Bool) :
    (v.pollEvents discardPreviousEvents).2.FrameCacheValid ∧
      (v.pollEvents discardPreviousEvents).2.Built := by
  obtain ⟨store, events, heq, hw⟩ := v.pollEvents_spec discardPreviousEvents
  rw [heq]
  exact ⟨h.of_sameDevices ⟨rfl, rfl, fun w => (hw w).1⟩ fun w => (hw w).2,
    fun w => (hw w).2 ▸ hb w⟩

theorem frameCacheValid_stampFrame {v : Viewer} (h : v.FrameCacheValid) (time : Nat) :
    (v.stampFrame time).FrameCacheValid :=
  h.congr rfl rfl rfl

/-- Every call keeps the cache valid and every window built. -/
theorem frameCacheValid_exec {v : Viewer} (h : v.FrameCacheValid) (hb : v.Built) (op : Op) :
    (v.exec op).2.FrameCacheValid ∧ (v.exec op).2.Built := by
  cases op with
  | addWindow window =>
    exact ⟨frameCacheValid_addWindow h window, by simpa [exec, Built] using hb⟩
  | reassignFrameCache =>
    exact ⟨frameCacheValid_reassignFrameCache h ⟨rfl, rfl, fun _ => rfl⟩, hb⟩
  | acquireNextFrame answer => exact frameCacheValid_acquireNextFrame h hb answer
  | pollEvents discardPreviousEvents => exact frameCacheValid_pollEvents h hb _
  | advance time =>
    have hp := frameCacheValid_pollEvents h hb true
    exact ⟨frameCacheValid_stampFrame hp.1 time, hp.2⟩
  | advanceToNextFrame time answer =>
    have hp := frameCacheValid_pollEvents h hb true
    have ha := frameCacheValid_acquireNextFrame hp.1 hp.2 answer
    rcases advanceToNextFrame_cases v time answer with ⟨-, he⟩ | ⟨-, -, he⟩ | ⟨-, -, he⟩ <;>
      simp only [exec, he]
    · exact ⟨h.congr rfl rfl rfl, hb⟩
    · exact ha
    · exact ⟨frameCacheValid_stampFrame ha.1 time, ha.2⟩
  | handleEvents eventHandlers =>
    obtain ⟨close, hc⟩ := v.handleEvents_spec eventHandlers
    simp only [exec, hc]
    exact ⟨h.congr rfl rfl rfl, hb⟩
  | compile slots =>
    simp only [exec, compile]
    split_ifs <;> exact ⟨h.congr rfl rfl rfl, hb⟩
  | update => exact ⟨h, hb⟩
  | recordAndSubmit => exact ⟨h.congr rfl rfl rfl, hb⟩
  | present => exact ⟨h, hb⟩
  | assignRecordAndSubmitTaskAndPresentation commandGraphs databasePager =>
    have h' := onlyAssigns_assignRecordAndSubmitTaskAndPresentation v commandGraphs databasePager
    exact ⟨h.congr h'.deviceMap h'.windows h'.windowStore, fun w => h'.windowStore ▸ hb w⟩
  | complete commandBuffer => exact ⟨h.congr rfl rfl rfl, hb⟩

theorem frameCacheValid_run_of {v : Viewer} (h : v.FrameCacheValid) (hb : v.Built)
    (ops : List Op) : (v.run ops).FrameCacheValid ∧ (v.run ops).Built := by
  induction ops generalizing v with
  | nil => exact ⟨h, hb⟩
  | cons op ops ih =>
    obtain ⟨h', hb'⟩ := frameCacheValid_exec h hb op
    exact ih h' hb'

end Viewer

/-- In every state that a run of the viewer's calls reaches, over windows that the
application created with a swapchain, `_deviceMap` holds exactly the devices of `_windows`,
and each device's entry lists the windows of `_windows` on it, in order, with one image
index, one command buffer and the window's current swapchain each. -/
theorem frameCacheValid_run (windowStore : Nat → Window) (graphState : GraphState)
    (hb : ∀ w, (windowStore w).swapchain.isSome) (ops : List Viewer.Op) :
    ((Viewer.create windowStore graphState).run ops).FrameCacheValid :=
  (Viewer.frameCacheValid_run_of (v := Viewer.create windowStore graphState) ⟨List.Pairwise.nil, fun _ => by simp [Viewer.create],
    fun _ _ hp => by simp [Viewer.create] at hp⟩ hb ops).1

/-- Windows named by their device, each with a swapchain. -/
def windowPerDevice (w : Nat) : Window := { freshWindow with device := w }.buildSwapchain

theorem frameCacheValid_run_windowPerDevice :
    (∀ w, (windowPerDevice w).swapchain.isSome) ∧
      ((Viewer.create windowPerDevice (windowGraphs)).run
        [.addWindow 1, .addWindow 0, .acquireNextFrame fun _ => ⟨.errorOutOfDate, 0⟩,
          .addWindow 1]).FrameCacheValid :=
  ⟨fun _ => rfl, frameCacheValid_run windowPerDevice (windowGraphs) (fun _ => rfl) _⟩

end VulkanSceneGraph
