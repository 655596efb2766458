import VulkanSceneGraph.Viewer.FrameCache

/-!
# What every run of the viewer's calls keeps

A window changes only by an acquire, a resize in the retry loop of `acquireNextFrame` and a
poll of its events, so a property these three keep (`WindowInvariant`) holds along every run.
Each device's entry of `_deviceMap` keeps the objects its first `addWindow` set up
(`DeviceObjectsValid`). Once `_close` is set, the viewer's only calls are the device waits of
`active`, and a window changes only by having its events taken.
-/
namespace VulkanSceneGraph

namespace Viewer

/-- A property `P i` of window `i` that an acquire, a resize and a poll of its events keep. -/
structure WindowInvariant (P : Nat → Window → Prop) : Prop where
  acquireNextImage : ∀ i w a, P i w → P i (w.acquireNextImage a).2
  resize : ∀ i w, P i w → P i w.resize
  pollEvents : ∀ i w, P i w → P i w.pollEvents.2

theorem forall_update {P : Nat → Window → Prop} {f : Nat → Window} (hf : ∀ i, P i (f i))
    {j : Nat} {x : Window} (hx : P j x) : ∀ i, P i (Function.update f j x i) := by
  intro i
  rcases eq_or_ne i j with rfl | h
  · simpa using hx
  · simpa [Function.update_noteq h] using hf i

namespace WindowInvariant

variable {P : Nat → Window → Prop} (hP : WindowInvariant P)
include hP

theorem retry (answer : Nat → Acquired) (presentQueues : List (Option Queue)) (window : Nat)
    (triesLeft : Nat) {s : AcquireLoop} (hs : ∀ i, P i (s.windowStore i)) :
    ∀ i, P i ((AcquireLoop.retry answer presentQueues window triesLeft s).windowStore i) := by
  have hacq : ∀ s : AcquireLoop, (∀ i, P i (s.windowStore i)) →
      ∀ i, P i ((s.acquireNextImage answer window).windowStore i) := fun s hs =>
    forall_update hs (hP.acquireNextImage _ _ _ (hs window))
  induction triesLeft generalizing s with
  | zero => exact hacq s hs
  | succ triesLeft ih =>
    simp only [AcquireLoop.retry]
    split_ifs
    · exact ih (forall_update (hacq s hs) (hP.resize _ _ (hacq s hs window)))
    · exact hacq s hs

theorem acquireWindows (answer : Nat → Acquired) (presentQueues : List (Option Queue))
    (tries : Nat) (windows : List Nat) {s : AcquireLoop} (hs : ∀ i, P i (s.windowStore i)) :
    ∀ i, P i ((AcquireLoop.acquireWindows answer presentQueues tries windows s).windowStore i) := by
  induction windows generalizing s with
  | nil => exact hs
  | cons window windows ih =>
    have h := hP.retry answer presentQueues window tries hs
    simp only [AcquireLoop.acquireWindows]
    split_ifs
    · exact ih h
    · exact h

theorem acquireNextFrame {v : Viewer} (hv : ∀ i, P i (v.windowStore i)) (answer : Nat → Acquired) :
    ∀ i, P i ((v.acquireNextFrame answer).2.windowStore i) := by
  have h := hP.acquireWindows answer v.presentQueues maximumTries v.windows
    (s := ⟨.success, false, 0, v.windowStore, v.calls⟩) hv
  unfold Viewer.acquireNextFrame
  split
  · exact hv
  · dsimp only; split <;> exact h

end WindowInvariant

/-- Every window keeps a swapchain whose semaphores are created and pairwise distinct, with
one entry of `_indices` per frame. -/
theorem readyInvariant :
    WindowInvariant fun _ w => w.Ready ∧ w.indices.length = w.frames.length where
  acquireNextImage _ _ a h :=
    ⟨Window.ready_acquireNextImage h.1 a, Window.length_indices_acquireNextImage h.2 a⟩
  resize _ w h := ⟨Window.ready_buildSwapchain w fun hs => absurd hs
      (Option.ne_none_iff_isSome.2 h.1.1), Window.length_indices_buildSwapchain h.2⟩
  pollEvents _ _ h := h

/-! ### `pollEvents` -/

/-- One turn of the loop of `pollEvents`: take window `window`'s events. -/
def pollWindow (r : Bool × Viewer) (window : Nat) : Bool × Viewer :=
  let polled := (r.2.windowStore window).pollEvents
  (r.1 || !polled.1.isEmpty,
    { r.2 with
      windowStore := Function.update r.2.windowStore window polled.2
      events := r.2.events ++ polled.1.map .window })

theorem pollEvents_eq (v : Viewer) (discardPreviousEvents : Bool) :
    v.pollEvents discardPreviousEvents = v.windows.foldl pollWindow
      (false, if discardPreviousEvents then { v with events := [] } else v) := by
  cases discardPreviousEvents <;> rfl

/-- A window after `pollEvents` is the window as it was, or with its events taken. -/
theorem pollEvents_windowStore (v : Viewer) (discardPreviousEvents : Bool) (w : Nat) :
    (v.pollEvents discardPreviousEvents).2.windowStore w = v.windowStore w ∨
      (v.pollEvents discardPreviousEvents).2.windowStore w = (v.windowStore w).pollEvents.2 := by
  have h : ∀ (ws : List Nat) (r : Bool × Viewer), (∀ x, r.2.windowStore x = v.windowStore x ∨
      r.2.windowStore x = (v.windowStore x).pollEvents.2) →
      ∀ x, (ws.foldl pollWindow r).2.windowStore x = v.windowStore x ∨
        (ws.foldl pollWindow r).2.windowStore x = (v.windowStore x).pollEvents.2 := by
    intro ws
    induction ws with
    | nil => exact fun r hr => hr
    | cons w ws ih =>
      refine fun r hr => ih _ fun x => ?_
      rcases eq_or_ne x w with rfl | hxw
      · rcases hr x with h | h <;> simp [pollWindow, h, Window.pollEvents]
      · simpa [pollWindow, Function.update_noteq hxw] using hr x
  rw [pollEvents_eq]
  exact h _ _ (fun x => by split <;> exact .inl rfl) w

theorem WindowInvariant.pollEvents' {P : Nat → Window → Prop} (hP : WindowInvariant P)
    {v : Viewer} (hv : ∀ i, P i (v.windowStore i)) (discardPreviousEvents : Bool) :
    ∀ i, P i ((v.pollEvents discardPreviousEvents).2.windowStore i) := fun i => by
  rcases v.pollEvents_windowStore discardPreviousEvents i with h | h <;> rw [h]
  · exact hv i
  · exact hP.pollEvents _ _ (hv i)

/-- Every call keeps a window invariant. -/
theorem WindowInvariant.exec {P : Nat → Window → Prop} (hP : WindowInvariant P) {v : Viewer}
    (hv : ∀ i, P i (v.windowStore i)) (op : Op) : ∀ i, P i ((v.exec op).2.windowStore i) := by
  cases op with
  | addWindow window => simpa [Viewer.exec] using hv
  | acquireNextFrame answer => exact hP.acquireNextFrame hv answer
  | pollEvents discardPreviousEvents => exact hP.pollEvents' hv discardPreviousEvents
  | advance time => exact hP.pollEvents' hv true
  | advanceToNextFrame time answer =>
    have ha := hP.acquireNextFrame (hP.pollEvents' hv true) answer
    rcases advanceToNextFrame_cases v time answer with ⟨-, he⟩ | ⟨-, -, he⟩ | ⟨-, -, he⟩ <;>
      simp only [Viewer.exec, he]
    · exact hv
    · exact ha
    · exact ha
  | handleEvents eventHandlers =>
    obtain ⟨_, h⟩ := v.handleEvents_spec eventHandlers
    simpa [Viewer.exec, h] using hv
  | compile slots =>
    simp only [Viewer.exec, compile]
    split_ifs <;> exact hv
  | assignRecordAndSubmitTaskAndPresentation commandGraphs databasePager =>
    simpa only [Viewer.exec, (onlyAssigns_assignRecordAndSubmitTaskAndPresentation v commandGraphs
      databasePager).windowStore] using hv
  | _ => exact hv

theorem WindowInvariant.run {P : Nat → Window → Prop} (hP : WindowInvariant P) {v : Viewer}
    (hv : ∀ i, P i (v.windowStore i)) (ops : List Op) : ∀ i, P i ((v.run ops).windowStore i) := by
  induction ops generalizing v with
  | nil => exact hv
  | cons op ops ih => exact ih (hP.exec hv op)

/-! ### The objects of each device -/

/-- What `addWindow` gave the entry `pdo` of device `d`: a render-finished semaphore of its
own, which is its one signal semaphore, and the queues of `d` for the graphics and present
families of the first window filed under `d`. -/
structure DeviceObjects (v : Viewer) (d : Nat) (pdo : PerDeviceObjects) : Prop where
  semaphore : ∃ s < v.nextSemaphore, pdo.renderFinishedSemaphore = some s ∧
    pdo.signalSemaphores = [s]
  queues : ∃ w, pdo.windows.head? = some w ∧
    pdo.graphicsQueue = some (getQueue d (v.windowStore w).queueFamily.1) ∧
    pdo.presentQueue = some (getQueue d (v.windowStore w).queueFamily.2)

/-- `_deviceMap` is sorted, each of its entries holds its device's objects, and no two
devices share a render-finished semaphore. -/
structure DeviceObjectsValid (v : Viewer) : Prop where
  sorted : OrderedMap.Sorted natLt v.deviceMap
  entries : ∀ d pdo, OrderedMap.find? d v.deviceMap = some pdo → v.DeviceObjects d pdo
  distinct : ∀ d d' pdo pdo', OrderedMap.find? d v.deviceMap = some pdo →
    OrderedMap.find? d' v.deviceMap = some pdo' →
    pdo.renderFinishedSemaphore = pdo'.renderFinishedSemaphore → d = d'

/-- A window's queue families never change. -/
theorem queueFamilyInvariant (v : Viewer) :
    WindowInvariant fun i w => w.queueFamily = (v.windowStore i).queueFamily where
  acquireNextImage _ _ _ h := by rw [Window.acquireNextImage_queueFamily, h]
  resize _ _ h := by rw [Window.resize_queueFamily, h]
  pollEvents _ _ h := h

theorem DeviceObjects.of_le {v v' : Viewer} {d : Nat} {pdo : PerDeviceObjects}
    (h : v.DeviceObjects d pdo) (hs : v.nextSemaphore ≤ v'.nextSemaphore)
    (hq : ∀ w, (v'.windowStore w).queueFamily = (v.windowStore w).queueFamily) :
    v'.DeviceObjects d pdo := by
  obtain ⟨⟨s, hlt, hr, hsig⟩, ⟨w, hw, hg, hp⟩⟩ := h
  exact ⟨⟨s, by omega, hr, hsig⟩, ⟨w, hw, by rw [hq, hg], by rw [hq, hp]⟩⟩

theorem DeviceObjectsValid.of_le {v v' : Viewer} (h : v.DeviceObjectsValid)
    (hm : v'.deviceMap = v.deviceMap) (hs : v.nextSemaphore ≤ v'.nextSemaphore)
    (hq : ∀ w, (v'.windowStore w).queueFamily = (v.windowStore w).queueFamily) :
    v'.DeviceObjectsValid where
  sorted := hm ▸ h.sorted
  entries d pdo hp := (h.entries d pdo (hm ▸ hp)).of_le hs hq
  distinct d d' pdo pdo' hp hp' := h.distinct d d' pdo pdo' (hm ▸ hp) (hm ▸ hp')

theorem DeviceObjectsValid.reassignFrameCache {v : Viewer} (h : v.DeviceObjectsValid) :
    v.reassignFrameCache.DeviceObjectsValid where
  sorted := by simpa [Viewer.reassignFrameCache] using h.sorted
  entries d pdo hp := by
    simp only [Viewer.reassignFrameCache, OrderedMap.find?_mapValues, Option.map_eq_some'] at hp
    obtain ⟨pdo₀, hp₀, rfl⟩ := hp
    obtain ⟨hs, hq⟩ := h.entries d pdo₀ hp₀
    exact ⟨hs, hq⟩
  distinct d d' pdo pdo' hp hp' := by
    simp only [Viewer.reassignFrameCache, OrderedMap.find?_mapValues, Option.map_eq_some'] at hp hp'
    obtain ⟨pdo₀, hp₀, rfl⟩ := hp
    obtain ⟨pdo₀', hp₀', rfl⟩ := hp'
    exact h.distinct d d' pdo₀ pdo₀' hp₀ hp₀'

theorem addWindow_nextSemaphore (v : Viewer) (window : Nat) :
    (v.addWindow window).nextSemaphore =
      if (OrderedMap.find? (v.windowStore window).device v.deviceMap).isNone
      then v.nextSemaphore + 1 else v.nextSemaphore := by
  simp only [addWindow, apply_ite Viewer.nextSemaphore]

/-- The entry `addWindow` leaves for the window's device: the objects set up for it on its
first window, with the window filed under it. -/
theorem DeviceObjects.addWindow {v : Viewer} (window : Nat) (pdo : PerDeviceObjects)
    (h : (v.addWindow window).DeviceObjects (v.windowStore window).device pdo) :
    (v.addWindow window).DeviceObjects (v.windowStore window).device
      (pdo.addWindow window (v.windowStore window).swapchain) := by
  obtain ⟨hs, ⟨w, hw, hg, hp⟩⟩ := h
  refine ⟨hs, ⟨w, ?_, hg, hp⟩⟩
  obtain ⟨rest, hrest⟩ : ∃ rest, pdo.windows = w :: rest := by
    cases hws : pdo.windows with
    | nil => simp [hws] at hw
    | cons w' rest => simp only [hws, List.head?_cons, Option.some.injEq] at hw; exact ⟨rest, hw ▸ rfl⟩
  simp [PerDeviceObjects.addWindow, hrest]

theorem DeviceObjectsValid.addWindow {v : Viewer} (h : v.DeviceObjectsValid) (window : Nat) :
    (v.addWindow window).DeviceObjectsValid := by
  have ho := natLt_strictOrder
  set w := v.windowStore window with hw
  have hle : v.nextSemaphore ≤ (v.addWindow window).nextSemaphore := by
    rw [addWindow_nextSemaphore]; split <;> omega
  have hq : ∀ x, ((v.addWindow window).windowStore x).queueFamily = (v.windowStore x).queueFamily :=
    fun x => by rw [addWindow_windowStore]
  cases hf : OrderedMap.find? w.device v.deviceMap with
  | none =>
    have hm : (v.addWindow window).deviceMap = OrderedMap.update natLt w.device {}
        (PerDeviceObjects.addWindow window w.swapchain) (OrderedMap.update natLt w.device {}
          (PerDeviceObjects.setUp w.device w.queueFamily v.nextSemaphore) v.deviceMap) := by
      rw [addWindow_deviceMap, hf]; rfl
    have hn : (v.addWindow window).nextSemaphore = v.nextSemaphore + 1 := by
      rw [addWindow_nextSemaphore, ← hw, hf]; rfl
    have hs₁ := OrderedMap.sorted_update ho h.sorted (k := w.device) (d := {})
      (f := PerDeviceObjects.setUp w.device w.queueFamily v.nextSemaphore)
    have hself : OrderedMap.find? w.device (v.addWindow window).deviceMap = some
        ((PerDeviceObjects.setUp w.device w.queueFamily v.nextSemaphore {}).addWindow window
          w.swapchain) := by
      rw [hm, OrderedMap.find?_update_self ho hs₁, OrderedMap.find?_update_self ho h.sorted, hf]
      rfl
    have hother : ∀ d, d ≠ w.device →
        OrderedMap.find? d (v.addWindow window).deviceMap = OrderedMap.find? d v.deviceMap :=
      fun d hd => by rw [hm, OrderedMap.find?_update_ne ho hd, OrderedMap.find?_update_ne ho hd]
    have hnew : (v.addWindow window).DeviceObjects w.device
        ((PerDeviceObjects.setUp w.device w.queueFamily v.nextSemaphore {}).addWindow window
          w.swapchain) :=
      ⟨⟨v.nextSemaphore, by omega, rfl, rfl⟩, ⟨window, rfl, by rw [hq]; rfl, by rw [hq]; rfl⟩⟩
    have hnewSem : ∀ d pdo, OrderedMap.find? d (v.addWindow window).deviceMap = some pdo →
        pdo.renderFinishedSemaphore = some v.nextSemaphore → d = w.device := fun d pdo hp hs => by
      by_contra hd
      rw [hother d hd] at hp
      obtain ⟨s, hlt, hr, -⟩ := (h.entries d pdo hp).semaphore
      rw [hr, Option.some.injEq] at hs
      omega
    refine ⟨by rw [hm]; exact OrderedMap.sorted_update ho hs₁, fun d pdo hp => ?_,
      fun d d' pdo pdo' hp hp' he => ?_⟩
    · rcases eq_or_ne d w.device with rfl | hd
      · rw [hself, Option.some.injEq] at hp
        exact hp ▸ hnew
      · rw [hother d hd] at hp
        exact (h.entries d pdo hp).of_le hle hq
    · rcases eq_or_ne d w.device with rfl | hd
      · rw [hself, Option.some.injEq] at hp
        exact (hnewSem d' pdo' hp' (he ▸ hp ▸ rfl)).symm
      rcases eq_or_ne d' w.device with rfl | hd'
      · rw [hself, Option.some.injEq] at hp'
        exact hnewSem d pdo hp (he.trans (hp' ▸ rfl))
      rw [hother d hd] at hp
      rw [hother d' hd'] at hp'
      exact h.distinct d d' pdo pdo' hp hp' he
  | some pdo₀ =>
    have hm : (v.addWindow window).deviceMap = OrderedMap.update natLt w.device {}
        (PerDeviceObjects.addWindow window w.swapchain) v.deviceMap := by
      rw [addWindow_deviceMap, hf]; rfl
    have hself : OrderedMap.find? w.device (v.addWindow window).deviceMap =
        some (pdo₀.addWindow window w.swapchain) := by
      rw [hm, OrderedMap.find?_update_self ho h.sorted, hf]; rfl
    have hother : ∀ d, d ≠ w.device →
        OrderedMap.find? d (v.addWindow window).deviceMap = OrderedMap.find? d v.deviceMap :=
      fun d hd => by rw [hm, OrderedMap.find?_update_ne ho hd]
    have hlift : ∀ d pdo, OrderedMap.find? d (v.addWindow window).deviceMap = some pdo →
        ∃ pdo', OrderedMap.find? d v.deviceMap = some pdo' ∧
          pdo.renderFinishedSemaphore = pdo'.renderFinishedSemaphore := fun d pdo hp => by
      rcases eq_or_ne d w.device with rfl | hd
      · rw [hself, Option.some.injEq] at hp
        exact ⟨pdo₀, hf, hp ▸ rfl⟩
      · rw [hother d hd] at hp
        exact ⟨pdo, hp, rfl⟩
    refine ⟨by rw [hm]; exact OrderedMap.sorted_update ho h.sorted, fun d pdo hp => ?_,
      fun d d' pdo pdo' hp hp' he => ?_⟩
    · rcases eq_or_ne d w.device with rfl | hd
      · rw [hself, Option.some.injEq] at hp
        exact hp ▸ DeviceObjects.addWindow window pdo₀ ((h.entries _ pdo₀ hf).of_le hle hq)
      · rw [hother d hd] at hp
        exact (h.entries d pdo hp).of_le hle hq
    · obtain ⟨p, hp, hr⟩ := hlift d pdo hp
      obtain ⟨p', hp', hr'⟩ := hlift d' pdo' hp'
      exact h.distinct d d' p p' hp hp' (hr.symm.trans (he.trans hr'))

theorem DeviceObjectsValid.acquireNextFrame {v : Viewer} (h : v.DeviceObjectsValid)
    (answer : Nat → Acquired) : (v.acquireNextFrame answer).2.DeviceObjectsValid := by
  have hq := (queueFamilyInvariant v).acquireWindows answer v.presentQueues maximumTries v.windows
    (s := ⟨.success, false, 0, v.windowStore, v.calls⟩) fun _ => rfl
  unfold Viewer.acquireNextFrame
  split
  · exact h
  · dsimp only
    have h' : DeviceObjectsValid { v with
        windowStore := (AcquireLoop.acquireWindows answer v.presentQueues maximumTries v.windows
          ⟨.success, false, 0, v.windowStore, v.calls⟩).windowStore
        calls := (AcquireLoop.acquireWindows answer v.presentQueues maximumTries v.windows
          ⟨.success, false, 0, v.windowStore, v.calls⟩).calls } := h.of_le rfl le_rfl hq
    split
    · exact h'.reassignFrameCache
    · exact h'

theorem DeviceObjectsValid.pollEvents {v : Viewer} (h : v.DeviceObjectsValid)
    (discardPreviousEvents : Bool) : (v.pollEvents discardPreviousEvents).2.DeviceObjectsValid := by
  obtain ⟨_, _, he, -⟩ := v.pollEvents_spec discardPreviousEvents
  refine h.of_le (by rw [he]) (by rw [he]) fun w => ?_
  rcases v.pollEvents_windowStore discardPreviousEvents w with hw | hw <;> rw [hw]
  rfl

/-- Every call keeps the objects of each device. -/
theorem DeviceObjectsValid.exec {v : Viewer} (h : v.DeviceObjectsValid) (op : Op) :
    (v.exec op).2.DeviceObjectsValid := by
  cases op with
  | addWindow window => exact h.addWindow window
  | reassignFrameCache => exact h.reassignFrameCache
  | acquireNextFrame answer => exact h.acquireNextFrame answer
  | pollEvents discardPreviousEvents => exact h.pollEvents discardPreviousEvents
  | advance time => exact (h.pollEvents true).of_le rfl le_rfl fun _ => rfl
  | advanceToNextFrame time answer =>
    have ha := (h.pollEvents true).acquireNextFrame answer
    rcases advanceToNextFrame_cases v time answer with ⟨-, he⟩ | ⟨-, -, he⟩ | ⟨-, -, he⟩ <;>
      simp only [Viewer.exec, he]
    · exact h.of_le rfl le_rfl fun _ => rfl
    · exact ha
    · exact ha.of_le rfl le_rfl fun _ => rfl
  | handleEvents eventHandlers =>
    obtain ⟨_, he⟩ := v.handleEvents_spec eventHandlers
    exact h.of_le (by simp [Viewer.exec, he]) (by simp [Viewer.exec, he])
      fun _ => by simp [Viewer.exec, he]
  | compile slots =>
    simp only [Viewer.exec, compile]
    split_ifs <;> exact h.of_le rfl le_rfl fun _ => rfl
  | assignRecordAndSubmitTaskAndPresentation commandGraphs databasePager =>
    have h' := onlyAssigns_assignRecordAndSubmitTaskAndPresentation v commandGraphs databasePager
    exact h.of_le h'.deviceMap h'.nextSemaphore fun _ => by simp only [Viewer.exec, h'.windowStore]
  | _ => exact h.of_le rfl le_rfl fun _ => rfl

theorem DeviceObjectsValid.run {v : Viewer} (h : v.DeviceObjectsValid) (ops : List Op) :
    (v.run ops).DeviceObjectsValid := by
  induction ops generalizing v with
  | nil => exact h
  | cons op ops ih => exact ih (h.exec op)

/-! ### Closing -/

@[simp] theorem addWindow_close (v : Viewer) (window : Nat) :
    (v.addWindow window).close = v.close := by
  simp only [addWindow, apply_ite Viewer.close, ite_self]

@[simp] theorem addWindow_calls (v : Viewer) (window : Nat) :
    (v.addWindow window).calls = v.calls := by
  simp only [addWindow, apply_ite Viewer.calls, ite_self]

end Viewer

/-- In every state a run of the viewer's calls reaches from windows that have a swapchain
whose semaphores are created and pairwise distinct, with one entry of `_indices` per frame,
every window still has such a swapchain: the resizes of the retry loop of `acquireNextFrame`
rebuild it with fresh semaphores, and the acquires only swap them. -/
theorem windows_stay_ready (v : Viewer)
    (h : ∀ w, (v.windowStore w).Ready ∧ (v.windowStore w).indices.length =
      (v.windowStore w).frames.length) (ops : List Viewer.Op) :
    ∀ w, ((v.run ops).windowStore w).Ready ∧
      ((v.run ops).windowStore w).indices.length = ((v.run ops).windowStore w).frames.length :=
  Viewer.readyInvariant.run h ops

/-- A viewer over built windows, showing window `0`. -/
def windowZeroViewer : Viewer := (Viewer.create windowPerDevice windowGraphs).addWindow 0

theorem windows_stay_ready_windowZeroViewer :
    (∀ w, (windowZeroViewer.windowStore w).Ready ∧
      (windowZeroViewer.windowStore w).indices.length =
        (windowZeroViewer.windowStore w).frames.length) ∧
    let ops : List Viewer.Op := [.acquireNextFrame fun n => ⟨if n = 0 then .errorOutOfDate
      else .success, 1⟩, .pollEvents true]
    ∀ w, ((windowZeroViewer.run ops).windowStore w).Ready ∧
      ((windowZeroViewer.run ops).windowStore w).indices.length =
        ((windowZeroViewer.run ops).windowStore w).frames.length :=
  have h : ∀ w, (windowZeroViewer.windowStore w).Ready ∧
      (windowZeroViewer.windowStore w).indices.length =
        (windowZeroViewer.windowStore w).frames.length :=
    fun _ => ⟨Window.ready_buildSwapchain _ fun _ => rfl, rfl⟩
  ⟨h, windows_stay_ready windowZeroViewer h _⟩

/-- In every state a run of the viewer's calls reaches from a new viewer, each device of
`_deviceMap` has a render-finished semaphore of its own, no other device's, which is its one
signal semaphore, and its graphics and present queues are the device's queues for the
families of the first window filed under it. -/
theorem device_objects_per_device (windowStore : Nat → Window) (graphState : GraphState)
    (ops : List Viewer.Op) : ((Viewer.create windowStore graphState).run ops).DeviceObjectsValid :=
  Viewer.DeviceObjectsValid.run (v := Viewer.create windowStore graphState)
    ⟨List.Pairwise.nil, fun _ _ hp => by simp [Viewer.create] at hp,
      fun _ _ _ _ hp => by simp [Viewer.create] at hp⟩ ops

end VulkanSceneGraph
