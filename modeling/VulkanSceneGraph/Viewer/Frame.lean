import VulkanSceneGraph.Viewer.Assign

/-!
# The frame loop of a `Viewer`

One definition per member function of `Viewer` that an application's main loop calls, and
`Op`, those calls together with the GPU's completion of submitted work. The driver's answers
to the `acquireNextImage` calls of one `acquireNextFrame` are a stream `answer`, numbered
from zero, so that every sequence of results is covered; the clock's readings are arguments.
-/
namespace VulkanSceneGraph

/-- `unsigned int maximumTries = 10;` in `Viewer::acquireNextFrame`. -/
def maximumTries : Nat := 10

/-- The locals of the loop of `acquireNextFrame` (`result`, `needToReassingFrameCache`), the
number of driver answers used, and what the loop changes: the windows and the calls made. -/
structure AcquireLoop where
  result : VkResult
  needToReassingFrameCache : Bool
  call : Nat
  windowStore : Nat → Window
  calls : List Call

namespace AcquireLoop

variable (answer : Nat → Acquired) (presentQueues : List (Option Queue))

/-- `result = window->acquireNextImage()`, answered by the driver's answer number `call`. -/
def acquireNextImage (s : AcquireLoop) (window : Nat) : AcquireLoop :=
  let r := (s.windowStore window).acquireNextImage (answer s.call)
  { s with
    result := r.1
    call := s.call + 1
    windowStore := Function.update s.windowStore window r.2
    calls := s.calls ++ [.acquireNextImage window] }

/-- The body of the `while` loop: wait until every device's present queue is idle, resize
the window, and note that the frame cache must be reassigned. -/
def resize (s : AcquireLoop) (window : Nat) : AcquireLoop :=
  { s with
    needToReassingFrameCache := true
    windowStore := Function.update s.windowStore window (s.windowStore window).resize
    calls := s.calls ++ presentQueues.map .waitIdle ++ [.resize window] }

/-- The `while` loop for one window, where `triesLeft` is `maximumTries - numTries`; its
condition calls `acquireNextImage` before it compares `numTries`. -/
def retry (window : Nat) : Nat → AcquireLoop → AcquireLoop
  | 0, s => s.acquireNextImage answer window
  | triesLeft + 1, s =>
    let s := s.acquireNextImage answer window
    if s.result = .errorOutOfDate then retry window triesLeft (s.resize presentQueues window)
    else s

/-- The `for` loop over `_windows`; it breaks after a window whose last result is not
`VK_SUCCESS`. -/
def acquireWindows (tries : Nat) : List Nat → AcquireLoop → AcquireLoop
  | [], s => s
  | window :: windows, s =>
    let s := retry answer presentQueues window tries s
    if s.result = .success then acquireWindows tries windows s else s

@[simp] theorem acquireNextImage_result (s : AcquireLoop) (window : Nat) :
    (s.acquireNextImage answer window).result = (answer s.call).result := rfl

@[simp] theorem acquireNextImage_needToReassingFrameCache (s : AcquireLoop) (window : Nat) :
    (s.acquireNextImage answer window).needToReassingFrameCache = s.needToReassingFrameCache :=
  rfl

@[simp] theorem acquireNextImage_call (s : AcquireLoop) (window : Nat) :
    (s.acquireNextImage answer window).call = s.call + 1 := rfl

@[simp] theorem acquireNextImage_calls (s : AcquireLoop) (window : Nat) :
    (s.acquireNextImage answer window).calls = s.calls ++ [.acquireNextImage window] := rfl

@[simp] theorem acquireNextImage_windowStore (s : AcquireLoop) (window : Nat) :
    (s.acquireNextImage answer window).windowStore = Function.update s.windowStore window
      ((s.windowStore window).acquireNextImage (answer s.call)).2 := rfl

@[simp] theorem resize_result (s : AcquireLoop) (window : Nat) :
    (s.resize presentQueues window).result = s.result := rfl

@[simp] theorem resize_needToReassingFrameCache (s : AcquireLoop) (window : Nat) :
    (s.resize presentQueues window).needToReassingFrameCache = true := rfl

@[simp] theorem resize_call (s : AcquireLoop) (window : Nat) :
    (s.resize presentQueues window).call = s.call := rfl

@[simp] theorem resize_calls (s : AcquireLoop) (window : Nat) :
    (s.resize presentQueues window).calls =
      s.calls ++ presentQueues.map .waitIdle ++ [.resize window] := rfl

@[simp] theorem resize_windowStore (s : AcquireLoop) (window : Nat) :
    (s.resize presentQueues window).windowStore =
      Function.update s.windowStore window (s.windowStore window).resize := rfl

/-! ### What the loop does to the windows -/

/-- Every window has a swapchain. -/
def Built (s : AcquireLoop) : Prop := ∀ w, (s.windowStore w).swapchain.isSome

/-- From `s` to `s'` every window stays on its device and keeps a swapchain, and swapchains
change only by a resize, which sets `needToReassingFrameCache`. -/
structure Keeps (s s' : AcquireLoop) : Prop where
  device : ∀ w, (s'.windowStore w).device = (s.windowStore w).device
  built : s'.Built
  needToReassingFrameCache :
    s.needToReassingFrameCache = true → s'.needToReassingFrameCache = true
  swapchain : s'.needToReassingFrameCache = true ∨
    ∀ w, (s'.windowStore w).swapchain = (s.windowStore w).swapchain

theorem Keeps.refl {s : AcquireLoop} (hb : s.Built) : Keeps s s :=
  ⟨fun _ => rfl, hb, id, .inr fun _ => rfl⟩

theorem Keeps.trans {s₁ s₂ s₃ : AcquireLoop} (h₁ : Keeps s₁ s₂) (h₂ : Keeps s₂ s₃) :
    Keeps s₁ s₃ where
  device w := (h₂.device w).trans (h₁.device w)
  built := h₂.built
  needToReassingFrameCache := h₂.needToReassingFrameCache ∘ h₁.needToReassingFrameCache
  swapchain := by
    rcases h₂.swapchain with h | h₂'
    · exact .inl h
    · rcases h₁.swapchain with h | h₁'
      · exact .inl (h₂.needToReassingFrameCache h)
      · exact .inr fun w => (h₂' w).trans (h₁' w)

theorem keeps_acquireNextImage {s : AcquireLoop} (hb : s.Built) (window : Nat) :
    Keeps s (s.acquireNextImage answer window) := by
  have hw : ∀ w, ((s.acquireNextImage answer window).windowStore w).device =
      (s.windowStore w).device ∧
      ((s.acquireNextImage answer window).windowStore w).swapchain = (s.windowStore w).swapchain := by
    intro w
    rcases eq_or_ne w window with rfl | h
    · simp [acquireNextImage, Window.acquireNextImage_swapchain (hb w)]
    · simp [acquireNextImage, Function.update_noteq h]
  exact ⟨fun w => (hw w).1, fun w => (hw w).2 ▸ hb w, id, .inr fun w => (hw w).2⟩

theorem keeps_resize {s : AcquireLoop} (hb : s.Built) (window : Nat) :
    Keeps s (s.resize presentQueues window) := by
  refine ⟨fun w => ?_, fun w => ?_, fun _ => rfl, .inl rfl⟩ <;>
    rcases eq_or_ne w window with rfl | h
  · simp [resize]
  · simp [resize, Function.update_noteq h]
  · simp [resize]
  · simpa [resize, Function.update_noteq h] using hb w

theorem keeps_retry (window : Nat) (triesLeft : Nat) {s : AcquireLoop} (hb : s.Built) :
    Keeps s (retry answer presentQueues window triesLeft s) := by
  induction triesLeft generalizing s with
  | zero => exact keeps_acquireNextImage answer hb window
  | succ triesLeft ih =>
    have h₁ := keeps_acquireNextImage answer hb window
    simp only [retry]
    split_ifs
    · have h₂ := keeps_resize presentQueues h₁.built window
      exact h₁.trans (h₂.trans (ih h₂.built))
    · exact h₁

theorem keeps_acquireWindows (tries : Nat) (windows : List Nat) {s : AcquireLoop}
    (hb : s.Built) : Keeps s (acquireWindows answer presentQueues tries windows s) := by
  induction windows generalizing s with
  | nil => exact Keeps.refl hb
  | cons window windows ih =>
    have h₁ := keeps_retry answer presentQueues window tries hb
    simp only [acquireWindows]
    split_ifs
    · exact h₁.trans (ih h₁.built)
    · exact h₁

end AcquireLoop

namespace PerDeviceObjects

/-- The "set up per device settings" block of `addWindow`, on the entry `_deviceMap[device]`
has just default-constructed; `queueFamily` is the graphics and present family pair. -/
def setUp (device : Nat) (queueFamily : Int × Int) (renderFinishedSemaphore : Nat)
    (new_pdo : PerDeviceObjects) : PerDeviceObjects :=
  { new_pdo with
    renderFinishedSemaphore := some renderFinishedSemaphore
    graphicsQueue := some (getQueue device queueFamily.1)
    presentQueue := some (getQueue device queueFamily.2)
    signalSemaphores := new_pdo.signalSemaphores ++ [renderFinishedSemaphore] }

/-- The "add per window details to pdo" block of `addWindow`. -/
def addWindow (window : Nat) (swapchain : Option Nat) (pdo : PerDeviceObjects) :
    PerDeviceObjects :=
  { pdo with
    windows := pdo.windows ++ [window]
    imageIndices := pdo.imageIndices ++ [0]
    commandBuffers := pdo.commandBuffers ++ [0]
    swapchains := pdo.swapchains ++ [swapchain] }

end PerDeviceObjects

namespace Viewer

/-- `Viewer::addWindow`. -/
def addWindow (v : Viewer) (window : Nat) : Viewer :=
  let w := v.windowStore window
  let device := w.device
  let v := { v with windows := v.windows ++ [window] }
  let v :=
    if (OrderedMap.find? device v.deviceMap).isNone then
      { v with
        deviceMap := OrderedMap.update natLt device {}
          (PerDeviceObjects.setUp device w.queueFamily v.nextSemaphore) v.deviceMap
        nextSemaphore := v.nextSemaphore + 1 }
    else v
  { v with
    deviceMap := OrderedMap.update natLt device {}
      (PerDeviceObjects.addWindow window w.swapchain) v.deviceMap }

/-- `Viewer::reassignFrameCache`. -/
def reassignFrameCache (v : Viewer) : Viewer :=
  { v with
    deviceMap := OrderedMap.mapValues (fun pdo => { pdo with
      imageIndices := pdo.windows.map fun _ => 0
      commandBuffers := pdo.windows.map fun _ => 0
      swapchains := pdo.windows.map fun window => (v.windowStore window).swapchain }) v.deviceMap }

/-- The present queue of every device, in `_deviceMap` order. -/
def presentQueues (v : Viewer) : List (Option Queue) := v.deviceMap.map (·.2.presentQueue)

/-- `Viewer::acquireNextFrame`, with the driver's answers. -/
def acquireNextFrame (v : Viewer) (answer : Nat → Acquired) : Bool × Viewer :=
  if v.close then (false, v)
  else
    let s := AcquireLoop.acquireWindows answer v.presentQueues maximumTries v.windows
      ⟨.success, false, 0, v.windowStore, v.calls⟩
    let v := { v with windowStore := s.windowStore, calls := s.calls }
    (decide (s.result = .success), if s.needToReassingFrameCache then v.reassignFrameCache else v)

/-- `Viewer::pollEvents`. -/
def pollEvents (v : Viewer) (discardPreviousEvents : Bool) : Bool × Viewer :=
  let v := if discardPreviousEvents then { v with events := [] } else v
  v.windows.foldl (fun r window =>
    let polled := (r.2.windowStore window).pollEvents
    (r.1 || !polled.1.isEmpty,
      { r.2 with
        windowStore := Function.update r.2.windowStore window polled.2
        events := r.2.events ++ polled.1.map .window })) (false, v)

/-- `Viewer::active`: the viewer is active unless it is closing or one of its windows is no
longer valid; when it is not, it waits until every device of `_deviceMap` is idle. -/
def active (v : Viewer) : Bool × Viewer :=
  if !v.close && v.windows.all fun window => (v.windowStore window).valid then (true, v)
  else (false, { v with calls := v.calls ++ v.deviceMap.map fun e => .deviceWaitIdle e.1 })

/-- The end of `advance` and of `advanceToNextFrame`: create the `FrameStamp` of the frame,
and the `FrameEvent` that carries it. -/
def stampFrame (v : Viewer) (time : Nat) : Viewer :=
  let frameStamp : FrameStamp :=
    match v.frameStamp with
    | some frameStamp => ⟨time, frameStamp.frameCount + 1⟩
    | none => ⟨time, 0⟩
  { v with frameStamp := some frameStamp, events := v.events ++ [.frame frameStamp] }

/-- `Viewer::advance`, with the clock's reading. -/
def advance (v : Viewer) (time : Nat) : Viewer := (v.pollEvents true).2.stampFrame time

/-- `Viewer::advanceToNextFrame`, with the clock's reading and the driver's answers. -/
def advanceToNextFrame (v : Viewer) (time : Nat) (answer : Nat → Acquired) : Bool × Viewer :=
  let a := v.active
  if !a.1 then (false, a.2)
  else
    let r := (a.2.pollEvents true).2.acquireNextFrame answer
    if !r.1 then (false, r.2) else (true, r.2.stampFrame time)

/-- `Viewer::handleEvents` passes every event to every handler. Modelled from the spec: a
handler is application code, and what the viewer's state sees of it is whether it asks the
viewer to close, as a `CloseHandler` does. -/
def handleEvents (v : Viewer) (eventHandlers : List (Event → Bool)) : Viewer :=
  v.events.foldl (fun v event => eventHandlers.foldl (fun v handler =>
    if handler event then { v with close := true } else v) v) v

/-- The command graphs of every task, in task order. -/
def taskCommandGraphs (v : Viewer) : List Nat := v.recordAndSubmitTasks.flatMap (·.commandGraphs)

/-- The `maxSlot` of a device's `CollectDescriptorStats` once it has visited every command
graph of every task on the device. Modelled from the spec: the visitor is not part of the
sources; `slots g` is the largest slot it finds in graph `g`, and it keeps the largest. -/
def collectedMaxSlot (v : Viewer) (slots : Nat → Nat) (device : Nat) : Nat :=
  (v.taskCommandGraphs.filter fun g => (v.graph g).device = device).foldl
    (fun maxSlot g => max maxSlot (slots g)) 0

/-- `Viewer::compile` as it acts on the command graphs: each gets its device's collected
`maxSlot` before its compile traversal. -/
def compile (v : Viewer) (slots : Nat → Nat) : Viewer :=
  if v.recordAndSubmitTasks.isEmpty then v
  else
    { v with
      graphState := v.taskCommandGraphs.foldl
        (fun s g => s.setMaxSlot g (v.collectedMaxSlot slots (v.graph g).device)) v.graphState }

/-- `Viewer::update`. Modelled from the spec: a task's paging system updates the scene graph,
which the viewer's state does not hold. -/
def update (v : Viewer) : Viewer := v

/-- `Viewer::recordAndSubmit`. Modelled from the spec: `RecordAndSubmitTask::submit` records
each of the task's command graphs (`CommandGraph::record`) and submits them as one batch; the
GPU completes that work later (`complete`). -/
def recordAndSubmit (v : Viewer) : Viewer :=
  { v with
    graphState := v.recordAndSubmitTasks.foldl
      (fun s task => task.commandGraphs.foldl (fun s g => (s.record g).2) s) v.graphState }

/-- `Viewer::present`. Modelled from the spec: `Presentation::present` queues the windows'
images for display, which changes nothing the viewer's state holds. -/
def present (v : Viewer) : Viewer := v

/-- Modelled from the spec: the GPU signals that the work submitted in `commandBuffer` has
completed, and the submission layer decrements the buffer's `numDependentSubmissions`. -/
def complete (v : Viewer) (commandBuffer : Nat) : Viewer :=
  { v with graphState := v.graphState.complete commandBuffer }

/-- The member functions that an application calls, with the driver's answers, clock
readings and handlers they depend on, and the GPU's completion of a submitted buffer. -/
inductive Op
  | addWindow (window : Nat)
  | reassignFrameCache
  | acquireNextFrame (answer : Nat → Acquired)
  | pollEvents (discardPreviousEvents : Bool)
  | advance (time : Nat)
  | advanceToNextFrame (time : Nat) (answer : Nat → Acquired)
  | handleEvents (eventHandlers : List (Event → Bool))
  | compile (slots : Nat → Nat)
  | update
  | recordAndSubmit
  | present
  | assignRecordAndSubmitTaskAndPresentation (commandGraphs : List Nat)
      (databasePager : Option Nat)
  | complete (commandBuffer : Nat)

/-- One call, with the value it returns (`false` for the `void` functions). -/
def exec (v : Viewer) : Op → Bool × Viewer
  | .addWindow window => (false, v.addWindow window)
  | .reassignFrameCache => (false, v.reassignFrameCache)
  | .acquireNextFrame answer => v.acquireNextFrame answer
  | .pollEvents discardPreviousEvents => v.pollEvents discardPreviousEvents
  | .advance time => (false, v.advance time)
  | .advanceToNextFrame time answer => v.advanceToNextFrame time answer
  | .handleEvents eventHandlers => (false, v.handleEvents eventHandlers)
  | .compile slots => (false, v.compile slots)
  | .update => (false, v.update)
  | .recordAndSubmit => (false, v.recordAndSubmit)
  | .present => (false, v.present)
  | .assignRecordAndSubmitTaskAndPresentation commandGraphs databasePager =>
    (false, v.assignRecordAndSubmitTaskAndPresentation commandGraphs databasePager)
  | .complete commandBuffer => (false, v.complete commandBuffer)

def run (v : Viewer) (ops : List Op) : Viewer := ops.foldl (fun v op => (v.exec op).2) v

@[simp] theorem run_nil (v : Viewer) : v.run [] = v := rfl

@[simp] theorem run_cons (v : Viewer) (op : Op) (ops : List Op) :
    v.run (op :: ops) = (v.exec op).2.run ops := rfl

/-! ### What each call changes -/

/-- `active` changes nothing but the calls, to which it adds the device waits when it
returns false. -/
theorem active_snd (v : Viewer) :
    v.active.2 = { v with calls := v.calls ++
      if v.active.1 then [] else v.deviceMap.map fun e => .deviceWaitIdle e.1 } := by
  by_cases hc : (!v.close && v.windows.all fun window => (v.windowStore window).valid) = true <;>
    simp [active, hc]

/-- The three ways `advanceToNextFrame` ends: inactive, after the device waits; active with a
failed acquire; active with every image acquired, stamping the frame. -/
theorem advanceToNextFrame_cases (v : Viewer) (time : Nat) (answer : Nat → Acquired) :
    let r := (v.pollEvents true).2.acquireNextFrame answer
    (v.active.1 = false ∧ v.advanceToNextFrame time answer =
      (false, { v with calls := v.calls ++ v.deviceMap.map fun e => .deviceWaitIdle e.1 })) ∨
    (v.active.1 = true ∧ r.1 = false ∧ v.advanceToNextFrame time answer = (false, r.2)) ∨
    (v.active.1 = true ∧ r.1 = true ∧ v.advanceToNextFrame time answer = (true, r.2.stampFrame time)) := by
  dsimp only
  have hv := active_snd v
  cases ha : v.active.1
  · exact .inl ⟨rfl, by simp [advanceToNextFrame, ha, hv]⟩
  · rw [ha] at hv
    simp only [if_true, List.append_nil] at hv
    cases hr : ((v.pollEvents true).2.acquireNextFrame answer).1
    · exact .inr (.inl ⟨rfl, rfl, by simp [advanceToNextFrame, ha, hv, hr]⟩)
    · exact .inr (.inr ⟨rfl, rfl, by simp [advanceToNextFrame, ha, hv, hr]⟩)

theorem foldl_pollEvents (windows : List Nat) (r : Bool × Viewer) :
    ∃ windowStore events, (windows.foldl (fun r window =>
      let polled := (r.2.windowStore window).pollEvents
      (r.1 || !polled.1.isEmpty,
        { r.2 with
          windowStore := Function.update r.2.windowStore window polled.2
          events := r.2.events ++ polled.1.map .window })) r).2 =
        { r.2 with windowStore := windowStore, events := events } ∧
      ∀ w, (windowStore w).device = (r.2.windowStore w).device ∧
        (windowStore w).swapchain = (r.2.windowStore w).swapchain := by
  induction windows generalizing r with
  | nil => exact ⟨_, _, rfl, fun _ => ⟨rfl, rfl⟩⟩
  | cons window windows ih =>
    obtain ⟨store, events, h, hw⟩ := ih _
    refine ⟨store, events, h, fun w => ?_⟩
    rcases eq_or_ne w window with rfl | hne
    · simpa using hw w
    · simpa [Function.update_noteq hne] using hw w

/-- `pollEvents` changes only the windows' event queues and the viewer's events. -/
theorem pollEvents_spec (v : Viewer) (discardPreviousEvents : Bool) :
    ∃ windowStore events, (v.pollEvents discardPreviousEvents).2 =
        { v with windowStore := windowStore, events := events } ∧
      ∀ w, (windowStore w).device = (v.windowStore w).device ∧
        (windowStore w).swapchain = (v.windowStore w).swapchain := by
  obtain ⟨store, events, h, hw⟩ := foldl_pollEvents v.windows
    (false, if discardPreviousEvents then { v with events := [] } else v)
  refine ⟨store, events, ?_, ?_⟩ <;> cases discardPreviousEvents <;> simpa [pollEvents] using ‹_›

theorem foldl_handleEvents (events : List Event) (eventHandlers : List (Event → Bool))
    (v : Viewer) : ∃ close, events.foldl (fun v event => eventHandlers.foldl (fun v handler =>
      if handler event then { v with close := true } else v) v) v = { v with close := close } := by
  have step : ∀ (hs : List (Event → Bool)) (event : Event) (v : Viewer), ∃ close,
      hs.foldl (fun v handler => if handler event then { v with close := true } else v) v =
        { v with close := close } := by
    intro hs event
    induction hs with
    | nil => exact fun v => ⟨v.close, rfl⟩
    | cons handler hs ih =>
      intro v
      by_cases h : handler event = true
      · obtain ⟨c, hc⟩ := ih { v with close := true }
        exact ⟨c, by simp [h, hc]⟩
      · obtain ⟨c, hc⟩ := ih v
        exact ⟨c, by simp [h, hc]⟩
  induction events generalizing v with
  | nil => exact ⟨v.close, rfl⟩
  | cons event events ih =>
    obtain ⟨c₁, h₁⟩ := step eventHandlers event v
    obtain ⟨c₂, h₂⟩ := ih { v with close := c₁ }
    exact ⟨c₂, by simp only [List.foldl_cons, h₁, h₂]⟩

/-- `handleEvents` changes nothing but `_close`. -/
theorem handleEvents_spec (v : Viewer) (eventHandlers : List (Event → Bool)) :
    ∃ close, v.handleEvents eventHandlers = { v with close := close } :=
  foldl_handleEvents v.events eventHandlers v

end Viewer

end VulkanSceneGraph
