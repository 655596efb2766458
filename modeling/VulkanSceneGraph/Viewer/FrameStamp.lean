import VulkanSceneGraph.Viewer.Frame

/-!
# Frame stamps

`advance`, and `advanceToNextFrame` once it has acquired an image of every window, end by
creating a `FrameStamp` that counts one frame more than the stamp before it (the first one
counts zero) and appending the `FrameEvent` that carries it. No other call touches
`_frameStamp`, so along any run the stamps that `_frameStamp` takes count `0, 1, 2, ...`.
-/
namespace VulkanSceneGraph

namespace Viewer

/-- The frame count of the stamp `stampFrame` creates next. -/
def nextFrameCount (v : Viewer) : Nat :=
  match v.frameStamp with
  | some frameStamp => frameStamp.frameCount + 1
  | none => 0

theorem nextFrameCount_congr {v v' : Viewer} (h : v'.frameStamp = v.frameStamp) :
    v'.nextFrameCount = v.nextFrameCount := by
  simp only [nextFrameCount, h]

@[simp] theorem stampFrame_frameStamp (v : Viewer) (time : Nat) :
    (v.stampFrame time).frameStamp = some ⟨time, v.nextFrameCount⟩ := by
  cases h : v.frameStamp <;> simp [stampFrame, nextFrameCount, h]

@[simp] theorem stampFrame_events (v : Viewer) (time : Nat) :
    (v.stampFrame time).events = v.events ++ [.frame ⟨time, v.nextFrameCount⟩] := by
  cases h : v.frameStamp <;> simp [stampFrame, nextFrameCount, h]

@[simp] theorem nextFrameCount_stampFrame (v : Viewer) (time : Nat) :
    (v.stampFrame time).nextFrameCount = v.nextFrameCount + 1 := by
  simp [nextFrameCount]

/-- A new stamp differs from the one before: it counts one frame more. -/
theorem stampFrame_frameStamp_ne (v : Viewer) (time : Nat) :
    (v.stampFrame time).frameStamp ≠ v.frameStamp := by
  rw [stampFrame_frameStamp]
  cases h : v.frameStamp with
  | none => simp
  | some frameStamp =>
    intro he
    have := congrArg FrameStamp.frameCount (Option.some.inj he)
    simp [nextFrameCount, h] at this

/-! ### The calls that keep `_frameStamp` -/

@[simp] theorem addWindow_frameStamp (v : Viewer) (window : Nat) :
    (v.addWindow window).frameStamp = v.frameStamp := by
  simp only [addWindow, apply_ite Viewer.frameStamp, ite_self]

@[simp] theorem pollEvents_frameStamp (v : Viewer) (discardPreviousEvents : Bool) :
    (v.pollEvents discardPreviousEvents).2.frameStamp = v.frameStamp := by
  obtain ⟨_, _, h, -⟩ := v.pollEvents_spec discardPreviousEvents
  rw [h]

@[simp] theorem acquireNextFrame_frameStamp (v : Viewer) (answer : Nat → Acquired) :
    (v.acquireNextFrame answer).2.frameStamp = v.frameStamp := by
  unfold acquireNextFrame
  split
  · rfl
  · dsimp only; split <;> rfl

@[simp] theorem handleEvents_frameStamp (v : Viewer) (eventHandlers : List (Event → Bool)) :
    (v.handleEvents eventHandlers).frameStamp = v.frameStamp := by
  obtain ⟨_, h⟩ := v.handleEvents_spec eventHandlers
  rw [h]

@[simp] theorem compile_frameStamp (v : Viewer) (slots : Nat → Nat) :
    (v.compile slots).frameStamp = v.frameStamp := by
  unfold compile; split <;> rfl

/-- The calls that create a `FrameStamp` by the spec's account: `advance`, and
`advanceToNextFrame` when it returns true. -/
def Op.advancesFrame : Op → Bool → Bool
  | .advance _, _ => true
  | .advanceToNextFrame _ _, result => result
  | _, _ => false

/-- A call that advances the frame ends with `stampFrame` on a viewer that still has the
stamp the call started with; any other call keeps the stamp. -/
theorem exec_frameStamp (v : Viewer) (op : Op) :
    (Op.advancesFrame op (v.exec op).1 = true ∧
      ∃ (v₁ : Viewer) (time : Nat), v₁.frameStamp = v.frameStamp ∧ (v.exec op).2 = v₁.stampFrame time) ∨
    (Op.advancesFrame op (v.exec op).1 = false ∧ (v.exec op).2.frameStamp = v.frameStamp) := by
  cases op with
  | advance time => exact .inl ⟨rfl, _, time, pollEvents_frameStamp v true, rfl⟩
  | advanceToNextFrame time answer =>
    rcases advanceToNextFrame_cases v time answer with ⟨-, he⟩ | ⟨-, -, he⟩ | ⟨-, -, he⟩ <;>
      simp only [exec, he]
    · exact .inr ⟨rfl, trivial⟩
    · exact .inr ⟨rfl, by simp⟩
    · exact .inl ⟨rfl, _, time, by simp, rfl⟩
  | assignRecordAndSubmitTaskAndPresentation commandGraphs databasePager =>
    exact .inr ⟨rfl,
      (onlyAssigns_assignRecordAndSubmitTaskAndPresentation v commandGraphs databasePager).frameStamp⟩
  | _ => exact .inr ⟨rfl, by simp [exec, reassignFrameCache, update, recordAndSubmit, present,
      complete]⟩

/-- The values `_frameStamp` takes along a run, one for each call that changes it. -/
def stampHistory : Viewer → List Op → List FrameStamp
  | _, [] => []
  | v, op :: ops =>
    let v' := (v.exec op).2
    (if v'.frameStamp = v.frameStamp then [] else v'.frameStamp.toList) ++ stampHistory v' ops

theorem stampHistory_frameCount (v : Viewer) (ops : List Op) :
    (stampHistory v ops).map (·.frameCount) =
      List.range' v.nextFrameCount (stampHistory v ops).length := by
  induction ops generalizing v with
  | nil => rfl
  | cons op ops ih =>
    rcases exec_frameStamp v op with ⟨-, v₁, time, h₁, he⟩ | ⟨-, he⟩
    · have hne : (v.exec op).2.frameStamp ≠ v.frameStamp := he ▸ h₁ ▸ stampFrame_frameStamp_ne v₁ time
      have hn : (v.exec op).2.nextFrameCount = v.nextFrameCount + 1 := by
        rw [he, nextFrameCount_stampFrame, nextFrameCount_congr h₁]
      simp only [stampHistory, if_neg hne, List.map_append, ih, hn, List.length_append]
      rw [he, stampFrame_frameStamp, nextFrameCount_congr h₁]
      simp only [Option.toList_some, List.map_singleton, List.singleton_append,
        List.length_singleton, Nat.add_comm 1, List.range'_succ]
    · simp only [stampHistory, if_pos he, List.nil_append, ih, nextFrameCount_congr he]

end Viewer

/-- Along every run from a new viewer, a call changes `_frameStamp` exactly when it is an
`advance` or an `advanceToNextFrame` that returns true, and then the last event is the
`FrameEvent` carrying the new stamp; the stamps `_frameStamp` takes count `0, 1, 2, ...`. -/
theorem frameStamp_counts_frames (windowStore : Nat → Window) (graphState : GraphState)
    (ops : List Viewer.Op) :
    let v₀ := Viewer.create windowStore graphState
    (∀ pre op, let v := v₀.run pre
      ((v.exec op).2.frameStamp ≠ v.frameStamp ↔ Viewer.Op.advancesFrame op (v.exec op).1) ∧
      (Viewer.Op.advancesFrame op (v.exec op).1 = true → ∃ frameStamp,
        (v.exec op).2.frameStamp = some frameStamp ∧
          (v.exec op).2.events.getLast? = some (.frame frameStamp))) ∧
    (Viewer.stampHistory v₀ ops).map (·.frameCount) =
      List.range (Viewer.stampHistory v₀ ops).length := by
  intro v₀
  refine ⟨fun pre op => ?_, ?_⟩
  · rcases Viewer.exec_frameStamp (v₀.run pre) op with ⟨ha, v₁, time, h₁, he⟩ | ⟨ha, he⟩
    · refine ⟨⟨fun _ => ha, fun _ => ?_⟩,
        fun _ => ⟨_, by rw [he, Viewer.stampFrame_frameStamp], by simp [he]⟩⟩
      rw [he, ← h₁]
      exact Viewer.stampFrame_frameStamp_ne v₁ time
    · simp [ha, he]
  · simpa [Viewer.nextFrameCount, Viewer.create, List.range_eq_range'] using
      Viewer.stampHistory_frameCount v₀ ops

end VulkanSceneGraph
