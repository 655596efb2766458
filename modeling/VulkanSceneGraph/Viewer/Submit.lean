import VulkanSceneGraph.Viewer.Frame

/-!
# Submissions

`RecordAndSubmitTask::submit` records each of its command graphs with `CommandGraph::record`,
which appends the buffer it wrote to `recordedCommandBuffers`, and `Viewer::recordAndSubmit`
submits every task in turn; the GPU's completion of a buffer decrements its counter. Along
every run of the viewer's calls no buffer has more than one pending submission, and the
buffers of one submission are pairwise distinct even when command graphs share a pool.
-/
namespace VulkanSceneGraph

namespace GraphState

/-- Modelled from the spec: the loop of `RecordAndSubmitTask::submit` records `commandGraphs`
in turn; `CommandGraph::record` appends the buffer it wrote to `recordedCommandBuffers`. -/
def recordAll (s : GraphState) : List Nat → List Nat × GraphState
  | [] => ([], s)
  | g :: gs =>
    let r := s.record g
    let rest := r.2.recordAll gs
    (r.1 :: rest.1, rest.2)

/-- No buffer that is yet to be created has a pending submission. -/
def Fresh (s : GraphState) : Prop := ∀ b, s.created ≤ b → s.numDependentSubmissions b = 0

theorem recordAll_snd (s : GraphState) (gs : List Nat) :
    (s.recordAll gs).2 = s.run (gs.map .record) := by
  induction gs generalizing s with
  | nil => rfl
  | cons g gs ih => exact ih _

/-- A pool only grows, at its end. -/
theorem commandBuffers_prefix_step (s : GraphState) (a : Action) (g : Nat) :
    (s.graphs g).commandBuffers <+: ((s.step a).graphs g).commandBuffers := by
  by_cases ha : a = .record g
  · subst ha
    show _ <+: ((s.record g).2.graphs g).commandBuffers
    rcases commandBuffers_record s g with h | ⟨-, h⟩ <;> rw [h]
    exact List.prefix_append _ _
  · rw [commandBuffers_step_of_ne s ha]

theorem commandBuffers_prefix_run (s : GraphState) (acts : List Action) (g : Nat) :
    (s.graphs g).commandBuffers <+: ((s.run acts).graphs g).commandBuffers := by
  induction acts generalizing s with
  | nil => exact List.prefix_refl _
  | cons a acts ih => exact (commandBuffers_prefix_step s a g).trans (ih _)

theorem fresh_run {s : GraphState} (hs : s.Fresh) (acts : List Action) : (s.run acts).Fresh :=
  numDependentSubmissions_run_of_created_le s hs acts

/-- From a fresh state a record takes a buffer with no pending submission, which the
recording graph pools afterwards, and leaves the state fresh. -/
theorem record_idle {s : GraphState} (hs : s.Fresh) (g : Nat) :
    s.numDependentSubmissions (s.record g).1 = 0 ∧
      (s.record g).1 ∈ ((s.record g).2.graphs g).commandBuffers ∧ (s.record g).2.Fresh := by
  have hlt := record_fst_lt_created s g
  have hcount := record_numDependentSubmissions s g
  have hfresh : s.created ≤ (s.record g).2.created → (s.record g).2.Fresh := fun hc b hb => by
    rw [hcount, Function.update_noteq (by omega)]
    exact hs b (by omega)
  rcases record_cases s g with ⟨hm, h0, hc, hg⟩ | ⟨-, h1, hc, hg⟩
  · exact ⟨h0, by simp [hg, hm], hfresh hc.ge⟩
  · exact ⟨hs _ h1.ge, by simp [hg, h1], hfresh (by omega)⟩

/-- Records with no completion between them write into pairwise distinct buffers: each had
no pending submission and has one afterwards, and each stays in the pool of the graph that
recorded it. -/
theorem recordAll_spec {s : GraphState} (hs : s.Fresh) (gs : List Nat) :
    let r := s.recordAll gs
    r.1.length = gs.length ∧ r.1.Nodup ∧ (∀ b ∈ r.1, s.numDependentSubmissions b = 0) ∧
      (∀ b, r.2.numDependentSubmissions b =
        if b ∈ r.1 then 1 else s.numDependentSubmissions b) ∧
      (∀ p ∈ gs.zip r.1, p.2 ∈ (r.2.graphs p.1).commandBuffers) ∧ r.2.Fresh := by
  induction gs generalizing s with
  | nil => exact ⟨rfl, List.nodup_nil, by simp [recordAll], by simp [recordAll], by simp, hs⟩
  | cons g gs ih =>
    obtain ⟨h0, hmem, hs'⟩ := record_idle hs g
    obtain ⟨hlen, hnd, hidle, hcount, hpool, hfresh⟩ := ih hs'
    have hone := record_numDependentSubmissions s g
    have hidle' : ∀ b ∈ ((s.record g).2.recordAll gs).1,
        b ≠ (s.record g).1 ∧ s.numDependentSubmissions b = 0 := fun b hb => by
      have h := hidle b hb
      rw [hone, Function.update_apply] at h
      split_ifs at h with hb'
      exact ⟨hb', h⟩
    refine ⟨by simp [recordAll, hlen], List.nodup_cons.2 ⟨fun hb => (hidle' _ hb).1 rfl, hnd⟩,
      List.forall_mem_cons.2 ⟨h0, fun b hb => (hidle' b hb).2⟩, fun b => ?_, ?_, hfresh⟩
    · simp only [recordAll, hcount, hone, Function.update_apply, List.mem_cons]
      by_cases hb : b ∈ ((s.record g).2.recordAll gs).1 <;> by_cases hb' : b = (s.record g).1 <;>
        simp [hb, hb']
    · simp only [recordAll, List.zip_cons_cons, List.forall_mem_cons]
      refine ⟨?_, hpool⟩
      rw [recordAll_snd]
      exact (commandBuffers_prefix_run _ _ g).subset hmem

/-- No buffer has more than one pending submission, and none yet to be created has one. -/
structure SubmissionsBounded (s : GraphState) : Prop where
  le_one : ∀ b, s.numDependentSubmissions b ≤ 1
  fresh : s.Fresh

theorem SubmissionsBounded.run {s : GraphState} (h : s.SubmissionsBounded) (acts : List Action) :
    (s.run acts).SubmissionsBounded :=
  ⟨numDependentSubmissions_le_one_run s h.le_one acts, fresh_run h.fresh acts⟩

/-- The bound reads only the counters and the number of buffers created. -/
theorem SubmissionsBounded.congr {s s' : GraphState} (h : s.SubmissionsBounded)
    (hn : s'.numDependentSubmissions = s.numDependentSubmissions) (hc : s'.created = s.created) :
    s'.SubmissionsBounded :=
  ⟨hn ▸ h.le_one, fun b hb => by rw [hn]; exact h.fresh b (hc ▸ hb)⟩

end GraphState

namespace Viewer

theorem recordAndSubmit_graphState (v : Viewer) :
    v.recordAndSubmit.graphState = (v.graphState.recordAll v.taskCommandGraphs).2 := by
  rw [GraphState.recordAll_snd, recordAndSubmit, taskCommandGraphs, GraphState.run,
    List.foldl_map, List.flatMap_def, List.foldl_flatten, List.foldl_map]
  rfl

theorem acquireNextFrame_graphState (v : Viewer) (answer : Nat → Acquired) :
    (v.acquireNextFrame answer).2.graphState = v.graphState := by
  unfold acquireNextFrame
  split
  · rfl
  · dsimp only; split <;> rfl

theorem pollEvents_graphState (v : Viewer) (discardPreviousEvents : Bool) :
    (v.pollEvents discardPreviousEvents).2.graphState = v.graphState := by
  obtain ⟨_, _, h, -⟩ := v.pollEvents_spec discardPreviousEvents
  rw [h]

/-- Every call keeps the bound on the counters: `compile` and `recordAndSubmit` act on the
command graphs as runs of their actions, a completion is one, an assignment of tasks changes
no counter and creates no buffer, and no other call touches the command graphs. -/
theorem submissionsBounded_exec {v : Viewer} (h : v.graphState.SubmissionsBounded) (op : Op) :
    (v.exec op).2.graphState.SubmissionsBounded := by
  have heq : ∀ {v' : Viewer}, v'.graphState = v.graphState → v'.graphState.SubmissionsBounded :=
    fun he => he ▸ h
  cases op with
  | addWindow window => exact heq (by simp [exec, addWindow, apply_ite Viewer.graphState])
  | acquireNextFrame answer => exact heq (v.acquireNextFrame_graphState answer)
  | pollEvents discardPreviousEvents => exact heq (v.pollEvents_graphState discardPreviousEvents)
  | advance time => exact heq (v.pollEvents_graphState true)
  | advanceToNextFrame time answer =>
    have hr := ((v.pollEvents true).2.acquireNextFrame_graphState answer).trans
      (v.pollEvents_graphState true)
    rcases advanceToNextFrame_cases v time answer with ⟨-, he⟩ | ⟨-, -, he⟩ | ⟨-, -, he⟩ <;>
      simp only [exec, he]
    · exact h
    · exact heq hr
    · exact heq hr
  | handleEvents eventHandlers =>
    obtain ⟨_, he⟩ := v.handleEvents_spec eventHandlers
    exact heq (by simp [exec, he])
  | compile slots =>
    simp only [exec, compile]
    split_ifs
    · exact h
    · have hr := h.run (v.taskCommandGraphs.map fun g =>
        .compile g (v.collectedMaxSlot slots (v.graph g).device))
      rwa [GraphState.run, List.foldl_map] at hr
  | recordAndSubmit =>
    simp only [exec, recordAndSubmit_graphState, GraphState.recordAll_snd]
    exact h.run _
  | assignRecordAndSubmitTaskAndPresentation commandGraphs databasePager =>
    have h' := onlyAssigns_assignRecordAndSubmitTaskAndPresentation v commandGraphs databasePager
    exact h.congr h'.numDependentSubmissions h'.created
  | complete commandBuffer => exact h.run [.complete commandBuffer]
  | _ => exact h

theorem submissionsBounded_run {v : Viewer} (h : v.graphState.SubmissionsBounded) (ops : List Op) :
    (v.run ops).graphState.SubmissionsBounded := by
  induction ops generalizing v with
  | nil => exact h
  | cons op ops ih => exact ih (submissionsBounded_exec h op)

end Viewer

/-- In every state a run of the viewer's calls reaches from one with no pending submission,
the GPU's completions included, no buffer has more than one pending submission, and
`recordAndSubmit` records the command graphs of its tasks into pairwise distinct buffers, even
when graphs share a pool: each buffer had no pending submission and has one afterwards, and
each is in the pool of the graph that recorded it. -/
theorem recordAndSubmit_records_distinct_buffers (v₀ : Viewer)
    (h₀ : ∀ b, v₀.graphState.numDependentSubmissions b = 0) (ops : List Viewer.Op) :
    let v := v₀.run ops
    let r := v.graphState.recordAll v.taskCommandGraphs
    (∀ b, v.graphState.numDependentSubmissions b ≤ 1) ∧
      v.recordAndSubmit.graphState = r.2 ∧ r.1.length = v.taskCommandGraphs.length ∧ r.1.Nodup ∧
      (∀ b ∈ r.1, v.graphState.numDependentSubmissions b = 0) ∧
      (∀ b, r.2.numDependentSubmissions b =
        if b ∈ r.1 then 1 else v.graphState.numDependentSubmissions b) ∧
      ∀ p ∈ v.taskCommandGraphs.zip r.1, p.2 ∈ (r.2.graphs p.1).commandBuffers := by
  intro v r
  have hv : v.graphState.SubmissionsBounded := Viewer.submissionsBounded_run
    ⟨fun b => (h₀ b).le.trans (Nat.zero_le 1), fun b _ => h₀ b⟩ ops
  obtain ⟨hlen, hnd, hidle, hcount, hpool, -⟩ :=
    GraphState.recordAll_spec hv.fresh v.taskCommandGraphs
  exact ⟨hv.le_one, v.recordAndSubmit_graphState, hlen, hnd, hidle, hcount, hpool⟩

/-- A viewer whose one task records the two command graphs of `windowGraphs`, which pool the
same two buffers. -/
def sharedPoolViewer : Viewer :=
  { Viewer.create (fun _ => freshWindow) windowGraphs with
    recordAndSubmitTasks := [⟨[0, 1], [], none, [], getQueue 0 0⟩] }

theorem recordAndSubmit_records_distinct_buffers_sharedPoolViewer :
    (∀ b, sharedPoolViewer.graphState.numDependentSubmissions b = 0) ∧
    let v := sharedPoolViewer.run [.recordAndSubmit, .complete 0]
    let r := v.graphState.recordAll v.taskCommandGraphs
    (∀ b, v.graphState.numDependentSubmissions b ≤ 1) ∧
      v.recordAndSubmit.graphState = r.2 ∧ r.1.length = v.taskCommandGraphs.length ∧ r.1.Nodup ∧
      (∀ b ∈ r.1, v.graphState.numDependentSubmissions b = 0) ∧
      (∀ b, r.2.numDependentSubmissions b =
        if b ∈ r.1 then 1 else v.graphState.numDependentSubmissions b) ∧
      ∀ p ∈ v.taskCommandGraphs.zip r.1, p.2 ∈ (r.2.graphs p.1).commandBuffers :=
  ⟨fun _ => rfl, recordAndSubmit_records_distinct_buffers sharedPoolViewer (fun _ => rfl) _⟩

end VulkanSceneGraph
