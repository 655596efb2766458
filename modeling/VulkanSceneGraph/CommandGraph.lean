import VulkanSceneGraph.Core

/-!
# `CommandGraph::record`: command buffer reuse and the record traversal

A command graph pools the command buffers it records into. `record` picks the last pooled
buffer whose `numDependentSubmissions` counter is zero, creates a new buffer only when there
is none, and increments the counter of the buffer it picked; the submission layer decrements
it once the GPU has finished with the buffer. Graphs made by `CommandGraph(Window*)` from one
window pool the same buffers, so the counters live in one table indexed by the number that
names each buffer object, and a pool is a list of those numbers. The graph's
`RecordTraversal` is created at its first record, for the `_maxSlot` the graph holds then.
-/
namespace VulkanSceneGraph

/-- The fields of a `CommandGraph` that the viewer reads and writes. -/
structure CommandGraph where
  device : Nat
  queueFamily : Int
  presentFamily : Int
  windows : List Nat
  children : List Node
  primary : Option Nat
  commandBuffers : List Nat
  maxSlot : Nat
  /-- The slot count the `RecordTraversal`'s `State` was created for, once it exists. -/
  recordTraversal : Option Nat

namespace CommandGraph

/-- `if (!recordTraversal) recordTraversal = new RecordTraversal(nullptr, _maxSlot);` -/
def ensureRecordTraversal (cg : CommandGraph) : CommandGraph :=
  match cg.recordTraversal with
  | none => { cg with recordTraversal := some cg.maxSlot }
  | some _ => cg

@[simp] theorem ensureRecordTraversal_commandBuffers (cg : CommandGraph) :
    cg.ensureRecordTraversal.commandBuffers = cg.commandBuffers := by
  unfold ensureRecordTraversal; split <;> rfl

@[simp] theorem ensureRecordTraversal_maxSlot (cg : CommandGraph) :
    cg.ensureRecordTraversal.maxSlot = cg.maxSlot := by
  unfold ensureRecordTraversal; split <;> rfl

@[simp] theorem ensureRecordTraversal_device (cg : CommandGraph) :
    cg.ensureRecordTraversal.device = cg.device := by
  unfold ensureRecordTraversal; split <;> rfl

@[simp] theorem ensureRecordTraversal_recordTraversal (cg : CommandGraph) :
    cg.ensureRecordTraversal.recordTraversal = some (cg.recordTraversal.getD cg.maxSlot) := by
  unfold ensureRecordTraversal; split <;> simp_all

end CommandGraph

/-- The loop of `CommandGraph::record` that looks for a reusable buffer: it keeps the last
pooled buffer whose `numDependentSubmissions` is zero. -/
def selectCommandBuffer (count : Nat → Nat) (pool : List Nat) : Option Nat :=
  pool.foldl (fun commandBuffer cb => if count cb = 0 then some cb else commandBuffer) none

theorem foldl_select_eq (count : Nat → Nat) (pool : List Nat) (acc : Option Nat) :
    pool.foldl (fun commandBuffer cb => if count cb = 0 then some cb else commandBuffer) acc =
      (pool.filter fun cb => count cb = 0).getLast?.or acc := by
  induction pool generalizing acc with
  | nil => rfl
  | cons x pool ih =>
    rw [List.foldl_cons, ih]
    by_cases hx : count x = 0
    · rw [if_pos hx, List.filter_cons_of_pos (by simpa using hx), List.getLast?_cons]
      cases (pool.filter fun cb => count cb = 0).getLast? <;> rfl
    · simp [List.filter_cons, hx]

theorem selectCommandBuffer_eq (count : Nat → Nat) (pool : List Nat) :
    selectCommandBuffer count pool = (pool.filter fun cb => count cb = 0).getLast? := by
  simp [selectCommandBuffer, foldl_select_eq]

theorem selectCommandBuffer_some {count : Nat → Nat} {pool : List Nat} {b : Nat}
    (h : selectCommandBuffer count pool = some b) : b ∈ pool ∧ count b = 0 := by
  rw [selectCommandBuffer_eq] at h
  simpa using List.mem_of_getLast?_eq_some h

theorem selectCommandBuffer_none {count : Nat → Nat} {pool : List Nat}
    (h : selectCommandBuffer count pool = none) : ∀ b ∈ pool, 0 < count b := by
  rw [selectCommandBuffer_eq, List.getLast?_eq_none_iff, List.filter_eq_nil_iff] at h
  intro b hb
  simpa [Nat.pos_iff_ne_zero] using h b hb

/-- The command graphs and the command buffers they pool. Buffer `b` exists once
`b < created`, and only existing buffers are pooled. -/
structure GraphState where
  numDependentSubmissions : Nat → Nat
  created : Nat
  graphs : Nat → CommandGraph
  pooled_lt_created : ∀ g, ∀ b ∈ (graphs g).commandBuffers, b < created

namespace GraphState

/-- Replace graph `g` by `cg`, which pools the same buffers. -/
def setGraph (s : GraphState) (g : Nat) (cg : CommandGraph)
    (h : cg.commandBuffers = (s.graphs g).commandBuffers) : GraphState where
  numDependentSubmissions := s.numDependentSubmissions
  created := s.created
  graphs := Function.update s.graphs g cg
  pooled_lt_created g' b hb := by
    rcases eq_or_ne g' g with rfl | hg
    · rw [Function.update_same, h] at hb; exact s.pooled_lt_created _ b hb
    · rw [Function.update_noteq hg] at hb; exact s.pooled_lt_created g' b hb

/-- `CommandBuffer::create` and `commandBuffers.push_back`: a new buffer, with no pending
submission, joins the pool of graph `g`. -/
def createCommandBuffer (s : GraphState) (g : Nat) : GraphState where
  numDependentSubmissions := Function.update s.numDependentSubmissions s.created 0
  created := s.created + 1
  graphs := Function.update s.graphs g
    { s.graphs g with commandBuffers := (s.graphs g).commandBuffers ++ [s.created] }
  pooled_lt_created g' b hb := by
    rcases eq_or_ne g' g with rfl | hg
    · simp only [Function.update_same, List.mem_append, List.mem_singleton] at hb
      rcases hb with hb | rfl
      · exact Nat.lt_succ_of_lt (s.pooled_lt_created _ b hb)
      · exact Nat.lt_succ_self _
    · rw [Function.update_noteq hg] at hb
      exact Nat.lt_succ_of_lt (s.pooled_lt_created g' b hb)

/-- `commandBuffer->numDependentSubmissions().fetch_add(1)`. -/
def fetchAdd (s : GraphState) (b : Nat) : GraphState :=
  { s with numDependentSubmissions :=
      Function.update s.numDependentSubmissions b (s.numDependentSubmissions b + 1) }

/-- Modelled from the spec: the submission layer decrements `numDependentSubmissions` of a
buffer once the GPU signals that the work recorded in it has completed. -/
def complete (s : GraphState) (b : Nat) : GraphState :=
  { s with numDependentSubmissions :=
      Function.update s.numDependentSubmissions b (s.numDependentSubmissions b - 1) }

/-- `commandGraph->_maxSlot = deviceResource.collectStats.maxSlot` in `Viewer::compile`. -/
def setMaxSlot (s : GraphState) (g maxSlot : Nat) : GraphState :=
  s.setGraph g { s.graphs g with maxSlot := maxSlot } rfl

/-- The buffer `record` writes into: a pooled buffer with no pending submission, else a new
one. -/
def acquireCommandBuffer (s : GraphState) (g : Nat) : Nat × GraphState :=
  match selectCommandBuffer s.numDependentSubmissions (s.graphs g).commandBuffers with
  | some b => (b, s)
  | none => (s.created, s.createCommandBuffer g)

/-- `CommandGraph::record`, returning the buffer it appends to `recordedCommandBuffers`. -/
def record (s : GraphState) (g : Nat) : Nat × GraphState :=
  let s := s.setGraph g (s.graphs g).ensureRecordTraversal
    (CommandGraph.ensureRecordTraversal_commandBuffers _)
  let r := s.acquireCommandBuffer g
  (r.1, r.2.fetchAdd r.1)

section Fields

variable (s : GraphState) (g b : Nat)

@[simp] theorem setGraph_numDependentSubmissions (cg : CommandGraph) (h) :
    (s.setGraph g cg h).numDependentSubmissions = s.numDependentSubmissions := rfl
@[simp] theorem setGraph_created (cg : CommandGraph) (h) : (s.setGraph g cg h).created = s.created := rfl
@[simp] theorem setGraph_graphs (cg : CommandGraph) (h) :
    (s.setGraph g cg h).graphs = Function.update s.graphs g cg := rfl
@[simp] theorem createCommandBuffer_numDependentSubmissions :
    (s.createCommandBuffer g).numDependentSubmissions =
      Function.update s.numDependentSubmissions s.created 0 := rfl
@[simp] theorem createCommandBuffer_created : (s.createCommandBuffer g).created = s.created + 1 := rfl
@[simp] theorem createCommandBuffer_graphs :
    (s.createCommandBuffer g).graphs = Function.update s.graphs g
      { s.graphs g with commandBuffers := (s.graphs g).commandBuffers ++ [s.created] } := rfl
@[simp] theorem fetchAdd_numDependentSubmissions :
    (s.fetchAdd b).numDependentSubmissions =
      Function.update s.numDependentSubmissions b (s.numDependentSubmissions b + 1) := rfl
@[simp] theorem fetchAdd_created : (s.fetchAdd b).created = s.created := rfl
@[simp] theorem fetchAdd_graphs : (s.fetchAdd b).graphs = s.graphs := rfl
@[simp] theorem complete_numDependentSubmissions :
    (s.complete b).numDependentSubmissions =
      Function.update s.numDependentSubmissions b (s.numDependentSubmissions b - 1) := rfl
@[simp] theorem complete_graphs : (s.complete b).graphs = s.graphs := rfl

end Fields

/-- What one record can do to the pools: reuse a pooled buffer with no pending submission,
or, when every pooled buffer has one, create a buffer and pool it. The graph's traversal is
created if it was missing. -/
theorem record_cases (s : GraphState) (g : Nat) :
    let cg := (s.graphs g).ensureRecordTraversal
    let r := s.record g
    (r.1 ∈ (s.graphs g).commandBuffers ∧ s.numDependentSubmissions r.1 = 0 ∧
      r.2.created = s.created ∧ r.2.graphs = Function.update s.graphs g cg) ∨
    ((∀ b ∈ (s.graphs g).commandBuffers, 0 < s.numDependentSubmissions b) ∧
      r.1 = s.created ∧ r.2.created = s.created + 1 ∧
      r.2.graphs = Function.update s.graphs g
        { cg with commandBuffers := (s.graphs g).commandBuffers ++ [s.created] }) := by
  simp only [record, acquireCommandBuffer]
  split
  · rename_i b hb
    have h := selectCommandBuffer_some hb
    simp only [setGraph_graphs, Function.update_same, setGraph_numDependentSubmissions,
      CommandGraph.ensureRecordTraversal_commandBuffers] at h
    exact .inl ⟨h.1, h.2, rfl, rfl⟩
  · rename_i hb
    have h := selectCommandBuffer_none hb
    simp only [setGraph_graphs, Function.update_same, setGraph_numDependentSubmissions,
      CommandGraph.ensureRecordTraversal_commandBuffers] at h
    refine .inr ⟨h, rfl, rfl, ?_⟩
    simp [Function.update_idem]

/-- A record raises the counter of the buffer it picked from zero to one and leaves every
other counter alone. -/
theorem record_numDependentSubmissions (s : GraphState) (g : Nat) :
    (s.record g).2.numDependentSubmissions =
      Function.update s.numDependentSubmissions (s.record g).1 1 := by
  simp only [record, acquireCommandBuffer]
  split
  · rename_i b hb
    have h := selectCommandBuffer_some hb
    simp only [setGraph_graphs, Function.update_same, setGraph_numDependentSubmissions,
      CommandGraph.ensureRecordTraversal_commandBuffers] at h
    simp [h.2]
  · simp

end GraphState

/-- The steps of a run: a record of graph `graph`, the completion of the work submitted in
buffer `commandBuffer`, and the `_maxSlot` assignment that `Viewer::compile` makes. -/
inductive Action
  | record (graph : Nat)
  | complete (commandBuffer : Nat)
  | compile (graph : Nat) (maxSlot : Nat)
  deriving DecidableEq, Repr

namespace GraphState

def step (s : GraphState) : Action → GraphState
  | .record g => (s.record g).2
  | .complete b => s.complete b
  | .compile g m => s.setMaxSlot g m

def run (s : GraphState) (acts : List Action) : GraphState := acts.foldl step s

@[simp] theorem run_nil (s : GraphState) : s.run [] = s := rfl

@[simp] theorem run_cons (s : GraphState) (a : Action) (acts : List Action) :
    s.run (a :: acts) = (s.step a).run acts := rfl

/-- Buffers of graph `g`'s pool with a pending submission. -/
def pendingCount (s : GraphState) (g : Nat) : Nat :=
  (s.graphs g).commandBuffers.countP fun b => 0 < s.numDependentSubmissions b

/-- The largest `pendingCount g` at the start of a record of `g` along a run. -/
def peakPending (g : Nat) : GraphState → List Action → Nat
  | _, [] => 0
  | s, a :: acts =>
    max (if a = .record g then s.pendingCount g else 0) (peakPending g (s.step a) acts)

/-- Only a record of `g` changes `g`'s pool. -/
theorem commandBuffers_step_of_ne (s : GraphState) {a : Action} {g : Nat} (ha : a ≠ .record g) :
    ((s.step a).graphs g).commandBuffers = (s.graphs g).commandBuffers := by
  cases a with
  | record g' =>
    have hg : g ≠ g' := fun h => ha (h ▸ rfl)
    rcases record_cases s g' with ⟨-, -, -, h⟩ | ⟨-, -, -, h⟩ <;>
      simp [step, h, Function.update_noteq hg]
  | complete b => rfl
  | compile g' m =>
    rcases eq_or_ne g g' with rfl | hg
    · simp [step, setMaxSlot]
    · simp [step, setMaxSlot, Function.update_noteq hg]

/-- A record of `g` pools the buffer it picked, and grows the pool only when every pooled
buffer has a pending submission. -/
theorem commandBuffers_record (s : GraphState) (g : Nat) :
    ((s.record g).2.graphs g).commandBuffers = (s.graphs g).commandBuffers ∨
    ((∀ b ∈ (s.graphs g).commandBuffers, 0 < s.numDependentSubmissions b) ∧
      ((s.record g).2.graphs g).commandBuffers = (s.graphs g).commandBuffers ++ [s.created]) := by
  rcases record_cases s g with ⟨-, -, -, h⟩ | ⟨hp, -, -, h⟩
  · exact .inl (by simp [h])
  · exact .inr ⟨hp, by simp [h]⟩

theorem length_commandBuffers_step (s : GraphState) (a : Action) (g : Nat) :
    ((s.step a).graphs g).commandBuffers.length ≤
      max (s.graphs g).commandBuffers.length (1 + if a = .record g then s.pendingCount g else 0) := by
  by_cases ha : a = .record g
  · subst ha
    rcases commandBuffers_record s g with h | ⟨hp, h⟩
    · simp [step, h]
    · have hall : s.pendingCount g = (s.graphs g).commandBuffers.length :=
        List.countP_eq_length.2 fun b hb => by simpa using hp b hb
      simp only [step, h, List.length_append, List.length_singleton, if_true, hall]
      omega
  · rw [commandBuffers_step_of_ne s ha]
    exact le_max_left _ _

/-- Along any run a pool grows past its initial size only to one more than the number of
its buffers pending at some record. -/
theorem length_commandBuffers_run (s : GraphState) (acts : List Action) (g : Nat) :
    ((s.run acts).graphs g).commandBuffers.length ≤
      max (s.graphs g).commandBuffers.length (1 + peakPending g s acts) := by
  induction acts generalizing s with
  | nil => simp
  | cons a acts ih =>
    have h₁ := length_commandBuffers_step s a g
    have h₂ := ih (s.step a)
    simp only [run_cons, peakPending]
    omega

/-- No counter exceeds one along a run that starts with every counter at zero. -/
theorem numDependentSubmissions_le_one_run (s : GraphState)
    (h : ∀ b, s.numDependentSubmissions b ≤ 1) (acts : List Action) (b : Nat) :
    (s.run acts).numDependentSubmissions b ≤ 1 := by
  induction acts generalizing s with
  | nil => exact h b
  | cons a acts ih =>
    refine ih _ fun b' => ?_
    cases a with
    | record g =>
      simp only [step, record_numDependentSubmissions, Function.update_apply]
      split_ifs <;> simp [h b']
    | complete c =>
      simp only [step, complete_numDependentSubmissions, Function.update_apply]
      split_ifs
      · exact (Nat.sub_le _ _).trans (h c)
      · exact h b'
    | compile g m => exact h b'

theorem record_fst_lt_created (s : GraphState) (g : Nat) :
    (s.record g).1 < (s.record g).2.created := by
  rcases record_cases s g with ⟨hm, -, hc, -⟩ | ⟨-, h1, hc, -⟩
  · rw [hc]; exact s.pooled_lt_created g _ hm
  · omega

/-- Buffers not created yet have no pending submission, along any run that starts so. -/
theorem numDependentSubmissions_run_of_created_le (s : GraphState)
    (h : ∀ b, s.created ≤ b → s.numDependentSubmissions b = 0) (acts : List Action) (b : Nat)
    (hb : (s.run acts).created ≤ b) : (s.run acts).numDependentSubmissions b = 0 := by
  induction acts generalizing s with
  | nil => exact h b hb
  | cons a acts ih =>
    refine ih _ (fun b' hb' => ?_) hb
    cases a with
    | record g =>
      have hlt := record_fst_lt_created s g
      have hc : s.created ≤ (s.record g).2.created := by
        rcases record_cases s g with ⟨-, -, hc, -⟩ | ⟨-, -, hc, -⟩ <;> omega
      simp only [step, record_numDependentSubmissions] at hb' ⊢
      rw [Function.update_noteq (by omega)]
      exact h b' (by omega)
    | complete c =>
      simp only [step, complete_numDependentSubmissions, Function.update_apply]
      split_ifs with hc
      · subst hc; simp [h b' hb']
      · exact h b' hb'
    | compile g m => exact h b' hb'

/-- The traversal a graph records with is made at its first record and never remade. -/
theorem recordTraversal_step (s : GraphState) (a : Action) (g : Nat) :
    ((s.step a).graphs g).recordTraversal =
      if a = .record g then some ((s.graphs g).recordTraversal.getD (s.graphs g).maxSlot)
      else (s.graphs g).recordTraversal := by
  cases a with
  | record g' =>
    rcases eq_or_ne g g' with rfl | hg
    · rcases record_cases s g with ⟨-, -, -, h⟩ | ⟨-, -, -, h⟩ <;> simp [step, h]
    · have hne : Action.record g' ≠ .record g := fun h => hg (by injection h; omega)
      rcases record_cases s g' with ⟨-, -, -, h⟩ | ⟨-, -, -, h⟩ <;>
        simp [step, h, Function.update_noteq hg, hne]
  | complete b => rfl
  | compile g' m =>
    rcases eq_or_ne g g' with rfl | hg
    · simp [step, setMaxSlot]
    · simp [step, setMaxSlot, Function.update_noteq hg]

end GraphState

/-- The `_maxSlot` graph `g` holds at its first record along a run, if it records. -/
def slotsAtFirstRecord (g : Nat) : GraphState → List Action → Option Nat
  | _, [] => none
  | s, a :: acts =>
    if a = .record g then some (s.graphs g).maxSlot else slotsAtFirstRecord g (s.step a) acts

theorem recordTraversal_run (s : GraphState) (acts : List Action) (g : Nat) :
    ((s.run acts).graphs g).recordTraversal =
      (s.graphs g).recordTraversal.or (slotsAtFirstRecord g s acts) := by
  induction acts generalizing s with
  | nil => simp [slotsAtFirstRecord]
  | cons a acts ih =>
    rw [GraphState.run_cons, ih, GraphState.recordTraversal_step, slotsAtFirstRecord]
    split_ifs
    · cases (s.graphs g).recordTraversal <;> rfl
    · rfl

/-- Along any run from a state where no buffer has a pending submission, each record picks a
buffer whose counter is zero (a pooled one, or a new one pooled because every pooled buffer
is pending), raises exactly that counter to one, and changes no other graph's pool; no
counter exceeds one, and a pool outgrows its initial size only to one more than the buffers
it had pending at a record. -/
theorem record_reuses_idle_command_buffer (s₀ : GraphState)
    (h₀ : ∀ b, s₀.numDependentSubmissions b = 0) (acts : List Action) (g : Nat) :
    let s := s₀.run acts
    let r := s.record g
    (∀ b, s.numDependentSubmissions b ≤ 1) ∧
    s.numDependentSubmissions r.1 = 0 ∧
    r.2.numDependentSubmissions = Function.update s.numDependentSubmissions r.1 1 ∧
    ((r.1 ∈ (s.graphs g).commandBuffers ∧
        (r.2.graphs g).commandBuffers = (s.graphs g).commandBuffers) ∨
      ((∀ g', r.1 ∉ (s.graphs g').commandBuffers) ∧
        (∀ b ∈ (s.graphs g).commandBuffers, 0 < s.numDependentSubmissions b) ∧
        (r.2.graphs g).commandBuffers = (s.graphs g).commandBuffers ++ [r.1])) ∧
    (∀ g', g' ≠ g → (r.2.graphs g').commandBuffers = (s.graphs g').commandBuffers) ∧
    (s.graphs g).commandBuffers.length ≤
      max (s₀.graphs g).commandBuffers.length (1 + GraphState.peakPending g s₀ acts) := by
  intro s r
  have hfresh : ∀ b, s.created ≤ b → s.numDependentSubmissions b = 0 :=
    GraphState.numDependentSubmissions_run_of_created_le s₀ (fun b _ => h₀ b) acts
  refine ⟨GraphState.numDependentSubmissions_le_one_run s₀ (fun b => h₀ b ▸ Nat.zero_le 1) acts, ?_,
    GraphState.record_numDependentSubmissions s g, ?_, fun g' hg => ?_,
    GraphState.length_commandBuffers_run s₀ acts g⟩
  · rcases GraphState.record_cases s g with ⟨-, h, -, -⟩ | ⟨-, h, -, -⟩
    · exact h
    · exact hfresh _ h.ge
  · rcases GraphState.record_cases s g with ⟨hm, -, -, h⟩ | ⟨hp, h1, -, h⟩
    · exact .inl ⟨hm, by simp [r, h]⟩
    · refine .inr ⟨fun g' hm => ?_, hp, by simp [r, h, h1]⟩
      have := s.pooled_lt_created g' (s.record g).1 hm
      omega
  · exact GraphState.commandBuffers_step_of_ne s (a := .record g) fun h => hg (Action.record.inj h).symm

/-- Two graphs made by `CommandGraph(Window*)` from one two-frame window: both pool the
window's buffers `0` and `1`. -/
def windowGraphs : GraphState where
  numDependentSubmissions _ := 0
  created := 2
  graphs g := ⟨0, 0, 0, [], [], none, if g ≤ 1 then [0, 1] else [], 0, none⟩
  pooled_lt_created g b hb := by
    simp only at hb
    split at hb <;> simp_all
    omega

theorem record_reuses_idle_command_buffer_windowGraphs :
    (∀ b, windowGraphs.numDependentSubmissions b = 0) ∧
    let acts := [.record 0, .record 1, .complete 0, .record 1]
    let s := windowGraphs.run acts
    let r := s.record 0
    (∀ b, s.numDependentSubmissions b ≤ 1) ∧
    s.numDependentSubmissions r.1 = 0 ∧
    r.2.numDependentSubmissions = Function.update s.numDependentSubmissions r.1 1 ∧
    ((r.1 ∈ (s.graphs 0).commandBuffers ∧
        (r.2.graphs 0).commandBuffers = (s.graphs 0).commandBuffers) ∨
      ((∀ g', r.1 ∉ (s.graphs g').commandBuffers) ∧
        (∀ b ∈ (s.graphs 0).commandBuffers, 0 < s.numDependentSubmissions b) ∧
        (r.2.graphs 0).commandBuffers = (s.graphs 0).commandBuffers ++ [r.1])) ∧
    (∀ g', g' ≠ 0 → (r.2.graphs g').commandBuffers = (s.graphs g').commandBuffers) ∧
    (s.graphs 0).commandBuffers.length ≤
      max (windowGraphs.graphs 0).commandBuffers.length
        (1 + GraphState.peakPending 0 windowGraphs acts) :=
  ⟨fun _ => rfl, record_reuses_idle_command_buffer windowGraphs (fun _ => rfl) _ 0⟩

/-- Every record runs with the traversal made at the graph's first record, for the
`_maxSlot` the graph held then; a later `Viewer::compile` does not remake it. -/
theorem record_uses_traversal_of_first_record (s₀ : GraphState) (acts : List Action) (g : Nat) :
    let s := s₀.run acts
    ((s.record g).2.graphs g).recordTraversal =
      some (((s₀.graphs g).recordTraversal.or (slotsAtFirstRecord g s₀ acts)).getD
        (s.graphs g).maxSlot) := by
  have h := GraphState.recordTraversal_step (s₀.run acts) (.record g) g
  rw [if_pos rfl, recordTraversal_run] at h
  exact h

/-- A compile that raises `_maxSlot` after the first record leaves the next record with a
traversal made for fewer slots. -/
theorem record_traversal_misses_raised_maxSlot :
    let s₀ : GraphState := ⟨fun _ => 0, 0, fun _ => ⟨0, 0, -1, [], [], none, [], 0, none⟩,
      by simp⟩
    let s := s₀.run [.compile 0 1, .record 0, .compile 0 2]
    ((s.record 0).2.graphs 0).recordTraversal = some 1 ∧ (s.graphs 0).maxSlot = 2 :=
  ⟨record_uses_traversal_of_first_record _ [.compile 0 1, .record 0, .compile 0 2] 0, rfl⟩

end VulkanSceneGraph
