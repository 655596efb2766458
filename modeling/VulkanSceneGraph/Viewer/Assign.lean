import VulkanSceneGraph.Viewer.Basic

/-!
# `Viewer::assignRecordAndSubmitTaskAndPresentation`

The input command graphs are grouped in a `std::map` keyed by device, queue family and
present family. Each group becomes one record-and-submit task on the device's queue for the
queue family; a group with a present family also gets a fresh semaphore, signalled by the
task and waited on by a new presentation, and both carry the group's windows. In that case
each primary is preceded in the task by the secondary command graphs that the
`ExecuteCommands` nodes below it execute.
-/
namespace VulkanSceneGraph

structure DeviceQueueFamily where
  device : Nat
  queueFamily : Int
  presentFamily : Int
  deriving DecidableEq, Repr

namespace DeviceQueueFamily

/-- `DeviceQueueFamily::operator<`. -/
def lt (a b : DeviceQueueFamily) : Bool :=
  if a.device < b.device then true
  else if a.device > b.device then false
  else if a.queueFamily < b.queueFamily then true
  else if a.queueFamily > b.queueFamily then false
  else a.presentFamily < b.presentFamily

theorem lt_eq_true_iff (a b : DeviceQueueFamily) : lt a b = true ↔
    a.device < b.device ∨ a.device = b.device ∧ (a.queueFamily < b.queueFamily ∨
      a.queueFamily = b.queueFamily ∧ a.presentFamily < b.presentFamily) := by
  unfold lt
  split_ifs <;> simp <;> omega

theorem lt_strictOrder : StrictOrder lt where
  irrefl a := by simp only [Bool.eq_false_iff, ne_eq, lt_eq_true_iff]; omega
  trans a b c := by simp only [lt_eq_true_iff]; omega
  total a b h := by
    obtain ⟨d, q, p⟩ := a
    obtain ⟨d', q', p'⟩ := b
    simp only [ne_eq, mk.injEq] at h
    simp only [lt_eq_true_iff]
    omega

end DeviceQueueFamily

/-- `CollectSecondaryCommandGraph`: it traverses groups (a `StateGroup` is one; its state
commands are not children) and collects the command graphs of every `ExecuteCommands`. -/
def collectSecondaries : Node → List Nat
  | .group children => collectChildren children
  | .stateGroup _ children => collectChildren children
  | .other _ => []
  | .bindGraphicsPipeline _ => []
  | .executeCommands cmdgraphs => cmdgraphs
  | .command _ => []
where
  collectChildren : List Node → List Nat
    | [] => []
    | n :: ns => collectSecondaries n ++ collectChildren ns

namespace Viewer

/-- The key of command graph `g` in `deviceCommandGraphsMap`. -/
def deviceQueueFamily (v : Viewer) (g : Nat) : DeviceQueueFamily :=
  ⟨(v.graph g).device, (v.graph g).queueFamily, (v.graph g).presentFamily⟩

/-- `deviceCommandGraphsMap`: the input graphs grouped by key, in input order. -/
def deviceCommandGraphsMap (v : Viewer) (in_commandGraphs : List Nat) :
    OrderedMap DeviceQueueFamily (List Nat) :=
  in_commandGraphs.foldl
    (fun m g => OrderedMap.update DeviceQueueFamily.lt (v.deviceQueueFamily g) [] (· ++ [g]) m) []

/-- `uniqueWindows`, the `std::set<Window*>` of the windows of a group's graphs. -/
def uniqueWindows (v : Viewer) (commandGraphs : List Nat) : List Nat :=
  commandGraphs.foldl (fun s g => (v.graph g).windows.foldl (fun s w => setInsert natLt w s) s) []

/-- The secondaries that primary `g` executes, as `CollectSecondaryCommandGraph` finds them. -/
def secondaries (v : Viewer) (g : Nat) : List Nat :=
  collectSecondaries.collectChildren (v.graph g).children

/-- The loop over the primaries of a presenting group: each primary follows the secondaries
it executes, and each of those gets `_primary` set to it. -/
def collectEffective (v : Viewer) (commandGraphs : List Nat) : Viewer × List Nat :=
  commandGraphs.foldl (fun r primary =>
    ((r.1.secondaries primary).foldl (fun v sec => v.setPrimary sec primary) r.1,
      r.2 ++ r.1.secondaries primary ++ [primary])) (v, [])

/-- The body of the loop over `deviceCommandGraphsMap`. -/
def assignGroup (databasePager : Option Nat) (v : Viewer) (deviceQueueFamily : DeviceQueueFamily)
    (commandGraphs : List Nat) : Viewer :=
  let device := deviceQueueFamily.device
  if 0 ≤ deviceQueueFamily.presentFamily then
    let windows := v.uniqueWindows commandGraphs
    let renderFinishedSemaphore := v.nextSemaphore
    let r := { v with nextSemaphore := v.nextSemaphore + 1 }.collectEffective commandGraphs
    { r.1 with
      recordAndSubmitTasks := r.1.recordAndSubmitTasks ++
        [⟨r.2, [renderFinishedSemaphore], databasePager, windows,
          getQueue device deviceQueueFamily.queueFamily⟩]
      presentations := r.1.presentations ++
        [⟨[renderFinishedSemaphore], windows, getQueue device deviceQueueFamily.presentFamily⟩] }
  else
    { v with
      recordAndSubmitTasks := v.recordAndSubmitTasks ++
        [⟨commandGraphs, [], databasePager, [], getQueue device deviceQueueFamily.queueFamily⟩] }

/-- `Viewer::assignRecordAndSubmitTaskAndPresentation`. -/
def assignRecordAndSubmitTaskAndPresentation (v : Viewer) (in_commandGraphs : List Nat)
    (databasePager : Option Nat) : Viewer :=
  (v.deviceCommandGraphsMap in_commandGraphs).foldl
    (fun v e => assignGroup databasePager v e.1 e.2) v

/-! ### The grouping map -/

theorem foldl_update_spec (v : Viewer) (gs : List Nat) (m : OrderedMap DeviceQueueFamily (List Nat))
    (hs : OrderedMap.Sorted DeviceQueueFamily.lt m) :
    let m' := gs.foldl
      (fun m g => OrderedMap.update DeviceQueueFamily.lt (v.deviceQueueFamily g) [] (· ++ [g]) m) m
    OrderedMap.Sorted DeviceQueueFamily.lt m' ∧
    (∀ k, k ∈ OrderedMap.keys m' ↔ k ∈ OrderedMap.keys m ∨ ∃ g ∈ gs, v.deviceQueueFamily g = k) ∧
    ∀ k, (OrderedMap.find? k m').getD [] =
      (OrderedMap.find? k m).getD [] ++ gs.filter (v.deviceQueueFamily · = k) := by
  induction gs generalizing m with
  | nil => simp [hs]
  | cons g gs ih =>
    have ho := DeviceQueueFamily.lt_strictOrder
    obtain ⟨hs', hk, hf⟩ := ih _ (OrderedMap.sorted_update ho hs)
    simp only [List.foldl_cons]
    refine ⟨hs', fun k => ?_, fun k => ?_⟩
    · rw [hk, OrderedMap.mem_keys_update ho]
      simp only [List.mem_cons, exists_eq_or_imp, @eq_comm _ k]
      exact or_assoc.trans or_left_comm
    · rw [hf]
      by_cases h : v.deviceQueueFamily g = k
      · subst h
        simp [OrderedMap.find?_update_self ho hs, List.filter_cons]
      · simp [OrderedMap.find?_update_ne ho (Ne.symm h), List.filter_cons, h]

/-- `deviceCommandGraphsMap` has one entry per key of the input, holding the input graphs
with that key in input order. -/
theorem deviceCommandGraphsMap_spec (v : Viewer) (gs : List Nat) :
    let m := v.deviceCommandGraphsMap gs
    (OrderedMap.keys m).Nodup ∧
    (∀ k, k ∈ OrderedMap.keys m ↔ ∃ g ∈ gs, v.deviceQueueFamily g = k) ∧
    ∀ e ∈ m, e.2 = gs.filter (v.deviceQueueFamily · = e.1) := by
  obtain ⟨hs, hk, hf⟩ := foldl_update_spec v gs [] (List.Pairwise.nil)
  have hn := OrderedMap.Sorted.nodup DeviceQueueFamily.lt_strictOrder hs
  refine ⟨hn, fun k => by simpa using hk k, fun e he => ?_⟩
  have := hf e.1
  rw [OrderedMap.find?_of_mem hn he] at this
  simpa using this

/-! ### What the loop body reads of the command graphs -/

/-- `v'` holds the command graphs of `v` with at most their `_primary` changed. -/
def SameGraphs (v v' : Viewer) : Prop :=
  ∀ g, v'.graph g = { v.graph g with primary := (v'.graph g).primary }

theorem SameGraphs.refl (v : Viewer) : SameGraphs v v := fun _ => rfl

theorem SameGraphs.trans {v₁ v₂ v₃ : Viewer} (h₁ : SameGraphs v₁ v₂) (h₂ : SameGraphs v₂ v₃) :
    SameGraphs v₁ v₃ := fun g => by rw [h₂ g, h₁ g]

theorem sameGraphs_setPrimary (v : Viewer) (g primary : Nat) : SameGraphs v (v.setPrimary g primary) :=
  fun g' => by by_cases h : g' = g <;> simp [h]

theorem SameGraphs.deviceQueueFamily {v v' : Viewer} (h : SameGraphs v v') :
    v'.deviceQueueFamily = v.deviceQueueFamily := by
  funext g; simp only [Viewer.deviceQueueFamily]; rw [h g]

theorem SameGraphs.graph_windows {v v' : Viewer} (h : SameGraphs v v') (g : Nat) :
    (v'.graph g).windows = (v.graph g).windows := by rw [h g]

theorem SameGraphs.uniqueWindows {v v' : Viewer} (h : SameGraphs v v') :
    v'.uniqueWindows = v.uniqueWindows := by
  funext gs; simp only [Viewer.uniqueWindows, h.graph_windows]

theorem SameGraphs.secondaries {v v' : Viewer} (h : SameGraphs v v') :
    v'.secondaries = v.secondaries := by
  funext g; simp only [Viewer.secondaries]; rw [h g]

/-! ### The loop body -/

theorem foldl_setPrimary (v : Viewer) (secs : List Nat) (primary : Nat) :
    let v' := secs.foldl (fun v sec => v.setPrimary sec primary) v
    SameGraphs v v' ∧ v'.recordAndSubmitTasks = v.recordAndSubmitTasks ∧
      v'.presentations = v.presentations ∧ v'.nextSemaphore = v.nextSemaphore := by
  induction secs generalizing v with
  | nil => exact ⟨SameGraphs.refl v, rfl, rfl, rfl⟩
  | cons sec secs ih =>
    obtain ⟨h₁, h₂, h₃, h₄⟩ := ih (v.setPrimary sec primary)
    exact ⟨(sameGraphs_setPrimary v sec primary).trans h₁, h₂, h₃, h₄⟩

theorem foldl_collectEffective (v₀ v : Viewer) (h : SameGraphs v₀ v) (effective gs : List Nat) :
    let r := gs.foldl (fun (r : Viewer × List Nat) primary =>
      ((r.1.secondaries primary).foldl (fun v sec => v.setPrimary sec primary) r.1,
        r.2 ++ r.1.secondaries primary ++ [primary])) (v, effective)
    SameGraphs v₀ r.1 ∧ r.1.recordAndSubmitTasks = v.recordAndSubmitTasks ∧
      r.1.presentations = v.presentations ∧ r.1.nextSemaphore = v.nextSemaphore ∧
      r.2 = effective ++ gs.flatMap fun primary => v₀.secondaries primary ++ [primary] := by
  induction gs generalizing v effective with
  | nil => simp [h]
  | cons primary gs ih =>
    obtain ⟨h₁, h₂, h₃, h₄⟩ := foldl_setPrimary v (v.secondaries primary) primary
    obtain ⟨k₁, k₂, k₃, k₄, k₅⟩ := ih _ (h.trans h₁) (effective ++ v.secondaries primary ++ [primary])
    refine ⟨k₁, k₂.trans h₂, k₃.trans h₃, k₄.trans h₄, ?_⟩
    rw [List.foldl_cons, k₅, h.secondaries]
    simp

/-- The loop over the primaries puts each primary after the secondaries it executes and
changes nothing but `_primary` fields. -/
theorem collectEffective_spec (v : Viewer) (gs : List Nat) :
    let r := v.collectEffective gs
    SameGraphs v r.1 ∧ r.1.recordAndSubmitTasks = v.recordAndSubmitTasks ∧
      r.1.presentations = v.presentations ∧ r.1.nextSemaphore = v.nextSemaphore ∧
      r.2 = gs.flatMap fun primary => v.secondaries primary ++ [primary] := by
  have := foldl_collectEffective v v (SameGraphs.refl v) [] gs
  rwa [List.nil_append] at this

theorem foldl_setInsert (ws s : List Nat) (hs : s.Pairwise fun a b => natLt a b = true) :
    let s' := ws.foldl (fun s w => setInsert natLt w s) s
    (s'.Pairwise fun a b => natLt a b = true) ∧ ∀ a, a ∈ s' ↔ a ∈ s ∨ a ∈ ws := by
  induction ws generalizing s with
  | nil => simp [hs]
  | cons w ws ih =>
    obtain ⟨h₁, h₂⟩ := ih _ (pairwise_setInsert natLt_strictOrder hs)
    refine ⟨h₁, fun a => ?_⟩
    rw [List.foldl_cons, h₂, mem_setInsert natLt_strictOrder, List.mem_cons]
    exact or_assoc.trans or_left_comm

theorem foldl_uniqueWindows (v : Viewer) (gs s : List Nat)
    (hs : s.Pairwise fun a b => natLt a b = true) :
    let s' := gs.foldl (fun s g => (v.graph g).windows.foldl (fun s w => setInsert natLt w s) s) s
    (s'.Pairwise fun a b => natLt a b = true) ∧
      ∀ w, w ∈ s' ↔ w ∈ s ∨ ∃ g ∈ gs, w ∈ (v.graph g).windows := by
  induction gs generalizing s with
  | nil => simp [hs]
  | cons g gs ih =>
    obtain ⟨h₁, h₂⟩ := foldl_setInsert (v.graph g).windows s hs
    obtain ⟨k₁, k₂⟩ := ih _ h₁
    refine ⟨k₁, fun w => ?_⟩
    rw [List.foldl_cons, k₂, h₂]
    simp only [List.mem_cons, exists_eq_or_imp]
    exact or_assoc

/-- `uniqueWindows` holds each window of the group's graphs once. -/
theorem uniqueWindows_spec (v : Viewer) (gs : List Nat) :
    (v.uniqueWindows gs).Nodup ∧ ∀ w, w ∈ v.uniqueWindows gs ↔ ∃ g ∈ gs, w ∈ (v.graph g).windows := by
  obtain ⟨h₁, h₂⟩ := foldl_uniqueWindows v gs [] List.Pairwise.nil
  exact ⟨h₁.imp natLt_strictOrder.ne, fun w => by simpa using h₂ w⟩

theorem sublist_flatMap (f : Nat → List Nat) (gs : List Nat) :
    gs.Sublist (gs.flatMap fun g => f g ++ [g]) := by
  induction gs with
  | nil => simp
  | cons g gs ih =>
    simp only [List.flatMap_cons, List.append_assoc, List.singleton_append]
    exact ((ih.cons₂ g).trans (List.sublist_append_right _ _))

theorem filterMap_cons_toList {α β : Type} (f : α → Option β) (a : α) (l : List α) :
    (a :: l).filterMap f = (f a).toList ++ l.filterMap f := by
  rw [List.filterMap_cons]; cases f a <;> rfl

/-- Consecutive runs of numbers join into one. -/
theorem range'_append_sub {a b c : Nat} (h₁ : a ≤ b) (h₂ : b ≤ c) :
    List.range' a (b - a) ++ List.range' b (c - b) = List.range' a (c - a) := by
  obtain ⟨d, rfl⟩ := Nat.exists_eq_add_of_le h₁
  obtain ⟨e, rfl⟩ := Nat.exists_eq_add_of_le h₂
  rw [Nat.add_sub_cancel_left, Nat.add_sub_cancel_left, Nat.add_assoc, Nat.add_sub_cancel_left,
    Nat.add_comm d]
  exact List.range'_append_1 a d e

end Viewer

/-- What the assignment makes for one key: the key's input graphs (its primaries), its task
and, for a presenting key, its presentation. -/
structure Assigned where
  key : DeviceQueueFamily
  primaries : List Nat
  task : RecordAndSubmitTask
  presentation : Option Presentation

/-- The task and presentation made for a key of viewer `v`: the task holds the primaries
in order, on the device's queue for the queue family; a presenting key's task signals one
semaphore, which its presentation waits on, and both carry the primaries' windows once
each; any other key has no presentation, no semaphore and no windows. -/
def Assigned.Spec (v : Viewer) (databasePager : Option Nat) (a : Assigned) : Prop :=
  a.primaries.Sublist a.task.commandGraphs ∧
  a.task.queue = getQueue a.key.device a.key.queueFamily ∧
  a.task.databasePager = databasePager ∧
  if 0 ≤ a.key.presentFamily then
    ∃ s, a.task.signalSemaphores = [s] ∧
      a.presentation = some ⟨[s], a.task.windows, getQueue a.key.device a.key.presentFamily⟩ ∧
      a.task.windows.Nodup ∧ ∀ w, w ∈ a.task.windows ↔ ∃ g ∈ a.primaries, w ∈ (v.graph g).windows
  else
    a.presentation = none ∧ a.task.signalSemaphores = [] ∧ a.task.windows = [] ∧
      a.task.commandGraphs = a.primaries

namespace Viewer

/-- One step of the loop over the groups makes one `Assigned` that meets its spec: a
presenting group takes the next semaphore and gets a task and a presentation, any other
group a task only; the command graphs change in their `_primary` fields at most. -/
theorem assignGroup_assigned (databasePager : Option Nat) {v₀ v : Viewer} (h : SameGraphs v₀ v)
    (k : DeviceQueueFamily) (gs : List Nat) :
    let v' := assignGroup databasePager v k gs
    ∃ a : Assigned, (a.key, a.primaries) = (k, gs) ∧ SameGraphs v v' ∧
      v'.recordAndSubmitTasks = v.recordAndSubmitTasks ++ [a.task] ∧
      v'.presentations = v.presentations ++ a.presentation.toList ∧
      a.task.signalSemaphores.head?.toList =
        List.range' v.nextSemaphore (v'.nextSemaphore - v.nextSemaphore) ∧
      v.nextSemaphore ≤ v'.nextSemaphore ∧ a.Spec v₀ databasePager := by
  have hw := uniqueWindows_spec v₀ gs
  rw [← h.uniqueWindows] at hw
  by_cases hp : 0 ≤ k.presentFamily
  · obtain ⟨h₁, h₂, h₃, h₄, h₅⟩ :=
      collectEffective_spec { v with nextSemaphore := v.nextSemaphore + 1 } gs
    refine ⟨⟨k, gs, ⟨gs.flatMap (fun p => v.secondaries p ++ [p]), [v.nextSemaphore],
        databasePager, v.uniqueWindows gs, getQueue k.device k.queueFamily⟩,
        some ⟨[v.nextSemaphore], v.uniqueWindows gs, getQueue k.device k.presentFamily⟩⟩,
      rfl, ?_⟩
    simp only [assignGroup, if_pos hp]
    refine ⟨h₁, by simp [h₂, h₅]; rfl, by simp [h₃], by simp [h₄], by simp [h₄],
      sublist_flatMap _ gs, rfl, rfl, ?_⟩
    rw [if_pos hp]
    exact ⟨_, rfl, rfl, hw.1, hw.2⟩
  · refine ⟨⟨k, gs, ⟨gs, [], databasePager, [], getQueue k.device k.queueFamily⟩, none⟩, rfl, ?_⟩
    have hv : assignGroup databasePager v k gs = { v with recordAndSubmitTasks :=
        v.recordAndSubmitTasks ++ [⟨gs, [], databasePager, [], getQueue k.device k.queueFamily⟩] } :=
      if_neg hp
    rw [hv]
    refine ⟨SameGraphs.refl v, rfl, by simp, by simp, le_rfl, List.Sublist.refl _, rfl, rfl, ?_⟩
    rw [if_neg hp]
    exact ⟨rfl, rfl, rfl, rfl⟩

theorem foldl_assignGroup (databasePager : Option Nat) (v₀ : Viewer)
    (es : List (DeviceQueueFamily × List Nat)) (v : Viewer) (h : SameGraphs v₀ v) :
    let v' := es.foldl (fun v e => assignGroup databasePager v e.1 e.2) v
    ∃ as : List Assigned, as.map (fun a => (a.key, a.primaries)) = es ∧
      v'.recordAndSubmitTasks = v.recordAndSubmitTasks ++ as.map (·.task) ∧
      v'.presentations = v.presentations ++ as.filterMap (·.presentation) ∧
      as.filterMap (fun a => a.task.signalSemaphores.head?) =
        List.range' v.nextSemaphore (v'.nextSemaphore - v.nextSemaphore) ∧
      v.nextSemaphore ≤ v'.nextSemaphore ∧ SameGraphs v₀ v' ∧ ∀ a ∈ as, a.Spec v₀ databasePager := by
  induction es generalizing v with
  | nil => exact ⟨[], rfl, by simp, by simp, by simp, le_rfl, h, by simp⟩
  | cons e es ih =>
    obtain ⟨a, ha, hg, ht, hp, hsem, hle, hspec⟩ := assignGroup_assigned databasePager h e.1 e.2
    obtain ⟨as, hkeys, ht', hp', hsem', hle', hsame, hspec'⟩ := ih _ (h.trans hg)
    simp only [List.foldl_cons]
    refine ⟨a :: as, by simp [ha, hkeys], by simp [ht', ht],
      by rw [hp', hp, filterMap_cons_toList, List.append_assoc], ?_, by omega, hsame,
      List.forall_mem_cons.2 ⟨hspec, hspec'⟩⟩
    rw [filterMap_cons_toList, hsem, hsem', range'_append_sub hle hle']

/-- From `v` to `v'` only the tasks, the presentations, the semaphore count, which does not
go down, and the command graphs change, with every buffer's counter and the number of
buffers created kept. -/
structure OnlyAssigns (v v' : Viewer) : Prop where
  windowStore : v'.windowStore = v.windowStore
  windows : v'.windows = v.windows
  deviceMap : v'.deviceMap = v.deviceMap
  frameStamp : v'.frameStamp = v.frameStamp
  events : v'.events = v.events
  close : v'.close = v.close
  calls : v'.calls = v.calls
  nextSemaphore : v.nextSemaphore ≤ v'.nextSemaphore
  numDependentSubmissions :
    v'.graphState.numDependentSubmissions = v.graphState.numDependentSubmissions
  created : v'.graphState.created = v.graphState.created

theorem OnlyAssigns.refl (v : Viewer) : OnlyAssigns v v :=
  ⟨rfl, rfl, rfl, rfl, rfl, rfl, rfl, le_rfl, rfl, rfl⟩

theorem OnlyAssigns.trans {v₁ v₂ v₃ : Viewer} (h₁ : OnlyAssigns v₁ v₂) (h₂ : OnlyAssigns v₂ v₃) :
    OnlyAssigns v₁ v₃ :=
  ⟨h₂.1.trans h₁.1, h₂.2.trans h₁.2, h₂.3.trans h₁.3, h₂.4.trans h₁.4, h₂.5.trans h₁.5,
    h₂.6.trans h₁.6, h₂.7.trans h₁.7, h₁.8.trans h₂.8, h₂.9.trans h₁.9, h₂.10.trans h₁.10⟩

/-- A loop whose every turn only assigns only assigns; `view` reads the viewer off the loop's
state. -/
theorem OnlyAssigns.foldl {α β : Type} (view : β → Viewer) (f : β → α → β)
    (hf : ∀ b a, OnlyAssigns (view b) (view (f b a))) (l : List α) (b : β) :
    OnlyAssigns (view b) (view (l.foldl f b)) := by
  induction l generalizing b with
  | nil => exact .refl _
  | cons a l ih => exact (hf b a).trans (ih _)

theorem onlyAssigns_setPrimary (v : Viewer) (g primary : Nat) :
    OnlyAssigns v (v.setPrimary g primary) :=
  ⟨rfl, rfl, rfl, rfl, rfl, rfl, rfl, le_rfl, rfl, rfl⟩

theorem onlyAssigns_collectEffective (v : Viewer) (gs : List Nat) :
    OnlyAssigns v (v.collectEffective gs).1 :=
  OnlyAssigns.foldl Prod.fst (fun r primary =>
      ((r.1.secondaries primary).foldl (fun v sec => v.setPrimary sec primary) r.1,
        r.2 ++ r.1.secondaries primary ++ [primary]))
    (fun r p => OnlyAssigns.foldl id (fun v sec => v.setPrimary sec p)
      (fun v sec => onlyAssigns_setPrimary v sec p) _ r.1) gs (v, [])

theorem onlyAssigns_assignGroup (databasePager : Option Nat) (v : Viewer)
    (k : DeviceQueueFamily) (gs : List Nat) : OnlyAssigns v (assignGroup databasePager v k gs) := by
  unfold assignGroup
  split_ifs
  · have h := onlyAssigns_collectEffective { v with nextSemaphore := v.nextSemaphore + 1 } gs
    exact ⟨h.1, h.2, h.3, h.4, h.5, h.6, h.7, (Nat.le_succ _).trans h.8, h.9, h.10⟩
  · exact ⟨rfl, rfl, rfl, rfl, rfl, rfl, rfl, le_rfl, rfl, rfl⟩

/-- `assignRecordAndSubmitTaskAndPresentation` changes nothing but the tasks, the
presentations, the semaphore count and the command graphs' `_primary`. -/
theorem onlyAssigns_assignRecordAndSubmitTaskAndPresentation (v : Viewer)
    (in_commandGraphs : List Nat) (databasePager : Option Nat) :
    OnlyAssigns v (v.assignRecordAndSubmitTaskAndPresentation in_commandGraphs databasePager) :=
  OnlyAssigns.foldl id (fun v (e : DeviceQueueFamily × List Nat) =>
    assignGroup databasePager v e.1 e.2) (fun v e => onlyAssigns_assignGroup databasePager v e.1 e.2)
    _ v

end Viewer

/-- `assignRecordAndSubmitTaskAndPresentation` appends one task per key occurring in the
input, whose primaries are the key's input graphs in input order, and one presentation per
presenting key; the semaphores it signals are fresh and distinct. -/
theorem assignRecordAndSubmitTaskAndPresentation_groups (v : Viewer) (in_commandGraphs : List Nat)
    (databasePager : Option Nat) :
    let v' := v.assignRecordAndSubmitTaskAndPresentation in_commandGraphs databasePager
    ∃ as : List Assigned,
      v'.recordAndSubmitTasks = v.recordAndSubmitTasks ++ as.map (·.task) ∧
      v'.presentations = v.presentations ++ as.filterMap (·.presentation) ∧
      (as.map (·.key)).Nodup ∧
      (∀ k, k ∈ as.map (·.key) ↔ ∃ g ∈ in_commandGraphs, v.deviceQueueFamily g = k) ∧
      as.filterMap (fun a => a.task.signalSemaphores.head?) =
        List.range' v.nextSemaphore (v'.nextSemaphore - v.nextSemaphore) ∧
      ∀ a ∈ as, a.primaries = in_commandGraphs.filter (v.deviceQueueFamily · = a.key) ∧
        a.Spec v databasePager := by
  obtain ⟨hn, hk, hf⟩ := v.deviceCommandGraphsMap_spec in_commandGraphs
  obtain ⟨as, hes, ht, hp, hsem, -, -, hspec⟩ :=
    Viewer.foldl_assignGroup databasePager v (v.deviceCommandGraphsMap in_commandGraphs) v
      (Viewer.SameGraphs.refl v)
  have hkeys : as.map (·.key) = OrderedMap.keys (v.deviceCommandGraphsMap in_commandGraphs) := by
    rw [← hes]; simp [OrderedMap.keys, Function.comp_def]
  refine ⟨as, ht, hp, hkeys ▸ hn, fun k => hkeys ▸ hk k, hsem, fun a ha => ⟨?_, hspec a ha⟩⟩
  have := hf (a.key, a.primaries) (hes ▸ List.mem_map_of_mem _ ha)
  exact this

/-- Command graphs 0 and 2 are primaries of one key whose scenes execute command graph 1
through an `ExecuteCommands` node; none has a command buffer yet. -/
def sharedSecondaryGraphs (presentFamily : Int) : GraphState where
  numDependentSubmissions _ := 0
  created := 0
  graphs g := ⟨0, 0, presentFamily, [], if g = 1 then [] else [.executeCommands [1]], none, [], 0,
    none⟩
  pooled_lt_created _ _ hb := by simp at hb

/-- A new viewer over `sharedSecondaryGraphs`. -/
def sharedSecondaryViewer (presentFamily : Int) : Viewer :=
  Viewer.create (fun _ => freshWindow) (sharedSecondaryGraphs presentFamily)

/-- Without a present family the task holds the primary alone and the secondary it executes
is neither recorded nor told its primary; with one, a secondary that two primaries execute
is recorded twice and keeps the last primary. -/
theorem secondaries_dropped_offscreen_repeated_when_shared :
    ((sharedSecondaryViewer (-1)).assignRecordAndSubmitTaskAndPresentation [0]
        none).recordAndSubmitTasks.map (·.commandGraphs) = [[0]] ∧
      (((sharedSecondaryViewer (-1)).assignRecordAndSubmitTaskAndPresentation [0]
        none).graph 1).primary = none ∧
      ((sharedSecondaryViewer 0).assignRecordAndSubmitTaskAndPresentation [0, 2]
        none).recordAndSubmitTasks.map (·.commandGraphs) = [[1, 0, 1, 2]] ∧
      (((sharedSecondaryViewer 0).assignRecordAndSubmitTaskAndPresentation [0, 2]
        none).graph 1).primary = some 2 :=
  ⟨rfl, rfl, rfl, rfl⟩

end VulkanSceneGraph
