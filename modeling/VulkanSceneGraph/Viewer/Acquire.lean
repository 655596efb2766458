import VulkanSceneGraph.Viewer.Frame

/-!
# How `acquireNextFrame` retries

`Viewer::acquireNextFrame` takes the windows of `_windows` in turn. A window's turn calls its
`acquireNextImage`; while the result is `VK_ERROR_OUT_OF_DATE_KHR` and fewer than
`maximumTries` resizes were made, it waits until every device's present queue is idle,
resizes the window and calls `acquireNextImage` again. The loop stops after the first window
whose last result is not `VK_SUCCESS`, and the frame cache is reassigned after any resize.

A turn is summed up by its number of resizes and its last result (`Tries`): its results are
that many `VK_ERROR_OUT_OF_DATE_KHR` followed by the last one, and its calls follow from
them. The driver's answers are used in order, one for each `acquireNextImage`. Only
`VK_ERROR_OUT_OF_DATE_KHR` is retried: a `VK_SUBOPTIMAL_KHR` ends the window's turn, and the
frame, as a failure.
-/
namespace VulkanSceneGraph

/-- One window's turn in `acquireNextFrame`: the `numTries` resizes it made, each after a
`VK_ERROR_OUT_OF_DATE_KHR`, and the `result` of its last `acquireNextImage`. -/
structure Tries where
  numTries : Nat
  result : VkResult
  deriving DecidableEq, Repr

namespace Tries

/-- The results of the turn's `acquireNextImage` calls, in order. -/
def results (t : Tries) : List VkResult :=
  List.replicate t.numTries .errorOutOfDate ++ [t.result]

/-- The calls of the turn of `window`: an `acquireNextImage`, then for each resize a
`waitIdle` on every present queue, the resize and another `acquireNextImage`. -/
def calls (presentQueues : List (Option Queue)) (window : Nat) (t : Tries) : List Call :=
  .acquireNextImage window :: (List.replicate t.numTries
    (presentQueues.map .waitIdle ++ [.resize window, .acquireNextImage window])).flatten

/-- The bound of the `while` loop: at most `tries` resizes, and a last result of
`VK_ERROR_OUT_OF_DATE_KHR` only when the bound stopped the loop. -/
def Bounded (tries : Nat) (t : Tries) : Prop :=
  t.numTries ≤ tries ∧ (t.result = .errorOutOfDate → t.numTries = tries)

@[simp] theorem length_results (t : Tries) : t.results.length = t.numTries + 1 := by
  simp [results]

theorem calls_succ (presentQueues : List (Option Queue)) (window numTries : Nat)
    (result : VkResult) :
    calls presentQueues window ⟨numTries + 1, result⟩ =
      .acquireNextImage window :: presentQueues.map .waitIdle ++
        .resize window :: calls presentQueues window ⟨numTries, result⟩ := by
  simp [calls, List.replicate_succ]

/-- A turn's results, read off the driver's answers from number `n` on. -/
theorem results_eq_range' (f : Nat → VkResult) (n : Nat) (t : Tries)
    (hood : ∀ i < t.numTries, f (n + i) = .errorOutOfDate) (hr : f (n + t.numTries) = t.result) :
    t.results = (List.range' n (t.numTries + 1)).map f := by
  obtain ⟨numTries, result⟩ := t
  simp only at hood hr ⊢
  induction numTries generalizing n with
  | zero => simpa [results] using hr.symm
  | succ k ih =>
    have hrest := ih (n + 1) (fun i hi => by
      rw [Nat.add_right_comm]; exact hood (i + 1) (by omega))
      (by rw [Nat.add_right_comm]; exact hr)
    have h0 : f n = .errorOutOfDate := hood 0 (Nat.succ_pos k)
    rw [List.range'_succ, List.map_cons, ← hrest, h0]
    simp [results, List.replicate_succ]

/-- The loop ends in `VK_SUCCESS` exactly when it reached all `n` windows and every turn
ended in `VK_SUCCESS`. -/
theorem getD_result_eq_success {turns : List Tries} {n : Nat} (hlen : turns.length ≤ n)
    (hdrop : ∀ t ∈ turns.dropLast, t.result = .success)
    (hlast : turns.length < n → ∃ t, turns.getLast? = some t ∧ t.result ≠ .success) :
    (turns.getLast?.map result).getD .success = .success ↔
      turns.length = n ∧ ∀ t ∈ turns, t.result = .success := by
  constructor
  · intro h
    have hall : ∀ t ∈ turns, t.result = .success := by
      intro t ht
      obtain ⟨u, hu⟩ := Option.ne_none_iff_exists'.1
        (mt List.getLast?_eq_none_iff.1 (List.ne_nil_of_mem ht))
      rw [← List.dropLast_append_getLast? u hu] at ht
      rcases List.mem_append.1 ht with ht | ht
      · exact hdrop t ht
      · simpa [List.mem_singleton.1 ht, hu] using h
    refine ⟨by_contra fun hne => ?_, hall⟩
    obtain ⟨u, hu, hur⟩ := hlast (lt_of_le_of_ne hlen hne)
    exact hur (hall u (List.mem_of_mem_getLast? hu))
  · rintro ⟨-, hall⟩
    cases hu : turns.getLast? with
    | none => rfl
    | some u => exact hall u (List.mem_of_mem_getLast? hu)

end Tries

/-- The driver's answers from number `n` on give each of `k` windows in turn at most
`maximumTries` results among `invalidations` before a `VK_SUCCESS`. -/
def Recovers (invalidations : List VkResult) (answer : Nat → Acquired) : Nat → Nat → Prop
  | _, 0 => True
  | n, k + 1 => ∃ j ≤ maximumTries, (∀ i < j, (answer (n + i)).result ∈ invalidations) ∧
      (answer (n + j)).result = .success ∧ Recovers invalidations answer (n + j + 1) k

/-- The number of the driver's answer that ends a window's turn begun at answer `n` with at
most `triesLeft` resizes left: the first that is not `VK_ERROR_OUT_OF_DATE_KHR`, or the last
the bound allows. -/
def turnEnd (answer : Nat → Acquired) (n : Nat) : Nat → Nat
  | 0 => n
  | triesLeft + 1 =>
    if (answer n).result = .errorOutOfDate then turnEnd answer (n + 1) triesLeft else n

/-- The answers that end the turns of `windows`, the first turn begun at answer `n` and each
next one at the answer after the last one's end. -/
def turnEnds (answer : Nat → Acquired) (tries : Nat) : Nat → List Nat → List Nat
  | _, [] => []
  | n, _ :: windows =>
    turnEnd answer n tries :: turnEnds answer tries (turnEnd answer n tries + 1) windows

/-- A turn that meets `j ≤ tries` `VK_ERROR_OUT_OF_DATE_KHR` and then a `VK_SUCCESS` ends at
that `VK_SUCCESS`. -/
theorem turnEnd_eq_of_success {answer : Nat → Acquired} {n j tries : Nat} (hj : j ≤ tries)
    (hood : ∀ i < j, (answer (n + i)).result = .errorOutOfDate)
    (hs : (answer (n + j)).result = .success) : turnEnd answer n tries = n + j := by
  induction j generalizing n tries with
  | zero =>
    rw [Nat.add_zero] at hs
    cases tries <;> simp [turnEnd, hs]
  | succ j ih =>
    obtain ⟨tries, rfl⟩ : ∃ t, tries = t + 1 := ⟨tries - 1, by omega⟩
    have h0 : (answer n).result = .errorOutOfDate := hood 0 (Nat.succ_pos j)
    rw [turnEnd, if_pos h0, ih (Nat.le_of_succ_le_succ hj) (fun i hi => by
      rw [Nat.add_right_comm]; exact hood (i + 1) (Nat.succ_lt_succ hi))
      (by rw [Nat.add_right_comm]; exact hs)]
    omega

/-- Every element of a list has a last position. -/
theorem exists_getElem?_not_mem_drop {α : Type} {l : List α} {w : α} (h : w ∈ l) :
    ∃ k, l[k]? = some w ∧ w ∉ l.drop (k + 1) := by
  induction l with
  | nil => cases h
  | cons x l ih =>
    by_cases hw : w ∈ l
    · obtain ⟨k, hk, hd⟩ := ih hw
      exact ⟨k + 1, by rw [List.getElem?_cons_succ]; exact hk, hd⟩
    · obtain rfl := (List.mem_cons.1 h).resolve_right hw
      exact ⟨0, List.getElem?_cons_zero, hw⟩

namespace AcquireLoop

theorem range'_append_succ (c n k : Nat) :
    List.range' c (n + 1) ++ List.range' (c + n + 1) k = List.range' c (n + 1 + k) := by
  rw [show c + n + 1 = c + (n + 1) from rfl, List.range'_append_1, Nat.add_comm k]

variable (answer : Nat → Acquired) (presentQueues : List (Option Queue))

/-- A turn that ends at its first `acquireNextImage`. -/
theorem acquireNextImage_turn (window : Nat) (s : AcquireLoop) :
    s.acquireNextImage answer window =
      ⟨(answer s.call).result, s.needToReassingFrameCache || 0 < 0, s.call + 0 + 1,
        (s.acquireNextImage answer window).windowStore,
        s.calls ++ Tries.calls presentQueues window ⟨0, (answer s.call).result⟩⟩ := by
  simp [acquireNextImage, Tries.calls]

/-- One window's turn: its resizes and last result make a bounded `Tries`, read off the
driver's answers from `s.call` on, and the turn changes only the windows besides. -/
theorem retry_spec (window triesLeft : Nat) (s : AcquireLoop) :
    ∃ (t : Tries) (windowStore : Nat → Window), t.Bounded triesLeft ∧
      (∀ i < t.numTries, (answer (s.call + i)).result = .errorOutOfDate) ∧
      (answer (s.call + t.numTries)).result = t.result ∧
      retry answer presentQueues window triesLeft s =
        ⟨t.result, s.needToReassingFrameCache || 0 < t.numTries, s.call + t.numTries + 1,
          windowStore, s.calls ++ t.calls presentQueues window⟩ := by
  induction triesLeft generalizing s with
  | zero =>
    exact ⟨⟨0, _⟩, _, ⟨le_rfl, fun _ => rfl⟩, fun i hi => absurd hi (Nat.not_lt_zero i), rfl,
      acquireNextImage_turn answer presentQueues window s⟩
  | succ triesLeft ih =>
    by_cases h : (answer s.call).result = .errorOutOfDate
    · obtain ⟨⟨n, r⟩, store, ⟨hb, hb'⟩, hood, hr, he⟩ :=
        ih ((s.acquireNextImage answer window).resize presentQueues window)
      simp only [resize_call, acquireNextImage_call] at hb hb' hood hr
      refine ⟨⟨n + 1, r⟩, store, ⟨Nat.succ_le_succ hb, fun h' => congrArg (· + 1) (hb' h')⟩,
        fun i hi => ?_, by rw [Nat.add_right_comm] at hr; exact hr, ?_⟩
      · cases i with
        | zero => exact h
        | succ i =>
          have := hood i (Nat.lt_of_succ_lt_succ hi)
          rwa [Nat.add_right_comm] at this
      · simp [retry, h, he, Tries.calls_succ]
        omega
    · simp only [retry, acquireNextImage_result, h, if_false]
      exact ⟨⟨0, _⟩, _, ⟨Nat.zero_le _, fun h' => absurd h' h⟩,
        fun i hi => absurd hi (Nat.not_lt_zero i), rfl,
        acquireNextImage_turn answer presentQueues window s⟩

/-- The `for` loop over the windows: one bounded turn for each window it reaches, using the
driver's answers from `s.call` on in order; every turn but the last ends in `VK_SUCCESS`,
and the loop stops early only after a turn that does not. -/
theorem acquireWindows_spec (tries : Nat) (windows : List Nat) (s : AcquireLoop) :
    ∃ (turns : List Tries) (windowStore : Nat → Window),
      turns.length ≤ windows.length ∧ (∀ t ∈ turns, t.Bounded tries) ∧
      turns.flatMap Tries.results =
        (List.range' s.call (turns.flatMap Tries.results).length).map (answer · |>.result) ∧
      (∀ t ∈ turns.dropLast, t.result = .success) ∧
      (turns.length < windows.length → ∃ t, turns.getLast? = some t ∧ t.result ≠ .success) ∧
      acquireWindows answer presentQueues tries windows s =
        ⟨(turns.getLast?.map Tries.result).getD s.result,
          s.needToReassingFrameCache || turns.any (0 < ·.numTries),
          s.call + (turns.flatMap Tries.results).length, windowStore,
          s.calls ++ (windows.zip turns).flatMap fun p => p.2.calls presentQueues p.1⟩ := by
  induction windows generalizing s with
  | nil => exact ⟨[], s.windowStore, le_rfl, nofun, rfl, nofun, (absurd · (Nat.lt_irrefl 0)),
      by cases s; simp [acquireWindows]⟩
  | cons window windows ih =>
    obtain ⟨t, store, hb, hood, hr, he⟩ := retry_spec answer presentQueues window tries s
    have ht := Tries.results_eq_range' (answer · |>.result) s.call t hood hr
    by_cases hs : t.result = .success
    · obtain ⟨turns, store', hlen, hbs, hflat, hdrop, hlast, he'⟩ :=
        ih ⟨t.result, s.needToReassingFrameCache || 0 < t.numTries, s.call + t.numTries + 1,
          store, s.calls ++ t.calls presentQueues window⟩
      refine ⟨t :: turns, store', Nat.succ_le_succ hlen, List.forall_mem_cons.2 ⟨hb, hbs⟩, ?_,
        ?_, fun hl => ?_, ?_⟩
      · rw [List.flatMap_cons, List.length_append, Tries.length_results, ht, hflat,
          List.length_map, List.length_range', ← List.map_append, range'_append_succ]
      · rcases eq_or_ne turns [] with rfl | hne
        · simp
        · rw [List.dropLast_cons_of_ne_nil hne]
          exact List.forall_mem_cons.2 ⟨hs, hdrop⟩
      · obtain ⟨u, hu, hur⟩ := hlast (Nat.lt_of_succ_lt_succ hl)
        exact ⟨u, by simp [List.getLast?_cons, hu], hur⟩
      · rw [acquireWindows, he, if_pos hs, he']
        simp only [List.getLast?_cons, AcquireLoop.mk.injEq]
        refine ⟨by cases turns.getLast? <;> rfl, by simp [Bool.or_assoc], by simp; omega,
          trivial, by simp⟩
    · refine ⟨[t], store, by simp, by simpa using hb, by simpa using ht, by simp,
        fun _ => ⟨t, rfl, hs⟩, ?_⟩
      rw [acquireWindows, he, if_neg hs]
      simp [Nat.add_assoc]

theorem acquireNextImage_hasImages (s : AcquireLoop) (window : Nat)
    (h : (s.windowStore window).HasImages) :
    let s' := s.acquireNextImage answer window
    (∀ u ≠ window, s'.windowStore u = s.windowStore u) ∧ (s'.windowStore window).HasImages ∧
      (s'.result = .success →
        (s'.windowStore window).indices.head? = some (answer s.call).imageIndex) := by
  have ha := Window.hasImages_acquireNextImage h (answer s.call)
  exact ⟨fun u hu => by simp [Function.update_noteq hu], by simpa using ha.1,
    fun hs => by simpa using ha.2 hs⟩

/-- A window's turn makes its last `acquireNextImage` with the answer that `turnEnd` names,
and ends with that answer's result. -/
theorem retry_call_result (window triesLeft : Nat) (s : AcquireLoop) :
    let s' := retry answer presentQueues window triesLeft s
    s'.call = turnEnd answer s.call triesLeft + 1 ∧
      s'.result = (answer (turnEnd answer s.call triesLeft)).result := by
  induction triesLeft generalizing s with
  | zero => exact ⟨rfl, rfl⟩
  | succ triesLeft ih =>
    simp only [retry, turnEnd, acquireNextImage_result]
    split_ifs
    · exact ih _
    · exact ⟨rfl, rfl⟩

/-- A window's turn changes no other window; it keeps the window able to acquire, and when
it ends in `VK_SUCCESS` the head of the window's `_indices` is the image of the answer that
ended the turn. -/
theorem retry_windowStore (window triesLeft : Nat) (s : AcquireLoop)
    (h : (s.windowStore window).HasImages) :
    let s' := retry answer presentQueues window triesLeft s
    (∀ u ≠ window, s'.windowStore u = s.windowStore u) ∧ (s'.windowStore window).HasImages ∧
      (s'.result = .success → (s'.windowStore window).indices.head? =
        some (answer (turnEnd answer s.call triesLeft)).imageIndex) := by
  induction triesLeft generalizing s with
  | zero => exact acquireNextImage_hasImages answer s window h
  | succ triesLeft ih =>
    obtain ⟨hacq, ha, hhead⟩ := acquireNextImage_hasImages answer s window h
    simp only [retry, turnEnd, acquireNextImage_result]
    split_ifs
    · obtain ⟨hu, hh, hs⟩ := ih ((s.acquireNextImage answer window).resize presentQueues window)
        (by simpa using Window.hasImages_resize ha)
      refine ⟨fun u hne => (hu u hne).trans ?_, hh, hs⟩
      simp [Function.update_noteq hne]
    · exact ⟨hacq, ha, hhead⟩

/-- When each window in turn meets at most `maximumTries` `VK_ERROR_OUT_OF_DATE_KHR` before a
`VK_SUCCESS`, the loop reaches every window and ends in `VK_SUCCESS`; the head of a window's
`_indices` is the image of the answer that ended the window's last turn. -/
theorem acquireWindows_recovers (windows : List Nat) (s : AcquireLoop)
    (hw : ∀ w ∈ windows, (s.windowStore w).HasImages) (hs : s.result = .success)
    (ha : Recovers [.errorOutOfDate] answer s.call windows.length) :
    let s' := acquireWindows answer presentQueues maximumTries windows s
    s'.result = .success ∧ (∀ u ∉ windows, s'.windowStore u = s.windowStore u) ∧
      ∀ k w, windows[k]? = some w → w ∉ windows.drop (k + 1) →
        ∃ e, (turnEnds answer maximumTries s.call windows)[k]? = some e ∧
          (answer e).result = .success ∧
          (s'.windowStore w).indices.head? = some (answer e).imageIndex := by
  induction windows generalizing s with
  | nil => exact ⟨hs, fun _ _ => rfl, fun k w hk => absurd hk (by simp)⟩
  | cons window windows ih =>
    obtain ⟨j, hj, hood, hsucc, ha'⟩ := ha
    have hend : turnEnd answer s.call maximumTries = s.call + j :=
      turnEnd_eq_of_success hj (fun i hi => List.mem_singleton.1 (hood i hi)) hsucc
    obtain ⟨hcall, hres⟩ := retry_call_result answer presentQueues window maximumTries s
    rw [hend, hsucc] at hres
    obtain ⟨hu, hh, hhead⟩ := retry_windowStore answer presentQueues window maximumTries s
      (hw _ (List.mem_cons_self _ _))
    have hw' : ∀ w ∈ windows,
        ((retry answer presentQueues window maximumTries s).windowStore w).HasImages := by
      intro w hm
      rcases eq_or_ne w window with rfl | hne
      · exact hh
      · rw [hu w hne]
        exact hw w (List.mem_cons_of_mem _ hm)
    obtain ⟨hres', hframe, hall⟩ := ih _ hw' hres (by rw [hcall, hend]; exact ha')
    rw [acquireWindows, if_pos hres]
    refine ⟨hres', fun u hm => ?_, fun k w hk hd => ?_⟩
    · rw [List.mem_cons, not_or] at hm
      exact (hframe u hm.2).trans (hu u hm.1)
    · cases k with
      | zero =>
        obtain rfl : window = w := by simpa using hk
        refine ⟨_, by rw [turnEnds, List.getElem?_cons_zero], by rw [hend]; exact hsucc, ?_⟩
        rw [hframe window (by simpa using hd)]
        exact hhead hres
      | succ k =>
        rw [List.getElem?_cons_succ] at hk
        obtain ⟨e, he, hes, hhd⟩ := hall k w hk hd
        exact ⟨e, by rw [turnEnds, List.getElem?_cons_succ, ← hcall]; exact he, hes, hhd⟩

end AcquireLoop

/-- `acquireNextFrame` returns false at once when the viewer is closing. Otherwise each
window it reaches gets a turn of at most `maximumTries + 1` calls of `acquireNextImage`,
with a resize between two calls, each after a `VK_ERROR_OUT_OF_DATE_KHR` and after a
`waitIdle` on every device's present queue; the results are the driver's answers in order.
It stops after the first turn that does not end in `VK_SUCCESS`, returns true exactly when
every window's turn ended in `VK_SUCCESS`, and reassigns the frame cache exactly when some
window was resized. -/
theorem acquireNextFrame_bounded_retries (v : Viewer) (answer : Nat → Acquired) :
    (v.close = true → v.acquireNextFrame answer = (false, v)) ∧
    (v.close = false → ∃ (turns : List Tries) (windowStore : Nat → Window),
      turns.length ≤ v.windows.length ∧ (∀ t ∈ turns, t.Bounded maximumTries) ∧
      turns.flatMap Tries.results =
        (List.range (turns.flatMap Tries.results).length).map (fun n => (answer n).result) ∧
      (∀ t ∈ turns.dropLast, t.result = .success) ∧
      (turns.length < v.windows.length → ∃ t, turns.getLast? = some t ∧ t.result ≠ .success) ∧
      ((v.acquireNextFrame answer).1 = true ↔
        turns.length = v.windows.length ∧ ∀ t ∈ turns, t.result = .success) ∧
      let v' : Viewer := { v with
        windowStore := windowStore
        calls := v.calls ++ (v.windows.zip turns).flatMap fun p => p.2.calls v.presentQueues p.1 }
      (v.acquireNextFrame answer).2 =
        if turns.any (0 < ·.numTries) then v'.reassignFrameCache else v') := by
  refine ⟨fun h => by simp [Viewer.acquireNextFrame, h], fun h => ?_⟩
  obtain ⟨turns, store, hlen, hb, hflat, hdrop, hlast, he⟩ :=
    AcquireLoop.acquireWindows_spec answer v.presentQueues maximumTries v.windows
      ⟨.success, false, 0, v.windowStore, v.calls⟩
  refine ⟨turns, store, hlen, hb, by simpa [List.range_eq_range'] using hflat, hdrop, hlast,
    ?_, ?_⟩
  · simpa [Viewer.acquireNextFrame, h, he] using Tries.getD_result_eq_success hlen hdrop hlast
  · simp [Viewer.acquireNextFrame, h, he]

/-- A viewer with one window, whose swapchain of three images is built. -/
def oneWindowViewer : Viewer :=
  (Viewer.create (fun _ => freshWindow.buildSwapchain) windowGraphs).addWindow 0

/-- The driver first reports `VK_SUBOPTIMAL_KHR`, then hands out image 1. -/
def suboptimalOnce (n : Nat) : Acquired := if n = 0 then ⟨.suboptimal, 0⟩ else ⟨.success, 1⟩

/-- The driver first reports `VK_ERROR_OUT_OF_DATE_KHR`, then hands out image 1. -/
def outOfDateOnce (n : Nat) : Acquired := if n = 0 then ⟨.errorOutOfDate, 0⟩ else ⟨.success, 1⟩

/-- A `VK_SUBOPTIMAL_KHR` is not retried: although the next answer is a `VK_SUCCESS`,
`acquireNextFrame` returns false and the window records no image. -/
theorem acquireNextFrame_fails_on_suboptimal :
    (oneWindowViewer.close = false ∧
      ∀ w ∈ oneWindowViewer.windows, (oneWindowViewer.windowStore w).HasImages) ∧
    Recovers [.errorOutOfDate, .suboptimal] suboptimalOnce 0 oneWindowViewer.windows.length ∧
    (oneWindowViewer.acquireNextFrame suboptimalOnce).1 = false ∧
    ((oneWindowViewer.acquireNextFrame suboptimalOnce).2.windowStore 0).indices =
      (oneWindowViewer.windowStore 0).indices :=
  ⟨⟨rfl, fun _ _ => Window.hasImages_buildSwapchain (by decide)⟩,
    ⟨1, by decide, fun i hi => by rw [Nat.lt_one_iff.1 hi]; decide, rfl, trivial⟩, by decide,
    by decide⟩

/-- When each window in turn meets at most `maximumTries` `VK_ERROR_OUT_OF_DATE_KHR` before a
`VK_SUCCESS`, `acquireNextFrame` on a viewer that is not closing returns true, and the head of
each window's `_indices` is the image of the `VK_SUCCESS` that ended the window's last turn in
`_windows`, the answer `turnEnds` numbers for that turn. -/
theorem acquireNextFrame_recovers_from_out_of_date (v : Viewer) (answer : Nat → Acquired)
    (hclose : v.close = false) (hw : ∀ w ∈ v.windows, (v.windowStore w).HasImages)
    (ha : Recovers [.errorOutOfDate] answer 0 v.windows.length) :
    (v.acquireNextFrame answer).1 = true ∧
      ∀ w ∈ v.windows, ∃ k e, v.windows[k]? = some w ∧ w ∉ v.windows.drop (k + 1) ∧
        (turnEnds answer maximumTries 0 v.windows)[k]? = some e ∧ (answer e).result = .success ∧
        ((v.acquireNextFrame answer).2.windowStore w).indices.head? =
          some (answer e).imageIndex := by
  obtain ⟨hr, -, hall⟩ := AcquireLoop.acquireWindows_recovers answer v.presentQueues v.windows
    ⟨.success, false, 0, v.windowStore, v.calls⟩ hw rfl ha
  have hstore : (v.acquireNextFrame answer).2.windowStore =
      (AcquireLoop.acquireWindows answer v.presentQueues maximumTries v.windows
        ⟨.success, false, 0, v.windowStore, v.calls⟩).windowStore := by
    simp only [Viewer.acquireNextFrame, hclose, Bool.false_eq_true, if_false]
    split <;> rfl
  refine ⟨by simp [Viewer.acquireNextFrame, hclose, hr], fun w hm => ?_⟩
  obtain ⟨k, hk, hd⟩ := exists_getElem?_not_mem_drop hm
  obtain ⟨e, he, hes, hhd⟩ := hall k w hk hd
  exact ⟨k, e, hk, hd, he, hes, hstore ▸ hhd⟩

theorem acquireNextFrame_recovers_from_out_of_date_oneWindowViewer :
    (oneWindowViewer.close = false ∧
      (∀ w ∈ oneWindowViewer.windows, (oneWindowViewer.windowStore w).HasImages) ∧
      Recovers [.errorOutOfDate] outOfDateOnce 0 oneWindowViewer.windows.length) ∧
    (oneWindowViewer.acquireNextFrame outOfDateOnce).1 = true ∧
      ∀ w ∈ oneWindowViewer.windows, ∃ k e, oneWindowViewer.windows[k]? = some w ∧
        w ∉ oneWindowViewer.windows.drop (k + 1) ∧
        (turnEnds outOfDateOnce maximumTries 0 oneWindowViewer.windows)[k]? = some e ∧
        (outOfDateOnce e).result = .success ∧
        ((oneWindowViewer.acquireNextFrame outOfDateOnce).2.windowStore w).indices.head? =
          some (outOfDateOnce e).imageIndex :=
  have hw : ∀ w ∈ oneWindowViewer.windows, (oneWindowViewer.windowStore w).HasImages :=
    fun _ _ => Window.hasImages_buildSwapchain (by decide)
  have ha : Recovers [.errorOutOfDate] outOfDateOnce 0 oneWindowViewer.windows.length :=
    ⟨1, by decide, fun i hi => by rw [Nat.lt_one_iff.1 hi]; decide, rfl, trivial⟩
  ⟨⟨rfl, hw, ha⟩,
    acquireNextFrame_recovers_from_out_of_date oneWindowViewer outOfDateOnce rfl hw ha⟩

end VulkanSceneGraph
