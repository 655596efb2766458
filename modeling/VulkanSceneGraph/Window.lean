import VulkanSceneGraph.Core

/-!
# Swapchain frames of a `Window`

`Window::buildSwapchain` makes one frame per swapchain image, each with a semaphore that
tells when the image is available, plus a spare semaphore `_availableSemaphore`.
`Window::acquireNextImage` hands the spare to the driver; when the driver returns an image,
the spare is swapped with that image's semaphore, and the image index is pushed onto the
front of `_indices`, the images acquired most recently. Vulkan objects are named by the
number of objects the window had created before them, so objects made by one build are
distinct by construction.
-/
namespace VulkanSceneGraph

/-- The part of a swapchain frame that the viewer reads. -/
structure Frame where
  imageAvailableSemaphore : Option Nat
  deriving DecidableEq, Repr

/-- The swapchain `Swapchain::create` builds for the window's surface as it is now. -/
structure SwapchainSupport where
  imageCount : Nat
  extent : Extent2D
  deriving DecidableEq, Repr

/-- What the driver's `vkAcquireNextImageKHR` returns. -/
structure Acquired where
  result : VkResult
  imageIndex : Nat
  deriving DecidableEq, Repr

structure Window where
  device : Nat
  /-- `physicalDevice->getQueueFamily(VK_QUEUE_GRAPHICS_BIT, surface)`. -/
  queueFamily : Int × Int
  surface : SwapchainSupport
  extent2D : Extent2D
  swapchain : Option Nat
  frames : List Frame
  indices : List Nat
  availableSemaphore : Option Nat
  nextHandle : Nat
  valid : Bool
  /-- Events the windowing system holds for the next `pollEvents`. -/
  bufferedEvents : List Nat
  deriving DecidableEq, Repr

namespace Window

/-- The `if (_swapchain)` block of `buildSwapchain`: a rebuild first drops the old swapchain
with its frames and indices. -/
def dropSwapchain (w : Window) : Window :=
  if w.swapchain.isSome then { w with frames := [], indices := [], swapchain := none } else w

/-- `Window::buildSwapchain`. Each index starts as the image count, which no image index
equals. -/
def buildSwapchain (w : Window) : Window :=
  let w := w.dropSwapchain
  let swapchain := w.nextHandle
  let n := w.surface.imageCount
  let availableSemaphore := swapchain + 1
  { w with
    swapchain := some swapchain
    extent2D := w.surface.extent
    availableSemaphore := some availableSemaphore
    frames := w.frames ++ (List.range n).map fun i => ⟨some (availableSemaphore + 1 + i)⟩
    indices := w.indices ++ List.replicate n n
    nextHandle := availableSemaphore + 1 + n }

/-- The set-up at the start of `acquireNextImage`: `_initSwapchain()` when there is no
swapchain, and a spare semaphore when there is none. -/
def prepareAcquire (w : Window) : Window :=
  let w := if w.swapchain.isNone then w.buildSwapchain else w
  if w.availableSemaphore.isNone then
    { w with availableSemaphore := some w.nextHandle, nextHandle := w.nextHandle + 1 }
  else w

/-- `for (size_t i = 1; i < _indices.size(); ++i) _indices[i] = _indices[i-1];` -/
def shiftIndices (indices : List Nat) : List Nat :=
  (List.range' 1 (indices.length - 1)).foldl (fun idx i => idx.set i (idx.getD (i - 1) 0))
    indices

/-- `_availableSemaphore.swap(_frames[imageIndex].imageAvailableSemaphore)`. An index
outside `_frames` is undefined behaviour in the source; here it swaps nothing. -/
def swapAvailableSemaphore (w : Window) (imageIndex : Nat) : Window :=
  match w.frames[imageIndex]? with
  | some f => { w with availableSemaphore := f.imageAvailableSemaphore,
                       frames := w.frames.set imageIndex ⟨w.availableSemaphore⟩ }
  | none => w

/-- The success branch of `acquireNextImage` for image `imageIndex`: swap the semaphores,
shift `_indices` up and put `imageIndex` at its head. -/
def acquired (w : Window) (imageIndex : Nat) : Window :=
  let w := w.swapAvailableSemaphore imageIndex
  { w with indices := (shiftIndices w.indices).set 0 imageIndex }

/-- `Window::acquireNextImage`, with the driver's answer `a`. -/
def acquireNextImage (w : Window) (a : Acquired) : VkResult × Window :=
  let w := w.prepareAcquire
  (a.result, if a.result = .success then w.acquired a.imageIndex else w)

@[simp] theorem acquireNextImage_fst (w : Window) (a : Acquired) :
    (w.acquireNextImage a).1 = a.result := rfl

/-- A sequence of `acquireNextImage` calls. -/
def acquireAll (w : Window) (as : List Acquired) : Window :=
  as.foldl (fun w a => (w.acquireNextImage a).2) w

/-- The spare semaphore followed by the semaphore of every frame. -/
def semaphores (w : Window) : List (Option Nat) :=
  w.availableSemaphore :: w.frames.map Frame.imageAvailableSemaphore

@[simp] theorem acquireAll_nil (w : Window) : w.acquireAll [] = w := rfl

@[simp] theorem acquireAll_cons (w : Window) (a : Acquired) (as : List Acquired) :
    w.acquireAll (a :: as) = (w.acquireNextImage a).2.acquireAll as := rfl

theorem foldl_shiftIndices (a m k : Nat) (rest : List Nat) (hk : k ≤ rest.length) :
    (List.range' (m + 1) k).foldl (fun idx i => idx.set i (idx.getD (i - 1) 0))
      (List.replicate (m + 1) a ++ rest) = List.replicate (m + 1 + k) a ++ rest.drop k := by
  induction k generalizing m rest with
  | zero => simp
  | succ k ih =>
    obtain _ | ⟨r, rest⟩ := rest
    · simp at hk
    have hget : (List.replicate (m + 1) a ++ r :: rest).getD (m + 1 - 1) 0 = a := by
      simp [List.getD_eq_getElem?_getD, List.getElem?_append_left]
    have hset : (List.replicate (m + 1) a ++ r :: rest).set (m + 1) a =
        List.replicate (m + 1 + 1) a ++ rest := by
      rw [List.set_append_right _ _ (by simp)]
      simp [List.replicate_succ']
    rw [List.range'_succ, List.foldl_cons, hget, hset, ih (m + 1) rest (by simpa using hk)]
    simp only [List.drop_succ_cons]
    congr 2
    omega

/-- The shift loop copies the head into every later position, instead of moving each index
one place up. -/
theorem shiftIndices_cons (a : Nat) (rest : List Nat) :
    shiftIndices (a :: rest) = a :: List.replicate rest.length a := by
  have h := foldl_shiftIndices a 0 rest.length rest le_rfl
  simp only [Nat.zero_add, List.replicate_one, List.singleton_append, List.drop_length,
    List.append_nil] at h
  rw [shiftIndices, List.length_cons, Nat.add_sub_cancel, h, Nat.add_comm, List.replicate_succ]

@[simp] theorem swapAvailableSemaphore_indices (w : Window) (i : Nat) :
    (w.swapAvailableSemaphore i).indices = w.indices := by
  unfold swapAvailableSemaphore; split <;> rfl

@[simp] theorem swapAvailableSemaphore_swapchain (w : Window) (i : Nat) :
    (w.swapAvailableSemaphore i).swapchain = w.swapchain := by
  unfold swapAvailableSemaphore; split <;> rfl

theorem perm_cons_set {α : Type} {l : List α} {i : Nat} (h : i < l.length) (x : α) :
    List.Perm (l[i] :: l.set i x) (x :: l) := by
  conv_rhs => rw [← List.take_append_drop i l, List.drop_eq_getElem_cons h]
  rw [List.set_eq_take_cons_drop x h]
  exact (List.perm_middle.cons _).trans
    ((List.Perm.swap _ _ _).trans (List.perm_middle.symm.cons _))

/-- The swap only permutes the semaphores. -/
theorem semaphores_swapAvailableSemaphore (w : Window) (i : Nat) :
    List.Perm (w.swapAvailableSemaphore i).semaphores w.semaphores := by
  unfold swapAvailableSemaphore
  split
  · rename_i f hf
    obtain ⟨hi, rfl⟩ := List.getElem?_eq_some_iff.1 hf
    have hi' : i < (w.frames.map Frame.imageAvailableSemaphore).length := by simpa using hi
    have := perm_cons_set hi' w.availableSemaphore
    simpa [semaphores, List.map_set] using this
  · rfl

theorem frames_swapAvailableSemaphore_self (w : Window) {i : Nat} (h : i < w.frames.length) :
    (w.swapAvailableSemaphore i).frames[i]? = some ⟨w.availableSemaphore⟩ := by
  simp [swapAvailableSemaphore, List.getElem?_eq_getElem h, h]

/-- What `buildSwapchain` establishes and every acquire keeps: a swapchain, and a spare
semaphore and one semaphore per frame, all created and pairwise distinct. -/
def Ready (w : Window) : Prop :=
  w.swapchain.isSome ∧ (∀ s ∈ w.semaphores, s.isSome) ∧ w.semaphores.Nodup

theorem ready_buildSwapchain (w : Window) (h : w.swapchain = none → w.frames = []) :
    w.buildSwapchain.Ready := by
  have hframes : w.dropSwapchain.frames = [] := by
    cases hw : w.swapchain <;> simp [dropSwapchain, hw, h]
  refine ⟨rfl, ?_, ?_⟩
  · simp [buildSwapchain, semaphores, hframes]
  · simp only [buildSwapchain, semaphores, hframes, List.nil_append, List.map_map]
    refine List.nodup_cons.2 ⟨by simp; omega, (List.nodup_range _).map fun i j h => ?_⟩
    simpa using h

theorem prepareAcquire_of_ready {w : Window} (h : w.Ready) : w.prepareAcquire = w := by
  obtain ⟨hs, ha, -⟩ := h
  have hav : w.availableSemaphore.isSome := ha _ (List.mem_cons_self _ _)
  simp [prepareAcquire, Option.isNone_iff_eq_none, Option.ne_none_iff_isSome.2 hs,
    Option.ne_none_iff_isSome.2 hav]

theorem ready_acquired {w : Window} (h : w.Ready) (i : Nat) : (w.acquired i).Ready := by
  have hp := semaphores_swapAvailableSemaphore w i
  obtain ⟨hs, ha, hn⟩ := h
  exact ⟨by simpa [acquired] using hs, fun s hsm => ha s (hp.mem_iff.1 hsm),
    hp.nodup_iff.2 hn⟩

theorem ready_acquireNextImage {w : Window} (h : w.Ready) (a : Acquired) :
    (w.acquireNextImage a).2.Ready := by
  simp only [acquireNextImage, prepareAcquire_of_ready h]
  split_ifs
  · exact ready_acquired h _
  · exact h

theorem ready_acquireAll {w : Window} (h : w.Ready) (as : List Acquired) :
    (w.acquireAll as).Ready := by
  induction as generalizing w with
  | nil => exact h
  | cons a as ih => exact ih (ready_acquireNextImage h a)

/-- One successful acquire: the new image index at the head of `_indices`, and the old head
copied into every later position. -/
theorem indices_acquireNextImage_success {w : Window} (h : w.Ready) (i a : Nat)
    (rest : List Nat) (hi : w.indices = a :: rest) :
    (w.acquireNextImage ⟨.success, i⟩).2.indices = i :: List.replicate rest.length a := by
  simp [acquireNextImage, prepareAcquire_of_ready h, acquired, hi, shiftIndices_cons]

/-- Modelled from the spec: `Window::resize` rebuilds the swapchain and the objects that go
with it, for the surface as it is now. -/
def resize (w : Window) : Window := w.buildSwapchain

/-- Modelled from the spec: `Window::pollEvents` hands over the events that the windowing
system holds for the window. -/
def pollEvents (w : Window) : List Nat × Window :=
  (w.bufferedEvents, { w with bufferedEvents := [] })

/-! ### A window stays on its device, and its swapchain changes only when it is built -/

@[simp] theorem dropSwapchain_device (w : Window) : w.dropSwapchain.device = w.device := by
  unfold dropSwapchain; split <;> rfl

@[simp] theorem buildSwapchain_device (w : Window) : w.buildSwapchain.device = w.device := by
  simp [buildSwapchain]

@[simp] theorem swapAvailableSemaphore_device (w : Window) (i : Nat) :
    (w.swapAvailableSemaphore i).device = w.device := by
  unfold swapAvailableSemaphore; split <;> rfl

@[simp] theorem prepareAcquire_device (w : Window) : w.prepareAcquire.device = w.device := by
  simp only [prepareAcquire]; split_ifs <;> simp

@[simp] theorem acquireNextImage_device (w : Window) (a : Acquired) :
    (w.acquireNextImage a).2.device = w.device := by
  unfold acquireNextImage acquired; split_ifs <;> simp

theorem prepareAcquire_swapchain {w : Window} (h : w.swapchain.isSome) :
    w.prepareAcquire.swapchain = w.swapchain := by
  obtain ⟨c, hc⟩ := Option.isSome_iff_exists.1 h
  simp only [prepareAcquire, hc, Option.isNone_some, Bool.false_eq_true, if_false]
  split_ifs <;> simp [hc]

/-- An acquire on a window that has a swapchain keeps it. -/
theorem acquireNextImage_swapchain {w : Window} (h : w.swapchain.isSome) (a : Acquired) :
    (w.acquireNextImage a).2.swapchain = w.swapchain := by
  unfold acquireNextImage acquired; split_ifs <;> simp [prepareAcquire_swapchain h]

@[simp] theorem resize_device (w : Window) : w.resize.device = w.device := by simp [resize]

@[simp] theorem acquireNextImage_queueFamily (w : Window) (a : Acquired) :
    (w.acquireNextImage a).2.queueFamily = w.queueFamily := by
  simp only [acquireNextImage, acquired, prepareAcquire, buildSwapchain, dropSwapchain,
    swapAvailableSemaphore]
  split_ifs <;> (try split) <;> rfl

@[simp] theorem resize_queueFamily (w : Window) : w.resize.queueFamily = w.queueFamily := by
  simp only [resize, buildSwapchain, dropSwapchain]; split_ifs <;> rfl

@[simp] theorem resize_swapchain_isSome (w : Window) : w.resize.swapchain.isSome = true := rfl

@[simp] theorem pollEvents_device (w : Window) : w.pollEvents.2.device = w.device := rfl

@[simp] theorem pollEvents_swapchain (w : Window) : w.pollEvents.2.swapchain = w.swapchain := rfl

/-! ### An acquired image is recorded at the head of `_indices` -/

/-- The window has an image to acquire: `_indices` has an entry, and every swapchain built
for its surface has at least one image. -/
def HasImages (w : Window) : Prop := w.indices ≠ [] ∧ 0 < w.surface.imageCount

@[simp] theorem dropSwapchain_surface (w : Window) : w.dropSwapchain.surface = w.surface := by
  unfold dropSwapchain; split <;> rfl

theorem hasImages_buildSwapchain {w : Window} (h : 0 < w.surface.imageCount) :
    w.buildSwapchain.HasImages :=
  ⟨by simp [buildSwapchain, Nat.pos_iff_ne_zero.1 h], by simpa [buildSwapchain] using h⟩

theorem hasImages_prepareAcquire {w : Window} (h : w.HasImages) : w.prepareAcquire.HasImages := by
  have hb : (if w.swapchain.isNone then w.buildSwapchain else w).HasImages := by
    split_ifs
    · exact hasImages_buildSwapchain h.2
    · exact h
  simp only [prepareAcquire]
  generalize (if w.swapchain.isNone then w.buildSwapchain else w) = w' at hb ⊢
  split_ifs <;> exact hb

/-- A successful acquire puts its image index at the head of `_indices`. -/
theorem hasImages_acquired {w : Window} (h : w.HasImages) (i : Nat) :
    (w.acquired i).HasImages ∧ (w.acquired i).indices.head? = some i := by
  obtain ⟨a, rest, ha⟩ := List.exists_cons_of_ne_nil h.1
  have hs : (w.swapAvailableSemaphore i).surface = w.surface := by
    unfold swapAvailableSemaphore; split <;> rfl
  simp only [acquired, swapAvailableSemaphore_indices, ha, shiftIndices_cons, List.set_cons_zero]
  exact ⟨⟨List.cons_ne_nil _ _, hs ▸ h.2⟩, rfl⟩

theorem hasImages_acquireNextImage {w : Window} (h : w.HasImages) (a : Acquired) :
    (w.acquireNextImage a).2.HasImages ∧
      (a.result = .success → (w.acquireNextImage a).2.indices.head? = some a.imageIndex) := by
  have hp := hasImages_prepareAcquire h
  simp only [acquireNextImage]
  split_ifs with hr
  · exact ⟨(hasImages_acquired hp _).1, fun _ => (hasImages_acquired hp _).2⟩
  · exact ⟨hp, fun h => absurd h hr⟩

theorem hasImages_resize {w : Window} (h : w.HasImages) : w.resize.HasImages :=
  hasImages_buildSwapchain h.2

/-! ### One entry of `_indices` per frame -/

theorem length_shiftIndices (indices : List Nat) :
    (shiftIndices indices).length = indices.length := by
  cases indices with
  | nil => rfl
  | cons a rest => simp [shiftIndices_cons]

theorem length_indices_buildSwapchain {w : Window} (h : w.indices.length = w.frames.length) :
    w.buildSwapchain.indices.length = w.buildSwapchain.frames.length := by
  unfold buildSwapchain dropSwapchain
  split_ifs <;> simp [h]

theorem length_indices_prepareAcquire {w : Window} (h : w.indices.length = w.frames.length) :
    w.prepareAcquire.indices.length = w.prepareAcquire.frames.length := by
  have hb : (if w.swapchain.isNone then w.buildSwapchain else w).indices.length =
      (if w.swapchain.isNone then w.buildSwapchain else w).frames.length := by
    split_ifs
    · exact length_indices_buildSwapchain h
    · exact h
  simp only [prepareAcquire]
  generalize (if w.swapchain.isNone then w.buildSwapchain else w) = w' at hb ⊢
  split_ifs <;> exact hb

theorem length_indices_acquireNextImage {w : Window} (h : w.indices.length = w.frames.length)
    (a : Acquired) :
    (w.acquireNextImage a).2.indices.length = (w.acquireNextImage a).2.frames.length := by
  have hp := length_indices_prepareAcquire h
  simp only [acquireNextImage]
  split_ifs
  · have hf : (w.prepareAcquire.swapAvailableSemaphore a.imageIndex).frames.length =
        w.prepareAcquire.frames.length := by
      unfold swapAvailableSemaphore; split <;> simp
    simp [acquired, length_shiftIndices, hf, hp]
  · exact hp

end Window

/-- After `buildSwapchain` and any acquires, the spare semaphore and the frames' semaphores
are pairwise distinct; a successful acquire of image `i` leaves in frame `i` the semaphore
it handed to the driver; and a failed acquire changes neither the semaphores nor
`_indices`. -/
theorem acquireNextImage_semaphores_distinct (w₀ : Window)
    (h₀ : w₀.swapchain = none → w₀.frames = []) (as : List Acquired) :
    let w := w₀.buildSwapchain.acquireAll as
    w.semaphores.Nodup ∧
    (∀ i < w.frames.length, (w.acquireNextImage ⟨.success, i⟩).2.frames[i]? =
      some ⟨w.prepareAcquire.availableSemaphore⟩) ∧
    (∀ a : Acquired, a.result ≠ .success →
      (w.acquireNextImage a).2.semaphores = w.semaphores ∧
        (w.acquireNextImage a).2.indices = w.indices) := by
  intro w
  have hw : w.Ready := Window.ready_acquireAll (Window.ready_buildSwapchain w₀ h₀) as
  have hp := Window.prepareAcquire_of_ready hw
  refine ⟨hw.2.2, fun i hi => ?_, fun a ha => ?_⟩
  · simp only [Window.acquireNextImage, hp, if_pos rfl, Window.acquired]
    exact Window.frames_swapAvailableSemaphore_self w hi
  · simp [Window.acquireNextImage, hp, ha]

/-- A window whose swapchain was never built. -/
def freshWindow : Window :=
  ⟨0, (0, 0), ⟨3, ⟨800, 600⟩⟩, ⟨0, 0⟩, none, [], [], none, 0, true, []⟩

theorem acquireNextImage_semaphores_distinct_freshWindow :
    (freshWindow.swapchain = none → freshWindow.frames = []) ∧
    let w := freshWindow.buildSwapchain.acquireAll [⟨.success, 2⟩, ⟨.errorOutOfDate, 0⟩]
    w.semaphores.Nodup ∧
    (∀ i < w.frames.length, (w.acquireNextImage ⟨.success, i⟩).2.frames[i]? =
      some ⟨w.prepareAcquire.availableSemaphore⟩) ∧
    (∀ a : Acquired, a.result ≠ .success →
      (w.acquireNextImage a).2.semaphores = w.semaphores ∧
        (w.acquireNextImage a).2.indices = w.indices) :=
  ⟨fun _ => rfl, acquireNextImage_semaphores_distinct freshWindow (fun _ => rfl) _⟩

/-- With three images, acquiring image 0 and then image 1 leaves `_indices = [1, 0, 0]`:
the third position repeats image 0 instead of keeping the "no frame yet" value 3. -/
theorem indices_after_two_acquires :
    (freshWindow.buildSwapchain.acquireAll [⟨.success, 0⟩, ⟨.success, 1⟩]).indices =
      [1, 0, 0] := by
  have h₀ := Window.ready_buildSwapchain freshWindow fun _ => rfl
  have h₁ := Window.indices_acquireNextImage_success h₀ 0 3 [3, 3] rfl
  exact Window.indices_acquireNextImage_success (Window.ready_acquireNextImage h₀ _) 1 0 [3, 3] h₁

end VulkanSceneGraph
