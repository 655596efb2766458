import VulkanSceneGraph.Core

/-!
# Window set-up: the device, the sample count and the render pass

`Window::_initSwapchain` creates on first use what a swapchain needs: `_initDevice` shares the
traits' device or creates one on the physical device the instance reports, and throws when it
reports none; `_initFormats` picks the framebuffers' sample count, the highest the device
supports for colour and depth among those the traits ask for; `_initRenderPass` creates a
render pass for that count. What `getPhysicalDeviceAndQueueFamily` reports is a parameter.
-/
namespace VulkanSceneGraph

/-- `VK_SAMPLE_COUNT_1_BIT`. -/
def sampleCount1Bit : UInt32 := 1

/-- The sample count `Window::_initFormats` picks from the traits' `samples` and the physical
device's `framebufferColorSampleCounts` and `framebufferDepthSampleCounts`:
`1 << floor(log2(satisfied))` over the bits the three masks share. The logarithm of a 32-bit
value, taken in double precision, is exact here: it is the position of the highest set bit,
`Nat.log 2`. -/
def framebufferSamples (samples framebufferColorSampleCounts framebufferDepthSampleCounts : UInt32) :
    UInt32 :=
  if samples ≠ sampleCount1Bit then
    let satisfied := framebufferColorSampleCounts &&& framebufferDepthSampleCounts &&& samples
    if satisfied ≠ 0 then 1 <<< (Nat.log 2 satisfied.toNat).toUInt32 else sampleCount1Bit
  else sampleCount1Bit

theorem toNat_one_shiftLeft {k : Nat} (h : k < 32) : ((1 : UInt32) <<< k.toUInt32).toNat = 2 ^ k := by
  show ((1 : UInt32).toBitVec <<< (UInt32.mod k.toUInt32 32).toBitVec).toNat = 2 ^ k
  have h2 : 2 ^ k < 2 ^ 32 := Nat.pow_lt_pow_right (by norm_num) h
  simp [BitVec.toNat_shiftLeft, UInt32.mod, Nat.toUInt32, UInt32.ofNat, BitVec.toNat_umod,
    Nat.mod_eq_of_lt h, Nat.mod_eq_of_lt (h.trans (by norm_num : 32 < 4294967296)), Nat.shiftLeft_eq]
  omega

/-- The highest set bit of a nonzero number is at `Nat.log 2`. -/
theorem testBit_log_two {n : Nat} (hn : n ≠ 0) : n.testBit (Nat.log 2 n) = true := by
  set k := Nat.log 2 n
  have h₁ : 2 ^ k ≤ n := Nat.pow_log_le_self 2 hn
  have h₂ : n < 2 ^ k * 2 := by
    rw [← Nat.pow_succ]; exact Nat.lt_pow_succ_log_self (by norm_num) n
  obtain ⟨r, hr⟩ := Nat.exists_eq_add_of_le h₁
  rw [hr, Nat.testBit_two_pow_add_eq, Nat.testBit_lt_two_pow (by omega)]
  rfl

theorem le_log_two_of_testBit {n j : Nat} (h : n.testBit j = true) : j ≤ Nat.log 2 n :=
  Nat.le_log_of_pow_le (by norm_num) (Nat.testBit_implies_ge h)

/-- Bit `j` of a sample-count mask is asked for by the traits' `samples` and supported by the
device for colour and for depth framebuffer attachments. -/
def SampleBitSupported (samples framebufferColorSampleCounts framebufferDepthSampleCounts : UInt32)
    (j : Nat) : Prop :=
  framebufferColorSampleCounts.toNat.testBit j ∧ framebufferDepthSampleCounts.toNat.testBit j ∧
    samples.toNat.testBit j

theorem testBit_satisfied {samples c d : UInt32} {j : Nat} :
    (c &&& d &&& samples).toNat.testBit j ↔ SampleBitSupported samples c d j := by
  simp [SampleBitSupported, UInt32.and_toNat, Nat.testBit_and, and_assoc]

theorem satisfied_ne_zero {samples c d : UInt32} :
    c &&& d &&& samples ≠ 0 ↔ ∃ j, SampleBitSupported samples c d j := by
  simp only [← testBit_satisfied]
  constructor
  · exact fun h => Nat.ne_zero_implies_bit_true fun h' => h (UInt32.toNat.inj h')
  · rintro ⟨j, hj⟩ h
    simp [h] at hj

/-- `_initFormats` keeps one sample per pixel when the traits ask for one or when the device
supports none of the counts they ask for; otherwise it picks a single count, the highest the
traits ask for that the device supports for both kinds of attachment. -/
theorem framebufferSamples_highest_supported (samples c d : UInt32) :
    ((samples = sampleCount1Bit ∨ ∀ j, ¬SampleBitSupported samples c d j) →
      framebufferSamples samples c d = sampleCount1Bit) ∧
    (samples ≠ sampleCount1Bit → ∀ j, SampleBitSupported samples c d j →
      ∃ k, (framebufferSamples samples c d).toNat = 2 ^ k ∧ SampleBitSupported samples c d k ∧
        ∀ i, SampleBitSupported samples c d i → i ≤ k) := by
  constructor
  · rintro (h | h)
    · simp [framebufferSamples, h]
    · have hz : c &&& d &&& samples = 0 := by
        by_contra hz; obtain ⟨j, hj⟩ := satisfied_ne_zero.1 hz; exact h j hj
      simp [framebufferSamples, hz]
  · intro hs j hj
    have hs0 := satisfied_ne_zero.2 ⟨j, hj⟩
    set n := (c &&& d &&& samples).toNat
    have hn : n ≠ 0 := fun h => hs0 (UInt32.toNat.inj h)
    have hlt : Nat.log 2 n < 32 :=
      Nat.log_lt_of_lt_pow hn (lt_of_lt_of_eq (UInt32.toNat_lt_size _) (by norm_num [UInt32.size]))
    refine ⟨Nat.log 2 n, ?_, testBit_satisfied.1 (testBit_log_two hn),
      fun i hi => le_log_two_of_testBit (testBit_satisfied.2 hi)⟩
    simp only [framebufferSamples, ne_eq, hs, not_false_eq_true, if_true, hs0]
    exact toNat_one_shiftLeft hlt

structure PhysicalDevice where
  id : Nat
  framebufferColorSampleCounts : UInt32
  framebufferDepthSampleCounts : UInt32
  deriving DecidableEq, Repr

/-- A device the window's traits hand over to share (`_traits->device`), with its physical
device and the instance it was made from. -/
structure SharedDevice where
  device : Nat
  physicalDevice : PhysicalDevice
  vkInstance : Nat
  deriving DecidableEq, Repr

/-- The parts of `WindowTraits` the set-up reads. -/
structure WindowTraits where
  device : Option SharedDevice
  samples : UInt32
  deriving DecidableEq, Repr

/-- `vsg::Exception`: a message and a `VkResult` code. -/
structure Exception where
  message : String
  result : Int
  deriving DecidableEq, Repr

/-- What `Window::_initDevice` throws when no physical device supports the window; its code
is `VK_ERROR_INVALID_EXTERNAL_HANDLE`. -/
def noPhysicalDevice : Exception :=
  ⟨"Error: vsg::Window::create(...) failed to create Window, no Vulkan PhysicalDevice supported.",
    -1000072003⟩

/-- A render pass: the device it was made on, and the sample count given to
`createMultisampledRenderPass`, `none` for `createRenderPass`. -/
structure RenderPass where
  device : Nat
  multisampled : Option UInt32
  deriving DecidableEq, Repr

/-- The members of a `Window` that its set-up creates. -/
structure WindowSetup where
  traits : WindowTraits
  /-- `_instance`. -/
  vkInstance : Option Nat
  surface : Option Nat
  physicalDevice : Option PhysicalDevice
  device : Option Nat
  framebufferSamples : UInt32
  renderPass : Option RenderPass
  nextHandle : Nat
  deriving DecidableEq, Repr

/-- What `getPhysicalDeviceAndQueueFamily` reports supports the window: a physical device
with a graphics and a present family. -/
def Supported (query : Option PhysicalDevice × Int × Int) : Prop :=
  query.1.isSome ∧ 0 ≤ query.2.1 ∧ 0 ≤ query.2.2

instance (query : Option PhysicalDevice × Int × Int) : Decidable (Supported query) :=
  inferInstanceAs (Decidable (_ ∧ _))

namespace WindowSetup

/-- `Window::Window(traits)`: no Vulkan object yet, one sample per pixel. -/
def create (traits : WindowTraits) : WindowSetup :=
  ⟨traits, none, none, none, none, sampleCount1Bit, none, 0⟩

/-- A set-up step: it may throw, and what it did before throwing stays done. -/
abbrev SetupM := EStateM Exception WindowSetup

/-- `Window::_initInstance`: the instance of the shared device, else a new one. -/
def initInstance : SetupM Unit := modify fun w =>
  match w.traits.device with
  | some d => { w with vkInstance := some d.vkInstance }
  | none => { w with vkInstance := some w.nextHandle, nextHandle := w.nextHandle + 1 }

/-- `_initSurface()`, implemented by the platform's window class (not part of the sources):
it creates the window's surface. -/
def initSurface : SetupM Unit := modify fun w =>
  { w with surface := some w.nextHandle, nextHandle := w.nextHandle + 1 }

/-- `Window::_initFormats`, as far as the sample count goes. `_physicalDevice` is set
whenever it runs. -/
def initFormats : SetupM Unit := modify fun w =>
  match w.physicalDevice with
  | some pd => { w with framebufferSamples := (VulkanSceneGraph.framebufferSamples w.traits.samples
      pd.framebufferColorSampleCounts pd.framebufferDepthSampleCounts) }
  | none => w

variable (query : Option PhysicalDevice × Int × Int)

/-- `Window::_initDevice`, where `query` is what
`_instance->getPhysicalDeviceAndQueueFamily(_traits->queueFlags, _surface)` returns. -/
def initDevice : SetupM Unit := do
  if (← get).vkInstance.isNone then initInstance
  if (← get).surface.isNone then initSurface
  match (← get).traits.device with
  | some d => modify fun w =>
    { w with device := some d.device, physicalDevice := some d.physicalDevice }
  | none =>
    match query with
    | (some pd, queueFamily, presentFamily) =>
      if queueFamily < 0 ∨ presentFamily < 0 then throw noPhysicalDevice
      else modify fun w =>
        { w with
          device := some w.nextHandle
          physicalDevice := some pd
          nextHandle := w.nextHandle + 1 }
    | (none, _, _) => throw noPhysicalDevice
  initFormats

/-- `Window::_initRenderPass`. -/
def initRenderPass : SetupM Unit := do
  if (← get).device.isNone then initDevice query
  modify fun w => { w with renderPass := w.device.map fun device =>
    ⟨device, if w.framebufferSamples = sampleCount1Bit then none else some w.framebufferSamples⟩ }

/-- `Window::_initSwapchain`, up to its call of `buildSwapchain` (`Window.buildSwapchain`). -/
def initSwapchain : SetupM Unit := do
  if (← get).device.isNone then initDevice query
  if (← get).renderPass.isNone then initRenderPass query

end WindowSetup

end VulkanSceneGraph
