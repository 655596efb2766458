import VulkanSceneGraph.Core

/-!
# `Array2D`

An `Array2D<T>` holds `_width × _height` values, or a mip chain of them, in the buffer `_data`;
`size()` is the number of values it claims, which `write` and `end()` use. `read` takes
`size()` before `Data::read` restores the layout, and reallocates only when a `Data` property
follows: a stream that sets a mip chain without `Data` leaves the buffer too small, while every
other operation keeps it large enough. `computeValueCountIncludingMipmaps` is not part of the
sources and is a parameter with the properties `ValueCount` lists.
-/
namespace VulkanSceneGraph

/-- `static_cast<std::size_t>`: the value modulo `2^64`. -/
def sizeT (n : Nat) : Nat := n % 2 ^ 64

theorem sizeT_of_lt {n : Nat} (h : n < 2 ^ 64) : sizeT n = n := Nat.mod_eq_of_lt h

/-- The product of two 32-bit values fits in a `std::size_t`. -/
theorem toNat_mul_toNat_lt (a b : UInt32) : a.toNat * b.toNat < 2 ^ 64 :=
  calc a.toNat * b.toNat < UInt32.size * UInt32.size :=
        Nat.mul_lt_mul'' a.toNat_lt_size b.toNat_lt_size
    _ = 2 ^ 64 := rfl

/-- The part of `Data::Layout` that `Array2D` reads. -/
structure Layout where
  maxNumMipmaps : Nat
  deriving DecidableEq, Repr

/-- An `Array2D<T>`: its layout, its dimensions, and its buffer `_data`, given by the number
of values allocated for it (`none` for a null pointer). -/
structure Array2D where
  layout : Layout
  width : UInt32
  height : UInt32
  data : Option Nat
  deriving DecidableEq, Repr

/-- What `Array2D::read` takes from an `Input`: the layout `Data::read` restores, the `Width`
and `Height` values, and whether a `Data` property follows them. -/
structure Input where
  layout : Layout
  width : UInt32
  height : UInt32
  hasData : Bool
  deriving DecidableEq, Repr

/-- What `Array2D` needs of `computeValueCountIncludingMipmaps w h d maxNumMipmaps`: a single
level of `w * h * d` values when there is at most one mipmap level, at least that many
otherwise, and no values for an empty image. -/
structure ValueCount (computeValueCountIncludingMipmaps : Nat → Nat → Nat → Nat → Nat) :
    Prop where
  single : ∀ w h d m, m ≤ 1 → computeValueCountIncludingMipmaps w h d m = w * h * d
  base : ∀ w h d m, w * h * d ≤ computeValueCountIncludingMipmaps w h d m
  empty : ∀ d m, computeValueCountIncludingMipmaps 0 0 d m = 0

namespace Array2D

variable (computeValueCountIncludingMipmaps : Nat → Nat → Nat → Nat → Nat)

/-- `Array2D(width, height)`: a buffer of `width * height` values, with `Data`'s default
layout `layout`. -/
def create (layout : Layout) (width height : UInt32) : Array2D :=
  ⟨layout, width, height, some (sizeT (width.toNat * height.toNat))⟩

/-- `Array2D::size`, which `valueCount` returns. -/
def size (a : Array2D) : Nat :=
  if a.layout.maxNumMipmaps ≤ 1 then sizeT (a.width.toNat * a.height.toNat)
  else computeValueCountIncludingMipmaps a.width.toNat a.height.toNat 1 a.layout.maxNumMipmaps

/-- `Array2D::clear`; the layout stays. -/
def clear (a : Array2D) : Array2D := { a with width := 0, height := 0, data := none }

/-- `Array2D::dataRelease`: hands out the buffer and empties the array. -/
def dataRelease (a : Array2D) : Option Nat × Array2D :=
  (a.data, { a with data := none, width := 0, height := 0 })

/-- `Array2D::assign`, with a buffer of `data` values. -/
def assign (width height : UInt32) (data : Option Nat) (layout : Layout) : Array2D :=
  ⟨layout, width, height, data⟩

/-- `Array2D::read`. `Data::read` restores the layout the stream holds. -/
def read (a : Array2D) (input : Input) : Array2D :=
  let original_size := a.size computeValueCountIncludingMipmaps
  let a := { a with layout := input.layout }
  let new_size := computeValueCountIncludingMipmaps input.width.toNat input.height.toNat 1
    a.layout.maxNumMipmaps
  if input.hasData then
    let data := match a.data with
      | some n => if original_size ≠ new_size then some new_size else some n
      | none => some new_size
    { a with data := data, width := input.width, height := input.height }
  else a

/-- `Array2D::index`, in `std::size_t`. -/
def index (a : Array2D) (i j : UInt32) : Nat := sizeT (sizeT (j.toNat * a.width.toNat) + i.toNat)

/-- The buffer holds every value the array claims, so `write` and `end()` stay inside it. -/
def Fits (a : Array2D) : Prop := a.size computeValueCountIncludingMipmaps ≤ a.data.getD 0

/-- The operations an `Array2D` goes through; `assign` comes with a buffer of the `size()`
it then reports. -/
inductive Op
  | clear
  | dataRelease
  | assign (width height : UInt32) (layout : Layout)
  | read (input : Input)

def exec (a : Array2D) : Op → Array2D
  | .clear => a.clear
  | .dataRelease => a.dataRelease.2
  | .assign width height layout =>
    assign width height
      (some ((assign width height none layout).size computeValueCountIncludingMipmaps)) layout
  | .read input => a.read computeValueCountIncludingMipmaps input

def run (a : Array2D) (ops : List Op) : Array2D :=
  ops.foldl (exec computeValueCountIncludingMipmaps) a

@[simp] theorem run_nil (a : Array2D) : a.run computeValueCountIncludingMipmaps [] = a := rfl

@[simp] theorem run_cons (a : Array2D) (op : Op) (ops : List Op) :
    a.run computeValueCountIncludingMipmaps (op :: ops) =
      (a.exec computeValueCountIncludingMipmaps op).run computeValueCountIncludingMipmaps ops :=
  rfl

/-! ### The operations that keep the buffer large enough -/

variable {computeValueCountIncludingMipmaps}

theorem size_of_le_one {a : Array2D} (hc : ValueCount computeValueCountIncludingMipmaps) :
    a.size computeValueCountIncludingMipmaps =
      computeValueCountIncludingMipmaps a.width.toNat a.height.toNat 1 a.layout.maxNumMipmaps := by
  unfold size
  split_ifs with hm
  · rw [hc.single _ _ _ _ hm, Nat.mul_one, sizeT_of_lt (toNat_mul_toNat_lt _ _)]
  · rfl

theorem fits_create {layout : Layout} (hl : layout.maxNumMipmaps ≤ 1) (width height : UInt32) :
    (create layout width height).Fits computeValueCountIncludingMipmaps := by
  simp [Fits, create, size, hl]

theorem fits_clear (hc : ValueCount computeValueCountIncludingMipmaps) (a : Array2D) :
    a.clear.Fits computeValueCountIncludingMipmaps := by
  simp [Fits, clear, size_of_le_one hc, hc.empty]

theorem fits_dataRelease (hc : ValueCount computeValueCountIncludingMipmaps) (a : Array2D) :
    a.dataRelease.2.Fits computeValueCountIncludingMipmaps := by
  simp [Fits, dataRelease, size_of_le_one hc, hc.empty]

/-- A read followed by `Data` keeps the buffer: it reuses the old one only when the old
`size()` equals the new count. -/
theorem fits_read (hc : ValueCount computeValueCountIncludingMipmaps) {a : Array2D}
    (ha : a.Fits computeValueCountIncludingMipmaps) {input : Input} (hd : input.hasData = true) :
    (a.read computeValueCountIncludingMipmaps input).Fits computeValueCountIncludingMipmaps := by
  simp only [Fits, read, hd, if_true, size_of_le_one hc]
  split
  · split_ifs with hne
    · exact le_rfl
    · rename_i n hn
      rw [not_not] at hne
      rw [Fits, size_of_le_one hc, hn, Option.getD_some] at ha
      exact hne ▸ ha
  · exact le_rfl

theorem fits_exec (hc : ValueCount computeValueCountIncludingMipmaps) {a : Array2D}
    (ha : a.Fits computeValueCountIncludingMipmaps) (op : Op)
    (hop : ∀ input, op = .read input → input.hasData = true) :
    (a.exec computeValueCountIncludingMipmaps op).Fits computeValueCountIncludingMipmaps := by
  cases op with
  | clear => exact fits_clear hc a
  | dataRelease => exact fits_dataRelease hc a
  | assign width height layout => exact le_rfl
  | read input => exact fits_read hc ha (hop input rfl)

/-- From `Array2D(width, height)` with a single-level default layout, every sequence of
`clear`, `dataRelease`, `assign` and of reads followed by `Data` keeps the buffer at least as
large as `size()`. -/
theorem fits_run (hc : ValueCount computeValueCountIncludingMipmaps) {layout : Layout}
    (hl : layout.maxNumMipmaps ≤ 1) (width height : UInt32) (ops : List Op)
    (hops : ∀ input, .read input ∈ ops → input.hasData = true) :
    ((create layout width height).run computeValueCountIncludingMipmaps ops).Fits
      computeValueCountIncludingMipmaps := by
  suffices ∀ a : Array2D, a.Fits computeValueCountIncludingMipmaps →
      (a.run computeValueCountIncludingMipmaps ops).Fits computeValueCountIncludingMipmaps from
    this _ (fits_create hl width height)
  induction ops with
  | nil => exact fun _ ha => ha
  | cons op ops ih =>
    intro a ha
    exact ih (fun input h => hops input (List.mem_cons_of_mem _ h)) _
      (fits_exec hc ha op fun input h => hops input (h ▸ List.mem_cons_self _ _))

/-- An access `(i, j)` inside the array computes `j * width + i` without overflow, and lands
inside a buffer that fits. -/
theorem index_lt (hc : ValueCount computeValueCountIncludingMipmaps) {a : Array2D}
    (ha : a.Fits computeValueCountIncludingMipmaps) {i j : UInt32} (hi : i < a.width)
    (hj : j < a.height) :
    a.index i j = j.toNat * a.width.toNat + i.toNat ∧ a.index i j < a.data.getD 0 := by
  have hi' : i.toNat < a.width.toNat := hi
  have hj' : j.toNat < a.height.toNat := hj
  have hwh : j.toNat * a.width.toNat + i.toNat < a.width.toNat * a.height.toNat := by
    nlinarith
  have hlt := toNat_mul_toNat_lt a.width a.height
  have hs : a.width.toNat * a.height.toNat ≤ a.size computeValueCountIncludingMipmaps := by
    simpa [size_of_le_one hc] using hc.base a.width.toNat a.height.toNat 1 a.layout.maxNumMipmaps
  have he : a.index i j = j.toNat * a.width.toNat + i.toNat := by
    rw [index, sizeT_of_lt (show j.toNat * a.width.toNat < 2 ^ 64 by omega),
      sizeT_of_lt (by omega)]
  exact ⟨he, he ▸ lt_of_lt_of_le hwh (hs.trans ha)⟩

end Array2D

/-- Modelled from the spec ("mip-level accounting"): `computeValueCountIncludingMipmaps` is
not part of the sources. The values of a mip chain of at most `maxNumMipmaps` levels, each
level halving every dimension above 1, ending at a level of one value. -/
def mipChainValueCount : Nat → Nat → Nat → Nat → Nat
  | w, h, d, m + 2 =>
    w * h * d + if 1 < w ∨ 1 < h ∨ 1 < d then
      mipChainValueCount (if 1 < w then w / 2 else w) (if 1 < h then h / 2 else h)
        (if 1 < d then d / 2 else d) (m + 1)
    else 0
  | w, h, d, _ => w * h * d

theorem mipChainValueCount_zero_zero (d m : Nat) : mipChainValueCount 0 0 d m = 0 := by
  induction m generalizing d with
  | zero => simp [mipChainValueCount]
  | succ m ih =>
    cases m with
    | zero => simp [mipChainValueCount]
    | succ m => simp [mipChainValueCount, ih]

/-- The mip chain count has what `Array2D` needs of `computeValueCountIncludingMipmaps`. -/
theorem valueCount_mipChainValueCount : ValueCount mipChainValueCount where
  single w h d m hm := by
    match m, hm with
    | 0, _ | 1, _ => rfl
  base w h d m := by
    match m with
    | 0 | 1 => exact le_rfl
    | m + 2 => exact Nat.le_add_right _ _
  empty := mipChainValueCount_zero_zero

/-- From `Array2D(width, height)` with a single-level default layout, along every sequence of
`clear`, `dataRelease`, `assign` and reads followed by `Data`, the buffer holds the `size()`
values that `write` and `end()` use, and every access `(i, j)` inside the array's dimensions
computes `j * width + i` without overflow and lands inside the buffer. -/
theorem accesses_stay_in_buffer (computeValueCountIncludingMipmaps : Nat → Nat → Nat → Nat → Nat)
    (hc : ValueCount computeValueCountIncludingMipmaps) {layout : Layout}
    (hl : layout.maxNumMipmaps ≤ 1) (width height : UInt32) (ops : List Array2D.Op)
    (hops : ∀ input, .read input ∈ ops → input.hasData = true) :
    let a := (Array2D.create layout width height).run computeValueCountIncludingMipmaps ops
    a.size computeValueCountIncludingMipmaps ≤ a.data.getD 0 ∧
      ∀ i j : UInt32, i < a.width → j < a.height →
        a.index i j = j.toNat * a.width.toNat + i.toNat ∧ a.index i j < a.data.getD 0 := by
  intro a
  have ha := Array2D.fits_run hc hl width height ops hops
  exact ⟨ha, fun i j hi hj => Array2D.index_lt hc ha hi hj⟩

theorem accesses_stay_in_buffer_mipChainValueCount :
    ValueCount mipChainValueCount ∧ (⟨0⟩ : Layout).maxNumMipmaps ≤ 1 ∧
    (∀ input, Array2D.Op.read input ∈ [.read ⟨⟨3⟩, 4, 4, true⟩, .clear, .assign 2 2 ⟨1⟩] →
      input.hasData = true) ∧
    let a := (Array2D.create ⟨0⟩ 4 4).run mipChainValueCount
      [.read ⟨⟨3⟩, 4, 4, true⟩, .clear, .assign 2 2 ⟨1⟩]
    a.size mipChainValueCount ≤ a.data.getD 0 ∧
      ∀ i j : UInt32, i < a.width → j < a.height →
        a.index i j = j.toNat * a.width.toNat + i.toNat ∧ a.index i j < a.data.getD 0 :=
  have hops : ∀ input, Array2D.Op.read input ∈
      [.read ⟨⟨3⟩, 4, 4, true⟩, .clear, .assign 2 2 ⟨1⟩] → input.hasData = true := fun input h => by
    simp at h
    subst h
    rfl
  ⟨valueCount_mipChainValueCount, by decide, hops,
    accesses_stay_in_buffer mipChainValueCount valueCount_mipChainValueCount (by decide) 4 4 _
      hops⟩

/-- `Array2D(4, 4)` allocates 16 values. A read from a stream whose `Data` part sets three
mipmap levels, with `Width` and `Height` 4 and no `Data` property, keeps that buffer, while
`size()` now counts the mip chain: when the chain has more than 16 values, `write` and
`end()` run past the buffer. -/
theorem read_without_data_overruns_buffer
    (computeValueCountIncludingMipmaps : Nat → Nat → Nat → Nat → Nat) (layout : Layout)
    (hcount : 16 < computeValueCountIncludingMipmaps 4 4 1 3) :
    let a := (Array2D.create layout 4 4).run computeValueCountIncludingMipmaps
      [.read ⟨⟨3⟩, 4, 4, false⟩]
    a.data = some 16 ∧ a.size computeValueCountIncludingMipmaps =
      computeValueCountIncludingMipmaps 4 4 1 3 ∧ ¬a.Fits computeValueCountIncludingMipmaps := by
  intro a
  have ha : a = ⟨⟨3⟩, 4, 4, some 16⟩ := rfl
  have hs : a.size computeValueCountIncludingMipmaps =
      computeValueCountIncludingMipmaps 4 4 1 3 := by
    rw [ha]; rfl
  refine ⟨by rw [ha], hs, fun hf => ?_⟩
  rw [Array2D.Fits, hs, ha] at hf
  exact absurd hf (not_le.2 hcount)

theorem read_without_data_overruns_buffer_mipChainValueCount :
    16 < mipChainValueCount 4 4 1 3 ∧
    let a := (Array2D.create ⟨0⟩ 4 4).run mipChainValueCount [.read ⟨⟨3⟩, 4, 4, false⟩]
    a.data = some 16 ∧ a.size mipChainValueCount = mipChainValueCount 4 4 1 3 ∧
      ¬a.Fits mipChainValueCount :=
  ⟨by decide, read_without_data_overruns_buffer mipChainValueCount ⟨0⟩ (by decide)⟩

end VulkanSceneGraph
