import VulkanSceneGraph.Core

/-!
# `std::map` and `std::set`

The viewer groups its objects in ordered standard containers: `_deviceMap` by device, the
task groups of `assignRecordAndSubmitTaskAndPresentation` by `DeviceQueueFamily`, and the
windows of a group in a `std::set<Window*>`. Both are lists kept in ascending order of the
container's comparison `lt`; `std::map::operator[]` inserts the default value at its place
when the key is absent. Every lemma below that looks past one entry needs `lt` to be a
strict total order and the list to be sorted, which `update` and `setInsert` preserve.
-/
namespace VulkanSceneGraph

/-- The comparison of an ordered container, as the C++ standard requires it. -/
structure StrictOrder {K : Type} (lt : K → K → Bool) : Prop where
  irrefl : ∀ a, lt a a = false
  trans : ∀ a b c, lt a b = true → lt b c = true → lt a c = true
  total : ∀ a b, a ≠ b → lt a b = true ∨ lt b a = true

theorem StrictOrder.ne {K : Type} {lt : K → K → Bool} (ho : StrictOrder lt) {a b : K}
    (h : lt a b = true) : a ≠ b := by
  rintro rfl; simp [ho.irrefl] at h

theorem StrictOrder.eq_of_not_lt {K : Type} {lt : K → K → Bool} (ho : StrictOrder lt) {a b : K}
    (h₁ : ¬lt a b = true) (h₂ : ¬lt b a = true) : a = b := by
  by_contra h; rcases ho.total a b h with h | h <;> contradiction

/-- The order of `std::less` on the numbers that name objects (pointer comparison). -/
def natLt (a b : Nat) : Bool := decide (a < b)

theorem natLt_strictOrder : StrictOrder natLt where
  irrefl a := by simp [natLt]
  trans a b c := by simp only [natLt, decide_eq_true_eq]; omega
  total a b h := by simp only [natLt, decide_eq_true_eq]; omega

/-- `std::map<K, V>`: its entries in ascending key order. -/
abbrev OrderedMap (K V : Type) := List (K × V)

namespace OrderedMap

variable {K V : Type}

def keys (m : OrderedMap K V) : List K := m.map Prod.fst

/-- `m[k]` followed by `f` applied to the mapped value; `m[k]` first inserts the default
value `d` at its place in key order when `k` is absent. -/
def update (lt : K → K → Bool) (k : K) (d : V) (f : V → V) : OrderedMap K V → OrderedMap K V
  | [] => [(k, f d)]
  | (k', v) :: m =>
    if lt k k' then (k, f d) :: (k', v) :: m
    else if lt k' k then (k', v) :: update lt k d f m
    else (k', f v) :: m

/-- The map is sorted strictly ascending by `lt`. -/
def Sorted (lt : K → K → Bool) (m : OrderedMap K V) : Prop :=
  (keys m).Pairwise fun a b => lt a b = true

@[simp] theorem keys_nil : keys ([] : OrderedMap K V) = [] := rfl

@[simp] theorem keys_cons (k : K) (v : V) (m : OrderedMap K V) :
    keys ((k, v) :: m) = k :: keys m := rfl

/-- A loop over the entries that rewrites every mapped value. -/
def mapValues {W : Type} (g : V → W) (m : OrderedMap K V) : OrderedMap K W :=
  m.map fun e => (e.1, g e.2)

@[simp] theorem keys_mapValues {W : Type} (g : V → W) (m : OrderedMap K V) :
    keys (mapValues g m) = keys m := by
  simp [keys, mapValues, Function.comp_def]

@[simp] theorem sorted_mapValues {W : Type} {lt : K → K → Bool} (g : V → W) (m : OrderedMap K V) :
    Sorted lt (mapValues g m) ↔ Sorted lt m := by
  simp only [Sorted, keys_mapValues]

theorem Sorted.nodup {lt : K → K → Bool} (ho : StrictOrder lt) {m : OrderedMap K V}
    (hs : Sorted lt m) : (keys m).Nodup :=
  hs.imp fun h => ho.ne h

section Order

variable {lt : K → K → Bool} (ho : StrictOrder lt)
include ho

theorem mem_keys_update {k x : K} {d : V} {f : V → V} {m : OrderedMap K V} :
    x ∈ keys (update lt k d f m) ↔ x = k ∨ x ∈ keys m := by
  induction m with
  | nil => simp [update]
  | cons e m ih =>
    obtain ⟨k', v⟩ := e
    simp only [update]
    split_ifs with h₁ h₂
    · simp
    · simp only [keys_cons, List.mem_cons, ih]; exact or_left_comm
    · obtain rfl := ho.eq_of_not_lt h₁ h₂
      simp

theorem sorted_update {k : K} {d : V} {f : V → V} {m : OrderedMap K V} (hs : Sorted lt m) :
    Sorted lt (update lt k d f m) := by
  induction m with
  | nil => simp [update, Sorted]
  | cons e m ih =>
    obtain ⟨k', v⟩ := e
    simp only [Sorted, keys_cons, List.pairwise_cons] at hs
    simp only [update]
    split_ifs with h₁ h₂
    · simp only [Sorted, keys_cons, List.pairwise_cons, List.mem_cons]
      exact ⟨fun x hx => hx.elim (· ▸ h₁) (ho.trans _ _ _ h₁ ∘ hs.1 x), hs.1, hs.2⟩
    · simp only [Sorted, keys_cons, List.pairwise_cons, mem_keys_update ho]
      exact ⟨fun x hx => hx.elim (· ▸ h₂) (hs.1 x), ih hs.2⟩
    · simpa [Sorted] using hs

theorem Sorted.not_mem_of_lt {k k' : K} {v : V} {m : OrderedMap K V}
    (hs : Sorted lt ((k', v) :: m)) (h : lt k k' = true) : k ∉ keys ((k', v) :: m) := by
  simp only [Sorted, keys_cons, List.pairwise_cons] at hs
  simp only [keys_cons, List.mem_cons, not_or]
  exact ⟨ho.ne h, fun hk => ho.ne (ho.trans _ _ _ h (hs.1 k hk)) rfl⟩

end Order

variable [DecidableEq K]

/-- `std::map::find`, returning the mapped value. -/
def find? (k : K) : OrderedMap K V → Option V
  | [] => none
  | (k', v) :: m => if k = k' then some v else find? k m

@[simp] theorem find?_nil (k : K) : find? k ([] : OrderedMap K V) = none := rfl

theorem find?_cons (k k' : K) (v : V) (m : OrderedMap K V) :
    find? k ((k', v) :: m) = if k = k' then some v else find? k m := rfl

theorem find?_eq_none_of_not_mem {k : K} {m : OrderedMap K V} (h : k ∉ keys m) :
    find? k m = none := by
  induction m with
  | nil => rfl
  | cons e m ih =>
    obtain ⟨k', v⟩ := e
    simp only [keys_cons, List.mem_cons, not_or] at h
    simp [find?_cons, h.1, ih h.2]

theorem isSome_find?_iff {k : K} {m : OrderedMap K V} : (find? k m).isSome ↔ k ∈ keys m := by
  induction m with
  | nil => simp
  | cons e m ih =>
    obtain ⟨k', v⟩ := e
    by_cases h : k = k' <;> simp [find?_cons, h, ih]

theorem find?_of_mem {e : K × V} {m : OrderedMap K V} (hn : (keys m).Nodup) (he : e ∈ m) :
    find? e.1 m = some e.2 := by
  induction m with
  | nil => simp at he
  | cons e' m ih =>
    obtain ⟨k', v'⟩ := e'
    simp only [keys_cons, List.nodup_cons] at hn
    rcases List.mem_cons.1 he with rfl | he
    · simp [find?_cons]
    · have hk : e.1 ≠ k' := fun h => hn.1 (h ▸ List.mem_map_of_mem Prod.fst he)
      simp [find?_cons, hk, ih hn.2 he]

section FindUpdate

variable {lt : K → K → Bool} (ho : StrictOrder lt)
include ho

theorem find?_update_self {k : K} {d : V} {f : V → V} {m : OrderedMap K V}
    (hs : Sorted lt m) : find? k (update lt k d f m) = some (f ((find? k m).getD d)) := by
  induction m with
  | nil => simp [update, find?_cons]
  | cons e m ih =>
    obtain ⟨k', v⟩ := e
    simp only [update]
    split_ifs with h₁ h₂
    · simp [find?_cons, find?_eq_none_of_not_mem (hs.not_mem_of_lt ho h₁)]
    · simp only [find?_cons, if_neg (ho.ne h₂).symm]
      exact ih (List.Pairwise.of_cons hs)
    · obtain rfl := ho.eq_of_not_lt h₁ h₂
      simp [find?_cons]

theorem find?_update_ne {k x : K} {d : V} {f : V → V} {m : OrderedMap K V} (hx : x ≠ k) :
    find? x (update lt k d f m) = find? x m := by
  induction m with
  | nil => simp [update, find?_cons, hx]
  | cons e m ih =>
    obtain ⟨k', v⟩ := e
    simp only [update]
    split_ifs with h₁ h₂
    · simp [find?_cons, hx]
    · simp only [find?_cons, ih]
    · obtain rfl := ho.eq_of_not_lt h₁ h₂
      simp [find?_cons, hx]

end FindUpdate

@[simp] theorem find?_mapValues {W : Type} (g : V → W) (k : K) (m : OrderedMap K V) :
    find? k (mapValues g m) = (find? k m).map g := by
  induction m with
  | nil => rfl
  | cons e m ih =>
    obtain ⟨k', v⟩ := e
    simp only [mapValues, List.map_cons, find?_cons] at ih ⊢
    split_ifs <;> simp [ih]

end OrderedMap

/-- `std::set<K>::insert`: the set is kept in ascending order of `lt`. -/
def setInsert {K : Type} (lt : K → K → Bool) (x : K) : List K → List K
  | [] => [x]
  | y :: s => if lt x y then x :: y :: s else if lt y x then y :: setInsert lt x s else y :: s

section SetInsert

variable {K : Type} {lt : K → K → Bool} (ho : StrictOrder lt)
include ho

theorem mem_setInsert {x a : K} {s : List K} : a ∈ setInsert lt x s ↔ a = x ∨ a ∈ s := by
  induction s with
  | nil => simp [setInsert]
  | cons y s ih =>
    simp only [setInsert]
    split_ifs with h₁ h₂
    · simp
    · simp only [List.mem_cons, ih]; exact or_left_comm
    · obtain rfl := ho.eq_of_not_lt h₁ h₂
      simp

theorem pairwise_setInsert {x : K} {s : List K} (hs : s.Pairwise fun a b => lt a b = true) :
    (setInsert lt x s).Pairwise fun a b => lt a b = true := by
  induction s with
  | nil => simp [setInsert]
  | cons y s ih =>
    simp only [List.pairwise_cons] at hs
    simp only [setInsert]
    split_ifs with h₁ h₂
    · simp only [List.pairwise_cons, List.mem_cons]
      exact ⟨fun a ha => ha.elim (· ▸ h₁) (ho.trans _ _ _ h₁ ∘ hs.1 a), hs.1, hs.2⟩
    · simp only [List.pairwise_cons, mem_setInsert ho]
      exact ⟨fun a ha => ha.elim (· ▸ h₂) (hs.1 a), ih hs.2⟩
    · exact List.pairwise_cons.2 hs

end SetInsert

end VulkanSceneGraph
