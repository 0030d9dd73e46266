import Mathlib.Logic.Function.Basic
import Mathlib.Tactic.Common

/-!
# Metadata buffers and the class that edits them

`camera_metadata_t` is a buffer in memory that maps tags to entries; `android::CameraMetadata` is an object that holds one
such buffer or none, and edits it. The class is a parameter: `CameraMetadataApi` has its operations and what its callers rely
on, where allocations succeed. `Edits` is what an object makes of the memory it began with: it edits a buffer of its own, and
every other buffer keeps its entries. The rules say that each operation keeps it.

`MetadataHeap.api` is the class over a table of buffers.
-/

namespace Universal7880

/-- The type and the data of an entry; the types other than byte and `int32_t` by their number. -/
inductive MetadataValue where
  | byte (data : List UInt8)
  | int32 (data : List Int32)
  | other (type : UInt8) (data : List UInt8)
  deriving DecidableEq, Repr

/-- The entries of a buffer, by tag. -/
abbrev MetadataSet := UInt32 → Option MetadataValue

/-- `android::CameraMetadata`, over its objects and the memory, with the buffers of memory by address. -/
structure CameraMetadataApi (σ μ : Type) where
  /-- The entries of the buffer at an address, `none` if there is no buffer. -/
  read : μ → ℕ → Option MetadataSet
  /-- The buffer that an object holds. -/
  buffer : σ → Option ℕ
  /-- The constructor without arguments. -/
  construct : σ
  /-- The assignment of a buffer, `none` for `NULL`. -/
  assign : σ → Option ℕ → μ → σ × μ
  update : σ → UInt32 → MetadataValue → μ → σ × μ
  release : σ → Option ℕ × σ
  /-- The destructor. -/
  destroy : σ → μ → μ
  buffer_construct : buffer construct = none
  /-- The assignment of `NULL` empties the object. -/
  assign_null : ∀ s m, buffer (assign s none m).1 = none
  /-- The assignment of another buffer clones it. -/
  assign_clone : ∀ s m b set, buffer s ≠ some b → read m b = some set →
    ∃ c, buffer (assign s (some b) m).1 = some c ∧ read m c = none ∧ read (assign s (some b) m).2 c = some set
  assign_frame : ∀ s given m c set, buffer s ≠ some c → read m c = some set → read (assign s given m).2 c = some set
  /-- An update inserts or replaces one entry of the buffer that is held, or of a new one that takes its place. -/
  update_entry : ∀ s tag value m set, (∀ b, buffer s = some b → read m b = some set) →
    (buffer s = none → ∀ t, set t = none) →
    ∃ c, buffer (update s tag value m).1 = some c ∧ (buffer s = some c ∨ read m c = none) ∧
      read (update s tag value m).2 c = some (Function.update set tag (some value))
  update_frame : ∀ s tag value m c set, buffer s ≠ some c → read m c = some set →
    read (update s tag value m).2 c = some set
  /-- A release hands the buffer out. -/
  release_buffer : ∀ s, (release s).1 = buffer s ∧ buffer (release s).2 = none
  destroy_empty : ∀ s m c, buffer s = none → read (destroy s m) c = read m c

namespace CameraMetadataApi

variable {σ μ : Type} (api : CameraMetadataApi σ μ)

/-- The object has the entries `set`, in a buffer that was none in the memory `m₀`, or in no buffer; and the buffers of `m₀`
are as they were. -/
structure Edits (m₀ : μ) (s : σ) (m : μ) (set : MetadataSet) : Prop where
  entries : ∀ b, api.buffer s = some b → api.read m b = some set
  empty : api.buffer s = none → ∀ tag, set tag = none
  own : ∀ b, api.buffer s = some b → api.read m₀ b = none
  frame : ∀ b set', api.read m₀ b = some set' → api.read m b = some set'

variable {api}

/-- An object that holds no buffer has no entries. -/
theorem Edits.of_none {m₀ m : μ} {s : σ} (hs : api.buffer s = none)
    (hframe : ∀ b set, api.read m₀ b = some set → api.read m b = some set) : api.Edits m₀ s m fun _ => none := by
  have hno : ∀ b, api.buffer s ≠ some b := by
    intro b hb
    rw [hs] at hb
    cases hb
  exact ⟨fun b hb => absurd hb (hno b), fun _ _ => rfl, fun b hb => absurd hb (hno b), hframe⟩

/-- An object that holds a buffer of its own has the entries of that buffer. -/
theorem Edits.of_some {m₀ m : μ} {s : σ} {c : ℕ} {set : MetadataSet} (hs : api.buffer s = some c)
    (hread : api.read m c = some set) (hown : api.read m₀ c = none)
    (hframe : ∀ b set, api.read m₀ b = some set → api.read m b = some set) : api.Edits m₀ s m set := by
  have hsame : ∀ b, api.buffer s = some b → c = b := fun b hb => Option.some.inj (hs.symm.trans hb)
  constructor
  case entries => exact fun b hb => hsame b hb ▸ hread
  case empty =>
    intro hnone
    rw [hs] at hnone
    cases hnone
  case own => exact fun b hb => hsame b hb ▸ hown
  case frame => exact hframe

/-- An address without a buffer had none at the beginning. -/
theorem Edits.read_eq_none {m₀ m : μ} {s : σ} {set : MetadataSet} {b : ℕ} (h : api.Edits m₀ s m set)
    (hb : api.read m b = none) : api.read m₀ b = none := by
  cases hold : api.read m₀ b with
  | none => rfl
  | some old =>
    rw [h.frame b old hold] at hb
    cases hb

/-- A buffer of the memory at the beginning is not the object's own. -/
theorem Edits.buffer_ne {m₀ m : μ} {s : σ} {set set' : MetadataSet} {b : ℕ} (h : api.Edits m₀ s m set)
    (hb : api.read m₀ b = some set') : api.buffer s ≠ some b := by
  intro hs
  rw [h.own b hs] at hb
  cases hb

/-! ## The rules -/

theorem Edits.construct (m : μ) : api.Edits m api.construct m fun _ => none :=
  .of_none api.buffer_construct fun _ _ h => h

/-- The assignment of `NULL` leaves no entries. -/
theorem Edits.assign_null {m₀ m : μ} {s : σ} {set : MetadataSet} (h : api.Edits m₀ s m set) :
    api.Edits m₀ (api.assign s none m).1 (api.assign s none m).2 fun _ => none := by
  refine .of_none (api.assign_null s m) ?_
  intro b old hb
  exact api.assign_frame s none m b old (h.buffer_ne hb) (h.frame b old hb)

/-- The assignment of a buffer of the memory at the beginning gives the object its entries. -/
theorem Edits.assign_clone {m₀ m : μ} {s : σ} {set set' : MetadataSet} {b : ℕ} (h : api.Edits m₀ s m set)
    (hb : api.read m₀ b = some set') :
    api.Edits m₀ (api.assign s (some b) m).1 (api.assign s (some b) m).2 set' := by
  obtain ⟨c, hbuffer, hnew, hread⟩ := api.assign_clone s m b set' (h.buffer_ne hb) (h.frame b set' hb)
  refine .of_some hbuffer hread (h.read_eq_none hnew) ?_
  intro d old hd
  exact api.assign_frame s (some b) m d old (h.buffer_ne hd) (h.frame d old hd)

/-- An update sets one entry. -/
theorem Edits.update {m₀ m : μ} {s : σ} {set : MetadataSet} (h : api.Edits m₀ s m set) (tag : UInt32)
    (value : MetadataValue) :
    api.Edits m₀ (api.update s tag value m).1 (api.update s tag value m).2 (Function.update set tag (some value)) := by
  obtain ⟨c, hbuffer, hnew, hread⟩ := api.update_entry s tag value m set h.entries h.empty
  have hown : api.read m₀ c = none := by
    rcases hnew with hsame | hnew
    · exact h.own c hsame
    · exact h.read_eq_none hnew
  refine .of_some hbuffer hread hown ?_
  intro d old hd
  exact api.update_frame s tag value m d old (h.buffer_ne hd) (h.frame d old hd)

/-- The buffer that a release hands out survives the object, with the entries that were made, if there are any; and so do the
buffers of the memory at the beginning. -/
theorem Edits.release {m₀ m : μ} {s : σ} {set : MetadataSet} (h : api.Edits m₀ s m set) {tag : UInt32}
    {value : MetadataValue} (htag : set tag = some value) :
    ∃ c, (api.release s).1 = some c ∧ api.read (api.destroy (api.release s).2 m) c = some set ∧
      ∀ b set', api.read m₀ b = some set' → api.read (api.destroy (api.release s).2 m) b = some set' := by
  obtain ⟨hreleased, hempty⟩ := api.release_buffer s
  have hread : ∀ b, api.read (api.destroy (api.release s).2 m) b = api.read m b :=
    fun b => api.destroy_empty _ m b hempty
  cases hs : api.buffer s with
  | none =>
    rw [h.empty hs tag] at htag
    cases htag
  | some c =>
    refine ⟨c, by rw [hreleased, hs], by rw [hread, h.entries c hs], ?_⟩
    intro b set' hb
    rw [hread]
    exact h.frame b set' hb

end CameraMetadataApi

/-! ## The class over a table of buffers -/

/-- Buffers by address; from some address on there are none. -/
structure MetadataHeap where
  buffers : ℕ → Option MetadataSet
  next : ℕ
  fresh : ∀ b, next ≤ b → buffers b = none

namespace MetadataHeap

/-- A new buffer, at the next address. -/
def allocate (m : MetadataHeap) (set : MetadataSet) : MetadataHeap where
  buffers := Function.update m.buffers m.next (some set)
  next := m.next + 1
  fresh := by
    intro b hb
    rw [Function.update_of_ne (by omega)]
    exact m.fresh b (by omega)

/-- The entries of a buffer are replaced. -/
def store (m : MetadataHeap) (b : ℕ) (set : MetadataSet) : MetadataHeap where
  buffers := Function.update m.buffers b ((m.buffers b).map fun _ => set)
  next := m.next
  fresh := by
    intro c hc
    by_cases h : c = b
    · subst h
      simp [m.fresh c hc]
    · rw [Function.update_of_ne h]
      exact m.fresh c hc

def free (m : MetadataHeap) : Option ℕ → MetadataHeap
  | none => m
  | some b =>
    { buffers := Function.update m.buffers b none
      next := m.next
      fresh := by
        intro c hc
        by_cases h : c = b
        · simp [h]
        · rw [Function.update_of_ne h]
          exact m.fresh c hc }

/-- A buffer that is not freed keeps its entries. -/
theorem buffers_free {m : MetadataHeap} {s : Option ℕ} {c : ℕ} (h : s ≠ some c) : (m.free s).buffers c = m.buffers c := by
  cases s with
  | none => rfl
  | some b => exact Function.update_of_ne (fun hc => h (by rw [hc])) _ _

@[simp] theorem next_free (m : MetadataHeap) (s : Option ℕ) : (m.free s).next = m.next := by
  cases s <;> rfl

@[simp] theorem buffers_allocate_self (m : MetadataHeap) (set : MetadataSet) : (m.allocate set).buffers m.next = some set :=
  Function.update_self _ _ _

/-- A buffer that exists is not the next one. -/
theorem buffers_allocate {m : MetadataHeap} {set old : MetadataSet} {c : ℕ} (h : m.buffers c = some old) :
    (m.allocate set).buffers c = some old := by
  have hne : c ≠ m.next := by
    rintro rfl
    rw [m.fresh _ (Nat.le_refl _)] at h
    cases h
  rw [← h]
  exact Function.update_of_ne hne _ _

/-- The class over a table of buffers: an update of a buffer writes in place. -/
def api : CameraMetadataApi (Option ℕ) MetadataHeap where
  read := buffers
  buffer := id
  construct := none
  assign := fun s given m =>
    if given = s then (s, m)
    else
      match given.bind m.buffers with
      | none => (none, m.free s)
      | some set => (some m.next, (m.free s).allocate set)
  update := fun s tag value m =>
    match s with
    | none => (some m.next, m.allocate (Function.update (fun _ => none) tag (some value)))
    | some b => (some b, m.store b (Function.update ((m.buffers b).getD fun _ => none) tag (some value)))
  release := fun s => (s, none)
  destroy := fun s m => m.free s
  buffer_construct := rfl
  assign_null := by
    intro s m
    cases s <;> simp
  assign_clone := by
    intro s m b set hs hb
    have hb' : m.buffers b = some set := hb
    have hne : some b ≠ s := fun h => hs h.symm
    refine ⟨m.next, ?_, m.fresh _ (Nat.le_refl _), ?_⟩
    · simp [hne, hb']
    · simpa [hne, hb'] using buffers_allocate_self (m.free s) set
  assign_frame := by
    intro s given m c set hs hc
    split_ifs
    · exact hc
    · cases given.bind m.buffers with
      | none => exact (buffers_free hs).trans hc
      | some new => exact buffers_allocate ((buffers_free hs).trans hc)
  update_entry := by
    intro s tag value m set hread hempty
    cases s with
    | none =>
      obtain rfl : set = fun _ => none := funext (hempty rfl)
      exact ⟨m.next, rfl, Or.inr (m.fresh _ (Nat.le_refl _)), buffers_allocate_self m _⟩
    | some b =>
      have hb : m.buffers b = some set := hread b rfl
      refine ⟨b, rfl, Or.inl rfl, ?_⟩
      simp [store, hb]
  update_frame := by
    intro s tag value m c set hs hc
    cases s with
    | none => exact buffers_allocate hc
    | some b => exact (Function.update_of_ne (fun h => hs (by rw [h]; rfl)) _ _).trans hc
  release_buffer := fun _ => ⟨rfl, rfl⟩
  destroy_empty := by
    intro s m c hs
    cases hs
    rfl

end MetadataHeap

end Universal7880
