import BravoFinder.Graph.SearchRun
import BravoFinder.Graph.WorkspaceReuse

namespace BravoFinder

/-!
# The workspace as it is stored

The label arrays are vectors that grow to the largest graph seen and are never
cleared.  A slot counts when its stamp, a 32-bit number, is the generation of the
running search.  A search on the stored arrays is followed step by step by one on
labels that are total maps, as long as the generation has not wrapped.
-/

/-! ## Vectors -/

/-- `resize`. -/
def resize {A : Type} (items : List A) (count : Nat) (fill : A) : List A :=
  items.take count ++ List.replicate (count - items.length) fill

/-- A slot of a vertex.  The default stands for the read past the table that no
caller makes. -/
def slot {A : Type} (items : List A) (vertex : Int) (default : A) : A :=
  if 0 ≤ vertex then items.getD vertex.toNat default else default

section Vectors

variable {A : Type}

theorem length_resize {items : List A} {count : Nat} (grows : items.length ≤ count) (fill : A) :
    (resize items count fill).length = count := by
  rw [resize, List.length_append, List.length_replicate, List.take_of_length_le grows]
  omega

theorem slot_resize {items : List A} {count : Nat} (grows : items.length ≤ count) (vertex : Int) (fill : A) :
    slot (resize items count fill) vertex fill = slot items vertex fill := by
  rw [slot, slot, resize, List.take_of_length_le grows]
  split_ifs
  · rw [List.getD_eq_getElem?_getD, List.getD_eq_getElem?_getD]
    by_cases old : vertex.toNat < items.length
    · rw [List.getElem?_append_left old]
    · rw [List.getElem?_append_right (not_lt.mp old), List.getElem?_eq_none (not_lt.mp old), List.getElem?_replicate]
      split_ifs <;> rfl
  · rfl

theorem slot_set {items : List A} {vertex : Int} (inside : 0 ≤ vertex ∧ vertex.toNat < items.length) (value : A)
    (other : Int) (default : A) :
    slot (items.set vertex.toNat value) other default = if other = vertex then value else slot items other default := by
  rw [slot, slot, List.getD_eq_getElem?_getD, List.getD_eq_getElem?_getD]
  by_cases same : other = vertex
  · rw [if_pos same, same, if_pos inside.1, List.getElem?_set_self inside.2, Option.getD_some]
  · rw [if_neg same]
    split_ifs with nonneg
    · rw [List.getElem?_set_ne (by omega)]
    · rfl

end Vectors

/-! ## The stored workspace -/

/-- `SearchWorkspace`, with the arrays it owns. -/
structure WorkspaceArrays (R : Type) where
  g : List (WithTop R)
  geo : List R
  prev : List Int
  inbound : List R
  stamp : List UInt32
  closedStamp : List UInt32
  heap : List (QueueNode R)
  generation : UInt32

namespace WorkspaceArrays

variable {R : Type} [Zero R] [One R] [Neg R]

/-- A workspace that has run no search. -/
def empty : WorkspaceArrays R :=
  ⟨[], [], [], [], [], [], [], 0⟩

/-- `Reset`. -/
def reset (ws : WorkspaceArrays R) (n : Nat) : WorkspaceArrays R :=
  if ws.stamp.length < n then
    { ws with
      g := resize ws.g n ((0 : R) : WithTop R)
      geo := resize ws.geo n 0
      prev := resize ws.prev n 0
      inbound := resize ws.inbound n 0
      stamp := resize ws.stamp n 0
      closedStamp := resize ws.closedStamp n 0 }
  else ws

/-- `NextGeneration`. -/
def nextGeneration (ws : WorkspaceArrays R) : WorkspaceArrays R :=
  { ws with generation := ws.generation + 1 }

/-- `Live`. -/
def live (ws : WorkspaceArrays R) (vertex : Int) : Bool :=
  slot ws.stamp vertex 0 == ws.generation

/-- `G`. -/
def gOf (ws : WorkspaceArrays R) (vertex : Int) : WithTop R :=
  if ws.live vertex then slot ws.g vertex ⊤ else ⊤

/-- `Geo`. -/
def geoOf (ws : WorkspaceArrays R) (vertex : Int) : R :=
  if ws.live vertex then slot ws.geo vertex 0 else 0

/-- `Prev`. -/
def prevOf (ws : WorkspaceArrays R) (vertex : Int) : Int :=
  if ws.live vertex then slot ws.prev vertex kNoVertex else kNoVertex

/-- `Inbound`. -/
def inboundOf (ws : WorkspaceArrays R) (vertex : Int) : R :=
  if ws.live vertex then slot ws.inbound vertex kNoBearing else kNoBearing

/-- `Closed`. -/
def closed (ws : WorkspaceArrays R) (vertex : Int) : Bool :=
  slot ws.closedStamp vertex 0 == ws.generation

/-- `Touch`. -/
def touch (ws : WorkspaceArrays R) (vertex : Int) : WorkspaceArrays R :=
  if ws.live vertex then ws
  else
    { ws with
      stamp := ws.stamp.set vertex.toNat ws.generation
      g := ws.g.set vertex.toNat ⊤
      geo := ws.geo.set vertex.toNat 0
      prev := ws.prev.set vertex.toNat kNoVertex
      inbound := ws.inbound.set vertex.toNat kNoBearing }

/-- `Relax`. -/
def relax (ws : WorkspaceArrays R) (vertex : Int) (g : WithTop R) (geo : R) (prev : Int) (inbound : R) :
    WorkspaceArrays R :=
  let touched := ws.touch vertex
  { touched with
    g := touched.g.set vertex.toNat g
    geo := touched.geo.set vertex.toNat geo
    prev := touched.prev.set vertex.toNat prev
    inbound := touched.inbound.set vertex.toNat inbound }

/-- `MarkClosed`. -/
def markClosed (ws : WorkspaceArrays R) (vertex : Int) : WorkspaceArrays R :=
  { ws with closedStamp := ws.closedStamp.set vertex.toNat ws.generation }

def withHeap (ws : WorkspaceArrays R) (heap : List (QueueNode R)) : WorkspaceArrays R :=
  { ws with heap := heap }

/-- The start of a search: `Reset`, `NextGeneration` and the cleared open set. -/
def start (ws : WorkspaceArrays R) (n : Nat) : WorkspaceArrays R :=
  ((ws.reset n).nextGeneration).withHeap []

/-- Nothing of an earlier search can be read. -/
structure Clean (ws : WorkspaceArrays R) : Prop where
  g : forall vertex, ws.gOf vertex = ⊤
  geo : forall vertex, ws.geoOf vertex = 0
  prev : forall vertex, ws.prevOf vertex = kNoVertex
  inbound : forall vertex, ws.inboundOf vertex = kNoBearing
  closed : forall vertex, ws.closed vertex = false
  heap : ws.heap = []

/-! ## What every operation keeps -/

/-- All arrays have one size, and no stamp is of a later generation. -/
structure Stored (ws : WorkspaceArrays R) (size : Nat) : Prop where
  g : ws.g.length = size
  geo : ws.geo.length = size
  prev : ws.prev.length = size
  inbound : ws.inbound.length = size
  stamp : ws.stamp.length = size
  closedStamp : ws.closedStamp.length = size
  stamp_le : forall vertex, (slot ws.stamp vertex 0).toNat ≤ ws.generation.toNat
  closedStamp_le : forall vertex, (slot ws.closedStamp vertex 0).toNat ≤ ws.generation.toNat

omit [Zero R] [One R] [Neg R] in
theorem stored_empty : (empty : WorkspaceArrays R).Stored 0 :=
  ⟨rfl, rfl, rfl, rfl, rfl, rfl, fun vertex => by rw [slot]; split_ifs <;> exact Nat.le_refl _,
    fun vertex => by rw [slot]; split_ifs <;> exact Nat.le_refl _⟩

variable {ws : WorkspaceArrays R} {size : Nat}

omit [One R] [Neg R] in
theorem Stored.reset (stored : ws.Stored size) (n : Nat) :
    (ws.reset n).Stored (max size n) ∧ (ws.reset n).generation = ws.generation := by
  rw [WorkspaceArrays.reset]
  split_ifs with smaller
  · have grows : size ≤ n := stored.stamp ▸ smaller.le
    rw [max_eq_right grows]
    refine ⟨⟨?_, ?_, ?_, ?_, ?_, ?_, fun vertex => ?_, fun vertex => ?_⟩, rfl⟩
    · exact length_resize (stored.g ▸ grows) _
    · exact length_resize (stored.geo ▸ grows) _
    · exact length_resize (stored.prev ▸ grows) _
    · exact length_resize (stored.inbound ▸ grows) _
    · exact length_resize (stored.stamp ▸ grows) _
    · exact length_resize (stored.closedStamp ▸ grows) _
    · rw [slot_resize (stored.stamp ▸ grows)]
      exact stored.stamp_le vertex
    · rw [slot_resize (stored.closedStamp ▸ grows)]
      exact stored.closedStamp_le vertex
  · rw [max_eq_left (stored.stamp ▸ not_lt.mp smaller)]
    exact ⟨stored, rfl⟩

omit [Zero R] [One R] [Neg R] in
theorem Stored.withHeap (stored : ws.Stored size) (heap : List (QueueNode R)) : (ws.withHeap heap).Stored size :=
  ⟨stored.g, stored.geo, stored.prev, stored.inbound, stored.stamp, stored.closedStamp, stored.stamp_le,
    stored.closedStamp_le⟩

omit [Zero R] [One R] [Neg R] in
theorem Stored.markClosed (stored : ws.Stored size) {vertex : Int} (inside : 0 ≤ vertex ∧ vertex.toNat < size) :
    (ws.markClosed vertex).Stored size where
  g := stored.g
  geo := stored.geo
  prev := stored.prev
  inbound := stored.inbound
  stamp := stored.stamp
  closedStamp := by rw [WorkspaceArrays.markClosed, List.length_set, stored.closedStamp]
  stamp_le := stored.stamp_le
  closedStamp_le other := by
    rw [WorkspaceArrays.markClosed, slot_set ⟨inside.1, stored.closedStamp ▸ inside.2⟩]
    split_ifs
    · exact Nat.le_refl _
    · exact stored.closedStamp_le other

/-- A touched slot is live, and the others are as before. -/
theorem Stored.touch (stored : ws.Stored size) {vertex : Int} (inside : 0 ≤ vertex ∧ vertex.toNat < size) :
    (ws.touch vertex).Stored size ∧ (ws.touch vertex).generation = ws.generation ∧
      (ws.touch vertex).heap = ws.heap ∧ (ws.touch vertex).closedStamp = ws.closedStamp ∧
      forall other, (ws.touch vertex).live other = (decide (other = vertex) || ws.live other) := by
  rw [WorkspaceArrays.touch]
  split_ifs with already
  · refine ⟨stored, rfl, rfl, rfl, fun other => ?_⟩
    by_cases same : other = vertex
    · rw [same, already, Bool.or_true]
    · rw [decide_eq_false same, Bool.false_or]
  · have stamps := fun other => slot_set ⟨inside.1, stored.stamp ▸ inside.2⟩ ws.generation other (0 : UInt32)
    refine ⟨⟨?_, ?_, ?_, ?_, ?_, stored.closedStamp, fun other => ?_, stored.closedStamp_le⟩, rfl, rfl, rfl,
      fun other => ?_⟩
    · rw [List.length_set, stored.g]
    · rw [List.length_set, stored.geo]
    · rw [List.length_set, stored.prev]
    · rw [List.length_set, stored.inbound]
    · rw [List.length_set, stored.stamp]
    · rw [stamps]
      split_ifs
      · exact Nat.le_refl _
      · exact stored.stamp_le other
    · rw [live, live]
      simp only
      rw [stamps]
      by_cases same : other = vertex
      · rw [if_pos same, decide_eq_true same, Bool.true_or, beq_self_eq_true]
      · rw [if_neg same, decide_eq_false same, Bool.false_or]

theorem Stored.relax (stored : ws.Stored size) {vertex : Int} (inside : 0 ≤ vertex ∧ vertex.toNat < size)
    (g : WithTop R) (geo : R) (prev : Int) (inbound : R) :
    (ws.relax vertex g geo prev inbound).Stored size ∧
      (ws.relax vertex g geo prev inbound).generation = ws.generation := by
  rcases stored.touch inside with ⟨touched, generation, -, -, -⟩
  refine ⟨⟨?_, ?_, ?_, ?_, touched.stamp, touched.closedStamp, touched.stamp_le, touched.closedStamp_le⟩, generation⟩
  · rw [WorkspaceArrays.relax, List.length_set, touched.g]
  · rw [WorkspaceArrays.relax, List.length_set, touched.geo]
  · rw [WorkspaceArrays.relax, List.length_set, touched.prev]
  · rw [WorkspaceArrays.relax, List.length_set, touched.inbound]

/-- Every array of values reads the same way after a vertex is relaxed: that
vertex as written, the others as before. -/
private theorem read_relaxed {A : Type} {live before : Bool} {vertex other : Int} {touched old : List A}
    (isLive : live = (decide (other = vertex) || before))
    (inside : 0 ≤ vertex ∧ vertex.toNat < touched.length) (value initial : A)
    (kept : other ≠ vertex -> slot touched other initial = slot old other initial) :
    (if live then slot (touched.set vertex.toNat value) other initial else initial) =
      if other = vertex then value else if before then slot old other initial else initial := by
  rw [slot_set inside, isLive]
  by_cases same : other = vertex
  · rw [if_pos same, if_pos same, decide_eq_true same, Bool.true_or, if_pos rfl]
  · rw [if_neg same, if_neg same, decide_eq_false same, Bool.false_or, kept same]

/-- The other slots of a touched array. -/
private theorem slot_touched {A : Type} {items : List A} {vertex other : Int}
    (inside : 0 ≤ vertex ∧ vertex.toNat < items.length) (different : other ≠ vertex) (live : Bool) (value initial : A) :
    slot (if live then items else items.set vertex.toNat value) other initial = slot items other initial := by
  split_ifs
  · rfl
  · rw [slot_set inside, if_neg different]

/-- What is read after a vertex is relaxed. -/
structure Relaxed (ws after : WorkspaceArrays R) (vertex : Int) (g : WithTop R) (geo : R) (prev : Int)
    (inbound : R) : Prop where
  g : forall other, after.gOf other = if other = vertex then g else ws.gOf other
  geo : forall other, after.geoOf other = if other = vertex then geo else ws.geoOf other
  prev : forall other, after.prevOf other = if other = vertex then prev else ws.prevOf other
  inbound : forall other, after.inboundOf other = if other = vertex then inbound else ws.inboundOf other
  closed : forall other, after.closed other = ws.closed other
  heap : after.heap = ws.heap

theorem Stored.relaxed (stored : ws.Stored size) {vertex : Int} (inside : 0 ≤ vertex ∧ vertex.toNat < size)
    (g : WithTop R) (geo : R) (prev : Int) (inbound : R) :
    Relaxed ws (ws.relax vertex g geo prev inbound) vertex g geo prev inbound := by
  rcases stored.touch inside with ⟨touched, generation, heap, closedStamp, live⟩
  have gs : (ws.touch vertex).g = if ws.live vertex then ws.g else ws.g.set vertex.toNat ⊤ := by
    rw [WorkspaceArrays.touch]
    split_ifs <;> rfl
  have geos : (ws.touch vertex).geo = if ws.live vertex then ws.geo else ws.geo.set vertex.toNat 0 := by
    rw [WorkspaceArrays.touch]
    split_ifs <;> rfl
  have prevs : (ws.touch vertex).prev = if ws.live vertex then ws.prev else ws.prev.set vertex.toNat kNoVertex := by
    rw [WorkspaceArrays.touch]
    split_ifs <;> rfl
  have inbounds : (ws.touch vertex).inbound =
      if ws.live vertex then ws.inbound else ws.inbound.set vertex.toNat kNoBearing := by
    rw [WorkspaceArrays.touch]
    split_ifs <;> rfl
  refine ⟨fun other => ?_, fun other => ?_, fun other => ?_, fun other => ?_, fun other => ?_, heap⟩
  · exact read_relaxed (live other) ⟨inside.1, touched.g ▸ inside.2⟩ g ⊤ fun different => by
      rw [gs, slot_touched ⟨inside.1, stored.g ▸ inside.2⟩ different]
  · exact read_relaxed (live other) ⟨inside.1, touched.geo ▸ inside.2⟩ geo 0 fun different => by
      rw [geos, slot_touched ⟨inside.1, stored.geo ▸ inside.2⟩ different]
  · exact read_relaxed (live other) ⟨inside.1, touched.prev ▸ inside.2⟩ prev kNoVertex fun different => by
      rw [prevs, slot_touched ⟨inside.1, stored.prev ▸ inside.2⟩ different]
  · exact read_relaxed (live other) ⟨inside.1, touched.inbound ▸ inside.2⟩ inbound kNoBearing fun different => by
      rw [inbounds, slot_touched ⟨inside.1, stored.inbound ▸ inside.2⟩ different]
  · rw [closed, closed, WorkspaceArrays.relax]
    simp only
    rw [closedStamp, generation]

omit [Zero R] [One R] [Neg R] in
theorem Stored.closed_markClosed (stored : ws.Stored size) {vertex : Int}
    (inside : 0 ≤ vertex ∧ vertex.toNat < size) (other : Int) :
    (ws.markClosed vertex).closed other = (decide (other = vertex) || ws.closed other) := by
  rw [closed, closed, WorkspaceArrays.markClosed]
  simp only
  rw [slot_set ⟨inside.1, stored.closedStamp ▸ inside.2⟩]
  by_cases same : other = vertex
  · rw [if_pos same, decide_eq_true same, Bool.true_or, beq_self_eq_true]
  · rw [if_neg same, decide_eq_false same, Bool.false_or]

/-- A search starts with nothing to read, while the generation has not wrapped. -/
theorem Stored.start (stored : ws.Stored size) (n : Nat) (fresh : ws.generation.toNat + 1 < 2 ^ 32) :
    (ws.start n).Stored (max size n) ∧ (ws.start n).generation.toNat = ws.generation.toNat + 1 ∧
      (ws.start n).Clean := by
  rcases stored.reset n with ⟨grown, generation⟩
  have next : (ws.start n).generation.toNat = ws.generation.toNat + 1 := by
    rw [WorkspaceArrays.start, WorkspaceArrays.withHeap, WorkspaceArrays.nextGeneration]
    simp only
    rw [generation, UInt32.toNat_add, Nat.mod_eq_of_lt (by exact fresh)]
    rfl
  have stamps : forall vertex, (slot (ws.start n).stamp vertex 0).toNat ≤ ws.generation.toNat :=
    fun vertex => generation ▸ grown.stamp_le vertex
  have closedStamps : forall vertex, (slot (ws.start n).closedStamp vertex 0).toNat ≤ ws.generation.toNat :=
    fun vertex => generation ▸ grown.closedStamp_le vertex
  have dead : forall vertex, (ws.start n).live vertex = false := by
    intro vertex
    refine beq_eq_false_iff_ne.mpr fun same => ?_
    have bound := stamps vertex
    rw [same, next] at bound
    omega
  refine ⟨⟨grown.g, grown.geo, grown.prev, grown.inbound, grown.stamp, grown.closedStamp, ?_, ?_⟩, next,
    ⟨?_, ?_, ?_, ?_, ?_, rfl⟩⟩
  · exact fun vertex => (stamps vertex).trans (next ▸ Nat.le_succ _)
  · exact fun vertex => (closedStamps vertex).trans (next ▸ Nat.le_succ _)
  · exact fun vertex => by rw [gOf, dead, if_neg Bool.false_ne_true]
  · exact fun vertex => by rw [geoOf, dead, if_neg Bool.false_ne_true]
  · exact fun vertex => by rw [prevOf, dead, if_neg Bool.false_ne_true]
  · exact fun vertex => by rw [inboundOf, dead, if_neg Bool.false_ne_true]
  · intro vertex
    refine beq_eq_false_iff_ne.mpr fun same => ?_
    have bound := closedStamps vertex
    rw [same, next] at bound
    omega

end WorkspaceArrays
end BravoFinder
