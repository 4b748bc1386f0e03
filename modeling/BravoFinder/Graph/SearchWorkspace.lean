import BravoFinder.Core.Search
import BravoFinder.Library.StdHeap

namespace BravoFinder

/-!
# The reusable label arrays of a search

One workspace serves the hundreds of searches of a K-shortest run.  Nothing is
cleared between two searches: a slot counts only when its stamp is the current
generation, and reads as its initial value otherwise.  `gOf_nextGeneration` and
its siblings are that logical clearing, and they need only that no slot was
stamped in the future, which `Stamped` states.

The arrays are total maps, so growing them to the graph's size is the identity.
The generation counter is a number without bound, as the source assumes when it
notes that a wrap is unreachable.
-/

/-- An entry of the open set. -/
structure QueueNode (R : Type) where
  f : WithTop R
  vertex : Int

/-- `operator>`, by which the open set is a min-heap. -/
def QueueNode.greater {R : Type} [LinearOrder R] (first second : QueueNode R) : Prop :=
  second.f < first.f

/-- `SearchWorkspace`. -/
structure SearchWorkspace (R : Type) where
  g : Int -> WithTop R
  geo : Int -> R
  prev : Int -> Int
  inbound : Int -> R
  stamp : Int -> Nat
  closedStamp : Int -> Nat
  heap : List (QueueNode R)
  generation : Nat

namespace SearchWorkspace

variable {R : Type} [Zero R] [One R] [Neg R]

/-- A workspace that has run no search.  The initial values are never read:
the first search runs in generation 1 and no slot is stamped with it. -/
def empty : SearchWorkspace R where
  g _ := ⊤
  geo _ := 0
  prev _ := 0
  inbound _ := 0
  stamp _ := 0
  closedStamp _ := 0
  heap := []
  generation := 0

def Live (ws : SearchWorkspace R) (vertex : Int) : Prop :=
  ws.stamp vertex = ws.generation

instance (ws : SearchWorkspace R) (vertex : Int) : Decidable (ws.Live vertex) :=
  inferInstanceAs (Decidable (ws.stamp vertex = ws.generation))

def gOf (ws : SearchWorkspace R) (vertex : Int) : WithTop R :=
  if ws.Live vertex then ws.g vertex else ⊤

def geoOf (ws : SearchWorkspace R) (vertex : Int) : R :=
  if ws.Live vertex then ws.geo vertex else 0

def prevOf (ws : SearchWorkspace R) (vertex : Int) : Int :=
  if ws.Live vertex then ws.prev vertex else kNoVertex

def inboundOf (ws : SearchWorkspace R) (vertex : Int) : R :=
  if ws.Live vertex then ws.inbound vertex else kNoBearing

def closed (ws : SearchWorkspace R) (vertex : Int) : Bool :=
  ws.closedStamp vertex = ws.generation

def nextGeneration (ws : SearchWorkspace R) : SearchWorkspace R :=
  { ws with generation := ws.generation + 1 }

/-- Record the labels of a vertex and stamp it live. -/
def relax (ws : SearchWorkspace R) (vertex : Int) (g : WithTop R) (geo : R) (prev : Int)
    (inbound : R) : SearchWorkspace R :=
  { ws with
    g := Function.update ws.g vertex g
    geo := Function.update ws.geo vertex geo
    prev := Function.update ws.prev vertex prev
    inbound := Function.update ws.inbound vertex inbound
    stamp := Function.update ws.stamp vertex ws.generation }

def markClosed (ws : SearchWorkspace R) (vertex : Int) : SearchWorkspace R :=
  { ws with closedStamp := Function.update ws.closedStamp vertex ws.generation }

def withHeap (ws : SearchWorkspace R) (heap : List (QueueNode R)) : SearchWorkspace R :=
  { ws with heap := heap }

/-! ## What each update changes -/

section Updates

variable (ws : SearchWorkspace R) (vertex other : Int) (g : WithTop R) (geo : R) (prev : Int)
  (inbound : R) (heap : List (QueueNode R))

section NoDefaults

omit [Zero R] [One R] [Neg R]

theorem live_relax :
    (ws.relax vertex g geo prev inbound).Live other ↔ other = vertex ∨ ws.Live other := by
  by_cases same : other = vertex
  · subst same
    simp only [Live, relax, Function.update_self, true_or]
  · simp only [Live, relax, Function.update_of_ne same, same, false_or]

/-- Every value slot reads the same way: the relaxed one as written, the others
as before. -/
private theorem read_relax {A : Type} (field : Int -> A) (value initial : A) :
    (if (ws.relax vertex g geo prev inbound).Live other then Function.update field vertex value other
      else initial) =
      if other = vertex then value else if ws.Live other then field other else initial := by
  have live := ws.live_relax vertex other g geo prev inbound
  by_cases same : other = vertex
  · rw [if_pos (live.mpr (Or.inl same)), if_pos same, same, Function.update_self]
  · rw [if_congr (live.trans (or_iff_right same)) (Function.update_of_ne same value field) rfl,
      if_neg same]

@[simp] theorem gOf_relax :
    (ws.relax vertex g geo prev inbound).gOf other =
      if other = vertex then g else ws.gOf other :=
  ws.read_relax vertex other g geo prev inbound ws.g g ⊤

@[simp] theorem prevOf_relax :
    (ws.relax vertex g geo prev inbound).prevOf other =
      if other = vertex then prev else ws.prevOf other :=
  ws.read_relax vertex other g geo prev inbound ws.prev prev kNoVertex

@[simp] theorem closed_relax :
    (ws.relax vertex g geo prev inbound).closed other = ws.closed other := rfl

@[simp] theorem heap_relax : (ws.relax vertex g geo prev inbound).heap = ws.heap := rfl

theorem closed_markClosed :
    (ws.markClosed vertex).closed other = (decide (other = vertex) || ws.closed other) := by
  by_cases same : other = vertex
  · subst same
    simp only [closed, markClosed, Function.update_self, decide_true, Bool.true_or]
  · simp only [closed, markClosed, Function.update_of_ne same, same, decide_false, Bool.false_or]

@[simp] theorem closed_markClosed_self : (ws.markClosed vertex).closed vertex = true := by
  rw [closed_markClosed, decide_eq_true rfl, Bool.true_or]

theorem closed_markClosed_of_closed (closed : ws.closed other = true) :
    (ws.markClosed vertex).closed other = true := by
  rw [closed_markClosed, closed, Bool.or_true]

@[simp] theorem live_markClosed : (ws.markClosed vertex).Live other ↔ ws.Live other := Iff.rfl
@[simp] theorem gOf_markClosed : (ws.markClosed vertex).gOf other = ws.gOf other := rfl
@[simp] theorem prevOf_markClosed : (ws.markClosed vertex).prevOf other = ws.prevOf other := rfl
@[simp] theorem heap_markClosed : (ws.markClosed vertex).heap = ws.heap := rfl

@[simp] theorem live_withHeap : (ws.withHeap heap).Live other ↔ ws.Live other := Iff.rfl
@[simp] theorem gOf_withHeap : (ws.withHeap heap).gOf other = ws.gOf other := rfl
@[simp] theorem prevOf_withHeap : (ws.withHeap heap).prevOf other = ws.prevOf other := rfl
@[simp] theorem closed_withHeap : (ws.withHeap heap).closed other = ws.closed other := rfl
@[simp] theorem heap_withHeap : (ws.withHeap heap).heap = heap := rfl

end NoDefaults

omit [One R] [Neg R] in
@[simp] theorem geoOf_relax :
    (ws.relax vertex g geo prev inbound).geoOf other =
      if other = vertex then geo else ws.geoOf other :=
  ws.read_relax vertex other g geo prev inbound ws.geo geo 0

omit [Zero R] in
@[simp] theorem inboundOf_relax :
    (ws.relax vertex g geo prev inbound).inboundOf other =
      if other = vertex then inbound else ws.inboundOf other :=
  ws.read_relax vertex other g geo prev inbound ws.inbound inbound kNoBearing

omit [One R] [Neg R] in
@[simp] theorem geoOf_markClosed : (ws.markClosed vertex).geoOf other = ws.geoOf other := rfl

omit [One R] [Neg R] in
@[simp] theorem geoOf_withHeap : (ws.withHeap heap).geoOf other = ws.geoOf other := rfl

omit [Zero R] in
@[simp] theorem inboundOf_markClosed :
    (ws.markClosed vertex).inboundOf other = ws.inboundOf other := rfl

omit [Zero R] in
@[simp] theorem inboundOf_withHeap : (ws.withHeap heap).inboundOf other = ws.inboundOf other := rfl

end Updates

/-! ## Logical clearing -/

/-- No slot carries a stamp of a later generation. -/
structure Stamped (ws : SearchWorkspace R) : Prop where
  stamp_le : forall vertex, ws.stamp vertex ≤ ws.generation
  closedStamp_le : forall vertex, ws.closedStamp vertex ≤ ws.generation

omit [One R] [Neg R] in
theorem stamped_empty : (empty : SearchWorkspace R).Stamped :=
  ⟨fun _ => Nat.le_refl 0, fun _ => Nat.le_refl 0⟩

section Stamps

omit [Zero R] [One R] [Neg R]

theorem Stamped.relax {ws : SearchWorkspace R} (stamped : ws.Stamped) (vertex : Int)
    (g : WithTop R) (geo : R) (prev : Int) (inbound : R) :
    (ws.relax vertex g geo prev inbound).Stamped where
  stamp_le other := by
    by_cases same : other = vertex
    · subst same
      simp only [SearchWorkspace.relax, Function.update_self, Nat.le_refl]
    · simp only [SearchWorkspace.relax, Function.update_of_ne same, stamped.stamp_le other]
  closedStamp_le := stamped.closedStamp_le

theorem Stamped.markClosed {ws : SearchWorkspace R} (stamped : ws.Stamped) (vertex : Int) :
    (ws.markClosed vertex).Stamped where
  stamp_le := stamped.stamp_le
  closedStamp_le other := by
    by_cases same : other = vertex
    · subst same
      simp only [SearchWorkspace.markClosed, Function.update_self, Nat.le_refl]
    · simp only [SearchWorkspace.markClosed, Function.update_of_ne same,
        stamped.closedStamp_le other]

theorem Stamped.withHeap {ws : SearchWorkspace R} (stamped : ws.Stamped)
    (heap : List (QueueNode R)) : (ws.withHeap heap).Stamped :=
  ⟨stamped.stamp_le, stamped.closedStamp_le⟩

theorem Stamped.nextGeneration {ws : SearchWorkspace R} (stamped : ws.Stamped) :
    ws.nextGeneration.Stamped :=
  ⟨fun vertex => Nat.le_succ_of_le (stamped.stamp_le vertex),
    fun vertex => Nat.le_succ_of_le (stamped.closedStamp_le vertex)⟩

/-- After the generation is bumped no slot is live ... -/
theorem Stamped.not_live_nextGeneration {ws : SearchWorkspace R} (stamped : ws.Stamped)
    (vertex : Int) : ¬ ws.nextGeneration.Live vertex := by
  have bound := stamped.stamp_le vertex
  simp only [Live, SearchWorkspace.nextGeneration]
  omega

/-- ... and none is closed. -/
theorem Stamped.closed_nextGeneration {ws : SearchWorkspace R} (stamped : ws.Stamped)
    (vertex : Int) : ws.nextGeneration.closed vertex = false := by
  have bound := stamped.closedStamp_le vertex
  apply decide_eq_false
  simp only [SearchWorkspace.nextGeneration]
  omega

end Stamps

/-! ## Workspaces a search cannot tell apart -/

/-- Two workspaces that read the same at a vertex. -/
structure SameLabel (first second : SearchWorkspace R) (vertex : Int) : Prop where
  live : first.Live vertex ↔ second.Live vertex
  g : first.gOf vertex = second.gOf vertex
  geo : first.geoOf vertex = second.geoOf vertex
  prev : first.prevOf vertex = second.prevOf vertex
  inbound : first.inboundOf vertex = second.inboundOf vertex

theorem SameLabel.refl (ws : SearchWorkspace R) (vertex : Int) : SameLabel ws ws vertex :=
  ⟨Iff.rfl, rfl, rfl, rfl, rfl⟩

theorem SameLabel.trans {first second third : SearchWorkspace R} {vertex : Int}
    (left : SameLabel first second vertex) (right : SameLabel second third vertex) :
    SameLabel first third vertex :=
  ⟨left.live.trans right.live, left.g.trans right.g, left.geo.trans right.geo,
    left.prev.trans right.prev, left.inbound.trans right.inbound⟩

/-- Relaxing one vertex leaves the labels of the others. -/
theorem SameLabel.relax (ws : SearchWorkspace R) {vertex other : Int} (different : other ≠ vertex)
    (g : WithTop R) (geo : R) (prev : Int) (inbound : R) :
    SameLabel (ws.relax vertex g geo prev inbound) ws other where
  live := (ws.live_relax vertex other g geo prev inbound).trans (or_iff_right different)
  g := by rw [gOf_relax, if_neg different]
  geo := by rw [geoOf_relax, if_neg different]
  prev := by rw [prevOf_relax, if_neg different]
  inbound := by rw [inboundOf_relax, if_neg different]

/-- Two workspaces that read the same everywhere.  Their arrays may differ in
slots of older generations. -/
structure Agree (first second : SearchWorkspace R) : Prop where
  label : forall vertex, SameLabel first second vertex
  closed : forall vertex, first.closed vertex = second.closed vertex
  heap : first.heap = second.heap

namespace Agree

variable {first second : SearchWorkspace R}

theorem relax (agree : Agree first second) (vertex : Int) (g : WithTop R) (geo : R) (prev : Int)
    (inbound : R) :
    Agree (first.relax vertex g geo prev inbound) (second.relax vertex g geo prev inbound) where
  label other := by
    have label := agree.label other
    constructor
    · rw [live_relax, live_relax, label.live]
    · rw [gOf_relax, gOf_relax, label.g]
    · rw [geoOf_relax, geoOf_relax, label.geo]
    · rw [prevOf_relax, prevOf_relax, label.prev]
    · rw [inboundOf_relax, inboundOf_relax, label.inbound]
  closed := agree.closed
  heap := agree.heap

theorem markClosed (agree : Agree first second) (vertex : Int) :
    Agree (first.markClosed vertex) (second.markClosed vertex) where
  label other := ⟨(agree.label other).live, (agree.label other).g, (agree.label other).geo,
    (agree.label other).prev, (agree.label other).inbound⟩
  closed other := by rw [closed_markClosed, closed_markClosed, agree.closed other]
  heap := agree.heap

theorem withHeap (agree : Agree first second) (heap : List (QueueNode R)) :
    Agree (first.withHeap heap) (second.withHeap heap) where
  label other := ⟨(agree.label other).live, (agree.label other).g, (agree.label other).geo,
    (agree.label other).prev, (agree.label other).inbound⟩
  closed := agree.closed
  heap := rfl

/-- Whatever two workspaces hold, after a bump and a heap reset they agree. -/
theorem of_nextGeneration (firstStamped : first.Stamped) (secondStamped : second.Stamped)
    (heap : List (QueueNode R)) :
    Agree (first.nextGeneration.withHeap heap) (second.nextGeneration.withHeap heap) where
  label vertex := by
    have dead := firstStamped.not_live_nextGeneration vertex
    have dead' := secondStamped.not_live_nextGeneration vertex
    exact ⟨iff_of_false dead dead', (if_neg dead).trans (if_neg dead').symm,
      (if_neg dead).trans (if_neg dead').symm, (if_neg dead).trans (if_neg dead').symm,
      (if_neg dead).trans (if_neg dead').symm⟩
  closed vertex := (firstStamped.closed_nextGeneration vertex).trans
    (secondStamped.closed_nextGeneration vertex).symm
  heap := rfl

end Agree
end SearchWorkspace
end BravoFinder
