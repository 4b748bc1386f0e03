import BravoFinder.Build.KeyedVertices
import BravoFinder.Navdb.ParseRoute
import Mathlib.Algebra.Order.BigOperators.Group.List

namespace BravoFinder

/-!
# Airways expanded

`expand_airway` follows the edges that carry the name of the airway, in their
direction, so what it finds is a shortest path along the airway, and it finds
nothing only when there is no path or nowhere to go.
-/

namespace NavDatabase

variable {R : Type} [Field R] [LinearOrder R]

/-- A path along an airway: the vertices after the first, the last of them, and
the length of its edges. -/
inductive AirwayPath (db : NavDatabase R) (name : Text) (source : Int) : List Int -> Int -> R -> Prop
  | start : AirwayPath db name source [] source 0
  | step {path : List Int} {v : Int} {nm : R} {e : GraphEdge R} :
      AirwayPath db name source path v nm -> db.builder.Carries name v e ->
        AirwayPath db name source (path ++ [e.toVertex]) e.toVertex (nm + e.distanceNm)

/-- Some path along the airway leads from one vertex to the other. -/
def Connects (db : NavDatabase R) (name : Text) (source target : Int) : Prop :=
  exists path nm, AirwayPath db name source path target nm

/-- No path along the airway is shorter. -/
def ShortestOnAirway (db : NavDatabase R) (name : Text) (source target : Int) (path : List Int) : Prop :=
  exists nm, AirwayPath db name source path target nm ∧
    forall other nmOther, AirwayPath db name source other target nmOther -> nm ≤ nmOther

/-- The edges of the database have no negative length. -/
def NonNegativeLengths (db : NavDatabase R) : Prop :=
  forall e, e ∈ db.builder.graph.edges -> 0 ≤ e.distanceNm

variable {db : NavDatabase R} {name : Text} {source target : Int}

theorem AirwayPath.getLastD {path : List Int} {v : Int} {nm : R} (walk : AirwayPath db name source path v nm) :
    path.getLastD source = v := by
  cases walk with
  | start => rfl
  | step _ _ => rw [List.getLastD_concat]

/-- An airway path ends in the graph. -/
theorem AirwayPath.inRange (started : db.builder.graph.InRange source) {path : List Int} {v : Int} {nm : R}
    (walk : AirwayPath db name source path v nm) : db.builder.graph.InRange v := by
  cases walk with
  | start => exact started
  | step _ carries => exact db.builder.graph.inRange_toVertex carries.edge

/-! ## The search of the code -/

theorem onAirway_iff (db : NavDatabase R) (name : Text) (e : GraphEdge R) : db.onAirway name e = true ↔
    e.airwayId ≠ 0 ∧ name ∈ splitDesignators (db.builder.airwayName e.airwayId) := by
  rw [onAirway, Bool.and_eq_true, decide_eq_true_iff, List.any_eq_true]
  refine and_congr_right fun _ => ?_
  constructor
  · rintro ⟨d2, member, same⟩
    rw [beq_iff_eq] at same
    exact same ▸ member
  · exact fun member => ⟨name, member, beq_self_eq_true name⟩

/-- The steps are the edges that carry the name. -/
theorem mem_steps {u : Int} {next : Int × R} : next ∈ (db.airwaySearch name).steps u ↔
    exists e, e ∈ db.builder.graph.edgesFrom u ∧ e.airwayId ≠ 0 ∧
      name ∈ splitDesignators (db.builder.airwayName e.airwayId) ∧ (e.toVertex, e.distanceNm) = next := by
  simp only [airwaySearch, List.mem_map, List.mem_filter, onAirway_iff, and_assoc]

/-- The walks of the search are the paths along the airway. -/
theorem walk_iff (started : db.builder.graph.InRange source) {path : List Int} {v : Int} {nm : R} :
    LazySearch.Walk (db.airwaySearch name).steps source path v nm ↔ AirwayPath db name source path v nm := by
  constructor
  · intro walk
    induction walk with
    | start => exact .start
    | step _ listed inductionHypothesis =>
        rcases mem_steps.mp listed with ⟨e, edge, isAirway, named, rfl⟩
        exact .step inductionHypothesis ⟨inductionHypothesis.inRange started, edge, isAirway, named⟩
  · intro walk
    induction walk with
    | start => exact .start
    | @step path v nm e _ carries inductionHypothesis =>
        have listed : (e.toVertex, e.distanceNm) ∈ (db.airwaySearch name).steps v :=
          mem_steps.mpr ⟨e, carries.edge, carries.isAirway, carries.named, rfl⟩
        exact inductionHypothesis.step listed

theorem inside_airwaySearch (started : db.builder.graph.InRange source) :
    LazySearch.Inside (db.airwaySearch name) source db.builder.graph.vertices.toFinset where
  start := List.mem_toFinset.mpr ((db.builder.graph.mem_vertices source).mpr started)
  step u next listed := by
    rcases mem_steps.mp listed with ⟨e, edge, _, _, rfl⟩
    exact List.mem_toFinset.mpr ((db.builder.graph.mem_vertices _).mpr (db.builder.graph.inRange_toVertex edge))

/-- The fuel allows for every step. -/
theorem steps_le_airwayFuel (db : NavDatabase R) (name : Text) :
    1 + ∑ v ∈ db.builder.graph.vertices.toFinset, ((db.airwaySearch name).steps v).length ≤ db.airwayFuel := by
  rw [airwayFuel, List.sum_toFinset _ db.builder.graph.nodup_vertices]
  refine Nat.add_le_add_left (List.sum_le_sum fun v _ => ?_) 1
  rw [airwaySearch, List.length_map]
  exact List.length_filter_le _ _

theorem expandAirway_spec [IsStrictOrderedRing R] (name : Text) (target : Int) (nonneg : db.NonNegativeLengths)
    (started : db.builder.graph.InRange source) :
    (db.expandAirway name source target = [] ↔ target = source ∨ ¬ db.Connects name source target) ∧
    (db.expandAirway name source target ≠ [] ->
      db.ShortestOnAirway name source target (db.expandAirway name source target)) := by
  have lengths : (db.airwaySearch name).NonNegative := by
    intro u next listed
    rcases mem_steps.mp listed with ⟨e, edge, _, _, rfl⟩
    exact nonneg e (List.mem_of_mem_take (List.mem_of_mem_drop edge))
  have somewhere : forall u next, next ∈ (db.airwaySearch name).steps u -> next.1 ≠ (db.airwaySearch name).nowhere := by
    intro u next listed
    rcases mem_steps.mp listed with ⟨e, edge, _, _, rfl⟩
    have nonnegative := (db.builder.graph.inRange_toVertex edge).1
    show e.toVertex ≠ -1
    omega
  have depth : db.builder.graph.vertices.toFinset.card < db.builder.graph.coords.length + 1 := by
    rw [List.toFinset_card_of_nodup db.builder.graph.nodup_vertices, NavGraph.length_vertices]
    exact Nat.lt_succ_self _
  have inside : LazySearch.Inside (db.airwaySearch name) source db.builder.graph.vertices.toFinset :=
    inside_airwaySearch started
  have found := LazySearch.chain_spec target inside lengths somewhere
    (steps_le_airwayFuel db name) depth
  simp only [walk_iff started] at found
  exact found

/-! ## Fixes -/

omit [Field R] [LinearOrder R] in
theorem inRange_of_vertexByIdent {builder : GraphBuilder R} {key : FixedIdent} (found : 0 ≤ builder.vertexByIdent key) :
    builder.graph.InRange (builder.vertexByIdent key) := by
  rw [GraphBuilder.vertexByIdent_eq] at found ⊢
  rcases listed : builder.keyedVertices key with _ | ⟨v, rest⟩
  · rw [listed] at found
    exact absurd found (Int.negSucc_not_nonneg 0).mp
  have member : v ∈ builder.keyedVertices key := listed ▸ List.mem_cons_self
  rw [listed] at found
  refine ⟨found, ?_⟩
  rcases List.mem_map.mp member with ⟨⟨fixed, position⟩, inIndex, rfl⟩
  have bound := (List.mem_zipIdx_iff_getElem?.mp (List.mem_of_mem_filter inIndex))
  have short := (List.getElem?_eq_some_iff.mp bound).1
  rw [List.length_take] at short
  have below := builder.firstAirportVertex_le
  rw [NavGraph.vertexCount]
  show (position : Int) < _
  omega

/-- A match that is kept is a waypoint. -/
theorem nearerFix_fst {ref : Coordinate R} {matches' : List Int} {best : Int × R}
    (good : best.1 = -1 ∨ db.builder.graph.InRange best.1)
    (inRange : forall v, v ∈ matches' -> db.builder.graph.InRange v) :
    (matches'.foldl (db.nearerFix ref) best).1 = -1 ∨
      db.builder.graph.InRange (matches'.foldl (db.nearerFix ref) best).1 := by
  induction matches' generalizing best with
  | nil => exact good
  | cons v rest inductionHypothesis =>
      rw [List.forall_mem_cons] at inRange
      refine inductionHypothesis ?_ inRange.2
      rw [nearerFix]
      split
      · exact good
      · simp only
        split
        · exact .inr inRange.1
        · exact good

/-- A fix that is resolved is a vertex, with its coordinate. -/
theorem resolveFix_spec {token : Text} {ref : Coordinate R} (found : 0 ≤ (db.resolveFix token ref).vertex) :
    db.builder.graph.InRange (db.resolveFix token ref).vertex ∧
      (db.resolveFix token ref).coord = db.builder.graph.coordOf (db.resolveFix token ref).vertex := by
  unfold resolveFix at found ⊢
  dsimp only at found ⊢
  split at found
  next slash =>
    rw [if_pos slash]
    split at found
    · exact absurd found (Int.negSucc_not_nonneg 0).mp
    next known =>
      rw [if_neg known]
      refine ⟨?_, rfl⟩
      unfold GraphBuilder.vertexByFullIdent at found ⊢
      split at found
      · exact absurd found (Int.negSucc_not_nonneg 0).mp
      · exact inRange_of_vertexByIdent found
  next bare =>
    rw [if_neg bare]
    split at found
    · exact absurd found (Int.negSucc_not_nonneg 0).mp
    next known =>
      rw [if_neg known]
      refine ⟨?_, rfl⟩
      have waypoints : forall v, v ∈ db.builder.verticesByIdent token -> db.builder.graph.InRange v := by
        intro v member
        rcases GraphBuilder.isWaypoint_of_verticesByIdent member with ⟨nonnegative, below, _⟩
        have first := db.builder.firstAirportVertex_le
        refine ⟨nonnegative, ?_⟩
        rw [NavGraph.vertexCount]
        omega
      refine (nearerFix_fst (.inl rfl) waypoints).resolve_left fun missing => ?_
      rw [missing] at known
      exact known (by decide)

end NavDatabase
end BravoFinder
