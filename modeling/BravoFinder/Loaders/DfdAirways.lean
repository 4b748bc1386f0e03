import BravoFinder.Build.Populate
import BravoFinder.Library.KeyRuns
import BravoFinder.Loaders.SqliteRows

namespace BravoFinder
namespace Dfd

/-!
# Airways of the DFD databases

A table has one row for each fix of an airway, in order, and neighbouring rows of
one airway are joined.  A fix on an area boundary has two rows of one number, and
the last fix of an airway is flagged, since another may have the same name.  The
two versions of the database differ in the name of the table only.
-/

variable {R : Type}

/-- A row of the airways table. -/
structure AirwayRow (R : Type) where
  routeIdentifier : Option Text
  seqno : Int
  waypointIdentifier : Option Text
  icaoCode : Option Text
  directionRestriction : Option Text
  flightlevel : Option Text
  minimumAltitude1 : Int
  maximumAltitude : Int
  waypointDescriptionCode : Option Text
  waypointLatitude : Option R
  waypointLongitude : Option R

namespace AirwayRow

def route (row : AirwayRow R) : Text := nullableText row.routeIdentifier

def fix (row : AirwayRow R) : Ident := ⟨nullableText row.waypointIdentifier, nullableText row.icaoCode⟩

/-- `ColumnCoord`. -/
def coord (row : AirwayRow R) : Option (Coordinate R) :=
  match row.waypointLatitude, row.waypointLongitude with
  | some latitude, some longitude => some ⟨latitude, longitude⟩
  | _, _ => none

/-- `kWptDescEndOfAirway` in the second column, which is read untrimmed. -/
def isAwyEnd (row : AirwayRow R) : Bool :=
  (row.waypointDescriptionCode.getD [])[1]? == some 69

/-- What rows are ordered by. -/
def place (row : AirwayRow R) : Text × Int := (row.route, row.seqno)

end AirwayRow

/-- `ParseDirection`. -/
def parseDirection (token : Text) : AirwayDirection :=
  if token = [70] then .kForward else if token = [66] then .kBackward else .kBoth

/-- `ParseAirwayLevel`. -/
def parseAirwayLevel (token : Text) : AirwayLevel :=
  if token = [50] ∨ token = [72] then .kHigh else if token = [66] then .kBoth else .kLow

def kFeetPerFlightLevel : Int := 100

/-- What the loop remembers of the row before. -/
structure PrevRow (R : Type) where
  route : Text
  ident : Text
  icao : Text
  dir : Text
  level : Text
  minAlt : Int
  maxAlt : Int
  seqno : Int
  coord : Option (Coordinate R)
  isAwyEnd : Bool

def PrevRow.ofRow (row : AirwayRow R) : PrevRow R where
  route := row.route
  ident := row.fix.ident
  icao := row.fix.arinc424IcaoCode
  dir := nullableText row.directionRestriction
  level := nullableText row.flightlevel
  minAlt := row.minimumAltitude1
  maxAlt := row.maximumAltitude
  seqno := row.seqno
  coord := row.coord
  isAwyEnd := row.isAwyEnd

/-- The row names the same fix of the same airway again. -/
def PrevRow.isRepeated (prev : PrevRow R) (row : AirwayRow R) : Prop :=
  row.route = prev.route ∧ row.seqno = prev.seqno ∧ row.fix.ident = prev.ident ∧ row.fix.arinc424IcaoCode = prev.icao

instance (prev : PrevRow R) (row : AirwayRow R) : Decidable (prev.isRepeated row) :=
  inferInstanceAs (Decidable (_ ∧ _))

/-- The pair of a boundary fix is one point, which goes on as the row that goes on. -/
def PrevRow.fold (prev : PrevRow R) (row : AirwayRow R) : PrevRow R :=
  let outbound :=
    if row.isAwyEnd then prev
    else { prev with
      dir := nullableText row.directionRestriction
      level := nullableText row.flightlevel
      minAlt := row.minimumAltitude1
      maxAlt := row.maximumAltitude }
  { outbound with isAwyEnd := prev.isAwyEnd && row.isAwyEnd }

/-- The leg from the row before, with what that row says of it. -/
def PrevRow.legTo (prev : PrevRow R) (row : AirwayRow R) : AirwayConnection R where
  «from» := ⟨prev.ident, prev.icao⟩
  «to» := row.fix
  segment :=
    { name := prev.route
      direction := parseDirection prev.dir
      level := parseAirwayLevel prev.level
      baseFl := prev.minAlt.tdiv kFeetPerFlightLevel
      topFl := prev.maxAlt.tdiv kFeetPerFlightLevel }
  fromHint := prev.coord
  toHint := row.coord

structure AirwayScan (R : Type) where
  prev : Option (PrevRow R)
  airways : List (AirwayConnection R)

/-- One row. -/
def AirwayScan.take (scan : AirwayScan R) (row : AirwayRow R) : AirwayScan R :=
  match scan.prev with
  | none => ⟨some (PrevRow.ofRow row), scan.airways⟩
  | some prev =>
      if prev.isRepeated row then ⟨some (prev.fold row), scan.airways⟩
      else
        ⟨some (PrevRow.ofRow row),
          if row.route = prev.route ∧ !prev.isAwyEnd then scan.airways ++ [prev.legTo row] else scan.airways⟩

/-- `LoadAirways`, of the rows in the order they are read. -/
def loadAirways (rows : List (AirwayRow R)) : List (AirwayConnection R) :=
  (rows.foldl AirwayScan.take ⟨none, []⟩).airways

/-! ## Points -/

/-- The rows of one place. -/
structure AirwayPoint (R : Type) where
  route : Text
  fix : Ident
  coord : Option (Coordinate R)
  /-- The row that goes on from here, if there is one. -/
  outbound : Option (AirwayRow R)

/-- The point of some tied rows. -/
def pointOf (route : Text) (rows : List (AirwayRow R)) : AirwayPoint R where
  route := route
  fix := (rows.head?.map AirwayRow.fix).getD ⟨[], []⟩
  coord := (rows.head?.map AirwayRow.coord).getD none
  outbound := rows.find? fun row => !row.isAwyEnd

/-- The points of a table, each with all rows of its place. -/
def pointsOf (rows : List (AirwayRow R)) : List (AirwayPoint R) :=
  ((KeyedMerge.pushBack (Text × Int) (AirwayRow R)).collect (rows.map fun row => (row.place, row))).map fun entry =>
    pointOf entry.1.1 entry.2

/-- The leg between two points. -/
def legBetween (p q : AirwayPoint R) : Option (AirwayConnection R) :=
  if p.route = q.route then
    p.outbound.map fun row =>
      { «from» := p.fix
        «to» := q.fix
        segment :=
          { name := p.route
            direction := parseDirection (nullableText row.directionRestriction)
            level := parseAirwayLevel (nullableText row.flightlevel)
            baseFl := row.minimumAltitude1.tdiv kFeetPerFlightLevel
            topFl := row.maximumAltitude.tdiv kFeetPerFlightLevel }
        fromHint := p.coord
        toHint := q.coord }
  else none

/-- The legs between neighbours. -/
def legsOf (points : List (AirwayPoint R)) : List (AirwayConnection R) :=
  (points.zip points.tail).filterMap fun pair => legBetween pair.1 pair.2

/-- Tied rows name one fix at one position, and at most one of them goes on. -/
structure Tied (rows : List (AirwayRow R)) : Prop where
  fix : forall first, first ∈ rows -> forall second, second ∈ rows -> first.place = second.place ->
    first.fix = second.fix ∧ first.coord = second.coord
  outbound : forall place : Text × Int,
    (rows.filter fun row => row.place = place ∧ row.isAwyEnd = false).length ≤ 1

theorem zip_tail_append {A : Type} (front : List A) (before last : A) :
    (front ++ [before] ++ [last]).zip (front ++ [before] ++ [last]).tail =
      (front ++ [before]).zip (front ++ [before]).tail ++ [(before, last)] := by
  induction front with
  | nil => rfl
  | cons first rest inductionHypothesis =>
      rcases others : rest ++ [before] with _ | ⟨next, tail⟩
      · exact absurd others (List.concat_ne_nil _ _)
      · rw [others] at inductionHypothesis
        rw [List.cons_append, others]
        exact congrArg ((first, next) :: ·) inductionHypothesis

/-- A further point adds the leg from the last one. -/
theorem legsOf_append (front : List (AirwayPoint R)) (before last : AirwayPoint R) :
    legsOf (front ++ [before] ++ [last]) = legsOf (front ++ [before]) ++ (legBetween before last).toList := by
  rw [legsOf, zip_tail_append, List.filterMap_append, ← legsOf]
  congr 1

/-- What follows the last point does not matter to the legs before it. -/
theorem legsOf_congr (front : List (AirwayPoint R)) {last other : AirwayPoint R} (route : last.route = other.route)
    (fix : last.fix = other.fix) (coord : last.coord = other.coord) :
    legsOf (front ++ [last]) = legsOf (front ++ [other]) := by
  rcases List.eq_nil_or_concat front with rfl | ⟨earlier, before, rfl⟩
  · rfl
  · rw [List.concat_eq_append, legsOf_append, legsOf_append]
    simp only [legBetween, route, fix, coord]

/-! ## The scan -/

/-- What is remembered stands for the last point. -/
structure Stands (prev : PrevRow R) (place : Text × Int) (group : List (AirwayRow R)) : Prop where
  route : prev.route = place.1
  seqno : prev.seqno = place.2
  fix : forall row, row ∈ group -> row.fix = ⟨prev.ident, prev.icao⟩ ∧ row.coord = prev.coord
  isAwyEnd : prev.isAwyEnd = group.all AirwayRow.isAwyEnd
  outbound : forall row, group.find? (fun row => !row.isAwyEnd) = some row ->
    prev.dir = nullableText row.directionRestriction ∧ prev.level = nullableText row.flightlevel ∧
      prev.minAlt = row.minimumAltitude1 ∧ prev.maxAlt = row.maximumAltitude

/-- The row that is found goes on. -/
theorem find?_goesOn {group : List (AirwayRow R)} {row : AirwayRow R}
    (found : group.find? (fun row => !row.isAwyEnd) = some row) : row.isAwyEnd = false := by
  have goes := List.find?_some (p := fun row : AirwayRow R => !row.isAwyEnd) found
  rwa [Bool.not_eq_true'] at goes

theorem stands_ofRow (row : AirwayRow R) : Stands (PrevRow.ofRow row) row.place [row] where
  route := rfl
  seqno := rfl
  fix other member := by
    rw [List.mem_singleton.mp member]
    exact ⟨rfl, rfl⟩
  isAwyEnd := by
    rw [List.all_cons, List.all_nil, Bool.and_true]
    rfl
  outbound other found := by
    rw [List.mem_singleton.mp (List.mem_of_find?_eq_some found)]
    exact ⟨rfl, rfl, rfl, rfl⟩

/-- A tied row joins the point. -/
theorem Stands.fold {prev : PrevRow R} {place : Text × Int} {group : List (AirwayRow R)} {row : AirwayRow R}
    (stands : Stands prev place group) (same : row.fix = ⟨prev.ident, prev.icao⟩ ∧ row.coord = prev.coord)
    (one : ((group ++ [row]).filter fun row => !row.isAwyEnd).length ≤ 1) :
    Stands (prev.fold row) place (group ++ [row]) := by
  have kept : (prev.fold row).route = prev.route ∧ (prev.fold row).seqno = prev.seqno ∧
      (prev.fold row).ident = prev.ident ∧ (prev.fold row).icao = prev.icao ∧
        (prev.fold row).coord = prev.coord := by
    rw [PrevRow.fold]
    dsimp only
    split_ifs <;> exact ⟨rfl, rfl, rfl, rfl, rfl⟩
  constructor
  case route => rw [kept.1, stands.route]
  case seqno => rw [kept.2.1, stands.seqno]
  case fix =>
    intro other member
    rw [kept.2.2.1, kept.2.2.2.1, kept.2.2.2.2]
    rcases List.mem_append.mp member with earlier | last
    · exact stands.fix other earlier
    · rw [List.mem_singleton.mp last]
      exact same
  case isAwyEnd =>
    rw [List.all_append, List.all_cons, List.all_nil, Bool.and_true, ← stands.isAwyEnd]
    rfl
  case outbound =>
    intro other found
    rw [List.find?_append] at found
    rcases earlier : group.find? (fun row => !row.isAwyEnd) with _ | going
    · rw [earlier, Option.none_or] at found
      have isLast := List.mem_singleton.mp (List.mem_of_find?_eq_some found)
      have goesOn : ¬ row.isAwyEnd = true := by
        have goes := find?_goesOn found
        rw [isLast] at goes
        exact Bool.eq_false_iff.mp goes
      rw [isLast, PrevRow.fold]
      dsimp only
      rw [if_neg goesOn]
      exact ⟨rfl, rfl, rfl, rfl⟩
    · rw [earlier, Option.some_or, Option.some.injEq] at found
      -- One row goes on already, so this one ends the airway.
      have ends : row.isAwyEnd = true := by
        by_contra goesOn
        rw [Bool.not_eq_true] at goesOn
        have before : going ∈ group.filter fun row => !row.isAwyEnd :=
          List.mem_filter.mpr ⟨List.mem_of_find?_eq_some earlier, by rw [find?_goesOn earlier]; rfl⟩
        rw [List.filter_append, List.length_append, List.filter_singleton, goesOn, Bool.not_false, cond_true,
          List.length_singleton] at one
        have some := List.length_pos_of_mem before
        omega
      rw [PrevRow.fold, ← found]
      dsimp only
      rw [if_pos ends]
      exact stands.outbound going earlier

/-- What the scan has after some rows. -/
structure Scanned (groups : List ((Text × Int) × List (AirwayRow R))) (scan : AirwayScan R) : Prop where
  airways : scan.airways = legsOf (groups.map fun entry => pointOf entry.1.1 entry.2)
  start : groups = [] -> scan.prev = none
  last : forall front place group, groups = front ++ [(place, group)] ->
    exists prev, scan.prev = some prev ∧ Stands prev place group

/-- The leg that the scan adds is the leg between the points. -/
theorem toList_legBetween {prev : PrevRow R} {place : Text × Int} {group : List (AirwayRow R)} {row : AirwayRow R}
    (stands : Stands prev place group) (filled : group ≠ []) :
    (legBetween (pointOf place.1 group) (pointOf row.route [row])).toList =
      if row.route = prev.route ∧ !prev.isAwyEnd then [prev.legTo row] else [] := by
  have head : exists first, group.head? = some first ∧ first ∈ group := by
    rcases group with _ | ⟨first, rest⟩
    · exact absurd rfl filled
    · exact ⟨first, rfl, List.mem_cons_self⟩
  rcases head with ⟨first, isHead, member⟩
  rcases stands.fix first member with ⟨fix, coord⟩
  rw [legBetween]
  simp only [pointOf, isHead, Option.map_some, Option.getD_some, fix, coord]
  by_cases joined : place.1 = row.route
  · rw [if_pos joined]
    rcases going : group.find? (fun row => !row.isAwyEnd) with _ | outbound
    · have ends : group.all AirwayRow.isAwyEnd = true := by
        rw [List.all_eq_true]
        intro other inGroup
        have notGoing := List.find?_eq_none.mp going other inGroup
        rwa [Bool.not_eq_true, Bool.not_eq_false'] at notGoing
      rw [going, Option.map_none, stands.isAwyEnd, ends, if_neg fun both => Bool.false_ne_true both.2]
      rfl
    · have goesOn : prev.isAwyEnd = false := by
        rw [stands.isAwyEnd, List.all_eq_false]
        exact ⟨outbound, List.mem_of_find?_eq_some going, Bool.eq_false_iff.mp (find?_goesOn going)⟩
      rcases stands.outbound outbound going with ⟨dir, level, minAlt, maxAlt⟩
      rw [going, if_pos ⟨(stands.route.trans joined).symm, by rw [goesOn]; rfl⟩, Option.map_some, PrevRow.legTo, dir, level,
        minAlt, maxAlt, stands.route]
      rfl
  · rw [if_neg joined, if_neg fun both => joined (both.1.trans stands.route).symm]
    rfl

theorem Tied.of_append {rows others : List (AirwayRow R)} (tied : Tied (rows ++ others)) : Tied rows where
  fix first inFirst second inSecond :=
    tied.fix first (List.mem_append_left _ inFirst) second (List.mem_append_left _ inSecond)
  outbound place := by
    have fewer := tied.outbound place
    rw [List.filter_append, List.length_append] at fewer
    omega

/-- The scan makes the legs between the runs. -/
theorem scanned_foldl {rows : List (AirwayRow R)} (tied : Tied rows) :
    Scanned (KeyRuns.runs AirwayRow.place rows) (rows.foldl AirwayScan.take ⟨none, []⟩) := by
  induction rows using List.reverseRecOn with
  | nil => exact ⟨rfl, fun _ => rfl, fun front place group whole => absurd whole.symm (List.concat_ne_nil _ _)⟩
  | append_singleton rows row inductionHypothesis =>
      rcases inductionHypothesis tied.of_append with ⟨airways, start, last⟩
      have areRuns := KeyRuns.areRuns AirwayRow.place rows
      rw [List.foldl_append, List.foldl_cons, List.foldl_nil]
      generalize rows.foldl AirwayScan.take ⟨none, []⟩ = scan at airways start last ⊢
      rcases KeyRuns.runs_append AirwayRow.place rows row with
        ⟨front, group, before, after⟩ | ⟨other, after⟩
      · -- The row is tied with the last run.
        rcases last front row.place group before with ⟨prev, isPrev, stands⟩
        have inRows : forall earlier, earlier ∈ group -> earlier ∈ rows := by
          intro earlier member
          rw [← areRuns.flatten, before, List.flatMap_append, List.flatMap_singleton]
          exact List.mem_append_right _ member
        have placed : forall earlier, earlier ∈ group -> earlier.place = row.place :=
          areRuns.keyed (row.place, group) (before ▸ List.mem_append_right _ List.mem_cons_self)
        have filled : group ≠ [] := areRuns.filled (row.place, group) (before ▸ List.mem_append_right _ List.mem_cons_self)
        rcases group with _ | ⟨head, tail⟩
        · exact absurd rfl filled
        have same : row.fix = ⟨prev.ident, prev.icao⟩ ∧ row.coord = prev.coord := by
          have alike := tied.fix row (List.mem_append_right _ List.mem_cons_self) head
            (List.mem_append_left _ (inRows head List.mem_cons_self)) (placed head List.mem_cons_self).symm
          rw [alike.1, alike.2]
          exact stands.fix head List.mem_cons_self
        have one : ((head :: tail ++ [row]).filter fun row => !row.isAwyEnd).length ≤ 1 := by
          refine Nat.le_trans (List.Sublist.length_le ?_) (tied.outbound row.place)
          have whole : List.Sublist (head :: tail ++ [row]) (rows ++ [row]) := by
            rw [← areRuns.flatten, before, List.flatMap_append, List.flatMap_singleton]
            exact List.Sublist.append_right (List.sublist_append_right _ _) _
          rw [List.filter_congr (q := fun other => decide (other.place = row.place ∧ other.isAwyEnd = false))]
          · exact whole.filter _
          · intro other member
            have isPlaced : other.place = row.place := by
              rcases List.mem_append.mp member with earlier | isRow
              · exact placed other earlier
              · rw [List.mem_singleton.mp isRow]
            rw [Bool.eq_iff_iff, Bool.not_eq_true', decide_eq_true_iff, and_iff_right isPlaced]
        have repeated : prev.isRepeated row :=
          ⟨stands.route.symm, stands.seqno.symm, by rw [same.1], by rw [same.1]⟩
        have taken : scan.take row = ⟨some (prev.fold row), scan.airways⟩ := by
          rw [AirwayScan.take, isPrev]
          exact if_pos repeated
        rw [after, taken]
        refine ⟨?_, fun empty => absurd empty (List.concat_ne_nil _ _), ?_⟩
        · rw [airways, before, List.map_append, List.map_append]
          exact legsOf_congr _ rfl rfl rfl
        · intro others place others' whole
          rcases List.append_inj' whole rfl with ⟨_, same'⟩
          cases same'
          exact ⟨prev.fold row, rfl, stands.fold same one⟩
      · rw [after]
        rcases List.eq_nil_or_concat (KeyRuns.runs AirwayRow.place rows) with empty | ⟨front, run, whole⟩
        · have taken : scan.take row = ⟨some (PrevRow.ofRow row), scan.airways⟩ := by
            rw [AirwayScan.take, start empty]
          rw [empty] at airways ⊢
          rw [taken]
          refine ⟨airways, fun absurdity => absurd absurdity (List.concat_ne_nil _ _), ?_⟩
          intro others place group same
          rcases List.append_inj' same rfl with ⟨_, isRun⟩
          cases isRun
          exact ⟨_, rfl, stands_ofRow row⟩
        · rw [List.concat_eq_append] at whole
          rcases run with ⟨place, group⟩
          rcases last front place group whole with ⟨prev, isPrev, stands⟩
          have elsewhere : place ≠ row.place := other front (place, group) whole
          have unrepeated : ¬ prev.isRepeated row := fun repeated =>
            elsewhere (Prod.ext (stands.route.symm.trans repeated.1.symm) (stands.seqno.symm.trans repeated.2.1.symm))
          have filled : group ≠ [] :=
            areRuns.filled (place, group) (whole ▸ List.mem_append_right _ List.mem_cons_self)
          have taken : scan.take row = ⟨some (PrevRow.ofRow row),
              if row.route = prev.route ∧ !prev.isAwyEnd then scan.airways ++ [prev.legTo row] else scan.airways⟩ := by
            rw [AirwayScan.take, isPrev]
            exact if_neg unrepeated
          rw [taken]
          refine ⟨?_, fun absurdity => absurd absurdity (List.concat_ne_nil _ _), ?_⟩
          · rw [whole] at airways ⊢
            rw [List.map_append, List.map_append, List.map_singleton, List.map_singleton, legsOf_append]
            show _ = _ ++ (legBetween (pointOf place.1 group) (pointOf row.route [row])).toList
            rw [toList_legBetween stands filled]
            dsimp only
            rw [airways, List.map_append, List.map_singleton]
            split_ifs
            · rfl
            · exact (List.append_nil _).symm
          · intro others otherPlace otherGroup same
            rcases List.append_inj' same rfl with ⟨_, isRun⟩
            cases isRun
            exact ⟨_, rfl, stands_ofRow row⟩

/-! ## Tables in order -/

/-- Rows as they are read, by airway and number. -/
def InOrder (rows : List (AirwayRow R)) : Prop :=
  SortedIndex.Sorted AirwayRow.place (Prod.Lex (· < ·) (· < ·)) rows

theorem pairwise_places {rows : List (AirwayRow R)} (sorted : InOrder rows) :
    (rows.map fun row => (row.place, row)).Pairwise fun first second =>
      ¬ Prod.Lex (· < ·) (· < ·) ((KeyedMerge.pushBack (Text × Int) (AirwayRow R)).slot second)
        ((KeyedMerge.pushBack (Text × Int) (AirwayRow R)).slot first) := by
  rw [List.pairwise_map]
  exact sorted

theorem loadAirways_eq {rows : List (AirwayRow R)} (sorted : InOrder rows) (tied : Tied rows) :
    loadAirways rows = legsOf (pointsOf rows) := by
  have collected := (KeyedMerge.pushBack (Text × Int) (AirwayRow R)).collectBack_eq_collect (pairwise_places sorted)
  rw [loadAirways, (scanned_foldl tied).airways, pointsOf, ← collected]
  rfl

/-- The places of a table, in order. -/
def placesOf (rows : List (AirwayRow R)) : List (Text × Int) :=
  ((KeyedMerge.pushBack (Text × Int) (AirwayRow R)).collect (rows.map fun row => (row.place, row))).map Prod.fst

theorem pointsOf_eq (rows : List (AirwayRow R)) :
    pointsOf rows = (placesOf rows).map fun place => pointOf place.1 (rows.filter fun row => row.place = place) := by
  rw [pointsOf, placesOf, List.map_map]
  refine List.map_congr_left fun entry member => ?_
  have pushed := ((KeyedMerge.mem_collect_pushBack entry _).mp member).1
  rw [KeyedMerge.pushedAt, List.filter_map, List.map_map] at pushed
  dsimp only [Function.comp_apply]
  rw [pushed]
  exact congrArg (pointOf entry.1.1) (List.map_id _)

theorem mem_placesOf {rows : List (AirwayRow R)} {place : Text × Int} :
    place ∈ placesOf rows ↔ exists row, row ∈ rows ∧ row.place = place := by
  have keys := (KeyedMerge.pushBack (Text × Int) (AirwayRow R)).mem_keys_collect
    (rows.map fun row => (row.place, row)) place
  refine keys.trans ?_
  rw [List.map_map, List.mem_map]
  rfl

theorem placesOf_perm {rows others : List (AirwayRow R)} (same : List.Perm rows others) (sorted : InOrder rows)
    (sortedToo : InOrder others) : placesOf rows = placesOf others := by
  have ordered := (KeyedMerge.pushBack (Text × Int) (AirwayRow R)).pairwise_keys_collect (pairwise_places sorted)
  have orderedToo := (KeyedMerge.pushBack (Text × Int) (AirwayRow R)).pairwise_keys_collect (pairwise_places sortedToo)
  refine List.Perm.eq_of_pairwise (fun first second _ _ below above => ?_) ordered
    orderedToo ((List.perm_ext_iff_of_nodup ?_ ?_).mpr fun place => ?_)
  · exact absurd (IsTrans.trans _ _ _ below above) (SortedIndex.irrefl first)
  · exact (KeyedMerge.pushBack (Text × Int) (AirwayRow R)).nodup_keys_collect _
  · exact (KeyedMerge.pushBack (Text × Int) (AirwayRow R)).nodup_keys_collect _
  · exact (mem_placesOf.trans (exists_congr fun row => and_congr_left fun _ => same.mem_iff)).trans mem_placesOf.symm

/-- A point does not depend on the order of its rows. -/
theorem pointOf_perm {group others : List (AirwayRow R)} (route : Text) (same : List.Perm group others)
    (fix : forall first, first ∈ group -> forall second, second ∈ group ->
      first.fix = second.fix ∧ first.coord = second.coord)
    (one : (group.filter fun row => !row.isAwyEnd).length ≤ 1) : pointOf route group = pointOf route others := by
  have outbound : group.filter (fun row => !row.isAwyEnd) = others.filter fun row => !row.isAwyEnd := by
    have perm := same.filter fun row => !row.isAwyEnd
    rcases filtered : group.filter (fun row => !row.isAwyEnd) with _ | ⟨row, rest⟩
    · rw [filtered] at perm
      exact filtered.trans perm.nil_eq
    · rw [filtered] at one perm
      have alone : rest = [] := List.length_eq_zero_iff.mp (Nat.le_zero.mp (Nat.le_of_succ_le_succ one))
      rw [alone] at filtered perm
      exact filtered.trans (List.perm_singleton.mp perm.symm).symm
  have found : group.find? (fun row => !row.isAwyEnd) = others.find? fun row => !row.isAwyEnd := by
    rw [← List.head?_filter, ← List.head?_filter, outbound]
  rw [pointOf, pointOf, found]
  rcases group with _ | ⟨first, rest⟩
  · rw [List.nil_perm.mp same]
  · rcases others with _ | ⟨second, others⟩
    · exact absurd (List.perm_nil.mp same) (List.cons_ne_nil _ _)
    · rcases fix first List.mem_cons_self second (same.mem_iff.mpr List.mem_cons_self) with ⟨sameFix, sameCoord⟩
      simp only [List.head?_cons, Option.map_some, Option.getD_some, sameFix, sameCoord]

/-- The legs do not depend on the order of tied rows. -/
theorem loadAirways_perm {rows others : List (AirwayRow R)} (same : List.Perm rows others) (sorted : InOrder rows)
    (sortedToo : InOrder others) (tied : Tied rows) : loadAirways rows = loadAirways others := by
  have tiedToo : Tied others := by
    constructor
    · intro first inFirst second inSecond
      exact tied.fix first (same.mem_iff.mpr inFirst) second (same.mem_iff.mpr inSecond)
    · intro place
      rw [← (same.filter _).length_eq]
      exact tied.outbound place
  rw [loadAirways_eq sorted tied, loadAirways_eq sortedToo tiedToo, pointsOf_eq, pointsOf_eq,
    placesOf_perm same sorted sortedToo]
  congr 1
  refine List.map_congr_left fun place _ => ?_
  refine pointOf_perm place.1 (same.filter _) (fun first inFirst second inSecond => ?_) ?_
  · rcases List.mem_filter.mp inFirst with ⟨firstRow, firstPlace⟩
    rcases List.mem_filter.mp inSecond with ⟨secondRow, secondPlace⟩
    exact tied.fix first firstRow second secondRow
      ((of_decide_eq_true firstPlace).trans (of_decide_eq_true secondPlace).symm)
  · have most := tied.outbound place
    rw [List.filter_filter]
    refine Nat.le_trans (le_of_eq ?_) most
    congr 1
    refine List.filter_congr fun row _ => ?_
    rw [Bool.eq_iff_iff, Bool.and_eq_true_iff, Bool.not_eq_true', decide_eq_true_iff, decide_eq_true_iff, and_comm]

/-- Neighbouring points of one airway are joined where a row goes on, with what that
row says, and nothing else is; the order of tied rows does not matter. -/
theorem airways_join_neighbours {rows : List (AirwayRow R)} (sorted : InOrder rows) (tied : Tied rows) :
    loadAirways rows = legsOf (pointsOf rows) ∧
      forall others, List.Perm rows others -> InOrder others -> loadAirways others = loadAirways rows :=
  ⟨loadAirways_eq sorted tied, fun _ same sortedToo => (loadAirways_perm same sorted sortedToo tied).symm⟩

/-- A row of the airway `A1`. -/
def rowOfA1 (seqno : Int) (ident : UInt8) (ends : Bool) (level : UInt8) : AirwayRow Int where
  routeIdentifier := some [65, 49]
  seqno := seqno
  waypointIdentifier := some [ident]
  icaoCode := some [90]
  directionRestriction := none
  flightlevel := some [level]
  minimumAltitude1 := 18000
  maximumAltitude := 60000
  waypointDescriptionCode := some (if ends then [69, 69] else [69, 32])
  waypointLatitude := some seqno
  waypointLongitude := some 0

/-- Two airways of one name; the second fix lies on an area boundary. -/
def boundaryRows : List (AirwayRow Int) :=
  [rowOfA1 10 80 false 72, rowOfA1 20 81 true 72, rowOfA1 20 81 false 76, rowOfA1 30 82 true 76, rowOfA1 40 83 false 72]

theorem airways_join_neighbours_boundary :
    (loadAirways boundaryRows).map (fun conn => (conn.from.ident, conn.to.ident, conn.segment.level)) =
      [([80], [81], .kHigh), ([81], [82], .kLow)] ∧
    loadAirways [rowOfA1 10 80 false 72, rowOfA1 20 81 false 76, rowOfA1 20 81 true 72, rowOfA1 30 82 true 76,
      rowOfA1 40 83 false 72] = loadAirways boundaryRows := by
  have sorted : InOrder boundaryRows := by
    unfold InOrder SortedIndex.Sorted
    decide
  have tied : Tied boundaryRows := by
    refine ⟨by decide, fun place => ?_⟩
    have apart : ((boundaryRows.filter fun row => !row.isAwyEnd).map AirwayRow.place).Nodup := by decide
    have once := List.nodup_iff_count_le_one.mp apart place
    rw [List.count, List.countP_map, List.countP_eq_length_filter, List.filter_filter] at once
    refine Nat.le_trans (le_of_eq ?_) once
    congr 1
    refine List.filter_congr fun row _ => ?_
    rw [Bool.eq_iff_iff, decide_eq_true_iff, Bool.and_eq_true_iff, Function.comp_apply, beq_iff_eq, Bool.not_eq_true']
  rcases airways_join_neighbours sorted tied with ⟨joined, anyOrder⟩
  refine ⟨?_, anyOrder _ ?_ ?_⟩
  · rw [joined]
    decide
  · exact (List.Perm.swap _ _ _).cons _
  · unfold InOrder SortedIndex.Sorted
    decide

end Dfd
end BravoFinder
