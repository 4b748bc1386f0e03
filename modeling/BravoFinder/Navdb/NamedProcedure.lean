import BravoFinder.Build.ProcedureConnector
import BravoFinder.Navdb.EndpointPlanner
import Mathlib.Data.List.Forall2

namespace BravoFinder
namespace EndpointPlanner

/-!
# Naming a SID or a STAR

The connections of a side are built from all its procedures, and a requested
name filters their references afterwards.  What a connection keeps is the price
of the cheapest procedure at its fix, which the name may have filtered out.
-/

open ProcedureConnector

variable {R : Type}

/-- `RefMatchesSelector`. -/
def refMatchesSelector (selector : Text) (ref : ProcedureRef) : Bool :=
  selects selector ref.name ref.transition

/-- A connection with only the references that match. -/
def onlyMatching (selector : Text) (c : ProcedureConnector.Connection R) : ProcedureConnector.Connection R :=
  { c with procedures := c.procedures.filter (refMatchesSelector selector) }

/-- `FilterConnectionsByName`: whether a procedure survived, and the
connections. -/
def filterConnectionsByName (connections : List (ProcedureConnector.Connection R)) (selector : Text) :
    Bool × List (ProcedureConnector.Connection R) :=
  if selector.isEmpty then (true, connections)
  else
    let filtered := connections.map (onlyMatching selector)
    let any := filtered.any fun c => !c.procedures.isEmpty
    (any, if any then filtered.filter fun c => !c.procedures.isEmpty else filtered)

/-- The records of an airport that a selector names. -/
def namedOnly (cifp : CifpData) (selector : Text) : CifpData :=
  { cifp with procedures := cifp.procedures.filter fun p => nameMatches p selector }

/-- The gates found at a fix. -/
def gatesAt (found : List (Finding R)) (fix : Int) : List (Finding R) :=
  found.filter fun gate => gate.fixVertex = fix

/-- The same connection, whatever the order of its references. -/
structure SameConnection (c other : ProcedureConnector.Connection R) : Prop where
  fixVertex : c.fixVertex = other.fixVertex
  seedDistanceNm : c.seedDistanceNm = other.seedDistanceNm
  bearing : c.bearing = other.bearing
  procedures : c.procedures.Perm other.procedures

/-- The connections kept for a name are those its procedures make alone, and the
gate each is priced by, the first of the cheapest found at its fix, is of a named
procedure and listed first. -/
structure PricedByItself [LinearOrder R] (found : List (Finding R)) (selector : Text)
    (kept alone : List (ProcedureConnector.Connection R)) : Prop where
  same : List.Forall₂ SameConnection kept alone
  source : forall c, c ∈ kept -> exists gate, (gatesAt found c.fixVertex).argmin Finding.seed = some gate ∧
    c.seedDistanceNm = gate.seed ∧ c.bearing = gate.bearing ∧ c.procedures.head? = some gate.ref ∧
    refMatchesSelector selector gate.ref = true

/-! ## The first of the cheapest -/

section Cheapest

variable [LinearOrder R] {A : Type} {price : A -> R}

/-- The first of the cheapest stays so among any it belongs to. -/
theorem argmin_filter {list : List A} {winner : A} (kind : A -> Bool) (least : list.argmin price = some winner)
    (belongs : kind winner = true) : (list.filter kind).argmin price = some winner := by
  induction list using List.reverseRecOn generalizing winner with
  | nil => cases least
  | append_singleton front last inductionHypothesis =>
      rw [List.argmin_concat] at least
      rw [List.filter_append, List.filter_singleton]
      rcases before : front.argmin price with _ | best
      · rw [before] at least
        cases least
        rw [List.argmin_eq_none.mp before, belongs]
        rfl
      · rw [before] at least
        change (if price last < price best then some last else some best) = some winner at least
        split_ifs at least with cheaper
        · cases least
          rw [belongs, cond_true, List.argmin_concat]
          rcases among : (front.filter kind).argmin price with _ | other
          · rfl
          · have inFront := (List.mem_filter.mp (List.argmin_mem among)).1
            exact if_pos (cheaper.trans_le (List.le_of_mem_argmin inFront before))
        · cases least
          have kept := inductionHypothesis before belongs
          rcases kind last with _ | _
          · rw [cond_false, List.append_nil, kept]
          · rw [cond_true, List.argmin_concat, kept]
            exact if_neg cheaper

end Cheapest

/-! ## Lists that correspond -/

section Correspond

variable {A B K : Type} {relation : A -> B -> Prop}

theorem forall₂_of_map_eq {first : A -> K} {second : B -> K} {left : List A} {right : List B}
    (keys : left.map first = right.map second)
    (related : forall a, a ∈ left -> forall b, b ∈ right -> first a = second b -> relation a b) :
    List.Forall₂ relation left right := by
  induction left generalizing right with
  | nil =>
      rw [List.map_nil, eq_comm, List.map_eq_nil_iff] at keys
      exact keys ▸ List.Forall₂.nil
  | cons a rest inductionHypothesis =>
      rcases right with _ | ⟨b, others⟩
      · cases keys
      · rw [List.map_cons, List.map_cons, List.cons.injEq] at keys
        exact List.Forall₂.cons (related a List.mem_cons_self b List.mem_cons_self keys.1)
          (inductionHypothesis keys.2 fun a' member b' other =>
            related a' (List.mem_cons_of_mem _ member) b' (List.mem_cons_of_mem _ other))

theorem exists_of_forall₂ {left : List A} {right : List B} (all : List.Forall₂ relation left right) {a : A}
    (member : a ∈ left) : exists b, b ∈ right ∧ relation a b := by
  induction all with
  | nil => cases member
  | cons head _ inductionHypothesis =>
      rcases List.mem_cons.mp member with rfl | later
      · exact ⟨_, List.mem_cons_self, head⟩
      · rcases inductionHypothesis later with ⟨b, other, related⟩
        exact ⟨b, List.mem_cons_of_mem _ other, related⟩

/-- Filtering a list further, or mapping what is filtered out to nothing. -/
theorem flatMap_filter_and (counts chosen : A -> Bool) (made : A -> List B) (list : List A) :
    (list.filter fun a => counts a && chosen a).flatMap made =
      (list.filter counts).flatMap fun a => if chosen a then made a else [] := by
  induction list with
  | nil => rfl
  | cons a rest inductionHypothesis =>
      rw [List.filter_cons, List.filter_cons]
      rcases counts a with _ | _
      · exact inductionHypothesis
      · rw [Bool.true_and, if_pos rfl, List.flatMap_cons, ← inductionHypothesis]
        rcases chosen a with _ | _ <;> rfl

end Correspond

/-! ## What is kept -/

section Kept

variable [LinearOrder R] {found : List (Finding R)} {selector : Text}

theorem mem_finalize {byFix : List (ProcedureConnector.Connection R)} {c : ProcedureConnector.Connection R} :
    c ∈ finalize byFix ↔ c ∈ byFix :=
  List.mem_insertionSort _

theorem sorted_finalize (byFix : List (ProcedureConnector.Connection R)) :
    (finalize byFix).Pairwise fun first second => sortKey first ≤ sortKey second :=
  haveI : Std.Total fun first second : ProcedureConnector.Connection R => sortKey first ≤ sortKey second :=
    ⟨fun first second => le_total (sortKey first) (sortKey second)⟩
  haveI : IsTrans (ProcedureConnector.Connection R) fun first second => sortKey first ≤ sortKey second :=
    ⟨fun _ _ _ => le_trans⟩
  List.pairwise_insertionSort _ byFix

theorem perm_finalize (byFix : List (ProcedureConnector.Connection R)) : (finalize byFix).Perm byFix :=
  List.perm_insertionSort _ byFix

/-- The connections kept for a name that some procedure bears. -/
def keptFor (found : List (Finding R)) (selector : Text) : List (ProcedureConnector.Connection R) :=
  (filterConnectionsByName (finalize (accumulateAll found)) selector).2

theorem keptFor_eq (named : selector ≠ [])
    (exposes : (filterConnectionsByName (finalize (accumulateAll found)) selector).1 = true) :
    keptFor found selector = ((finalize (accumulateAll found)).map (onlyMatching selector)).filter fun c =>
      !c.procedures.isEmpty := by
  have some : ¬ selector.isEmpty = true := mt List.isEmpty_iff.mp named
  rw [filterConnectionsByName, if_neg some] at exposes
  rw [keptFor, filterConnectionsByName, if_neg some]
  exact if_pos exposes

end Kept

section Compare

variable [Field R] [LinearOrder R] {found : List (Finding R)} {selector : Text}

/-- The gates of the procedures a selector names. -/
def namedGates (found : List (Finding R)) (selector : Text) : List (Finding R) :=
  found.filter fun gate => refMatchesSelector selector gate.ref

/-- The connections the named procedures make alone. -/
def aloneFor (found : List (Finding R)) (selector : Text) : List (ProcedureConnector.Connection R) :=
  finalize (accumulateAll (namedGates found selector))

omit [Field R] [LinearOrder R] in
theorem gatesAt_namedGates (fix : Int) :
    gatesAt (namedGates found selector) fix =
      (gatesAt found fix).filter fun gate => refMatchesSelector selector gate.ref := by
  rw [gatesAt, namedGates, gatesAt, List.filter_filter, List.filter_filter]
  congr 1
  funext gate
  exact Bool.and_comm _ _

/-- What is merged at a fix: the price and the front of the first of the
cheapest gates, and the references of all. -/
theorem merged_at {c : ProcedureConnector.Connection R} (member : c ∈ accumulateAll found) :
    (exists gate, (gatesAt found c.fixVertex).argmin Finding.seed = some gate ∧ c.seedDistanceNm = gate.seed ∧
      c.bearing = gate.bearing ∧ c.procedures.head? = some gate.ref) ∧
    c.procedures.Perm ((gatesAt found c.fixVertex).map Finding.ref) := by
  have keeps := keepsCheapest_accumulateAll found
  rcases keeps.cheapest c member with ⟨gate, least, same⟩
  refine ⟨⟨gate, least, same.seedDistanceNm, same.bearing, same.front⟩, ?_⟩
  rw [List.map_eq_flatMap]
  exact keeps.procedures c member

theorem exists_merged {fix : Int} {gate : Finding R} (listed : gate ∈ gatesAt found fix) :
    exists c, c ∈ accumulateAll found ∧ c.fixVertex = fix := by
  rcases List.mem_filter.mp listed with ⟨member, here⟩
  have fixes := (keepsCheapest_accumulateAll found).mem_iff fix
  exact List.mem_map.mp (fixes.mpr (List.mem_map.mpr ⟨gate, member, of_decide_eq_true here⟩))

/-- The references of a connection that match are those of the named gates. -/
theorem onlyMatching_perm (selector : Text) {c : ProcedureConnector.Connection R} (member : c ∈ accumulateAll found) :
    (onlyMatching selector c).procedures.Perm ((gatesAt (namedGates found selector) c.fixVertex).map Finding.ref) := by
  rw [gatesAt_namedGates]
  refine ((merged_at member).2.filter _).trans (List.Perm.of_eq ?_)
  rw [List.filter_map]
  rfl

variable (named : selector ≠ [])
  (exposes : (filterConnectionsByName (finalize (accumulateAll found)) selector).1 = true)

include named exposes

omit [Field R] in
theorem mem_keptFor {c : ProcedureConnector.Connection R} :
    c ∈ keptFor found selector ↔
      exists merged, merged ∈ accumulateAll found ∧ onlyMatching selector merged = c ∧ c.procedures ≠ [] := by
  rw [keptFor_eq named exposes, List.mem_filter, List.mem_map, Bool.not_eq_true', List.isEmpty_eq_false_iff]
  constructor
  · rintro ⟨⟨merged, member, same⟩, some⟩
    exact ⟨merged, mem_finalize.mp member, same, some⟩
  · rintro ⟨merged, member, same, some⟩
    exact ⟨⟨merged, mem_finalize.mpr member, same⟩, some⟩

/-- A connection kept: priced by all the gates at its fix, with the references
of the named ones. -/
theorem kept_at {c : ProcedureConnector.Connection R} (kept : c ∈ keptFor found selector) :
    (exists gate, (gatesAt found c.fixVertex).argmin Finding.seed = some gate ∧ c.seedDistanceNm = gate.seed ∧
      c.bearing = gate.bearing ∧
      (refMatchesSelector selector gate.ref = true -> c.procedures.head? = some gate.ref)) ∧
    (exists gate, (gatesAt (namedGates found selector) c.fixVertex).argmin Finding.seed = some gate) ∧
    c.procedures.Perm ((gatesAt (namedGates found selector) c.fixVertex).map Finding.ref) := by
  rcases (mem_keptFor named exposes).mp kept with ⟨merged, member, rfl, some⟩
  rcases merged_at member with ⟨⟨gate, least, seed, bearing, front⟩, -⟩
  have refs := onlyMatching_perm selector member
  refine ⟨⟨gate, least, seed, bearing, fun matching => ?_⟩, ?_, refs⟩
  · change (merged.procedures.filter _).head? = _
    rcases procedures : merged.procedures with _ | ⟨first, rest⟩
    · rw [procedures] at front
      cases front
    · rw [procedures, List.head?_cons, Option.some.injEq] at front
      rw [List.filter_cons_of_pos (front ▸ matching), List.head?_cons, front]
  · rcases least' : (gatesAt (namedGates found selector) merged.fixVertex).argmin Finding.seed with _ | gate
    · rw [List.argmin_eq_none] at least'
      rw [least'] at refs
      exact absurd refs.eq_nil some
    · exact ⟨gate, least'⟩

theorem exists_kept {fix : Int} {gate : Finding R} (listed : gate ∈ gatesAt (namedGates found selector) fix) :
    exists c, c ∈ keptFor found selector ∧ c.fixVertex = fix := by
  have inAll : gate ∈ gatesAt found fix := by
    rw [gatesAt_namedGates] at listed
    exact List.mem_of_mem_filter listed
  rcases exists_merged inAll with ⟨merged, member, rfl⟩
  refine ⟨onlyMatching selector merged, (mem_keptFor named exposes).mpr ⟨merged, member, rfl, fun none => ?_⟩, rfl⟩
  have refs := onlyMatching_perm selector member
  rw [none] at refs
  exact absurd (refs.symm.subset (List.mem_map_of_mem listed)) List.not_mem_nil

omit named exposes in
/-- A connection of the named procedures alone. -/
theorem alone_at {c : ProcedureConnector.Connection R} (alone : c ∈ aloneFor found selector) :
    (exists gate, (gatesAt (namedGates found selector) c.fixVertex).argmin Finding.seed = some gate ∧
      c.seedDistanceNm = gate.seed ∧ c.bearing = gate.bearing) ∧
    c.procedures.Perm ((gatesAt (namedGates found selector) c.fixVertex).map Finding.ref) := by
  rcases merged_at (mem_finalize.mp alone) with ⟨⟨gate, least, seed, bearing, -⟩, refs⟩
  exact ⟨⟨gate, least, seed, bearing⟩, refs⟩

omit named exposes in
theorem exists_alone {fix : Int} {gate : Finding R} (listed : gate ∈ gatesAt (namedGates found selector) fix) :
    exists c, c ∈ aloneFor found selector ∧ c.fixVertex = fix := by
  rcases exists_merged listed with ⟨merged, member, here⟩
  exact ⟨merged, mem_finalize.mpr member, here⟩

/-- Both lists are sorted, and have one connection for each fix. -/
theorem keys_eq (keys : forall key, key ∈ (keptFor found selector).map sortKey ↔
    key ∈ (aloneFor found selector).map sortKey) :
    (keptFor found selector).map sortKey = (aloneFor found selector).map sortKey := by
  have fixes : forall list : List (ProcedureConnector.Connection R),
      (list.map sortKey).map (fun key => (ofLex key).2) = list.map ProcedureConnector.Connection.fixVertex :=
    fun list => List.map_map
  have distinct : ((keptFor found selector).map ProcedureConnector.Connection.fixVertex).Nodup := by
    rw [keptFor_eq named exposes]
    refine List.Nodup.sublist (List.filter_sublist.map _) ?_
    rw [List.map_map]
    exact ((perm_finalize _).map _).nodup_iff.mpr (keepsCheapest_accumulateAll found).nodup
  have distinctAlone : ((aloneFor found selector).map ProcedureConnector.Connection.fixVertex).Nodup :=
    ((perm_finalize _).map _).nodup_iff.mpr (keepsCheapest_accumulateAll _).nodup
  have sorted : ((keptFor found selector).map sortKey).Pairwise (· ≤ ·) := by
    rw [keptFor_eq named exposes, List.pairwise_map]
    refine List.Pairwise.sublist List.filter_sublist ?_
    rw [List.pairwise_map]
    exact sorted_finalize (accumulateAll found)
  have sortedAlone : ((aloneFor found selector).map sortKey).Pairwise (· ≤ ·) :=
    List.pairwise_map.mpr (sorted_finalize _)
  refine List.Perm.eq_of_pairwise (fun _ _ _ _ => le_antisymm) sorted sortedAlone ?_
  rw [← fixes] at distinct distinctAlone
  exact (List.perm_ext_iff_of_nodup distinct.of_map distinctAlone.of_map).mpr keys

/-- The kept connections are those the named procedures make alone just when, at
each fix, the cheapest gate of all costs what the cheapest of the named gates
does, and leads the same way. -/
theorem same_iff :
    List.Forall₂ SameConnection (keptFor found selector) (aloneFor found selector) ↔
      forall fix gate own, (gatesAt found fix).argmin Finding.seed = some gate ->
        (gatesAt (namedGates found selector) fix).argmin Finding.seed = some own ->
          gate.seed = own.seed ∧ gate.bearing = own.bearing := by
  constructor
  · rintro all fix gate own least leastOwn
    rcases exists_kept named exposes (List.argmin_mem leastOwn) with ⟨c, kept, rfl⟩
    rcases exists_of_forall₂ all kept with ⟨other, alone, same⟩
    rcases kept_at named exposes kept with ⟨⟨gate', least', seed, bearing, -⟩, -, -⟩
    rcases alone_at alone with ⟨⟨own', leastOwn', seed', bearing'⟩, -⟩
    rw [least', Option.some.injEq] at least
    rw [← same.fixVertex, leastOwn, Option.some.injEq] at leastOwn'
    subst least
    subst leastOwn'
    exact ⟨seed.symm.trans (same.seedDistanceNm.trans seed'), bearing.symm.trans (same.bearing.trans bearing')⟩
  · intro cheapest
    have related : forall c, c ∈ keptFor found selector -> forall other, other ∈ aloneFor found selector ->
        c.fixVertex = other.fixVertex -> SameConnection c other := by
      intro c kept other alone fix
      rcases kept_at named exposes kept with ⟨⟨gate, least, seed, bearing, -⟩, -, refs⟩
      rcases alone_at alone with ⟨⟨own, leastOwn, seed', bearing'⟩, refs'⟩
      rw [← fix] at leastOwn refs'
      have same := cheapest _ gate own least leastOwn
      exact ⟨fix, seed.trans (same.1.trans seed'.symm), bearing.trans (same.2.trans bearing'.symm),
        refs.trans refs'.symm⟩
    have key : forall c, c ∈ keptFor found selector -> forall other, other ∈ aloneFor found selector ->
        c.fixVertex = other.fixVertex -> sortKey c = sortKey other := by
      intro c kept other alone fix
      rw [sortKey, sortKey, fix, (related c kept other alone fix).seedDistanceNm]
    refine forall₂_of_map_eq (keys_eq named exposes fun k => ?_) fun c kept other alone same =>
      related c kept other alone (Prod.ext_iff.mp (toLex_inj.mp same)).2
    constructor
    · intro listed
      rcases List.mem_map.mp listed with ⟨c, kept, rfl⟩
      rcases kept_at named exposes kept with ⟨-, ⟨own, leastOwn⟩, -⟩
      rcases exists_alone (List.argmin_mem leastOwn) with ⟨other, alone, fix⟩
      exact List.mem_map.mpr ⟨other, alone, (key c kept other alone fix.symm).symm⟩
    · intro listed
      rcases List.mem_map.mp listed with ⟨other, alone, rfl⟩
      rcases alone_at alone with ⟨⟨own, leastOwn, -⟩, -⟩
      rcases exists_kept named exposes (List.argmin_mem leastOwn) with ⟨c, kept, fix⟩
      exact List.mem_map.mpr ⟨c, kept, key c kept other alone fix⟩

/-- A name is priced by itself just when, at each fix where it has a gate, the
first of the cheapest gates of all is one of its own. -/
theorem pricedByItself_keptFor_iff :
    PricedByItself found selector (keptFor found selector) (aloneFor found selector) ↔
      forall fix gate own, (gatesAt found fix).argmin Finding.seed = some gate ->
        own ∈ gatesAt (namedGates found selector) fix -> refMatchesSelector selector gate.ref = true := by
  constructor
  · rintro priced fix gate own least listed
    rcases exists_kept named exposes listed with ⟨c, kept, rfl⟩
    rcases priced.source c kept with ⟨gate', least', -, -, -, matching⟩
    rw [least, Option.some.injEq] at least'
    exact least' ▸ matching
  · intro belongs
    refine ⟨(same_iff named exposes).mpr fun fix gate own least leastOwn => ?_, fun c kept => ?_⟩
    · have matching := belongs fix gate own least (List.argmin_mem leastOwn)
      have first := argmin_filter (fun gate => refMatchesSelector selector gate.ref) least matching
      rw [gatesAt_namedGates, first, Option.some.injEq] at leastOwn
      rw [leastOwn]
      exact ⟨rfl, rfl⟩
    · rcases kept_at named exposes kept with ⟨⟨gate, least, seed, bearing, front⟩, ⟨own, leastOwn⟩, -⟩
      have matching := belongs _ gate own least (List.argmin_mem leastOwn)
      exact ⟨gate, least, seed, bearing, front matching, matching⟩

end Compare

/-! ## One side of an airport -/

section Side

variable [Field R] [LinearOrder R] (around : Surroundings R) (departure : Bool)
  (airportCoord : Coordinate R) (runwayFilter : Text) {selector : Text}

omit [Field R] [LinearOrder R] in
theorem refMatchesSelector_makeRef (named : selector ≠ []) (p : Procedure) :
    refMatchesSelector selector (makeRef p) = nameMatches p selector := by
  have some : selector.isEmpty = false := List.isEmpty_eq_false_iff.mpr named
  rw [nameMatches, some, Bool.false_or]
  rfl

/-- The gates of the named records are the named gates. -/
theorem sideFindings_namedOnly (named : selector ≠ []) (cifp : CifpData) :
    sideFindings around departure airportCoord runwayFilter (namedOnly cifp selector) =
      namedGates (sideFindings around departure airportCoord runwayFilter cifp) selector := by
  have own : forall p, (recordFindings around departure airportCoord p).filter
      (fun gate => refMatchesSelector selector gate.ref) =
        if nameMatches p selector then recordFindings around departure airportCoord p else [] := by
    intro p
    rw [← refMatchesSelector_makeRef named, recordFindings, List.filter_map]
    change List.map _ (List.filter (fun _ => refMatchesSelector selector (makeRef p)) _) = _
    cases refMatchesSelector selector (makeRef p) with
    | true => rw [List.filter_true, if_pos rfl]
    | false => rw [List.filter_false, if_neg Bool.false_ne_true, List.map_nil]
  rw [sideFindings, sideFindings, namedGates, namedOnly, List.filter_flatMap, List.filter_filter]
  simp only [own]
  exact flatMap_filter_and _ _ _ _

/-- What `Plan` keeps for a named SID or STAR that has a gate on the network is
what its records make alone, priced by one of them that is listed first, just
when no other procedure has the first of the cheapest gates at a fix of its
own. -/
theorem namedProcedure_pricedByItself_iff (named : selector ≠ []) (cifp : CifpData)
    (exposes : (filterConnectionsByName (buildSide around departure airportCoord runwayFilter cifp) selector).1 = true) :
    PricedByItself (sideFindings around departure airportCoord runwayFilter cifp) selector
        (filterConnectionsByName (buildSide around departure airportCoord runwayFilter cifp) selector).2
        (buildSide around departure airportCoord runwayFilter (namedOnly cifp selector)) ↔
      forall fix gate own,
        (gatesAt (sideFindings around departure airportCoord runwayFilter cifp) fix).argmin Finding.seed = some gate ->
        own ∈ gatesAt (sideFindings around departure airportCoord runwayFilter (namedOnly cifp selector)) fix ->
          refMatchesSelector selector gate.ref = true := by
  have alone : buildSide around departure airportCoord runwayFilter (namedOnly cifp selector) =
      aloneFor (sideFindings around departure airportCoord runwayFilter cifp) selector := by
    rw [buildSide, sideFindings_namedOnly around departure airportCoord runwayFilter named, aloneFor]
  rw [alone, sideFindings_namedOnly around departure airportCoord runwayFilter named]
  exact pricedByItself_keptFor_iff named exposes

end Side

/-! ## Two SIDs that share their exit -/

/-- The SID `ONE` is direct, and `TWO` turns back from the far fix. -/
def sharedExit : CifpData :=
  ⟨[⟨.kSid, [79, 78, 69], [], [], 0, [plainLeg .kTF waypointC]⟩,
    ⟨.kSid, [84, 87, 79], [], [], 0, [plainLeg .kTF waypointB, plainLeg .kTF waypointC]⟩], []⟩

/-- The gates of the two, an airport a degree north of their exit. -/
def directGate : Finding Rat := ⟨1, 60, 180, -1, -1, 0, ⟨.kSid, [79, 78, 69], [], [], []⟩⟩
def returningGate : Finding Rat := ⟨1, 180, 0, -1, -1, 0, ⟨.kSid, [84, 87, 79], [], [], []⟩⟩

theorem sharedExit_facts :
    sideFindings meridianAround true ⟨42, 116⟩ [] sharedExit = [directGate, returningGate] ∧
    (filterConnectionsByName (buildSide meridianAround true ⟨42, 116⟩ [] sharedExit) [84, 87, 79]).1 = true ∧
    (filterConnectionsByName (buildSide meridianAround true ⟨42, 116⟩ [] sharedExit) [79, 78, 69]).1 = true ∧
    (gatesAt [directGate, returningGate] 1).argmin Finding.seed = some directGate ∧
    gatesAt (namedGates [directGate, returningGate] [84, 87, 79]) 1 = [returningGate] := by
  decide +kernel

/-- `TWO` is priced by `ONE`. -/
theorem not_pricedByItself_sharedExit :
    ¬ PricedByItself (sideFindings meridianAround true ⟨42, 116⟩ [] sharedExit) [84, 87, 79]
        (filterConnectionsByName (buildSide meridianAround true ⟨42, 116⟩ [] sharedExit) [84, 87, 79]).2
        (buildSide meridianAround true ⟨42, 116⟩ [] (namedOnly sharedExit [84, 87, 79])) := by
  rcases sharedExit_facts with ⟨found, exposes, -, least, own⟩
  intro priced
  have named := pricedByItself_keptFor_iff (List.cons_ne_nil _ _) exposes
  have alone : buildSide meridianAround true ⟨42, 116⟩ [] (namedOnly sharedExit [84, 87, 79]) =
      aloneFor (sideFindings meridianAround true ⟨42, 116⟩ [] sharedExit) [84, 87, 79] := by
    rw [buildSide, sideFindings_namedOnly meridianAround true _ _ (List.cons_ne_nil _ _), aloneFor]
  rw [alone] at priced
  have matching := named.mp priced 1 directGate returningGate (by rw [found]; exact least)
    (by rw [found, own]; exact List.mem_cons_self)
  exact absurd matching (by decide)

/-- `ONE` is priced by itself. -/
theorem namedProcedure_pricedByItself_sharedExit :
    PricedByItself (sideFindings meridianAround true ⟨42, 116⟩ [] sharedExit) [79, 78, 69]
      (filterConnectionsByName (buildSide meridianAround true ⟨42, 116⟩ [] sharedExit) [79, 78, 69]).2
      (buildSide meridianAround true ⟨42, 116⟩ [] (namedOnly sharedExit [79, 78, 69])) := by
  rcases sharedExit_facts with ⟨found, -, exposes, least, -⟩
  refine (namedProcedure_pricedByItself_iff meridianAround true ⟨42, 116⟩ [] (List.cons_ne_nil _ _) sharedExit
    exposes).mpr fun fix gate own cheapest _ => ?_
  rw [found] at cheapest
  by_cases shared : fix = 1
  · subst shared
    rw [least, Option.some.injEq] at cheapest
    subst cheapest
    decide
  · have none : gatesAt [directGate, returningGate] fix = [] := by
      refine List.filter_eq_nil_iff.mpr fun other member => ?_
      have here : other.fixVertex = 1 := by
        rcases List.mem_cons.mp member with rfl | member
        · rfl
        · rw [List.mem_singleton.mp member]
          rfl
      rw [here, decide_eq_true_iff]
      exact Ne.symm shared
    rw [none] at cheapest
    cases cheapest

end EndpointPlanner
end BravoFinder
