import BravoFinder.Build.Connection

namespace BravoFinder
namespace EndpointPlanner

open ProcedureConnector

/-!
# Merging the connections of an airport

The findings of the connector are merged under their fixes, and the connections
of STARs with those of approaches.  Either way the cheapest is kept whole: its
price, its headings, its gate and its reference in front.  Between a STAR and an
approach a preference is added to the price of the approach.
-/

variable {R : Type} [LinearOrder R] [Add R] [OfNat R 15]

/-- What an approach pays when it competes with a STAR. -/
def kProcedurePreferNm : R := 15

def isApproachFront (c : ProcedureConnector.Connection R) : Bool :=
  c.procedures.head?.any fun front => front.type == .kApproach

def effectiveSeedNm (softPreferStar : Bool) (c : ProcedureConnector.Connection R) : R :=
  if softPreferStar && isApproachFront c then c.seedDistanceNm + kProcedurePreferNm else c.seedDistanceNm

/-- Two connections of one fix.  The references have been moved out of
`incoming` when it is priced, but a moved reference keeps its type. -/
def absorb (softPreferStar : Bool) (c incoming : ProcedureConnector.Connection R) :
    ProcedureConnector.Connection R :=
  let appended := { c with procedures := c.procedures ++ incoming.procedures }
  if effectiveSeedNm softPreferStar incoming < effectiveSeedNm softPreferStar appended then
    { appended with
      seedDistanceNm := incoming.seedDistanceNm
      bearing := incoming.bearing
      approachBearing := incoming.approachBearing
      spliceVertex := incoming.spliceVertex
      spliceLegNm := incoming.spliceLegNm
      procedures := swapFront appended.procedures c.procedures.length }
  else appended

/-- Merging under the fix; a connection may be made of anything. -/
def merging {B : Type} (softPreferStar : Bool) (fresh : B -> ProcedureConnector.Connection R) :
    KeyedMerge (ProcedureConnector.Connection R) B Int where
  key c := c.fixVertex
  slot item := (fresh item).fixVertex
  fresh := fresh
  combine c item := absorb softPreferStar c (fresh item)
  key_fresh _ := rfl
  key_combine c item := by
    rw [absorb]
    split <;> rfl

/-- `MergeConnection`. -/
def mergeConnection (softPreferStar : Bool) (byFix : List (ProcedureConnector.Connection R))
    (incoming : ProcedureConnector.Connection R) : List (ProcedureConnector.Connection R) :=
  (merging softPreferStar id).insert byFix incoming

/-- `MergeAll`. -/
def mergeAll (dst src : List (ProcedureConnector.Connection R)) (softPreferStar : Bool) :
    List (ProcedureConnector.Connection R) :=
  src.foldl (mergeConnection softPreferStar) dst

/-! ## What is kept of a fix -/

/-- The price, the headings, the gate and the front reference of another. -/
structure PricedLike (c winner : ProcedureConnector.Connection R) : Prop where
  seedDistanceNm : c.seedDistanceNm = winner.seedDistanceNm
  bearing : c.bearing = winner.bearing
  approachBearing : c.approachBearing = winner.approachBearing
  spliceVertex : c.spliceVertex = winner.spliceVertex
  spliceLegNm : c.spliceLegNm = winner.spliceLegNm
  front : c.procedures.head? = winner.procedures.head?

/-- One connection for each fix that was found.  It is priced like the first of
the cheapest found for the fix, and has exactly the references found for it. -/
structure KeepsCheapest {B : Type} (fresh : B -> ProcedureConnector.Connection R) (price : B -> R) (found : List B)
    (kept : List (ProcedureConnector.Connection R)) : Prop where
  nodup : (kept.map ProcedureConnector.Connection.fixVertex).Nodup
  mem_iff : forall fix, fix ∈ kept.map ProcedureConnector.Connection.fixVertex ↔
    fix ∈ found.map fun item => (fresh item).fixVertex
  cheapest : forall c, c ∈ kept -> exists winner,
    (found.filter fun item => (fresh item).fixVertex = c.fixVertex).argmin price = some winner ∧
      PricedLike c (fresh winner)
  procedures : forall c, c ∈ kept -> c.procedures.Perm
    ((found.filter fun item => (fresh item).fixVertex = c.fixVertex).flatMap fun item => (fresh item).procedures)

section Absorb

variable (softPreferStar : Bool)

omit [LinearOrder R] in
theorem PricedLike.effectiveSeedNm_eq {c winner : ProcedureConnector.Connection R} (same : PricedLike c winner) :
    effectiveSeedNm softPreferStar c = effectiveSeedNm softPreferStar winner := by
  have front : isApproachFront c = isApproachFront winner := by
    rw [isApproachFront, isApproachFront, same.front]
  rw [effectiveSeedNm, effectiveSeedNm, front, same.seedDistanceNm]

omit [LinearOrder R] [Add R] [OfNat R 15] in
/-- Appending references changes no price: the front reference stays. -/
theorem pricedLike_append {c : ProcedureConnector.Connection R} (nonempty : c.procedures ≠ [])
    (refs : List ProcedureRef) : PricedLike { c with procedures := c.procedures ++ refs } c where
  seedDistanceNm := rfl
  bearing := rfl
  approachBearing := rfl
  spliceVertex := rfl
  spliceLegNm := rfl
  front := List.head?_append_of_ne_nil _ nonempty

theorem absorb_procedures (c incoming : ProcedureConnector.Connection R) :
    (absorb softPreferStar c incoming).procedures.Perm (c.procedures ++ incoming.procedures) := by
  rw [absorb]
  split
  · exact swapFront_perm _ _
  · exact List.Perm.refl _

/-- The cheaper of two connections prices what they make, the first one when
they cost the same. -/
theorem absorb_pricedLike {c incoming : ProcedureConnector.Connection R} (nonempty : c.procedures ≠ [])
    (someIncoming : incoming.procedures ≠ []) :
    PricedLike (absorb softPreferStar c incoming)
      (if effectiveSeedNm softPreferStar incoming < effectiveSeedNm softPreferStar c then incoming else c) := by
  have appended := pricedLike_append nonempty incoming.procedures
  rw [absorb, appended.effectiveSeedNm_eq softPreferStar]
  split
  · refine ⟨rfl, rfl, rfl, rfl, rfl, ?_⟩
    change (swapFront (c.procedures ++ incoming.procedures) c.procedures.length).head? = _
    have inside : c.procedures.length < (c.procedures ++ incoming.procedures).length := by
      rw [List.length_append]
      exact Nat.lt_add_of_pos_right (List.length_pos_iff.mpr someIncoming)
    rw [head?_swapFront inside, List.getElem?_append_right (Nat.le_refl _), Nat.sub_self, List.head?_eq_getElem?]
  · exact appended

section

omit [Add R] [OfNat R 15] [LinearOrder R]

theorem PricedLike.trans {first second third : ProcedureConnector.Connection R} (left : PricedLike first second)
    (right : PricedLike second third) : PricedLike first third where
  seedDistanceNm := left.seedDistanceNm.trans right.seedDistanceNm
  bearing := left.bearing.trans right.bearing
  approachBearing := left.approachBearing.trans right.approachBearing
  spliceVertex := left.spliceVertex.trans right.spliceVertex
  spliceLegNm := left.spliceLegNm.trans right.spliceLegNm
  front := left.front.trans right.front

theorem PricedLike.refl (c : ProcedureConnector.Connection R) : PricedLike c c :=
  ⟨rfl, rfl, rfl, rfl, rfl, rfl⟩

theorem PricedLike.procedures_ne_nil {c winner : ProcedureConnector.Connection R} (same : PricedLike c winner)
    (nonempty : winner.procedures ≠ []) : c.procedures ≠ [] := by
  intro none
  have front := same.front
  rw [none, List.head?_nil, eq_comm, List.head?_eq_none_iff] at front
  exact nonempty front

end

/-- What some connections of one fix make, by the number of connections. -/
theorem winner_of_folded {B : Type} (fresh : B -> ProcedureConnector.Connection R) {items : List B}
    (nonempty : forall item, item ∈ items -> (fresh item).procedures ≠ []) {c : ProcedureConnector.Connection R}
    (folded : (merging softPreferStar fresh).folded items = some c) :
    (exists winner, items.argmin (fun item => effectiveSeedNm softPreferStar (fresh item)) = some winner ∧
      PricedLike c (fresh winner)) ∧
    c.procedures.Perm (items.flatMap fun item => (fresh item).procedures) := by
  induction items using List.reverseRecOn generalizing c with
  | nil => cases folded
  | append_singleton items item inductionHypothesis =>
      have someItem := nonempty item (List.mem_append_right _ List.mem_cons_self)
      rw [KeyedMerge.folded_append, Option.some.injEq] at folded
      rw [List.argmin_concat, List.flatMap_append, List.flatMap_singleton]
      rcases before : (merging softPreferStar fresh).folded items with _ | c'
      · rw [before] at folded
        subst folded
        cases items with
        | nil => exact ⟨⟨item, rfl, PricedLike.refl _⟩, List.Perm.refl _⟩
        | cons first rest => cases before
      · rw [before] at folded
        subst folded
        rcases inductionHypothesis (fun other member => nonempty other (List.mem_append_left _ member)) before with
          ⟨⟨winner, least, same⟩, refs⟩
        have someWinner := nonempty winner (List.mem_append_left _ (List.argmin_mem least))
        have cheaper := absorb_pricedLike softPreferStar
          (same.procedures_ne_nil someWinner) someItem
        rw [same.effectiveSeedNm_eq softPreferStar] at cheaper
        refine ⟨?_, (absorb_procedures softPreferStar c' (fresh item)).trans (refs.append_right _)⟩
        rw [least]
        change exists winner', (if effectiveSeedNm softPreferStar (fresh item) < effectiveSeedNm softPreferStar
          (fresh winner) then some item else some winner) = some winner' ∧ _
        split_ifs at cheaper ⊢ with wins
        · exact ⟨item, rfl, cheaper⟩
        · exact ⟨winner, rfl, cheaper.trans same⟩

/-- Merging under the fixes keeps the cheapest. -/
theorem keepsCheapest_collect {B : Type} (fresh : B -> ProcedureConnector.Connection R) {found : List B}
    (nonempty : forall item, item ∈ found -> (fresh item).procedures ≠ []) :
    KeepsCheapest fresh (fun item => effectiveSeedNm softPreferStar (fresh item)) found
      ((merging softPreferStar fresh).collect found) := by
  have winner := fun c (member : c ∈ (merging softPreferStar fresh).collect found) =>
    winner_of_folded softPreferStar fresh
      (fun item grouped => nonempty item (List.mem_of_mem_filter grouped))
      ((merging softPreferStar fresh).folded_of_mem_collect member)
  exact
    { nodup := (merging softPreferStar fresh).nodup_keys_collect found
      mem_iff := (merging softPreferStar fresh).mem_keys_collect found
      cheapest := fun c member => (winner c member).1
      procedures := fun c member => (winner c member).2 }

end Absorb

/-! ## The two merges -/

theorem join_eq_absorb (c : ProcedureConnector.Connection R) (finding : Finding R) :
    c.join finding = absorb false c finding.connection := by
  have last : (c.procedures ++ [finding.ref]).length - 1 = c.procedures.length := by
    rw [List.length_append, List.length_singleton, Nat.add_sub_cancel]
  unfold ProcedureConnector.Connection.join absorb
  simp only [last]
  rfl

theorem accumulate_eq_insert (byFix : List (ProcedureConnector.Connection R)) (finding : Finding R) :
    accumulate byFix finding = (merging false Finding.connection).insert byFix finding := by
  induction byFix with
  | nil => rfl
  | cons c rest inductionHypothesis =>
      rw [accumulate, KeyedMerge.insert, inductionHypothesis, ite_not, join_eq_absorb]
      rfl

theorem keepsCheapest_accumulateAll (findings : List (Finding R)) :
    KeepsCheapest Finding.connection Finding.seed findings (accumulateAll findings) := by
  have same : accumulateAll findings = (merging false Finding.connection).collect findings := by
    rw [accumulateAll, KeyedMerge.collect]
    congr 1
    funext byFix finding
    exact accumulate_eq_insert byFix finding
  rw [same]
  exact keepsCheapest_collect false Finding.connection fun _ _ => List.cons_ne_nil _ _

theorem keepsCheapest_mergeAll (softPreferStar : Bool) {dst src : List (ProcedureConnector.Connection R)}
    (distinct : (dst.map ProcedureConnector.Connection.fixVertex).Nodup)
    (nonempty : forall c, c ∈ dst ++ src -> c.procedures ≠ []) :
    KeepsCheapest id (effectiveSeedNm softPreferStar) (dst ++ src) (mergeAll dst src softPreferStar) := by
  have same : mergeAll dst src softPreferStar = (merging softPreferStar id).collect (dst ++ src) := by
    have alone := (merging softPreferStar id).collect_of_nodup distinct
    rw [KeyedMerge.collect, List.foldl_append, ← KeyedMerge.collect, alone]
    change _ = src.foldl _ (dst.map id)
    rw [List.map_id]
    rfl
  rw [same]
  exact keepsCheapest_collect softPreferStar id nonempty

/-- What was accumulated has one connection for each fix, and each connection
has a reference. -/
theorem nonempty_of_accumulateAll {findings : List (Finding R)} {c : ProcedureConnector.Connection R}
    (member : c ∈ accumulateAll findings) : c.procedures ≠ [] := by
  rcases (keepsCheapest_accumulateAll findings).cheapest c member with ⟨winner, -, same⟩
  exact same.procedures_ne_nil (List.cons_ne_nil _ _)

/-- Merging keeps the cheapest whole: of the findings of one side, and of two
lists of connections, the first of which wins the ties. -/
theorem merging_keepsCheapest (findings stars approaches : List (Finding R))
    (pool apch : List (ProcedureConnector.Connection R)) (softPreferStar : Bool)
    (poolOf : pool.Perm (accumulateAll stars)) (apchOf : apch.Perm (accumulateAll approaches)) :
    KeepsCheapest Finding.connection Finding.seed findings (accumulateAll findings) ∧
      KeepsCheapest id (effectiveSeedNm softPreferStar) (pool ++ apch) (mergeAll pool apch softPreferStar) := by
  refine ⟨keepsCheapest_accumulateAll findings, keepsCheapest_mergeAll softPreferStar ?_ fun c member => ?_⟩
  · exact (poolOf.map _).nodup_iff.mpr (keepsCheapest_accumulateAll stars).nodup
  · rcases List.mem_append.mp member with star | approach
    · exact nonempty_of_accumulateAll (poolOf.mem_iff.mp star)
    · exact nonempty_of_accumulateAll (apchOf.mem_iff.mp approach)

/-- A STAR and an approach that meet at one fix, fifteen miles apart in price. -/
def starFinding : Finding Int := ⟨7, 25, 90, -1, 3, 5, ⟨.kStar, [83], [], [], []⟩⟩
def approachFinding : Finding Int := ⟨7, 10, 180, 180, -1, 0, ⟨.kApproach, [73], [], [], [70]⟩⟩

/-- The STAR wins the tie, and keeps its own price and gate. -/
theorem merging_keepsCheapest_tie :
    KeepsCheapest id (effectiveSeedNm true) (accumulateAll [starFinding] ++ accumulateAll [approachFinding])
      (mergeAll (accumulateAll [starFinding]) (accumulateAll [approachFinding]) true) ∧
    mergeAll (accumulateAll [starFinding]) (accumulateAll [approachFinding]) true =
      [⟨7, 25, 90, -1, 3, 5, [starFinding.ref, approachFinding.ref]⟩] :=
  ⟨(merging_keepsCheapest [starFinding, approachFinding] [starFinding] [approachFinding] _ _ true
    (List.Perm.refl _) (List.Perm.refl _)).2, by decide⟩

end EndpointPlanner
end BravoFinder
