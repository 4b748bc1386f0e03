import BravoFinder.Graph.SearchCost
import Mathlib.Algebra.BigOperators.Group.List.Basic
import Mathlib.Algebra.Order.BigOperators.Group.List

namespace BravoFinder

/-!
# The cost of a path in parts

The turns of a path are the sum over its adjacent headings, the procedure's
headings at both ends included.  Splitting that list of headings only loses
turns, so the parts of a path together cost no more than the path.
-/

variable {R : Type} [Field R] [LinearOrder R] [IsStrictOrderedRing R]

theorem TurnPenalty.cost_nonneg (turn : TurnPenalty) (angleDeg : R) : 0 ≤ turn.cost angleDeg := by
  unfold TurnPenalty.cost kPenaltyAtKneeNm kThresholdDeg kKneeDeg kMaxPenaltyNm
  split
  · exact le_rfl
  rename_i sharp
  rw [Bool.or_eq_true, not_or, decide_eq_true_eq, not_le] at sharp
  have beyond : (0 : R) ≤ angleDeg - Nat.cast 45 := sub_nonneg.mpr sharp.2.le
  split
  · have width : (0 : R) ≤ Nat.cast 90 - Nat.cast 45 := by norm_num
    exact div_nonneg (mul_nonneg (Nat.cast_nonneg _) beyond) width
  split
  · exact Nat.cast_nonneg _
  · have height : (0 : R) ≤ Nat.cast 200 - Nat.cast 20 := by norm_num
    simp only [mul_assoc]
    exact add_nonneg (Nat.cast_nonneg _) (mul_nonneg height (mul_self_nonneg _))

theorem TurnPenalty.between_nonneg (turn : TurnPenalty) (inbound outbound : R) :
    0 ≤ turn.between inbound outbound := by
  unfold TurnPenalty.between
  split
  · exact turn.cost_nonneg _
  · exact le_rfl

/-- The turns between adjacent headings. -/
def turnSum (turn : TurnPenalty) : List R -> R
  | [] => 0
  | [_] => 0
  | first :: second :: rest => turn.between first second + turnSum turn (second :: rest)

/-- Splitting a list of headings loses the turn at the seam. -/
theorem turnSum_append_le (turn : TurnPenalty) (front back : List R) :
    turnSum turn front + turnSum turn back ≤ turnSum turn (front ++ back) := by
  induction front with
  | nil => rw [turnSum, zero_add, List.nil_append]
  | cons first rest inductionHypothesis =>
      cases rest with
      | nil =>
          rw [turnSum, zero_add]
          cases back with
          | nil => exact le_rfl
          | cons second back => exact le_add_of_nonneg_left (turn.between_nonneg _ _)
      | cons second rest =>
          simp only [List.cons_append, turnSum, add_assoc]
          exact add_le_add_right inductionHypothesis _

section

omit [IsStrictOrderedRing R]

theorem turnSum_concat (turn : TurnPenalty) (front : List R) (inbound outbound : R) :
    turnSum turn (front ++ [inbound, outbound]) =
      turnSum turn (front ++ [inbound]) + turn.between inbound outbound := by
  induction front with
  | nil => simp only [List.nil_append, turnSum, zero_add, add_zero]
  | cons first rest inductionHypothesis =>
      cases rest with
      | nil => simp only [List.cons_append, List.nil_append, turnSum, add_zero]
      | cons second rest =>
          simp only [List.cons_append, turnSum, add_assoc]
          exact congrArg _ inductionHypothesis

/-- An unknown heading at the start makes no turn ... -/
theorem turnSum_unknown_cons (turn : TurnPenalty) {unknown : R} (negative : unknown < 0)
    (headings : List R) : turnSum turn (unknown :: headings) = turnSum turn headings := by
  cases headings with
  | nil => rfl
  | cons first rest =>
      rw [turnSum, turn.between_unknown fun known => not_le_of_gt negative known.1, zero_add]

/-- ... nor does one at the end. -/
theorem turnSum_concat_unknown (turn : TurnPenalty) {unknown : R} (negative : unknown < 0)
    (headings : List R) : turnSum turn (headings ++ [unknown]) = turnSum turn headings := by
  rcases List.eq_nil_or_concat' headings with empty | ⟨front, last, whole⟩
  · rw [empty]
    rfl
  · rw [whole, List.append_assoc, List.singleton_append, turnSum_concat,
      turn.between_unknown fun known => not_le_of_gt negative known.2, add_zero]

/-- Parts that share the heading at the seam lose nothing. -/
theorem turnSum_join (turn : TurnPenalty) (first : R) (front back : List R) :
    turnSum turn (first :: front ++ back) =
      turnSum turn (first :: front) + turnSum turn (front.getLastD first :: back) := by
  induction front generalizing first with
  | nil => rw [List.getLastD_nil, turnSum, zero_add, List.singleton_append]
  | cons second rest inductionHypothesis =>
      have tail := inductionHypothesis second
      rw [List.cons_append] at tail
      rw [List.getLastD_cons, List.cons_append, List.cons_append, turnSum, turnSum, tail, add_assoc]

end

/-- Headings split where neither part knows that of the other. -/
theorem turnSum_split_le (turn : TurnPenalty) {unknown : R} (negative : unknown < 0) (inbound outbound : R)
    (front back : List R) :
    turnSum turn (inbound :: front ++ [unknown]) + turnSum turn (unknown :: back ++ [outbound]) ≤
      turnSum turn (inbound :: (front ++ back) ++ [outbound]) := by
  have after : turnSum turn (unknown :: back ++ [outbound]) = turnSum turn (back ++ [outbound]) :=
    turnSum_unknown_cons turn negative _
  have split := turnSum_append_le turn (inbound :: front) (back ++ [outbound])
  rw [turnSum_concat_unknown turn negative, after]
  rw [List.cons_append, ← List.append_assoc] at split
  exact split

section

omit [IsStrictOrderedRing R]

/-- Without turns nothing is charged. -/
theorem turnSum_turnOff {turn : TurnPenalty} (turnOff : turn.enabled = false) (headings : List R) :
    turnSum turn headings = 0 := by
  induction headings with
  | nil => rfl
  | cons first rest inductionHypothesis =>
      cases rest with
      | nil => rfl
      | cons second rest =>
          have free : turn.between first second = 0 := by
            unfold TurnPenalty.between TurnPenalty.cost
            simp only [turnOff, Bool.not_false, Bool.true_or, if_true, ite_self]
          rw [turnSum, inductionHypothesis, free, add_zero]

theorem turnsTo_eq (turn : TurnPenalty) {bearings : List R}
    (known : forall bearing, bearing ∈ bearings -> 0 ≤ bearing) (srcBearing cost : R) :
    turnsTo turn bearings srcBearing cost = cost + turnSum turn (srcBearing :: bearings) := by
  induction bearings using List.reverseRecOn generalizing cost with
  | nil => rw [turnsTo, List.isEmpty_nil, if_pos rfl, turnSum, add_zero]
  | append_singleton front last inductionHypothesis =>
      have frontKnown : forall bearing, bearing ∈ front -> 0 ≤ bearing := fun bearing member =>
        known bearing (List.mem_append_left _ member)
      have lastKnown := known last (List.mem_append_right _ (List.mem_singleton.mpr rfl))
      have step := turnsTo_concat turn frontKnown lastKnown srcBearing cost 0
      rw [add_zero, add_zero, inductionHypothesis frontKnown] at step
      rw [step, add_assoc]
      congr 1
      rcases List.eq_nil_or_concat' front with empty | ⟨before, inbound, whole⟩
      · rw [empty, List.getLastD_nil]
        simp only [turnSum, List.nil_append, zero_add, add_zero]
      · rw [whole, List.getLastD_concat, List.append_assoc, List.singleton_append]
        exact (turnSum_concat turn (srcBearing :: before) inbound last).symm

/-- A total the edges start from is carried along. -/
theorem edgeCosts_add (graph : NavGraph R R) (options : SearchOptions R) (path : List Int)
    (cost distance extra extraDistance : R) :
    edgeCosts graph options path (cost + extra, distance + extraDistance) =
      (edgeCosts graph options path (extra, extraDistance)).map fun total =>
        (cost + total.1, distance + total.2) := by
  induction path generalizing extra extraDistance with
  | nil => rfl
  | cons u rest inductionHypothesis =>
      cases rest with
      | nil => rfl
      | cons v rest =>
          simp only [edgeCosts]
          split
          · rfl
          split
          · rfl
          · rw [add_assoc, add_assoc]
            exact inductionHypothesis _ _

/-- The cost of a path splits at each of its vertices. -/
theorem edgeCosts_split {graph : NavGraph R R} {options : SearchOptions R} {front tail : List Int}
    {node : Int} {cost distance frontCost frontDistance : R}
    (whole : edgeCosts graph options (front ++ node :: tail) (0, 0) = some (cost, distance))
    (before : edgeCosts graph options (front ++ [node]) (0, 0) = some (frontCost, frontDistance)) :
    exists tailCost tailDistance,
      edgeCosts graph options (node :: tail) (0, 0) = some (tailCost, tailDistance) ∧
        cost = frontCost + tailCost := by
  have shifted := edgeCosts_add graph options (node :: tail) frontCost frontDistance 0 0
  rw [edgeCosts_append, before, Option.bind_some] at whole
  rw [add_zero, add_zero, whole] at shifted
  rcases Option.map_eq_some_iff.mp shifted.symm with ⟨⟨tailCost, tailDistance⟩, after, sums⟩
  exact ⟨tailCost, tailDistance, after, (congrArg Prod.fst sums).symm⟩

end

/-! ## A priced path -/

omit [IsStrictOrderedRing R] in
/-- What the price of a path without its seeds is made of. -/
theorem costOfPath_eq_some {earth : Geodesy R} {graph : NavGraph R R} {path : List Int}
    {options : SearchOptions R} {srcBearing goalBearing total distance : R} (nonempty : path ≠ [])
    (priced : costOfPath earth graph path options srcBearing goalBearing = some (total, distance)) :
    exists cost, edgeCosts graph options path (0, 0) = some (cost, distance) ∧
      total = cost +
        turnSum options.turnPenalty (srcBearing :: edgeBearings earth graph path ++ [goalBearing]) := by
  by_cases short : path.length < 2
  · obtain ⟨single, rfl⟩ : exists single, path = [single] :=
      List.length_eq_one_iff.mp (by
        have positive := List.length_pos_of_ne_nil nonempty
        omega)
    unfold costOfPath at priced
    rw [if_pos short] at priced
    split at priced
    · rename_i turns
      cases priced
      refine ⟨0, rfl, ?_⟩
      simp only [edgeBearings, List.cons_append, List.nil_append, turnSum, add_zero]
      rw [TurnPenalty.between_known _ turns.2.1 turns.2.2]
    · rename_i noTurn
      cases priced
      refine ⟨0, rfl, ?_⟩
      rw [zero_add]
      by_cases enabled : options.turnPenalty.enabled = true
      · simp only [edgeBearings, List.cons_append, List.nil_append, turnSum, add_zero]
        rw [TurnPenalty.between_unknown _ fun known => noTurn ⟨enabled, known⟩]
      · rw [turnSum_turnOff (Bool.eq_false_iff.mpr enabled)]
  · have blocked := priced
    unfold costOfPath at blocked
    rw [if_neg short] at blocked
    split at blocked
    · cases blocked
    rename_i allowed
    split at blocked
    · cases blocked
    rename_i cost edgeDistance edges
    have unblocked : forall v, v ∈ path -> options.nodeFilter.blocks v = false := by
      intro v member
      rw [← Bool.not_eq_true]
      exact fun blocks => allowed (List.any_eq_true.mpr ⟨v, member, blocks⟩)
    rw [costOfPath_eq earth graph nonempty unblocked _ _ edges] at priced
    have known := edgeBearings_nonneg earth graph path
    split at priced
    · cases priced
      refine ⟨cost, edges, ?_⟩
      rw [turnsTo_eq _ known, add_assoc]
      congr 1
      rcases List.eq_nil_or_concat' (edgeBearings earth graph path) with empty | ⟨front, last, whole⟩
      · simp only [arrivalBearing, empty, List.getLastD_nil, turnSum, List.cons_append,
          List.nil_append, zero_add, add_zero]
      · rw [arrivalBearing, whole, List.getLastD_concat]
        have split := turnSum_concat options.turnPenalty (srcBearing :: front) last goalBearing
        simp only [List.cons_append, List.append_assoc, List.nil_append] at split ⊢
        exact split.symm
    · rename_i turnOff
      cases priced
      exact ⟨total, edges, by rw [turnSum_turnOff (Bool.eq_false_iff.mpr turnOff), add_zero]⟩

omit [IsStrictOrderedRing R] in
/-- What the price of a whole path is made of. -/
theorem costOfPathMulti_eq_some {earth : Geodesy R} {graph : NavGraph R R} {path : List Int}
    {sourceSeed goalSeed sourceBearing goalBearing : Int -> R} {options : SearchOptions R}
    {total distance : R}
    (priced : costOfPathMulti earth graph path sourceSeed goalSeed sourceBearing goalBearing options =
      some (total, distance)) :
    exists front back cost edgeDistance, path.head? = some front ∧ path.getLast? = some back ∧
      0 ≤ sourceSeed front ∧ 0 ≤ goalSeed back ∧
      edgeCosts graph options path (0, 0) = some (cost, edgeDistance) ∧
      total = sourceSeed front + (cost + turnSum options.turnPenalty
        (sourceBearing front :: edgeBearings earth graph path ++ [goalBearing back])) + goalSeed back ∧
      distance = sourceSeed front + edgeDistance + goalSeed back := by
  cases path with
  | nil => cases priced
  | cons front rest =>
      have last : (front :: rest).getLast? = some ((front :: rest).getLastD front) := by
        rw [List.getLastD_eq_getLast?, List.getLast?_eq_some_getLast (List.cons_ne_nil front rest),
          Option.getD_some]
      unfold costOfPathMulti at priced
      simp only at priced
      split at priced
      · cases priced
      rename_i seeds
      rw [not_or, not_lt, not_lt] at seeds
      split at priced
      · cases priced
      rename_i enrouteCost enrouteDistance enroute
      cases priced
      rcases costOfPath_eq_some (List.cons_ne_nil front rest) enroute with ⟨cost, edges, same⟩
      exact ⟨front, _, cost, enrouteDistance, rfl, last, seeds.1, seeds.2, edges, by rw [same], rfl⟩

end BravoFinder
