import BravoFinder.Build.GraphBuilder
import BravoFinder.Core.Search
import BravoFinder.Library.BitScan
import BravoFinder.Routing.RouteString
import Mathlib.Algebra.Order.Group.Defs
import Mathlib.Algebra.Ring.Defs
import Mathlib.Algebra.BigOperators.Group.List.Basic

namespace BravoFinder

/-!
# Airway rules

A request may carry up to 32 rules.  `ResolveAirwayRules` matches all names
before the search and leaves one bit per rule: in a word for each vertex, whose
region the rule names, and in a word for each airway, whose designators it
names.  A rule applies to an edge where the bits of an endpoint and of the
airway meet.

What a rule means is stated below without any bits.
-/

variable {R : Type}

/-- How many rules one request may carry: a word has a bit for each. -/
def kMaxRules : Nat := 32

/-- Whether a region starts with an entry.  No entries, or an empty one, match
every region. -/
def matchesAnyPrefix (region : Text) (starts : List Text) : Bool :=
  starts.isEmpty || starts.any fun start => start.isEmpty || start.isPrefixOf region

/-- Whether a designator is matched by an entry. -/
def matchesAnyDesignator (designator : Text) (wanted : List Text) (mode : AirwayRuleMatch) : Bool :=
  wanted.isEmpty || wanted.any fun entry =>
    entry.isEmpty || if mode = .kPrefix then entry.isPrefixOf designator else designator == entry

/-- `AirwayRuleConstraint`. -/
structure AirwayRuleConstraint (R : Type) where
  vertexMask : List (BitVec 32)
  airwayMask : List (BitVec 32)
  blockBits : BitVec 32
  fractions : List R

/-- The loop over the rules that sets bit `i` where rule `i` applies. -/
def setRuleBits (applies : AirwayRule R -> Bool) : Nat -> List (AirwayRule R) -> BitVec 32 -> BitVec 32
  | _, [], mask => mask
  | i, rule :: rules, mask =>
      setRuleBits applies (i + 1) rules (if applies rule then mask ||| (1#32 <<< i) else mask)

/-- The rules whose regions include `region`. -/
def regionMask (rules : List (AirwayRule R)) (region : Text) : BitVec 32 :=
  setRuleBits (fun rule => matchesAnyPrefix region rule.regionPrefixes) 0 rules 0

/-- The masks of the vertices, with those of the regions seen before. -/
def vertexMasks (rules : List (AirwayRule R)) : (Text -> Option (BitVec 32)) -> List Text -> List (BitVec 32)
  | _, [] => []
  | seen, region :: regions =>
      match seen region with
      | some mask => mask :: vertexMasks rules seen regions
      | none =>
          let mask := regionMask rules region
          mask :: vertexMasks rules (fun other => if other = region then some mask else seen other) regions

/-- The rules that name one of the designators of an airway. -/
def designatorMask (rules : List (AirwayRule R)) (name : Text) : BitVec 32 :=
  (splitDesignators name).foldl
    (fun mask designator =>
      setRuleBits (fun rule => matchesAnyDesignator designator rule.designators rule.matchMode) 0 rules mask) 0

/-- The masks of the airways.  Entry 0 stays empty. -/
def airwayMasks (rules : List (AirwayRule R)) : List Text -> List (BitVec 32)
  | [] => []
  | _ :: names => 0 :: names.map (designatorMask rules)

/-- The fraction of a rule, clamped; a blocking rule has none. -/
def ruleFraction [LinearOrder R] [Zero R] (rule : AirwayRule R) : R :=
  match rule.action with
  | .kBlock => 0
  | .kPenalize => if rule.penaltyFraction < 0 then 0 else rule.penaltyFraction

/-- `ResolveAirwayRules`. -/
def resolveAirwayRules [LinearOrder R] [Zero R] (builder : GraphBuilder R) (rules : List (AirwayRule R)) :
    AirwayRuleConstraint R where
  vertexMask := vertexMasks rules (fun _ => none) (builder.graph.vertices.map builder.regionOf)
  airwayMask := airwayMasks rules builder.airwayNames
  blockBits := setRuleBits (fun rule => decide (rule.action = .kBlock)) 0 rules 0
  fractions := rules.map ruleFraction

/-- `Evaluate`. -/
def AirwayRuleConstraint.evaluate [Zero R] [Add R] [Mul R] (constraint : AirwayRuleConstraint R)
    (context : EdgeContext R) : EdgeVerdict R :=
  let m := (constraint.vertexMask.getD context.source.toNat 0 |||
    constraint.vertexMask.getD context.edge.toVertex.toNat 0) &&& constraint.airwayMask.getD context.edge.airwayId 0
  if m = 0 then .allow
  else if m &&& constraint.blockBits ≠ 0 then .block
  else
    .penalize (context.edge.distanceNm * scanBits (fun sum i => sum + constraint.fractions.getD i 0) m 0)

/-! ## What a rule means -/

namespace AirwayRule

/-- The region starts with one of the prefixes. -/
def CoversRegion (rule : AirwayRule R) (region : Text) : Prop :=
  rule.regionPrefixes = [] ∨ exists start, start ∈ rule.regionPrefixes ∧ (start = [] ∨ start <+: region)

/-- The designator matches under the mode of the rule. -/
def CoversDesignator (rule : AirwayRule R) (designator : Text) : Prop :=
  rule.designators = [] ∨ exists entry, entry ∈ rule.designators ∧
    (entry = [] ∨ (rule.matchMode = .kPrefix ∧ entry <+: designator) ∨
      (rule.matchMode = .kExact ∧ designator = entry))

/-- The rule matches an edge: it is an airway, of which the rule names a
designator, and an end of it lies in one of the regions. -/
def Matches (rule : AirwayRule R) (builder : GraphBuilder R) (source : Int) (edge : GraphEdge R) : Prop :=
  edge.airwayId ≠ 0 ∧
    (exists designator, designator ∈ splitDesignators (builder.airwayName edge.airwayId) ∧
      rule.CoversDesignator designator) ∧
    (rule.CoversRegion (builder.regionOf source) ∨ rule.CoversRegion (builder.regionOf edge.toVertex))

theorem coversRegion_iff (rule : AirwayRule R) (region : Text) :
    rule.CoversRegion region ↔ matchesAnyPrefix region rule.regionPrefixes = true := by
  simp only [CoversRegion, matchesAnyPrefix, Bool.or_eq_true, List.isEmpty_iff, List.any_eq_true,
    List.isPrefixOf_iff_prefix]

theorem coversDesignator_iff (rule : AirwayRule R) (designator : Text) :
    rule.CoversDesignator designator ↔
      matchesAnyDesignator designator rule.designators rule.matchMode = true := by
  simp only [CoversDesignator, matchesAnyDesignator, Bool.or_eq_true, List.isEmpty_iff, List.any_eq_true]
  cases rule.matchMode with
  | kExact => simp only [reduceCtorEq, false_and, true_and, false_or, if_false, beq_iff_eq]
  | kPrefix => simp only [reduceCtorEq, false_and, true_and, or_false, if_true, List.isPrefixOf_iff_prefix]

instance (rule : AirwayRule R) (region : Text) : Decidable (rule.CoversRegion region) :=
  decidable_of_iff _ (rule.coversRegion_iff region).symm

instance (rule : AirwayRule R) (designator : Text) : Decidable (rule.CoversDesignator designator) :=
  decidable_of_iff _ (rule.coversDesignator_iff designator).symm

instance (rule : AirwayRule R) (builder : GraphBuilder R) (source : Int) (edge : GraphEdge R) :
    Decidable (rule.Matches builder source edge) :=
  inferInstanceAs (Decidable (_ ∧ _ ∧ _))

end AirwayRule

/-! ## The masks -/

theorem getLsbD_setRuleBits (applies : AirwayRule R -> Bool) (index : Nat) (rules : List (AirwayRule R)) :
    forall i mask, i + rules.length ≤ 32 ->
      ((setRuleBits applies i rules mask).getLsbD index = true ↔
        mask.getLsbD index = true ∨ exists offset rule, rules[offset]? = some rule ∧
          index = i + offset ∧ applies rule = true) := by
  induction rules with
  | nil =>
      intro i mask _
      simp only [setRuleBits, List.getElem?_nil, reduceCtorEq, false_and, exists_false, or_false]
  | cons rule rules inductionHypothesis =>
      intro i mask fits
      rw [List.length_cons] at fits
      rw [setRuleBits, inductionHypothesis (i + 1) _ (by omega)]
      have here : (if applies rule then mask ||| (1#32 <<< i) else mask).getLsbD index = true ↔
          mask.getLsbD index = true ∨ (index = i ∧ applies rule = true) := by
        split
        · rename_i applied
          rw [BitVec.getLsbD_or, Bool.or_eq_true, BitVec.getLsbD_shiftLeft, BitVec.getLsbD_one]
          simp only [applied, and_true, Bool.and_eq_true, decide_eq_true_eq, Bool.not_eq_true',
            decide_eq_false_iff_not]
          refine or_congr_right ⟨fun bit => by omega, fun same => by omega⟩
        · rename_i skipped
          simp only [skipped, and_false, or_false, Bool.false_eq_true]
      rw [here, or_assoc]
      refine or_congr_right ?_
      constructor
      · rintro (⟨same, applied⟩ | ⟨offset, later, found, same, applied⟩)
        · exact ⟨0, rule, rfl, same, applied⟩
        · exact ⟨offset + 1, later, found, by omega, applied⟩
      · rintro ⟨offset, later, found, same, applied⟩
        cases offset with
        | zero =>
            rw [List.getElem?_cons_zero, Option.some.injEq] at found
            exact .inl ⟨same, found ▸ applied⟩
        | succ offset => exact .inr ⟨offset, later, found, by omega, applied⟩

/-- A mask built from nothing has the bits of the rules that apply. -/
theorem getLsbD_ruleMask (applies : AirwayRule R -> Bool) {rules : List (AirwayRule R)}
    (few : rules.length ≤ 32) (index : Nat) :
    (setRuleBits applies 0 rules 0#32).getLsbD index = true ↔
      exists rule, rules[index]? = some rule ∧ applies rule = true := by
  rw [getLsbD_setRuleBits applies index rules 0 _ (by omega), BitVec.getLsbD_zero]
  constructor
  · rintro (none | ⟨offset, rule, found, same, applied⟩)
    · exact absurd none Bool.false_ne_true
    · rw [Nat.zero_add] at same
      exact ⟨rule, same ▸ found, applied⟩
  · rintro ⟨rule, found, applied⟩
    exact .inr ⟨index, rule, found, (Nat.zero_add index).symm, applied⟩

/-- The masks kept for the regions seen before are those of the regions. -/
theorem vertexMasks_eq (rules : List (AirwayRule R)) (regions : List Text) :
    forall seen, (forall region mask, seen region = some mask -> mask = regionMask rules region) ->
      vertexMasks rules seen regions = regions.map (regionMask rules) := by
  induction regions with
  | nil => exact fun _ _ => rfl
  | cons region regions inductionHypothesis =>
      intro seen kept
      rw [vertexMasks, List.map_cons]
      split
      · rename_i mask found
        rw [kept region mask found, inductionHypothesis seen kept]
      · refine congrArg _ (inductionHypothesis _ fun other mask found => ?_)
        split at found
        · rename_i same
          rw [same]
          exact (Option.some.inj found).symm
        · exact kept other mask found

theorem getLsbD_designatorMask {rules : List (AirwayRule R)} (few : rules.length ≤ 32) (name : Text)
    (index : Nat) :
    (designatorMask rules name).getLsbD index = true ↔
      exists rule, rules[index]? = some rule ∧
        exists designator, designator ∈ splitDesignators name ∧ rule.CoversDesignator designator := by
  have run : forall (designators : List Text) (mask : BitVec 32),
      (designators.foldl (fun mask designator => setRuleBits
          (fun rule => matchesAnyDesignator designator rule.designators rule.matchMode) 0 rules mask)
        mask).getLsbD index = true ↔
        mask.getLsbD index = true ∨ exists rule, rules[index]? = some rule ∧
          exists designator, designator ∈ designators ∧ rule.CoversDesignator designator := by
    intro designators
    induction designators with
    | nil =>
        intro mask
        simp only [List.foldl_nil, List.not_mem_nil, false_and, exists_false, and_false, or_false]
    | cons designator designators inductionHypothesis =>
        intro mask
        rw [List.foldl_cons, inductionHypothesis, getLsbD_setRuleBits _ index rules 0 mask (by omega), or_assoc]
        refine or_congr_right ?_
        constructor
        · rintro (⟨offset, rule, found, same, applied⟩ | ⟨rule, found, later, member, covered⟩)
          · rw [Nat.zero_add] at same
            exact ⟨rule, same ▸ found, designator, List.mem_cons_self,
              (rule.coversDesignator_iff designator).mpr applied⟩
          · exact ⟨rule, found, later, List.mem_cons_of_mem _ member, covered⟩
        · rintro ⟨rule, found, other, member, covered⟩
          rcases List.mem_cons.mp member with same | later
          · exact .inl ⟨index, rule, found, (Nat.zero_add index).symm,
              (rule.coversDesignator_iff designator).mp (same ▸ covered)⟩
          · exact .inr ⟨rule, found, other, later, covered⟩
  rw [designatorMask, run, BitVec.ofNat_eq_ofNat, BitVec.getLsbD_zero]
  exact or_iff_right Bool.false_ne_true

section Tables

variable [LinearOrder R] [Zero R] {builder : GraphBuilder R} {rules : List (AirwayRule R)}

theorem getD_vertexMask {vertex : Int} (inRange : builder.graph.InRange vertex) :
    (resolveAirwayRules builder rules).vertexMask.getD vertex.toNat 0 =
      regionMask rules (builder.regionOf vertex) := by
  have bound : vertex.toNat < builder.graph.coords.length := by
    have upper := inRange.2
    rw [NavGraph.vertexCount] at upper
    have lower := inRange.1
    omega
  have back : Int.ofNat vertex.toNat = vertex := Int.toNat_of_nonneg inRange.1
  rw [resolveAirwayRules, vertexMasks_eq rules _ _ (fun _ _ none => by cases none), NavGraph.vertices,
    List.map_map, List.map_map, List.getD_eq_getElem?_getD, List.getElem?_map, List.getElem?_range bound]
  simp only [Option.map_some, Option.getD_some, Function.comp_apply, back]

theorem getLsbD_airwayMask (few : rules.length ≤ 32) {airwayId : Nat}
    (known : airwayId < builder.airwayNames.length) (index : Nat) :
    ((resolveAirwayRules builder rules).airwayMask.getD airwayId 0).getLsbD index = true ↔
      airwayId ≠ 0 ∧ exists rule, rules[index]? = some rule ∧
        exists designator, designator ∈ splitDesignators (builder.airwayName airwayId) ∧
          rule.CoversDesignator designator := by
  rw [resolveAirwayRules, GraphBuilder.airwayName]
  cases names : builder.airwayNames with
  | nil =>
      rw [names] at known
      exact absurd known (Nat.not_lt_zero _)
  | cons dct names' =>
      rw [names, List.length_cons] at known
      cases airwayId with
      | zero =>
          rw [airwayMasks, List.getD_cons_zero, BitVec.ofNat_eq_ofNat, BitVec.getLsbD_zero]
          exact ⟨fun set => absurd set Bool.false_ne_true, fun not => absurd rfl not.1⟩
      | succ before =>
          have inside : before < names'.length := by omega
          rw [airwayMasks, List.getD_cons_succ, List.getD_cons_succ, List.getD_eq_getElem?_getD,
            List.getElem?_map, List.getD_eq_getElem?_getD, List.getElem?_eq_getElem inside, Option.map_some,
            Option.getD_some, Option.getD_some, getLsbD_designatorMask few]
          exact ⟨fun found => ⟨Nat.succ_ne_zero before, found⟩, And.right⟩

/-- The bits that `Evaluate` looks at are those of the rules that match. -/
theorem getLsbD_meeting (few : rules.length ≤ 32) {source : Int} {edge : GraphEdge R}
    (inRange : builder.graph.InRange source) (listed : edge ∈ builder.graph.edgesFrom source) (index : Nat) :
    (((resolveAirwayRules builder rules).vertexMask.getD source.toNat 0 |||
        (resolveAirwayRules builder rules).vertexMask.getD edge.toVertex.toNat 0) &&&
        (resolveAirwayRules builder rules).airwayMask.getD edge.airwayId 0).getLsbD index = true ↔
      exists rule, rules[index]? = some rule ∧ rule.Matches builder source edge := by
  rw [BitVec.getLsbD_and, BitVec.getLsbD_or, Bool.and_eq_true, Bool.or_eq_true, getD_vertexMask inRange,
    getD_vertexMask (builder.graph.inRange_toVertex listed), regionMask, regionMask,
    getLsbD_airwayMask few
      (builder.airwayId_lt source ((builder.graph.mem_vertices source).mpr inRange) edge listed), BitVec.ofNat_eq_ofNat,
    getLsbD_ruleMask _ few, getLsbD_ruleMask _ few]
  simp only [AirwayRule.Matches, AirwayRule.coversRegion_iff]
  constructor
  · rintro ⟨regions, airway, rule, found, named⟩
    refine ⟨rule, found, airway, named, ?_⟩
    rcases regions with ⟨other, same, covered⟩ | ⟨other, same, covered⟩
    · rw [found, Option.some.injEq] at same
      exact .inl (same ▸ covered)
    · rw [found, Option.some.injEq] at same
      exact .inr (same ▸ covered)
  · rintro ⟨rule, found, airway, named, regions⟩
    exact ⟨regions.imp (⟨rule, found, ·⟩) (⟨rule, found, ·⟩), airway, rule, found, named⟩

end Tables

/-! ## What an edge pays -/

/-- Filtering the indices of a list is filtering its entries. -/
theorem map_filter_range {A B : Type} {picked : Nat -> Bool} {kept : A -> Bool} {weight : Nat -> B}
    {cost : A -> B} (entries : List A)
    (agree : forall index entry, entries[index]? = some entry ->
      picked index = kept entry ∧ weight index = cost entry) :
    ((List.range entries.length).filter picked).map weight = (entries.filter kept).map cost := by
  induction entries using List.reverseRecOn with
  | nil => rfl
  | append_singleton entries entry inductionHypothesis =>
      have before := inductionHypothesis fun index other found => agree index other (by
        rw [List.getElem?_append_left (List.getElem?_eq_some_iff.mp found).1]
        exact found)
      have here := agree entries.length entry (by rw [List.getElem?_append_right (Nat.le_refl _), Nat.sub_self]; rfl)
      rw [List.length_append, List.length_singleton, List.range_succ, List.filter_append, List.filter_append,
        List.map_append, List.map_append, before]
      refine congrArg _ ?_
      cases keeps : kept entry with
      | false =>
          rw [List.filter_cons_of_neg (by rw [here.1, keeps]; exact Bool.false_ne_true),
            List.filter_cons_of_neg (by rw [keeps]; exact Bool.false_ne_true)]
          rfl
      | true =>
          rw [List.filter_cons_of_pos (here.1.trans keeps), List.filter_cons_of_pos keeps, List.map_cons,
            List.map_cons, here.2]
          rfl

/-- The bits of a word of at most 32 rules are indices of the rules. -/
theorem setBits_eq_filter {bits : BitVec 32} {count : Nat} (few : count ≤ 32)
    (within : forall index, bits.getLsbD index = true -> index < count) :
    setBits bits = (List.range count).filter bits.getLsbD := by
  have cut : List.range 32 = List.range count ++ (List.range (32 - count)).map (count + ·) := by
    rw [← List.range_add]
    congr 1
    omega
  have none : ((List.range (32 - count)).map (count + ·)).filter bits.getLsbD = [] := by
    rw [List.filter_eq_nil_iff]
    intro index member set
    rcases List.mem_map.mp member with ⟨offset, _, rfl⟩
    have inside := within _ set
    omega
  rw [setBits, cut, List.filter_append, none, List.append_nil]

section Price

variable [LinearOrder R] [Semiring R] {builder : GraphBuilder R} {rules : List (AirwayRule R)} {source : Int}
  {edge : GraphEdge R} {m : BitVec 32}

/-- A blocking bit is among the bits of the edge when a blocking rule matches. -/
theorem and_blockBits_ne_zero_iff (few : rules.length ≤ 32)
    (bits : forall index, m.getLsbD index = true ↔
      exists rule, rules[index]? = some rule ∧ rule.Matches builder source edge) :
    m &&& (resolveAirwayRules builder rules).blockBits ≠ 0#32 ↔
      exists rule, rule ∈ rules ∧ rule.action = .kBlock ∧ rule.Matches builder source edge := by
  constructor
  · intro some
    have set := BitVec.getLsbD_true_ctz_of_ne_zero some
    rw [BitVec.getLsbD_and, Bool.and_eq_true, bits] at set
    rcases set with ⟨⟨rule, found, isMatch⟩, blocking⟩
    rcases (getLsbD_ruleMask _ few _).mp blocking with ⟨other, same, blocked⟩
    rw [found, Option.some.injEq] at same
    exact ⟨rule, List.mem_of_getElem? found, same ▸ of_decide_eq_true blocked, isMatch⟩
  · rintro ⟨rule, member, blocking, isMatch⟩ none
    rcases List.mem_iff_getElem?.mp member with ⟨index, found⟩
    have set : (m &&& (resolveAirwayRules builder rules).blockBits).getLsbD index = true := by
      rw [BitVec.getLsbD_and, (bits index).mpr ⟨rule, found, isMatch⟩, Bool.true_and]
      exact (getLsbD_ruleMask _ few index).mpr ⟨rule, found, decide_eq_true blocking⟩
    rw [none, BitVec.getLsbD_zero] at set
    exact Bool.false_ne_true set

theorem ruleFraction_of_penalize {rule : AirwayRule R} (penalizes : rule.action = .kPenalize) :
    ruleFraction rule = max 0 rule.penaltyFraction := by
  simp only [ruleFraction, penalizes]
  split
  · rename_i negative
    exact (max_eq_left negative.le).symm
  · rename_i nonneg
    exact (max_eq_right (le_of_not_gt nonneg)).symm

/-- Without a blocking rule, the loop over the bits adds up the fractions of
the rules that match. -/
theorem scanBits_fractions (few : rules.length ≤ 32)
    (bits : forall index, m.getLsbD index = true ↔
      exists rule, rules[index]? = some rule ∧ rule.Matches builder source edge)
    (free : ¬ exists rule, rule ∈ rules ∧ rule.action = .kBlock ∧ rule.Matches builder source edge) :
    scanBits (fun sum i => sum + (resolveAirwayRules builder rules).fractions.getD i 0) m 0 =
      ((rules.filter fun rule => decide (rule.action = .kPenalize ∧ rule.Matches builder source edge)).map
        fun rule => max 0 rule.penaltyFraction).sum := by
  have within : forall index, m.getLsbD index = true -> index < rules.length := by
    intro index set
    rcases (bits index).mp set with ⟨rule, found, _⟩
    exact (List.getElem?_eq_some_iff.mp found).1
  have terms : ((List.range rules.length).filter m.getLsbD).map
        (fun i => (resolveAirwayRules builder rules).fractions.getD i 0) =
      (rules.filter fun rule => decide (rule.Matches builder source edge)).map ruleFraction := by
    refine map_filter_range rules fun index rule found => ⟨?_, ?_⟩
    · refine Bool.eq_iff_iff.mpr ((bits index).trans ?_)
      rw [decide_eq_true_eq]
      exact ⟨fun ⟨_, same, isMatch⟩ => Option.some.inj (found.symm.trans same) ▸ isMatch,
        fun isMatch => ⟨rule, found, isMatch⟩⟩
    · rw [resolveAirwayRules, List.getD_eq_getElem?_getD, List.getElem?_map, found, Option.map_some,
        Option.getD_some]
  -- Every rule that matches is a penalty, and none of these is negative.
  have penalizes : forall rule, rule ∈ rules -> rule.Matches builder source edge -> rule.action = .kPenalize := by
    intro rule member isMatch
    cases action : rule.action with
    | kBlock => exact absurd ⟨rule, member, action, isMatch⟩ free
    | kPenalize => rfl
  have kept : rules.filter (fun rule => decide (rule.Matches builder source edge)) =
      rules.filter fun rule => decide (rule.action = .kPenalize ∧ rule.Matches builder source edge) :=
    List.filter_congr fun rule member =>
      decide_eq_decide.mpr ⟨fun isMatch => ⟨penalizes rule member isMatch, isMatch⟩, And.right⟩
  rw [scanBits_eq_foldl, setBits_eq_filter few within, ← List.foldl_map, ← List.sum_eq_foldl, terms, kept]
  refine congrArg List.sum (List.map_congr_left fun rule member => ?_)
  exact ruleFraction_of_penalize (of_decide_eq_true (List.mem_filter.mp member).2).1

end Price

/-- An edge is blocked when a blocking rule matches it.  Otherwise it pays its
length times the fractions of the rules that match, none of them negative. -/
theorem evaluate_resolveAirwayRules [LinearOrder R] [Semiring R] (builder : GraphBuilder R)
    (rules : List (AirwayRule R)) (context : EdgeContext R) (few : rules.length ≤ kMaxRules)
    (inRange : builder.graph.InRange context.source)
    (listed : context.edge ∈ builder.graph.edgesFrom context.source) :
    (((resolveAirwayRules builder rules).evaluate context).allowed = false ↔
        exists rule, rule ∈ rules ∧ rule.action = .kBlock ∧ rule.Matches builder context.source context.edge) ∧
      (((resolveAirwayRules builder rules).evaluate context).allowed = true ->
        ((resolveAirwayRules builder rules).evaluate context).extraCost =
          context.edge.distanceNm * ((rules.filter fun rule =>
            decide (rule.action = .kPenalize ∧ rule.Matches builder context.source context.edge)).map
              fun rule => max 0 rule.penaltyFraction).sum) := by
  have bits := getLsbD_meeting few inRange listed
  rw [AirwayRuleConstraint.evaluate]
  generalize ((resolveAirwayRules builder rules).vertexMask.getD context.source.toNat 0 |||
    (resolveAirwayRules builder rules).vertexMask.getD context.edge.toVertex.toNat 0) &&&
    (resolveAirwayRules builder rules).airwayMask.getD context.edge.airwayId 0 = m at bits ⊢
  have blocks := and_blockBits_ne_zero_iff few bits
  have price := scanBits_fractions few bits
  split
  · rename_i none
    rw [none, BitVec.ofNat_eq_ofNat, BitVec.zero_and] at blocks
    have free := fun found => blocks.mpr found rfl
    rw [none, BitVec.ofNat_eq_ofNat, scanBits, dif_pos rfl] at price
    refine ⟨⟨nofun, fun found => absurd found free⟩, fun _ => ?_⟩
    rw [← price free, mul_zero]
    rfl
  · split
    · rename_i some
      exact ⟨⟨fun _ => blocks.mp some, fun _ => rfl⟩, nofun⟩
    · rename_i none
      have free := fun found => none (blocks.mpr found)
      refine ⟨⟨nofun, fun found => absurd found free⟩, fun _ => ?_⟩
      rw [← price free]
      rfl

/-- Two waypoints of region `ZB`, joined one way by the airway `J6-A1`. -/
def twoWaypoints : GraphBuilder Int where
  graph :=
    { coords := [⟨40, 116⟩, ⟨40, 117⟩]
      offsets := [0, 1, 1]
      edges := [⟨1, 46, 1, 0, 600, .kBoth⟩]
      offsets_length := rfl
      offsets_sorted := by decide
      offsets_le := by decide
      edges_to := by decide
      vertexCount_lt := by decide }
  idents := [waypointA, waypointB]
  hasOutboundFlags := [true, false]
  hasInboundFlags := [false, true]
  firstAirportVertex := 2
  airwayNames := [kDctToken, [74, 54, 45, 65, 49]]
  idents_length := rfl
  firstAirportVertex_le := by decide
  hasOutboundFlags_eq := by decide
  hasInboundFlags_eq := by decide
  waypoint_of_edge := by decide
  airwayId_lt := by decide

/-- The edge of `twoWaypoints`, as a constraint sees it. -/
def twoWaypointsContext : EdgeContext Int :=
  ⟨⟨1, 46, 1, 0, 600, .kBoth⟩, ⟨40, 116⟩, ⟨40, 117⟩, 0⟩

/-- All `J` airways of region `Z` count double, and `A2` is blocked everywhere. -/
def twoRules : List (AirwayRule Int) :=
  [⟨[[90]], [[74]], .kPrefix, .kPenalize, 1⟩, ⟨[], [[65, 50]], .kExact, .kBlock, 0⟩]

theorem evaluate_twoRules :
    ((resolveAirwayRules twoWaypoints twoRules).evaluate twoWaypointsContext).allowed = true ∧
      ((resolveAirwayRules twoWaypoints twoRules).evaluate twoWaypointsContext).extraCost = 46 := by
  have verdict := evaluate_resolveAirwayRules twoWaypoints twoRules twoWaypointsContext (by decide) (by decide)
    (by decide)
  have free : ¬ exists rule, rule ∈ twoRules ∧ rule.action = .kBlock ∧
      rule.Matches twoWaypoints twoWaypointsContext.source twoWaypointsContext.edge := by decide
  have allowed := Bool.of_not_eq_false fun blocked => free (verdict.1.mp blocked)
  exact ⟨allowed, (verdict.2 allowed).trans (by decide)⟩

end BravoFinder
