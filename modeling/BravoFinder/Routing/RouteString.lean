import BravoFinder.Core.Route
import BravoFinder.Library.GreedySplit
import Mathlib.Data.List.Forall2

namespace BravoFinder

/-!
# Route strings

`BuildRouteString` lists an airway where it is joined or left and omits the
fixes between.  A segment may belong to several airways at once, so legs fold
together as long as one airway serves them all: the code grows a group while
the running intersection of the designator lists is not empty.

The blocks below say what a folded string claims about its legs, whatever the
code does to find them.
-/

variable {R : Type}

/-- The byte `-`, which separates the designators of a concurrency. -/
def kDesignatorSeparator : UInt8 := 45

/-- The loop of `SplitDesignators`, with the piece read so far.  Empty pieces
are dropped. -/
def splitPieces (piece : Text) : Text -> List Text
  | [] => if piece = [] then [] else [piece]
  | byte :: rest =>
      if byte = kDesignatorSeparator then
        if piece = [] then splitPieces [] rest else piece :: splitPieces [] rest
      else splitPieces (piece ++ [byte]) rest

def splitDesignators (via : Text) : List Text :=
  splitPieces [] via

/-- The names of `a` that also appear in `b`, in the order of `a`. -/
def intersect (a b : List Text) : List Text :=
  a.filter fun name => b.contains name

/-- What the inner loop of `BuildRouteString` ends with: the names that every
leg of the group shares, the legs that joined, and the legs after them. -/
structure LegGroup (R : Type) where
  running : List Text
  joined : List (RouteLeg R)
  rest : List (RouteLeg R)

/-- The inner loop.  A direct leg never joins. -/
def growGroup (running : List Text) : List (RouteLeg R) -> LegGroup R
  | [] => ⟨running, [], []⟩
  | next :: rest =>
      if next.via = kDctToken then ⟨running, [], next :: rest⟩
      else
        let inter := intersect running (splitDesignators next.via)
        if inter = [] then ⟨running, [], next :: rest⟩
        else
          let group := growGroup inter rest
          { group with joined := next :: group.joined }

/-- What becomes of a leg folded under a name. -/
def RouteLeg.foldedUnder (chosen : Text) (leg : RouteLeg R) : RouteLeg R :=
  { leg with
    via := chosen
    concurrentAirways :=
      if 1 < (splitDesignators leg.via).length then splitDesignators leg.via else [] }

theorem length_rest_growGroup (legs : List (RouteLeg R)) :
    forall running, (growGroup running legs).rest.length ≤ legs.length := by
  induction legs with
  | nil => exact fun _ => Nat.le_refl _
  | cons next legs inductionHypothesis =>
      intro running
      simp only [growGroup]
      split
      · exact Nat.le_refl _
      · split
        · exact Nat.le_refl _
        · exact Nat.le_succ_of_le (inductionHypothesis _)

/-- The outer loop: what it appends to the string, and the legs it leaves. -/
def foldLegs : List (RouteLeg R) -> Text × List (RouteLeg R)
  | [] => ([], [])
  | leg :: legs =>
      if leg.via = kDctToken then
        (ofString " DCT " ++ leg.toIdent ++ (foldLegs legs).1,
          { leg with concurrentAirways := [] } :: (foldLegs legs).2)
      else if splitDesignators leg.via = [] then
        -- Not a real airway: the leg is listed as direct, and keeps its field.
        (ofString " DCT " ++ leg.toIdent ++ (foldLegs legs).1,
          { leg with concurrentAirways := [] } :: (foldLegs legs).2)
      else
        let group := growGroup (splitDesignators leg.via) legs
        let chosen := group.running.headD []
        let later := foldLegs group.rest
        (ofString " " ++ chosen ++ ofString " " ++ (group.joined.getLastD leg).toIdent ++ later.1,
          (leg :: group.joined).map (RouteLeg.foldedUnder chosen) ++ later.2)
termination_by legs => legs.length
decreasing_by
  all_goals simp only [List.length_cons]
  · omega
  · omega
  · have := length_rest_growGroup legs (splitDesignators leg.via)
    omega

/-- The string, and the legs as the call leaves them. -/
def buildRouteString (firstPoint : Text) (legs : List (RouteLeg R)) : Text × List (RouteLeg R) :=
  (firstPoint ++ (foldLegs legs).1, (foldLegs legs).2)

/-! ## Designators -/

/-- A piece is not empty and has no separator in it. -/
theorem clean_of_mem_splitPieces {name : Text} (bytes : Text) :
    forall piece, kDesignatorSeparator ∉ piece -> name ∈ splitPieces piece bytes ->
      name ≠ [] ∧ kDesignatorSeparator ∉ name := by
  induction bytes with
  | nil =>
      intro piece clean member
      simp only [splitPieces] at member
      split at member
      · exact absurd member List.not_mem_nil
      · rename_i some
        rw [List.mem_singleton.mp member]
        exact ⟨some, clean⟩
  | cons byte bytes inductionHypothesis =>
      intro piece clean member
      simp only [splitPieces] at member
      split at member
      · split at member
        · exact inductionHypothesis [] List.not_mem_nil member
        · rename_i some
          rcases List.mem_cons.mp member with same | later
          · rw [same]
            exact ⟨some, clean⟩
          · exact inductionHypothesis [] List.not_mem_nil later
      · rename_i other
        refine inductionHypothesis _ (fun inside => ?_) member
        rcases List.mem_append.mp inside with before | last
        · exact clean before
        · exact other (List.mem_singleton.mp last).symm

theorem splitPieces_of_clean (bytes : Text) :
    forall piece, kDesignatorSeparator ∉ bytes -> piece ++ bytes ≠ [] ->
      splitPieces piece bytes = [piece ++ bytes] := by
  induction bytes with
  | nil =>
      intro piece _ some
      rw [List.append_nil] at some ⊢
      rw [splitPieces, if_neg some]
  | cons byte bytes inductionHypothesis =>
      intro piece clean _
      have other : byte ≠ kDesignatorSeparator := fun same => clean (same ▸ List.mem_cons_self)
      rw [splitPieces, if_neg other, inductionHypothesis _ (fun inside => clean (List.mem_cons_of_mem _ inside))
        (List.append_ne_nil_of_left_ne_nil (List.append_ne_nil_of_right_ne_nil _ (List.cons_ne_nil _ _)) _),
        List.append_assoc, List.singleton_append]

/-- A designator stands for itself alone. -/
theorem splitDesignators_of_mem {name via : Text} (member : name ∈ splitDesignators via) :
    splitDesignators name = [name] := by
  have clean := clean_of_mem_splitPieces via [] List.not_mem_nil member
  exact splitPieces_of_clean name [] clean.2 clean.1

theorem splitDesignators_kDctToken : splitDesignators kDctToken = [kDctToken] := by
  rw [kDctToken_eq]
  rfl

theorem mem_intersect {a b : List Text} {name : Text} : name ∈ intersect a b ↔ name ∈ a ∧ name ∈ b := by
  simp only [intersect, List.mem_filter, List.contains_iff_mem]

/-! ## Blocks -/

/-- Consecutive legs listed under one name. -/
structure RouteBlock (R : Type) where
  name : Text
  legs : List (RouteLeg R)
  legs_ne_nil : legs ≠ []

namespace RouteBlock

/-- The name and the fix of a block in the string. -/
def text (block : RouteBlock R) : Text :=
  ofString " " ++ block.name ++ ofString " " ++ (block.legs.getLast block.legs_ne_nil).toIdent

/-- The legs of a block after folding. -/
def folded (block : RouteBlock R) : List (RouteLeg R) :=
  block.legs.map (RouteLeg.foldedUnder block.name)

/-- The name is an airway of every leg, or the block is one leg that is direct
or has no designator, and is called direct. -/
def Sound (block : RouteBlock R) : Prop :=
  (block.name ≠ kDctToken ∧ forall leg, leg ∈ block.legs -> block.name ∈ splitDesignators leg.via) ∨
    (block.name = kDctToken ∧
      exists leg, block.legs = [leg] ∧ (leg.via = kDctToken ∨ splitDesignators leg.via = []))

end RouteBlock

/-- The legs of a list of blocks. -/
def blockLegs (blocks : List (RouteBlock R)) : List (RouteLeg R) :=
  (blocks.map RouteBlock.legs).flatten

/-- What `BuildRouteString` is for: some sound blocks with the given legs are
what the string lists and what the legs are rewritten to, no other sound blocks
are fewer, and folding again changes nothing. -/
def WellFolded (firstPoint : Text) (legs : List (RouteLeg R)) : Prop :=
  exists blocks : List (RouteBlock R),
    (forall block, block ∈ blocks -> block.Sound) ∧
      blockLegs blocks = legs ∧
      (buildRouteString firstPoint legs).1 = firstPoint ++ (blocks.map RouteBlock.text).flatten ∧
      (buildRouteString firstPoint legs).2 = (blocks.map RouteBlock.folded).flatten ∧
      (forall others : List (RouteBlock R), (forall block, block ∈ others -> block.Sound) ->
        blockLegs others = legs -> blocks.length ≤ others.length) ∧
      (buildRouteString firstPoint (buildRouteString firstPoint legs).2).1 =
        (buildRouteString firstPoint legs).1

/-- Wherever the running intersection of consecutive designator lists ends, its
first name is not `DCT`. -/
def EndsOnAirways (running : List Text) : List (RouteLeg R) -> Prop
  | [] => running.head? ≠ some kDctToken
  | next :: rest =>
      if next.via = kDctToken then running.head? ≠ some kDctToken ∧ EndsOnAirways [] rest
      else if intersect running (splitDesignators next.via) = [] then
        running.head? ≠ some kDctToken ∧ EndsOnAirways (splitDesignators next.via) rest
      else EndsOnAirways (intersect running (splitDesignators next.via)) rest

/-- Every leg has a designator, and no airway is called `DCT` where a group of
legs ends. -/
def FoldsOnAirways (legs : List (RouteLeg R)) : Prop :=
  (forall leg, leg ∈ legs -> splitDesignators leg.via ≠ []) ∧ EndsOnAirways [] legs

/-- A list of legs that one sound block could hold. -/
def FitsOneBlock (legs : List (RouteLeg R)) : Prop :=
  exists block : RouteBlock R, block.legs = legs ∧ block.Sound

namespace RouteBlock

/-- A direct leg shares no airway with any other. -/
theorem not_dct_of_mem {block : RouteBlock R} (sound : block.Sound) {leg : RouteLeg R}
    (member : leg ∈ block.legs) (airway : block.name ≠ kDctToken) : leg.via ≠ kDctToken := by
  intro direct
  rcases sound with ⟨_, shared⟩ | ⟨direct, _⟩
  · have named := shared leg member
    rw [direct, splitDesignators_kDctToken, List.mem_singleton] at named
    exact airway named
  · exact airway direct

/-- A part of a sound block is sound under the same name. -/
theorem Sound.part {block : RouteBlock R} (sound : block.Sound) {legs : List (RouteLeg R)}
    (some : legs ≠ []) (part : legs.Sublist block.legs) : FitsOneBlock legs := by
  refine ⟨⟨block.name, legs, some⟩, rfl, ?_⟩
  rcases sound with ⟨airway, shared⟩ | ⟨direct, leg, single, unnamed⟩
  · exact .inl ⟨airway, fun leg member => shared leg (part.subset member)⟩
  · rw [single] at part
    rcases List.sublist_singleton.mp part with none | whole
    · exact absurd none some
    · exact .inr ⟨direct, leg, whole, unnamed⟩

end RouteBlock

theorem cutClosed_fitsOneBlock : CutClosed (FitsOneBlock (R := R)) where
  front := by
    rintro legs rest some ⟨block, whole, sound⟩
    exact sound.part some (whole ▸ List.sublist_append_left legs rest)
  back := by
    rintro legs rest some ⟨block, whole, sound⟩
    exact sound.part some (whole ▸ List.sublist_append_right legs rest)

/-- Two legs fit one block only under an airway that both have. -/
theorem shared_of_fits {first next : RouteLeg R} {between : List (RouteLeg R)}
    (fits : FitsOneBlock (first :: between ++ [next])) :
    exists name, name ≠ kDctToken ∧
      forall leg, leg ∈ first :: between ++ [next] -> name ∈ splitDesignators leg.via := by
  rcases fits with ⟨block, whole, ⟨airway, shared⟩ | ⟨_, leg, single, _⟩⟩
  · exact ⟨block.name, airway, fun leg member => shared leg (whole ▸ member)⟩
  · have lengths := congrArg List.length (whole.symm.trans single)
    simp only [List.length_append, List.length_cons, List.length_nil] at lengths
    omega

/-! ## One group -/

theorem growGroup_split (legs : List (RouteLeg R)) :
    forall running, (growGroup running legs).joined ++ (growGroup running legs).rest = legs := by
  induction legs with
  | nil => exact fun _ => rfl
  | cons next legs inductionHypothesis =>
      intro running
      simp only [growGroup]
      split
      · rfl
      · split
        · rfl
        · rw [List.cons_append, inductionHypothesis]

/-- Folding rewrites the designators of the legs and nothing else. -/
theorem map_foldLegs {A : Type} {read : RouteLeg R -> A} (unread : forall (leg : RouteLeg R) via concurrentAirways,
    read { leg with via := via, concurrentAirways := concurrentAirways } = read leg) (legs : List (RouteLeg R)) :
    (foldLegs legs).2.map read = legs.map read := by
  induction legs using foldLegs.induct with
  | case1 => rw [foldLegs]
  | case2 leg legs direct inductionHypothesis =>
      rw [foldLegs, if_pos direct, List.map_cons, List.map_cons, inductionHypothesis]
      exact congrArg (· :: _) (unread leg leg.via [])
  | case3 leg legs airway unnamed inductionHypothesis =>
      rw [foldLegs, if_neg airway, if_pos unnamed, List.map_cons, List.map_cons, inductionHypothesis]
      exact congrArg (· :: _) (unread leg leg.via [])
  | case4 leg legs airway named group inductionHypothesis =>
      have same : forall chosen, read ∘ RouteLeg.foldedUnder chosen = read := fun chosen =>
        funext fun leg => unread leg chosen _
      rw [foldLegs, if_neg airway, if_neg named, List.map_append, List.map_map, same, inductionHypothesis,
        ← List.map_append, List.cons_append, growGroup_split]

/-- The names that are left are those that every leg of the group has. -/
theorem mem_running_growGroup {name : Text} (legs : List (RouteLeg R)) :
    forall running, name ∈ (growGroup running legs).running ↔
      name ∈ running ∧ forall leg, leg ∈ (growGroup running legs).joined -> name ∈ splitDesignators leg.via := by
  induction legs with
  | nil => exact fun running => ⟨fun member => ⟨member, fun _ none => absurd none List.not_mem_nil⟩, And.left⟩
  | cons next legs inductionHypothesis =>
      intro running
      simp only [growGroup]
      split
      · exact ⟨fun member => ⟨member, fun _ none => absurd none List.not_mem_nil⟩, And.left⟩
      · split
        · exact ⟨fun member => ⟨member, fun _ none => absurd none List.not_mem_nil⟩, And.left⟩
        · rw [inductionHypothesis, mem_intersect]
          simp only [List.forall_mem_cons, and_assoc]

theorem running_growGroup_ne_nil (legs : List (RouteLeg R)) :
    forall running, running ≠ [] -> (growGroup running legs).running ≠ [] := by
  induction legs with
  | nil => exact fun _ some => some
  | cons next legs inductionHypothesis =>
      intro running some
      simp only [growGroup]
      split
      · exact some
      · split
        · exact some
        · rename_i shared
          exact inductionHypothesis _ shared

/-- A group ends before a direct leg, or before one that shares no name. -/
theorem growGroup_full (legs : List (RouteLeg R)) :
    forall running next later, (growGroup running legs).rest = next :: later ->
      next.via = kDctToken ∨ intersect (growGroup running legs).running (splitDesignators next.via) = [] := by
  induction legs with
  | nil => exact fun _ _ _ none => nomatch none
  | cons first legs inductionHypothesis =>
      intro running next later rest
      simp only [growGroup] at rest ⊢
      split at rest
      · rename_i direct
        rw [List.cons.injEq] at rest
        exact .inl (rest.1 ▸ direct)
      · rename_i airway
        rw [if_neg airway]
        split at rest
        · rename_i apart
          rw [List.cons.injEq] at rest
          rw [if_pos apart]
          exact .inr (rest.1 ▸ apart)
        · rename_i shared
          rw [if_neg shared]
          exact inductionHypothesis _ next later rest

theorem endsOnAirways_growGroup (legs : List (RouteLeg R)) :
    forall running, EndsOnAirways running legs ↔
      (growGroup running legs).running.head? ≠ some kDctToken ∧ EndsOnAirways [] (growGroup running legs).rest := by
  induction legs with
  | nil =>
      intro running
      simp only [EndsOnAirways, growGroup, List.head?_nil, ne_eq, reduceCtorEq, not_false_eq_true, and_true]
  | cons next legs inductionHypothesis =>
      intro running
      simp only [EndsOnAirways, growGroup]
      split
      · rename_i direct
        simp only [EndsOnAirways, if_pos direct, List.head?_nil, ne_eq, reduceCtorEq, not_false_eq_true, true_and]
      · rename_i airway
        split
        · have none : intersect [] (splitDesignators next.via) = [] := rfl
          simp only [EndsOnAirways, if_neg airway, if_pos none, List.head?_nil, ne_eq, reduceCtorEq,
            not_false_eq_true, true_and]
        · exact inductionHypothesis _

/-! ## All groups -/

/-- The outer loop cut the legs into these blocks, each as long as it can be. -/
structure FoldsInto (legs : List (RouteLeg R)) (blocks : List (RouteBlock R)) : Prop where
  sound : forall block, block ∈ blocks -> block.Sound
  legs_eq : blockLegs blocks = legs
  text_eq : (foldLegs legs).1 = (blocks.map RouteBlock.text).flatten
  folded_eq : (foldLegs legs).2 = (blocks.map RouteBlock.folded).flatten
  greedy : GreedySplit FitsOneBlock (blocks.map RouteBlock.legs)

theorem dct_text : ofString " DCT " = ofString " " ++ kDctToken ++ ofString " " := by
  decide +kernel

theorem foldedUnder_of_direct {leg : RouteLeg R} (direct : leg.via = kDctToken) :
    leg.foldedUnder kDctToken = { leg with concurrentAirways := [] } := by
  rw [RouteLeg.foldedUnder, direct, splitDesignators_kDctToken, List.length_singleton, if_neg (Nat.lt_irrefl 1),
    ← direct]

theorem foldLegs_group {leg : RouteLeg R} {legs : List (RouteLeg R)} {chosen : Text} {others : List Text}
    (airway : leg.via ≠ kDctToken) (some : splitDesignators leg.via ≠ [])
    (ends : (growGroup (splitDesignators leg.via) legs).running = chosen :: others) :
    foldLegs (leg :: legs) =
      (ofString " " ++ chosen ++ ofString " " ++
          ((growGroup (splitDesignators leg.via) legs).joined.getLastD leg).toIdent ++
          (foldLegs (growGroup (splitDesignators leg.via) legs).rest).1,
        (leg :: (growGroup (splitDesignators leg.via) legs).joined).map (RouteLeg.foldedUnder chosen) ++
          (foldLegs (growGroup (splitDesignators leg.via) legs).rest).2) := by
  rw [foldLegs, if_neg airway, if_neg some]
  simp only [ends, List.headD_cons]

/-- A direct leg is a block of its own. -/
theorem FoldsInto.direct {leg : RouteLeg R} {legs : List (RouteLeg R)} {blocks : List (RouteBlock R)}
    (direct : leg.via = kDctToken) (later : FoldsInto legs blocks) :
    FoldsInto (leg :: legs) (⟨kDctToken, [leg], List.cons_ne_nil _ _⟩ :: blocks) where
  sound := by
    rintro block (_ | ⟨_, member⟩)
    · exact .inr ⟨rfl, leg, rfl, .inl direct⟩
    · exact later.sound block member
  legs_eq := by
    rw [blockLegs, List.map_cons, List.flatten_cons, ← blockLegs, later.legs_eq, List.singleton_append]
  text_eq := by
    rw [foldLegs, if_pos direct, later.text_eq, dct_text]
    rfl
  folded_eq := by
    rw [foldLegs, if_pos direct, later.folded_eq, List.map_cons, List.flatten_cons, RouteBlock.folded,
      List.map_singleton, foldedUnder_of_direct direct, List.singleton_append]
  greedy := by
    refine .cons (List.cons_ne_nil _ _) (fun next rest _ fits => ?_) later.greedy
    rcases @shared_of_fits _ leg next [] fits with ⟨name, airway, shared⟩
    have named := shared leg List.mem_cons_self
    rw [direct, splitDesignators_kDctToken, List.mem_singleton] at named
    exact airway named

/-- A group that ends under an airway is a block. -/
theorem FoldsInto.group {leg : RouteLeg R} {legs : List (RouteLeg R)} {blocks : List (RouteBlock R)}
    {chosen : Text} {others : List Text} (airway : leg.via ≠ kDctToken) (some : splitDesignators leg.via ≠ [])
    (ends : (growGroup (splitDesignators leg.via) legs).running = chosen :: others)
    (named : chosen ≠ kDctToken)
    (later : FoldsInto (growGroup (splitDesignators leg.via) legs).rest blocks) :
    FoldsInto (leg :: legs)
      (⟨chosen, leg :: (growGroup (splitDesignators leg.via) legs).joined, List.cons_ne_nil _ _⟩ :: blocks) where
  sound := by
    rintro block (_ | ⟨_, member⟩)
    · have shared := (mem_running_growGroup legs _).mp (ends ▸ List.mem_cons_self)
      exact .inl ⟨named, List.forall_mem_cons.mpr shared⟩
    · exact later.sound block member
  legs_eq := by
    rw [blockLegs, List.map_cons, List.flatten_cons, ← blockLegs, later.legs_eq, List.cons_append,
      growGroup_split]
  text_eq := by
    rw [foldLegs_group airway some ends, later.text_eq]
    simp only [List.map_cons, List.flatten_cons, RouteBlock.text, List.getLast_eq_getLastD]
  folded_eq := by
    rw [foldLegs_group airway some ends, later.folded_eq]
    simp only [List.map_cons, List.flatten_cons, RouteBlock.folded]
  greedy := by
    refine .cons (List.cons_ne_nil _ _) (fun next rest starts fits => ?_) later.greedy
    have whole : (growGroup (splitDesignators leg.via) legs).rest = next :: rest := by
      rw [← later.legs_eq]
      exact starts
    rcases shared_of_fits fits with ⟨name, other, shared⟩
    have named : name ∈ splitDesignators next.via := shared next (List.mem_append_right _ List.mem_cons_self)
    rcases growGroup_full legs _ next rest whole with direct | apart
    · rw [direct, splitDesignators_kDctToken, List.mem_singleton] at named
      exact other named
    · have left : name ∈ (growGroup (splitDesignators leg.via) legs).running := by
        rw [mem_running_growGroup]
        exact List.forall_mem_cons.mp fun member inside => shared member (List.mem_append_left _ inside)
      have both := mem_intersect.mpr ⟨left, named⟩
      rw [apart] at both
      exact List.not_mem_nil both

theorem FoldsOnAirways.rest_growGroup {leg : RouteLeg R} {legs : List (RouteLeg R)}
    (airway : leg.via ≠ kDctToken) (folds : FoldsOnAirways (leg :: legs)) :
    (growGroup (splitDesignators leg.via) legs).running.head? ≠ some kDctToken ∧
      FoldsOnAirways (growGroup (splitDesignators leg.via) legs).rest := by
  have none : intersect [] (splitDesignators leg.via) = [] := rfl
  have ends := folds.2
  rw [EndsOnAirways, if_neg airway, if_pos none, endsOnAirways_growGroup legs] at ends
  refine ⟨ends.2.1, fun later member => folds.1 later (List.mem_cons_of_mem _ ?_), ends.2.2⟩
  rw [← growGroup_split legs (splitDesignators leg.via)]
  exact List.mem_append_right _ member

theorem exists_foldsInto (legs : List (RouteLeg R)) :
    FoldsOnAirways legs -> exists blocks, FoldsInto legs blocks := by
  fun_induction foldLegs legs with
  | case1 =>
      intro _
      refine ⟨[], fun _ none => absurd none List.not_mem_nil, rfl, ?_, ?_, .nil⟩
      · rw [foldLegs]
        rfl
      · rw [foldLegs]
        rfl
  | case2 leg legs direct inductionHypothesis =>
      intro folds
      have ends := folds.2
      rw [EndsOnAirways, if_pos direct] at ends
      rcases inductionHypothesis ⟨fun later member => folds.1 later (List.mem_cons_of_mem _ member), ends.2⟩
        with ⟨blocks, later⟩
      exact ⟨_, later.direct direct⟩
  | case3 leg legs airway none inductionHypothesis =>
      intro folds
      exact absurd none (folds.1 leg List.mem_cons_self)
  | case4 leg legs airway some group chosen later inductionHypothesis =>
      intro folds
      have rest := folds.rest_growGroup airway
      rcases inductionHypothesis rest.2 with ⟨blocks, later⟩
      cases ends : (growGroup (splitDesignators leg.via) legs).running with
      | nil => exact absurd ends (running_growGroup_ne_nil legs _ some)
      | cons first others =>
          have named : first ≠ kDctToken := fun same => rest.1 (by rw [ends, same]; rfl)
          exact ⟨_, FoldsInto.group airway some ends named later⟩

/-! ## Folding again -/

theorem growGroup_of_via {name : Text} (alone : splitDesignators name = [name]) (airway : name ≠ kDctToken)
    {rest : List (RouteLeg R)}
    (stops : forall next later, rest = next :: later ->
      next.via = kDctToken ∨ intersect [name] (splitDesignators next.via) = [])
    (legs : List (RouteLeg R)) :
    (forall leg, leg ∈ legs -> leg.via = name) -> growGroup [name] (legs ++ rest) = ⟨[name], legs, rest⟩ := by
  induction legs with
  | nil =>
      intro _
      cases rest with
      | nil => rfl
      | cons next later =>
          rw [List.nil_append, growGroup]
          rcases stops next later rfl with direct | apart
          · rw [if_pos direct]
          · rw [if_pos apart]
            split <;> rfl
  | cons leg legs inductionHypothesis =>
      intro named
      have via := named leg List.mem_cons_self
      have kept : intersect [name] [name] = [name] := by
        rw [intersect, List.filter_cons_of_pos (by rw [List.contains_iff_mem]; exact List.mem_cons_self)]
        rfl
      rw [List.cons_append, growGroup, via, if_neg airway, alone, kept, if_neg (List.cons_ne_nil _ _),
        inductionHypothesis fun later member => named later (List.mem_cons_of_mem _ member)]

namespace RouteBlock

theorem via_of_mem_folded {block : RouteBlock R} {leg : RouteLeg R} (member : leg ∈ block.folded) :
    leg.via = block.name := by
  rcases List.mem_map.mp member with ⟨original, _, rfl⟩
  rfl

theorem folded_ne_nil (block : RouteBlock R) : block.folded ≠ [] :=
  fun none => block.legs_ne_nil (List.map_eq_nil_iff.mp none)

theorem getLast_folded (block : RouteBlock R) :
    (block.folded.getLast block.folded_ne_nil).toIdent = (block.legs.getLast block.legs_ne_nil).toIdent := by
  simp only [folded, List.getLast_map, RouteLeg.foldedUnder]

theorem Sound.alone {block : RouteBlock R} (sound : block.Sound) (airway : block.name ≠ kDctToken) :
    splitDesignators block.name = [block.name] := by
  rcases sound with ⟨_, shared⟩ | ⟨direct, _⟩
  · exact splitDesignators_of_mem (shared _ (List.getLast_mem block.legs_ne_nil))
  · exact absurd direct airway

/-- A block whose list is full is not followed by one of the same airway. -/
theorem name_ne_of_full {block following : RouteBlock R} (sound : block.Sound) (soundFollowing : following.Sound)
    (airway : block.name ≠ kDctToken) {rest : List (RouteLeg R)}
    (full : forall next later, following.legs ++ rest = next :: later -> ¬ FitsOneBlock (block.legs ++ [next])) :
    following.name ≠ block.name := by
  intro same
  rcases List.exists_cons_of_ne_nil following.legs_ne_nil with ⟨next, later, whole⟩
  rcases sound with ⟨_, shared⟩ | ⟨direct, _⟩
  · rcases soundFollowing with ⟨_, sharedFollowing⟩ | ⟨directFollowing, _⟩
    · refine full next (later ++ rest) (by rw [whole, List.cons_append]) ?_
      refine ⟨⟨block.name, block.legs ++ [next], List.append_ne_nil_of_left_ne_nil block.legs_ne_nil _⟩, rfl,
        .inl ⟨airway, fun leg member => ?_⟩⟩
      rcases List.mem_append.mp member with before | last
      · exact shared leg before
      · rw [List.mem_singleton.mp last, ← same]
        exact sharedFollowing next (whole ▸ List.mem_cons_self)
    · exact airway (same ▸ directFollowing)
  · exact airway direct

end RouteBlock

/-- What follows a full block does not join it when the legs are folded again. -/
theorem stops_after_full {block : RouteBlock R} {blocks : List (RouteBlock R)} (sound : block.Sound)
    (soundLater : forall later, later ∈ blocks -> later.Sound) (airway : block.name ≠ kDctToken)
    (full : forall next later, (blocks.map RouteBlock.legs).flatten = next :: later ->
      ¬ FitsOneBlock (block.legs ++ [next])) (next : RouteLeg R) (rest : List (RouteLeg R))
    (starts : (blocks.map RouteBlock.folded).flatten = next :: rest) :
    next.via = kDctToken ∨ intersect [block.name] (splitDesignators next.via) = [] := by
  cases blocks with
  | nil => cases starts
  | cons following blocks =>
      rcases List.exists_cons_of_ne_nil following.folded_ne_nil with ⟨first, others, front⟩
      rw [List.map_cons, List.flatten_cons, front, List.cons_append, List.cons.injEq] at starts
      have named : next.via = following.name :=
        RouteBlock.via_of_mem_folded (starts.1 ▸ front ▸ List.mem_cons_self)
      have soundFollowing := soundLater following List.mem_cons_self
      by_cases direct : following.name = kDctToken
      · exact .inl (named.trans direct)
      · have different := RouteBlock.name_ne_of_full sound soundFollowing airway full
        rw [named, soundFollowing.alone direct]
        refine .inr (List.filter_eq_nil_iff.mpr fun name member => ?_)
        rw [List.mem_singleton.mp member, List.contains_iff_mem, List.mem_singleton]
        exact fun same => different same.symm

/-- Blocks cut greedily are found again in the rewritten legs. -/
theorem foldLegs_folded {blocks : List (RouteBlock R)} :
    (forall block, block ∈ blocks -> block.Sound) -> GreedySplit FitsOneBlock (blocks.map RouteBlock.legs) ->
      (foldLegs (blocks.map RouteBlock.folded).flatten).1 = (blocks.map RouteBlock.text).flatten := by
  induction blocks with
  | nil =>
      intro _ _
      rw [List.map_nil, List.flatten_nil, foldLegs]
      rfl
  | cons block blocks inductionHypothesis =>
      intro sound greedy
      have soundBlock := sound block List.mem_cons_self
      have soundLater : forall later, later ∈ blocks -> later.Sound :=
        fun later member => sound later (List.mem_cons_of_mem _ member)
      cases greedy with
      | cons nonempty full later =>
          have again := inductionHypothesis soundLater later
          rw [List.map_cons, List.flatten_cons, List.map_cons, List.flatten_cons, ← again, RouteBlock.text,
            ← block.getLast_folded]
          rcases List.exists_cons_of_ne_nil block.folded_ne_nil with ⟨leg, legs, whole⟩
          have via : forall member, member ∈ leg :: legs -> member.via = block.name :=
            fun member inside => RouteBlock.via_of_mem_folded (whole ▸ inside)
          by_cases airway : block.name = kDctToken
          · rcases soundBlock with ⟨named, _⟩ | ⟨_, original, single, _⟩
            · exact absurd airway named
            · have short := whole
              rw [RouteBlock.folded, single, List.map_singleton, List.cons.injEq] at short
              rw [List.getLast_congr _ (List.cons_ne_nil _ _) whole]
              rw [whole, ← short.2, List.singleton_append, foldLegs,
                if_pos ((via leg List.mem_cons_self).trans airway), dct_text, airway, List.getLast_singleton]
          · have alone := soundBlock.alone airway
            have some : splitDesignators leg.via ≠ [] := by
              rw [via leg List.mem_cons_self, alone]
              exact List.cons_ne_nil _ _
            have group : growGroup (splitDesignators leg.via) (legs ++ (blocks.map RouteBlock.folded).flatten) =
                ⟨[block.name], legs, (blocks.map RouteBlock.folded).flatten⟩ := by
              rw [via leg List.mem_cons_self, alone]
              exact growGroup_of_via alone airway (stops_after_full soundBlock soundLater airway full) legs
                fun member inside => via member (List.mem_cons_of_mem _ inside)
            have ends := congrArg LegGroup.running group
            rw [List.getLast_congr _ (List.cons_ne_nil _ _) whole, whole, List.cons_append,
              foldLegs_group ((via leg List.mem_cons_self).trans_ne airway) some ends, group,
              List.getLast_eq_getLastD]

theorem FoldsInto.wellFolded {legs : List (RouteLeg R)} {blocks : List (RouteBlock R)}
    (folds : FoldsInto legs blocks) (firstPoint : Text) : WellFolded firstPoint legs := by
  refine ⟨blocks, folds.sound, folds.legs_eq, ?_, folds.folded_eq, fun others sound same => ?_, ?_⟩
  · rw [buildRouteString, folds.text_eq]
  · have good : forall other, other ∈ others.map RouteBlock.legs -> FitsOneBlock other := by
      intro other member
      rcases List.mem_map.mp member with ⟨block, inside, rfl⟩
      exact ⟨block, rfl, sound block inside⟩
    have covered : (others.map RouteBlock.legs).flatten = [] ++ (blocks.map RouteBlock.legs).flatten :=
      same.trans folds.legs_eq.symm
    have fewer := folds.greedy.length_le cutClosed_fitsOneBlock good covered
    rwa [List.length_map, List.length_map] at fewer
  · simp only [buildRouteString, folds.folded_eq, foldLegs_folded folds.sound folds.greedy, folds.text_eq]

/-! ## What the rewritten legs tell -/

/-- A leg is rewritten to a direct one exactly when it is direct, or has no
designator. -/
def RewrittenSoundly (leg after : RouteLeg R) : Prop :=
  after.via = kDctToken ↔ leg.via = kDctToken ∨ splitDesignators leg.via = []

theorem RouteBlock.Sound.rewritten {block : RouteBlock R} (sound : block.Sound) :
    List.Forall₂ RewrittenSoundly block.legs block.folded := by
  rw [RouteBlock.folded, List.forall₂_map_right_iff, List.forall₂_same]
  intro leg member
  rcases sound with ⟨airway, shared⟩ | ⟨direct, original, single, unnamed⟩
  · refine ⟨fun same => absurd same airway, ?_⟩
    rintro (same | none)
    · exact absurd same (block.not_dct_of_mem (.inl ⟨airway, shared⟩) member airway)
    · exact absurd (none ▸ shared leg member) List.not_mem_nil
  · rw [single, List.mem_singleton] at member
    exact ⟨fun _ => member ▸ unnamed, fun _ => direct⟩

theorem rewritten_of_sound {blocks : List (RouteBlock R)} (sound : forall block, block ∈ blocks -> block.Sound) :
    List.Forall₂ RewrittenSoundly (blockLegs blocks) (blocks.map RouteBlock.folded).flatten := by
  refine List.rel_flatten ?_
  rw [List.forall₂_map_left_iff, List.forall₂_map_right_iff, List.forall₂_same]
  exact fun block member => (sound block member).rewritten

/-- Legs that are rewritten soundly have designators, and no group of them ends
under the name of a direct leg. -/
theorem foldsOnAirways_of_rewritten (legs : List (RouteLeg R)) :
    List.Forall₂ RewrittenSoundly legs (foldLegs legs).2 -> FoldsOnAirways legs := by
  fun_induction foldLegs legs with
  | case1 =>
      intro _
      refine ⟨fun _ none => absurd none List.not_mem_nil, fun same => ?_⟩
      cases same
  | case2 leg legs direct inductionHypothesis =>
      intro rewritten
      rcases List.forall₂_cons.mp rewritten with ⟨_, later⟩
      have folds := inductionHypothesis later
      refine ⟨List.forall_mem_cons.mpr ⟨?_, folds.1⟩, ?_⟩
      · rw [direct, splitDesignators_kDctToken]
        exact List.cons_ne_nil _ _
      · rw [EndsOnAirways, if_pos direct]
        exact ⟨nofun, folds.2⟩
  | case3 leg legs airway none inductionHypothesis =>
      intro rewritten
      rcases List.forall₂_cons.mp rewritten with ⟨first, _⟩
      exact absurd (first.mpr (.inr none)) airway
  | case4 leg legs airway some group chosen later inductionHypothesis =>
      intro rewritten
      have front := (List.forall₂_cons.mp rewritten).1
      have back := List.forall₂_drop_append _ _ _ rewritten
      rw [List.length_map, List.length_cons, List.drop_succ_cons,
        ← growGroup_split legs (splitDesignators leg.via), List.drop_left] at back
      have folds := inductionHypothesis back
      cases ends : (growGroup (splitDesignators leg.via) legs).running with
      | nil => exact absurd ends (running_growGroup_ne_nil legs _ some)
      | cons first others =>
          have shared := ((mem_running_growGroup legs (splitDesignators leg.via)).mp
            (ends ▸ List.mem_cons_self : first ∈ _)).2
          have named : first ≠ kDctToken := by
            intro same
            have renamed : chosen = kDctToken := by
              rw [← same]
              exact congrArg (List.headD · []) ends
            rcases front.mp renamed with direct | none
            · exact airway direct
            · exact some none
          refine ⟨List.forall_mem_cons.mpr ⟨some, fun member inside => ?_⟩, ?_⟩
          · rw [← growGroup_split legs (splitDesignators leg.via)] at inside
            rcases List.mem_append.mp inside with joined | behind
            · exact List.ne_nil_of_mem (shared member joined)
            · exact folds.1 member behind
          · have none : intersect [] (splitDesignators leg.via) = [] := rfl
            rw [EndsOnAirways, if_neg airway, if_pos none, endsOnAirways_growGroup legs, ends]
            exact ⟨nofun, fun same => named (Option.some.inj same), folds.2⟩

theorem WellFolded.foldsOnAirways {firstPoint : Text} {legs : List (RouteLeg R)}
    (wellFolded : WellFolded firstPoint legs) : FoldsOnAirways legs := by
  rcases wellFolded with ⟨blocks, sound, same, _, folded, _, _⟩
  have rewritten := rewritten_of_sound sound
  rw [same, ← folded] at rewritten
  exact foldsOnAirways_of_rewritten legs rewritten

/-- The string lists the legs in sound blocks, as few as possible, exactly when
every leg has a designator and no group ends under the name `DCT`. -/
theorem buildRouteString_wellFolded_iff (firstPoint : Text) (legs : List (RouteLeg R)) :
    WellFolded firstPoint legs ↔ FoldsOnAirways legs := by
  refine ⟨WellFolded.foldsOnAirways, fun folds => ?_⟩
  rcases exists_foldsInto legs folds with ⟨blocks, cut⟩
  exact cut.wellFolded firstPoint

/-- A leg whose field is empty is listed as direct, and keeps its empty field. -/
theorem not_wellFolded_of_empty_via :
    ¬ WellFolded (R := Nat) [65] [⟨[65], [66], [], 0, []⟩] :=
  fun wellFolded => wellFolded.foldsOnAirways.1 _ List.mem_cons_self rfl

end BravoFinder
