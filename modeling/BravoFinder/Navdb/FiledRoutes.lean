import BravoFinder.Navdb.ParsedRoutes

namespace BravoFinder

/-!
# The language of filed routes

`ParseRoute` peels connectors off both ends of the tokens and then reads fixes
and connectors in turn.  The language that results is not the same at both ends:
a published name or `SID` may stand before the first fix, or a `DCT`, but both a
name or `STAR` and a `DCT` may stand behind the last one.
-/

namespace NavDatabase

variable {R : Type} [Field R] [LinearOrder R]

/-! ## The ends -/

/-- A token is the keyword for the procedures of an airport, or the name of one. -/
def NamesProcedure (db : NavDatabase R) (icao keyword : Text) (type : ProcedureType) (token : Text) : Prop :=
  token = keyword ∨ db.airportHasProcedure icao token type = .ok true

/-- A token is known not to name a procedure. -/
def NamesNoProcedure (db : NavDatabase R) (icao keyword : Text) (type : ProcedureType) (token : Text) : Prop :=
  token ≠ keyword ∧ db.airportHasProcedure icao token type = .ok false

/-- The name that is kept of a procedure. -/
def procedureName (keyword token : Text) : Text :=
  if token = keyword then [] else token

/-- What stands between an airport and the first fix: the tokens, the name of the
procedure, and whether there is one. -/
inductive DepartureEnd (db : NavDatabase R) (airport : Text) : List Text -> Text -> Bool -> Prop
  | sid {token : Text} : db.NamesProcedure airport kSidToken .kSid token ->
      DepartureEnd db airport [token] (procedureName kSidToken token) true
  | direct : db.NamesNoProcedure airport kSidToken .kSid kDctToken -> DepartureEnd db airport [kDctToken] [] false

/-- What stands between the last fix and an airport.  Behind a procedure a `DCT`
may follow, which says nothing. -/
inductive ArrivalEnd (db : NavDatabase R) (airport lastFix : Text) : List Text -> Text -> Bool -> Prop
  | star {token : Text} : db.NamesProcedure airport kStarToken .kStar token -> token ≠ kDctToken ->
      ArrivalEnd db airport lastFix [token] (procedureName kStarToken token) true
  | starDirect {token : Text} : db.NamesProcedure airport kStarToken .kStar token ->
      ArrivalEnd db airport lastFix [token, kDctToken] (procedureName kStarToken token) true
  | direct : db.NamesNoProcedure airport kStarToken .kStar lastFix -> ArrivalEnd db airport lastFix [kDctToken] [] false

/-- The route that is read off what was flown between two airports. -/
def flownRoute (db : NavDatabase R) (depAirport arrAirport : Text) (ends : Ends) (vertices : List Int)
    (legs : List (RouteLeg R)) : Route R :=
  db.joinAirports depAirport arrAirport ends
    { points := vertices.map db.pointAt
      legs := legs
      totalDistanceNm := (legs.map RouteLeg.distanceNm).sum
      pointVertices := vertices
      prevVertex := vertices.getLastD (-1)
      ref := db.builder.graph.coordOf (vertices.getLastD (-1))
      expectFix := false
      pendingConnector := [] }

/-- The tokens between two airports, and the routes they stand for. -/
inductive FiledRoute (db : NavDatabase R) (depAirport arrAirport : Text) : List Text -> Route R -> Prop
  /-- Of three `DCT` the outer two are taken for connectors, and of two the second. -/
  | direct {more : Nat} : more < 3 -> db.NamesNoProcedure depAirport kSidToken .kSid kDctToken ->
      db.NamesNoProcedure arrAirport kStarToken .kStar kDctToken ->
        FiledRoute db depAirport arrAirport (List.replicate (more + 1) kDctToken) (db.directRoute depAirport arrAirport)
  | flown {front middle back : List Text} {lastFix : Text} {vertices : List Int} {legs : List (RouteLeg R)}
      {sidName starName : Text} {depViaSid arrViaStar : Bool} :
      DepartureEnd db depAirport front sidName depViaSid ->
        Flown db (db.builder.graph.coordOf (db.builder.vertexByAirport depAirport)) middle vertices legs ->
          middle.getLast? = some lastFix -> ArrivalEnd db arrAirport lastFix back starName arrViaStar ->
            ¬ (middle = [kDctToken] ∧ depViaSid = false ∧ arrViaStar = false) ->
              FiledRoute db depAirport arrAirport (front ++ middle ++ back)
                (db.flownRoute depAirport arrAirport
                  ⟨middle, sidName, depViaSid, true, starName, arrViaStar, true⟩ vertices legs)

/-- A whole route: two known airports and what stands between them. -/
def Files (db : NavDatabase R) (tokens : List Text) (route : Route R) : Prop :=
  exists depAirport between arrAirport, tokens = depAirport :: between ++ [arrAirport] ∧
    0 ≤ db.builder.vertexByAirport depAirport ∧ 0 ≤ db.builder.vertexByAirport arrAirport ∧
      FiledRoute db depAirport arrAirport between route

variable {db : NavDatabase R}

/-! ## Peeling -/

section Peeling

variable {icao keyword token name : Text} {type : ProcedureType} {has : Bool}

theorem NamesProcedure.take (names : db.NamesProcedure icao keyword type token) :
    db.takeProcedure icao keyword type (some token) = .ok (procedureName keyword token, true) := by
  unfold takeProcedure procedureName
  by_cases isKeyword : token = keyword
  · simp only [isKeyword, if_true]
  · simp only [isKeyword, if_false, names.resolve_left isKeyword, if_true]

theorem NamesNoProcedure.take (names : db.NamesNoProcedure icao keyword type token) :
    db.takeProcedure icao keyword type (some token) = .ok ([], false) := by
  unfold takeProcedure
  simp only [names.1, if_false, names.2, Bool.false_eq_true]

/-- What taking a procedure found out about the token. -/
theorem takeProcedure_eq_ok (took : db.takeProcedure icao keyword type (some token) = .ok (name, has)) :
    (has = true ∧ name = procedureName keyword token ∧ db.NamesProcedure icao keyword type token) ∨
      (has = false ∧ name = [] ∧ db.NamesNoProcedure icao keyword type token) := by
  unfold takeProcedure at took
  unfold procedureName
  dsimp only at took
  split at took
  next isKeyword =>
    cases took
    exact .inl ⟨rfl, (if_pos isKeyword).symm, .inl isKeyword⟩
  next isName =>
    split at took
    · cases took
    next found answer =>
      cases found with
      | true =>
          cases took
          exact .inl ⟨rfl, (if_neg isName).symm, .inr answer⟩
      | false =>
          cases took
          exact .inr ⟨rfl, rfl, isName, answer⟩

theorem takeProcedure_true {token : Option Text}
    (took : db.takeProcedure icao keyword type token = .ok (name, true)) :
    exists given, token = some given ∧ name = procedureName keyword given ∧
      db.NamesProcedure icao keyword type given := by
  cases token with
  | none => cases took
  | some given =>
      rcases takeProcedure_eq_ok took with ⟨_, named, names⟩ | ⟨absurdity, _⟩
      · exact ⟨given, rfl, named, names⟩
      · cases absurdity

theorem takeProcedure_false (took : db.takeProcedure icao keyword type (some token) = .ok (name, false)) :
    name = [] ∧ db.NamesNoProcedure icao keyword type token := by
  rcases takeProcedure_eq_ok took with ⟨absurdity, _⟩ | ⟨_, rest⟩
  · cases absurdity
  · exact rest

end Peeling

section Ends

variable {depAirport arrAirport lastFix sidName starName : Text} {front middle back tokens : List Text}
  {depViaSid arrViaStar : Bool} {ends : Ends}

/-- Whether the `DCT` before the arrival airport is consumed. -/
def endsDirect (tokens : List Text) : Bool :=
  decide (1 < tokens.length) && tokens.getLast? == some kDctToken

/-- The last part of `recognizeEnds`, from where the departure is recognised. -/
def peelArrival (db : NavDatabase R) (arrAirport sidName : Text) (depViaSid depExplicit arrDct : Bool)
    (tokens : List Text) : Except Error Ends :=
  match db.takeProcedure arrAirport kStarToken .kStar tokens.getLast? with
  | .error error => .error error
  | .ok (starName, arrViaStar) => .ok ⟨if arrViaStar then tokens.dropLast else tokens, sidName, depViaSid, depExplicit,
      starName, arrViaStar, arrDct || arrViaStar⟩

/-- What follows the consumed `DCT` in `recognizeEnds`. -/
def peelEnds (db : NavDatabase R) (depAirport arrAirport : Text) (arrDct : Bool) (tokens : List Text) :
    Except Error Ends :=
  match db.takeProcedure depAirport kSidToken .kSid tokens.head? with
  | .error error => .error error
  | .ok (sidName, depViaSid) =>
      let middle := if depViaSid then tokens.tail else tokens
      let depDct := !depViaSid && middle.head? == some kDctToken && decide (1 < middle.length)
      db.peelArrival arrAirport sidName depViaSid (depViaSid || depDct) arrDct (if depDct then middle.tail else middle)

theorem recognizeEnds_eq (db : NavDatabase R) (depAirport arrAirport : Text) (tokens : List Text) :
    db.recognizeEnds depAirport arrAirport tokens = db.peelEnds depAirport arrAirport (endsDirect tokens)
      (if endsDirect tokens then tokens.dropLast else tokens) := rfl

theorem endsDirect_concat (first : Text) (tokens : List Text) (last : Text) :
    endsDirect (first :: tokens ++ [last]) = (last == kDctToken) := by
  have long : 1 < (first :: tokens ++ [last]).length := by simp
  rw [endsDirect, decide_eq_true long, Bool.true_and, List.getLast?_concat]
  rfl

theorem eq_of_endsDirect (consumed : endsDirect tokens = true) : tokens = tokens.dropLast ++ [kDctToken] := by
  rw [endsDirect, Bool.and_eq_true, beq_iff_eq] at consumed
  exact (List.dropLast_append_getLast? kDctToken consumed.2).symm

section Arrival

variable {depExplicit arrDct : Bool} {token : Text}

theorem peelArrival_star (names : db.NamesProcedure arrAirport kStarToken .kStar token) :
    db.peelArrival arrAirport sidName depViaSid depExplicit arrDct (middle ++ [token]) =
      .ok ⟨middle, sidName, depViaSid, depExplicit, procedureName kStarToken token, true, true⟩ := by
  rw [peelArrival, List.getLast?_concat, names.take]
  simp

theorem peelArrival_none (isLast : middle.getLast? = some lastFix)
    (none : db.NamesNoProcedure arrAirport kStarToken .kStar lastFix) :
    db.peelArrival arrAirport sidName depViaSid depExplicit arrDct middle =
      .ok ⟨middle, sidName, depViaSid, depExplicit, [], false, arrDct⟩ := by
  rw [peelArrival, isLast, none.take]
  simp

/-- What was found out about the tokens before the arrival airport. -/
theorem peelArrival_eq_ok (peeled : db.peelArrival arrAirport sidName depViaSid depExplicit arrDct tokens = .ok ends) :
    (exists token, tokens = ends.middle ++ [token] ∧ db.NamesProcedure arrAirport kStarToken .kStar token ∧
      ends = ⟨ends.middle, sidName, depViaSid, depExplicit, procedureName kStarToken token, true, true⟩) ∨
    ((forall lastFix, tokens.getLast? = some lastFix -> db.NamesNoProcedure arrAirport kStarToken .kStar lastFix) ∧
      ends = ⟨tokens, sidName, depViaSid, depExplicit, ends.starName, false, arrDct⟩ ∧
        (tokens ≠ [] -> ends.starName = [])) := by
  unfold peelArrival at peeled
  split at peeled
  · cases peeled
  next starName arrViaStar took =>
  cases peeled
  cases arrViaStar with
  | true =>
      rcases takeProcedure_true took with ⟨token, isLast, rfl, names⟩
      refine .inl ⟨token, ?_, names, ?_⟩
      · exact (List.dropLast_append_getLast? token isLast).symm
      · simp
  | false =>
      refine .inr ⟨fun lastFix isLast => ?_, ?_, fun nonempty => ?_⟩
      · rw [isLast] at took
        exact (takeProcedure_false took).2
      · simp
      · rw [List.getLast?_eq_some_getLast nonempty] at took
        exact (takeProcedure_false took).1

end Arrival

theorem peelEnds_of_departure {arrDct : Bool} (departs : db.DepartureEnd depAirport front sidName depViaSid)
    (nonempty : tokens ≠ []) : db.peelEnds depAirport arrAirport arrDct (front ++ tokens) =
      db.peelArrival arrAirport sidName depViaSid true arrDct tokens := by
  cases departs with
  | sid names =>
      rw [peelEnds, List.singleton_append, List.head?_cons, names.take]
      simp
  | direct none =>
      have room : 0 < tokens.length := List.length_pos_iff.mpr nonempty
      rw [peelEnds, List.singleton_append, List.head?_cons, none.take]
      simp [room]

/-- The ends of a route are recognised. -/
theorem recognizeEnds_of_ends (departs : db.DepartureEnd depAirport front sidName depViaSid)
    (isLast : middle.getLast? = some lastFix) (arrives : db.ArrivalEnd arrAirport lastFix back starName arrViaStar) :
    db.recognizeEnds depAirport arrAirport (front ++ middle ++ back) =
      .ok ⟨middle, sidName, depViaSid, true, starName, arrViaStar, true⟩ := by
  have nonempty : middle ≠ [] := by
    rintro rfl
    cases isLast
  have starts : exists first, front = [first] := by
    cases departs with
    | sid _ => exact ⟨_, rfl⟩
    | direct _ => exact ⟨_, rfl⟩
  rcases starts with ⟨first, rfl⟩
  rw [recognizeEnds_eq]
  cases arrives with
  | @star token names notDirect =>
      have kept : endsDirect ([first] ++ middle ++ [token]) = false := by
        apply (endsDirect_concat first middle token).trans
        exact beq_false_of_ne notDirect
      rw [kept, if_neg Bool.false_ne_true, List.append_assoc, peelEnds_of_departure departs (by simp),
        peelArrival_star names]
  | @starDirect token names =>
      have consumed : endsDirect ([first] ++ middle ++ [token, kDctToken]) = true := by
        rw [show [first] ++ middle ++ [token, kDctToken] = first :: (middle ++ [token]) ++ [kDctToken] by simp,
          endsDirect_concat]
        exact beq_self_eq_true kDctToken
      have rest : ([first] ++ middle ++ [token, kDctToken]).dropLast = [first] ++ (middle ++ [token]) := by
        rw [show [first] ++ middle ++ [token, kDctToken] = [first] ++ (middle ++ [token]) ++ [kDctToken] by simp,
          List.dropLast_concat]
      rw [consumed, if_pos rfl, rest, peelEnds_of_departure departs (by simp), peelArrival_star names]
  | direct none =>
      have consumed : endsDirect ([first] ++ middle ++ [kDctToken]) = true := by
        apply (endsDirect_concat first middle kDctToken).trans
        exact beq_self_eq_true kDctToken
      rw [consumed, if_pos rfl, List.dropLast_concat, peelEnds_of_departure departs nonempty,
        peelArrival_none isLast none]

/-- What was found out about the tokens behind the departure airport. -/
theorem peelEnds_eq_ok {arrDct : Bool} (peeled : db.peelEnds depAirport arrAirport arrDct tokens = .ok ends) :
    (exists front rest sidName depViaSid, tokens = front ++ rest ∧
      db.DepartureEnd depAirport front sidName depViaSid ∧
        db.peelArrival arrAirport sidName depViaSid true arrDct rest = .ok ends) ∨
    ((forall first, tokens.head? = some first -> db.NamesNoProcedure depAirport kSidToken .kSid first) ∧
      exists sidName, db.peelArrival arrAirport sidName false false arrDct tokens = .ok ends) := by
  unfold peelEnds at peeled
  split at peeled
  · cases peeled
  next sidName depViaSid took =>
  dsimp only at peeled
  cases depViaSid with
  | true =>
      rcases takeProcedure_true took with ⟨token, isFirst, rfl, names⟩
      rcases List.head?_eq_some_iff.mp isFirst with ⟨rest, rfl⟩
      refine .inl ⟨[token], rest, _, true, rfl, .sid names, ?_⟩
      simpa using peeled
  | false =>
      have none : forall first, tokens.head? = some first ->
          sidName = [] ∧ db.NamesNoProcedure depAirport kSidToken .kSid first := by
        intro first isFirst
        rw [isFirst] at took
        exact takeProcedure_false took
      by_cases direct : tokens.head? = some kDctToken ∧ 1 < tokens.length
      · rcases List.head?_eq_some_iff.mp direct.1 with ⟨rest, rfl⟩
        refine .inl ⟨[kDctToken], rest, [], false, rfl, .direct (none kDctToken rfl).2, ?_⟩
        have long : 0 < rest.length := by simpa using direct.2
        simpa [long, (none kDctToken rfl).1] using peeled
      · refine .inr ⟨fun first isFirst => (none first isFirst).2, sidName, ?_⟩
        have kept : (tokens.head? == some kDctToken && decide (1 < tokens.length)) = false := by
          rw [← Bool.not_eq_true, Bool.and_eq_true, beq_iff_eq, decide_eq_true_iff]
          exact direct
        simpa [kept] using peeled

/-- With a connector at either end, the tokens are those of the grammar. -/
theorem ends_of_recognizeEnds (recognized : db.recognizeEnds depAirport arrAirport tokens = .ok ends)
    (depExplicit : ends.depExplicit = true) (arrExplicit : ends.arrExplicit = true)
    (isLast : ends.middle.getLast? = some lastFix) : exists front back, tokens = front ++ ends.middle ++ back ∧
      db.DepartureEnd depAirport front ends.sidName ends.depViaSid ∧
        db.ArrivalEnd arrAirport lastFix back ends.starName ends.arrViaStar ∧
          ends = ⟨ends.middle, ends.sidName, ends.depViaSid, true, ends.starName, ends.arrViaStar, true⟩ := by
  rw [recognizeEnds_eq] at recognized
  rcases peelEnds_eq_ok recognized with ⟨front, rest, sidName, depViaSid, split, departs, arrival⟩ | ⟨_, _, arrival⟩
  · rcases peelArrival_eq_ok arrival with ⟨token, rfl, names, found⟩ | ⟨none, found, unnamed⟩
    · rw [found] at isLast ⊢
      dsimp only at isLast ⊢
      cases consumed : endsDirect tokens with
      | true =>
          rw [if_pos consumed] at split
          refine ⟨front, [token, kDctToken], ?_, departs, .starDirect names, rfl⟩
          rw [eq_of_endsDirect consumed, split]
          simp
      | false =>
          rw [if_neg (by rw [consumed]; exact Bool.false_ne_true)] at split
          refine ⟨front, [token], ?_, departs, .star names ?_, rfl⟩
          · rw [split, List.append_assoc]
          · rintro rfl
            have many : front ++ (ends.middle ++ [kDctToken]) = front ++ ends.middle ++ [kDctToken] := by simp
            rw [split, many, endsDirect, List.getLast?_concat, beq_self_eq_true, Bool.and_true,
              decide_eq_false_iff_not] at consumed
            have some : ends.middle ≠ [] := by
              intro nothing
              rw [nothing] at isLast
              cases isLast
            have room := List.length_pos_iff.mpr some
            simp at consumed
            omega
    · rw [found] at isLast arrExplicit ⊢
      dsimp only at isLast arrExplicit ⊢
      have nonempty : rest ≠ [] := by
        rintro rfl
        cases isLast
      rw [if_pos arrExplicit] at split
      refine ⟨front, [kDctToken], ?_, departs, ?_, ?_⟩
      · rw [← split]
        exact eq_of_endsDirect arrExplicit
      · rw [unnamed nonempty]
        exact .direct (none lastFix isLast)
      · rw [arrExplicit]
  · rcases peelArrival_eq_ok arrival with ⟨_, _, _, found⟩ | ⟨_, found, _⟩ <;>
    · rw [found] at depExplicit
      cases depExplicit

/-- Only up to three `DCT` are left as one. -/
theorem replicate_of_recognizeEnds (recognized : db.recognizeEnds depAirport arrAirport tokens = .ok ends)
    (alone : ends.middle = [kDctToken]) (noSid : ends.depViaSid = false) (noStar : ends.arrViaStar = false) :
    exists more, more < 3 ∧ tokens = List.replicate (more + 1) kDctToken ∧
      db.NamesNoProcedure depAirport kSidToken .kSid kDctToken ∧
        db.NamesNoProcedure arrAirport kStarToken .kStar kDctToken := by
  have left {rest : List Text} {sidName : Text} {depViaSid depExplicit : Bool}
      (arrival : db.peelArrival arrAirport sidName depViaSid depExplicit (endsDirect tokens) rest = .ok ends) :
      rest = [kDctToken] ∧ depViaSid = false ∧ db.NamesNoProcedure arrAirport kStarToken .kStar kDctToken := by
    rcases peelArrival_eq_ok arrival with ⟨_, _, _, found⟩ | ⟨none, found, _⟩
    · rw [found] at noStar
      cases noStar
    · rw [found] at alone noSid
      exact ⟨alone, noSid, none kDctToken (by rw [show rest = [kDctToken] from alone]; rfl)⟩
  rw [recognizeEnds_eq] at recognized
  rcases peelEnds_eq_ok recognized with ⟨front, rest, sidName, depViaSid, split, departs, arrival⟩ |
    ⟨unnamed, sidName, arrival⟩
  · rcases left arrival with ⟨rfl, rfl, noStarName⟩
    cases departs with
    | direct noSidName =>
        cases consumed : endsDirect tokens with
        | true =>
            rw [if_pos consumed] at split
            refine ⟨2, Nat.lt_succ_self 2, ?_, noSidName, noStarName⟩
            rw [eq_of_endsDirect consumed, split]
            rfl
        | false =>
            rw [if_neg (by rw [consumed]; exact Bool.false_ne_true)] at split
            rw [split, show [kDctToken] ++ [kDctToken] = kDctToken :: [] ++ [kDctToken] from rfl, endsDirect_concat,
              beq_self_eq_true] at consumed
            cases consumed
  · rcases left arrival with ⟨peeled, _, noStarName⟩
    have noSidName := unnamed kDctToken (by rw [peeled]; rfl)
    cases consumed : endsDirect tokens with
    | true =>
        rw [if_pos consumed] at peeled
        refine ⟨1, by omega, ?_, noSidName, noStarName⟩
        rw [eq_of_endsDirect consumed, peeled]
        rfl
    | false =>
        rw [if_neg (by rw [consumed]; exact Bool.false_ne_true)] at peeled
        exact ⟨0, by omega, peeled, noSidName, noStarName⟩

/-- Up to three `DCT` are left as one. -/
theorem recognizeEnds_replicate {more : Nat} (few : more < 3)
    (noSidName : db.NamesNoProcedure depAirport kSidToken .kSid kDctToken)
    (noStarName : db.NamesNoProcedure arrAirport kStarToken .kStar kDctToken) :
    exists ends, db.recognizeEnds depAirport arrAirport (List.replicate (more + 1) kDctToken) = .ok ends ∧
      ends.middle = [kDctToken] ∧ ends.depViaSid = false ∧ ends.arrViaStar = false := by
  have isLast : [kDctToken].getLast? = some kDctToken := rfl
  have alone (arrDct : Bool) : db.peelEnds depAirport arrAirport arrDct [kDctToken] =
      .ok ⟨[kDctToken], [], false, false, [], false, arrDct⟩ := by
    rw [peelEnds, List.head?_cons, noSidName.take]
    simpa using peelArrival_none isLast noStarName
  obtain rfl | rfl | rfl : more = 0 ∨ more = 1 ∨ more = 2 := by omega
  · exact ⟨_, (recognizeEnds_eq _ _ _ _).trans (alone false), rfl, rfl, rfl⟩
  · have consumed : endsDirect (kDctToken :: [] ++ [kDctToken]) = true := by
      apply (endsDirect_concat kDctToken [] kDctToken).trans
      exact beq_self_eq_true kDctToken
    refine ⟨⟨[kDctToken], [], false, false, [], false, true⟩, ?_, rfl, rfl, rfl⟩
    rw [recognizeEnds_eq, show List.replicate (1 + 1) kDctToken = kDctToken :: [] ++ [kDctToken] from rfl, consumed,
      if_pos rfl, List.dropLast_concat]
    exact alone true
  · exact ⟨_, recognizeEnds_of_ends (.direct noSidName) isLast (.direct noStarName), rfl, rfl, rfl⟩

end Ends

/-! ## Between the ends -/

section Between

variable [IsStrictOrderedRing R] {ref : Coordinate R} {tokens : List Text} {vertices : List Int}
  {legs : List (RouteLeg R)}

/-- Where the loop stands once it has read tokens that can be flown.  The path along
an airway may be another one of the same length. -/
theorem Flown.enroute (nonneg : db.NonNegativeLengths) (flown : Flown db ref tokens vertices legs)
    (upper : forall tok, tok ∈ tokens -> toUpper tok = tok) : exists state, db.enroute ref tokens = .ok state ∧
      Stands db ref tokens state ∧ vertices.getLast? = some state.prevVertex := by
  induction flown with
  | @first token known =>
      refine ⟨_, ?_, stands_first known, rfl⟩
      rw [NavDatabase.enroute, List.foldlM_cons, takeToken_first known]
      rfl
  | @direct tokens before u v legs token flown resolved known inductionHypothesis =>
      rcases inductionHypothesis fun tok member => upper tok (List.mem_append_left _ member) with
        ⟨state, ran, stands, isLast⟩
      rw [List.getLast?_concat, Option.some.injEq] at isLast
      have here : (db.resolveFix token state.ref).vertex = v := by rw [stands.ref_eq, ← isLast, resolved]
      have known : 0 ≤ (db.resolveFix token state.ref).vertex := here ▸ known
      have upperDirect := upper kDctToken (List.mem_append_right _ List.mem_cons_self)
      refine ⟨_, ?_, stands.direct known, ?_⟩
      · rw [enroute_concat, ran, Except.bind, List.foldlM_cons, stands.takeToken upperDirect, if_pos (.inl rfl)]
        show List.foldlM db.takeToken { state with pendingConnector := kDctToken, expectFix := true } [token] = _
        rw [List.foldlM_cons, stands.takeDirect known]
        rfl
      · rw [List.getLast?_concat, ← here]
        rfl
  | @airway tokens before path u v legs name token flown resolved known isAirway listed other shortest
      inductionHypothesis =>
      rcases inductionHypothesis fun tok member => upper tok (List.mem_append_left _ member) with
        ⟨state, ran, stands, isLast⟩
      rw [List.getLast?_concat, Option.some.injEq] at isLast
      have here : (db.resolveFix token state.ref).vertex = v := by rw [stands.ref_eq, ← isLast, resolved]
      have known : 0 ≤ (db.resolveFix token state.ref).vertex := here ▸ known
      have upperName := upper name (List.mem_append_right _ List.mem_cons_self)
      rcases expandAirway_spec name (db.resolveFix token state.ref).vertex nonneg stands.inRange with
        ⟨empty, expanded⟩
      have connects : db.Connects name state.prevVertex (db.resolveFix token state.ref).vertex := by
        rcases shortest with ⟨nm, walk, _⟩
        rw [here, ← isLast]
        exact ⟨path, nm, walk⟩
      have apart : (db.resolveFix token state.ref).vertex ≠ state.prevVertex := by
        rw [here, ← isLast]
        exact other
      have nonempty : db.expandAirway name state.prevVertex (db.resolveFix token state.ref).vertex ≠ [] := fun nothing =>
        (empty.mp nothing).elim apart fun absurdity => absurdity connects
      have later := stands.airway known isAirway listed (expanded nonempty) nonempty apart
      refine ⟨_, ?_, later, ?_⟩
      · rw [enroute_concat, ran, Except.bind, List.foldlM_cons, stands.takeToken upperName, if_pos (.inr listed)]
        show List.foldlM db.takeToken { state with pendingConnector := name, expectFix := true } [token] = _
        rw [List.foldlM_cons, stands.takeAirway known isAirway listed, if_neg nonempty]
        rfl
      · rcases shortest with ⟨nm, walk, _⟩
        rcases walk.exists_concat with ⟨rest, ends⟩
        rcases expanded nonempty with ⟨_, ranWalk, _⟩
        rw [List.append_assoc, List.singleton_append, ends, ← List.append_assoc, List.getLast?_concat]
        show some v = some (List.foldl (db.addHop name) _ _).prevVertex
        rw [(advanced_foldl name _ _).prevVertex]
        exact congrArg some (here.symm.trans ranWalk.getLastD.symm)

variable {depAirport arrAirport : Text} {ends : Ends} {state : ParseState R} {route : Route R}

omit [IsStrictOrderedRing R] in
/-- The route says nothing of where the loop stood last. -/
theorem Stands.flownRoute_eq (stands : Stands db ref tokens state) :
    db.joinAirports depAirport arrAirport ends state =
      db.flownRoute depAirport arrAirport ends state.pointVertices state.legs := by
  unfold flownRoute joinAirports
  rw [stands.points, stands.total]

omit [IsStrictOrderedRing R] in
theorem Flown.exists_last (flown : Flown db ref tokens vertices legs) : exists before last, tokens = before ++ [last] := by
  cases flown with
  | @first token _ => exact ⟨[], token, rfl⟩
  | @direct tokens _ _ _ _ token => exact ⟨tokens ++ [kDctToken], token, by simp⟩
  | @airway tokens _ _ _ _ _ name token => exact ⟨tokens ++ [name], token, by simp⟩

/-- A loop that ends with no connector pending stands at a fix. -/
theorem stands_of_enroute_settled (nonneg : db.NonNegativeLengths)
    (upper : forall tok, tok ∈ tokens -> toUpper tok = tok) (ran : db.enroute ref tokens = .ok state)
    (somewhere : state.pointVertices ≠ []) (settled : state.pendingConnector = []) : Stands db ref tokens state := by
  cases progress_enroute nonneg upper ran with
  | start => exact absurd rfl somewhere
  | fix stands => exact stands
  | @connector tokens before name _ isConnector =>
      have named : name = [] := settled
      rcases isConnector with rfl | ⟨_, listed⟩
      · rw [kDctToken_eq] at named
        cases named
      · exact absurd named (ne_nil_of_findAirway listed)

/-- The tokens between two airports are accepted as the grammar says. -/
theorem filedRoute_of_parseBetween (nonneg : db.NonNegativeLengths)
    (upper : forall tok, tok ∈ tokens -> toUpper tok = tok)
    (parsed : db.parseBetween depAirport arrAirport tokens = .ok route) :
    db.FiledRoute depAirport arrAirport tokens route := by
  unfold parseBetween at parsed
  split at parsed
  · cases parsed
  next ends recognized =>
  have within := infix_of_recognizeEnds recognized
  split at parsed
  next alone =>
    cases parsed
    rcases replicate_of_recognizeEnds recognized alone.1 alone.2.1 alone.2.2 with ⟨more, few, rfl, noSid, noStar⟩
    exact .direct few noSid noStar
  next several =>
  split at parsed
  · cases parsed
  next state ran =>
  unfold finishRoute at parsed
  split_ifs at parsed with noPoints pending depExplicit arrExplicit
  cases parsed
  have stands := stands_of_enroute_settled nonneg (fun tok member => upper tok (within.subset member)) ran noPoints
    (not_not.mp pending)
  rcases stands.flown.exists_last with ⟨before, lastFix, isLast⟩
  have isLast : ends.middle.getLast? = some lastFix := by rw [isLast, List.getLast?_concat]
  rw [Bool.not_eq_true, Bool.not_eq_false'] at depExplicit arrExplicit
  rcases ends_of_recognizeEnds recognized depExplicit arrExplicit isLast with
    ⟨front, back, split, departs, arrives, found⟩
  rw [stands.flownRoute_eq, split, found]
  exact .flown departs stands.flown isLast arrives several

/-- Tokens of the grammar are accepted. -/
theorem parseBetween_of_filedRoute (nonneg : db.NonNegativeLengths)
    (upper : forall tok, tok ∈ tokens -> toUpper tok = tok)
    (filed : db.FiledRoute depAirport arrAirport tokens route) :
    exists accepted, db.parseBetween depAirport arrAirport tokens = .ok accepted := by
  cases filed with
  | direct few noSid noStar =>
      rcases recognizeEnds_replicate few noSid noStar with ⟨ends, recognized, alone⟩
      refine ⟨db.directRoute depAirport arrAirport, ?_⟩
      rw [parseBetween, recognized]
      exact if_pos alone
  | @flown front middle back lastFix vertices legs sidName starName depViaSid arrViaStar departs flown isLast arrives
      several =>
      have recognized := recognizeEnds_of_ends departs isLast arrives
      have inside : forall tok, tok ∈ middle -> toUpper tok = tok := fun tok member =>
        upper tok (List.mem_append_left _ (List.mem_append_right _ member))
      rcases flown.enroute nonneg inside with ⟨state, ran, stands, _⟩
      have somewhere : state.pointVertices ≠ [] := by
        rcases stands.last with ⟨before, ends⟩
        rw [ends]
        exact List.append_ne_nil_of_right_ne_nil _ (List.cons_ne_nil _ _)
      refine ⟨db.joinAirports depAirport arrAirport
        ⟨middle, sidName, depViaSid, true, starName, arrViaStar, true⟩ state, ?_⟩
      rw [parseBetween, recognized]
      dsimp only
      rw [if_neg several, ran]
      dsimp only
      rw [finishRoute, if_neg somewhere, if_neg (not_not.mpr stands.pending)]
      rfl

omit [IsStrictOrderedRing R] in
theorem FiledRoute.ne_nil (filed : db.FiledRoute depAirport arrAirport tokens route) : tokens ≠ [] := by
  cases filed with
  | direct => exact List.cons_ne_nil _ _
  | flown departs flown isLast =>
      rcases flown.exists_last with ⟨before, lastFix, rfl⟩
      simp

/-- Every token was written in capitals. -/
theorem files_of_parseTokens (nonneg : db.NonNegativeLengths)
    (upper : forall tok, tok ∈ tokens -> toUpper tok = tok) (parsed : db.parseTokens tokens = .ok route) :
    db.Files tokens route := by
  unfold parseTokens at parsed
  dsimp only at parsed
  split_ifs at parsed with nothing unknownDep single unknownArr pair
  have size : 2 ≤ tokens.length := by omega
  rcases tokens with _ | ⟨depAirport, rest⟩
  · exact absurd rfl nothing
  rcases List.eq_nil_or_concat rest with rfl | ⟨between, arrAirport, rfl⟩
  · exact absurd size (by simp)
  have back : (depAirport :: (between ++ [arrAirport])).getLastD [] = arrAirport := by
    rw [← List.cons_append, List.getLastD_concat]
  rw [List.concat_eq_append] at parsed unknownArr upper ⊢
  rw [back] at parsed unknownArr
  rw [List.tail_cons, List.dropLast_concat] at parsed
  refine ⟨depAirport, between, arrAirport, rfl, not_lt.mp unknownDep, not_lt.mp unknownArr, ?_⟩
  apply filedRoute_of_parseBetween nonneg _ parsed
  exact fun tok member => upper tok (List.mem_cons_of_mem _ (List.mem_append_left _ member))

theorem parseTokens_of_files (nonneg : db.NonNegativeLengths)
    (upper : forall tok, tok ∈ tokens -> toUpper tok = tok) (files : db.Files tokens route) :
    exists accepted, db.parseTokens tokens = .ok accepted := by
  rcases files with ⟨depAirport, between, arrAirport, rfl, knownDep, knownArr, filed⟩
  have room := List.length_pos_iff.mpr filed.ne_nil
  have inside : forall tok, tok ∈ between -> toUpper tok = tok := fun tok member =>
    upper tok (List.mem_append_left _ (List.mem_cons_of_mem _ member))
  rcases parseBetween_of_filedRoute nonneg inside filed with ⟨accepted, parsed⟩
  have size : (depAirport :: between ++ [arrAirport]).length = between.length + 2 := by simp
  refine ⟨accepted, ?_⟩
  rw [parseTokens, List.getLastD_concat]
  rw [if_neg (by simp), if_neg (not_lt.mpr (by simpa using knownDep)), if_neg (by omega), if_neg (not_lt.mpr knownArr),
    if_neg (by omega)]
  simpa using parsed

/-- The accepted strings are those whose tokens have the shape of the grammar, and a
route that is read has the meaning the grammar gives its tokens. -/
theorem parseRoute_filed (db : NavDatabase R) (nonneg : db.NonNegativeLengths) (routeStr : Text) :
    (forall route, parseRoute (some db) routeStr = .ok route -> db.Files (tokenizeRoute routeStr) route) ∧
      ((exists route, parseRoute (some db) routeStr = .ok route) ↔
        exists route, db.Files (tokenizeRoute routeStr) route) := by
  have upper : forall tok, tok ∈ tokenizeRoute routeStr -> toUpper tok = tok := fun tok =>
    toUpper_of_mem_tokenizeRoute
  have sound (route : Route R) (parsed : parseRoute (some db) routeStr = .ok route) :
      db.Files (tokenizeRoute routeStr) route := files_of_parseTokens nonneg upper parsed
  refine ⟨sound, fun ⟨route, parsed⟩ => ⟨route, sound route parsed⟩, ?_⟩
  rintro ⟨route, files⟩
  exact parseTokens_of_files nonneg upper files

end Between

/-- `X DCT A DCT B STAR DCT Y`. -/
def starDirect : Text :=
  [88, 32, 68, 67, 84, 32, 65, 32, 68, 67, 84, 32, 66, 32, 83, 84, 65, 82, 32, 68, 67, 84, 32, 89]

/-- Two connectors behind the last fix are read as one. -/
theorem parseRoute_filed_starDirect : sidDatabase.NonNegativeLengths ∧ exists route,
    parseRoute (some sidDatabase) starDirect = .ok route ∧ sidDatabase.Files (tokenizeRoute starDirect) route := by
  refine ⟨nonNegativeLengths_sid, ?_⟩
  have accepted : (parseRoute (some sidDatabase) starDirect).toOption.isSome = true := by decide +kernel
  rcases exists_of_toOption accepted with ⟨route, parsed⟩
  exact ⟨route, parsed, (parseRoute_filed sidDatabase nonNegativeLengths_sid starDirect).1 route parsed⟩

end NavDatabase
end BravoFinder
