import BravoFinder.Core.Domain
import BravoFinder.Library.Lines

namespace BravoFinder

/-!
# The Origin check

A browser names the site a page came from in `Origin`.  The server's contract
is to serve a request only when that site is this machine or the configured
bind host, so that a page of another site, whose name was rebound to this
address, cannot read the answers.  `OriginAllowed` also accepts the host the
request itself names in `Host`, which a rebound page controls.  It compares that
host through a view into a string that is gone by then, so what the view reads
is a parameter here.
-/

/-- `Headers`: names and values in order. -/
abbrev Headers : Type := List (Text × Text)

/-- `std::tolower` in the C locale. -/
def toLower (c : UInt8) : UInt8 :=
  if 65 ≤ c ∧ c ≤ 90 then c + 32 else c

/-- `AsciiIeq`. -/
def asciiIeq (a b : Text) : Bool :=
  a.length == b.length && (a.zip b).all fun (ca, cb) => toLower ca == toLower cb

theorem asciiIeq_iff {a b : Text} : asciiIeq a b = true ↔ a.map toLower = b.map toLower := by
  unfold asciiIeq
  rw [Bool.and_eq_true, beq_iff_eq]
  induction a generalizing b with
  | nil => cases b <;> simp
  | cons first rest inductionHypothesis =>
      cases b with
      | nil => simp
      | cons other others =>
          simp only [List.length_cons, Nat.succ_inj, List.zip_cons_cons, List.all_cons, Bool.and_eq_true,
            beq_iff_eq, List.map_cons, List.cons.injEq, ← inductionHypothesis]
          exact and_left_comm

theorem asciiIeq_nil {a : Text} : asciiIeq a [] = true ↔ a = [] := by
  rw [asciiIeq_iff, List.map_nil, List.map_eq_nil_iff]

/-- `HttpRequest`. -/
structure HttpRequest where
  method : Text
  path : Text
  query : Text
  body : Text
  headers : Headers
  keepAlive : Bool
  remoteAddress : Text

/-- `HttpRequest::Header`: the first value of a header. -/
def HttpRequest.header (req : HttpRequest) (name : Text) : Text :=
  match req.headers.find? fun (hdrName, _) => asciiIeq hdrName name with
  | some (_, value) => value
  | none => []

/-- `HostOf`: the host part of an authority or of an origin. -/
def hostOf (authority : Text) : Text :=
  let start := match findSub (ofString "://") authority with
    | none => 0
    | some scheme => scheme + 3
  let hostPort := (authority.drop start).takeWhile fun c => !(ofString "/?#").contains c
  match hostPort with
  | [] => []
  | front :: _ =>
      if front = 91 then
        -- An IPv6 address stands in brackets.
        match findSub (ofString "]") hostPort with
        | some close => (hostPort.drop 1).take (close - 1)
        | none => []
      else
        match findSub (ofString ":") hostPort with
        | none => hostPort
        | some colon => hostPort.take colon

/-- A name of this machine. -/
def isLocalHost (host : Text) : Bool :=
  asciiIeq host (ofString "localhost") || host == ofString "127.0.0.1" || host == ofString "::1"

/-- What a view reads once the string it looks into is gone: as many bytes as it
is long, whatever stands there now. -/
structure StaleRead where
  bytes : (value view : Text) -> Text
  length_bytes : forall value view, (bytes value view).length = view.length

/-- The host of the `Host` header as it is compared.  `Header` returns the value
by copy, and the copy is gone before the view into it is read. -/
def StaleRead.hostHeader (stale : StaleRead) (req : HttpRequest) : Text :=
  let value := req.header (ofString "Host")
  stale.bytes value (hostOf value)

/-- `OriginAllowed`. -/
def originAllowed (stale : StaleRead) (req : HttpRequest) (bindHost : Text) : Bool :=
  let origin := req.header (ofString "Origin")
  if origin.isEmpty then true
  else
    let host := hostOf origin
    if host.isEmpty then false
    else if isLocalHost host then true
    else
      let hostHeader := stale.hostHeader req
      if !hostHeader.isEmpty && asciiIeq host hostHeader then true
      else !bindHost.isEmpty && bindHost != ofString "0.0.0.0" && bindHost != ofString "::" &&
        asciiIeq host bindHost

/-! ## What the check is for -/

/-- The values of all the `Origin` headers of a request. -/
def HttpRequest.origins (req : HttpRequest) : List Text :=
  (req.headers.filter fun (hdrName, _) => asciiIeq hdrName (ofString "Origin")).map Prod.snd

theorem HttpRequest.header_origin (req : HttpRequest) :
    req.header (ofString "Origin") = req.origins.headD [] := by
  unfold header origins
  induction req.headers with
  | nil => rfl
  | cons entry rest inductionHypothesis =>
      rcases entry with ⟨name, value⟩
      by_cases named : asciiIeq name (ofString "Origin") = true
      · simp only [List.find?_cons, List.filter_cons, named, if_true, List.map_cons, List.headD_cons]
      · simp only [List.find?_cons, List.filter_cons, named, if_false, Bool.false_eq_true]
        exact inductionHypothesis

/-- A host that is neither this machine nor the bind host. -/
def isForeign (bindHost host : Text) : Bool :=
  !isLocalHost host && !(!bindHost.isEmpty && asciiIeq host bindHost)

/-- The contract: a request that carries a foreign `Origin` is refused, and one
without `Origin` is allowed. -/
structure StopsRebinding (stale : StaleRead) (req : HttpRequest) (bindHost : Text) : Prop where
  foreign : forall origin, origin ∈ req.origins -> origin ≠ [] -> isForeign bindHost (hostOf origin) = true ->
    originAllowed stale req bindHost = false
  absent : req.origins = [] -> originAllowed stale req bindHost = true

/-- The bind host when it names an address, and nothing for a wildcard. -/
def namedBindHost (bindHost : Text) : Text :=
  if bindHost = ofString "0.0.0.0" ∨ bindHost = ofString "::" then [] else bindHost

/-- Nothing vouches for the first `Origin`: it names no host, or a foreign one
that differs from what is read as the host of the `Host` header. -/
def UnvouchedOrigin (stale : StaleRead) (req : HttpRequest) (bindHost : Text) : Prop :=
  exists origin rest, req.origins = origin :: rest ∧ origin ≠ [] ∧
    (hostOf origin = [] ∨ isForeign (namedBindHost bindHost) (hostOf origin) = true ∧
      asciiIeq (hostOf origin) (stale.hostHeader req) = false)

/-- The first `Origin` names no host, or a foreign one of another length than the
host of the `Host` header. -/
def UnmatchedOrigin (req : HttpRequest) (bindHost : Text) : Prop :=
  exists origin rest, req.origins = origin :: rest ∧ origin ≠ [] ∧
    (hostOf origin = [] ∨ isForeign (namedBindHost bindHost) (hostOf origin) = true ∧
      (hostOf origin).length ≠ (hostOf (req.header (ofString "Host"))).length)

theorem asciiIeq_namedBindHost {bindHost host : Text} :
    (!bindHost.isEmpty && bindHost != ofString "0.0.0.0" && bindHost != ofString "::" &&
        asciiIeq host bindHost) =
      (!(namedBindHost bindHost).isEmpty && asciiIeq host (namedBindHost bindHost)) := by
  unfold namedBindHost
  by_cases any : bindHost = ofString "0.0.0.0"
  · simp only [any, bne_self_eq_false, Bool.and_false, Bool.false_and, List.isEmpty_nil, Bool.not_true,
      true_or, if_true]
  · by_cases anySix : bindHost = ofString "::"
    · simp only [anySix, bne_self_eq_false, Bool.and_false, Bool.false_and, List.isEmpty_nil,
        Bool.not_true, or_true, if_true]
    · rw [if_neg (not_or.mpr ⟨any, anySix⟩), bne_iff_ne.mpr any, bne_iff_ne.mpr anySix, Bool.and_true,
        Bool.and_true]

/-- The check refuses a request exactly when nothing vouches for its origin. -/
theorem originAllowed_eq_false_iff (stale : StaleRead) (req : HttpRequest) (bindHost : Text) :
    originAllowed stale req bindHost = false ↔ UnvouchedOrigin stale req bindHost := by
  unfold originAllowed UnvouchedOrigin
  rw [req.header_origin]
  cases req.origins with
  | nil =>
      refine ⟨fun refused => ?_, fun unvouched => ?_⟩
      · cases refused
      · rcases unvouched with ⟨_, _, listed, _⟩
        cases listed
  | cons origin rest =>
      simp only [List.headD_cons, List.isEmpty_iff, asciiIeq_namedBindHost, isForeign]
      by_cases empty : origin = []
      · rw [if_pos empty]
        refine ⟨fun refused => ?_, fun unvouched => ?_⟩
        · cases refused
        · rcases unvouched with ⟨_, _, listed, nonempty, _⟩
          cases listed
          exact absurd empty nonempty
      rw [if_neg empty]
      constructor
      · intro refused
        refine ⟨origin, rest, rfl, empty, ?_⟩
        by_cases noHost : hostOf origin = []
        · exact Or.inl noHost
        rw [if_neg noHost] at refused
        refine Or.inr ?_
        split at refused
        · cases refused
        rename_i notLocal
        split at refused
        · cases refused
        rename_i notHost
        rw [Bool.not_eq_true] at notLocal
        refine ⟨by rw [notLocal, refused]; rfl, ?_⟩
        by_contra matched
        rw [Bool.not_eq_false] at matched
        refine notHost ?_
        rw [matched, Bool.and_true, Bool.not_eq_true', ← Bool.not_eq_true, List.isEmpty_iff]
        intro hostEmpty
        rw [hostEmpty, asciiIeq_nil] at matched
        exact noHost matched
      · rintro ⟨_, _, listed, _, unvouched⟩
        cases listed
        rcases unvouched with noHost | ⟨foreign, unmatched⟩
        · rw [if_pos noHost]
        · rw [Bool.and_eq_true, Bool.not_eq_true', Bool.not_eq_true'] at foreign
          by_cases noHost : hostOf origin = []
          · rw [if_pos noHost]
          · simp only [noHost, if_false, foreign.1, Bool.false_eq_true, unmatched, Bool.and_false, foreign.2]

/-- The contract holds of a request exactly when it carries no foreign `Origin`
or nothing vouches for its first one. -/
theorem stopsRebinding_iff_unvouched (stale : StaleRead) (req : HttpRequest) (bindHost : Text) :
    StopsRebinding stale req bindHost ↔
      (forall origin, origin ∈ req.origins -> origin ≠ [] -> isForeign bindHost (hostOf origin) = false) ∨
        UnvouchedOrigin stale req bindHost := by
  constructor
  · intro stops
    by_cases unvouched : UnvouchedOrigin stale req bindHost
    · exact Or.inr unvouched
    · refine Or.inl fun origin listed nonempty => ?_
      by_contra foreign
      rw [Bool.not_eq_false] at foreign
      exact unvouched ((originAllowed_eq_false_iff stale req bindHost).mp
        (stops.foreign origin listed nonempty foreign))
  · intro condition
    refine ⟨fun origin listed nonempty foreign => ?_, fun absent => ?_⟩
    · rcases condition with none | unvouched
      · rw [none origin listed nonempty] at foreign
        cases foreign
      · exact (originAllowed_eq_false_iff stale req bindHost).mpr unvouched
    · by_contra refused
      rw [Bool.not_eq_true] at refused
      rcases (originAllowed_eq_false_iff stale req bindHost).mp refused with ⟨_, _, listed, _⟩
      rw [absent] at listed
      cases listed

theorem length_ite_of_eq {view text : Text} :
    (if view.length = text.length then text else view).length = view.length := by
  split_ifs with same
  · exact same.symm
  · rfl

/-- A read that finds a text wherever a view is as long as it. -/
def StaleRead.finding (text : Text) : StaleRead where
  bytes _ view := if view.length = text.length then text else view
  length_bytes _ _ := length_ite_of_eq

/-- Nothing vouches for the first origin, whatever a stale view reads, exactly
when the two hosts differ in length. -/
theorem forall_unvouchedOrigin_iff (req : HttpRequest) (bindHost : Text) :
    (forall stale, UnvouchedOrigin stale req bindHost) ↔ UnmatchedOrigin req bindHost := by
  constructor
  · intro unvouched
    rcases unvouched (.finding (hostOf (req.origins.headD []))) with ⟨origin, rest, listed, nonempty, either⟩
    refine ⟨origin, rest, listed, nonempty, either.imp_right ?_⟩
    rintro ⟨foreign, unmatched⟩
    refine ⟨foreign, fun sameLength => ?_⟩
    have found : (StaleRead.finding (hostOf origin)).hostHeader req = hostOf origin := if_pos sameLength.symm
    rw [listed, List.headD_cons, found, Bool.eq_false_iff] at unmatched
    exact unmatched (asciiIeq_iff.mpr rfl)
  · rintro ⟨origin, rest, listed, nonempty, either⟩ stale
    refine ⟨origin, rest, listed, nonempty, either.imp_right ?_⟩
    rintro ⟨foreign, otherLength⟩
    refine ⟨foreign, Bool.eq_false_iff.mpr fun matched => ?_⟩
    have sameLength := congrArg List.length (asciiIeq_iff.mp matched)
    rw [List.length_map, List.length_map, StaleRead.hostHeader, stale.length_bytes] at sameLength
    exact otherLength sameLength

/-- The contract holds of a request, for what a stale view reads, exactly when it
carries no foreign `Origin` or nothing vouches for its first one; and it holds
whatever a stale view reads exactly when no first `Origin` could be vouched for. -/
theorem stopsRebinding_iff (req : HttpRequest) (bindHost : Text) :
    (forall stale, StopsRebinding stale req bindHost ↔
      (forall origin, origin ∈ req.origins -> origin ≠ [] -> isForeign bindHost (hostOf origin) = false) ∨
        UnvouchedOrigin stale req bindHost) ∧
    ((forall stale, StopsRebinding stale req bindHost) ↔
      (forall origin, origin ∈ req.origins -> origin ≠ [] -> isForeign bindHost (hostOf origin) = false) ∨
        UnmatchedOrigin req bindHost) := by
  refine ⟨fun stale => stopsRebinding_iff_unvouched stale req bindHost, ?_⟩
  simp only [stopsRebinding_iff_unvouched, forall_or_left, forall_unvouchedOrigin_iff]

theorem length_ite_cleared {value view : Text} :
    (if value.length < 16 then view else List.replicate view.length 0).length = view.length := by
  split_ifs
  · rfl
  · exact List.length_replicate

/-- A short string keeps its characters in the object itself, where nothing has
been written since; the buffer of a longer one has been given back and cleared. -/
def StaleRead.shortInPlace : StaleRead where
  bytes value view := if value.length < 16 then view else List.replicate view.length 0
  length_bytes _ _ := length_ite_cleared

/-- A page of evil.example whose name was rebound to this server. -/
def reboundRequest : HttpRequest where
  method := ofString "GET"
  path := ofString "/cycles"
  query := []
  body := []
  headers := [(ofString "host", ofString "evil.example"), (ofString "origin", ofString "http://evil.example")]
  keepAlive := true
  remoteAddress := ofString "127.0.0.1"

/-- A request with a second `Origin` behind one of this machine. -/
def repeatedOriginRequest : HttpRequest :=
  { reboundRequest with
    headers := [(ofString "origin", ofString "http://localhost"), (ofString "origin", ofString "http://evil.example")] }

/-- The rebound page is let in while the bytes of its short `Host` still stand,
and a repeated origin whatever is read. -/
theorem not_stopsRebinding_rebound :
    ¬ StopsRebinding .shortInPlace reboundRequest (ofString "127.0.0.1") ∧
      forall stale, ¬ StopsRebinding stale repeatedOriginRequest (ofString "127.0.0.1") := by
  have isOrigin : isForeign (ofString "127.0.0.1") (hostOf (ofString "http://evil.example")) = true := by
    decide +kernel
  constructor
  · intro stops
    have listed : ofString "http://evil.example" ∈ reboundRequest.origins := by decide +kernel
    have refused := stops.foreign _ listed (by decide +kernel) isOrigin
    have allowed : originAllowed .shortInPlace reboundRequest (ofString "127.0.0.1") = true := by decide +kernel
    rw [allowed] at refused
    cases refused
  · intro stale stops
    have listed : ofString "http://evil.example" ∈ repeatedOriginRequest.origins := by decide +kernel
    have refused := stops.foreign _ listed (by decide +kernel) isOrigin
    rcases (originAllowed_eq_false_iff _ _ _).mp refused with ⟨origin, rest, origins, _, either⟩
    have first : origin = ofString "http://localhost" := by
      have head : repeatedOriginRequest.origins.headD [] = ofString "http://localhost" := by decide +kernel
      rw [origins] at head
      exact head
    subst first
    have hasHost : hostOf (ofString "http://localhost") ≠ [] := by decide +kernel
    have isLocal : isForeign (namedBindHost (ofString "127.0.0.1")) (hostOf (ofString "http://localhost")) = false := by
      decide +kernel
    rcases either with noHost | ⟨foreign, _⟩
    · exact hasHost noHost
    · rw [isLocal] at foreign
      cases foreign

end BravoFinder
