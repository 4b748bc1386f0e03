import BravoFinder.Core.Result
import BravoFinder.HttpServer.Origin
import BravoFinder.Library.StringBytes

namespace BravoFinder

/-!
# Response framing

A response is the status line, the framing headers of the core, the extra
headers of the handler and the body.  Extra headers with a reserved name are
dropped, and the bytes that would break a line are dropped from the others.
The name is tested before those bytes are dropped from it.
-/

/-- The end of a line. -/
def crlf : Text := [13, 10]

/-- The end of the head. -/
def blankLine : Text := [13, 10, 13, 10]

/-! ## The pieces of a head -/

/-- The statuses with a phrase of their own. -/
def reasonPhrases : List (Int × String) := [
  (200, "OK"),
  (202, "Accepted"),
  (400, "Bad Request"),
  (403, "Forbidden"),
  (404, "Not Found"),
  (405, "Method Not Allowed"),
  (408, "Request Timeout"),
  (413, "Payload Too Large"),
  (414, "URI Too Long"),
  (417, "Expectation Failed"),
  (422, "Unprocessable Entity"),
  (431, "Request Header Fields Too Large"),
  (500, "Internal Server Error"),
  (503, "Service Unavailable")]

/-- `ReasonPhrase`. -/
def reasonPhrase (status : Int) : String :=
  match reasonPhrases.lookup status with
  | some phrase => phrase
  | none =>
      if status < 200 then "Informational"
      else if status < 300 then "OK"
      else if status < 400 then "Redirection"
      else if status < 500 then "Client Error"
      else "Server Error"

/-- `AppendHeaderSafe`: what it appends. -/
def headerSafe (v : Text) : Text :=
  v.filter fun c => c != 13 && c != 10 && c != 0

/-- `AppendHeaderNameSafe`: what it appends. -/
def headerNameSafe (name : Text) : Text :=
  name.filter fun c => c != 13 && c != 10 && c != 0 && c != 32 && c != 58

/-- The broken-down time that `HttpDate` formats. -/
structure Tm where
  sec : Fin 61
  min : Fin 60
  hour : Fin 24
  mday : Fin 32
  mon : Fin 12
  year : Int
  wday : Fin 7

def weekdayNames : List String := ["Sun", "Mon", "Tue", "Wed", "Thu", "Fri", "Sat"]

def monthNames : List String :=
  ["Jan", "Feb", "Mar", "Apr", "May", "Jun", "Jul", "Aug", "Sep", "Oct", "Nov", "Dec"]

/-- A number in two digits. -/
def twoDigits (value : Nat) : Text :=
  if value < 10 then ofString "0" ++ decimal value else decimal value

/-- `HttpDate` at a given time, in the C locale. -/
def httpDate (tm : Tm) : Text :=
  ofString (weekdayNames.getD tm.wday "") ++ ofString ", " ++ twoDigits tm.mday ++ ofString " " ++
    ofString (monthNames.getD tm.mon "") ++ ofString " " ++ toStringInt (tm.year + 1900) ++ ofString " " ++
    twoDigits tm.hour ++ ofString ":" ++ twoDigits tm.min ++ ofString ":" ++ twoDigits tm.sec ++ ofString " GMT"

/-- `IsReservedFramingHeader`. -/
def isReservedFramingHeader (name : Text) : Bool :=
  asciiIeq name (ofString "Content-Length") || asciiIeq name (ofString "Content-Type") ||
    asciiIeq name (ofString "Connection") || asciiIeq name (ofString "Date") ||
    asciiIeq name (ofString "Transfer-Encoding")

/-- `AppendExtraHeaders`. -/
def appendExtraHeaders (out : Text) (extraHeaders : Headers) : Text :=
  extraHeaders.foldl (fun out (name, value) =>
    if isReservedFramingHeader name then out
    else out ++ ofString "\r\n" ++ headerNameSafe name ++ ofString ": " ++ headerSafe value) out

/-- `BuildResponse` at a given time. -/
def buildResponse (now : Tm) (status : Int) (body : Text) (keepAlive : Bool) (contentType : Text)
    (extraHeaders : Headers) (elapsedMs : UInt32) (contentLength : Nat) : Text :=
  let out := ofString "HTTP/1.1 " ++ toStringInt status ++ ofString " " ++ ofString (reasonPhrase status)
  let out := out ++ ofString "\r\nContent-Type: " ++ headerSafe contentType
  let out := out ++ ofString "\r\nContent-Length: " ++ decimal contentLength
  let out := out ++ ofString "\r\nConnection: " ++ ofString (if keepAlive then "keep-alive" else "close")
  let out := out ++ ofString "\r\nDate: " ++ httpDate now
  let out := if 0 < elapsedMs then out ++ ofString "\r\nX-Elapsed-Ms: " ++ decimal elapsedMs.toNat else out
  let out := appendExtraHeaders out extraHeaders
  out ++ ofString "\r\n\r\n" ++ body

/-- `BuildStreamHeader` at a given time: the head of an open stream, which has no length. -/
def buildStreamHeader (now : Tm) (status : Int) (contentType : Text) (extraHeaders : Headers) : Text :=
  let out := ofString "HTTP/1.1 " ++ toStringInt status ++ ofString " " ++ ofString (reasonPhrase status)
  let out := out ++ ofString "\r\nContent-Type: " ++ headerSafe contentType
  let out := out ++ ofString "\r\nConnection: keep-alive\r\nDate: " ++ httpDate now
  appendExtraHeaders out extraHeaders ++ ofString "\r\n\r\n"

/-! ## The lines of a head -/

/-- The line of a header. -/
def headerLine (name value : Text) : Text :=
  name ++ ofString ": " ++ value

/-- The name of the header on a line. -/
def lineName (line : Text) : Text :=
  line.takeWhile (· != 58)

/-- The status line. -/
def statusLine (status : Int) : Text :=
  ofString "HTTP/1.1 " ++ toStringInt status ++ ofString " " ++ ofString (reasonPhrase status)

/-- The framing headers of the core. -/
def framingHeaders (now : Tm) (keepAlive : Bool) (contentType : Text) (elapsedMs : UInt32)
    (contentLength : Nat) : Headers :=
  [(ofString "Content-Type", headerSafe contentType),
    (ofString "Content-Length", decimal contentLength),
    (ofString "Connection", ofString (if keepAlive then "keep-alive" else "close")),
    (ofString "Date", httpDate now)] ++
    if 0 < elapsedMs then [(ofString "X-Elapsed-Ms", decimal elapsedMs.toNat)] else []

/-- The extra headers that are kept. -/
def keptHeaders (extraHeaders : Headers) : Headers :=
  extraHeaders.filter fun (name, _) => !isReservedFramingHeader name

/-- What is written of the extra headers: those that are kept, made safe. -/
def safeHeaders (extraHeaders : Headers) : Headers :=
  (keptHeaders extraHeaders).map fun (name, value) => (headerNameSafe name, headerSafe value)

def headerLines (headers : Headers) : List Text :=
  headers.map fun (name, value) => headerLine name value

/-- The lines of the head: the status line, the framing headers of the core and
the extra headers that are kept. -/
def headLines (now : Tm) (status : Int) (keepAlive : Bool) (contentType : Text) (extraHeaders : Headers)
    (elapsedMs : UInt32) (contentLength : Nat) : List Text :=
  statusLine status ::
    headerLines (framingHeaders now keepAlive contentType elapsedMs contentLength ++ safeHeaders extraHeaders)

/-- The lines of a head that carry a header, whatever its case. -/
def linesNamed (name : Text) (lines : List Text) : List Text :=
  lines.filter fun line => asciiIeq (lineName line) name

/-! ## The literals of a head -/

/-- No literal of a head breaks its line. -/
theorem clean_literals : forall literal, literal ∈ ["-", "0", "HTTP/1.1 ", " ", ", ", ":", " GMT", ": ",
    "keep-alive", "close", "Informational", "OK", "Redirection", "Client Error", "Server Error"] ++
      reasonPhrases.map Prod.snd ++ weekdayNames ++ monthNames ++ [""] -> 13 ∉ ofString literal := by
  decide +kernel

/-- The literals, cut into the pieces of a line. -/
theorem literal_lines : ofString "\r\n" = crlf ∧ ofString "\r\n\r\n" = blankLine ∧
    ofString "\r\nContent-Type: " = crlf ++ ofString "Content-Type" ++ ofString ": " ∧
    ofString "\r\nContent-Length: " = crlf ++ ofString "Content-Length" ++ ofString ": " ∧
    ofString "\r\nConnection: " = crlf ++ ofString "Connection" ++ ofString ": " ∧
    ofString "\r\nDate: " = crlf ++ ofString "Date" ++ ofString ": " ∧
    ofString "\r\nX-Elapsed-Ms: " = crlf ++ ofString "X-Elapsed-Ms" ++ ofString ": " := by
  decide +kernel

theorem literal_starts : ofString "HTTP/1.1 " = 72 :: ofString "TTP/1.1 " ∧ ofString ": " = 58 :: [32] := by
  decide +kernel

/-! ## Clean lines -/

theorem clean_append {a b : Text} {c : UInt8} (first : c ∉ a) (second : c ∉ b) : c ∉ a ++ b :=
  fun member => (List.mem_append.mp member).elim first second

theorem clean_decimal (value : Nat) : 13 ∉ decimal value := by
  intro member
  have digit : 48 ≤ (13 : UInt8).toNat := (digit_of_mem_toString member).1
  exact absurd digit (by decide)

theorem clean_toStringInt (value : Int) : 13 ∉ toStringInt value := by
  unfold toStringInt
  split
  · exact clean_append (clean_literals _ (by decide)) (clean_decimal _)
  · exact clean_decimal _

theorem clean_twoDigits (value : Nat) : 13 ∉ twoDigits value := by
  unfold twoDigits
  split
  · exact clean_append (clean_literals _ (by decide)) (clean_decimal _)
  · exact clean_decimal _

theorem clean_headerSafe (v : Text) : 13 ∉ headerSafe v := by
  intro member
  have kept := (List.mem_filter.mp member).2
  cases kept

theorem clean_headerNameSafe (name : Text) : 13 ∉ headerNameSafe name := by
  intro member
  have kept := (List.mem_filter.mp member).2
  cases kept

theorem colon_headerNameSafe (name : Text) : 58 ∉ headerNameSafe name := by
  intro member
  have kept := (List.mem_filter.mp member).2
  cases kept

theorem clean_reasonPhrase (status : Int) : 13 ∉ ofString (reasonPhrase status) := by
  apply clean_literals
  unfold reasonPhrase
  split
  · rename_i phrase found
    rcases List.lookup_eq_some_iff.mp found with ⟨before, after, split, _⟩
    have listed : phrase ∈ reasonPhrases.map Prod.snd :=
      List.mem_map.mpr ⟨(status, phrase), split ▸ List.mem_append_right before List.mem_cons_self, rfl⟩
    simp only [List.mem_append, listed, or_true, true_or]
  · repeat' split
    all_goals decide

/-- An entry of a table, or nothing. -/
theorem mem_getD (table : List String) (index : Nat) : table.getD index "" ∈ table ++ [""] := by
  rw [List.getD_eq_getElem?_getD]
  cases found : table[index]? with
  | none => exact List.mem_append_right table List.mem_cons_self
  | some entry => exact List.mem_append_left _ (List.mem_of_getElem? found)

theorem clean_httpDate (tm : Tm) : 13 ∉ httpDate tm := by
  have weekday : 13 ∉ ofString (weekdayNames.getD tm.wday "") := by
    apply clean_literals
    have listed := mem_getD weekdayNames tm.wday
    simp only [List.mem_append] at listed ⊢
    tauto
  have month : 13 ∉ ofString (monthNames.getD tm.mon "") := by
    apply clean_literals
    have listed := mem_getD monthNames tm.mon
    simp only [List.mem_append] at listed ⊢
    tauto
  unfold httpDate
  repeat' apply clean_append
  all_goals first
    | exact weekday
    | exact month
    | exact clean_twoDigits _
    | exact clean_toStringInt _
    | exact clean_literals _ (by decide)

theorem clean_statusLine (status : Int) : 13 ∉ statusLine status := by
  unfold statusLine
  exact clean_append (clean_append (clean_append (clean_literals _ (by decide)) (clean_toStringInt _))
    (clean_literals _ (by decide))) (clean_reasonPhrase _)

theorem clean_framingHeaders {now : Tm} {keepAlive : Bool} {contentType : Text} {elapsedMs : UInt32}
    {contentLength : Nat} {header : Text × Text}
    (member : header ∈ framingHeaders now keepAlive contentType elapsedMs contentLength) :
    13 ∉ header.1 ∧ 58 ∉ header.1 ∧ 13 ∉ header.2 := by
  have names : forall name, name ∈ ["Content-Type", "Content-Length", "Connection", "Date", "X-Elapsed-Ms"] ->
      13 ∉ ofString name ∧ 58 ∉ ofString name := by decide +kernel
  have values : 13 ∉ ofString (if keepAlive then "keep-alive" else "close") := by
    cases keepAlive
    · exact clean_literals "close" (by decide)
    · exact clean_literals "keep-alive" (by decide)
  unfold framingHeaders at member
  simp only [List.cons_append, List.nil_append, List.mem_cons] at member
  rcases member with rfl | rfl | rfl | rfl | elapsed
  · exact ⟨(names _ (by decide)).1, (names _ (by decide)).2, clean_headerSafe _⟩
  · exact ⟨(names _ (by decide)).1, (names _ (by decide)).2, clean_decimal _⟩
  · exact ⟨(names "Connection" (by decide)).1, (names "Connection" (by decide)).2, values⟩
  · exact ⟨(names _ (by decide)).1, (names _ (by decide)).2, clean_httpDate _⟩
  · split at elapsed
    · rw [List.mem_singleton.mp elapsed]
      exact ⟨(names _ (by decide)).1, (names _ (by decide)).2, clean_decimal _⟩
    · cases elapsed

theorem clean_safeHeaders {extraHeaders : Headers} {header : Text × Text}
    (member : header ∈ safeHeaders extraHeaders) : 13 ∉ header.1 ∧ 58 ∉ header.1 ∧ 13 ∉ header.2 := by
  rcases List.mem_map.mp member with ⟨kept, _, rfl⟩
  exact ⟨clean_headerNameSafe _, colon_headerNameSafe _, clean_headerSafe _⟩

section Response

variable (now : Tm) (status : Int) (body : Text) (keepAlive : Bool) (contentType : Text)
  (extraHeaders : Headers) (elapsedMs : UInt32) (contentLength : Nat)

theorem clean_headLines (line : Text)
    (member : line ∈ headLines now status keepAlive contentType extraHeaders elapsedMs contentLength) :
    13 ∉ line ∧ line ≠ [] := by
  rcases List.mem_cons.mp member with rfl | header
  · refine ⟨clean_statusLine status, ?_⟩
    unfold statusLine
    intro empty
    simp only [List.append_eq_nil_iff, literal_starts.1] at empty
    cases empty.1.1.1
  · rcases List.mem_map.mp header with ⟨⟨name, value⟩, listed, rfl⟩
    have clean : 13 ∉ name ∧ 58 ∉ name ∧ 13 ∉ value :=
      (List.mem_append.mp listed).elim clean_framingHeaders clean_safeHeaders
    refine ⟨clean_append (clean_append clean.1 (clean_literals _ (by decide))) clean.2.2, ?_⟩
    unfold headerLine
    intro empty
    simp only [List.append_eq_nil_iff, literal_starts.2] at empty
    cases empty.1.2

/-! ## What is sent -/

theorem appendExtraHeaders_eq (out : Text) :
    appendExtraHeaders out extraHeaders =
      out ++ (headerLines (safeHeaders extraHeaders)).flatMap fun line => crlf ++ line := by
  unfold appendExtraHeaders
  induction extraHeaders generalizing out with
  | nil => exact (List.append_nil out).symm
  | cons header rest inductionHypothesis =>
      rcases header with ⟨name, value⟩
      rw [List.foldl_cons, inductionHypothesis]
      by_cases reserved : isReservedFramingHeader name = true
      · simp only [reserved, if_true, safeHeaders, keptHeaders, List.filter_cons, Bool.not_true,
          Bool.false_eq_true, if_false]
      · rw [Bool.not_eq_true] at reserved
        simp only [reserved, Bool.false_eq_true, if_false, safeHeaders, keptHeaders, headerLines, headerLine,
          List.filter_cons, Bool.not_false, if_true, List.map_cons, List.flatMap_cons, List.append_assoc,
          literal_lines.1]

/-- A response is its lines, a blank line and the body. -/
theorem buildResponse_eq :
    buildResponse now status body keepAlive contentType extraHeaders elapsedMs contentLength =
      joinLines crlf (headLines now status keepAlive contentType extraHeaders elapsedMs contentLength) ++
        blankLine ++ body := by
  rcases literal_lines with ⟨_, ending, contentTypeName, contentLengthName, connectionName, dateName, elapsedName⟩
  unfold buildResponse headLines
  rw [joinLines_cons]
  simp only [appendExtraHeaders_eq, contentTypeName, contentLengthName, connectionName, dateName, elapsedName,
    ending, headerLines, List.map_append, List.flatMap_append, framingHeaders, headerLine, statusLine]
  by_cases elapsed : 0 < elapsedMs
  · simp only [if_pos elapsed, List.map_cons, List.map_nil, List.flatMap_cons, List.flatMap_nil,
      List.append_assoc, List.nil_append]
  · simp only [if_neg elapsed, List.map_cons, List.map_nil, List.flatMap_cons, List.flatMap_nil,
      List.append_assoc, List.nil_append]

/-! ## Who may set the framing -/

/-- The names of `IsReservedFramingHeader`. -/
def reservedNames : List Text := [
  ofString "Content-Length",
  ofString "Content-Type",
  ofString "Connection",
  ofString "Date",
  ofString "Transfer-Encoding"]

theorem isReservedFramingHeader_iff {name : Text} : isReservedFramingHeader name = true ↔
    exists reserved, reserved ∈ reservedNames ∧ asciiIeq name reserved = true := by
  simp only [isReservedFramingHeader, reservedNames, List.mem_cons, List.not_mem_nil, or_false, Bool.or_eq_true,
    exists_eq_or_imp, exists_eq_left, or_assoc]

theorem lineName_headerLine {name : Text} (noColon : 58 ∉ name) (value : Text) :
    lineName (headerLine name value) = name := by
  unfold lineName headerLine
  rw [literal_starts.2, List.append_assoc, List.takeWhile_append_of_pos, List.cons_append, List.takeWhile_cons,
    if_neg (by decide), List.append_nil]
  intro c member
  rw [bne_iff_ne]
  rintro rfl
  exact noColon member

/-- The status line carries no header that is reserved. -/
theorem asciiIeq_statusLine {reserved : Text} (listed : reserved ∈ reservedNames) :
    asciiIeq (lineName (statusLine status)) reserved = false := by
  have heads : forall name, name ∈ reservedNames -> (name.map toLower).head? ≠ some (toLower 72) := by
    decide +kernel
  by_contra same
  rw [Bool.not_eq_false, asciiIeq_iff] at same
  refine heads reserved listed ?_
  rw [← same]
  unfold lineName statusLine
  rw [literal_starts.1, List.cons_append, List.cons_append, List.cons_append, List.takeWhile_cons, if_pos (by decide),
    List.map_cons, List.head?_cons]

theorem linesNamed_headerLines (name : Text) {headers : Headers}
    (noColon : forall header, header ∈ headers -> 58 ∉ header.1) :
    linesNamed name (headerLines headers) =
      headerLines (headers.filter fun header => asciiIeq header.1 name) := by
  unfold linesNamed headerLines
  rw [List.filter_map]
  congr 1
  refine List.filter_congr fun header member => ?_
  simp only [Function.comp_apply]
  rw [lineName_headerLine (noColon header member)]

theorem mem_reservedNames : ofString "Content-Length" ∈ reservedNames ∧ ofString "Content-Type" ∈ reservedNames ∧
    ofString "Connection" ∈ reservedNames ∧ ofString "Date" ∈ reservedNames ∧
    ofString "Transfer-Encoding" ∈ reservedNames := by
  simp only [reservedNames, List.mem_cons, true_or, or_true, and_self]

/-- How often the core writes a header with a reserved name. -/
def coreCount (reserved : Text) : Nat :=
  if reserved = ofString "Transfer-Encoding" then 0 else 1

theorem coreCount_reserved : coreCount (ofString "Content-Length") = 1 ∧ coreCount (ofString "Content-Type") = 1 ∧
    coreCount (ofString "Connection") = 1 ∧ coreCount (ofString "Date") = 1 ∧
    coreCount (ofString "Transfer-Encoding") = 0 := by
  decide +kernel

theorem countP_framingHeaders {reserved : Text} (listed : reserved ∈ reservedNames) :
    (framingHeaders now keepAlive contentType elapsedMs contentLength).countP
        (fun header => asciiIeq header.1 reserved) = coreCount reserved := by
  have names : (framingHeaders now keepAlive contentType elapsedMs contentLength).map Prod.fst =
      [ofString "Content-Type", ofString "Content-Length", ofString "Connection", ofString "Date"] ++
        if 0 < elapsedMs then [ofString "X-Elapsed-Ms"] else [] := by
    unfold framingHeaders
    by_cases elapsed : 0 < elapsedMs
    · rw [if_pos elapsed, if_pos elapsed]
      rfl
    · rw [if_neg elapsed, if_neg elapsed]
      rfl
  have counted : (framingHeaders now keepAlive contentType elapsedMs contentLength).countP
      (fun header => asciiIeq header.1 reserved) =
      ((framingHeaders now keepAlive contentType elapsedMs contentLength).map Prod.fst).countP
        fun name => asciiIeq name reserved := by
    rw [List.countP_map]
    rfl
  rw [counted, names]
  have both : forall names, names ∈ [[ofString "X-Elapsed-Ms"], []] ->
      forall reserved, reserved ∈ reservedNames ->
        ([ofString "Content-Type", ofString "Content-Length", ofString "Connection", ofString "Date"] ++
          names).countP (fun name => asciiIeq name reserved) = coreCount reserved := by
    decide +kernel
  refine both _ ?_ reserved listed
  split
  · exact List.mem_cons_self
  · exact List.mem_cons_of_mem _ List.mem_cons_self

/-- The extra headers that would be read as a framing header. -/
def forged (reserved : Text) : Headers :=
  (safeHeaders extraHeaders).filter fun header => asciiIeq header.1 reserved

/-- The lines with a reserved name are the core's own, if any, and forged ones. -/
theorem linesNamed_headLines {reserved : Text} (listed : reserved ∈ reservedNames) :
    linesNamed reserved
        (headLines now status keepAlive contentType extraHeaders elapsedMs contentLength) =
      headerLines ((framingHeaders now keepAlive contentType elapsedMs contentLength).filter
        fun header => asciiIeq header.1 reserved) ++ headerLines (forged extraHeaders reserved) := by
  have noColon : forall header,
      header ∈ framingHeaders now keepAlive contentType elapsedMs contentLength ++ safeHeaders extraHeaders ->
        58 ∉ header.1 :=
    fun header member => (List.mem_append.mp member).elim
      (fun framing => (clean_framingHeaders framing).2.1) fun safe => (clean_safeHeaders safe).2.1
  unfold headLines
  rw [linesNamed, List.filter_cons, if_neg (by rw [asciiIeq_statusLine status listed]; exact Bool.false_ne_true)]
  rw [← linesNamed, linesNamed_headerLines reserved noColon, List.filter_append, headerLines, List.map_append]
  rfl

theorem length_linesNamed {reserved : Text} (listed : reserved ∈ reservedNames) :
    (linesNamed reserved
        (headLines now status keepAlive contentType extraHeaders elapsedMs contentLength)).length =
      coreCount reserved + (forged extraHeaders reserved).length := by
  rw [linesNamed_headLines _ _ _ _ _ _ _ listed, List.length_append, headerLines, headerLines, List.length_map,
    List.length_map, ← countP_framingHeaders now keepAlive contentType elapsedMs contentLength listed,
    List.countP_eq_length_filter]

/-- The bytes before the first blank line. -/
def headOf (frame : Text) : Text :=
  frame.take ((findSub blankLine frame).getD frame.length)

/-- What a client reads from a response: the core's head, then the body, with
every framing header once and the core's own. -/
structure WellFramed (frame : Text) : Prop where
  split : frame = headOf frame ++ blankLine ++ body
  lines : splitLines 13 10 (headOf frame) =
    headLines now status keepAlive contentType extraHeaders elapsedMs contentLength
  contentLengthLine : linesNamed (ofString "Content-Length") (splitLines 13 10 (headOf frame)) =
    [headerLine (ofString "Content-Length") (decimal contentLength)]
  connection : (linesNamed (ofString "Connection") (splitLines 13 10 (headOf frame))).length = 1
  contentTypeLine : (linesNamed (ofString "Content-Type") (splitLines 13 10 (headOf frame))).length = 1
  date : (linesNamed (ofString "Date") (splitLines 13 10 (headOf frame))).length = 1
  transferEncoding : linesNamed (ofString "Transfer-Encoding") (splitLines 13 10 (headOf frame)) = []

theorem headOf_buildResponse :
    headOf (buildResponse now status body keepAlive contentType extraHeaders elapsedMs contentLength) =
      joinLines crlf (headLines now status keepAlive contentType extraHeaders elapsedMs contentLength) := by
  have clean := clean_headLines now status keepAlive contentType extraHeaders elapsedMs contentLength
  have found : findSub blankLine (joinLines crlf (headLines now status keepAlive contentType extraHeaders
      elapsedMs contentLength) ++ blankLine ++ body) = some (joinLines crlf (headLines now status keepAlive
        contentType extraHeaders elapsedMs contentLength)).length :=
    findSub_joinLines (by decide) (List.cons_ne_nil _ _) (fun line member => (clean line member).1)
      (fun line member => (clean line member).2) body
  unfold headOf
  rw [buildResponse_eq, found, Option.getD_some, List.append_assoc, List.take_left]

theorem splitLines_buildResponse :
    splitLines 13 10
        (headOf (buildResponse now status body keepAlive contentType extraHeaders elapsedMs contentLength)) =
      headLines now status keepAlive contentType extraHeaders elapsedMs contentLength := by
  rw [headOf_buildResponse]
  exact splitLines_joinLines (List.cons_ne_nil _ _) fun line member =>
    (clean_headLines now status keepAlive contentType extraHeaders elapsedMs contentLength line member).1

/-- A header is forged exactly when its name becomes reserved by being made safe. -/
theorem forged_eq_nil_iff : (forall reserved, reserved ∈ reservedNames -> forged extraHeaders reserved = []) ↔
    forall header, header ∈ extraHeaders -> isReservedFramingHeader (headerNameSafe header.1) = true ->
      isReservedFramingHeader header.1 = true := by
  constructor
  · intro none header listed becomes
    by_contra kept
    rcases isReservedFramingHeader_iff.mp becomes with ⟨reserved, isReserved, same⟩
    have safe : (headerNameSafe header.1, headerSafe header.2) ∈ safeHeaders extraHeaders := by
      refine List.mem_map.mpr ⟨header, List.mem_filter.mpr ⟨listed, ?_⟩, rfl⟩
      rw [Bool.not_eq_true] at kept
      simp only [kept, Bool.not_false]
    have isForged : (headerNameSafe header.1, headerSafe header.2) ∈ forged extraHeaders reserved :=
      List.mem_filter.mpr ⟨safe, same⟩
    rw [none reserved isReserved] at isForged
    cases isForged
  · intro honest reserved isReserved
    refine List.filter_eq_nil_iff.mpr fun header member same => ?_
    rcases List.mem_map.mp member with ⟨⟨name, value⟩, kept, rfl⟩
    rcases List.mem_filter.mp kept with ⟨listed, unreserved⟩
    have becomes : isReservedFramingHeader name = true :=
      honest (name, value) listed (isReservedFramingHeader_iff.mpr ⟨reserved, isReserved, same⟩)
    simp only [becomes, Bool.not_true, Bool.false_eq_true] at unreserved

/-- Handlers cannot forge the framing of a response exactly when none of their
header names becomes reserved once the bytes that would break a line are
dropped from it. -/
theorem buildResponse_wellFramed_iff :
    WellFramed now status body keepAlive contentType extraHeaders elapsedMs contentLength
        (buildResponse now status body keepAlive contentType extraHeaders elapsedMs contentLength) ↔
      forall header, header ∈ extraHeaders -> isReservedFramingHeader (headerNameSafe header.1) = true ->
        isReservedFramingHeader header.1 = true := by
  rw [← forged_eq_nil_iff]
  have total := fun reserved (listed : reserved ∈ reservedNames) =>
    length_linesNamed now status keepAlive contentType extraHeaders elapsedMs contentLength listed
  rcases coreCount_reserved with ⟨lengthCount, typeCount, connectionCount, dateCount, transferCount⟩
  rcases mem_reservedNames with ⟨lengthName, typeName, connectionName, dateName, transferName⟩
  constructor
  · rintro ⟨_, _, oneLength, oneConnection, oneType, oneDate, noTransfer⟩ reserved listed
    rw [splitLines_buildResponse] at oneLength oneConnection oneType oneDate noTransfer
    have sum := total reserved listed
    have count : (linesNamed reserved (headLines now status keepAlive contentType extraHeaders elapsedMs
        contentLength)).length = coreCount reserved := by
      simp only [reservedNames, List.mem_cons, List.not_mem_nil, or_false] at listed
      rcases listed with rfl | rfl | rfl | rfl | rfl
      · rw [oneLength, lengthCount, List.length_singleton]
      · rw [oneType, typeCount]
      · rw [oneConnection, connectionCount]
      · rw [oneDate, dateCount]
      · rw [noTransfer, transferCount, List.length_nil]
    exact List.eq_nil_of_length_eq_zero (by omega)
  · intro none
    have exact : forall reserved, reserved ∈ reservedNames ->
        (linesNamed reserved (headLines now status keepAlive contentType extraHeaders elapsedMs
          contentLength)).length = coreCount reserved := by
      intro reserved listed
      rw [total reserved listed, none reserved listed, List.length_nil, Nat.add_zero]
    refine ⟨?_, ?_, ?_, ?_, ?_, ?_, ?_⟩
    · rw [headOf_buildResponse, ← buildResponse_eq]
    · exact splitLines_buildResponse ..
    · rw [splitLines_buildResponse]
      have one := exact _ lengthName
      rw [lengthCount] at one
      rcases List.length_eq_one_iff.mp one with ⟨line, single⟩
      have own : headerLine (ofString "Content-Length") (decimal contentLength) ∈
          linesNamed (ofString "Content-Length") (headLines now status keepAlive contentType extraHeaders
            elapsedMs contentLength) := by
        rw [linesNamed_headLines _ _ _ _ _ _ _ lengthName]
        refine List.mem_append_left _ (List.mem_map.mpr
          ⟨(ofString "Content-Length", decimal contentLength), List.mem_filter.mpr ⟨?_, ?_⟩, rfl⟩)
        · exact List.mem_cons_of_mem _ List.mem_cons_self
        · exact asciiIeq_iff.mpr rfl
      rw [single] at own ⊢
      rw [List.mem_singleton.mp own]
    · rw [splitLines_buildResponse, exact _ connectionName, connectionCount]
    · rw [splitLines_buildResponse, exact _ typeName, typeCount]
    · rw [splitLines_buildResponse, exact _ dateName, dateCount]
    · rw [splitLines_buildResponse]
      have zero := exact _ transferName
      rw [transferCount] at zero
      exact List.eq_nil_of_length_eq_zero zero

end Response

/-- The morning of 6 November 1994. -/
def sampleTime : Tm := ⟨37, 49, 8, 6, 10, 94, 0⟩

example : httpDate sampleTime = ofString "Sun, 06 Nov 1994 08:49:37 GMT" := by decide +kernel

/-- A space in a name is dropped after the name was compared. -/
theorem not_wellFramed_forged :
    ¬ WellFramed sampleTime 200 (ofString "ok") true (ofString "application/json")
      [(ofString "Content-Length ", ofString "0")] 0 2
      (buildResponse sampleTime 200 (ofString "ok") true (ofString "application/json")
        [(ofString "Content-Length ", ofString "0")] 0 2) := by
  intro framed
  have single := congrArg List.length framed.contentLengthLine
  revert single
  decide +kernel

end BravoFinder
