import EventRelay.Http.Token
import EventRelay.Json.Printer
import EventRelay.Text.Utf8

/-!
# Requests that come in and their responses

Headers are kept in their order, under names in lower case; a name may stand several times. A look
up takes the first value, and reads it only if it is plain text.

* `Headers.text?`: the text of a header.
* `Headers.set`: a header in place of all of its name.
* `Response.withLength`: a response that says how long its body is.
* `find?_set_self`, `find?_set_of_ne`: what a write does to a read.
-/

namespace EventRelay.Http

-- Bytes are compared as the core library does, also where another instance is in sight.
local instance (priority := high) bytesDecidableEq : DecidableEq ByteArray := ByteArray.decEq

/-- Names in lower case with a value each, in order. -/
abbrev Headers := List (String × ByteArray)

namespace Headers

/-- The first value of a header. -/
def find? (headers : Headers) (name : String) : Option ByteArray :=
  headers.lookup (headerName name)

/-- The text of a header, if its first value is plain text. -/
def text? (headers : Headers) (name : String) : Option String :=
  ((headers.find? name).filter isReadable).bind Text.decode?

/-- The text of a header that is there and not empty. -/
def nonEmpty? (headers : Headers) (name : String) : Option String :=
  (headers.text? name).filter (fun s => !s.isEmpty)

/-- Every header that is plain text; of two with one name the later counts. -/
def readable (headers : Headers) : Entries String :=
  Entries.ofList (headers.filterMap (fun h =>
    if isReadable h.2 then (Text.decode? h.2).map (fun s => (h.1, s)) else none))

/-- A header in place of all of its name. -/
def set (headers : Headers) (name : String) (value : ByteArray) : Headers :=
  headers.filter (fun h => h.1 ≠ headerName name) ++ [(headerName name, value)]

/-- Headers under names in any case. -/
def ofList (headers : List (String × ByteArray)) : Headers :=
  headers.map (fun h => (headerName h.1, h.2))

/-- Headers with texts as values. -/
def ofTexts (headers : List (String × String)) : Headers :=
  ofList (headers.map (fun h => (h.1, h.2.toUTF8)))

private theorem lookup_append_self {name : String} {value : ByteArray} {headers : Headers}
    (h : ∀ e ∈ headers, e.1 ≠ name) : (headers ++ [(name, value)]).lookup name = some value := by
  induction headers with
  | nil => simp
  | cons e rest ih =>
    obtain ⟨k, v⟩ := e
    have hk : ¬ name = k := fun he => h (k, v) List.mem_cons_self he.symm
    simp only [List.cons_append, List.lookup_cons]
    split
    · next heq => exact absurd (beq_iff_eq.1 heq) hk
    · exact ih (fun e he => h e (List.mem_cons_of_mem _ he))

/-- A header that was set has the value it was set to. -/
theorem find?_set_self (headers : Headers) (name : String) (value : ByteArray) :
    (headers.set name value).find? name = some value := by
  refine lookup_append_self (fun e he => ?_)
  simpa using (List.mem_filter.1 he).2

private theorem lookup_filter_ne {name other : String} (h : other ≠ name) (headers : Headers) :
    (headers.filter (fun e => e.1 ≠ name)).lookup other = headers.lookup other := by
  induction headers with
  | nil => rfl
  | cons e rest ih =>
    obtain ⟨k, v⟩ := e
    by_cases hk : k = name
    · subst hk
      have : (other == k) = false := by simpa using h
      simp only [ne_eq, not_true_eq_false, decide_false, List.filter_cons_of_neg,
        Bool.false_eq_true, not_false_eq_true, List.lookup_cons, this] at ih ⊢
      exact ih
    · have hd : decide (k ≠ name) = true := by simpa using hk
      rw [List.filter_cons_of_pos (by simpa using hd)]
      simp only [List.lookup_cons]
      split
      · rfl
      · exact ih

/-- A header of another name keeps its value. -/
theorem find?_set_of_ne {name other : String} (h : headerName other ≠ headerName name)
    (headers : Headers) (value : ByteArray) :
    (headers.set name value).find? other = headers.find? other := by
  have hs : ([(headerName name, value)] : Headers).lookup (headerName other) = none := by
    have : (headerName other == headerName name) = false := by simpa using h
    simp [List.lookup_cons, this]
  simp only [set, find?, List.lookup_append, hs, Option.or_none]
  exact lookup_filter_ne h headers

end Headers

/-- A request that came in: where it goes, its headers, and its body, whose stream may break off
with a fault. -/
structure Request where
  method : String
  path : String
  query : String
  headers : Headers
  body : ByteArray
  bodyFault : Option String

namespace Request

/-- What stands before the first character that satisfies a test, and what follows it. -/
def cut (mark : Char → Bool) (cs : List Char) : List Char × List Char :=
  (cs.takeWhile (fun c => !mark c), (cs.dropWhile (fun c => !mark c)).drop 1)

/-- The part of an absolute target that begins with the path. -/
def afterHost : List Char → List Char
  | ':' :: '/' :: '/' :: rest =>
    let rest := rest.dropWhile (fun c => c ≠ '/' && c ≠ '?')
    if rest.head? = some '/' then rest else '/' :: rest
  | _ :: rest => afterHost rest
  | [] => []

/-- Path and query of a target; a fragment does not count, nor does the host of an absolute
one. -/
def splitTarget (target : String) : String × String :=
  let (cs, _) := cut (· = '#') target.toList
  let cs := if cs.head? = some '/' || cs = ['*'] then cs else afterHost cs
  let (path, query) := cut (· = '?') cs
  (String.ofList path, String.ofList query)

/-- The bytes of a body of at most `limit` bytes, or why there are none: a body over the limit, or
the fault of its stream. -/
def readBody (request : Request) (limit : Option Nat) : Except String ByteArray :=
  if limit.any (· < request.body.size) then .error "length limit exceeded"
  else match request.bodyFault with
    | some fault => .error fault
    | none => .ok request.body

end Request

/-- A response. -/
structure Response where
  status : Nat
  headers : Headers
  body : ByteArray
  deriving DecidableEq

namespace Response

/-- A response of a status alone. -/
def ofStatus (status : Nat) : Response := ⟨status, [], .empty⟩

/-- A response of bytes of no known kind. -/
def ofBytes (status : Nat) (body : ByteArray) : Response :=
  ⟨status, .ofTexts [("content-type", "application/octet-stream")], body⟩

/-- A response of plain text. -/
def ofText (status : Nat) (body : String) : Response :=
  ⟨status, .ofTexts [("content-type", "text/plain; charset=utf-8")], body.toUTF8⟩

/-- A response of a JSON document. -/
def ofJson (status : Nat) (document : Json) : Response :=
  ⟨status, .ofTexts [("content-type", "application/json")], document.render.toUTF8⟩

/-- A response that says how long its body is, unless it says so already. -/
def withLength (response : Response) : Response :=
  if (response.headers.find? "content-length").isSome then response
  else { response with headers :=
    response.headers.set "content-length" (toString response.body.size).toUTF8 }

/-- The response without its body. -/
def withoutBody (response : Response) : Response := { response with body := .empty }

/-- The response to a request of a method: it says how long its body is, and leaves it out where
only the headers were asked for. -/
def answering (method : String) (response : Response) : Response :=
  if method = "HEAD" then response.withLength.withoutBody else response.withLength

/-- The response with a correlation id in a header, if both can stand there. -/
def withCorrelation (header id : String) (response : Response) : Response :=
  if isFieldName header && isFieldValue id.toUTF8 then
    { response with headers := response.headers.set header id.toUTF8 }
  else response

/-- A correlation id changes neither the status nor the body. -/
theorem status_withCorrelation (header id : String) (response : Response) :
    (response.withCorrelation header id).status = response.status ∧
      (response.withCorrelation header id).body = response.body := by
  unfold withCorrelation
  split <;> exact ⟨rfl, rfl⟩

end Response
end EventRelay.Http
