import EventRelay.Text.Number
import EventRelay.Url.Basic
import EventRelay.Url.Host

/-!
# Reading addresses of the web

An address that stands alone begins with a scheme. What follows is cut at its marks from left to
right: authority, path, query, fragment; and each part is brought into its printed form.

* `Url.parse?`: the address of a text.
* `resolveDots_of_plain`: a path without dots keeps its segments.
* `leave_of_drive`: the drive of a path is not left.
-/

namespace EventRelay.Url

/-! ## Characters that are printed as they are -/

/-- Characters of a fragment. -/
def inFragment (c : Char) : Bool :=
  0x1F < c.toNat && c.toNat < 0x7F && !" \"<>\x60".toList.contains c

/-- Characters of a path. -/
def inPath (c : Char) : Bool := inFragment c && !"#?\x7b\x7d".toList.contains c

/-- Characters of a user name or password. -/
def inCredentials (c : Char) : Bool := inPath c && !"/:;=@[\\]^|".toList.contains c

/-- Characters of a query. -/
def inQuery (special : Bool) (c : Char) : Bool :=
  0x1F < c.toNat && c.toNat < 0x7F && !" \"#<>".toList.contains c && !(special && c = '\x27')

/-- Characters of a path that is not made of segments. -/
def inOpaquePath (c : Char) : Bool := 0x1F < c.toNat && c.toNat < 0x7F

/-- A text in printed form. -/
def printed (allowed : Char → Bool) (cs : List Char) : String :=
  String.ofList (Text.percentEncode allowed cs)

/-! ## Cutting at marks -/

/-- What stands before the first character that satisfies a test, and the rest from it on. -/
def cutAt (mark : Char → Bool) (cs : List Char) : List Char × List Char :=
  (cs.takeWhile (fun c => !mark c), cs.dropWhile (fun c => !mark c))

/-- The rest after a mark that the text may begin with. -/
def after? (mark : Char) : List Char → Option (List Char)
  | c :: rest => if c = mark then some rest else none
  | [] => none

/-- What stands before the last occurrence of a character, if there is one, and what stands after
it. -/
def cutAtLast (mark : Char) (cs : List Char) : Option (List Char) × List Char :=
  let tail := (cs.reverse.takeWhile (· ≠ mark)).reverse
  if tail.length = cs.length then (none, cs)
  else (some (cs.take (cs.length - tail.length - 1)), tail)

/-! ## Margins and breaks -/

/-- Tabs and line ends, which do not count. -/
def isBreak (c : Char) : Bool := c = '\t' || c = '\n' || c = '\r'

/-- What counts of a text. -/
def withoutBreaks (cs : List Char) : List Char := cs.filter (!isBreak ·)

/-- Blanks and control characters, which may surround an address. -/
def isMargin (c : Char) : Bool := c.toNat ≤ 0x20

/-- A text without its margins. -/
def withoutMargins (s : String) : List Char :=
  ((s.toList.dropWhile isMargin).reverse.dropWhile isMargin).reverse

/-! ## Scheme -/

/-- Whether a character may stand in a scheme. -/
def isSchemeChar (c : Char) : Bool := c.isAlphanum || c = '+' || c = '-' || c = '.'

/-- The scheme in lower case and what follows its colon. -/
def readScheme? (cs : List Char) : Option (String × List Char) :=
  let (name, rest) := cutAt (· = ':') cs
  match withoutBreaks name, rest with
  | first :: more, _ :: rest =>
    if first.isAlpha && more.all isSchemeChar then
      some (String.ofList ((first :: more).map Char.toLower), rest)
    else none
  | _, _ => none

/-! ## Authority -/

/-- User name and password in printed form; an empty password is none. -/
def readCredentials (cs : List Char) : String × Option String :=
  let (name, rest) := cutAt (· = ':') cs
  (printed inCredentials name,
    match rest with
    | _ :: c :: password => some (printed inCredentials (c :: password))
    | _ => none)

/-- Host and port; a colon inside brackets belongs to the host. -/
def splitPort (cs : List Char) : List Char × Option (List Char) :=
  let (inside, outside) : List Char × List Char :=
    if cs.head? = some '[' then
      let (inside, rest) := cutAt (· = ']') cs
      (inside ++ rest.take 1, rest.drop 1)
    else ([], cs)
  let (name, rest) := cutAt (· = ':') outside
  (inside ++ name, after? ':' rest)

/-- The port of a text of digits, none when it is empty or that of the scheme. -/
def readPort? (scheme : String) (cs : List Char) : Option (Option Nat) :=
  if cs.isEmpty then some none
  else (Text.digits? cs).bind (fun n =>
    if 65535 < n then none else some (if defaultPort? scheme = some n then none else some n))

/-- Whether nothing is said about a user. A sign for one without a name is an error where more of
the address follows. -/
def isNobody (isLast : Bool) : Option (List Char) → Bool
  | none | some [':'] => true
  | some [] => isLast
  | some _ => false

/-- The authority of an address, and what follows the port in it; `none` when it is malformed.
`isLast` says whether the address ends with its authority. -/
def readAuthority? (scheme : String) (cs : List Char) (isLast : Bool) (u : Url) :
    Option (Url × List Char) := do
  let (credentials, place) := cutAtLast '@' cs
  let (name, port) := splitPort place
  let (port, rest) := cutAt (· = '\\') (port.getD [])
  let special := isSpecial scheme
  let port ← readPort? scheme port
  if name.isEmpty then
    if special || !isNobody isLast credentials || place.head? = some ':' then none
    else some ({ u with authority := true }, rest)
  else
    let host ← if special then hostText? name else opaqueHostText? name
    let (username, password) := readCredentials (credentials.getD [])
    some ({ u with authority := true, username := username, password := password,
                   host := some host, port := port }, rest)

/-! ## Path -/

/-- Whether a segment stands for its own place. -/
def isSingleDot (s : String) : Bool := [".", "%2e"].contains (Text.asciiLower s)

/-- Whether a segment stands for the place above. -/
def isDoubleDot (s : String) : Bool :=
  ["..", ".%2e", "%2e.", "%2e%2e"].contains (Text.asciiLower s)

/-- Whether a text begins with the letter of a drive and its sign. -/
def startsWithDrive : List Char → Bool
  | letter :: sign :: rest =>
    letter.isAlpha && (sign = ':' || sign = '|') && rest.head?.all (· = '\\')
  | _ => false

/-- Whether a text is the letter of a drive and its sign. -/
def isDrive (cs : List Char) : Bool := cs.length = 2 && startsWithDrive cs

/-- The place above the nearest of some segments. A drive is not left. -/
def leave : List String → List String
  | s :: above => if startsWithDrive s.toList then s :: above else above
  | [] => []

/-- The segments of a path, the nearest first, after one more. Behind dots at the end stands an
empty segment. -/
def enter (above : List String) (s : String) (isLast : Bool) : List String :=
  if isDoubleDot s then if isLast then "" :: leave above else leave above
  else if isSingleDot s then if isLast then "" :: above else above
  else s :: above

/-- The segments of a path once dots are resolved, `above` being those before, the nearest
first. -/
def resolveDots (above : List String) : List String → List String
  | [] => above.reverse
  | s :: rest => resolveDots (enter above s rest.isEmpty) rest

/-- A path of segments behind its first slash. -/
def readSegments (special : Bool) (cs : List Char) : List String :=
  let cs := if special then cs.map (fun c => if c = '\\' then '/' else c) else cs
  resolveDots [] ((Text.split '/' cs).map (printed inPath))

/-! ## Files -/

/-- Whether a character stands between the segments of the path of a file. -/
def isFileSlash (c : Char) : Bool := c = '/' || c = '\\'

/-- What follows the slash that a text begins with. -/
def afterSlash? (cs : List Char) : Option (List Char) :=
  match cs.dropWhile isBreak with
  | c :: rest => if isFileSlash c then some rest else none
  | [] => none

/-- A drive, and the rest of its segment when only breaks stand between. -/
def tear? (s : List Char) : Option (String × List Char) :=
  match s.dropWhile isBreak with
  | [] => none
  | letter :: s =>
    match s.dropWhile isBreak with
    | sign :: c :: rest =>
      if isDrive [letter, sign] && isBreak c && rest.any (!isBreak ·) then
        some (String.ofList [letter, sign], rest)
      else none
    | _ => none

/-- The segments of the path of a file, and whether the file is on a host. A drive at the start
belongs to no host; with breaks behind it, the rest of its segment is a segment of its own, whatever
it says. -/
def resolveFile (above : List String) (hosted : Bool) : List (List Char) → List String × Bool
  | [] => (above.reverse, hosted)
  | s :: rest =>
    let text := printed inPath (withoutBreaks s)
    match above, tear? s, withoutBreaks s with
    | [], some (drive, s), _ =>
      resolveFile [printed inPath (withoutBreaks s), drive] hosted rest
    | [], none, [letter, sign] =>
      if isDrive [letter, sign] then resolveFile [String.ofList [letter, ':']] false rest
      else resolveFile (enter [] text rest.isEmpty) hosted rest
    | above, _, _ => resolveFile (enter above text rest.isEmpty) hosted rest

/-- The path of a file, behind its first slash, on a host or on none. -/
def withFilePath (u : Url) (cs : List Char) : Url :=
  let cs := cs.map (fun c => if c = '\\' then '/' else c)
  let (segments, hosted) := resolveFile [] true (Text.split '/' cs)
  let segments := segments.dropWhile String.isEmpty
  { u with
    host := if hosted then u.host else none
    path := if segments.isEmpty then [""] else segments }

/-- The address of a file from what follows its scheme. -/
def readFile? (cs : List Char) : Option Url :=
  let u : Url := ⟨"file", true, "", none, none, none, true, [], none, none⟩
  match afterSlash? cs with
  | none => some (withFilePath u cs)
  | some rest =>
    match afterSlash? rest with
    | none => some (withFilePath u rest)
    | some rest =>
      let (host, path) := cutAt isFileSlash rest
      let host := withoutBreaks host
      if isDrive host then some (withFilePath u rest)
      else if host.isEmpty then some (withFilePath u (path.drop 1))
      else (hostText? host).map (fun h =>
        withFilePath { u with host := if h = "localhost" then none else some h } (path.drop 1))

/-! ## The whole address -/

/-- The path of an address that is not that of a file, and all before it. `isLast` says whether
nothing follows the path. -/
def readPlace? (scheme : String) (cs : List Char) (isLast : Bool) : Option Url :=
  let special := isSpecial scheme
  let isSlash (c : Char) : Bool := c = '/' || (special && c = '\\')
  let u : Url := ⟨scheme, false, "", none, none, none, false, [], none, none⟩
  let withPath (u : Url) (path : List Char) : Url :=
    match path with
    | [] => if special then { u with rooted := true, path := [""] } else u
    | c :: rest =>
      { u with rooted := true, path := readSegments special (if isSlash c then rest else path) }
  let withAuthority (cs : List Char) : Option Url :=
    let (authority, path) := cutAt isSlash cs
    (readAuthority? scheme authority (isLast && path.isEmpty) u).map
      (fun (u, rest) => withPath u (rest ++ path))
  let slashes := (cs.takeWhile isSlash).length
  if special then withAuthority (cs.drop slashes)
  else if 2 ≤ slashes then withAuthority (cs.drop 2)
  else if slashes = 1 then some (withPath u cs)
  else some { u with path := [printed inOpaquePath cs] }

/-- The address of a text. -/
def parse? (s : String) : Option Url := do
  let (scheme, rest) ← readScheme? (withoutMargins s)
  let (rest, fragment) := cutAt (· = '#') rest
  let (place, query) := cutAt (· = '?') rest
  let u ← if scheme = "file" then readFile? place
    else readPlace? scheme (withoutBreaks place) (query.isEmpty && fragment.isEmpty)
  let printedPart (allowed : Char → Bool) (cs : List Char) : String :=
    printed allowed (withoutBreaks cs)
  some { u with
    query := (after? '?' query).map (printedPart (inQuery (isSpecial scheme)))
    fragment := (after? '#' fragment).map (printedPart inFragment) }

/-! ## Drives, and paths without dots -/

/-- The drive of a path is not left. -/
theorem leave_of_drive {s : String} {above : List String}
    (h : startsWithDrive s.toList = true) : leave (s :: above) = s :: above := by
  rw [leave, if_pos h]

/-- A path without dots keeps its segments. -/
theorem resolveDots_of_plain (above : List String) {segments : List String}
    (h : ∀ s ∈ segments, isDoubleDot s = false ∧ isSingleDot s = false) :
    resolveDots above segments = above.reverse ++ segments := by
  induction segments generalizing above with
  | nil => simp [resolveDots]
  | cons s rest ih =>
    have hs := h s List.mem_cons_self
    have hr := ih (s :: above) (fun t ht => h t (List.mem_cons_of_mem _ ht))
    simp [resolveDots, enter, hs.1, hs.2, hr]

end EventRelay.Url
