import EventRelay.Text.Percent
import EventRelay.Text.Utf8

/-!
# Addresses of the web

An address in its parts, and the one text in which it is printed.

* `Url.text`: the printed address.
* `Url.withoutCredentials`: the address that may be shown to anybody.
-/

namespace EventRelay

/-- An address. The parts stand in the form in which they are printed; the path of an address
without slashes is one segment. -/
structure Url where
  scheme : String
  authority : Bool
  username : String
  password : Option String
  host : Option String
  port : Option Nat
  rooted : Bool
  path : List String
  query : Option String
  fragment : Option String
  deriving DecidableEq, Repr

namespace Url

/-- The port of a scheme; a scheme that has one is laid out the way of the web. -/
def defaultPort? (scheme : String) : Option Nat :=
  match scheme with
  | "http" | "ws" => some 80
  | "https" | "wss" => some 443
  | "ftp" => some 21
  | _ => none

/-- Whether a scheme is laid out the way of the web. -/
def isSpecial (scheme : String) : Bool := (defaultPort? scheme).isSome || scheme = "file"

/-- The user name and password of a printed address. -/
def credentialsText (u : Url) : String :=
  let password := match u.password with
    | some p => ":" ++ p
    | none => ""
  if u.username.isEmpty && u.password.isNone then "" else u.username ++ password ++ "@"

/-- The part of a printed address between its scheme and its path. -/
def authorityText (u : Url) : String :=
  if u.authority then
    "//" ++ u.credentialsText ++ u.host.getD "" ++
      (match u.port with
        | some p => ":" ++ toString p
        | none => "")
  else ""

/-- The path of a printed address. -/
def pathText (u : Url) : String :=
  if u.rooted then
    (if !u.authority && u.path.head? = some "" && 1 < u.path.length then "/." else "") ++
      "/" ++ String.intercalate "/" u.path
  else String.intercalate "/" u.path

/-- The printed address. -/
def text (u : Url) : String :=
  u.scheme ++ ":" ++ u.authorityText ++ u.pathText ++
    (match u.query with
      | some q => "?" ++ q
      | none => "") ++
    (match u.fragment with
      | some f => "#" ++ f
      | none => "")

/-- The text that percent signs stand for, if it is well formed. -/
def decoded? (s : String) : Option String :=
  Text.decode? ⟨(Text.percentDecode s.toUTF8.toList).toArray⟩

/-- The user name and password that an address carries, if the name is well formed; a password
that is not is none. -/
def credentials? (u : Url) : Option (String × Option String) := do
  let name ← decoded? u.username
  let password := u.password.bind decoded?
  if name.isEmpty && password.isNone then none else some (name, password)

/-- The address without the user name and password that it carries. -/
def withoutCredentials (u : Url) : Url :=
  if u.credentials?.isSome then { u with username := "", password := none } else u

end Url
end EventRelay
