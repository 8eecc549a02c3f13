import EventRelay.Text.Hex
import EventRelay.Text.Number
import EventRelay.Text.Percent
import EventRelay.Text.Utf8
import EventRelay.Url.Name

/-!
# Hosts

A host is a name, an address of four bytes or an address of eight words.

* `readIpv4?`, `readIpv6?`: addresses in the forms in which they are written by hand.
* `ipv4Text`, `ipv6Text`: the one form in which they are printed.
* `hostText?`: the printed form of the host of a web address.
-/

namespace EventRelay.Url

/-! ## Addresses of four bytes -/

/-- A number in octal digits after `0`, in hexadecimal digits after `0x`, else in decimal digits. -/
def readNumber? (cs : List Char) : Option Nat :=
  let value (base : Nat) (digits : List Char) : Option Nat :=
    digits.foldl (fun acc c => do
      let n ← acc
      let d ← Text.Hex.digitValue? c
      if d < base then some (base * n + d) else none) (some 0)
  match cs with
  | '0' :: x :: rest =>
    if x = 'x' || x = 'X' then value 16 rest else value 8 (x :: rest)
  | [] => none
  | cs => value 10 cs

/-- The parts of a name between points; an empty last one does not count. -/
def nameParts (cs : List Char) : List (List Char) :=
  let parts := Text.split '.' cs
  if parts.getLast? = some [] && 1 < parts.length then parts.dropLast else parts

/-- Whether the last part of a name is a number, so that the name has to be an address. -/
def endsInNumber (cs : List Char) : Bool :=
  match (nameParts cs).getLast? with
  | some last => !last.isEmpty && (last.all Char.isDigit || (readNumber? last).isSome)
  | none => false

/-- The address of at most four numbers; the last one fills the bytes that are left. -/
def readIpv4? (cs : List Char) : Option Nat := do
  let parts := nameParts cs
  let numbers ← parts.mapM readNumber?
  let last ← numbers.getLast?
  let leading := numbers.dropLast
  if numbers.length ≤ 4 && leading.all (· < 256) && last < Nat.pow 256 (5 - numbers.length) then
    some (leading.zipIdx.foldl (fun acc p => acc + p.1 * Nat.pow 256 (3 - p.2)) last)
  else none

/-- An address of four bytes, printed. -/
def ipv4Text (n : Nat) : String :=
  String.intercalate "." ([3, 2, 1, 0].map (fun i => toString (n / Nat.pow 256 i % 256)))

/-! ## Addresses of eight words -/

/-- A word of one to four hexadecimal digits. -/
def readWord? (cs : List Char) : Option Nat :=
  if cs.isEmpty || 4 < cs.length then none
  else cs.foldl (fun acc c => do
    let n ← acc
    let d ← Text.Hex.digitValue? c
    pure (16 * n + d)) (some 0)

/-- A byte in decimal digits, without a zero in front. -/
def readByte? (cs : List Char) : Option Nat :=
  match cs with
  | '0' :: _ :: _ => none
  | cs => (Text.digits? cs).filter (· < 256)

/-- The words between colons; four bytes in decimal may stand for the last two. -/
def readWords? : List (List Char) → Option (List Nat)
  | [] => some []
  | [last] =>
    match (Text.split '.' last).mapM readByte? with
    | some [a, b, c, d] => some [256 * a + b, 256 * c + d]
    | _ => (readWord? last).map ([·])
  | word :: words => do
    let w ← readWord? word
    let ws ← readWords? words
    pure (w :: ws)

/-- The words of a side of the gap; there may be none. -/
def readSide? (pieces : List (List Char)) : Option (List Nat) :=
  if pieces = [[]] then some [] else readWords? pieces

/-- What stands before and after the first pair of colons. -/
def splitGap : List Char → Option (List Char × List Char)
  | ':' :: ':' :: rest => some ([], rest)
  | c :: rest => (splitGap rest).map (fun p => (c :: p.1, p.2))
  | [] => none

/-- The eight words of an address; a pair of colons stands for one or more words of zero. -/
def readIpv6? (cs : List Char) : Option (List Nat) :=
  match splitGap cs with
  | some (left, right) => do
    let words (side : List Char) := readSide? (Text.split ':' side)
    let before ← if left.contains '.' then none else words left
    let after ← words right
    if before.length + after.length < 8 then
      some (before ++ List.replicate (8 - before.length - after.length) 0 ++ after)
    else none
  | none => (readWords? (Text.split ':' cs)).filter (·.length = 8)

/-- The length of the run of zeros at the start. -/
def zeroRun (words : List Nat) : Nat := (words.takeWhile (· = 0)).length

/-- The place and the length of the first of the longest runs of two or more zeros. -/
def longestGap (words : List Nat) : Option (Nat × Nat) :=
  (List.range words.length).foldl (fun best i =>
    let n := zeroRun (words.drop i)
    if 1 < n && best.all (fun b => b.2 < n) then some (i, n) else best) none

/-- An address of eight words, printed. -/
def ipv6Text (words : List Nat) : String :=
  let part (ws : List Nat) :=
    String.intercalate ":" (ws.map (fun w => String.ofList (Text.Hex.ofNat w)))
  match longestGap words with
  | some (i, n) => part (words.take i) ++ "::" ++ part (words.drop (i + n))
  | none => part words

/-! ## Hosts of addresses -/

/-- Whether a character may not stand in any host. -/
def isForbidden (c : Char) : Bool :=
  "\x00\t\n\r #/:<>?@[\\]^|".toList.contains c

/-- Whether a character may not stand in a name. -/
def isForbiddenInName (c : Char) : Bool :=
  isForbidden c || c = '%' || c.toNat ≤ 0x1F || 0x7F ≤ c.toNat

/-- The words between brackets, printed. -/
def bracketedText? (cs : List Char) : Option String :=
  match cs.reverse with
  | ']' :: inner => (readIpv6? inner.reverse).map (fun ws => "[" ++ ipv6Text ws ++ "]")
  | _ => none

/-- The printed form of the host of a web address: percent signs resolved, the name in ASCII. -/
def hostText? (cs : List Char) : Option String :=
  match cs with
  | '[' :: inner => bracketedText? inner
  | cs => do
    let bytes := Text.percentDecode (String.ofList cs).toUTF8.toList
    let name ← Text.decode? ⟨bytes.toArray⟩
    let name ← asciiName? name.toList
    if name.isEmpty || name.toList.any isForbiddenInName then none
    else if endsInNumber name.toList then (readIpv4? name.toList).map ipv4Text
    else some name

/-- The printed form of the host of any other address. -/
def opaqueHostText? (cs : List Char) : Option String :=
  match cs with
  | '[' :: inner => bracketedText? inner
  | cs =>
    if cs.any isForbidden then none
    else some (String.ofList (Text.percentEncode (fun c => 0x1F < c.toNat && c.toNat < 0x7F) cs))

end EventRelay.Url
