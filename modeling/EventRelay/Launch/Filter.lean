import EventRelay.Decimal.Reader
import EventRelay.Launch.Console
import EventRelay.Launch.Pattern
import EventRelay.Text.Blank
import EventRelay.Unicode.Letter

/-!
# What the console shows

A filter is a list of rules between commas. A rule says how much is shown of the parts of the
process whose names begin with its target; of the rules that concern a record the most specific one
decides. A rule may ask for a span, in which nothing on the console is ever recorded.

* `ConsoleFilter.parse?`: the filter of a text.
* `ConsoleFilter.shows`: whether a record is shown.
* `shows_off`: a filter that is switched off shows nothing.
-/

namespace EventRelay

/-! ## Verbosity -/

/-- How much is shown: nothing, errors, and so on to everything. -/
inductive Verbosity where
  | off
  | error
  | warn
  | info
  | debug
  | trace
  deriving DecidableEq, Repr

namespace Verbosity

/-- The number of a verbosity. -/
def rank : Verbosity → Nat
  | off => 0
  | error => 1
  | warn => 2
  | info => 3
  | debug => 4
  | trace => 5

/-- All of them, the least first. -/
def all : List Verbosity := [off, error, warn, info, debug, trace]

/-- The name of a verbosity. -/
def name : Verbosity → String
  | off => "off"
  | error => "error"
  | warn => "warn"
  | info => "info"
  | debug => "debug"
  | trace => "trace"

/-- The verbosity that a number or a name in any case stands for. -/
def ofText? (cs : List Char) : Option Verbosity :=
  match (Text.decimal? cs).bind (fun n => all.find? (·.rank = n)) with
  | some v => some v
  | none => all.find? (fun v => v.name.toList = cs.map Char.toLower)

theorem ofText?_name (v : Verbosity) : ofText? v.name.toList = some v := by
  cases v <;> decide +kernel

/-- The verbosity from which on a level is shown. -/
def ofLevel : LogLevel → Verbosity
  | .error => error
  | .warn => warn
  | .info => info
  | .debug => debug

/-- Whether a level is shown. -/
def shows (v : Verbosity) (level : LogLevel) : Bool := (ofLevel level).rank ≤ v.rank

end Verbosity

/-! ## Rules -/

/-- A rule: the start of the names of the parts that it concerns, the span that it asks for, a field
that a record must have, which may have to have a value, and how much is shown. -/
structure ConsoleRule where
  target : Option String
  span : Option String
  field : Option String
  hasValue : Bool
  verbosity : Verbosity
  deriving DecidableEq, Repr

namespace ConsoleRule

/-- The characters from one place to another. -/
def slice (cs : List Char) (first last : Nat) : List Char := (cs.take last).drop first

/-- The place of the first character from a place on that satisfies a test. -/
def place? (cs : List Char) (first : Nat) (test : Char → Bool) : Option Nat :=
  ((cs.drop first).findIdx? test).map (first + ·)

/-- The verbosity after the equals sign of a rule; none means everything. -/
def verbosity? (cs : List Char) : Option Verbosity :=
  if cs.isEmpty then some .trace else Verbosity.ofText? cs

/-- What follows the brackets of a rule. -/
def closing? (rule : ConsoleRule) (trimmed whole : List Char) (place : Nat) :
    Option ConsoleRule :=
  match trimmed.drop place with
  | [] => some rule
  | '=' :: _ => (verbosity? (whole.drop (place + 1))).map (fun v => { rule with verbosity := v })
  | _ => none

/-- Whether a value that a rule asks for is a number or a pattern. -/
def isValue (cs : List Char) : Bool :=
  (SignedDecimal.parse? cs).isSome || (Binary64.word? cs).isSome || Pattern.isPattern cs

/-- A rule from the place after its bracket on. -/
def bracketed? (target : Option String) (trimmed whole : List Char) (first : Nat) :
    Option ConsoleRule := do
  let last ← place? trimmed first (fun c => c = ']' || c = '\x7b')
  let name := String.ofList (slice whole first last)
  if trimmed[last]? = some ']' then
    closing? ⟨target, some name, none, false, .trace⟩ trimmed whole (last + 1)
  else
    let brace ← place? trimmed (last + 1) (· = '\x7d')
    let field := slice whole (last + 1) brace
    if field.isEmpty || !((Text.split '=' field)[1]?).all isValue then none
    else if trimmed[brace + 1]? ≠ some ']' then none
    else
      let rule : ConsoleRule := ⟨target, if name.isEmpty then none else some name,
        some (String.ofList (field.takeWhile (· ≠ '='))), field.contains '=', .trace⟩
      closing? rule trimmed whole (brace + 2)

/-- Whether a rule may start with a character. -/
def isFirst (c : Char) : Bool :=
  c = '-' || c = ':' || c = '_' || Unicode.isLetterOrNumber c

/-- A rule. Its marks are sought without the blanks at the ends, and their places taken with
them. -/
def parse? (whole : List Char) : Option ConsoleRule :=
  let trimmed := Text.trim whole
  match trimmed with
  | [] => none
  | '[' :: _ => bracketed? none trimmed whole 1
  | first :: _ =>
    if isFirst first then
      match place? trimmed 1 (fun c => c = '=' || c = '[') with
      | none => some (match Verbosity.ofText? whole with
        | some v => ⟨none, none, none, false, v⟩
        | none => ⟨some (String.ofList whole), none, none, false, .trace⟩)
      | some mark =>
        let target := some (String.ofList (slice whole 0 mark))
        if trimmed[mark]? = some '[' then bracketed? target trimmed whole (mark + 1)
        else (verbosity? (whole.drop (mark + 1))).map (⟨target, none, none, false, ·⟩)
    else none

/-- Whether a rule may decide about records outside spans. -/
def isGeneral (rule : ConsoleRule) : Bool := rule.span.isNone && !rule.hasValue

/-- Whether a rule may decide about records inside spans. -/
def isForSpans (rule : ConsoleRule) : Bool := rule.span.isSome || rule.field.isSome

/-- Whether a rule concerns a record. -/
def concerns (rule : ConsoleRule) (record : ConsoleRecord) : Bool :=
  rule.target.all (fun t => t.toList.isPrefixOf record.target.toList) &&
    rule.field.all (fun f => f = "message" || record.fields.any (·.1 = f))

/-- How specific a rule is: the size of its target, and its field. -/
def specificity (rule : ConsoleRule) : Nat × Nat × String :=
  ((rule.target.map (·.utf8ByteSize + 1)).getD 0, if rule.field.isSome then 1 else 0,
    rule.field.getD "")

/-- Whether a rule is less specific than another. -/
def isLess (a b : ConsoleRule) : Bool :=
  let (m, i, f) := a.specificity
  let (n, j, g) := b.specificity
  m < n || (m = n && (i < j || (i = j && f < g)))

end ConsoleRule

/-! ## Filters -/

/-- Rules; of two that are equally specific the later one counts. -/
structure ConsoleFilter where
  rules : List ConsoleRule
  deriving Repr

namespace ConsoleFilter

/-- The filter that shows as much of everything. -/
def upTo (v : Verbosity) : ConsoleFilter := ⟨[⟨none, none, none, false, v⟩]⟩

/-- The filter of some rules; without any it shows errors. -/
def ofRules (rules : List ConsoleRule) : ConsoleFilter :=
  if rules.isEmpty then upTo .error
  else
    let (spans, others) := rules.partition ConsoleRule.isForSpans
    ⟨others ++ spans.filter ConsoleRule.isGeneral⟩

/-- The filter of a text: rules between commas. -/
def parse? (text : String) : Option ConsoleFilter :=
  (((Text.split ',' text.toList).filter (!·.isEmpty)).mapM ConsoleRule.parse?).map ofRules

/-- The rule that decides about a record. -/
def rule? (filter : ConsoleFilter) (record : ConsoleRecord) : Option ConsoleRule :=
  (filter.rules.filter (·.concerns record)).foldl
    (fun best rule => if best.any rule.isLess then best else some rule) none

/-- Whether a record is shown. -/
def shows (filter : ConsoleFilter) (record : ConsoleRecord) : Bool :=
  (filter.rule? record).any (·.verbosity.shows record.level)

/-- A filter that is switched off shows nothing. -/
theorem shows_off (record : ConsoleRecord) : (upTo .off).shows record = false := by
  have h : Verbosity.off.shows record.level = false := by cases record.level <;> rfl
  simp [shows, rule?, upTo, ConsoleRule.concerns, h]

end ConsoleFilter
end EventRelay
