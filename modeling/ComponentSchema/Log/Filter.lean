import ComponentSchema.Log
import ComponentSchema.Text.Blank
import ComponentSchema.Text.Lowercase

/-!
Which events are shown.

A filter has rules for targets, and a target names a part of the program. Of the rules for a target
the one that names it in most detail counts, and of equal ones the last.
-/

set_option autoImplicit false

namespace ComponentSchema.Log

def Level.rank : Level → Nat
  | .trace => 0
  | .debug => 1
  | .info => 2
  | .warn => 3
  | .error => 4

def Origin.target : Origin → String
  | .application => "govuk_components"
  | .source => "govuk_cli::source"
  | .check => "govuk_cli::check"
  | .examples => "govuk_cli::examples"
  | .normalization => "govuk_schema::normalize"
  | .compilation => "govuk_schema::compile"
  | .validation => "govuk_schema::validate"
  | .registry => "govuk_schema::cache"

inductive Threshold where
  | off
  | least (level : Level)
  deriving DecidableEq

namespace Threshold

def admits : Threshold → Level → Bool
  | .off, _ => false
  | .least level, other => level.rank ≤ other.rank

def scale : List Threshold :=
  [.off, .least .error, .least .warn, .least .info, .least .debug, .least .trace]

def number? (text : String) : Option Nat :=
  let digits := match text.toList with
    | '+' :: digits => digits
    | digits => digits
  if digits.isEmpty || !digits.all Char.isDigit then none
  else some (digits.foldl (fun n c => n * 10 + (c.toNat - '0'.toNat)) 0)

def ofText? (text : String) : Option Threshold :=
  match number? text with
  | some n => scale[n]?
  | none =>
    match Text.lowercased text with
    | "off" => some .off
    | "error" => some (.least .error)
    | "warn" => some (.least .warn)
    | "info" => some (.least .info)
    | "debug" => some (.least .debug)
    | "trace" => some (.least .trace)
    | _ => none

end Threshold

/-- A threshold for all events, or for those of targets that start with a text. -/
structure Rule where
  target? : Option String := none
  threshold : Threshold
  deriving DecidableEq

namespace Rule

def covers (rule : Rule) (target : String) : Bool :=
  rule.target?.all fun start => start.toList.isPrefixOf target.toList

def detail (rule : Rule) : Nat :=
  rule.target?.elim 0 fun start => start.length + 1

end Rule

/-- The rules of what is shown. An event that no rule covers is not shown. -/
abbrev Filter := List Rule

namespace Filter

def rule? (filter : Filter) (target : String) : Option Rule :=
  filter.foldl (fun best? rule =>
    if rule.covers target && best?.all fun best => best.detail ≤ rule.detail then some rule
    else best?) none

def admits (filter : Filter) (event : Event) : Bool :=
  (filter.rule? event.origin.target).any fun rule => rule.threshold.admits event.level

def ofVerbosity : Nat → Filter
  | 0 => [{ threshold := .least .warn }]
  | 1 => [{ threshold := .least .info }]
  | 2 => [{ threshold := .least .debug }]
  | _ => [{ threshold := .least .trace }]

/-! ### Text -/

/-- A directive, which is a rule or is for the events inside of named spans. There are no such
events here. -/
inductive Directive where
  | rule (rule : Rule)
  | span

def startsDirective (c : Char) : Bool :=
  c.isAlphanum || c = '-' || c = ':' || c = '_' || c = '[' || '\x80' ≤ c

def thresholdAfter? : List Char → Option Threshold
  | [] => some (.least .trace)
  | ['='] => some (.least .trace)
  | '=' :: level => Threshold.ofText? (String.ofList level)
  | _ => none

/-- A directive is a threshold, a target, or both with an equals sign in between. Without a
threshold, all events of the target are shown. -/
def Directive.ofText? (text : List Char) : Option Directive := do
  let first ← (text.dropWhile Text.isWhiteSpace).head?
  guard (startsDirective first)
  let name := text.takeWhile fun c => c ≠ '=' && c ≠ '['
  match text.dropWhile fun c => c ≠ '=' && c ≠ '[' with
  | [] =>
    match Threshold.ofText? (String.ofList name) with
    | some threshold => return .rule { threshold }
    | none => return .rule { target? := some (String.ofList name), threshold := .least .trace }
  | '[' :: inner =>
    match inner.dropWhile (· ≠ ']') with
    | [] => none
    | _ :: rest => (thresholdAfter? rest).map fun _ => .span
  | rest =>
    -- Blanks in front of a name are part of it, and no such target can be given a threshold.
    guard (!name.head?.any Text.isWhiteSpace)
    return .rule { target? := some (String.ofList name), threshold := ← thresholdAfter? rest }

/-- A filter from directives with commas in between; errors only if there is none. -/
def ofText? (text : String) : Option Filter := do
  let directives ← ((text.toList.splitOn ',').filter (!·.isEmpty)).mapM Directive.ofText?
  if directives.isEmpty then return [{ threshold := .least .error }]
  return directives.filterMap fun
    | .rule rule => some rule
    | .span => none

def variableName : String := "RUST_LOG"

/-- The filter that a variable sets, if it can be read, and otherwise that of the verbosity. -/
def choose (setting? : Option String) (verbosity : Nat) : Filter :=
  (setting? >>= ofText?).getD (ofVerbosity verbosity)

end Filter

end ComponentSchema.Log
