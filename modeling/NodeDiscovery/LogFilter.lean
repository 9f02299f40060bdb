import NodeDiscovery.Log
import NodeDiscovery.Regex.Reader
import NodeDiscovery.Text.Blank
import NodeDiscovery.Text.Lines

/-! Log filters, written as lists of directives such as `info` or `discover-cmd=debug`, perhaps with
an expression after a slash that messages have to match. -/
namespace NodeDiscovery

/-- The level up to which records are taken whose targets begin with `target`. -/
structure Directive where
  target : Option String
  /-- Without one, nothing is taken. -/
  max : Option Level
deriving DecidableEq, Repr

structure LogFilter where
  directives : List Directive
  expression : Option Regex
deriving DecidableEq, Repr

namespace LogFilter
open Text (splitAt trim)

/-- A level in letters of either case; `off` is below all of them. -/
def maxLevel? (t : List Char) : Option (Option Level) :=
  match String.ofList (t.map Char.toLower) with
  | "off" => some none
  | "error" => some (some .error)
  | "warn" => some (some .warn)
  | "info" => some (some .info)
  | "debug" => some (some .debug)
  | "trace" => some (some .trace)
  | _ => none

/-- One directive: a level, a target, or both. In the last case a level that is none, and in any
case more than one sign, gives the text to complain of. -/
def readDirective (t : List Char) : Except (List Char) Directive :=
  match splitAt '=' t with
  | [one] =>
    match maxLevel? one with
    | some max => .ok ⟨none, max⟩
    | none => .ok ⟨some (String.ofList one), some .trace⟩
  | [target, level] =>
    let level := trim level
    if level.isEmpty then .ok ⟨some (String.ofList target), some .trace⟩
    else match maxLevel? level with
      | some max => .ok ⟨some (String.ofList target), max⟩
      | none => .error level
  | _ => .error t

/-- Adds a directive. It takes the place of one for the same target. -/
def addDirective (d : Directive) : List Directive → List Directive
  | [] => [d]
  | e :: rest => if e.target = d.target then d :: rest else e :: addDirective d rest

def warning (spec : List Char) (reason : String) : String :=
  "warning: invalid logging spec '" ++ String.ofList spec ++ "', ignoring it" ++ reason

/-- The expression that messages have to match. One that cannot be read is left out. -/
def readExpression (t : List Char) : Option Regex × List String :=
  match Regex.ofText t with
  | .ok r => (some r, [])
  | .error fault => (none, ["warning: invalid regex filter - " ++ fault.message t])

/-- The filter that a text stands for, and what is to be complained of. -/
def ofText (s : String) : LogFilter × List String :=
  match splitAt '/' s.toList with
  | list :: more =>
    if 2 ≤ more.length then (⟨[], none⟩, [warning s.toList " (too many '/'s)"])
    else
      let read := ((splitAt ',' list).map trim |>.filter (· ≠ [])).map readDirective
      let directives := read.foldl (fun ds r =>
        match r with
        | .ok d => addDirective d ds
        | .error _ => ds) []
      let warnings := read.filterMap fun
        | .ok _ => none
        | .error spec => some (warning spec "")
      let (expression, complaints) := (more.head?.map readExpression).getD (none, [])
      (⟨directives, expression⟩, warnings ++ complaints)
  | [] => (⟨[], none⟩, [])

/-- The directive that decides for a target: of those that fit, the one with the longest target. -/
def deciding? (f : LogFilter) (target : String) : Option Directive :=
  let size (d : Directive) : Nat := (d.target.map String.utf8ByteSize).getD 0
  f.directives.foldl (fun best d =>
    if d.target.all fun t => t.toList.isPrefixOf target.toList then
      if best.all fun b => size b ≤ size d then some d else best
    else best) none

/-- Takes records by level and target. Without any directive, only errors are taken. -/
def logger (f : LogFilter) : Logger where
  enabled level target :=
    if f.directives.isEmpty then level ≤ .error
    else (f.deciding? target).any fun d => d.max.any (level ≤ ·)

/-- Whether a message matches the expression asked for. -/
def admits (f : LogFilter) (message : String) : Bool :=
  f.expression.all fun r => r.occursIn message.toList

end LogFilter
end NodeDiscovery
