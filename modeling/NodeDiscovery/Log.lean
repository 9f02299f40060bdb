/-! Log records, and the loggers that take them or drop them. -/
namespace NodeDiscovery

/-- Severities, the gravest first. -/
inductive Level
  | error
  | warn
  | info
  | debug
  | trace
deriving DecidableEq, Repr

namespace Level

def rank : Level → Nat
  | error => 1
  | warn => 2
  | info => 3
  | debug => 4
  | trace => 5

instance : LE Level := ⟨fun a b => a.rank ≤ b.rank⟩

instance (a b : Level) : Decidable (a ≤ b) := inferInstanceAs (Decidable (a.rank ≤ b.rank))

/-- The name in log lines. -/
def label : Level → String
  | error => "ERROR"
  | warn => "WARN"
  | info => "INFO"
  | debug => "DEBUG"
  | trace => "TRACE"

end Level

/-- One log record. The target says which part of the program wrote it. -/
structure Record where
  level : Level
  target : String
  text : String
deriving DecidableEq, Repr

/-- Where log records go. Records that are not enabled are never written. -/
structure Logger where
  enabled : Level → String → Bool

namespace Logger

/-- Takes the records up to a level, and none without one. -/
def upTo (max : Option Level) : Logger :=
  ⟨fun level _ => max.any (level ≤ ·)⟩

def discard : Logger := upTo none

def everything : Logger := upTo (some .trace)

/-- The part of the records that the logger takes. -/
def taken (logger : Logger) (records : List Record) : List Record :=
  records.filter fun r => logger.enabled r.level r.target

@[simp] theorem taken_nil (logger : Logger) : logger.taken [] = [] := rfl

@[simp] theorem taken_append (logger : Logger) (xs ys : List Record) :
    logger.taken (xs ++ ys) = logger.taken xs ++ logger.taken ys := List.filter_append ..

@[simp] theorem taken_discard (records : List Record) : discard.taken records = [] := by
  simp [taken, discard, upTo]

@[simp] theorem taken_everything (records : List Record) : everything.taken records = records := by
  have htrace (level : Level) : level ≤ .trace := by cases level <;> decide
  simp [taken, everything, upTo, htrace]

/-- How a logger shows itself in messages: it has nothing to show. -/
def describe (_ : Logger) : String := "Logger"

end Logger
end NodeDiscovery
