/-
BlockConfig.Event — what a configuration reports about its changes.

An `Event` is data, not text: it names what happened and carries the full
keys, values and counts concerned. Its severity, wording and fields are
functions of it, so that a log entry is a view of an event
(`Event.entry`) and an audit can work on the events themselves.

`Traced ε α` is a computation that reports events on its way and ends with
a value or an error. What was reported before an error stays reported:
that is the difference from returning events only on success, and it
matters for a list of settings of which a later one fails.
-/

namespace BlockConfig

/-! ## 1. Severities -/

/-- How much an event matters, from the gravest to the most detailed. -/
inductive Severity
  | error
  | warn
  | info
  | debug
  | trace
deriving DecidableEq

namespace Severity

/-- The depth of detail; a filter set to some depth lets through all that
is no deeper. -/
def depth : Severity → Nat
  | .error => 1
  | .warn => 2
  | .info => 3
  | .debug => 4
  | .trace => 5

/-- The word in front of a log line. -/
def word : Severity → String
  | .error => "ERROR"
  | .warn => "WARN"
  | .info => "INFO"
  | .debug => "DEBUG"
  | .trace => "TRACE"

end Severity

/-! ## 2. Events -/

/-- Something that happened to a configuration. Keys are full keys. -/
inductive Event
  | valueSet (key value : String)
  | valueUnset (key : String)
  /-- A key became read-only that was not so before. -/
  | keyLocked (key : String)
  /-- So many entries are written below a scope. -/
  | merging (entries : Nat) (scope : String)
  /-- A block was copied, with so many entries and locks. -/
  | copied (block : String) (entries locks : Nat)
  /-- A handle onto a scope was made. -/
  | viewed (scope : String)
  /-- A configuration was built from so many assignments and locks. -/
  | built (values locks : Nat)
deriving DecidableEq

namespace Event

def severity : Event → Severity
  | .copied .. | .viewed _ => .trace
  | _ => .debug

def message : Event → String
  | .valueSet .. => "set configuration value"
  | .valueUnset _ => "unset configuration value"
  | .keyLocked _ => "marked configuration value read-only"
  | .merging .. => "merging configuration"
  | .copied .. => "derived detached subblock"
  | .viewed _ => "derived linked view"
  | .built .. => "built configuration"

/-- The named details of an event, in the order in which they are shown. -/
def fields : Event → List (String × String)
  | .valueSet key value => [("key", key), ("value", value)]
  | .valueUnset key | .keyLocked key => [("key", key)]
  | .merging entries scope => [("entries", toString entries), ("prefix", scope)]
  | .copied block entries locks =>
    [("block", block), ("entries", toString entries), ("locked", toString locks)]
  | .viewed scope => [("prefix", scope)]
  | .built values locks => [("values", toString values), ("locks", toString locks)]

/-- The target under which an event is published: the place in the program
that tells of it. -/
def target : Event → String
  | .built .. => "pipeconf::cli"
  | _ => "pipeconf::core::config::store"

/-- An event as an entry of the log. That is one line, unless a text that
the event carries holds a line end. -/
def entry (e : Event) : String :=
  String.intercalate " "
    (e.severity.word :: e.message :: e.fields.map fun f => f.1 ++ "=" ++ f.2)

end Event

/-! ## 3. Traced computations -/

theorem map_eq_ok_iff {ε α β : Type} {f : α → β} {x : Except ε α} {b : β} :
    x.map f = .ok b ↔ ∃ a, x = .ok a ∧ f a = b := by
  cases x <;> simp [Except.map]

/-- A computation that reports events and ends in a value or an error. -/
structure Traced (ε α : Type) where
  events : List Event
  result : Except ε α

namespace Traced

variable {ε α β : Type}

/-- End with an error, reporting nothing. -/
def fail (e : ε) : Traced ε α := ⟨[], .error e⟩

/-- End with a value after reporting events. -/
def report (events : List Event) (a : α) : Traced ε α := ⟨events, .ok a⟩

def andThen (x : Traced ε α) (next : α → Traced ε β) : Traced ε β :=
  match x.result with
  | .error e => ⟨x.events, .error e⟩
  | .ok a => ⟨x.events ++ (next a).events, (next a).result⟩

def onValue (f : α → β) (x : Traced ε α) : Traced ε β :=
  ⟨x.events, x.result.map f⟩

def onError {δ : Type} (f : ε → δ) (x : Traced ε α) : Traced δ α :=
  ⟨x.events, x.result.mapError f⟩

instance : Monad (Traced ε) where
  pure a := report [] a
  bind := andThen

@[simp] theorem pure_eq (a : α) : (pure a : Traced ε α) = report [] a := rfl
@[simp] theorem bind_eq (x : Traced ε α) (next : α → Traced ε β) :
    (x >>= next) = x.andThen next := rfl
@[simp] theorem events_fail (e : ε) : (fail e : Traced ε α).events = [] := rfl
@[simp] theorem result_fail (e : ε) : (fail e : Traced ε α).result = .error e := rfl
@[simp] theorem events_report (es : List Event) (a : α) :
    (report es a : Traced ε α).events = es := rfl
@[simp] theorem result_report (es : List Event) (a : α) :
    (report es a : Traced ε α).result = .ok a := rfl

theorem result_andThen (x : Traced ε α) (next : α → Traced ε β) :
    (x.andThen next).result = x.result.bind fun a => (next a).result := by
  unfold andThen
  cases x.result <;> rfl

theorem andThen_of_ok {x : Traced ε α} {a : α} (h : x.result = .ok a)
    (next : α → Traced ε β) :
    x.andThen next = ⟨x.events ++ (next a).events, (next a).result⟩ := by
  simp [andThen, h]

theorem andThen_of_error {x : Traced ε α} {e : ε} (h : x.result = .error e)
    (next : α → Traced ε β) : x.andThen next = ⟨x.events, .error e⟩ := by
  simp [andThen, h]

end Traced

end BlockConfig
