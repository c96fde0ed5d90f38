/-!
# Log entries

What happens on a connection is told in log entries. Each has a level, which says how much it
matters, and a topic, which says what part of the server tells it. A journal keeps them in the order
in which they were made.
-/

namespace FastCgi

/-- How much an entry matters. -/
inductive Level where
  | error
  | warn
  | info
  | debug
  | trace
deriving DecidableEq, Repr, Inhabited

namespace Level

/-- How many levels are more severe. -/
def rank : Level → Nat
  | error => 0
  | warn => 1
  | info => 2
  | debug => 3
  | trace => 4

/-- The name of a level in a log line. -/
def name : Level → String
  | error => "ERROR"
  | warn => "WARN"
  | info => "INFO"
  | debug => "DEBUG"
  | trace => "TRACE"

end Level

/-- What part of the server an entry comes from. -/
inductive Topic where
  | channel
  | listener
  | connections
  | request
  | roles
  | dispatch
  | responder
  | authorizer
  | engine
deriving DecidableEq, Repr, Inhabited

/-- The name of a topic in a log line. -/
def Topic.name : Topic → String
  | channel => "fcgi_transport::transceiver"
  | listener => "fcgi_transport::server"
  | connections => "fcgi_transport::connection"
  | request => "fcgi_server::request"
  | roles => "fcgi_server::registry"
  | dispatch => "fcgi_server::router"
  | responder => "fcgi_roles::responder"
  | authorizer => "fcgi_roles::authorizer"
  | engine => "fcgi_engine"

/-- A log entry. -/
structure Entry where
  level : Level
  topic : Topic
  message : String
deriving DecidableEq, Repr, Inhabited

namespace Entry

/-- Whether an entry matters at least as much as a level. -/
def matters (entry : Entry) (least : Level) : Bool := entry.level.rank ≤ least.rank

/-- An entry as a line of a log. -/
def line (entry : Entry) : String := s!"{entry.level.name} {entry.topic.name}: {entry.message}"

end Entry

/-- The entries made so far, the newest first. -/
structure Journal where
  newestFirst : List Entry
deriving DecidableEq, Repr, Inhabited

namespace Journal

/-- The journal without entries. -/
def empty : Journal := ⟨[]⟩

/-- Makes an entry. -/
def note (journal : Journal) (entry : Entry) : Journal := ⟨entry :: journal.newestFirst⟩

/-- Makes several entries, one after another. -/
def noteAll (journal : Journal) (entries : List Entry) : Journal := entries.foldl note journal

/-- The entries, the oldest first. -/
def entries (journal : Journal) : List Entry := journal.newestFirst.reverse

/-- The entry made last is the last one. -/
@[simp]
theorem entries_note (journal : Journal) (entry : Entry) :
    (journal.note entry).entries = journal.entries ++ [entry] := by
  simp [note, entries]

end Journal

end FastCgi
