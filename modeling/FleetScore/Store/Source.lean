import FleetScore.Store.Join
import FleetScore.Store.Database

/-!
# Where rows come from

A source answers the joined rows of a *lookback window*: those whose request came at
most so long before now.  The window bounds the requests and nothing else.  A snapshot
older than the window still belongs to a request at its edge, and a request later than
now is in the window.

A source that cannot be read answers why, and no rows.  An empty answer is no failure.

There are two sources.  One holds its records itself.  The other is a database, and a
part of it is its reply: without credentials it is not asked, and the reply is of no
account.  Where none is given, the database cannot be reached.  Credentials are a secret,
and showing them shows that and nothing else.
-/

namespace FleetScore

/-- The secret by which a database is reached, a connection string. -/
structure Credentials where
  secret : String

namespace Credentials

/-- No credentials. -/
def none : Credentials := ⟨""⟩

/-- Whether nobody gave any. -/
def isEmpty (c : Credentials) : Bool := c.secret.isEmpty

/-- What may be shown of them: nothing. -/
def shown (_ : Credentials) : String := "StoreCredentials(<redacted>)"

end Credentials

/-- How a source is read: how far back requests are fetched, how long before a request its
snapshots may lie, how long a query may take, and how a database is reached. -/
structure StoreSettings where
  lookback : Span
  tolerance : Span
  timeout : Span
  credentials : Credentials

/-- Seven days of lookback, a minute of tolerance, half a minute for a query. -/
def StoreSettings.standard : StoreSettings where
  lookback := .ofSeconds 604800
  tolerance := .ofSeconds 60
  timeout := .ofSeconds 30
  credentials := .none

/-- A source that holds its records, with the end of the lookback window, and why it cannot be
read, if it cannot. -/
structure MemoryStore (R : Type) where
  settings : StoreSettings
  requests : List (Request R)
  snapshots : List (Snapshot R)
  servers : List Server
  now : Instant
  unavailable : Option String

/-- Where rows come from: records that are at hand, or a database with its reply. -/
inductive Source (R : Type) where
  | memory (store : MemoryStore R)
  | database (settings : StoreSettings) (reply : Database.Reply R := .unreachable none)

namespace MemoryStore

variable {R : Type}

/-- The start of the lookback window. -/
def cutoff (s : MemoryStore R) : Instant := s.now.back s.settings.lookback

/-- The requests in the lookback window. -/
def inWindow (s : MemoryStore R) : List (Request R) :=
  s.requests.filter fun r => s.cutoff.le r.timestamp

/-- The rows of the lookback window. -/
def joined (s : MemoryStore R) : Join.Joined R :=
  Join.join s.settings.tolerance s.inWindow s.snapshots s.servers

end MemoryStore

namespace Source

variable {R : Type}

/-- The name of a source in reports. -/
def name : Source R → String
  | .memory _ => "memory"
  | .database _ _ => "postgres"

/-- Reads a source; the second part is what is reported. -/
def fetch : Source R → Except StoreFault (List (Row R)) × List Event
  | .memory s =>
      match s.unavailable with
      | some reason => (.error (.refused reason), [])
      | none => (.ok s.joined.rows, [s.joined.event])
  | .database settings reply =>
      if settings.credentials.isEmpty then (.error .noCredentials, [])
      else (Database.read settings.lookback settings.tolerance settings.timeout reply)

end Source
end FleetScore
