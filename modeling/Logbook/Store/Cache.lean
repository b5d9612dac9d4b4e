import Logbook.Act
import Logbook.Json.Basic
import Logbook.Keyed
import Logbook.Store.Link

/-!
# The cache

Values under keys, each with a moment at which it expires; the cache knows the time in whole
milliseconds. It is a convenience: where it is missing or fails, a value is missing, and a
test-and-set succeeds, so that nothing is held back because of it.
-/

namespace Logbook

/-- What the cache may be asked. -/
inductive CacheCall where
  | read
  | write
  | erase
  deriving DecidableEq, Repr

/-- A value and the moment, in milliseconds, from which it is gone. -/
structure CacheEntry where
  value : Json
  expiry : Int
  deriving DecidableEq, Repr

/-- The cache and the connection to it. -/
structure Cache where
  link : Link := .ready
  /-- What stands before every key, with a colon between, unless it is empty. -/
  scope : String := ""
  entries : List (String × CacheEntry) := []
  calls : Nat := 0
  outage : Outage CacheCall := fun _ _ => none

namespace Cache

/-- Is the cache in use and connected? -/
def isOpen (c : Cache) : Bool :=
  c.link.isOpen

/-- The key under which a value is kept. -/
def fullKey (c : Cache) (key : String) : String :=
  if c.scope = "" then key else c.scope ++ ":" ++ key

/-- The entry under a full key that has not expired. -/
def live? (c : Cache) (now : Int) (key : String) : Option CacheEntry :=
  (c.entries.lookup key).filter fun e => now < e.expiry

/-- The full keys of the entries that have not expired. -/
def liveKeys (c : Cache) (now : Int) : List String :=
  (c.entries.filter fun p => now < p.2.expiry).map (·.1)

/-- Does the next call fail? -/
def fails (c : Cache) (call : CacheCall) : Bool :=
  (c.outage c.calls call).isSome

/-- The cache after one more call. -/
def called (c : Cache) : Cache :=
  { c with calls := c.calls + 1 }

/-- The cache with a value that expires after some seconds. -/
def store (c : Cache) (now : Int) (key : String) (value : Json) (seconds : Int) : Cache :=
  { c with entries := Keyed.put key ⟨value, now + seconds * 1000⟩ c.entries }

/-- The value under a key; `null` where there is none. -/
def get (now : Int) (key : String) (c : Cache) : Json × Cache :=
  if !c.isOpen then (.null, c)
  else if c.fails .read then (.null, c.called)
  else (((c.live? now (c.fullKey key)).map (·.value)).getD .null, c.called)

/-- Puts a value under a key. -/
def set (now : Int) (key : String) (value : Json) (seconds : Int) (c : Cache) : Cache :=
  if !c.isOpen then c
  else if c.fails .write then c.called
  else c.called.store now (c.fullKey key) value seconds

/-- Puts a value under a key that has none; did this call put it there? -/
def putNew (now : Int) (key : String) (value : Json) (seconds : Int) (c : Cache) :
    Bool × Cache :=
  if !c.isOpen then (true, c)
  else if c.fails .write then (true, c.called)
  else if (c.live? now (c.fullKey key)).isSome then (false, c.called)
  else (true, c.called.store now (c.fullKey key) value seconds)

/-- Removes the value under a key. -/
def erase (key : String) (c : Cache) : Cache :=
  if !c.isOpen then c
  else if c.fails .erase then c.called
  else { c.called with entries := Keyed.erase (c.fullKey key) c.entries }

end Cache

end Logbook
