/-!
# Links to backing services

The search index and the cache can be done without. A site may lack them, or have them and not use
them, or have lost the connection to them.
-/

namespace Logbook

/-- How a site stands with a backing service. -/
inductive Link where
  | absent
  | disabled
  | closed
  | ready
  deriving DecidableEq, Repr

namespace Link

/-- Can the service be called? -/
def isOpen (l : Link) : Bool :=
  l == ready

/-- The link after the connection is closed. -/
def disconnected : Link → Link
  | ready => closed
  | l => l

end Link

end Logbook
