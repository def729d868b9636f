/-!
# The backing services

Every service gets a cache, a document store and a message broker.  Each of them is
installed from one chart, under a release that has the chart's name.
-/

namespace BackingServices

/-- A backing service. -/
inductive Service where
  /-- The cache. -/
  | cache
  /-- The document store. -/
  | documentStore
  /-- The message broker. -/
  | broker
deriving DecidableEq

namespace Service

/-- The backing services in the order in which they are submitted. -/
def all : List Service := [.cache, .documentStore, .broker]

/-- The name of the chart of a backing service, and of its release. -/
def chartName : Service → String
  | .cache => "redis"
  | .documentStore => "mongodb"
  | .broker => "rabbitmq"

end Service

end BackingServices
