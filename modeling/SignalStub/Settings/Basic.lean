/-! # Settings

    What a service can be told: where it listens, which path writes signals, where its event ids
    start, and whether and where it reports traces.
-/

namespace SignalStub

/-- The settings of a service. -/
structure Settings where
  httpHost : String
  httpPort : UInt16
  writePath : String
  /-- The seed of a reproducible sequence of event ids. Without one the ids are random. -/
  idSeed : Option UInt64
  serviceName : String
  useTelemetry : Bool
  otlpHost : String
  otlpPort : UInt16
  deriving DecidableEq, Repr

namespace Settings

/-- A host and a port as one address. -/
def address (host : String) (port : UInt16) : String :=
  host ++ ":" ++ port.toNat.repr

/-- The address to listen on. -/
def bindAddress (s : Settings) : String :=
  address s.httpHost s.httpPort

/-- The address to send traces to. -/
def otlpEndpoint (s : Settings) : String :=
  "http://" ++ address s.otlpHost s.otlpPort

end Settings

end SignalStub
