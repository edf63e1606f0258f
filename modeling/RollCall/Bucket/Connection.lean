import RollCall.Logging.Line
import RollCall.Settings.Basic

/-!
# Connections

How the client of the bucket service is set up for some settings: the region and address of the
service, the patience for an answer, and whether a bucket is part of the path or of the host. The
client does not repeat requests by itself.

## Main definitions

* `Bucket.Connection`, `Bucket.Connection.ofSettings`.
-/

namespace RollCall.Bucket

/-- Where the name of a bucket stands in a request. -/
inductive Addressing
  | auto
  | path
  | virtual
  deriving DecidableEq, Repr

/-- The name of an addressing style. -/
def Addressing.name : Addressing → String
  | .auto => "auto"
  | .path => "path"
  | .virtual => "virtual"

/-- The set-up of a client. -/
structure Connection where
  bucket : String
  service : String
  region : Option String
  endpointUrl : Option String
  timeout : Binary64
  retryMode : String
  maxAttempts : Nat
  addressing : Addressing
  deriving DecidableEq, Repr

namespace Connection

/-- The addressing style that settings ask for. -/
def addressingOf (s : Settings) : Addressing :=
  match s.pathStyle with
  | none => .auto
  | some true => .path
  | some false => .virtual

/-- The region that is told to the client: behind the default endpoint that of the bucket. -/
def regionOf (s : Settings) : Option String :=
  if s.usesDefaultEndpoint then some s.region else s.endpointRegion

/-- The set-up of a client for some settings. -/
def ofSettings (s : Settings) : Connection where
  bucket := s.bucket
  service := "s3"
  region := regionOf s
  endpointUrl := s.endpointUrl?
  timeout := s.requestTimeout
  retryMode := "standard"
  maxAttempts := 1
  addressing := addressingOf s

/-- What the log says when a client is set up; it holds no secret. -/
def line (s : Settings) : Logging.Line :=
  ⟨.debug, "Created S3 client (bucket=" ++ s.bucket ++ ", endpoint=" ++
    s.endpointUrl?.getD s.endpoint ++ ", region=" ++ (regionOf s).getD "None" ++
    ", credentials=" ++ s.credentials.name ++ ")"⟩

end Connection

end RollCall.Bucket
