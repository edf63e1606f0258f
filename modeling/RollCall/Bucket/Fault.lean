/-!
# Faults of the bucket service

A call to the bucket service may end in an error that the service reports, with a code and perhaps
an HTTP status, or in an outage: no answer was got at all.

## Main definitions

* `Bucket.ServiceError`: an error that the service reports.
* `Bucket.ServiceError.isThrottling`, `Bucket.ServiceError.isNotFound`: the two kinds of errors that
  get a treatment of their own.
* `Bucket.Outage`: why no answer was got.
-/

namespace RollCall.Bucket

/-- An error that the service reports. -/
structure ServiceError where
  code : String
  status : Option Int
  message : String
  deriving DecidableEq, Repr

namespace ServiceError

/-- The codes of errors that ask for patience. -/
def throttlingCodes : List String :=
  ["SlowDown", "Throttling", "ThrottlingException", "ThrottledException", "RequestThrottled",
    "RequestThrottledException", "RequestLimitExceeded", "TooManyRequestsException",
    "BandwidthLimitExceeded"]

/-- The codes of errors that say that there is no such object. -/
def notFoundCodes : List String :=
  ["NoSuchKey", "NotFound", "404"]

/-- Whether an error asks for patience. -/
def isThrottling (e : ServiceError) : Bool :=
  throttlingCodes.contains e.code || e.status == some 429

/-- Whether an error says that there is no such object. -/
def isNotFound (e : ServiceError) : Bool :=
  notFoundCodes.contains e.code

end ServiceError

/-- Why no answer was got from the service. -/
inductive Outage
  | noConnection (url : String)
  | connectTimeout (url : String)
  | readTimeout (url : String)
  | noCredentials
  | badParameters (report : String)
  | unknownProfile (name : String)
  | unspecified
  deriving DecidableEq, Repr

/-- The wording of an outage. -/
def Outage.message : Outage → String
  | .noConnection url => "Could not connect to the endpoint URL: \"" ++ url ++ "\""
  | .connectTimeout url => "Connect timeout on endpoint URL: \"" ++ url ++ "\""
  | .readTimeout url => "Read timeout on endpoint URL: \"" ++ url ++ "\""
  | .noCredentials => "Unable to locate credentials"
  | .badParameters report => "Parameter validation failed:\n" ++ report
  | .unknownProfile name => "The config profile (" ++ name ++ ") could not be found"
  | .unspecified => "An unspecified error occurred"

end RollCall.Bucket
