import ClusterBilling.Time.Duration

/-!
# Faults

What can go wrong, by cause. Two questions decide what happens to a fault: whether the same call
may succeed when it is made again, and whether the input itself is of an unsupported kind, so that
no caller may replace it by an empty answer. Each fault has one message.
-/

namespace ClusterBilling

/-- How an exchange with a server broke off. -/
inductive NetworkFailure
  /-- No answer came in time. -/
  | timeout
  /-- The answer has a status that is a failure. -/
  | status (code : Nat)
  /-- The server cannot be reached, or its answer is not what it should be. -/
  | other
deriving DecidableEq, Repr, Inhabited

/-- Whether a status says that the server failed. -/
def NetworkFailure.isServerError : NetworkFailure → Bool
  | status code => 500 ≤ code && code < 600
  | _ => false

/-- Something that went wrong. -/
inductive Fault
  /-- A file could not be read or written. -/
  | io (detail : String)
  /-- A document is not what it should be. -/
  | json (detail : String)
  /-- The content of a file is not what it should be. -/
  | parse (file detail : String)
  /-- An exchange with a server broke off. -/
  | network (failure : NetworkFailure) (detail : String)
  /-- No kind of workload goes with these signals. -/
  | unsupportedWorkload (jobFlag runtimeVersion : String)
  /-- A surcharge table names a kind of workload that does not exist. -/
  | unknownWorkloadLabel (label : String)
  /-- The cluster cannot be listed in this way. -/
  | unsupportedListing (cluster listing : String)
  | unknownCluster (cluster : String)
  /-- A server refused. -/
  | refused (code message : String)
  /-- An operation failed at every attempt; `cause` is the last failure. -/
  | retriesExhausted (operation : String) (attempts : Nat) (lastDelay : Duration) (cause : Fault)
  | invalidInterval (detail : String)
  | config (detail : String)
  | invalidArgument (detail : String)
  /-- A number does not fit the type it is converted to. The program is stopped by that, so nobody
  is told of it as of the other faults; what was asked for ends with it all the same. -/
  | stopped (detail : String)
deriving DecidableEq, Repr, Inhabited

namespace Fault

/-- Codes by which servers ask for fewer requests. -/
def throttlingCodes : List String :=
  ["Throttling", "ThrottlingException", "RequestLimitExceeded", "TooManyRequestsException",
    "SlowDown"]

/-- Whether another attempt may succeed: the server failed, did not answer in time or asked for
fewer requests. -/
def isTransient : Fault → Bool
  | refused code _ => code.toList.head? == some '5' || throttlingCodes.contains code
  | network failure _ => failure == .timeout || failure.isServerError
  | _ => false

/-- Whether the input is of a kind that is not billed at all, which must not pass for a cost of
nothing. -/
def isUnsupportedInput : Fault → Bool
  | unsupportedWorkload _ _ => true
  | unknownWorkloadLabel _ => true
  | _ => false

/-- The text shown to people. -/
def message : Fault → String
  | io detail => "IO error: " ++ detail
  | json detail => "JSON parsing error: " ++ detail
  | parse file detail => "Parse error in " ++ file ++ ": " ++ detail
  | network _ detail => "Network error: " ++ detail
  | unsupportedWorkload jobFlag runtimeVersion =>
    "Unsupported runtime: job flag '" ++ jobFlag ++ "' with version '" ++ runtimeVersion ++ "'"
  | unknownWorkloadLabel label => "Unsupported workload label: " ++ label
  | unsupportedListing cluster listing =>
    "Query mode " ++ listing ++ " not supported for cluster " ++ cluster
  | unknownCluster cluster => "Unknown cluster: " ++ cluster
  | refused code message => "Upstream error " ++ code ++ ": " ++ message
  | retriesExhausted operation attempts lastDelay _ =>
    operation ++ " failed after " ++ toString attempts ++ " attempts (last delay "
      ++ lastDelay.text ++ ")"
  | invalidInterval detail => "Invalid interval: " ++ detail
  | config detail => "Configuration error: " ++ detail
  | invalidArgument detail => "Invalid argument: " ++ detail
  | stopped detail => detail

end Fault

end ClusterBilling
