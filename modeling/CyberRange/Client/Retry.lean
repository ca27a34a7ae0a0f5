import CyberRange.Client.ErrorReading

namespace CyberRange

/-! Sending a request, again and again if need be.

Answers of a gateway, timeouts and refused connections may pass; anything else
decides the call at once.  The waits between attempts double up to a limit.
-/

structure Policy where
  baseUrl : String
  timeout : Json
  retryEnabled : Bool
  maxRetries : Int

/-- Gives an answer or a failure, and the state of the connection after it. -/
abbrev Transport (σ : Type) := Http.Request → σ → Except TransportFault Http.Response × σ

structure Trace (σ : Type) (α : Type) where
  result : Except CallFault α
  requests : List Http.Request
  waits : List Float
  state : σ

def Trace.andThen (read : α → Except CallFault β) (trace : Trace σ α) : Trace σ β :=
  { trace with result := trace.result.bind read }

/-- Statuses of a gateway that cannot reach the service. -/
def gatewayStatuses : List Int := [502, 503, 504]

def longestWait : Float := 30.0

def firstWait : Float := 0.5

/-- A power of two as a double.  Below the least normal one it is reached in two
exact steps; what is too small for a double is zero. -/
def powerOfTwo : Int → Float
  | .ofNat exponent => (Nat.pow 2 exponent).toFloat
  | .negSucc beyond =>
      let size := beyond + 1
      1.0 / (Nat.pow 2 (min size 1023)).toFloat / (Nat.pow 2 (min (size - 1023) 1023)).toFloat

/-- The exponents from here on belong to no double. -/
def exponentLimit : Int := 1024

/-- The wait after an attempt: `base` doubled as often, but not more than the
longest one.  A power of two beyond the range of doubles has none. -/
def backoff (attempt : Int) (base : Float) : Option Float :=
  if exponentLimit ≤ attempt then none
  else
    let wait := base * powerOfTwo attempt
    some (if longestWait < wait then longestWait else wait)

namespace Policy

def bareUrl (policy : Policy) : String :=
  Text.dropTrailing '/' policy.baseUrl

def base (policy : Policy) : Url :=
  .ofBase policy.bareUrl

def attempts (policy : Policy) : Int :=
  if policy.retryEnabled then policy.maxRetries + 1 else 1

/-- Whether an answer is waited out when `left` attempts remain. -/
def retriesStatus (policy : Policy) (status : Int) (left : Nat) : Bool :=
  policy.retryEnabled && gatewayStatuses.contains status && 0 < left

def retriesFault (policy : Policy) (left : Nat) : Bool :=
  policy.retryEnabled && 0 < left

def giveUp (policy : Policy) (reference : String) (fault : TransportFault) : CallFault :=
  let url := policy.bareUrl ++ reference
  if fault.isTimeout then .timedOut ("Request to " ++ url ++ " timed out") policy.timeout (some url)
  else .unreachable ("Failed to connect to " ++ url) (some url) (some fault.kind)

inductive Verdict where
  | settled (result : Except CallFault Json)
  | again

def judge (policy : Policy) (reference : String) (left : Nat) :
    Except TransportFault Http.Response → Verdict
  | .error fault =>
      if fault.isTransient then
        if policy.retriesFault left then .again
        else .settled (.error (policy.giveUp reference fault))
      else .settled (.error (.transport fault))
  | .ok response =>
      if policy.retriesStatus response.status left then .again
      else .settled (ErrorReading.documentOf response)

/-- Makes up to `left` more attempts; `attempt` were made before. -/
def sendFrom (policy : Policy) (transport : Transport σ) (reference : String)
    (request : Http.Request) : Nat → Nat → σ → Trace σ Json
  | 0, _, state => { result := .error .noAttempt, requests := [], waits := [], state }
  | left + 1, attempt, state =>
      let (outcome, next) := transport request state
      match policy.judge reference left outcome with
      | .settled result => { result, requests := [request], waits := [], state := next }
      | .again =>
          match backoff attempt firstWait with
          | none =>
              { result := .error .endlessWait, requests := [request], waits := [], state := next }
          | some wait =>
              let rest := policy.sendFrom transport reference request left (attempt + 1) next
              { rest with requests := request :: rest.requests, waits := wait :: rest.waits }

/-- Sends a request that has been put together, or reports why it has not. -/
def send (policy : Policy) (transport : Transport σ) (reference : String)
    (request : Except CallFault Http.Request) (state : σ) : Trace σ Json :=
  match request with
  | .ok ready => policy.sendFrom transport reference ready policy.attempts.toNat 0 state
  | .error fault =>
      if policy.attempts < 1 then
        { result := .error .noAttempt, requests := [], waits := [], state }
      else { result := .error fault, requests := [], waits := [], state }

end Policy

end CyberRange
