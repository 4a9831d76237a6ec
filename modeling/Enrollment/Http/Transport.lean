import Enrollment.Http.Server
import Enrollment.Time.Polling
import Enrollment.Time.Retry
import Enrollment.Url.Parser

/-!
# The retrying transport

One logical request is a bounded series of attempts. The first success ends the series.
When the attempts are used up the last one decides: its reply is handed on whatever its
status, and only if it received none does the request fail.

A URL that cannot be requested fails every attempt, and nothing is sent for it.
-/

namespace Enrollment.Http

/-- Why an attempt received no reply. -/
inductive NetworkError where
  | unreadableUrl
  | unsupportedUrl (url : Url)
  | noResponse (url : Url)
  | brokenBody
  deriving DecidableEq, Repr

def NetworkError.message : NetworkError → String
  | unreadableUrl => "builder error"
  | unsupportedUrl url => s!"builder error for url ({url.text})"
  | noResponse url => s!"error sending request for url ({url.text})"
  | brokenBody => "error decoding response body"

inductive TransportError where
  | noReply (url : String) (attempts : Nat) (cause : NetworkError)
  | invalidHost (url : String)
  deriving DecidableEq, Repr

def TransportError.message : TransportError → String
  | noReply url attempts cause =>
    s!"request to {url} failed after {attempts} attempt(s): {cause.message}"
  | invalidHost url => s!"invalid host URL provided: {url}, format - https://hostname"

/-- The host that a URL names. -/
def hostOfUrl [Url.Idna] (url : String) : Except TransportError String :=
  match (Url.parse? url).bind Url.hostText? with
  | some host => .ok host
  | none => .error (.invalidHost url)

/-- What is to be requested: the URL is the caller's text. -/
structure Order where
  method : Method
  url : String
  headers : List Header := []
  body : Option Bytes := none
  deriving DecidableEq, Repr

namespace Order

def schemes : List (List Char) := ["http".toList, "https".toList]

/-- The characters that a host can have in a URL, but not in a request. -/
def unsendable (c : Char) : Bool := ['"', '`', '\x7b', '\x7d'].contains c

/-- The length that the URL of a request stays below. -/
def urlLimit : Nat := Nat.pow 2 16 - 1

/-- Whether a request can be made for a URL. -/
def canRequest (url : Url) : Bool :=
  schemes.contains url.scheme && url.namedHost?.any (fun host => ! host.chars.any unsendable)
    && url.chars.length < urlLimit

/-- The request that is sent. The user and the password of the URL are not part of it, and
the content type is added behind the caller's headers. -/
def request? [Url.Idna] (order : Order) : Except NetworkError Request :=
  match Url.parse? order.url with
  | none => .error .unreadableUrl
  | some url =>
    let url := url.withoutUserinfo
    if canRequest url then
      .ok ⟨order.method, url, order.headers ++ [(Header.contentType, "application/json")],
        order.body⟩
    else .error (.unsupportedUrl url)

end Order

/-- What happens on the way to a reply: a request is sent and something, or nothing, arrives
in time; or there is a pause between two attempts. -/
inductive Event where
  | exchange (request : Request) (arrival : Arrival)
  | pause (time : Duration)
  deriving DecidableEq, Repr

/-- The wire as it is found between two attempts: the state of the server, the time, and all
that has happened so far. -/
structure Wire (σ : Type) where
  server : σ
  now : Instant := Instant.start
  events : List Event := []
  deriving Repr

namespace Wire

variable {σ : Type}

/-- The requests that have reached the server. -/
def received (wire : Wire σ) : List Request :=
  wire.events.filterMap fun
    | .exchange _ .unconnected => none
    | .exchange request _ => some request
    | .pause _ => none

def pauses (wire : Wire σ) : List Duration :=
  wire.events.filterMap fun
    | .exchange _ _ => none
    | .pause d => some d

end Wire

/-- How requests are carried: by which server, and in what kind of time. -/
structure Network (σ : Type) where
  server : Server σ
  pacing : Pacing

namespace Network

variable {σ : Type}

abbrev Outcome := Except NetworkError Reply

/-- Whether a series of attempts ends with this outcome. -/
def succeeded : Outcome → Bool
  | .ok reply => reply.status.isSuccess
  | .error _ => false

/-- The outcome of an attempt in which something, or nothing, arrived. -/
def outcomeOf (request : Request) : Arrival → Outcome
  | .reply reply => .ok reply
  | .brokenBody _ => .error .brokenBody
  | .nothing | .unconnected => .error (.noResponse request.url)

/-- One attempt, which waits no longer than `limit`. It is one exchange, of the request that is
handed to the HTTP library and the reply that the library settles on. -/
def attempt [Url.Idna] (net : Network σ) (limit : Duration) (order : Order) :
    StateM (Wire σ) Outcome :=
  fun wire =>
    match order.request? with
    | .error e => (.error e, wire)
    | .ok request =>
      let (delivery, server) := net.server request wire.server
      let arrival := delivery.within limit
      (outcomeOf request arrival,
        { server := server
          now := wire.now.advance delivery.elapsed
          events := wire.events ++ [.exchange request arrival] })

def pause (net : Network σ) (d : Duration) : StateM (Wire σ) Unit := fun wire =>
  ((), { wire with now := net.pacing.advance wire.now d, events := wire.events ++ [.pause d] })

/-- The attempts that may still follow when `made` have been made. -/
def retry [Url.Idna] (net : Network σ) (policy : RetryPolicy) (order : Order) :
    Nat → Nat → Outcome → StateM (Wire σ) Outcome
  | 0, _, outcome => pure outcome
  | left + 1, made, outcome =>
    if succeeded outcome then pure outcome
    else do
      net.pause (policy.backoff.delay (made - 1))
      let outcome ← net.attempt policy.attemptTimeout order
      retry net policy order left (made + 1) outcome

/-- The series of attempts that the policy allows. -/
def attempts [Url.Idna] (net : Network σ) (policy : RetryPolicy) (order : Order) :
    StateM (Wire σ) Outcome := do
  let outcome ← net.attempt policy.attemptTimeout order
  net.retry policy order (policy.attempts - 1) 1 outcome

/-- The reply to a request under a policy. -/
def execute [Url.Idna] (net : Network σ) (policy : RetryPolicy) (order : Order) :
    StateM (Wire σ) (Except TransportError Reply) := do
  match ← net.attempts policy order with
  | .ok reply => pure (.ok reply)
  | .error cause => pure (.error (.noReply order.url policy.attempts cause))

end Network

end Enrollment.Http
