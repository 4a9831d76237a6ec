import Enrollment.Http.Message
import Enrollment.Time.Duration

/-!
# Servers

A server is the far side of the network: it has a state of its own, and each request that
reaches it is followed by a reply, by a reply that breaks off, or by nothing. Any of them
may take time. It may also be that no connection is made and the request never gets there.

A request is what the HTTP library is asked to send once, and what follows it is what the library
comes back with. A reply that names another location may make the library send further requests
of its own, to that location; these belong to the server's side of the exchange, and what follows
the last of them is what follows the request.

The server that a script describes follows the script one entry for each request, and says
nothing more when the script has ended. The unreachable server is never connected to, and
no time passes over trying.
-/

namespace Enrollment.Http

/-- What comes back for a request. -/
inductive Arrival where
  | reply (reply : Reply)
  | brokenBody (status : Status)
  | nothing
  | unconnected
  deriving DecidableEq, Repr

structure Delivery where
  arrival : Arrival
  elapsed : Duration := Duration.zero
  deriving DecidableEq, Repr

/-- What has arrived when no more than `limit` is waited for. -/
def Delivery.within (limit : Duration) (d : Delivery) : Arrival :=
  match d.arrival with
  | .unconnected => .unconnected
  | arrival => if d.elapsed.toNanos < limit.toNanos then arrival else .nothing

/-- The far side of the network, with states in `σ`. -/
abbrev Server (σ : Type) := Request → σ → Delivery × σ

/-- The server that no request reaches. -/
def Server.unreachable : Server Unit := fun _ s => ({ arrival := .unconnected }, s)

/-! ## Scripts -/

/-- What a script says about one request. -/
inductive Cue where
  | answer (status : Status) (body : Bytes) (delay : Duration)
  | truncated (status : Status) (delay : Duration)
  | dropped
  | hung (time : Duration)
  deriving DecidableEq, Repr

/-- The body that is received for a request: some statuses, and requests for a head, have
none. -/
def receivedBody (method : Method) (status : Status) (body : Bytes) : Bytes :=
  if method = .head ∨ status = .noContent ∨ status = .notModified then [] else body

/-- A body can only break off where one is received. -/
def Cue.play (request : Request) : Cue → Delivery
  | answer status body delay =>
    ⟨.reply ⟨status, receivedBody request.method status body⟩, delay⟩
  | truncated status delay =>
    if receivedBody request.method status [0] = [] then ⟨.reply ⟨status, []⟩, delay⟩
    else ⟨.brokenBody status, delay⟩
  | dropped => { arrival := .nothing }
  | hung time => ⟨.nothing, time⟩

/-- The server that follows a script. -/
def Server.scripted : Server (List Cue) := fun request script =>
  match script with
  | [] => (Cue.dropped.play request, [])
  | cue :: rest => (cue.play request, rest)

@[simp] theorem Server.scripted_nil (request : Request) :
    Server.scripted request [] = ({ arrival := .nothing }, []) := rfl

end Enrollment.Http
