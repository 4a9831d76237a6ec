import Enrollment.Proofs.Inventory.Traffic
import Enrollment.Proofs.Inventory.Urls
import Enrollment.Registration.Basic

/-!
# Where the token goes

A client writes the paths of its requests behind the text that it has been given, without the
slashes at the end of that text, and the whole is read as a URL again. When the text names a host,
so does the whole, and it is the same one. A scheme over HTTP with nothing behind it names no
host, but with a path behind it it does: the first segment of the path is taken for an authority.
Such a text is refused only where an alias for the host is given, because nothing else looks at
the host.
-/

namespace Enrollment.Inventory

open Http

variable [Url.Idna]

open Url in
/-- The URL leads to the host that a client has been given. Or the client has been given a text
that names none, and the URL leads to the first segment of its own path. -/
inductive LeadsTo (hostUrl : String) (connection : Connection) (u : Url) : Prop
  | named {host : String} (names : hostOfUrl hostUrl = .ok host) (same : u.hostText? = some host)
  | bare (unchecked : connection.hostAlias = none) (bare : IsBare hostUrl)
      (nameless : hostOfUrl hostUrl = .error (.invalidHost hostUrl))
      (segment : u.hostText? = some "accounts")

theorem LeadsTo.withoutUserinfo {hostUrl : String} {connection : Connection} {u : Url}
    (h : LeadsTo hostUrl connection u) : LeadsTo hostUrl connection u.withoutUserinfo := by
  cases h with
  | named names same => exact .named names (by rwa [Url.hostText?_withoutUserinfo])
  | bare unchecked bare nameless segment =>
      exact .bare unchecked bare nameless (by rwa [Url.hostText?_withoutUserinfo])

namespace Client

variable {σ : Type} {client : Client} {hostUrl : String} {connection : Connection} {u : Url}

/-- A text that names no host is noticed where an alias is given. -/
theorem connect_ok (connected : connect hostUrl connection = .ok client) :
    client = ofHost hostUrl ∧
      ∀ e, hostOfUrl hostUrl = .error e → connection.hostAlias = none := by
  unfold connect at connected
  split at connected
  · cases connected
  · next other =>
    cases connected
    refine ⟨rfl, fun e failed => ?_⟩
    cases given : connection.hostAlias with
    | none => rfl
    | some address => exact absurd failed (other address e given)

/-- The URL of a request over HTTP leads to the host, whatever account and resource it is for. -/
theorem leadsTo_url {account : String} {r : Resource} {port : Nat}
    (connected : connect hostUrl connection = .ok client)
    (parsed : Url.parse? (client.url account r) = some u)
    (special : Url.kindOf u.scheme = .special port) : LeadsTo hostUrl connection u := by
  obtain ⟨rfl, unchecked⟩ := connect_ok connected
  obtain ⟨slashes, trimmed, only⟩ := exists_slashes hostUrl
  obtain ⟨y, below⟩ := exists_below (ofHost hostUrl) account r
  obtain ⟨name, shown, same | ⟨bare, none, rfl⟩⟩ :=
    Url.hostText?_below trimmed only below parsed special
  · have names : hostOfUrl hostUrl = .ok name := by rw [hostOfUrl, same]
    exact .named names shown
  · have nameless : hostOfUrl hostUrl = .error (.invalidHost hostUrl) := by rw [hostOfUrl, none]
    exact .bare (unchecked _ nameless) bare nameless shown

/-- So does every request that is sent for a call. -/
theorem Sends.leadsTo {scope : Scope} {call : Call} {request : Request}
    (connected : connect hostUrl connection = .ok client)
    (sends : client.Sends scope call request) : LeadsTo hostUrl connection request.url := by
  obtain ⟨plan, -, sent⟩ := sends
  obtain ⟨url, parsed, sendable, rfl⟩ := request?_eq sent
  obtain ⟨port, special⟩ := special_of_canRequest sendable
  rw [Url.scheme_withoutUserinfo] at special
  exact (leadsTo_url connected parsed special).withoutUserinfo

end Client

end Enrollment.Inventory

namespace Enrollment.Registration

open Http Inventory

/-- The token goes to the host that the text names which a client has been connected with: every
URL over HTTP that the client builds leads there, and so does every request of every flow that it
carries out, whatever domains outside ASCII are mapped to. The exception is a bare scheme. It names
no host, and when no alias is given the client is connected all the same; its requests go to the
host `accounts`. -/
theorem token_goes_to_the_named_host [Url.Idna] {σ α : Type} {hostUrl : String}
    {connection : Connection} {client : Client}
    (connected : Client.connect hostUrl connection = .ok client) :
    (∀ account resource u port, Url.parse? (client.url account resource) = some u →
      Url.kindOf u.scheme = .special port → LeadsTo hostUrl connection u) ∧
    ∀ (net : Network σ) (x : Flow α) (wire : Wire σ), ∃ log,
      (x.run (overHttp net client) wire).2.events = wire.events ++ log ∧
      ∀ request ∈ requests log, LeadsTo hostUrl connection request.url := by
  refine ⟨fun account resource u port => Client.leadsTo_url connected, fun net x wire => ?_⟩
  obtain ⟨steps, log, -, events, logged⟩ := exists_takes_logged net client x wire
  refine ⟨log, events, fun request member => ?_⟩
  obtain ⟨scope, call, _, -, sends⟩ := logged.sends member
  exact sends.leadsTo connected

/-- The host may stand behind a user, be escaped and lie outside ASCII, and the text may end in
slashes. -/
theorem token_goes_to_an_escaped_host :
    letI := Url.Idna.single "Bücher." "xn--bcher-kva."
    let hostUrl := "HTTP:\\u@B%C3%BCcher%2e:080//"
    let pinned : Connection := { hostAlias := some (.four ⟨(127, 0, 0, 1)⟩) }
    let built := (Client.ofHost hostUrl).url "@x" (.cloud "../c")
    Client.connect hostUrl pinned = .ok (Client.ofHost hostUrl) ∧
    hostOfUrl hostUrl = .ok "xn--bcher-kva." ∧
    (Url.parse? built).map Url.text = some "http://u@xn--bcher-kva./accounts/@x/topology/v1/c" ∧
    ∀ u, Url.parse? built = some u → LeadsTo hostUrl pinned u := by
  let := Url.Idna.single "Bücher." "xn--bcher-kva."
  intro hostUrl pinned built
  have connected : Client.connect hostUrl pinned = .ok (Client.ofHost hostUrl) := by decide +kernel
  have scheme : (Url.parse? built).map (fun u => Url.kindOf u.scheme) = some (.special 80) := by
    decide +kernel
  refine ⟨connected, by decide +kernel, by decide +kernel, fun u parsed => ?_⟩
  rw [parsed] at scheme
  exact (token_goes_to_the_named_host (σ := Unit) (α := Unit) connected).1
    "@x" (.cloud "../c") u 80 parsed (Option.some.inj scheme)

/-- A client is connected with a bare scheme, which is no host, and sends the token to the host
`accounts`. With an alias it would not be connected. -/
theorem token_goes_to_the_first_segment :
    letI := Url.Idna.asciiOnly
    let pinned : Connection := { hostAlias := some (.four ⟨(127, 0, 0, 1)⟩) }
    let cluster : LocalCluster := ⟨fun _ => .ok "token", .ok {}, .ok "identity"⟩
    let wire := ((isManaged cluster { account := "a" } "id").run.run
      (overHttp ⟨Server.scripted, .recording⟩ (Client.ofHost "https:")) { server := [] }).2
    Client.connect "https:" {} = .ok (Client.ofHost "https:") ∧
    hostOfUrl "https:" = .error (.invalidHost "https:") ∧
    Client.connect "https:" pinned = .error (.refused (.invalidHost (.invalidHost "https:"))) ∧
    (requests wire.events).map (fun request => (request.url.hostText?, request.headers.head?)) =
      [(some "accounts", some (Header.authorization, "Bearer token"))] := by
  decide +kernel

end Enrollment.Registration
