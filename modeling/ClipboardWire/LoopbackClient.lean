import ClipboardWire.BasicAuth
import ClipboardWire.ServerEntry

namespace ClipboardWire

open PlainText SocketAddress

/-!
# The local client of a hub

Host mode (`build_host_client_config` of `cli/src/main.rs`) and the tray
(`start_embedded_hub_with_cfg` of `cli/src/tray.rs`) start a hub and point a
client on the same machine at it.  Both write a server URL for the loopback
address from the configuration of the hub, each by its own rule, while
`server::serve` decides on its own what the hub speaks.  Here the client
configurations are computed as the source does, and the URL is taken apart
again to compare it with what the hub serves.
-/

/-- `ws://` or `wss://`. -/
inductive Scheme where
  | ws
  | wss
  deriving DecidableEq, Repr

/-- The name of a scheme. -/
def Scheme.text : Scheme → String
  | .ws => "ws"
  | .wss => "wss"

/-- What `serve` speaks: without certificate files it makes its own. -/
def ServerConfig.servedScheme (config : ServerConfig) : Scheme :=
  if config.tlsDisabled then
    .ws
  else
    .wss

/-- A listener that was bound to an address. -/
structure Listener (address : SocketAddr) where
  /-- Where it listens; the system chooses the port when none is given. -/
  bound : SocketAddr
  /-- `TcpListener::local_addr`, unless it fails. -/
  localAddr : Option SocketAddr
  sameIp : bound.ip = address.ip
  samePort : address.port ≠ 0 → bound.port = address.port
  truthful : ∀ {reported}, localAddr = some reported → reported = bound

/-- The address that `server::bind` returns beside the listener. -/
def Listener.address {bind : SocketAddr} (listener : Listener bind) :
    SocketAddr :=
  listener.localAddr.getD bind

/-- Which connections reach a listener, by the address that was dialled. -/
structure Routing where
  accepts : IpAddr → IpAddr → Prop
  /-- A concrete address accepts itself only. -/
  concrete :
    ∀ {ip dialled},
      ip.isUnspecified = false →
        (accepts ip dialled ↔ dialled = ip)
  /-- `0.0.0.0` accepts `127.0.0.1`. -/
  everyIpv4 : accepts (.v4 .unspecified) (.v4 .localhost)

/-- The loopback URL of a port. -/
def loopbackUrl (scheme : Scheme) (port : UInt16) : String :=
  scheme.text ++ "://" ++ (SocketAddr.v4 .localhost port).toText ++ "/sync"

/-- `build_host_client_config`, with the loaded file when one was given. -/
def buildHostClientConfig
    (config : ServerConfig)
    (port : UInt16)
    (overrideFile : Option ClientConfig) :
    ClientConfig :=
  let scheme := if config.tlsEnabled then Scheme.wss else Scheme.ws
  let (user, password, pollMs) :=
    match overrideFile with
    | some file => (file.user, file.password, file.pollMs)
    | none => (config.user, config.password, 300)
  { server := loopbackUrl scheme port
    user := user
    password := password
    pollMs := pollMs
    tlsCaFile := none
    tlsInsecure := config.tlsEnabled
    hub := none }

/-- What `start_embedded_hub_with_cfg` makes of the client's configuration. -/
def rewriteForHub
    (client : ClientConfig)
    (server : ServerConfig)
    (port : UInt16) :
    ClientConfig :=
  let scheme := if !server.tlsDisabled then Scheme.wss else Scheme.ws
  { client with
    server := loopbackUrl scheme port
    tlsInsecure := client.tlsInsecure || !server.tlsDisabled }

/-- Where a server URL points to. -/
structure Endpoint where
  scheme : Scheme
  address : SocketAddr
  deriving DecidableEq, Repr

/-- Take apart a server URL whose host is an address. -/
def endpoint? (server : String) : Option Endpoint := do
  let (scheme, rest) ←
    (match stripPrefix "wss://" server with
    | some rest => some (Scheme.wss, rest)
    | none => (stripPrefix "ws://" server).map fun rest => (Scheme.ws, rest))
  let (authority, _) ← splitOnce '/' rest
  let address ← SocketAddr.parse authority
  return ⟨scheme, address⟩

/-- The two ways of starting a hub together with its client. -/
inductive LocalStart where
  /-- Host mode without a config file. -/
  | host
      (environment : Environment)
      (config : ServerConfig)
      (made : ServerConfig.fromEnv environment = .ok config)
  /-- The tray with a hub section that is enabled. -/
  | tray
      (config : ClientConfig)
      (hub : HubConfig)
      (isHub : config.hub = some hub)
      (enabled : hub.enabled = true)
      (configPath : String)

namespace LocalStart

/-- What the hub is started with. -/
def server : LocalStart → ServerConfig
  | .host _ config _ => config
  | .tray _ hub _ _ configPath => embeddedServerConfig hub configPath

/-- The configuration of the local client. -/
def client (start : LocalStart) (listener : Listener start.server.bind) :
    ClientConfig :=
  match start with
  | .host _ config _ =>
      buildHostClientConfig config listener.address.port none
  | .tray config hub _ _ configPath =>
      rewriteForHub config (embeddedServerConfig hub configPath)
        listener.address.port

end LocalStart

/-- A client finds the hub behind a listener and is let in. -/
structure Reaches
    (routing : Routing)
    (server : ServerConfig)
    (listener : Listener server.bind)
    (client : ClientConfig) : Prop where
  endpoint :
    ∃ found,
      endpoint? client.server = some found ∧
        found.scheme = server.servedScheme ∧
          found.address.port = listener.bound.port ∧
            routing.accepts listener.bound.ip found.address.ip
  credentials :
    checkBasicAuth (some (basicHeaderValue client.user client.password))
      server.user server.password = true

/-- The bind addresses that connections to the loopback address reach. -/
def Routing.Loopback (routing : Routing) (ip : IpAddr) : Prop :=
  ip = .v4 .localhost ∨ ip = .v4 .unspecified ∨
    (ip = .v6 .unspecified ∧
      routing.accepts (.v6 .unspecified) (.v4 .localhost))

/-- A listener whose port is known. -/
def Listener.PortKnown {bind : SocketAddr} (listener : Listener bind) : Prop :=
  listener.localAddr.isSome ∨ bind.port = listener.bound.port

/--
When the local client of a hub is right.  Host mode takes TLS for enabled when
both certificate files are set, so exactly one of the files and the switch that
disables TLS has to be given.  The tray keeps the client's own credentials, so
they have to make the same pair as those of the hub.
-/
def LocalStart.Agrees
    (routing : Routing)
    (start : LocalStart)
    (listener : Listener start.server.bind) :
    Prop :=
  routing.Loopback start.server.bind.ip ∧
    listener.PortKnown ∧
      ':' ∉ start.server.user.toList ∧
        match start with
        | .host _ config _ =>
            config.tlsEnabled = !config.tlsDisabled
        | .tray config hub _ _ _ =>
            config.user ++ ":" ++ config.password =
              hub.user ++ ":" ++ hub.password

/-- The only unspecified addresses are the two all-zero ones. -/
theorem isUnspecified_eq_true {ip : IpAddr} :
    ip.isUnspecified = true ↔
      ip = .v4 .unspecified ∨ ip = .v6 .unspecified := by
  cases ip <;> simp [IpAddr.isUnspecified]

/-- Which listeners the loopback address reaches. -/
theorem Routing.accepts_localhost (routing : Routing) (ip : IpAddr) :
    routing.accepts ip (.v4 .localhost) ↔ routing.Loopback ip := by
  cases unspecified : ip.isUnspecified with
  | false =>
      rw [routing.concrete unspecified]
      constructor
      · intro same
        exact .inl same.symm
      · rintro (same | same | ⟨same, -⟩)
        · exact same.symm
        · simp [same, IpAddr.isUnspecified] at unspecified
        · simp [same, IpAddr.isUnspecified] at unspecified
  | true =>
      rcases isUnspecified_eq_true.mp unspecified with rfl | rfl
      · simp [Routing.Loopback, routing.everyIpv4]
      · simp [Routing.Loopback]

/-- The address that is reported has the right port when the port is known. -/
theorem Listener.address_port_eq_iff
    {bind : SocketAddr}
    (listener : Listener bind) :
    listener.address.port = listener.bound.port ↔ listener.PortKnown := by
  simp only [Listener.address, Listener.PortKnown]
  cases reported : listener.localAddr with
  | none =>
      simp
  | some address =>
      simp [listener.truthful reported]

/-- A printed number has no slash. -/
theorem slash_not_mem_decimal (number : Nat) : '/' ∉ decimal number := by
  obtain ⟨digits, printed, -, -⟩ :=
    @TextReader.exists_digits 10 (by decide) number
  intro member
  rw [decimal, printed] at member
  obtain ⟨digit, -, isSlash⟩ := List.mem_map.mp member
  have different : Nat.digitChar digit ≠ '/' := by
    simp
  exact different isSlash

/-- A written loopback URL points where it was written for. -/
theorem endpoint?_loopbackUrl (scheme : Scheme) (port : UInt16) :
    endpoint? (loopbackUrl scheme port) =
      some ⟨scheme, .v4 .localhost port⟩ := by
  have split :
      splitOnce '/' ((SocketAddr.v4 .localhost port).toText ++ "/sync") =
        some ((SocketAddr.v4 .localhost port).toText, "sync") := by
    rw [splitOnce_eq_some]
    refine ⟨?_, by simp⟩
    rw [SocketAddr.toText, String.toList_ofList]
    simp [SocketAddr.text, Ipv4Addr.text, slash_not_mem_decimal]
  cases scheme with
  | ws =>
      have url :
          loopbackUrl .ws port =
            "ws://" ++ ((SocketAddr.v4 .localhost port).toText ++ "/sync") := by
        simp [loopbackUrl, Scheme.text, String.append_assoc]
      have notWss :
          stripPrefix "wss://"
              ("ws://" ++
                ((SocketAddr.v4 .localhost port).toText ++ "/sync")) =
            none := by
        simp [stripPrefix, startsWith]
      simp [endpoint?, url, notWss, split, SocketAddr.parse_toText]
  | wss =>
      have url :
          loopbackUrl .wss port =
            "wss://" ++
              ((SocketAddr.v4 .localhost port).toText ++ "/sync") := by
        simp [loopbackUrl, Scheme.text, String.append_assoc]
      simp [endpoint?, url, split, SocketAddr.parse_toText]

/--
A client with a loopback URL is right when its scheme is the served one, the
listener is reached and its port known, and the credentials make the pair that
the hub looks for.
-/
theorem reaches_iff
    {routing : Routing}
    {server : ServerConfig}
    {listener : Listener server.bind}
    {client : ClientConfig}
    {scheme : Scheme}
    (isUrl : client.server = loopbackUrl scheme listener.address.port) :
    Reaches routing server listener client ↔
      routing.Loopback server.bind.ip ∧
        listener.PortKnown ∧
          scheme = server.servedScheme ∧
            ':' ∉ server.user.toList ∧
              client.user ++ ":" ++ client.password =
                server.user ++ ":" ++ server.password := by
  have credentials :
      checkPair (client.user ++ ":" ++ client.password) server.user
          server.password = true ↔ _ :=
    checkPair_eq_true
  rw [← checkBasicAuth_basicHeaderValue] at credentials
  rw [← credentials, ← listener.address_port_eq_iff,
    ← routing.accepts_localhost, ← listener.sameIp]
  constructor
  · intro reaches
    obtain ⟨found, isFound, sameScheme, known, accepted⟩ := reaches.endpoint
    rw [isUrl, endpoint?_loopbackUrl] at isFound
    cases isFound
    exact ⟨accepted, known, sameScheme, reaches.credentials⟩
  · rintro ⟨accepted, known, sameScheme, letIn⟩
    exact
      { endpoint :=
          ⟨⟨scheme, .v4 .localhost listener.address.port⟩,
            by rw [isUrl, endpoint?_loopbackUrl], sameScheme, known,
            accepted⟩
        credentials := letIn }

/-- Host mode writes the served scheme unless it is wrong about TLS. -/
theorem hostScheme_eq_iff (config : ServerConfig) :
    (if config.tlsEnabled then Scheme.wss else Scheme.ws) =
        config.servedScheme ↔
      config.tlsEnabled = !config.tlsDisabled := by
  cases config.tlsEnabled <;> cases disabled : config.tlsDisabled <;>
    simp [ServerConfig.servedScheme, disabled]

/-- The tray writes the served scheme. -/
theorem trayScheme_eq (config : ServerConfig) :
    (if !config.tlsDisabled then Scheme.wss else Scheme.ws) =
      config.servedScheme := by
  cases disabled : config.tlsDisabled <;>
    simp [ServerConfig.servedScheme, disabled]

/--
The local client of a hub finds it and is let in exactly when the start
agrees: for host mode and for the tray, for every listener and every way of
routing that the loopback address has.
-/
theorem reaches_iff_agrees
    (routing : Routing)
    (start : LocalStart)
    (listener : Listener start.server.bind) :
    Reaches routing start.server listener (start.client listener) ↔
      start.Agrees routing listener := by
  cases start with
  | host environment config made =>
      have isUrl :
          (buildHostClientConfig config listener.address.port none).server =
            loopbackUrl (if config.tlsEnabled then .wss else .ws)
              listener.address.port :=
        rfl
      have ownPair :
          config.user ++ ":" ++ config.password =
            config.user ++ ":" ++ config.password :=
        rfl
      refine (reaches_iff isUrl).trans ?_
      constructor
      · rintro ⟨loopback, known, sameScheme, noColon, -⟩
        exact
          ⟨loopback, known, noColon,
            (hostScheme_eq_iff config).mp sameScheme⟩
      · rintro ⟨loopback, known, noColon, oneOfBoth⟩
        exact
          ⟨loopback, known, (hostScheme_eq_iff config).mpr oneOfBoth, noColon,
            ownPair⟩
  | tray config hub isHub enabled configPath =>
      have isUrl :
          (rewriteForHub config (embeddedServerConfig hub configPath)
              listener.address.port).server =
            loopbackUrl
              (if !(embeddedServerConfig hub configPath).tlsDisabled then
                .wss
              else
                .ws)
              listener.address.port :=
        rfl
      refine (reaches_iff isUrl).trans ?_
      constructor
      · rintro ⟨loopback, known, -, noColon, samePair⟩
        exact ⟨loopback, known, noColon, samePair⟩
      · rintro ⟨loopback, known, noColon, samePair⟩
        exact ⟨loopback, known, trayScheme_eq _, noColon, samePair⟩

/-- The environment of a first start in host mode: only the credentials. -/
def firstEnvironment : Environment where
  var name :=
    if name = "CLIPBOARDWIRE_USER" then
      .set "alice"
    else if name = "CLIPBOARDWIRE_PASSWORD" then
      .set "hunter2"
    else
      .notPresent
  readToString path :=
    .error path

/-- What host mode makes of that environment. -/
def firstConfig : ServerConfig where
  bind := defaultHubBind
  user := "alice"
  password := "hunter2"
  maxConns := 64
  maxFrameBytes := .ofNat maxFrameBytes
  tlsCertFile := none
  tlsKeyFile := none
  tlsDisabled := false
  stateDir := none
  stats := none

/-- A listener on the default port. -/
def firstListener : Listener firstConfig.bind where
  bound := defaultHubBind
  localAddr := some defaultHubBind
  sameIp := rfl
  samePort _ := rfl
  truthful := by
    intro reported same
    exact (Option.some.inj same).symm

/-- The routing in which an unspecified address accepts its own family. -/
def plainRouting : Routing where
  accepts ip dialled := dialled = ip ∨ ip = .v4 .unspecified
  concrete := by
    intro ip dialled specified
    have different : ip ≠ .v4 .unspecified := by
      rintro rfl
      exact Bool.false_ne_true specified.symm
    simp [different]
  everyIpv4 := .inr rfl

/--
On a first start of host mode the hub makes its own certificate and speaks
`wss`, while the local client is told to dial `ws`.
-/
theorem firstStart_not_reached :
    ¬ ∀ (routing : Routing) (start : LocalStart)
        (listener : Listener start.server.bind),
        Reaches routing start.server listener (start.client listener) := by
  intro always
  have made : ServerConfig.fromEnv firstEnvironment = .ok firstConfig := by
    rfl
  have reaches :=
    always plainRouting (.host firstEnvironment firstConfig made) firstListener
  obtain ⟨found, isFound, sameScheme, -, -⟩ := reaches.endpoint
  have written :
      endpoint? (loopbackUrl .ws defaultHubBind.port) = some found :=
    isFound
  rw [endpoint?_loopbackUrl] at written
  cases written
  cases sameScheme

end ClipboardWire
