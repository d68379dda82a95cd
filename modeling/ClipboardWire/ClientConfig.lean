import ClipboardWire.ServerConfig
import ClipboardWire.Toml

namespace ClipboardWire

open PlainText SocketAddress Toml

/-!
# The client configuration file

`ClientConfig` and `HubConfig` of `core/src/client/config.rs`: how they are
read from the table of a TOML document, field by field with their defaults,
what `ClientConfig::load` checks after that, and how the `[hub]` section
becomes a server configuration.
-/

/-- The `[hub]` section. -/
structure HubConfig where
  enabled : Bool
  bind : SocketAddr
  user : String
  password : String
  maxConns : UInt64
  maxFrameBytes : UInt64
  tlsCertFile : Option String
  tlsKeyFile : Option String
  tlsDisabled : Bool
  stateDir : Option String
  deriving DecidableEq, Repr

/-- A client configuration. -/
structure ClientConfig where
  server : String
  user : String
  password : String
  pollMs : UInt64
  tlsCaFile : Option String
  tlsInsecure : Bool
  hub : Option HubConfig
  deriving DecidableEq, Repr

/-- `default_poll_ms`. -/
def defaultPollMs : UInt64 :=
  300

/-- `default_hub_bind`. -/
def defaultHubBind : SocketAddr :=
  .v4 .unspecified 8484

/-- `default_hub_max_conns`. -/
def defaultHubMaxConns : UInt64 :=
  64

/-- `default_hub_max_frame`. -/
def defaultHubMaxFrame : UInt64 :=
  .ofNat maxFrameBytes

namespace HubConfig

/-- `HubConfig::default`. -/
def default : HubConfig where
  enabled := false
  bind := defaultHubBind
  user := ""
  password := ""
  maxConns := defaultHubMaxConns
  maxFrameBytes := defaultHubMaxFrame
  tlsCertFile := none
  tlsKeyFile := none
  tlsDisabled := false
  stateDir := none

/-- `HubConfig::to_server_config`. -/
def toServerConfig (hub : HubConfig) : ServerConfig where
  bind := hub.bind
  user := hub.user
  password := hub.password
  maxConns := hub.maxConns
  maxFrameBytes := hub.maxFrameBytes
  tlsCertFile := hub.tlsCertFile
  tlsKeyFile := hub.tlsKeyFile
  tlsDisabled := hub.tlsDisabled
  stateDir := hub.stateDir
  stats := none

/-- The fields of a section that have been seen. -/
structure Partial where
  enabled : Option Bool
  bind : Option SocketAddr
  user : Option String
  password : Option String
  maxConns : Option UInt64
  maxFrameBytes : Option UInt64
  tlsCertFile : Option String
  tlsKeyFile : Option String
  tlsDisabled : Option Bool
  stateDir : Option String

/-- No field has been seen. -/
def Partial.empty : Partial :=
  ⟨none, none, none, none, none, none, none, none, none, none⟩

/-- Visit one entry of the section; unknown fields are denied. -/
def Partial.visit (seen : Partial) (entry : String × Value) :
    Except Toml.Error Partial :=
  let (name, value) := entry
  match name with
  | "enabled" => do
      .ok { seen with enabled := ← fill seen.enabled name value.asBool }
  | "bind" => do
      .ok
        { seen with
          bind := ← fill seen.bind name
            (value.asParsed SocketAddr.parse "invalid socket address syntax") }
  | "user" => do
      .ok { seen with user := ← fill seen.user name value.asString }
  | "password" => do
      .ok { seen with password := ← fill seen.password name value.asString }
  | "max_conns" => do
      .ok { seen with maxConns := ← fill seen.maxConns name value.asUInt64 }
  | "max_frame_bytes" => do
      .ok
        { seen with
          maxFrameBytes := ← fill seen.maxFrameBytes name value.asUInt64 }
  | "tls_cert_file" => do
      .ok
        { seen with
          tlsCertFile := ← fill seen.tlsCertFile name value.asString }
  | "tls_key_file" => do
      .ok
        { seen with
          tlsKeyFile := ← fill seen.tlsKeyFile name value.asString }
  | "tls_disabled" => do
      .ok
        { seen with tlsDisabled := ← fill seen.tlsDisabled name value.asBool }
  | "state_dir" => do
      .ok { seen with stateDir := ← fill seen.stateDir name value.asString }
  | _ =>
      .error ⟨[name], .unknownField⟩

/-- What is missing gets its default, unless it has none. -/
def Partial.finish (seen : Partial) : Except Toml.Error HubConfig := do
  let user ← required seen.user "user"
  let password ← required seen.password "password"
  .ok
    { enabled := seen.enabled.getD false
      bind := seen.bind.getD defaultHubBind
      user := user
      password := password
      maxConns := seen.maxConns.getD defaultHubMaxConns
      maxFrameBytes := seen.maxFrameBytes.getD defaultHubMaxFrame
      tlsCertFile := seen.tlsCertFile
      tlsKeyFile := seen.tlsKeyFile
      tlsDisabled := seen.tlsDisabled.getD false
      stateDir := seen.stateDir }

/-- Read the section from its table. -/
def deserialize (table : Table) : Except Toml.Error HubConfig := do
  let seen ← table.foldlM Partial.visit .empty
  seen.finish

end HubConfig

/-- The systems that differ in how a config file is protected. -/
inductive Platform where
  | unix
  | other
  deriving DecidableEq, Repr

/-- A file on disk: its permissions, and its text when it is UTF-8. -/
structure ConfigFile where
  mode : Nat
  text : Option String
  deriving DecidableEq, Repr

/-- Why a config file is not loaded. -/
inductive LoadError where
  | permissions (mode : Nat)
  | reading
  | malformed (message : String)
  | parsing (error : Toml.Error)
  | invalid (message : String)
  deriving DecidableEq, Repr

namespace ClientConfig

/-- The fields of a document that have been seen. -/
structure Partial where
  server : Option String
  user : Option String
  password : Option String
  pollMs : Option UInt64
  tlsCaFile : Option String
  tlsInsecure : Option Bool
  hub : Option HubConfig

/-- No field has been seen. -/
def Partial.empty : Partial :=
  ⟨none, none, none, none, none, none, none⟩

/-- Visit one entry of the document; unknown fields are denied. -/
def Partial.visit (seen : Partial) (entry : String × Value) :
    Except Toml.Error Partial :=
  let (name, value) := entry
  match name with
  | "server" => do
      .ok { seen with server := ← fill seen.server name value.asString }
  | "user" => do
      .ok { seen with user := ← fill seen.user name value.asString }
  | "password" => do
      .ok { seen with password := ← fill seen.password name value.asString }
  | "poll_ms" => do
      .ok { seen with pollMs := ← fill seen.pollMs name value.asUInt64 }
  | "tls_ca_file" => do
      .ok { seen with tlsCaFile := ← fill seen.tlsCaFile name value.asString }
  | "tls_insecure" => do
      .ok
        { seen with tlsInsecure := ← fill seen.tlsInsecure name value.asBool }
  | "hub" => do
      .ok
        { seen with
          hub := ← fill seen.hub name
            (value.asTable >>= HubConfig.deserialize) }
  | _ =>
      .error ⟨[name], .unknownField⟩

/-- What is missing gets its default, unless it has none. -/
def Partial.finish (seen : Partial) : Except Toml.Error ClientConfig := do
  let server ← required seen.server "server"
  let user ← required seen.user "user"
  let password ← required seen.password "password"
  .ok
    { server := server
      user := user
      password := password
      pollMs := seen.pollMs.getD defaultPollMs
      tlsCaFile := seen.tlsCaFile
      tlsInsecure := seen.tlsInsecure.getD false
      hub := seen.hub }

/-- Read a configuration from the table of its document. -/
def deserialize (table : Table) : Except Toml.Error ClientConfig := do
  let seen ← table.foldlM Partial.visit .empty
  seen.finish

/-- `ClientConfig::validate`; the hub section is not looked at. -/
def validate (config : ClientConfig) : Except String Unit := do
  ensure
    (startsWith "ws://" config.server ∨ startsWith "wss://" config.server)
    ("`server` must start with ws:// or wss:// (got `" ++ config.server ++ "`)")
  ensure (config.user ≠ "") "`user` must not be empty"
  ensure (config.password ≠ "") "`password` must not be empty"
  ensure (config.pollMs ≠ 0) "`poll_ms` must be greater than 0"

/-- `check_perms`. -/
def checkPerms (platform : Platform) (file : Option ConfigFile) :
    Except LoadError Unit :=
  match platform, file with
  | .other, _ =>
      .ok ()
  | .unix, none =>
      .error .reading
  | .unix, some file =>
      if file.mode % 0o100 = 0 then
        .ok ()
      else
        .error (.permissions (file.mode % 0o1000))

/-- The text of a file. -/
def readText (file : Option ConfigFile) : Except LoadError String :=
  match file with
  | some ⟨_, some text⟩ => .ok text
  | _ => .error .reading

/-- `ClientConfig::load`. -/
def load (platform : Platform) (toml : Format) (file : Option ConfigFile) :
    Except LoadError ClientConfig := do
  checkPerms platform file
  let text ← readText file
  let table ← (toml.parse text).mapError .malformed
  let config ← (deserialize table).mapError .parsing
  config.validate.mapError .invalid
  .ok config

/-- A configuration that loads has been validated. -/
theorem validate_of_load
    {platform : Platform}
    {toml : Format}
    {file : Option ConfigFile}
    {config : ClientConfig}
    (loaded : load platform toml file = .ok config) :
    config.validate = .ok () := by
  simp only [load, ServerConfig.bind_eq_ok] at loaded
  obtain ⟨_, -, _, -, _, -, found, -, _, valid, same⟩ := loaded
  cases same
  cases validated : config.validate with
  | error message =>
      simp [validated, Except.mapError] at valid
  | ok nothing =>
      rfl

end ClientConfig

end ClipboardWire
