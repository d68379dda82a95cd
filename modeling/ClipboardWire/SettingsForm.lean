import ClipboardWire.ClientConfig

namespace ClipboardWire

open PlainText SocketAddress Toml

/-!
# The settings dialog

The form of `cli/src/settings.rs`: how it is filled from a config file, what
`validate` looks at, and what `write_toml` writes.  Three records list the
fields of a configuration: the one that is loaded, the form, and the one that
is written.
-/

/-- The fields of the dialog. -/
structure FormState where
  server : String
  user : String
  password : String
  pollMs : UInt64
  tlsCaFile : String
  tlsInsecure : Bool
  hubEnabled : Bool
  hubBind : String
  hubUser : String
  hubPassword : String
  hubTlsCertFile : String
  hubTlsKeyFile : String
  lastError : Option String
  deriving DecidableEq, Repr

namespace FormState

/-- The form of a loaded configuration. -/
def ofConfig (config : ClientConfig) : FormState :=
  let hub := config.hub.getD .default
  { server := config.server
    user := config.user
    password := config.password
    pollMs := config.pollMs
    tlsCaFile := config.tlsCaFile.getD ""
    tlsInsecure := config.tlsInsecure
    hubEnabled := hub.enabled
    hubBind := hub.bind.toText
    hubUser := hub.user
    hubPassword := hub.password
    hubTlsCertFile := hub.tlsCertFile.getD ""
    hubTlsKeyFile := hub.tlsKeyFile.getD ""
    lastError := none }

/-- The form when there is no configuration. -/
def empty : FormState where
  server := ""
  user := ""
  password := ""
  pollMs := 0
  tlsCaFile := ""
  tlsInsecure := false
  hubEnabled := false
  hubBind := HubConfig.default.bind.toText
  hubUser := ""
  hubPassword := ""
  hubTlsCertFile := ""
  hubTlsKeyFile := ""
  lastError := none

/-- `load_or_default`. -/
def loadOrDefault
    (platform : Platform)
    (toml : Format)
    (file : Option ConfigFile) :
    FormState :=
  match ClientConfig.load platform toml file with
  | .ok config => ofConfig config
  | .error _ => empty

/-- `validate` of the dialog. -/
def validate (form : FormState) : Except String Unit := do
  ensure (startsWith "ws://" form.server ∨ startsWith "wss://" form.server)
    "Server URL must start with ws:// or wss://"
  ensure (trimText form.user ≠ "") "Username must not be empty"
  ensure (form.password ≠ "") "Password must not be empty"
  ensure (form.pollMs ≠ 0) "Poll interval must be at least 1 ms"
  if form.hubEnabled then
    ensure (SocketAddr.parse form.hubBind).isSome
      ("Hub bind address `" ++ form.hubBind ++ "` is not a valid host:port")
    ensure (trimText form.hubUser ≠ "") "Hub username must not be empty"
    ensure (form.hubPassword ≠ "") "Hub password must not be empty"
    ensure
      (trimText form.hubTlsCertFile ≠ "" ↔
        trimText form.hubTlsKeyFile ≠ "")
      "Hub TLS needs both cert and key files (or neither)"
  else
    .ok ()

end FormState

/-- The hub section as it is written. -/
structure WritableHub where
  enabled : Bool
  bind : String
  user : String
  password : String
  tlsCertFile : Option String
  tlsKeyFile : Option String
  deriving DecidableEq, Repr

/-- A configuration as it is written. -/
structure WritableConfig where
  server : String
  user : String
  password : String
  pollMs : UInt64
  tlsCaFile : Option String
  tlsInsecure : Bool
  hub : Option WritableHub
  deriving DecidableEq, Repr

/-- An entry that is left out when there is no value. -/
def optionalEntry (name : String) (value : Option String) : Table :=
  match value with
  | some text => [(name, .string text)]
  | none => []

/-- The entries of a hub section. -/
def WritableHub.table (hub : WritableHub) : Table :=
  [("enabled", .boolean hub.enabled),
    ("bind", .string hub.bind),
    ("user", .string hub.user),
    ("password", .string hub.password)] ++
  (optionalEntry "tls_cert_file" hub.tlsCertFile ++
    optionalEntry "tls_key_file" hub.tlsKeyFile)

/-- The entries of a configuration; `tls_insecure` is left out when false. -/
def WritableConfig.table (config : WritableConfig) : Table :=
  [("server", .string config.server),
    ("user", .string config.user),
    ("password", .string config.password),
    ("poll_ms", .ofUInt64 config.pollMs)] ++
  (optionalEntry "tls_ca_file" config.tlsCaFile ++
    ((if config.tlsInsecure then [("tls_insecure", .boolean true)] else []) ++
      (match config.hub with
      | some hub => [("hub", .table hub.table)]
      | none => [])))

/-- A path field of the form, unless it is blank. -/
def filledPath (text : String) : Option String :=
  let trimmed := trimText text
  if trimmed = "" then
    none
  else
    some trimmed

namespace FormState

/-- When `write_toml` writes a hub section. -/
def WritesHub (form : FormState) : Prop :=
  form.hubEnabled = true ∨
    form.hubUser ≠ "" ∨
      form.hubPassword ≠ "" ∨
        filledPath form.hubTlsCertFile ≠ none ∨
          filledPath form.hubTlsKeyFile ≠ none

instance (form : FormState) : Decidable form.WritesHub :=
  inferInstanceAs (Decidable (_ ∨ _))

/-- What `write_toml` serializes. -/
def writable (form : FormState) : WritableConfig where
  server := form.server
  user := form.user
  password := form.password
  pollMs := form.pollMs
  tlsCaFile := filledPath form.tlsCaFile
  tlsInsecure := form.tlsInsecure
  hub :=
    if form.WritesHub then
      some
        { enabled := form.hubEnabled
          bind := form.hubBind
          user := form.hubUser
          password := form.hubPassword
          tlsCertFile := filledPath form.hubTlsCertFile
          tlsKeyFile := filledPath form.hubTlsKeyFile }
    else
      none

end FormState

/-- The comment above a written configuration. -/
def settingsComment : String :=
  "clipboardwire client config — written by `clipboardwire settings`."

/-- How the file system answers while a configuration is written. -/
structure DiskAnswers where
  createDirAll : Except String Unit
  /-- A failed write leaves the path with some content. -/
  write : Except (String × Option ConfigFile) Unit
  /-- The permissions of a file that is created. -/
  createdMode : Nat
  setPermissions : Except String Unit

/-- `write_toml`: its result, and what the path holds afterwards. -/
def writeToml
    (platform : Platform)
    (toml : Format)
    (disk : DiskAnswers)
    (file : Option ConfigFile)
    (form : FormState) :
    Except String Unit × Option ConfigFile :=
  match toml.serialize form.writable.table with
  | .error _ =>
      (.error "serializing config as TOML", file)
  | .ok text =>
      match disk.createDirAll with
      | .error message =>
          (.error message, file)
      | .ok () =>
          match disk.write with
          | .error (message, left) =>
              (.error message, left)
          | .ok () =>
              let written : ConfigFile :=
                { mode := (file.map ConfigFile.mode).getD disk.createdMode
                  text := some (comment settingsComment ++ text) }
              match platform with
              | .other =>
                  (.ok (), some written)
              | .unix =>
                  match disk.setPermissions with
                  | .error message =>
                      (.error message, some written)
                  | .ok () =>
                      (.ok (), some { written with mode := 0o600 })

/-- The dialog: its form, and whether it has saved. -/
structure SettingsApp where
  form : FormState
  saved : Bool
  deriving DecidableEq, Repr

namespace SettingsApp

/-- `SettingsApp::new`. -/
def new (form : FormState) : SettingsApp where
  form :=
    if form.pollMs = 0 then
      { form with pollMs := defaultPollMs }
    else
      form
  saved := false

/-- `SettingsApp::try_save`: its result, the dialog, and the file after it. -/
def trySave
    (platform : Platform)
    (toml : Format)
    (disk : DiskAnswers)
    (file : Option ConfigFile)
    (app : SettingsApp) :
    Bool × SettingsApp × Option ConfigFile :=
  match app.form.validate with
  | .error message =>
      (false,
        { app with form := { app.form with lastError := some message } },
        file)
  | .ok () =>
      match writeToml platform toml disk file app.form with
      | (.ok (), after) =>
          (true,
            { form := { app.form with lastError := none }, saved := true },
            after)
      | (.error message, after) =>
          (false,
            { app with
              form :=
                { app.form with
                  lastError := some ("could not save: " ++ message) } },
            after)

end SettingsApp

/-! ## What is read back -/

/-- The hub that a written section is read as. -/
def WritableHub.toHubConfig (hub : WritableHub) (bind : SocketAddr) :
    HubConfig :=
  { HubConfig.default with
    enabled := hub.enabled
    bind := bind
    user := hub.user
    password := hub.password
    tlsCertFile := hub.tlsCertFile
    tlsKeyFile := hub.tlsKeyFile }

/-- A written hub section is read back when its bind address is one. -/
theorem deserialize_hub_table (hub : WritableHub) :
    HubConfig.deserialize hub.table =
      match SocketAddr.parse hub.bind with
      | some bind =>
          .ok (hub.toHubConfig bind)
      | none =>
          .error
            ⟨["bind"], .invalidValue "invalid socket address syntax"⟩ := by
  rcases hub with ⟨enabled, bindText, user, password, cert, key⟩
  cases parsed : SocketAddr.parse bindText with
  | none =>
      simp [HubConfig.deserialize, WritableHub.table, HubConfig.Partial.visit,
        HubConfig.Partial.empty, Value.asBool, Value.asParsed, Value.asString,
        parsed, fill, bind, Except.bind, Toml.Error.below]
  | some address =>
      cases cert <;> cases key <;>
        simp [HubConfig.deserialize, WritableHub.table, optionalEntry,
          HubConfig.Partial.visit, HubConfig.Partial.empty,
          HubConfig.Partial.finish, Value.asBool, Value.asParsed,
          Value.asString, parsed, bind, Except.bind, pure, Except.pure,
          WritableHub.toHubConfig, HubConfig.default]

/-- Reading back what was written, once the number is read. -/
private theorem deserialize_entries
    {server user password : String}
    {number : Value}
    {pollMs : UInt64}
    (isNumber : number.asUInt64 = .ok pollMs)
    (caFile : Option String)
    (insecure : Bool)
    (hub : Option WritableHub) :
    ClientConfig.deserialize
        ([("server", .string server),
          ("user", .string user),
          ("password", .string password),
          ("poll_ms", number)] ++
        (optionalEntry "tls_ca_file" caFile ++
          ((if insecure then [("tls_insecure", .boolean true)] else []) ++
            (match hub with
            | some hub => [("hub", .table hub.table)]
            | none => [])))) =
      match hub with
      | none =>
          .ok ⟨server, user, password, pollMs, caFile, insecure, none⟩
      | some hub =>
          match HubConfig.deserialize hub.table with
          | .ok read =>
              .ok
                ⟨server, user, password, pollMs, caFile, insecure, some read⟩
          | .error error =>
              .error (error.below "hub") := by
  cases hub with
  | none =>
      cases caFile <;> cases insecure <;>
        simp [ClientConfig.deserialize, optionalEntry, isNumber,
          ClientConfig.Partial.visit, ClientConfig.Partial.empty,
          ClientConfig.Partial.finish, Value.asString, Value.asBool, bind,
          Except.bind, pure, Except.pure]
  | some hub =>
      cases read : HubConfig.deserialize hub.table <;>
        cases caFile <;> cases insecure <;>
          simp [ClientConfig.deserialize, optionalEntry, isNumber,
            ClientConfig.Partial.visit, ClientConfig.Partial.empty,
            ClientConfig.Partial.finish, Value.asString, Value.asBool,
            Value.asTable, fill, read, bind, Except.bind, pure, Except.pure]

/-- The configuration that a written one is read as, with its hub section. -/
def WritableConfig.toClientConfig
    (config : WritableConfig)
    (hub : Option HubConfig) :
    ClientConfig where
  server := config.server
  user := config.user
  password := config.password
  pollMs := config.pollMs
  tlsCaFile := config.tlsCaFile
  tlsInsecure := config.tlsInsecure
  hub := hub

/-- A written configuration is read back when its hub section is. -/
theorem deserialize_table (config : WritableConfig) :
    ClientConfig.deserialize config.table =
      match config.hub with
      | none =>
          .ok (config.toClientConfig none)
      | some hub =>
          match SocketAddr.parse hub.bind with
          | some bind =>
              .ok (config.toClientConfig (some (hub.toHubConfig bind)))
          | none =>
              .error
                ⟨["hub", "bind"],
                  .invalidValue "invalid socket address syntax"⟩ := by
  have entries :=
    @deserialize_entries config.server config.user config.password
      (.ofUInt64 config.pollMs) config.pollMs
      (Value.asUInt64_ofUInt64 config.pollMs) config.tlsCaFile
      config.tlsInsecure config.hub
  rw [WritableConfig.table, entries]
  cases config.hub with
  | none =>
      rfl
  | some hub =>
      simp only [deserialize_hub_table]
      cases SocketAddr.parse hub.bind with
      | none => rfl
      | some bind => rfl

end ClipboardWire
