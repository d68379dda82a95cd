import ClipboardWire.ClientConfig

namespace ClipboardWire

open Toml

/-!
# Where servers are started

The configuration that each way of starting a server hands to
`server::serve`: the `serve` command of `cli/src/main.rs` takes it from the
environment over the `[hub]` section of a config file, host mode and the
stand-alone server take it from the environment alone, and the tray
(`cli/src/tray.rs`) takes the `[hub]` section as it is.
-/

/-- Cut separators and `.` components at the end of a reversed path. -/
def trimPathEnd : List Char → List Char
  | '/' :: rest =>
      trimPathEnd rest
  | ['.'] =>
      []
  | '.' :: '/' :: rest =>
      trimPathEnd rest
  | rest =>
      rest

/-- `Path::parent` of a path as text, with the slash as separator. -/
def parentPath (path : String) : Option String :=
  let chars := path.toList
  -- what `Components` keeps in front of the body
  let front :=
    if chars.head? = some '/' then
      ['/']
    else if chars = ['.'] ∨ chars.take 2 = ['.', '/'] then
      ['.']
    else
      []
  let body := trimPathEnd (chars.drop front.length).reverse
  if body ≠ [] then
    let above := trimPathEnd (body.dropWhile (· ≠ '/'))
    some (String.ofList (front ++ above.reverse))
  else if front = ['.'] then
    some ""
  else
    none

example :
    parentPath "/etc/clipboardwire/config.toml" =
      some "/etc/clipboardwire" := by
  decide

/-- What a start reads: the environment, and the config files by path. -/
structure Machine where
  environment : Environment
  platform : Platform
  toml : Format
  file : String → Option ConfigFile
  /-- `ClientConfig::default_path`, where there is one. -/
  defaultPath : Option String

namespace Machine

/-- `ClientConfig::load` of a path. -/
def loadConfig (machine : Machine) (path : String) :
    Except LoadError ClientConfig :=
  ClientConfig.load machine.platform machine.toml (machine.file path)

/-- The `[hub]` section of a file that loads. -/
def hubSection (machine : Machine) (path : String) : Option HubConfig :=
  match machine.loadConfig path with
  | .ok config => config.hub
  | .error _ => none

/-- The config file that `serve` looks at. -/
def servePath (machine : Machine) (configPath : Option String) :
    Option String :=
  match configPath with
  | some path => some path
  | none => machine.defaultPath.filter fun path => (machine.file path).isSome

end Machine

/-- The state directory defaults to the directory of the config file. -/
def ServerConfig.besideFile (config : ServerConfig) (path : String) :
    ServerConfig :=
  { config with stateDir := config.stateDir.or (parentPath path) }

/-- `resolve_server_config`. -/
def resolveServerConfig (machine : Machine) (configPath : Option String) :
    Except String ServerConfig :=
  let base :=
    match machine.servePath configPath with
    | some path =>
        match machine.loadConfig path with
        | .ok config =>
            config.hub.map fun hub => hub.toServerConfig.besideFile path
        -- an unreadable file is only warned about
        | .error _ => none
    | none => none
  ServerConfig.fromEnvLayered machine.environment base

/-- The server configuration that `start_embedded_hub_with_cfg` builds. -/
def embeddedServerConfig (hub : HubConfig) (configPath : String) :
    ServerConfig :=
  { hub.toServerConfig.besideFile configPath with stats := some 0 }

/-- The ways of starting a server. -/
inductive ServerEntry where
  | standalone
  | serve (configPath : Option String)
  | host
  | tray (configPath : String)
  deriving DecidableEq, Repr

namespace ServerEntry

/-- The configuration that a way of starting hands to the server. -/
def serverConfig
    (machine : Machine) :
    ServerEntry → Except String ServerConfig
  | .standalone | .host =>
      ServerConfig.fromEnv machine.environment
  | .serve configPath =>
      resolveServerConfig machine configPath
  | .tray configPath =>
      match machine.loadConfig configPath with
      | .error _ =>
          .error "no config loaded; cannot start hub"
      | .ok config =>
          match config.hub with
          | some hub => .ok (embeddedServerConfig hub configPath)
          | none => .error "config has no [hub] section"

/-- The `[hub]` section that a way of starting uses. -/
def hubSection (machine : Machine) : ServerEntry → Option HubConfig
  | .standalone | .host =>
      none
  | .serve configPath =>
      (machine.servePath configPath).bind machine.hubSection
  | .tray configPath =>
      machine.hubSection configPath

/--
What has to be true of a `[hub]` section so that no check of its values is
missed.  Under `serve` the environment is checked, and so are the values that
the section adds to it, except for the user and the pair of TLS files; the
tray checks nothing.
-/
def SectionUsable
    (environment : Environment)
    (hub : HubConfig) :
    ServerEntry → Prop
  | .standalone | .host =>
      True
  | .serve _ =>
      ((environment.var "CLIPBOARDWIRE_USER").ok?.isSome ∨
          hub.user ≠ "") ∧
        ((environment.var "CLIPBOARDWIRE_TLS_CERT_FILE").ok?.isSome ∨
          (hub.tlsCertFile.isSome ↔ hub.tlsKeyFile.isSome))
  | .tray _ =>
      hub.user ≠ "" ∧
        hub.password ≠ "" ∧
        hub.maxConns ≠ 0 ∧
        hub.maxFrameBytes ≠ 0 ∧
        (hub.tlsCertFile.isSome ↔ hub.tlsKeyFile.isSome)

end ServerEntry

/-- What the `serve` command layers the environment over. -/
theorem resolveServerConfig_eq
    (machine : Machine)
    (configPath : Option String) :
    ∃ path,
      resolveServerConfig machine configPath =
        ServerConfig.fromEnvLayered machine.environment
          ((ServerEntry.hubSection machine (.serve configPath)).map fun hub =>
            hub.toServerConfig.besideFile path) := by
  simp only [resolveServerConfig, ServerEntry.hubSection]
  cases machine.servePath configPath with
  | none =>
      exact ⟨"", rfl⟩
  | some path =>
      refine ⟨path, ?_⟩
      simp only [Option.bind_some, Machine.hubSection]
      cases machine.loadConfig path with
      | error problem => rfl
      | ok config => rfl

/-- A served configuration is usable when nothing unchecked in it is wrong. -/
theorem usable_serve_iff
    {machine : Machine}
    {configPath : Option String}
    {config : ServerConfig}
    (handed : resolveServerConfig machine configPath = .ok config) :
    config.Usable ↔
      ∀ hub,
        ServerEntry.hubSection machine (.serve configPath) = some hub →
          ServerEntry.SectionUsable machine.environment hub
            (.serve configPath) := by
  obtain ⟨path, layers⟩ := resolveServerConfig_eq machine configPath
  rw [layers] at handed
  cases isHub : ServerEntry.hubSection machine (.serve configPath) with
  | none =>
      rw [isHub] at handed
      have usable := ServerConfig.usable_of_fromEnv handed
      simp [usable]
  | some hub =>
      rw [isHub] at handed
      obtain ⟨password, maxConns, maxFrameBytes, user, files⟩ :=
        ServerConfig.layered_eq_ok handed
      simp only [ServerConfig.besideFile,
        HubConfig.toServerConfig] at user files
      constructor
      · rintro usable _ ⟨⟩
        exact ⟨user.mp usable.user, files.mp usable.tls⟩
      · intro filled
        obtain ⟨hasUser, hasFiles⟩ := filled hub rfl
        exact
          { user := user.mpr hasUser
            password := password
            maxConns := ServerConfig.one_le_toNat.mpr maxConns
            maxFrameBytes := ServerConfig.one_le_toNat.mpr maxFrameBytes
            tls := files.mpr hasFiles }

/-- What the tray starts is usable when its section is. -/
theorem usable_tray_iff
    {machine : Machine}
    {configPath : String}
    {config : ServerConfig}
    (handed :
      ServerEntry.serverConfig machine (.tray configPath) = .ok config) :
    config.Usable ↔
      ∀ hub,
        ServerEntry.hubSection machine (.tray configPath) = some hub →
          ServerEntry.SectionUsable machine.environment hub
            (.tray configPath) := by
  simp only [ServerEntry.serverConfig] at handed
  simp only [ServerEntry.hubSection, Machine.hubSection]
  cases loaded : machine.loadConfig configPath with
  | error problem =>
      simp [loaded] at handed
  | ok client =>
      cases isHub : client.hub with
      | none =>
          simp [loaded, isHub] at handed
      | some hub =>
          simp only [loaded, isHub, Except.ok.injEq] at handed
          subst config
          simp only [isHub, Option.some.injEq, forall_eq']
          constructor
          · intro usable
            exact
              ⟨usable.user, usable.password,
                ServerConfig.one_le_toNat.mp usable.maxConns,
                ServerConfig.one_le_toNat.mp usable.maxFrameBytes,
                usable.tls⟩
          · rintro ⟨user, password, maxConns, maxFrameBytes, files⟩
            exact
              { user := user
                password := password
                maxConns := ServerConfig.one_le_toNat.mpr maxConns
                maxFrameBytes := ServerConfig.one_le_toNat.mpr maxFrameBytes
                tls := files }

/--
Every server configuration is usable exactly when the section of the config
file that its start uses, if any, has been filled in where nothing checks it.
-/
theorem served_usable_iff
    {machine : Machine}
    {entry : ServerEntry}
    {config : ServerConfig}
    (handed : entry.serverConfig machine = .ok config) :
    config.Usable ↔
      ∀ hub,
        entry.hubSection machine = some hub →
          entry.SectionUsable machine.environment hub := by
  cases entry with
  | standalone =>
      have usable := ServerConfig.usable_of_fromEnv handed
      simp [usable, ServerEntry.SectionUsable]
  | host =>
      have usable := ServerConfig.usable_of_fromEnv handed
      simp [usable, ServerEntry.SectionUsable]
  | serve configPath =>
      exact usable_serve_iff handed
  | tray configPath =>
      exact usable_tray_iff handed

/-- The entries of a config file whose hub has no credentials. -/
def openHubTable : Table :=
  [("server", .string "ws://nas.lan:8484/sync"),
    ("user", .string "alice"),
    ("password", .string "hunter2"),
    ("hub", .table
      [("enabled", .boolean true),
        ("user", .string ""),
        ("password", .string "")])]

/-- The text of that config file. -/
def openHubText : String :=
  "server = \"ws://nas.lan:8484/sync\"\n" ++
    "user = \"alice\"\npassword = \"hunter2\"\n\n" ++
    "[hub]\nenabled = true\nuser = \"\"\npassword = \"\"\n"

/-- A machine with that config file and an empty environment. -/
def openHubMachine : Machine where
  environment :=
    { var := fun _ => .notPresent
      readToString := fun path => .error path }
  platform := .unix
  toml := .single openHubTable openHubText .error
  file path :=
    if path = "/config.toml" then
      some ⟨0o600, some openHubText⟩
    else
      none
  defaultPath := some "/config.toml"

/-- The hub of that file. -/
def openHub : HubConfig :=
  { HubConfig.default with enabled := true }

/-- The file loads, and the tray hands its hub to the server as it is. -/
theorem openHubMachine_handed :
    ServerEntry.serverConfig openHubMachine (.tray "/config.toml") =
      .ok (embeddedServerConfig openHub "/config.toml") := by
  have parsed : openHubMachine.toml.parse openHubText = .ok openHubTable :=
    Format.parse_single (by decide +kernel)
  have found :
      openHubMachine.file "/config.toml" =
        some ⟨0o600, some openHubText⟩ := by
    rfl
  have unix : openHubMachine.platform = .unix := by
    rfl
  simp only [ServerEntry.serverConfig, Machine.loadConfig, ClientConfig.load,
    found, ClientConfig.readText, ClientConfig.checkPerms, unix, bind,
    Except.bind, parsed]
  rfl

/-- The condition fails for the empty credentials, and so does the hub. -/
theorem openHub_not_usable_iff :
    (embeddedServerConfig openHub "/config.toml").Usable ↔
      ∀ hub,
        ServerEntry.hubSection openHubMachine (.tray "/config.toml") =
            some hub →
          ServerEntry.SectionUsable openHubMachine.environment hub
            (.tray "/config.toml") :=
  served_usable_iff openHubMachine_handed

/-- The tray starts a hub with an empty user and an empty password. -/
theorem openHub_served :
    ¬ ∀ (machine : Machine) (entry : ServerEntry) (config : ServerConfig),
        entry.serverConfig machine = .ok config →
          config.Usable := by
  intro always
  exact
    (always openHubMachine (.tray "/config.toml") _
      openHubMachine_handed).user rfl

end ClipboardWire
