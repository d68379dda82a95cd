import ClipboardWire.SettingsForm

namespace ClipboardWire

open PlainText SocketAddress Toml

/-!
# Saving the settings and loading them again

What `ClientConfig::load` makes of a file that the settings dialog has
written.  The writer, the validator and the loader are three predicates over
the same texts; here they are compared, first for any form, then for the form
of a configuration that was loaded.
-/

/-- The comment above the file is one line. -/
theorem settingsComment_oneLine : '\n' ∉ settingsComment.toList := by
  simp [settingsComment]

/-- What a successful write leaves at the path. -/
theorem writeToml_eq_ok
    {platform : Platform}
    {toml : Format}
    {disk : DiskAnswers}
    {file after : Option ConfigFile}
    {form : FormState}
    (written : writeToml platform toml disk file form = (.ok (), after)) :
    ∃ text mode,
      toml.serialize form.writable.table = .ok text ∧
        after = some ⟨mode, some (comment settingsComment ++ text)⟩ ∧
          (platform = .unix → mode = 0o600) := by
  simp only [writeToml] at written
  cases serialized : toml.serialize form.writable.table with
  | error message =>
      simp [serialized] at written
  | ok text =>
      simp only [serialized] at written
      split at written
      · cases written
      · split at written
        · cases written
        · split at written
          · cases written
            exact ⟨text, _, rfl, rfl, by simp⟩
          · split at written
            · cases written
            · cases written
              exact ⟨text, _, rfl, rfl, by simp⟩

/-- A file that only its owner can read is loaded for what it holds. -/
theorem load_of_parse
    {platform : Platform}
    {toml : Format}
    {mode : Nat}
    {text : String}
    {table : Table}
    (owned : platform = .unix → mode = 0o600)
    (parsed : toml.parse text = .ok table) :
    ClientConfig.load platform toml (some ⟨mode, some text⟩) =
      (do
        let config ← (ClientConfig.deserialize table).mapError .parsing
        config.validate.mapError .invalid
        .ok config) := by
  have readable :
      ClientConfig.checkPerms platform (some ⟨mode, some text⟩) =
        .ok () := by
    cases platform with
    | other => rfl
    | unix => simp [ClientConfig.checkPerms, owned rfl]
  simp only [ClientConfig.load, readable, ClientConfig.readText, parsed, bind,
    Except.bind, Except.mapError]

/-- What a valid form holds is a valid configuration. -/
theorem validate_toClientConfig
    {form : FormState}
    (valid : form.validate = .ok ())
    (hub : Option HubConfig) :
    (form.writable.toClientConfig hub).validate = .ok () := by
  simp only [FormState.validate, ServerConfig.bind_eq_ok, ensure_eq_ok] at valid
  obtain ⟨-, scheme, -, user, -, password, -, pollMs, -⟩ := valid
  have hasUser : form.user ≠ "" := by
    intro blank
    rw [blank] at user
    exact user (by decide)
  simp only [ClientConfig.validate, ServerConfig.bind_eq_ok, ensure_eq_ok]
  simp only [WritableConfig.toClientConfig, FormState.writable]
  exact ⟨(), scheme, (), hasUser, (), password, pollMs⟩

/-- How a valid form that was written is loaded. -/
theorem load_of_saved
    {platform : Platform}
    {toml : Format}
    {disk : DiskAnswers}
    {file after : Option ConfigFile}
    {form : FormState}
    (valid : form.validate = .ok ())
    (written : writeToml platform toml disk file form = (.ok (), after)) :
    ClientConfig.load platform toml after =
      match form.writable.hub with
      | none =>
          .ok (form.writable.toClientConfig none)
      | some hub =>
          match SocketAddr.parse hub.bind with
          | some bind =>
              .ok (form.writable.toClientConfig (some (hub.toHubConfig bind)))
          | none =>
              .error
                (.parsing
                  ⟨["hub", "bind"],
                    .invalidValue "invalid socket address syntax"⟩) := by
  obtain ⟨text, mode, serialized, rfl, owned⟩ := writeToml_eq_ok written
  have parsed := toml.parse_serialize serialized settingsComment_oneLine
  rw [load_of_parse owned parsed, deserialize_table]
  cases form.writable.hub with
  | none =>
      simp [Except.mapError, bind, Except.bind, validate_toClientConfig valid]
  | some hub =>
      cases parsed : SocketAddr.parse hub.bind with
      | none =>
          simp [parsed, Except.mapError, bind, Except.bind]
      | some address =>
          simp [parsed, Except.mapError, bind, Except.bind,
            validate_toClientConfig valid]

/-- A successful save has validated the form and written the file. -/
theorem trySave_eq_true
    {platform : Platform}
    {toml : Format}
    {disk : DiskAnswers}
    {file after : Option ConfigFile}
    {app next : SettingsApp}
    (saved : app.trySave platform toml disk file = (true, next, after)) :
    app.form.validate = .ok () ∧
      writeToml platform toml disk file app.form = (.ok (), after) := by
  simp only [SettingsApp.trySave] at saved
  split at saved
  · cases saved
  · rename_i valid
    refine ⟨valid, ?_⟩
    split at saved
    · rename_i found written
      cases saved
      exact written
    · cases saved

namespace FormState

/-- A hub field holds something that the dialog did not fill in itself. -/
def HubFilled (form : FormState) : Prop :=
  form.WritesHub ∨
    (form.hubBind ≠ "" ∧ form.hubBind ≠ HubConfig.default.bind.toText)

/-- The configuration has the values of the form. -/
structure ReadAs (form : FormState) (config : ClientConfig) : Prop where
  server : config.server = form.server
  user : config.user = form.user
  password : config.password = form.password
  pollMs : config.pollMs = form.pollMs
  tlsCaFile : config.tlsCaFile = filledPath form.tlsCaFile
  tlsInsecure : config.tlsInsecure = form.tlsInsecure
  hub :
    form.HubFilled →
      ∃ hub,
        config.hub = some hub ∧
          hub.enabled = form.hubEnabled ∧
          SocketAddr.parse form.hubBind = some hub.bind ∧
          hub.user = form.hubUser ∧
          hub.password = form.hubPassword ∧
          hub.tlsCertFile = filledPath form.hubTlsCertFile ∧
          hub.tlsKeyFile = filledPath form.hubTlsKeyFile

/--
The bind address fits the rest of the hub fields: it is an address when the
section is written, which is not checked while the hub is disabled, and it is
as the dialog filled it in, or blank, when the section is left out.
-/
def BindFits (form : FormState) : Prop :=
  if form.WritesHub then
    (SocketAddr.parse form.hubBind).isSome = true
  else
    form.hubBind = "" ∨ form.hubBind = HubConfig.default.bind.toText

/-- The hub section that is written, when one is. -/
theorem writable_hub_of_writesHub {form : FormState} (writes : form.WritesHub) :
    form.writable.hub =
      some
        { enabled := form.hubEnabled
          bind := form.hubBind
          user := form.hubUser
          password := form.hubPassword
          tlsCertFile := filledPath form.hubTlsCertFile
          tlsKeyFile := filledPath form.hubTlsKeyFile } := by
  rw [writable, if_pos writes]

/-- No hub section is written otherwise. -/
theorem writable_hub_of_not {form : FormState} (omits : ¬ form.WritesHub) :
    form.writable.hub = none := by
  rw [writable, if_neg omits]

/-- All but the hub section is written as it stands in the form. -/
theorem readAs_toClientConfig
    {form : FormState}
    {hub : Option HubConfig}
    (isHub :
      form.HubFilled →
        ∃ found,
          hub = some found ∧
            found.enabled = form.hubEnabled ∧
            SocketAddr.parse form.hubBind = some found.bind ∧
            found.user = form.hubUser ∧
            found.password = form.hubPassword ∧
            found.tlsCertFile = filledPath form.hubTlsCertFile ∧
            found.tlsKeyFile = filledPath form.hubTlsKeyFile) :
    form.ReadAs (form.writable.toClientConfig hub) := by
  constructor
  case hub =>
    exact isHub
  all_goals simp only [WritableConfig.toClientConfig, writable]

end FormState

/--
A successful save yields a file that loads with the values of the form exactly
when the bind address fits.
-/
theorem saved_readAs_iff
    {platform : Platform}
    {toml : Format}
    {disk : DiskAnswers}
    {file after : Option ConfigFile}
    {app next : SettingsApp}
    (saved : app.trySave platform toml disk file = (true, next, after)) :
    (∃ config,
        ClientConfig.load platform toml after = .ok config ∧
          app.form.ReadAs config) ↔
      app.form.BindFits := by
  obtain ⟨valid, written⟩ := trySave_eq_true saved
  rw [load_of_saved valid written]
  by_cases writes : app.form.WritesHub
  · rw [FormState.BindFits, if_pos writes,
      FormState.writable_hub_of_writesHub writes]
    cases parsed : SocketAddr.parse app.form.hubBind with
    | none =>
        simp [parsed]
    | some address =>
        simp only [parsed, Except.ok.injEq, Option.isSome_some, iff_true]
        refine ⟨_, rfl, FormState.readAs_toClientConfig ?_⟩
        intro _
        refine ⟨_, rfl, ?_⟩
        simp only [WritableHub.toHubConfig, parsed, and_self]
  · rw [FormState.BindFits, if_neg writes,
      FormState.writable_hub_of_not writes]
    simp only [Except.ok.injEq, exists_eq_left']
    constructor
    · intro readAs
      by_contra changed
      rw [not_or] at changed
      obtain ⟨hub, isHub, -⟩ := readAs.hub (.inr changed)
      cases isHub
    · intro untouched
      apply FormState.readAs_toClientConfig
      intro filled
      cases filled with
      | inl found =>
          exact (writes found).elim
      | inr changed =>
          cases untouched with
          | inl blank => exact (changed.1 blank).elim
          | inr filledIn => exact (changed.2 filledIn).elim

/-- A form whose disabled hub has a user and a port for its bind address. -/
def strayForm : FormState :=
  { FormState.empty with
    server := "wss://nas.lan:8484/sync"
    user := "alice"
    password := "hunter2"
    pollMs := 300
    hubBind := "8484"
    hubUser := "bob" }

/-- The text that is written for it. -/
def strayText : String :=
  "server = \"wss://nas.lan:8484/sync\"\n" ++
    "user = \"alice\"\npassword = \"hunter2\"\npoll_ms = 300\n\n" ++
    "[hub]\nenabled = false\nbind = \"8484\"\nuser = \"bob\"\n" ++
    "password = \"\"\n"

/-- The format of that text. -/
def strayToml : Format :=
  .single strayForm.writable.table strayText .error

/-- A file system on which nothing fails. -/
def sureDisk : DiskAnswers where
  createDirAll := .ok ()
  write := .ok ()
  createdMode := 0o644
  setPermissions := .ok ()

/-- The form is valid, for nothing looks at a hub that is disabled. -/
theorem strayForm_saved :
    (SettingsApp.new strayForm).trySave .unix strayToml sureDisk none =
      (true, ⟨strayForm, true⟩,
        some ⟨0o600, some (comment settingsComment ++ strayText)⟩) := by
  have valid : (SettingsApp.new strayForm).form.validate = .ok () := by
    rfl
  have serialized :
      strayToml.serialize (SettingsApp.new strayForm).form.writable.table =
        .ok strayText :=
    Format.serialize_single
  simp only [SettingsApp.trySave, valid, writeToml, serialized]
  rfl

/-- The bind address of that form does not fit, and the file does not load. -/
theorem strayForm_readAs_iff :
    (∃ config,
        ClientConfig.load .unix strayToml
            (some ⟨0o600, some (comment settingsComment ++ strayText)⟩) =
          .ok config ∧
        (SettingsApp.new strayForm).form.ReadAs config) ↔
      (SettingsApp.new strayForm).form.BindFits :=
  saved_readAs_iff strayForm_saved

/-- A save that succeeds can leave a file that does not load. -/
theorem strayForm_not_loaded :
    ¬ ∀ (platform : Platform) (toml : Format) (disk : DiskAnswers)
        (file after : Option ConfigFile) (app next : SettingsApp),
        app.trySave platform toml disk file = (true, next, after) →
          ∃ config,
            ClientConfig.load platform toml after = .ok config ∧
              app.form.ReadAs config := by
  intro always
  obtain ⟨config, loaded, -⟩ :=
    always _ _ _ _ _ _ _ strayForm_saved
  obtain ⟨valid, written⟩ := trySave_eq_true strayForm_saved
  rw [load_of_saved valid written] at loaded
  cases loaded

/-! ## The form of a loaded configuration -/

/-- The text of a path, if there is one, has no blanks around it. -/
def Unblank (path : Option String) : Prop :=
  ∀ text, path = some text → trimText text = text

/-- The paths of a configuration have no blanks around them. -/
structure ClientConfig.PathsUnblank (config : ClientConfig) : Prop where
  tlsCaFile : Unblank config.tlsCaFile
  tlsCertFile : ∀ hub, config.hub = some hub → Unblank hub.tlsCertFile
  tlsKeyFile : ∀ hub, config.hub = some hub → Unblank hub.tlsKeyFile

/--
What the dialog can keep of a hub section: it has no field for the limits, the
switch that disables TLS and the state directory, it leaves out a section that
is disabled and otherwise blank, and an empty path counts as none.
-/
structure HubConfig.Kept (hub : HubConfig) : Prop where
  notBlank :
    hub.enabled = true ∨ hub.user ≠ "" ∨ hub.password ≠ "" ∨
      hub.tlsCertFile ≠ none ∨ hub.tlsKeyFile ≠ none
  maxConns : hub.maxConns = defaultHubMaxConns
  maxFrameBytes : hub.maxFrameBytes = defaultHubMaxFrame
  tlsDisabled : hub.tlsDisabled = false
  stateDir : hub.stateDir = none
  tlsCertFile : hub.tlsCertFile ≠ some ""
  tlsKeyFile : hub.tlsKeyFile ≠ some ""

/-- What the dialog can keep of a configuration. -/
structure ClientConfig.Kept (config : ClientConfig) : Prop where
  tlsCaFile : config.tlsCaFile ≠ some ""
  hub : ∀ hub, config.hub = some hub → hub.Kept

@[simp] theorem filledPath_empty : filledPath "" = none := by
  decide

/-- A path is written as it was unless it is empty. -/
theorem filledPath_getD
    {path : Option String}
    (unblank : Unblank path) :
    filledPath (path.getD "") = if path = some "" then none else path := by
  cases path with
  | none =>
      simp
  | some text =>
      rw [Option.getD_some, filledPath, unblank text rfl]
      by_cases empty : text = ""
      · simp [empty]
      · simp [empty]

/-- A path is written as it was exactly when it is not empty. -/
theorem filledPath_getD_eq_iff
    {path : Option String}
    (unblank : Unblank path) :
    filledPath (path.getD "") = path ↔ path ≠ some "" := by
  rw [filledPath_getD unblank]
  by_cases empty : path = some ""
  · simp [empty]
  · simp [empty]

/-- The dialog opens with the form of a loaded configuration. -/
theorem new_loadOrDefault
    {platform : Platform}
    {toml : Format}
    {file : Option ConfigFile}
    {config : ClientConfig}
    (loaded : ClientConfig.load platform toml file = .ok config) :
    (SettingsApp.new (FormState.loadOrDefault platform toml file)).form =
      FormState.ofConfig config := by
  have valid := ClientConfig.validate_of_load loaded
  simp only [ClientConfig.validate, ServerConfig.bind_eq_ok, ensure_eq_ok]
    at valid
  obtain ⟨-, -, -, -, -, -, pollMs⟩ := valid
  have form :
      FormState.loadOrDefault platform toml file =
        FormState.ofConfig config := by
    rw [FormState.loadOrDefault, loaded]
  rw [form, SettingsApp.new, if_neg]
  exact pollMs

/-- All but the hub is written as it was loaded, unless a path is empty. -/
theorem toClientConfig_ofConfig_eq_iff
    {config : ClientConfig}
    (unblank : Unblank config.tlsCaFile)
    (hub : Option HubConfig) :
    (FormState.ofConfig config).writable.toClientConfig hub = config ↔
      config.tlsCaFile ≠ some "" ∧ hub = config.hub := by
  rw [← filledPath_getD_eq_iff unblank]
  rcases config with
    ⟨server, user, password, pollMs, caFile, insecure, found⟩
  simp only [WritableConfig.toClientConfig, FormState.writable,
    FormState.ofConfig, ClientConfig.mk.injEq, true_and]

/-- The form writes a hub section exactly when the section is not blank. -/
theorem writesHub_ofConfig_iff
    {config : ClientConfig}
    {hub : HubConfig}
    (isHub : config.hub = some hub)
    (certUnblank : Unblank hub.tlsCertFile)
    (keyUnblank : Unblank hub.tlsKeyFile)
    (cert : hub.tlsCertFile ≠ some "")
    (key : hub.tlsKeyFile ≠ some "") :
    (FormState.ofConfig config).WritesHub ↔
      hub.enabled = true ∨ hub.user ≠ "" ∨ hub.password ≠ "" ∨
        hub.tlsCertFile ≠ none ∨ hub.tlsKeyFile ≠ none := by
  simp only [FormState.WritesHub, FormState.ofConfig, isHub, Option.getD_some,
    (filledPath_getD_eq_iff certUnblank).mpr cert,
    (filledPath_getD_eq_iff keyUnblank).mpr key]

/-- The hub that is read back has what the section and the defaults say. -/
theorem toHubConfig_ofConfig_eq_iff
    {config : ClientConfig}
    {hub : HubConfig}
    (isHub : config.hub = some hub)
    (certUnblank : Unblank hub.tlsCertFile)
    (keyUnblank : Unblank hub.tlsKeyFile) :
    WritableHub.toHubConfig
        { enabled := (FormState.ofConfig config).hubEnabled
          bind := (FormState.ofConfig config).hubBind
          user := (FormState.ofConfig config).hubUser
          password := (FormState.ofConfig config).hubPassword
          tlsCertFile := filledPath (FormState.ofConfig config).hubTlsCertFile
          tlsKeyFile := filledPath (FormState.ofConfig config).hubTlsKeyFile }
        hub.bind = hub ↔
      hub.maxConns = defaultHubMaxConns ∧
        hub.maxFrameBytes = defaultHubMaxFrame ∧
        hub.tlsCertFile ≠ some "" ∧
        hub.tlsKeyFile ≠ some "" ∧
        hub.tlsDisabled = false ∧
        hub.stateDir = none := by
  simp only [FormState.ofConfig, isHub, Option.getD_some,
    WritableHub.toHubConfig, HubConfig.default]
  rw [← filledPath_getD_eq_iff certUnblank,
    ← filledPath_getD_eq_iff keyUnblank]
  rcases hub with
    ⟨enabled, bind, user, password, maxConns, maxFrameBytes, cert, key,
      disabled, stateDir⟩
  simp only [HubConfig.mk.injEq, true_and]
  constructor
  · rintro ⟨conns, frame, sameCert, sameKey, tls, dir⟩
    exact ⟨conns.symm, frame.symm, sameCert, sameKey, tls.symm, dir.symm⟩
  · rintro ⟨conns, frame, sameCert, sameKey, tls, dir⟩
    exact ⟨conns.symm, frame.symm, sameCert, sameKey, tls.symm, dir.symm⟩

/-- A section that is left out is not kept. -/
theorem not_kept_of_not_writesHub
    {config : ClientConfig}
    {hub : HubConfig}
    (isHub : config.hub = some hub)
    (certUnblank : Unblank hub.tlsCertFile)
    (keyUnblank : Unblank hub.tlsKeyFile)
    (omits : ¬ (FormState.ofConfig config).WritesHub) :
    ¬ config.Kept := by
  intro kept
  have hubKept := kept.hub hub isHub
  have writes :=
    (writesHub_ofConfig_iff isHub certUnblank keyUnblank
      hubKept.tlsCertFile hubKept.tlsKeyFile).mpr hubKept.notBlank
  exact omits writes

/-- A section that is written is kept when it is read back as it was. -/
theorem kept_iff_of_writesHub
    {config : ClientConfig}
    {hub : HubConfig}
    (isHub : config.hub = some hub)
    (certUnblank : Unblank hub.tlsCertFile)
    (keyUnblank : Unblank hub.tlsKeyFile)
    (writes : (FormState.ofConfig config).WritesHub) :
    config.Kept ↔
      config.tlsCaFile ≠ some "" ∧
        hub.maxConns = defaultHubMaxConns ∧
        hub.maxFrameBytes = defaultHubMaxFrame ∧
        hub.tlsCertFile ≠ some "" ∧
        hub.tlsKeyFile ≠ some "" ∧
        hub.tlsDisabled = false ∧
        hub.stateDir = none := by
  constructor
  · intro kept
    have hubKept := kept.hub hub isHub
    exact
      ⟨kept.tlsCaFile, hubKept.maxConns, hubKept.maxFrameBytes,
        hubKept.tlsCertFile, hubKept.tlsKeyFile, hubKept.tlsDisabled,
        hubKept.stateDir⟩
  · rintro ⟨caFile, conns, frame, cert, key, tls, dir⟩
    refine ⟨caFile, ?_⟩
    intro found isFound
    rw [isHub] at isFound
    cases isFound
    have notBlank :=
      (writesHub_ofConfig_iff isHub certUnblank keyUnblank cert key).mp writes
    exact ⟨notBlank, conns, frame, tls, dir, cert, key⟩

/--
Opening the dialog on a configuration and saving the form unchanged writes a
file that is loaded as the same configuration exactly when the dialog can keep
all of it.
-/
theorem reload_eq_iff_kept
    {platform : Platform}
    {toml : Format}
    {disk : DiskAnswers}
    {file after : Option ConfigFile}
    {config : ClientConfig}
    {next : SettingsApp}
    (loaded : ClientConfig.load platform toml file = .ok config)
    (unblank : config.PathsUnblank)
    (saved :
      (SettingsApp.new (FormState.loadOrDefault platform toml file)).trySave
        platform toml disk file = (true, next, after)) :
    ClientConfig.load platform toml after = .ok config ↔ config.Kept := by
  obtain ⟨valid, written⟩ := trySave_eq_true saved
  rw [new_loadOrDefault loaded] at valid written
  rw [load_of_saved valid written]
  cases isHub : config.hub with
  | none =>
      have omits : ¬ (FormState.ofConfig config).WritesHub := by
        simp [FormState.WritesHub, FormState.ofConfig, isHub,
          HubConfig.default]
      rw [FormState.writable_hub_of_not omits]
      simp only [Except.ok.injEq,
        toClientConfig_ofConfig_eq_iff unblank.tlsCaFile, isHub, and_true]
      constructor
      · intro caFile
        exact ⟨caFile, by simp [isHub]⟩
      · intro kept
        exact kept.tlsCaFile
  | some hub =>
      have certUnblank := unblank.tlsCertFile hub isHub
      have keyUnblank := unblank.tlsKeyFile hub isHub
      by_cases writes : (FormState.ofConfig config).WritesHub
      · have parsed :
            SocketAddr.parse (FormState.ofConfig config).hubBind =
              some hub.bind := by
          simp [FormState.ofConfig, isHub, SocketAddr.parse_toText]
        rw [FormState.writable_hub_of_writesHub writes]
        simp only [parsed, Except.ok.injEq,
          toClientConfig_ofConfig_eq_iff unblank.tlsCaFile, isHub,
          Option.some.injEq,
          toHubConfig_ofConfig_eq_iff isHub certUnblank keyUnblank,
          kept_iff_of_writesHub isHub certUnblank keyUnblank writes]
      · rw [FormState.writable_hub_of_not writes]
        have lost :=
          not_kept_of_not_writesHub isHub certUnblank keyUnblank writes
        simp only [Except.ok.injEq,
          toClientConfig_ofConfig_eq_iff unblank.tlsCaFile, isHub,
          reduceCtorEq, and_false, lost]

/-- A config file with a plain hub for eight clients. -/
def plainHubTable : Table :=
  [("server", .string "ws://127.0.0.1:8484/sync"),
    ("user", .string "alice"),
    ("password", .string "hunter2"),
    ("hub", .table
      [("enabled", .boolean true),
        ("user", .string "alice"),
        ("password", .string "hunter2"),
        ("max_conns", .integer 8),
        ("tls_disabled", .boolean true)])]

/-- The text of that config file. -/
def plainHubText : String :=
  "server = \"ws://127.0.0.1:8484/sync\"\n" ++
    "user = \"alice\"\npassword = \"hunter2\"\n\n" ++
    "[hub]\nenabled = true\nuser = \"alice\"\npassword = \"hunter2\"\n" ++
    "max_conns = 8\ntls_disabled = true\n"

/-- The configuration in that file. -/
def plainHubConfig : ClientConfig where
  server := "ws://127.0.0.1:8484/sync"
  user := "alice"
  password := "hunter2"
  pollMs := defaultPollMs
  tlsCaFile := none
  tlsInsecure := false
  hub :=
    some
      { HubConfig.default with
        enabled := true
        user := "alice"
        password := "hunter2"
        maxConns := 8
        tlsDisabled := true }

/-- The text that the dialog writes for it. -/
def rewrittenText : String :=
  "server = \"ws://127.0.0.1:8484/sync\"\n" ++
    "user = \"alice\"\npassword = \"hunter2\"\npoll_ms = 300\n\n" ++
    "[hub]\nenabled = true\nbind = \"0.0.0.0:8484\"\nuser = \"alice\"\n" ++
    "password = \"hunter2\"\n"

/-- The format of the two texts. -/
def plainHubToml : Format :=
  .single (FormState.ofConfig plainHubConfig).writable.table rewrittenText
    fun source =>
      if source = plainHubText then
        .ok plainHubTable
      else
        .error "unsupported"

/-- The config file. -/
def plainHubFile : Option ConfigFile :=
  some ⟨0o600, some plainHubText⟩

/-- The config file loads. -/
theorem plainHubConfig_loaded :
    ClientConfig.load .unix plainHubToml plainHubFile =
      .ok plainHubConfig := by
  have different : plainHubText ≠ rewrittenText := by
    decide +kernel
  have parsed : plainHubToml.parse plainHubText = .ok plainHubTable := by
    rw [plainHubToml, Format.parse_single_of_ne (by decide +kernel) different,
      if_pos rfl]
  rw [plainHubFile, load_of_parse (fun _ => rfl) parsed]
  rfl

/-- Saving the dialog that was opened on it succeeds. -/
theorem plainHubConfig_saved :
    (SettingsApp.new
        (FormState.loadOrDefault .unix plainHubToml plainHubFile)).trySave
        .unix plainHubToml sureDisk plainHubFile =
      (true, ⟨FormState.ofConfig plainHubConfig, true⟩,
        some ⟨0o600, some (comment settingsComment ++ rewrittenText)⟩) := by
  have form := new_loadOrDefault plainHubConfig_loaded
  have valid : (FormState.ofConfig plainHubConfig).validate = .ok () := by
    rfl
  have serialized :
      plainHubToml.serialize
          (FormState.ofConfig plainHubConfig).writable.table =
        .ok rewrittenText :=
    Format.serialize_single
  simp only [SettingsApp.trySave, form, valid, writeToml, serialized]
  rfl

/-- It names no paths. -/
theorem plainHubConfig_unblank : plainHubConfig.PathsUnblank := by
  have noPath : Unblank none := by
    rintro text ⟨⟩
  refine ⟨noPath, ?_, ?_⟩
  · rintro hub ⟨⟩
    exact noPath
  · rintro hub ⟨⟩
    exact noPath

/-- The dialog cannot keep that configuration, and it is not loaded again. -/
theorem plainHubConfig_reload_iff :
    ClientConfig.load .unix plainHubToml
          (some ⟨0o600, some (comment settingsComment ++ rewrittenText)⟩) =
        .ok plainHubConfig ↔
      plainHubConfig.Kept :=
  reload_eq_iff_kept plainHubConfig_loaded plainHubConfig_unblank
    plainHubConfig_saved

/-- Saving that configuration unchanged resets its limit and enables TLS. -/
theorem plainHubConfig_not_reloaded :
    ¬ ∀ (platform : Platform) (toml : Format) (disk : DiskAnswers)
        (file after : Option ConfigFile) (config : ClientConfig)
        (next : SettingsApp),
        ClientConfig.load platform toml file = .ok config →
          config.PathsUnblank →
            (SettingsApp.new
                (FormState.loadOrDefault platform toml file)).trySave
                platform toml disk file = (true, next, after) →
              ClientConfig.load platform toml after = .ok config := by
  intro always
  have reloaded :=
    always _ _ _ _ _ _ _ plainHubConfig_loaded plainHubConfig_unblank
      plainHubConfig_saved
  obtain ⟨valid, written⟩ := trySave_eq_true plainHubConfig_saved
  rw [load_of_saved valid written,
    new_loadOrDefault plainHubConfig_loaded] at reloaded
  cases reloaded

end ClipboardWire
