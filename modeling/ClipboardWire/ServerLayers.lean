import ClipboardWire.ServerConfig

namespace ClipboardWire

open SocketAddress

/-!
# Layers of server configuration

`from_env_layered` of `core/src/server/config.rs` fills the gaps of the
environment from a base, where `from_env` fills them from the defaults.  Laying
an environment over what `from_env` made of another one is the same as reading
the two environments as one, in which the upper one wins variable by variable.
-/

/-- A variable that is set wins; the code treats the others as missing. -/
def EnvVar.atop : EnvVar → EnvVar → EnvVar
  | .set text, _ => .set text
  | .notPresent, below | .notUnicode _, below => below

/-- The text of the upper variable, or the one below it. -/
theorem EnvVar.ok?_atop (upper below : EnvVar) :
    (upper.atop below).ok? = upper.ok?.or below.ok? := by
  cases upper <;> rfl

namespace Environment

/-- One environment over another one; files are those of the machine. -/
def atop (env base : Environment) : Environment where
  var name := (env.var name).atop (base.var name)
  readToString := env.readToString

@[simp] theorem var_atop (env base : Environment) (name : String) :
    (env.atop base).var name = (env.var name).atop (base.var name) := by
  rfl

/--
When two environments of one machine are laid over each other: the upper one
does not change the source of the password, sets both TLS files or none, has
texts for the two limits and does not clear the state directory.
-/
structure LayersOver (env base : Environment) : Prop where
  machine : env.readToString = base.readToString
  password :
    (env.var "CLIPBOARDWIRE_PASSWORD").ok?.isSome →
      (base.var "CLIPBOARDWIRE_PASSWORD_FILE").ok? = none
  passwordFile :
    (env.var "CLIPBOARDWIRE_PASSWORD_FILE").ok?.isSome →
      (base.var "CLIPBOARDWIRE_PASSWORD").ok? = none
  tls :
    (env.var "CLIPBOARDWIRE_TLS_CERT_FILE").ok?.isSome =
      (env.var "CLIPBOARDWIRE_TLS_KEY_FILE").ok?.isSome
  maxConns : ∀ raw, env.var "CLIPBOARDWIRE_MAX_CONNS" ≠ .notUnicode raw
  maxFrame : ∀ raw, env.var "CLIPBOARDWIRE_MAX_FRAME" ≠ .notUnicode raw
  stateDir : env.var "CLIPBOARDWIRE_STATE_DIR" ≠ .set ""

variable {env base : Environment}

/-- A limit is the one of the upper environment, or the one below it. -/
private theorem parseEnvUsize_over
    {name : String}
    {below : Option UInt64}
    (isText : ∀ raw, env.var name ≠ .notUnicode raw)
    (made : base.parseEnvUsize name = .ok below) :
    (env.atop base).parseEnvUsize name =
      (env.parseEnvUsize name).map fun number => number.or below := by
  unfold parseEnvUsize at made ⊢
  rw [var_atop]
  cases upper : env.var name with
  | notPresent =>
      simpa only [EnvVar.atop, Except.map, Option.none_or] using made
  | notUnicode raw =>
      exact (isText raw upper).elim
  | set text =>
      simp only [EnvVar.atop]
      split <;> rfl

/-- The password is the one of the upper environment, or the one below it. -/
private theorem resolvePassword_over
    {unset : Except String String}
    {below : String}
    (layers : env.LayersOver base)
    (made : base.resolvePassword unset = .ok below) :
    (env.atop base).resolvePassword unset =
      env.resolvePassword (.ok below) := by
  have file (path : String) :
      (env.atop base).passwordFile path = env.passwordFile path := by
    rfl
  have fileBelow (path : String) :
      env.passwordFile path = base.passwordFile path := by
    rw [Environment.passwordFile, layers.machine, Environment.passwordFile]
  have noFile := layers.password
  have noPassword := layers.passwordFile
  unfold resolvePassword at made ⊢
  simp only [var_atop, EnvVar.ok?_atop, file]
  cases password : (env.var "CLIPBOARDWIRE_PASSWORD").ok? with
  | some text =>
      rw [noFile (by rw [password]; rfl)]
      cases (env.var "CLIPBOARDWIRE_PASSWORD_FILE").ok? <;> rfl
  | none =>
      cases path : (env.var "CLIPBOARDWIRE_PASSWORD_FILE").ok? with
      | some path =>
          rw [noPassword (by rw [path]; rfl)]
          rfl
      | none =>
          simp only [Option.none_or, fileBelow]
          exact made

/-- A switch is the one of the upper environment, or the one below it. -/
private theorem envBool_over
    {name : String}
    {below : Bool}
    (made : base.envBool name = .ok below) :
    (match (env.var name).ok? with
      | some _ => env.envBool name
      | none => .ok below) =
      (env.atop base).envBool name := by
  unfold envBool at made ⊢
  rw [var_atop, EnvVar.ok?_atop]
  cases upper : (env.var name).ok? with
  | none =>
      simpa only [Option.none_or] using made.symm
  | some text =>
      rfl

/-- The state directory is the upper one unless that is missing. -/
private theorem stateDir_over
    (filled : env.var "CLIPBOARDWIRE_STATE_DIR" ≠ .set "") :
    env.stateDir.or base.stateDir = (env.atop base).stateDir := by
  unfold stateDir
  rw [var_atop, EnvVar.ok?_atop]
  cases upper : env.var "CLIPBOARDWIRE_STATE_DIR" with
  | notPresent => rfl
  | notUnicode raw => rfl
  | set path =>
      have nonempty : path ≠ "" := by
        rintro rfl
        exact filled upper
      simp [EnvVar.ok?, Option.filter, nonempty]

end Environment

namespace ServerConfig

variable {env base : Environment} {config : ServerConfig}

private theorem bind_congr
    {First Second : Type}
    {first other : Except String First}
    {next after : First → Except String Second}
    (same : first = other)
    (goesOn : ∀ value, next value = after value) :
    first >>= next = other >>= after := by
  rw [same, funext goesOn]

private theorem bind_map_congr
    {First Other Second : Type}
    {first : Except String First}
    {other : Except String Other}
    {change : First → Other}
    {next : First → Except String Second}
    {after : Other → Except String Second}
    (same : other = first.map change)
    (goesOn : ∀ value, next value = after (change value)) :
    first >>= next = other >>= after := by
  subst other
  cases first with
  | error message => rfl
  | ok value => exact goesOn value

/-- The bind address of the base has been parsed already. -/
private theorem bind_over
    {bind : SocketAddr}
    (isBind :
      parseBind ((base.var "CLIPBOARDWIRE_BIND").ok?.getD defaultBind) =
        .ok bind) :
    (match (env.var "CLIPBOARDWIRE_BIND").ok? with
      | some text => parseBind text
      | none => .ok bind) =
      parseBind
        (((env.atop base).var "CLIPBOARDWIRE_BIND").ok?.getD
          defaultBind) := by
  rw [Environment.var_atop, EnvVar.ok?_atop]
  cases (env.var "CLIPBOARDWIRE_BIND").ok? with
  | none => exact isBind.symm
  | some text => rfl

private theorem user_congr
    {user missing empty : String}
    {next after : String → Except String ServerConfig}
    (isUser : (base.var "CLIPBOARDWIRE_USER").ok? = some user)
    (hasUser : user ≠ "")
    (goesOn : ∀ user, next user = after user) :
    (match (env.var "CLIPBOARDWIRE_USER").ok? with
      | some user => if user ≠ "" then .ok user else .error empty
      | none => .ok user) >>= next =
      (match ((env.atop base).var "CLIPBOARDWIRE_USER").ok? with
        | some user => .ok user
        | none => .error missing) >>= fun user =>
          ensure (user ≠ "") empty >>= fun _ => after user := by
  rw [Environment.var_atop, EnvVar.ok?_atop, isUser, funext goesOn]
  cases (env.var "CLIPBOARDWIRE_USER").ok? with
  | none =>
      simp [ensure, hasUser, Bind.bind, Except.bind]
  | some name =>
      by_cases nonempty : name = "" <;>
        simp [ensure, nonempty, Bind.bind, Except.bind]

private theorem tls_congr
    {half together : String}
    {next : Option String × Option String → Except String ServerConfig}
    {after : Except String ServerConfig}
    (layers : env.LayersOver base)
    (files :
      (base.var "CLIPBOARDWIRE_TLS_CERT_FILE").ok?.isSome =
        (base.var "CLIPBOARDWIRE_TLS_KEY_FILE").ok?.isSome)
    (goesOn :
      next
          (((env.atop base).var "CLIPBOARDWIRE_TLS_CERT_FILE").ok?,
            ((env.atop base).var "CLIPBOARDWIRE_TLS_KEY_FILE").ok?) =
        after) :
    (match
        (env.var "CLIPBOARDWIRE_TLS_CERT_FILE").ok?,
        (env.var "CLIPBOARDWIRE_TLS_KEY_FILE").ok?
      with
      | none, none =>
          .ok
            ((base.var "CLIPBOARDWIRE_TLS_CERT_FILE").ok?,
              (base.var "CLIPBOARDWIRE_TLS_KEY_FILE").ok?)
      | some cert, some key => .ok (some cert, some key)
      | _, _ => .error half) >>= next =
      ensure
          (((env.atop base).var "CLIPBOARDWIRE_TLS_CERT_FILE").ok?.isSome =
            ((env.atop base).var "CLIPBOARDWIRE_TLS_KEY_FILE").ok?.isSome)
          together >>= fun _ =>
        after := by
  have same := layers.tls
  subst after
  rw [Environment.var_atop, Environment.var_atop, EnvVar.ok?_atop,
    EnvVar.ok?_atop]
  cases cert : (env.var "CLIPBOARDWIRE_TLS_CERT_FILE").ok? with
  | none =>
      cases key : (env.var "CLIPBOARDWIRE_TLS_KEY_FILE").ok? with
      | none =>
          simp [ensure, files, Bind.bind, Except.bind]
      | some path =>
          simp [cert, key] at same
  | some file =>
      cases key : (env.var "CLIPBOARDWIRE_TLS_KEY_FILE").ok? with
      | none =>
          simp [cert, key] at same
      | some path =>
          simp [ensure, Bind.bind, Except.bind]

/--
The environment always wins, and the base fills its gaps: laid over what the
code makes of one environment, another one gives what the code makes of both
read as one, up to the last error message.
-/
theorem layered_over
    (made : fromEnv base = .ok config)
    (layers : env.LayersOver base) :
    fromEnvLayered env (some config) = fromEnv (env.atop base) := by
  simp only [fromEnv, bind_eq_ok, ensure_eq_ok] at made
  obtain ⟨bind, isBind, user, isUser, -, hasUser, password, isPassword, -,
    hasPassword, conns, isConns, -, hasConns, frame, isFrame, -, hasFrame,
    -, files, disabled, isDisabled, made⟩ := made
  cases made
  have givenUser : (base.var "CLIPBOARDWIRE_USER").ok? = some user := by
    split at isUser
    · cases isUser
      assumption
    · cases isUser
  unfold fromEnvLayered layered fromEnv
  refine bind_congr (bind_over isBind) fun bind => ?_
  dsimp only
  refine user_congr givenUser hasUser fun user => ?_
  refine bind_congr
    (Environment.resolvePassword_over layers isPassword).symm
    fun password => ?_
  refine bind_congr rfl fun _ => ?_
  refine bind_map_congr
    (Environment.parseEnvUsize_over layers.maxConns isConns)
    fun upperConns => ?_
  rw [Option.getD_or]
  refine bind_congr rfl fun _ => ?_
  refine bind_map_congr
    (Environment.parseEnvUsize_over layers.maxFrame isFrame)
    fun upperFrame => ?_
  rw [Option.getD_or]
  refine bind_congr rfl fun _ => ?_
  refine tls_congr layers files ?_
  refine bind_congr (Environment.envBool_over isDisabled) fun disabled => ?_
  rw [Environment.stateDir_over layers.stateDir]

/-- An environment with a few variables. -/
private def ofVariables (entries : List (String × String)) :
    Environment where
  var name :=
    match entries.lookup name with
    | some text => .set text
    | none => .notPresent
  readToString _ := .error ""

/-- The variables of an installation. -/
private def installed : Environment :=
  ofVariables
    [("CLIPBOARDWIRE_USER", "alice"), ("CLIPBOARDWIRE_PASSWORD", "hunter2"),
      ("CLIPBOARDWIRE_MAX_CONNS", "8")]

/-- The variables of one start. -/
private def started : Environment :=
  ofVariables
    [("CLIPBOARDWIRE_USER", "bob"), ("CLIPBOARDWIRE_MAX_FRAME", "1000")]

/-- What the installation is configured to. -/
private def installedConfig : ServerConfig where
  bind := .v4 .unspecified 8484
  user := "alice"
  password := "hunter2"
  maxConns := 8
  maxFrameBytes := .ofNat ClipboardWire.maxFrameBytes
  tlsCertFile := none
  tlsKeyFile := none
  tlsDisabled := false
  stateDir := none
  stats := none

/-- The start wins with its user and its limit, and keeps the rest. -/
theorem layered_over_sample :
    fromEnvLayered started (some installedConfig) =
        .ok { installedConfig with user := "bob", maxFrameBytes := 1000 } ∧
      fromEnvLayered started (some installedConfig) =
        fromEnv (started.atop installed) :=
  ⟨by rfl,
    layered_over (by rfl)
      { machine := rfl
        password := fun set => absurd set (by decide)
        passwordFile := fun set => absurd set (by decide)
        tls := rfl
        maxConns := fun _ given => by cases given
        maxFrame := fun _ given => by cases given
        stateDir := fun given => by cases given }⟩

end ServerConfig

end ClipboardWire
