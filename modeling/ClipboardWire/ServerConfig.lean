import ClipboardWire.FileNames
import ClipboardWire.PlainText
import ClipboardWire.SocketAddressText

namespace ClipboardWire

open PlainText SocketAddress

/-!
# Server configuration from the environment

`ServerConfig::from_env` and `ServerConfig::from_env_layered` of
`core/src/server/config.rs`, check by check and with the texts of the errors.
A variable of the environment may be missing, hold something that is no text,
or hold a text; most of the code treats the first two alike.
-/

/-- `DEFAULT_BIND`. -/
def defaultBind : String :=
  "0.0.0.0:8484"

/-- `DEFAULT_MAX_CONNS`. -/
def defaultMaxConns : UInt64 :=
  64

/-- What the server is started with. -/
structure ServerConfig where
  bind : SocketAddr
  user : String
  password : String
  maxConns : UInt64
  maxFrameBytes : UInt64
  tlsCertFile : Option String
  tlsKeyFile : Option String
  tlsDisabled : Bool
  stateDir : Option String
  stats : Option UInt64
  deriving DecidableEq, Repr

/-- `ServerConfig::tls_enabled`: both files are set. -/
def ServerConfig.tlsEnabled (config : ServerConfig) : Bool :=
  config.tlsCertFile.isSome && config.tlsKeyFile.isSome

/-- `env::var` of one variable. -/
inductive EnvVar where
  | notPresent
  /-- The value is no text; this is its debug form. -/
  | notUnicode (raw : String)
  | set (value : String)
  deriving DecidableEq, Repr

/-- `env::var(..).ok()`. -/
def EnvVar.ok? : EnvVar → Option String
  | .set value => some value
  | .notPresent | .notUnicode _ => none

/-- The variables of the process, and the files that they may name. -/
structure Environment where
  var : String → EnvVar
  /-- `fs::read_to_string`. -/
  readToString : String → Except String String

/-- Go on only when a condition holds. -/
def ensure (condition : Prop) [Decidable condition] (message : String) :
    Except String Unit :=
  if condition then
    .ok ()
  else
    .error message

@[simp] theorem ensure_eq_ok
    {condition : Prop}
    [Decidable condition]
    {message : String}
    {value : Unit} :
    ensure condition message = .ok value ↔ condition := by
  simp [ensure]

/-- A bind address has to be one. -/
def parseBind (text : String) : Except String SocketAddr :=
  match SocketAddr.parse text with
  | some bind => .ok bind
  | none => .error "CLIPBOARDWIRE_BIND must be a host:port"

/-- `str::trim`. -/
def trimText (text : String) : String :=
  String.ofList (trim text.toList)

namespace Environment

/-- `env_bool`. -/
def envBool (env : Environment) (name : String) : Except String Bool :=
  match (env.var name).ok? with
  | none =>
      .ok false
  | some text =>
      let value := (trimText text).toLower
      if value ∈ ["", "0", "false", "no", "off"] then
        .ok false
      else if value ∈ ["1", "true", "yes", "on"] then
        .ok true
      else
        .error (name ++ ": expected a boolean, got `" ++ value ++ "`")

/-- The content of a password file, without the line breaks at its end. -/
def passwordFile (env : Environment) (path : String) : Except String String :=
  match env.readToString path with
  | .ok raw => .ok (trimEndMatches ['\r', '\n'] raw)
  | .error _ => .error ("reading " ++ path)

/-- `resolve_password`, with what to do when neither variable is set. -/
def resolvePassword
    (env : Environment)
    (unset : Except String String) :
    Except String String :=
  match
    (env.var "CLIPBOARDWIRE_PASSWORD").ok?,
    (env.var "CLIPBOARDWIRE_PASSWORD_FILE").ok?
  with
  | some _, some _ =>
      .error
        ("set exactly one of CLIPBOARDWIRE_PASSWORD or " ++
          "CLIPBOARDWIRE_PASSWORD_FILE")
  | some password, none =>
      .ok password
  | none, some path =>
      env.passwordFile path
  | none, none =>
      unset

/-- `parse_env_usize`. -/
def parseEnvUsize
    (env : Environment)
    (name : String) :
    Except String (Option UInt64) :=
  match env.var name with
  | .set text =>
      match parseUsize text with
      | some number => .ok (some number)
      | none => .error (name ++ " must be a non-negative integer")
  | .notPresent =>
      .ok none
  | .notUnicode raw =>
      .error (name ++ ": environment variable was not valid unicode: " ++ raw)

/-- The path in a variable, unless the variable is empty. -/
def stateDir (env : Environment) : Option String :=
  (env.var "CLIPBOARDWIRE_STATE_DIR").ok?.filter (· ≠ "")

end Environment

namespace ServerConfig

/-- `ServerConfig::from_env`. -/
def fromEnv (env : Environment) : Except String ServerConfig := do
  let bind ←
    parseBind ((env.var "CLIPBOARDWIRE_BIND").ok?.getD defaultBind)
  let user ←
    (match (env.var "CLIPBOARDWIRE_USER").ok? with
    | some user => .ok user
    | none => .error "CLIPBOARDWIRE_USER is required")
  ensure (user ≠ "") "CLIPBOARDWIRE_USER must not be empty"
  let password ←
    env.resolvePassword
      (.error "set CLIPBOARDWIRE_PASSWORD or CLIPBOARDWIRE_PASSWORD_FILE")
  ensure (password ≠ "") "password must not be empty"
  let maxConns ← env.parseEnvUsize "CLIPBOARDWIRE_MAX_CONNS"
  ensure (maxConns.getD defaultMaxConns ≠ 0)
    "CLIPBOARDWIRE_MAX_CONNS must be at least 1"
  let maxFrameBytes ← env.parseEnvUsize "CLIPBOARDWIRE_MAX_FRAME"
  ensure (maxFrameBytes.getD (.ofNat ClipboardWire.maxFrameBytes) ≠ 0)
    "CLIPBOARDWIRE_MAX_FRAME must be at least 1"
  let tlsCertFile := (env.var "CLIPBOARDWIRE_TLS_CERT_FILE").ok?
  let tlsKeyFile := (env.var "CLIPBOARDWIRE_TLS_KEY_FILE").ok?
  ensure (tlsCertFile.isSome = tlsKeyFile.isSome)
    ("CLIPBOARDWIRE_TLS_CERT_FILE and CLIPBOARDWIRE_TLS_KEY_FILE must be " ++
      "set together")
  let tlsDisabled ← env.envBool "CLIPBOARDWIRE_TLS_DISABLE"
  .ok
    { bind := bind
      user := user
      password := password
      maxConns := maxConns.getD defaultMaxConns
      maxFrameBytes :=
        maxFrameBytes.getD (.ofNat ClipboardWire.maxFrameBytes)
      tlsCertFile := tlsCertFile
      tlsKeyFile := tlsKeyFile
      tlsDisabled := tlsDisabled
      stateDir := env.stateDir
      stats := none }

/-- `ServerConfig::from_env_layered` over a base from a config file. -/
def layered (env : Environment) (base : ServerConfig) :
    Except String ServerConfig := do
  let bind ←
    (match (env.var "CLIPBOARDWIRE_BIND").ok? with
    | some text => parseBind text
    | none => .ok base.bind)
  let user ←
    (match (env.var "CLIPBOARDWIRE_USER").ok? with
    | some user =>
        if user ≠ "" then
          .ok user
        else
          .error "CLIPBOARDWIRE_USER must not be empty"
    -- the user of the base is not checked again
    | none => .ok base.user)
  let password ← env.resolvePassword (.ok base.password)
  ensure (password ≠ "") "password must not be empty"
  let maxConns ← env.parseEnvUsize "CLIPBOARDWIRE_MAX_CONNS"
  ensure (maxConns.getD base.maxConns ≠ 0)
    "CLIPBOARDWIRE_MAX_CONNS must be at least 1"
  let maxFrameBytes ← env.parseEnvUsize "CLIPBOARDWIRE_MAX_FRAME"
  ensure (maxFrameBytes.getD base.maxFrameBytes ≠ 0)
    "CLIPBOARDWIRE_MAX_FRAME must be at least 1"
  let (tlsCertFile, tlsKeyFile) ←
    (match
      (env.var "CLIPBOARDWIRE_TLS_CERT_FILE").ok?,
      (env.var "CLIPBOARDWIRE_TLS_KEY_FILE").ok?
    with
    | none, none =>
        .ok (base.tlsCertFile, base.tlsKeyFile)
    | some cert, some key =>
        .ok (some cert, some key)
    | _, _ =>
        .error
          ("CLIPBOARDWIRE_TLS_CERT_FILE and CLIPBOARDWIRE_TLS_KEY_FILE " ++
            "must be set together when overriding TLS via env"))
  let tlsDisabled ←
    (match (env.var "CLIPBOARDWIRE_TLS_DISABLE").ok? with
    | some _ => env.envBool "CLIPBOARDWIRE_TLS_DISABLE"
    | none => .ok base.tlsDisabled)
  .ok
    { bind := bind
      user := user
      password := password
      maxConns := maxConns.getD base.maxConns
      maxFrameBytes := maxFrameBytes.getD base.maxFrameBytes
      tlsCertFile := tlsCertFile
      tlsKeyFile := tlsKeyFile
      tlsDisabled := tlsDisabled
      stateDir := env.stateDir.or base.stateDir
      stats := none }

/-- `ServerConfig::from_env_layered`. -/
def fromEnvLayered
    (env : Environment)
    (base : Option ServerConfig) :
    Except String ServerConfig :=
  match base with
  | none => fromEnv env
  | some base => layered env base

/-- What a server needs: credentials, limits, and both TLS files or none. -/
structure Usable (config : ServerConfig) : Prop where
  user : config.user ≠ ""
  password : config.password ≠ ""
  maxConns : 1 ≤ config.maxConns.toNat
  maxFrameBytes : 1 ≤ config.maxFrameBytes.toNat
  tls : config.tlsCertFile.isSome ↔ config.tlsKeyFile.isSome

/-- The first part of a successful sequence succeeds as well. -/
theorem bind_eq_ok
    {Error First Second : Type}
    {first : Except Error First}
    {next : First → Except Error Second}
    {result : Second} :
    first >>= next = .ok result ↔
      ∃ value, first = .ok value ∧ next value = .ok result := by
  cases first <;> simp [Bind.bind, Except.bind]

/-- A number is at least one unless it is zero. -/
theorem one_le_toNat {number : UInt64} :
    1 ≤ number.toNat ↔ number ≠ 0 := by
  rw [Nat.one_le_iff_ne_zero, ne_eq, ne_eq, ← UInt64.toNat_inj]
  rfl

/-- Every configuration that comes from the environment alone is usable. -/
theorem usable_of_fromEnv
    {env : Environment}
    {config : ServerConfig}
    (made : fromEnv env = .ok config) :
    config.Usable := by
  simp only [fromEnv, bind_eq_ok, ensure_eq_ok] at made
  obtain ⟨bind, -, user, -, -, hasUser, password, -, -, hasPassword,
    maxConns, -, -, hasConns, maxFrame, -, -, hasFrame, -, files,
    disabled, -, made⟩ := made
  cases made
  exact
    { user := hasUser
      password := hasPassword
      maxConns := one_le_toNat.mpr hasConns
      maxFrameBytes := one_le_toNat.mpr hasFrame
      tls := by rw [files] }

/--
The layered configuration has been checked, but for a user and TLS files that
come from the base.
-/
theorem layered_eq_ok
    {env : Environment}
    {base config : ServerConfig}
    (made : layered env base = .ok config) :
    config.password ≠ "" ∧
      config.maxConns ≠ 0 ∧
      config.maxFrameBytes ≠ 0 ∧
      (config.user ≠ "" ↔
        (env.var "CLIPBOARDWIRE_USER").ok?.isSome ∨ base.user ≠ "") ∧
      ((config.tlsCertFile.isSome ↔ config.tlsKeyFile.isSome) ↔
        (env.var "CLIPBOARDWIRE_TLS_CERT_FILE").ok?.isSome ∨
          (base.tlsCertFile.isSome ↔ base.tlsKeyFile.isSome)) := by
  simp only [layered, bind_eq_ok, ensure_eq_ok] at made
  obtain ⟨bind, -, user, isUser, password, -, -, hasPassword,
    maxConns, -, -, hasConns, maxFrame, -, -, hasFrame, files, areFiles,
    disabled, -, made⟩ := made
  cases made
  refine ⟨hasPassword, hasConns, hasFrame, ?_, ?_⟩
  · cases given : (env.var "CLIPBOARDWIRE_USER").ok? with
    | none =>
        simp only [given, Except.ok.injEq] at isUser
        simp [isUser]
    | some name =>
        simp only [given] at isUser
        split at isUser
        · rename_i nonempty
          cases isUser
          simpa using nonempty
        · cases isUser
  · split at areFiles
    · rename_i noCert noKey
      cases areFiles
      simp [noCert]
    · rename_i cert key isCert isKey
      cases areFiles
      simp [isCert]
    · cases areFiles

end ServerConfig

end ClipboardWire
