import ClipboardWire.SettingsCrash
import ClipboardWire.SettingsRoundTrip
import ClipboardWire.TrayHub

namespace ClipboardWire

/-!
# The tray and its settings dialogs

The settings dialog is a process of its own.  The tray launches one from its
menu or on a first run, a thread waits for the end of the process and posts
`SettingsExited`, and only then the tray reads the config file again.  Here
the tray runs together with these processes, the threads and the file:
`prepare_connect_tray_args` of `cli/src/main.rs` and `write_template` of
`core/src/client/config.rs` in front of it, `launch_settings_dialog` and the
event loop of `cli/src/tray.rs`, and `run` of `cli/src/settings.rs`.  Nobody
else writes the config file.
-/

/-- `TEMPLATE` of `write_template`. -/
def configTemplate : String :=
  "# clipboardwire client config\n" ++
  "# Edit this file with your hub's URL and credentials, then re-run.\n" ++
  "\n" ++
  "# WebSocket endpoint. Use wss:// when the hub has TLS configured.\n" ++
  "server   = \"wss://CHANGE-ME-host.lan:8484/sync\"\n" ++
  "\n" ++
  "# HTTP Basic credentials, shared with the hub's\n" ++
  "# CLIPBOARDWIRE_USER / CLIPBOARDWIRE_PASSWORD env vars.\n" ++
  "user     = \"CHANGE-ME\"\n" ++
  "password = \"CHANGE-ME\"\n" ++
  "\n" ++
  "# Optional: clipboard polling interval in milliseconds (default 300).\n" ++
  "# poll_ms = 300\n" ++
  "\n" ++
  "# Optional: PEM bundle of extra CAs to trust (e.g. your private CA).\n" ++
  "# tls_ca_file = \"C:\\\\path\\\\to\\\\ca.crt\"\n" ++
  "\n" ++
  "# Set to true only on a fully trusted LAN/VPN with a self-signed\n" ++
  "# server cert. Skips all TLS certificate verification.\n" ++
  "# tls_insecure = true\n"

/-- `write_template`: its result, and what the path holds afterwards. -/
def writeTemplate
    (platform : Platform)
    (disk : DiskAnswers)
    (file : Option ConfigFile) :
    Except String Unit × Option ConfigFile :=
  match disk.createDirAll with
  | .error message =>
      (.error message, file)
  | .ok () =>
      match disk.write with
      | .error (message, left) =>
          (.error message, left)
      | .ok () =>
          let written : ConfigFile :=
            { mode := (file.map ConfigFile.mode).getD disk.createdMode
              text := some configTemplate }
          match platform with
          | .other =>
              (.ok (), some written)
          | .unix =>
              match disk.setPermissions with
              | .error message =>
                  (.error message, some written)
              | .ok () =>
                  (.ok (), some { written with mode := 0o600 })

/-- What `prepare_connect_tray_args` finds. -/
structure ConnectTrayArgs where
  config : Option ClientConfig
  autoOpenSettings : Bool
  /-- The config file afterwards. -/
  file : Option ConfigFile

/-- `prepare_connect_tray_args`, with or without a path that was given. -/
def prepareConnectTrayArgs
    (platform : Platform)
    (toml : Toml.Format)
    (overridden : Bool)
    (disk : DiskAnswers)
    (file : Option ConfigFile) :
    ConnectTrayArgs :=
  let (templateWritten, after) :=
    if overridden = false ∧ file = none then
      match writeTemplate platform disk file with
      | (.ok (), after) => (true, after)
      | (.error _, after) => (false, after)
    else
      (false, file)
  match ClientConfig.load platform toml after with
  | .ok config => ⟨some config, templateWritten, after⟩
  | .error _ => ⟨none, true, after⟩

/-- The configuration that `apply_loaded_config` gives to the supervisor. -/
def suppliedConfig
    (configPath : String)
    (bind : Except String UInt16)
    (client : ClientConfig) :
    ClientConfig :=
  match client.hub, bind with
  | some hub, .ok port =>
      if hub.enabled then
        rewriteForHub client (embeddedServerConfig hub configPath) port
      else
        client
  | _, _ =>
      client

/-- It is the one that the start of the hub leaves. -/
theorem suppliedConfig_eq
    (configPath : String)
    (bind : Except String UInt16)
    (host : TrayHost)
    (client : ClientConfig) :
    suppliedConfig configPath bind client =
      if client.hub.any (·.enabled) then
        (host.startEmbeddedHubWithCfg configPath bind client).2
      else
        client := by
  unfold suppliedConfig TrayHost.startEmbeddedHubWithCfg
  cases section_ : client.hub with
  | none => simp
  | some hub =>
      cases bind with
      | error reason => simp
      | ok port => simp

/-- A settings process; it has no form before its window is open. -/
inductive SettingsProcess where
  | starting
  | open (app : SettingsApp)
  deriving DecidableEq, Repr

/-- The tray with the settings processes that it has launched. -/
structure SettingsDesk where
  host : TrayHost
  file : Option ConfigFile
  dialogs : List SettingsProcess
  /-- Threads that wait for a process that has ended. -/
  ended : Nat
  /-- `SettingsExited` in the queue of the event loop. -/
  posted : Nat
  /-- What the last supervisor was given. -/
  supplied : Option ClientConfig

/-- The scheduler's choices. -/
inductive SettingsAction where
  /-- Anything that does not concern the config file. -/
  | tray (action : TrayAction)
  /-- "Reload config" is clicked. -/
  | reload (bind : Except String UInt16)
  /-- "Edit config…" is clicked. -/
  | edit (spawned : Bool)
  /-- A settings process opens its window. -/
  | opens (dialog : Nat)
  /-- Its form is filled in, or "Pin from server" is clicked. -/
  | fills (dialog : Nat) (form : FormState)
  /-- "Save" is clicked. -/
  | saves (dialog : Nat) (disk : DiskAnswers)
  /-- The process dies while it writes the file. -/
  | diesSaving (dialog : Nat) (left : Option ConfigFile)
  /-- The process ends: saved, cancelled or killed. -/
  | exits (dialog : Nat)
  /-- A thread posts the event. -/
  | posts
  /-- The event loop gets to the event. -/
  | settingsExited (bind : Except String UInt16)

/-- The events that the desk sends itself. -/
def TrayEvent.concernsFile : TrayEvent → Bool
  | .reload _ _ | .settingsExited _ _ | .editConfig _ => true
  | .startHub _ | .stopHub | .restartHub _ | .supervisorExited _
  | .hubExited _ | .clientStatusChanged _ _ | .hubPeerCountChanged
  | .themeChanged => false

/-- The hub that the tray has the handle of is the one of a configuration. -/
def TrayHost.HubOf
    (configPath : String)
    (host : TrayHost)
    (config : Option ClientConfig) :
    Prop :=
  ∀ generation,
    host.tray.embeddedHub = some generation →
      ∃ client hub started,
        config = some client ∧
          client.hub = some hub ∧
          host.hubs generation = some started ∧
          started.config = embeddedServerConfig hub configPath

namespace SettingsDesk

variable (platform : Platform) (toml : Toml.Format)
  (fromStr : String → Option Frame) (configPath : String)

/-- `launch_settings_dialog`; a click while a dialog is alive is ignored. -/
def launch (desk : SettingsDesk) (spawned : Bool) : SettingsDesk :=
  if desk.host.tray.settingsAlive then
    desk
  else if spawned then
    { desk with
      host := desk.host.handleEvent configPath (.editConfig true)
      dialogs := desk.dialogs ++ [.starting] }
  else
    desk

/-- The tray as `connect` starts it, up to the event loop. -/
def start
    (overridden : Bool)
    (disk : DiskAnswers)
    (file : Option ConfigFile)
    (bind : Except String UInt16)
    (spawned : Bool) :
    SettingsDesk :=
  let args := prepareConnectTrayArgs platform toml overridden disk file
  let desk : SettingsDesk :=
    { host := TrayHost.start configPath args.config bind
      file := args.file
      dialogs := []
      ended := 0
      posted := 0
      supplied := args.config.map (suppliedConfig configPath bind) }
  if args.autoOpenSettings then
    desk.launch configPath spawned
  else
    desk

/-- The configuration in the file, if it can be loaded. -/
def loaded? (desk : SettingsDesk) : Option ClientConfig :=
  (ClientConfig.load platform toml desk.file).toOption

/-- An event after which the tray has read the file again. -/
def reads
    (desk : SettingsDesk)
    (event : Option ClientConfig → TrayEvent)
    (bind : Except String UInt16) :
    SettingsDesk :=
  let loaded := desk.loaded? platform toml
  { desk with
    host := desk.host.handleEvent configPath (event loaded)
    supplied := loaded.map (suppliedConfig configPath bind) }

/-- The window of a settings process. -/
def window? (desk : SettingsDesk) (dialog : Nat) : Option SettingsApp :=
  match desk.dialogs[dialog]? with
  | some (.open app) => some app
  | _ => none

/-- The process has ended, and the thread that waits for it goes on. -/
def processEnds (desk : SettingsDesk) (dialog : Nat) : SettingsDesk :=
  { desk with
    dialogs := desk.dialogs.eraseIdx dialog
    ended := desk.ended + 1 }

/-- One step of the tray, its hubs, the settings processes and the threads. -/
def step? (desk : SettingsDesk) : SettingsAction → Option SettingsDesk
  | .tray (.event event) =>
      if event.concernsFile then
        none
      else
        (desk.host.step? fromStr configPath (.event event)).map fun host =>
          { desk with host := host }
  | .tray action =>
      (desk.host.step? fromStr configPath action).map fun host =>
        { desk with host := host }
  | .reload bind =>
      some
        (desk.reads platform toml configPath
          (fun loaded => .reload loaded bind) bind)
  | .edit spawned =>
      some (desk.launch configPath spawned)
  | .opens dialog =>
      if desk.dialogs[dialog]? = some .starting then
        some
          { desk with
            dialogs :=
              desk.dialogs.set dialog
                (.open
                  (SettingsApp.new
                    (FormState.loadOrDefault platform toml desk.file))) }
      else
        none
  | .fills dialog form =>
      (desk.window? dialog).map fun app =>
        { desk with
          dialogs := desk.dialogs.set dialog (.open { app with form := form }) }
  | .saves dialog disk =>
      (desk.window? dialog).map fun app =>
        let (_, saved, after) := app.trySave platform toml disk desk.file
        { desk with
          file := after
          dialogs := desk.dialogs.set dialog (.open saved) }
  | .diesSaving dialog left =>
      (desk.window? dialog).map fun _ =>
        { desk with file := left }.processEnds dialog
  | .exits dialog =>
      (desk.dialogs[dialog]?).map fun _ =>
        desk.processEnds dialog
  | .posts =>
      if 0 < desk.ended then
        some { desk with ended := desk.ended - 1, posted := desk.posted + 1 }
      else
        none
  | .settingsExited bind =>
      if 0 < desk.posted then
        some
          ({ desk with posted := desk.posted - 1 }.reads platform toml
            configPath (fun loaded => .settingsExited loaded bind) bind)
      else
        none

/-- The dialogs that the tray still has to hear of. -/
def outstanding (desk : SettingsDesk) : Nat :=
  desk.dialogs.length + desk.ended + desk.posted

/-- The supervisor and the hub were started with a configuration. -/
structure RunsWith (desk : SettingsDesk) (config : Option ClientConfig) :
    Prop where
  supervisor :
    desk.host.tray.supervisor.isSome →
      ∃ client bind,
        config = some client ∧
          desk.supplied = some (suppliedConfig configPath bind client)
  hub : desk.host.HubOf configPath config

end SettingsDesk

namespace TrayHost

variable {fromStr : String → Option Frame} {configPath : String}
  {host : TrayHost} {config : Option ClientConfig}

/-- Without a handle there is nothing to say. -/
private theorem hubOf_nothing (nothing : host.tray.embeddedHub = none) :
    host.HubOf configPath config := by
  intro generation held
  rw [nothing] at held
  cases held

private theorem HubOf.startEmbeddedHubWithCfg
    {client : ClientConfig}
    (hubOf : host.HubOf configPath (some client))
    (bind : Except String UInt16) :
    (host.startEmbeddedHubWithCfg configPath bind client).1.HubOf configPath
      (some client) := by
  cases hub : client.hub with
  | none =>
      simpa only [TrayHost.startEmbeddedHubWithCfg, hub] using hubOf
  | some section_ =>
      cases bind with
      | error reason =>
          simp only [TrayHost.startEmbeddedHubWithCfg, hub]
          exact hubOf
      | ok port =>
          intro generation held
          simp only [TrayHost.startEmbeddedHubWithCfg, hub, setHub,
            Option.some.injEq] at held ⊢
          subst generation
          exact ⟨client, section_, _, rfl, hub, Function.update_self _ _ _,
            rfl⟩

/-- A start of the hub changes nothing else that matters here. -/
private theorem startEmbeddedHubWithCfg_leaves
    (configPath : String)
    (bind : Except String UInt16)
    (host : TrayHost)
    (client : ClientConfig) :
    let after := (host.startEmbeddedHubWithCfg configPath bind client).1.tray
    after.cfg = host.tray.cfg ∧
      after.settingsAlive = host.tray.settingsAlive ∧
      after.supervisor = host.tray.supervisor := by
  unfold TrayHost.startEmbeddedHubWithCfg
  split
  · exact ⟨rfl, rfl, rfl⟩
  · split <;> exact ⟨rfl, rfl, rfl⟩

/-- Nor does a start from the menu. -/
private theorem startEmbeddedHub_leaves
    (configPath : String)
    (bind : Except String UInt16)
    (host : TrayHost) :
    let after := (host.startEmbeddedHub configPath bind).tray
    after.cfg = host.tray.cfg ∧
      after.settingsAlive = host.tray.settingsAlive ∧
      after.supervisor = host.tray.supervisor := by
  unfold TrayHost.startEmbeddedHub
  split
  · exact ⟨rfl, rfl, rfl⟩
  · exact startEmbeddedHubWithCfg_leaves configPath bind host _

private theorem HubOf.startEmbeddedHub
    (hubOf : host.HubOf configPath host.tray.cfg)
    (bind : Except String UInt16) :
    (host.startEmbeddedHub configPath bind).HubOf configPath
      host.tray.cfg := by
  unfold TrayHost.startEmbeddedHub
  split
  · exact hubOf
  · rename_i client known
    rw [known] at hubOf ⊢
    exact hubOf.startEmbeddedHubWithCfg bind

private theorem HubOf.applyLoadedConfig
    (hubOf : host.HubOf configPath host.tray.cfg)
    (bind : Except String UInt16) :
    (host.applyLoadedConfig configPath bind).HubOf configPath
      host.tray.cfg := by
  unfold TrayHost.applyLoadedConfig
  split
  · exact hubOf
  · rename_i client known
    rw [known] at hubOf ⊢
    split
    · exact hubOf.startEmbeddedHubWithCfg bind
    · exact hubOf

/-- Applying a configuration keeps it, and does not touch the dialog. -/
private theorem applyLoadedConfig_leaves
    (configPath : String)
    (bind : Except String UInt16)
    (host : TrayHost) :
    (host.applyLoadedConfig configPath bind).tray.cfg = host.tray.cfg ∧
      (host.applyLoadedConfig configPath bind).tray.settingsAlive =
        host.tray.settingsAlive := by
  unfold TrayHost.applyLoadedConfig
  split
  · exact ⟨rfl, rfl⟩
  · rename_i client _
    have leaves :=
      startEmbeddedHubWithCfg_leaves configPath bind host
        client
    split
    · exact ⟨leaves.1, leaves.2.1⟩
    · exact ⟨rfl, rfl⟩

/-- Without a configuration nothing is started. -/
private theorem supervisor_applyLoadedConfig
    (bind : Except String UInt16)
    (nobody : host.tray.supervisor = none)
    (runs :
      (host.applyLoadedConfig configPath bind).tray.supervisor.isSome) :
    host.tray.cfg.isSome := by
  unfold TrayHost.applyLoadedConfig at runs
  split at runs
  · rw [nobody] at runs
    cases runs
  · rename_i client known
    rw [known]
    rfl

/-- A reload leaves what the file says, and the dialog as it is. -/
private theorem reload_leaves
    (configPath : String)
    (loaded : Option ClientConfig)
    (bind : Except String UInt16)
    (host : TrayHost) :
    (host.reload configPath loaded bind).tray.cfg = loaded ∧
      (host.reload configPath loaded bind).tray.settingsAlive =
        host.tray.settingsAlive ∧
      (host.reload configPath loaded bind).HubOf configPath loaded ∧
      ((host.reload configPath loaded bind).tray.supervisor.isSome →
        loaded.isSome) := by
  have leaves :=
    applyLoadedConfig_leaves configPath bind
      (host.abortRunning.reloadConfigInto loaded)
  have nothing :
      (host.abortRunning.reloadConfigInto loaded).HubOf configPath
        (host.abortRunning.reloadConfigInto loaded).tray.cfg :=
    hubOf_nothing rfl
  exact ⟨leaves.1, leaves.2, nothing.applyLoadedConfig bind,
    supervisor_applyLoadedConfig bind rfl⟩

/-- The other events keep the configuration and the dialog. -/
private theorem handleEvent_leaves
    {event : TrayEvent}
    (aside : event.concernsFile = false)
    (hubOf : host.HubOf configPath host.tray.cfg) :
    (host.handleEvent configPath event).tray.cfg = host.tray.cfg ∧
      (host.handleEvent configPath event).tray.settingsAlive =
        host.tray.settingsAlive ∧
      (host.handleEvent configPath event).HubOf configPath host.tray.cfg ∧
      ((host.handleEvent configPath event).tray.supervisor.isSome →
        host.tray.supervisor.isSome) := by
  cases event with
  | startHub bind =>
      obtain ⟨cfg, alive, supervisor⟩ :=
        startEmbeddedHub_leaves configPath bind host
      exact ⟨cfg, alive, hubOf.startEmbeddedHub bind,
        fun runs => by rwa [handleEvent, supervisor] at runs⟩
  | stopHub =>
      exact ⟨rfl, rfl, hubOf_nothing rfl, id⟩
  | restartHub bind =>
      obtain ⟨cfg, alive, supervisor⟩ :=
        startEmbeddedHub_leaves configPath bind host.stopEmbeddedHub
      have nothing :
          host.stopEmbeddedHub.HubOf configPath
            host.stopEmbeddedHub.tray.cfg :=
        hubOf_nothing rfl
      exact ⟨cfg, alive, nothing.startEmbeddedHub bind,
        fun runs => by rwa [handleEvent, supervisor] at runs⟩
  | reload loaded bind =>
      cases aside
  | settingsExited loaded bind =>
      cases aside
  | editConfig launched =>
      cases aside
  | supervisorExited generation =>
      simp only [handleEvent]
      split
      · exact ⟨rfl, rfl, hubOf, fun runs => by cases runs⟩
      · exact ⟨rfl, rfl, hubOf, id⟩
  | hubExited generation =>
      simp only [handleEvent]
      split
      · exact ⟨rfl, rfl, hubOf_nothing rfl, id⟩
      · exact ⟨rfl, rfl, hubOf, id⟩
  | clientStatusChanged generation status =>
      simp only [handleEvent]
      split <;> exact ⟨rfl, rfl, hubOf, id⟩
  | hubPeerCountChanged =>
      exact ⟨rfl, rfl, hubOf, id⟩
  | themeChanged =>
      exact ⟨rfl, rfl, hubOf, id⟩

/-- A hub keeps its configuration. -/
private theorem config_of_hubStep?
    {hub after : EmbeddedHub}
    {action : TrayAction}
    (moved : hubStep? fromStr hub action = some after) :
    after.config = hub.config := by
  cases action with
  | event event => cases moved
  | serveStarts generation succeeds =>
      simp only [hubStep?] at moved
      split at moved
      · cases moved
        rfl
      · cases moved
  | accept generation id =>
      simp only [hubStep?] at moved
      split at moved
      · cases moved
        rfl
      · cases moved
  | disconnect generation id =>
      cases moved
      rfl
  | connection generation action =>
      simp only [hubStep?, connection?] at moved
      split at moved
      · split at moved
        · obtain ⟨server, -, rfl⟩ := Option.map_eq_some_iff.mp moved
          rfl
        · cases moved
      · obtain ⟨server, -, rfl⟩ := Option.map_eq_some_iff.mp moved
        rfl

private theorem HubOf.hubStep
    {after : TrayHost}
    {generation : Nat}
    {action : TrayAction}
    (hubOf : host.HubOf configPath config)
    (stepped :
      ((host.hubs generation).bind fun hub =>
        (hubStep? fromStr hub action).map (host.setHub generation)) =
        some after) :
    after.tray = host.tray ∧ after.HubOf configPath config := by
  obtain ⟨hub, known, moved⟩ := Option.bind_eq_some_iff.mp stepped
  obtain ⟨changed, goesOn, rfl⟩ := Option.map_eq_some_iff.mp moved
  refine ⟨rfl, fun held isHeld => ?_⟩
  obtain ⟨client, section_, started, same, isSection, running, its⟩ :=
    hubOf held isHeld
  by_cases own : held = generation
  · subst held
    rw [known, Option.some.injEq] at running
    subst started
    exact ⟨client, section_, changed, same, isSection,
      Function.update_self _ _ _, (config_of_hubStep? goesOn).trans its⟩
  · exact ⟨client, section_, started, same, isSection,
      (Function.update_of_ne own _ _).trans running, its⟩

end TrayHost

/-- The configuration is the one of the file that is left. -/
private theorem config_prepareConnectTrayArgs
    (platform : Platform)
    (toml : Toml.Format)
    (overridden : Bool)
    (disk : DiskAnswers)
    (file : Option ConfigFile) :
    let args := prepareConnectTrayArgs platform toml overridden disk file
    args.config = (ClientConfig.load platform toml args.file).toOption := by
  simp only [prepareConnectTrayArgs]
  split
  · rename_i config loaded
    rw [loaded]
    rfl
  · rename_i reason failed
    rw [failed]
    rfl

namespace SettingsDesk

variable {platform : Platform} {toml : Toml.Format}
  {fromStr : String → Option Frame} {configPath : String}
  {desk next : SettingsDesk}

/-- What runs is of the configuration of the tray, every dialog is counted,
and without one the configuration is the one in the file. -/
structure Sound
    (platform : Platform)
    (toml : Toml.Format)
    (configPath : String)
    (desk : SettingsDesk) :
    Prop where
  runs : desk.RunsWith configPath desk.host.tray.cfg
  counted :
    desk.outstanding = if desk.host.tray.settingsAlive then 1 else 0
  current :
    desk.host.tray.settingsAlive = false →
      desk.host.tray.cfg = desk.loaded? platform toml

private theorem Sound.launch
    (sound : desk.Sound platform toml configPath)
    (spawned : Bool) :
    (desk.launch configPath spawned).Sound platform toml configPath := by
  unfold SettingsDesk.launch
  split
  · exact sound
  · rename_i dead
    split
    · refine ⟨⟨sound.runs.supervisor, sound.runs.hub⟩, ?_, ?_⟩
      · have nobody := sound.counted
        rw [if_neg dead] at nobody
        simp only [outstanding, TrayHost.handleEvent, Bool.or_true,
          List.length_append, List.length_singleton, if_true] at nobody ⊢
        omega
      · intro alive
        simp [TrayHost.handleEvent] at alive
    · exact sound

/-- Once the tray has read the file, what runs is of the file. -/
private theorem sound_of_read
    {loaded : Option ClientConfig}
    {bind : Except String UInt16}
    {host : TrayHost}
    (isHost : next.host = host.reload configPath loaded bind)
    (isSupplied : next.supplied = loaded.map (suppliedConfig configPath bind))
    (isLoaded : next.loaded? platform toml = loaded)
    (counted :
      next.outstanding = if host.tray.settingsAlive then 1 else 0) :
    next.Sound platform toml configPath := by
  obtain ⟨config, alive, hubOf, runs⟩ :=
    TrayHost.reload_leaves configPath loaded bind host
  rw [← isHost] at config alive hubOf runs
  refine ⟨⟨fun running => ?_, ?_⟩, ?_, fun _ => ?_⟩
  · obtain ⟨client, isClient⟩ := Option.isSome_iff_exists.mp (runs running)
    refine ⟨client, bind, config.trans isClient, ?_⟩
    rw [isSupplied, isClient]
    rfl
  · rw [config]
    exact hubOf
  · rw [alive]
    exact counted
  · rw [config, isLoaded]

private theorem Sound.aside
    {event : TrayEvent}
    (sound : desk.Sound platform toml configPath)
    (aside : event.concernsFile = false) :
    ({ desk with host := desk.host.handleEvent configPath event } :
        SettingsDesk).Sound platform toml configPath := by
  obtain ⟨config, alive, hubOf, runs⟩ :=
    TrayHost.handleEvent_leaves aside sound.runs.hub
  refine ⟨⟨fun running => ?_, ?_⟩, ?_, fun dead => ?_⟩
  · rw [config]
    exact sound.runs.supervisor (runs running)
  · rw [config]
    exact hubOf
  · rw [alive]
    exact sound.counted
  · rw [alive] at dead
    exact config.trans (sound.current dead)

private theorem Sound.hubStep
    {host : TrayHost}
    {generation : Nat}
    {action : TrayAction}
    (sound : desk.Sound platform toml configPath)
    (stepped :
      ((desk.host.hubs generation).bind fun hub =>
        (TrayHost.hubStep? fromStr hub action).map
          (desk.host.setHub generation)) =
        some host) :
    ({ desk with host := host } : SettingsDesk).Sound platform toml
      configPath := by
  obtain ⟨tray, hubOf⟩ := sound.runs.hub.hubStep stepped
  refine ⟨⟨?_, ?_⟩, ?_, ?_⟩
  · simpa only [tray] using sound.runs.supervisor
  · simpa only [tray] using hubOf
  · simpa only [tray, outstanding] using sound.counted
  · intro dead
    rw [tray] at dead ⊢
    exact sound.current dead

private theorem Sound.dialog
    (sound : desk.Sound platform toml configPath)
    (host : next.host = desk.host)
    (supplied : next.supplied = desk.supplied)
    (counted : next.outstanding = desk.outstanding)
    (some : 0 < desk.outstanding) :
    next.Sound platform toml configPath := by
  refine ⟨⟨?_, ?_⟩, ?_, ?_⟩
  · rw [host, supplied]
    exact sound.runs.supervisor
  · rw [host]
    exact sound.runs.hub
  · rw [host, counted]
    exact sound.counted
  · intro dead
    rw [host] at dead
    have nobody := sound.counted
    rw [dead, if_neg Bool.false_ne_true] at nobody
    omega

/-- A process that is there is counted. -/
private theorem outstanding_pos
    {dialog : Nat}
    {process : SettingsProcess}
    (found : desk.dialogs[dialog]? = some process) :
    0 < desk.outstanding := by
  obtain ⟨inside, -⟩ := List.getElem?_eq_some_iff.mp found
  unfold outstanding
  omega

/-- A window belongs to a process. -/
private theorem found_of_window?
    {dialog : Nat}
    {app : SettingsApp}
    (window : desk.window? dialog = some app) :
    desk.dialogs[dialog]? = some (.open app) := by
  unfold window? at window
  split at window
  · rename_i other found
    rw [Option.some.injEq] at window
    rw [found, window]
  · cases window

/-- The end of a process is counted on. -/
private theorem outstanding_processEnds
    {dialog : Nat}
    {process : SettingsProcess}
    (found : desk.dialogs[dialog]? = some process) :
    (desk.processEnds dialog).outstanding = desk.outstanding := by
  obtain ⟨inside, -⟩ := List.getElem?_eq_some_iff.mp found
  simp only [processEnds, outstanding, List.length_eraseIdx_of_lt inside]
  omega

private theorem Sound.step
    {action : SettingsAction}
    (sound : desk.Sound platform toml configPath)
    (stepped :
      desk.step? platform toml fromStr configPath action = some next) :
    next.Sound platform toml configPath := by
  cases action with
  | tray action =>
      cases action with
      | event event =>
          simp only [step?] at stepped
          split at stepped
          · cases stepped
          · rename_i aside
            obtain ⟨host, moved, rfl⟩ := Option.map_eq_some_iff.mp stepped
            simp only [TrayHost.step?] at moved
            split at moved
            · cases moved
              exact sound.aside (Bool.eq_false_iff.mpr aside)
            · cases moved
      | serveStarts generation succeeds =>
          obtain ⟨host, moved, rfl⟩ := Option.map_eq_some_iff.mp stepped
          exact sound.hubStep moved
      | accept generation id =>
          obtain ⟨host, moved, rfl⟩ := Option.map_eq_some_iff.mp stepped
          exact sound.hubStep moved
      | disconnect generation id =>
          obtain ⟨host, moved, rfl⟩ := Option.map_eq_some_iff.mp stepped
          exact sound.hubStep moved
      | connection generation action =>
          obtain ⟨host, moved, rfl⟩ := Option.map_eq_some_iff.mp stepped
          exact sound.hubStep moved
  | reload bind =>
      cases stepped
      exact sound_of_read rfl rfl rfl sound.counted
  | edit spawned =>
      cases stepped
      exact sound.launch spawned
  | opens dialog =>
      simp only [step?] at stepped
      split at stepped
      · rename_i found
        cases stepped
        exact sound.dialog rfl rfl (by simp [outstanding])
          (outstanding_pos found)
      · cases stepped
  | fills dialog form =>
      obtain ⟨app, window, rfl⟩ := Option.map_eq_some_iff.mp stepped
      exact sound.dialog rfl rfl (by simp [outstanding])
        (outstanding_pos (found_of_window? window))
  | saves dialog disk =>
      obtain ⟨app, window, rfl⟩ := Option.map_eq_some_iff.mp stepped
      exact sound.dialog rfl rfl (by simp [outstanding])
        (outstanding_pos (found_of_window? window))
  | diesSaving dialog left =>
      obtain ⟨app, window, rfl⟩ := Option.map_eq_some_iff.mp stepped
      have found := found_of_window? window
      exact sound.dialog rfl rfl (outstanding_processEnds found)
        (outstanding_pos found)
  | exits dialog =>
      obtain ⟨process, found, rfl⟩ := Option.map_eq_some_iff.mp stepped
      exact sound.dialog rfl rfl (outstanding_processEnds found)
        (outstanding_pos found)
  | posts =>
      simp only [step?] at stepped
      split at stepped
      · rename_i waiting
        cases stepped
        exact sound.dialog rfl rfl
          (by simp only [outstanding]; omega)
          (by simp only [outstanding]; omega)
      · cases stepped
  | settingsExited bind =>
      simp only [step?] at stepped
      split at stepped
      · rename_i waiting
        cases stepped
        have counted := sound.counted
        refine sound_of_read rfl rfl rfl ?_
        simp only [outstanding, reads, if_neg Bool.false_ne_true] at counted ⊢
        split at counted <;> omega
      · cases stepped

private theorem sound_start
    (overridden : Bool)
    (disk : DiskAnswers)
    (file : Option ConfigFile)
    (bind : Except String UInt16)
    (spawned : Bool) :
    (start platform toml configPath overridden disk file bind
      spawned).Sound platform toml configPath := by
  have isLoaded :=
    config_prepareConnectTrayArgs platform toml overridden disk file
  unfold start
  simp only at isLoaded ⊢
  generalize prepareConnectTrayArgs platform toml overridden disk file = args
    at isLoaded
  have before :
      SettingsDesk.Sound platform toml configPath
        { host := TrayHost.start configPath args.config bind
          file := args.file
          dialogs := []
          ended := 0
          posted := 0
          supplied := args.config.map (suppliedConfig configPath bind) } := by
    unfold TrayHost.start
    obtain ⟨config, alive⟩ :=
      TrayHost.applyLoadedConfig_leaves configPath bind _
    refine ⟨⟨fun running => ?_, ?_⟩, ?_, fun _ => ?_⟩
    · have there := TrayHost.supervisor_applyLoadedConfig bind rfl running
      obtain ⟨client, isClient⟩ := Option.isSome_iff_exists.mp there
      exact ⟨client, bind, config.trans isClient,
        congrArg (Option.map (suppliedConfig configPath bind)) isClient⟩
    · rw [config]
      exact TrayHost.HubOf.applyLoadedConfig (TrayHost.hubOf_nothing rfl) bind
    · rw [alive]
      rfl
    · exact config.trans isLoaded
  split
  · exact before.launch spawned
  · exact before

private theorem Sound.catchesUp
    (sound : desk.Sound platform toml configPath)
    (closed : desk.dialogs = [])
    (bind : Except String UInt16) :
    ∃ later ∈
      [[], [.settingsExited bind],
        [SettingsAction.posts, .settingsExited bind]],
      ∃ final,
        StepRun.run? (step? platform toml fromStr configPath) desk later =
            some final ∧
          final.host.tray.settingsAlive = false ∧
          final.file = desk.file := by
  have counted := sound.counted
  simp only [outstanding, closed, List.length_nil, Nat.zero_add] at counted
  have handled (waiting : SettingsDesk) (some : 0 < waiting.posted) :
      ∃ final,
        waiting.step? platform toml fromStr configPath
            (.settingsExited bind) =
          Option.some final ∧
        final.host.tray.settingsAlive = false ∧
        final.file = waiting.file := by
    refine ⟨{ waiting with posted := waiting.posted - 1 }.reads platform toml
      configPath (fun loaded => .settingsExited loaded bind) bind,
      by simp only [step?, if_pos some], ?_, rfl⟩
    exact (TrayHost.reload_leaves configPath _ bind _).2.1
  by_cases posted : 0 < desk.posted
  · obtain ⟨final, stepped, dead, same⟩ := handled desk posted
    exact ⟨[.settingsExited bind], by simp, final,
      StepRun.run?_cons_eq_some.mpr ⟨final, stepped, rfl⟩, dead, same⟩
  · by_cases ended : 0 < desk.ended
    · obtain ⟨final, stepped, dead, same⟩ :=
        handled
          { desk with ended := desk.ended - 1, posted := desk.posted + 1 }
          (Nat.succ_pos _)
      refine
        ⟨[.posts, .settingsExited bind], by simp, final, ?_, dead, same⟩
      exact StepRun.run?_cons_eq_some.mpr
        ⟨_, by rw [step?, if_pos ended],
          StepRun.run?_cons_eq_some.mpr ⟨final, stepped, rfl⟩⟩
    · refine ⟨[], by simp, desk, rfl, ?_, rfl⟩
      rw [Nat.eq_zero_of_not_pos posted, Nat.eq_zero_of_not_pos ended]
        at counted
      cases alive : desk.host.tray.settingsAlive with
      | false => rfl
      | true =>
          rw [alive] at counted
          cases counted

/--
The tray runs what is on disk.  In every run of the tray, its hubs and its
settings processes, whatever is saved, left half written or cancelled and
whenever a process ends: at most one dialog is open or still to be heard of,
and exactly then the tray takes one for open; without one the tray has the
configuration that the file has now, and its supervisor and its hub were
started with it.  Once no dialog is open any more, two steps lead there.
-/
theorem runs_what_is_on_disk
    {overridden : Bool}
    {disk : DiskAnswers}
    {file : Option ConfigFile}
    {bind : Except String UInt16}
    {spawned : Bool}
    {actions : List SettingsAction}
    (ran :
      StepRun.run? (step? platform toml fromStr configPath)
          (start platform toml configPath overridden disk file bind spawned)
          actions =
        some desk) :
    (desk.outstanding = if desk.host.tray.settingsAlive then 1 else 0) ∧
      (desk.host.tray.settingsAlive = false →
        desk.host.tray.cfg = desk.loaded? platform toml ∧
          desk.RunsWith configPath (desk.loaded? platform toml)) ∧
      (desk.dialogs = [] →
        ∀ bind,
          ∃ later ∈
            [[], [.settingsExited bind],
              [SettingsAction.posts, .settingsExited bind]],
            ∃ final,
              StepRun.run? (step? platform toml fromStr configPath) desk
                  later =
                some final ∧
              final.host.tray.settingsAlive = false ∧
              final.file = desk.file) := by
  have sound : desk.Sound platform toml configPath :=
    StepRun.run?_invariant
      (sound_start overridden disk file bind spawned)
      (fun sound stepped => sound.step stepped) ran
  refine
    ⟨sound.counted, fun dead => ?_, fun closed => sound.catchesUp closed⟩
  have current := sound.current dead
  refine ⟨current, ?_⟩
  rw [← current]
  exact sound.runs

/-- The dialog is filled in, saved and closed. -/
private def firstRun : List SettingsAction :=
  [.opens 0, .fills 0 filledForm, .saves 0 sureDisk, .edit true, .exits 0,
    .posts, .settingsExited (.ok 8484)]

/-- A path was given and has no file yet: the dialog opens by itself. -/
private def freshDesk : SettingsDesk :=
  start .unix filledToml "config.toml" true sureDisk none (.ok 8484) true

/-- The desk at the end of the sample. -/
private def savedDesk : SettingsDesk :=
  (StepRun.run? (step? .unix filledToml (fun _ => none) "config.toml")
    freshDesk firstRun).getD freshDesk

/-- The sample is a run. -/
private theorem savedDesk_ran :
    StepRun.run? (step? .unix filledToml (fun _ => none) "config.toml")
      freshDesk firstRun = some savedDesk :=
  StepRun.run?_getD
    (show (StepRun.run?
      (step? .unix filledToml (fun _ => none) "config.toml") freshDesk
      firstRun).isSome = true by decide +kernel)
    freshDesk

/-- Its dialog is closed, and a supervisor runs. -/
private theorem savedDesk_closed :
    savedDesk.host.tray.settingsAlive = false ∧
      savedDesk.host.tray.supervisor = some 1 := by
  decide +kernel

/-- Nobody has to hear of a dialog any more, and what was saved runs. -/
theorem runs_what_is_on_disk_sample :
    savedDesk.host.tray.supervisor = some 1 ∧
      savedDesk.host.tray.cfg = savedDesk.loaded? .unix filledToml ∧
      savedDesk.RunsWith "config.toml"
        (savedDesk.loaded? .unix filledToml) := by
  have runs := runs_what_is_on_disk savedDesk_ran
  exact ⟨savedDesk_closed.2, runs.2.1 savedDesk_closed.1⟩

end SettingsDesk

end ClipboardWire
