import ClipboardWire.ClientTransport
import ClipboardWire.LoopbackClient
import ClipboardWire.ServerTeardown

namespace ClipboardWire

/-!
# The tray and the hubs that it starts

`State` of `cli/src/tray.rs` and what its event loop does to it, together with
the tasks that a start of the embedded hub leaves behind.  The tray keeps one
handle, that of the task which runs `serve`; aborting it stops the accept loop
and nothing else.  The hub task and the tasks of the connections were spawned
on their own and go on.  "Quit" ends the process, and with it every task.
-/

/-- The state of the tray; a handle is the generation of its task. -/
structure Tray where
  supervisor : Option Nat
  supervisorGen : Nat
  clientStatus : Option ClientStatus
  embeddedHub : Option Nat
  embeddedHubGen : Nat
  hubBindError : Option String
  hubStats : Option Nat
  hubStatsPoller : Option Nat
  settingsAlive : Bool
  cfg : Option ClientConfig
  deriving DecidableEq, Repr

/-- The task that runs `serve` of an embedded hub. -/
inductive ServeTask where
  /-- The certificate is not there yet. -/
  | starting
  | serving
  /-- It has ended by itself. -/
  | failed
  | aborted
  deriving DecidableEq, Repr

/-- What one start of the embedded hub has spawned. -/
structure EmbeddedHub where
  config : ServerConfig
  serve : ServeTask
  /-- Connections that are accepted and have not asked for an upgrade. -/
  accepted : List Uuid
  server : Server

/-- The tray, and every hub that it has started. -/
structure TrayHost where
  tray : Tray
  hubs : Nat → Option EmbeddedHub

/-- What the event loop is woken up by, with the answers of the system. -/
inductive TrayEvent where
  | startHub (bind : Except String UInt16)
  | stopHub
  | restartHub (bind : Except String UInt16)
  | reload (loaded : Option ClientConfig) (bind : Except String UInt16)
  | settingsExited (loaded : Option ClientConfig) (bind : Except String UInt16)
  | editConfig (launched : Bool)
  | supervisorExited (generation : Nat)
  | hubExited (generation : Nat)
  | clientStatusChanged (generation : Nat) (status : ClientStatus)
  | hubPeerCountChanged
  | themeChanged

/-- The scheduler's choices. -/
inductive TrayAction where
  | event (event : TrayEvent)
  /-- `serve` gets to its accept loop, or fails before it. -/
  | serveStarts (hub : Nat) (succeeds : Bool)
  | accept (hub : Nat) (id : Uuid)
  /-- An accepted connection is gone without an upgrade. -/
  | disconnect (hub : Nat) (id : Uuid)
  /-- A step of the application: its hub and its connections. -/
  | connection (hub : Nat) (action : ServerAction)

/-- The last of the `str::lines` of a text. -/
def lastLine? (text : String) : Option String :=
  let before (characters : List Char) : Option String :=
    some (String.ofList (characters.takeWhile (· ≠ '\n')).reverse)
  match text.toList.reverse with
  | [] => none
  | '\n' :: '\r' :: rest => before rest
  | '\n' :: rest => before rest
  | characters => before characters

/--
`str::to_lowercase`, as far as ASCII text can be found in it.  Besides the
ASCII letters only U+0130 and U+212A have a lower case with ASCII letters;
every other character is left as it is.
-/
def toLowercase (text : String) : String :=
  String.ofList
    (text.toList.flatMap fun c =>
      if c = '\u0130' then ['i', '\u0307']
      else if c = '\u212A' then ['k']
      else [c.toLower])

/-- `friendly_bind_error`. -/
def friendlyBindError (text : String) : String :=
  let lower := toLowercase text
  if "address already in use".toList <:+: lower.toList ∨
      "address in use".toList <:+: lower.toList then
    "another process is already on this port"
  else if "permission denied".toList <:+: lower.toList then
    "permission denied"
  else
    (lastLine? text).getD "bind failed"

namespace EmbeddedHub

/-- `serve` has been spawned. -/
def spawn (config : ServerConfig) : EmbeddedHub where
  config := config
  serve := .starting
  accepted := []
  server := Server.start config

/-- `JoinHandle::abort`; a task that has ended stays as it is. -/
def abort (hub : EmbeddedHub) : EmbeddedHub :=
  match hub.serve with
  | .starting | .serving => { hub with serve := .aborted }
  | .failed | .aborted => hub

/-- The task that the handle belongs to has not ended. -/
def Runs (hub : EmbeddedHub) : Prop :=
  hub.serve = .starting ∨ hub.serve = .serving

instance (hub : EmbeddedHub) : Decidable hub.Runs :=
  inferInstanceAs (Decidable (_ ∨ _))

end EmbeddedHub

namespace TrayHost

/-- Replace what is known about one hub. -/
def setHub
    (host : TrayHost)
    (generation : Nat)
    (hub : EmbeddedHub) :
    TrayHost :=
  { host with hubs := Function.update host.hubs generation (some hub) }

/-- Abort the task that the tray has the handle of. -/
def abortHub (host : TrayHost) : TrayHost :=
  match host.tray.embeddedHub with
  | none =>
      host
  | some generation =>
      { host with
        hubs :=
          Function.update host.hubs generation
            ((host.hubs generation).map EmbeddedHub.abort) }

/-- `abort_running`. -/
def abortRunning (host : TrayHost) : TrayHost :=
  { host.abortHub with
    tray :=
      { host.tray with
        supervisor := none
        embeddedHub := none
        clientStatus := none
        hubBindError := none
        hubStats := none
        hubStatsPoller := none } }

/-- `stop_embedded_hub`. -/
def stopEmbeddedHub (host : TrayHost) : TrayHost :=
  { host.abortHub with
    tray :=
      { host.tray with
        embeddedHub := none
        hubStats := none
        hubStatsPoller := none } }

/-- `reload_config_into`. -/
def reloadConfigInto
    (host : TrayHost)
    (loaded : Option ClientConfig) :
    TrayHost :=
  { host with tray := { host.tray with cfg := loaded } }

/--
`start_embedded_hub_with_cfg`, with the port that the listener was bound to.
A handle that is overwritten is dropped, and its task goes on.
-/
def startEmbeddedHubWithCfg
    (configPath : String)
    (bind : Except String UInt16)
    (host : TrayHost)
    (client : ClientConfig) :
    TrayHost × ClientConfig :=
  match client.hub with
  | none =>
      (host, client)
  | some hubConfig =>
      let config := embeddedServerConfig hubConfig configPath
      match bind with
      | .error reason =>
          ({ host with
              tray :=
                { host.tray with
                  hubBindError :=
                    some
                      (config.bind.toText ++ " (" ++
                        friendlyBindError reason ++ ")") } },
            client)
      | .ok port =>
          let generation := host.tray.embeddedHubGen + 1
          ({ host with
              tray :=
                { host.tray with
                  hubBindError := none
                  embeddedHubGen := generation
                  embeddedHub := some generation
                  hubStats := some generation
                  hubStatsPoller := some generation } }.setHub generation
              (EmbeddedHub.spawn config),
            rewriteForHub client config port)

/-- `start_embedded_hub`: the client keeps its configuration. -/
def startEmbeddedHub
    (configPath : String)
    (bind : Except String UInt16)
    (host : TrayHost) :
    TrayHost :=
  match host.tray.cfg with
  | none => host
  | some client => (startEmbeddedHubWithCfg configPath bind host client).1

/-- `apply_loaded_config`. -/
def applyLoadedConfig
    (configPath : String)
    (bind : Except String UInt16)
    (host : TrayHost) :
    TrayHost :=
  match host.tray.cfg with
  | none =>
      host
  | some client =>
      let started :=
        if client.hub.any (·.enabled) then
          (startEmbeddedHubWithCfg configPath bind host client).1
        else
          host
      { started with
        tray :=
          { started.tray with
            supervisorGen := started.tray.supervisorGen + 1
            supervisor := some (started.tray.supervisorGen + 1)
            clientStatus := some .connecting } }

/-- What "Reload config" and the end of the settings dialog do. -/
def reload
    (configPath : String)
    (loaded : Option ClientConfig)
    (bind : Except String UInt16)
    (host : TrayHost) :
    TrayHost :=
  applyLoadedConfig configPath bind
    (host.abortRunning.reloadConfigInto loaded)

/--
`run` up to the event loop.  Opening the settings on a first run is what the
menu item does.
-/
def start
    (configPath : String)
    (initial : Option ClientConfig)
    (bind : Except String UInt16) :
    TrayHost :=
  applyLoadedConfig configPath bind
    { tray :=
        { supervisor := none
          supervisorGen := 0
          clientStatus := none
          embeddedHub := none
          embeddedHubGen := 0
          hubBindError := none
          hubStats := none
          hubStatsPoller := none
          settingsAlive := false
          cfg := initial }
      hubs := fun _ => none }

/-- One turn of the event loop. -/
def handleEvent
    (configPath : String)
    (host : TrayHost) :
    TrayEvent → TrayHost
  | .startHub bind =>
      host.startEmbeddedHub configPath bind
  | .stopHub =>
      host.stopEmbeddedHub
  | .restartHub bind =>
      host.stopEmbeddedHub.startEmbeddedHub configPath bind
  | .reload loaded bind =>
      host.reload configPath loaded bind
  | .settingsExited loaded bind =>
      { host with tray := { host.tray with settingsAlive := false } }.reload
        configPath loaded bind
  | .editConfig launched =>
      { host with
        tray :=
          { host.tray with
            settingsAlive := host.tray.settingsAlive || launched } }
  | .supervisorExited generation =>
      if host.tray.supervisor.isSome ∧
          generation = host.tray.supervisorGen then
        { host with
          tray := { host.tray with supervisor := none, clientStatus := none } }
      else
        host
  | .hubExited generation =>
      if host.tray.embeddedHub.isSome ∧
          generation = host.tray.embeddedHubGen then
        { host with tray := { host.tray with embeddedHub := none } }
      else
        host
  | .clientStatusChanged generation status =>
      if generation = host.tray.supervisorGen then
        { host with tray := { host.tray with clientStatus := some status } }
      else
        host
  | .hubPeerCountChanged | .themeChanged =>
      host

/-- The application takes a step; an upgrade needs an accepted connection. -/
def connection?
    (fromStr : String → Option Frame)
    (hub : EmbeddedHub)
    (action : ServerAction) :
    Option EmbeddedHub :=
  match action with
  | .connect id =>
      if id ∈ hub.accepted then
        (hub.server.step? fromStr hub.config action).map fun server =>
          { hub with accepted := hub.accepted.erase id, server := server }
      else
        none
  | _ =>
      (hub.server.step? fromStr hub.config action).map fun server =>
        { hub with server := server }

/-- A step of one hub. -/
def hubStep?
    (fromStr : String → Option Frame)
    (hub : EmbeddedHub) :
    TrayAction → Option EmbeddedHub
  | .serveStarts _ succeeds =>
      if hub.serve = .starting then
        some { hub with serve := if succeeds then .serving else .failed }
      else
        none
  | .accept _ id =>
      if hub.serve = .serving then
        some { hub with accepted := id :: hub.accepted }
      else
        none
  | .disconnect _ id =>
      some { hub with accepted := hub.accepted.erase id }
  | .connection _ action =>
      connection? fromStr hub action
  | .event _ =>
      none

/-- The event that a task has ended comes from that task. -/
def Sent (host : TrayHost) : TrayEvent → Prop
  | .hubExited generation =>
      (host.hubs generation).map EmbeddedHub.serve = some .failed
  | _ => True

instance (host : TrayHost) (event : TrayEvent) : Decidable (host.Sent event) :=
  match event with
  | .hubExited generation =>
      inferInstanceAs
        (Decidable
          ((host.hubs generation).map EmbeddedHub.serve = some .failed))
  | .startHub _ | .stopHub | .restartHub _ | .reload _ _
  | .settingsExited _ _ | .editConfig _ | .supervisorExited _
  | .clientStatusChanged _ _ | .hubPeerCountChanged | .themeChanged =>
      isTrue trivial

/-- One step of the tray and the hubs. -/
def step?
    (fromStr : String → Option Frame)
    (configPath : String)
    (host : TrayHost)
    (action : TrayAction) :
    Option TrayHost :=
  match action with
  | .event event =>
      if host.Sent event then
        some (host.handleEvent configPath event)
      else
        none
  | .serveStarts generation _ | .accept generation _
  | .disconnect generation _ | .connection generation _ =>
      (host.hubs generation).bind fun hub =>
        (hubStep? fromStr hub action).map (host.setHub generation)

end TrayHost

end ClipboardWire
