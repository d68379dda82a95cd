import ClipboardWire.TrayConsistency

namespace ClipboardWire

/-!
# What the tray shows

The menu, the tooltip and the icon are widgets with a state of their own: each
handler of the event loop refreshes those that it thinks it has to.  After
every event they show the state of the tray nevertheless, but for one: "Stop
hub" leaves the tooltip as it was, and the count of a hub that is gone stays
in it until something else refreshes the tooltip.
-/

/-- `dark_light::Mode` -/
inductive ThemeMode where
  | dark
  | light
  | unspecified
  deriving DecidableEq, Repr

/-- The picture that an icon is drawn on. -/
inductive IconBase where
  | color
  | monoDark
  | monoLight
  deriving DecidableEq, Repr

/-- An icon, with the colour of its status dot. -/
structure TrayIcon where
  base : IconBase
  overlay : Option (UInt8 × UInt8 × UInt8 × UInt8)
  deriving DecidableEq, Repr

/-- `build_icon`, up to the pixels. -/
def buildIcon
    (theme : Option ThemeMode)
    (status : Option ClientStatus)
    (hubBindError : Bool) : TrayIcon where
  base :=
    match theme with
    | some .light => .monoDark
    | some .dark => .monoLight
    | some .unspecified | none => .color
  overlay :=
    if hubBindError then
      some (220, 60, 60, 255)
    else
      match status with
      | some .connected => some (60, 180, 80, 255)
      | some .connecting => some (235, 175, 50, 255)
      | some (.disconnected _) => some (220, 60, 60, 255)
      | none => none

/-- `Duration::as_secs` -/
def asSecs (duration : Nat) : Nat :=
  duration / 1000000000

/-- `status_label_with_hub` -/
def statusLabelWithHub
    (status : Option ClientStatus)
    (hasCfg : Bool)
    (hubBindError : Option String) : String :=
  match hubBindError with
  | some reason =>
      "Status: hub bind failed — " ++ reason
  | none =>
      if hasCfg then
        match status with
        | none =>
            "Status: starting…"
        | some .connecting =>
            "Status: connecting…"
        | some .connected =>
            "Status: connected"
        | some (.disconnected willRetryIn) =>
            "Status: disconnected — retrying in " ++
              toString (max (asSecs willRetryIn) 1) ++ "s"
      else
        "Status: needs configuration"

/-- `server_label` -/
def serverLabel (cfg : Option ClientConfig) : String :=
  match cfg with
  | some client => client.server
  | none => ""

/-- `hub_info_label`, with the count that it reads. -/
def hubInfoLabel (tray : Tray) (count : Nat) : String :=
  if tray.hubStats.isSome then
    match count with
    | 0 => "Hub: 0 clients connected"
    | 1 => "Hub: 1 client connected"
    | more => "Hub: " ++ toString more ++ " clients connected"
  else if tray.embeddedHub.isSome then
    "Hub: running"
  else
    ""

/-- While a hub is counted, nothing else matters. -/
private theorem hubInfoLabel_congr
    {tray next : Tray}
    (stats : tray.hubStats = next.hubStats)
    (counted : tray.hubStats.isSome)
    (count : Nat) :
    hubInfoLabel tray count = hubInfoLabel next count := by
  unfold hubInfoLabel
  rw [← stats, if_pos counted, if_pos counted]

/-- `format_hub_peer_line` -/
def formatHubPeerLine (count : Nat) : String :=
  match count with
  | 0 => "\nhub running (0 clients connected)"
  | 1 => "\nhub running (1 client connected)"
  | more => "\nhub running (" ++ toString more ++ " clients connected)"

/-- The tooltip that `refresh_tooltip` sets, with the count that it reads. -/
def tooltipText (configPath : String) (tray : Tray) (count : Nat) : String :=
  match tray.hubBindError with
  | some reason =>
      "clipboardwire — hub bind failed (" ++ reason ++ ")\n" ++ configPath
  | none =>
      let tip :=
        match tray.cfg, tray.clientStatus with
        | none, _ =>
            "clipboardwire — needs config (right-click → Edit config)\n" ++
              configPath
        | some client, none =>
            "clipboardwire — starting\n" ++ client.server
        | some client, some .connecting =>
            "clipboardwire — connecting…\n" ++ client.server
        | some client, some .connected =>
            "clipboardwire — connected\n" ++ client.server
        | some client, some (.disconnected willRetryIn) =>
            "clipboardwire — disconnected, retrying in " ++
              toString (max (asSecs willRetryIn) 1) ++ "s\n" ++ client.server
      if tray.hubStats.isSome then
        tip ++ formatHubPeerLine count
      else
        tip

/-- What is on the screen, and the counts that were read for it. -/
structure TrayView where
  statusItem : String
  serverItem : String
  hubInfoItem : String
  startHub : Bool
  stopHub : Bool
  restartHub : Bool
  tooltip : String
  icon : TrayIcon
  /-- The theme that the event loop knows. -/
  theme : Option ThemeMode
  infoCount : Nat
  tipCount : Nat

/-- What a handler reads outside of `State`. -/
structure TrayReads where
  infoCount : Nat
  tipCount : Nat
  /-- The theme that a `ThemeChanged` carries. -/
  theme : Option ThemeMode

namespace TrayView

/-- A configuration with a `[hub]` section is loaded. -/
def hasHubSection (cfg : Option ClientConfig) : Bool :=
  cfg.any fun client => client.hub.isSome

/-- `update_hub_menu` -/
def updateHubMenu (view : TrayView) (tray : Tray) : TrayView :=
  let running := tray.embeddedHub.isSome
  { view with
    startHub := hasHubSection tray.cfg && !running
    stopHub := hasHubSection tray.cfg && running
    restartHub := hasHubSection tray.cfg && running }

/-- `update_status_item` -/
def updateStatusItem (view : TrayView) (tray : Tray) : TrayView :=
  { view with
    statusItem :=
      statusLabelWithHub tray.clientStatus tray.cfg.isSome
        tray.hubBindError }

/-- `update_server_item` -/
def updateServerItem (view : TrayView) (tray : Tray) : TrayView :=
  { view with serverItem := serverLabel tray.cfg }

/-- `update_hub_info_item` -/
def updateHubInfoItem
    (view : TrayView)
    (tray : Tray)
    (count : Nat) : TrayView :=
  { view with hubInfoItem := hubInfoLabel tray count, infoCount := count }

/-- `refresh_tooltip` -/
def refreshTooltip
    (configPath : String)
    (view : TrayView)
    (tray : Tray)
    (count : Nat) : TrayView :=
  { view with
    tooltip := tooltipText configPath tray count
    tipCount := count }

/-- `refresh_icon` -/
def refreshIcon (view : TrayView) (tray : Tray) : TrayView :=
  { view with
    icon :=
      buildIcon view.theme tray.clientStatus tray.hubBindError.isSome }

/-- What a start and a reload refresh. -/
def refreshAll
    (configPath : String)
    (reads : TrayReads)
    (view : TrayView)
    (tray : Tray) : TrayView :=
  -- the tooltip is refreshed by `apply_loaded_config`
  (((((view.refreshTooltip configPath tray reads.tipCount).updateHubMenu
    tray).updateStatusItem tray).updateServerItem tray).updateHubInfoItem
      tray reads.infoCount).refreshIcon tray

/-- What "Start hub" and "Restart hub" refresh. -/
def refreshHub
    (configPath : String)
    (reads : TrayReads)
    (view : TrayView)
    (tray : Tray) : TrayView :=
  ((((view.updateHubMenu tray).updateStatusItem tray).updateHubInfoItem tray
    reads.infoCount).refreshTooltip configPath tray
      reads.tipCount).refreshIcon tray

/-- What the handler of an event refreshes, with the state it leaves. -/
def react
    (configPath : String)
    (reads : TrayReads)
    (before after : Tray)
    (view : TrayView) : TrayEvent → TrayView
  | .startHub _ | .restartHub _ =>
      view.refreshHub configPath reads after
  | .stopHub =>
      ((view.updateHubMenu after).updateHubInfoItem after
        reads.infoCount).refreshIcon after
  | .reload _ _ =>
      view.refreshAll configPath reads after
  | .settingsExited _ _ =>
      (view.refreshAll configPath reads after).refreshTooltip configPath after
        reads.tipCount
  | .editConfig _ =>
      view
  | .supervisorExited generation =>
      if before.supervisor.isSome ∧ generation = before.supervisorGen then
        ((view.updateStatusItem after).refreshTooltip configPath after
          reads.tipCount).refreshIcon after
      else
        view
  | .hubExited generation =>
      if before.embeddedHub.isSome ∧ generation = before.embeddedHubGen then
        view.updateHubMenu after
      else
        view
  | .clientStatusChanged generation _ =>
      if generation = before.supervisorGen then
        (((view.updateStatusItem after).updateServerItem
          after).refreshTooltip configPath after reads.tipCount).refreshIcon
            after
      else
        view
  | .hubPeerCountChanged =>
      (view.updateHubInfoItem after reads.infoCount).refreshTooltip configPath
        after reads.tipCount
  | .themeChanged =>
      { view with theme := reads.theme }.refreshIcon after

/-- The widgets show the state of the tray. -/
structure Shows
    (configPath : String)
    (view : TrayView)
    (tray : Tray) : Prop where
  status :
    view.statusItem =
      statusLabelWithHub tray.clientStatus tray.cfg.isSome tray.hubBindError
  server : view.serverItem = serverLabel tray.cfg
  hubInfo : view.hubInfoItem = hubInfoLabel tray view.infoCount
  startHub :
    view.startHub = (hasHubSection tray.cfg && !tray.embeddedHub.isSome)
  stopHub :
    view.stopHub = (hasHubSection tray.cfg && tray.embeddedHub.isSome)
  restartHub :
    view.restartHub = (hasHubSection tray.cfg && tray.embeddedHub.isSome)
  icon :
    view.icon =
      buildIcon view.theme tray.clientStatus tray.hubBindError.isSome
  /-- The count of a hub may still be there when the hub is not. -/
  tooltip :
    view.tooltip = tooltipText configPath tray view.tipCount ∨
      tray.hubStats = none ∧
        view.tooltip =
          tooltipText configPath
            { tray with hubStats := some tray.embeddedHubGen } view.tipCount

variable {configPath : String} {reads : TrayReads} {view : TrayView}
  {tray next : Tray}

/-- After a start or a reload everything is up to date. -/
private theorem shows_refreshAll :
    (view.refreshAll configPath reads tray).Shows configPath tray where
  status := rfl
  server := rfl
  hubInfo := rfl
  startHub := rfl
  stopHub := rfl
  restartHub := rfl
  icon := rfl
  tooltip := .inl rfl

private theorem Shows.refreshHub
    (shows : view.Shows configPath tray)
    (cfg : next.cfg = tray.cfg) :
    (view.refreshHub configPath reads next).Shows configPath next where
  status := rfl
  server := by
    rw [cfg]
    exact shows.server
  hubInfo := rfl
  startHub := rfl
  stopHub := rfl
  restartHub := rfl
  icon := rfl
  tooltip := .inl rfl

private theorem Shows.refreshTooltip
    (shows : view.Shows configPath tray)
    (count : Nat) :
    (view.refreshTooltip configPath tray count).Shows configPath tray where
  status := shows.status
  server := shows.server
  hubInfo := shows.hubInfo
  startHub := shows.startHub
  stopHub := shows.stopHub
  restartHub := shows.restartHub
  icon := shows.icon
  tooltip := .inl rfl

end TrayView

namespace TrayHost

variable {configPath : String}

/-- The tray reads the count of a hub as long as it has its handle. -/
def CountsHub (host : TrayHost) : Prop :=
  host.tray.embeddedHub.isSome → host.tray.hubStats.isSome

/-- A start of the hub keeps the configuration, and counts the hub. -/
private theorem startEmbeddedHubWithCfg_keeps
    (bind : Except String UInt16)
    (host : TrayHost)
    (client : ClientConfig) :
    (host.startEmbeddedHubWithCfg configPath bind client).1.tray.cfg =
        host.tray.cfg ∧
      (host.CountsHub →
        (host.startEmbeddedHubWithCfg configPath bind client).1.CountsHub) := by
  unfold startEmbeddedHubWithCfg
  split
  · exact ⟨rfl, id⟩
  · split
    · exact ⟨rfl, id⟩
    · exact ⟨rfl, fun _ _ => rfl⟩

/-- So does a start of the hub from the menu. -/
private theorem startEmbeddedHub_keeps
    (bind : Except String UInt16)
    (host : TrayHost) :
    (host.startEmbeddedHub configPath bind).tray.cfg = host.tray.cfg ∧
      (host.CountsHub →
        (host.startEmbeddedHub configPath bind).CountsHub) := by
  unfold startEmbeddedHub
  split
  · exact ⟨rfl, id⟩
  · exact startEmbeddedHubWithCfg_keeps bind host _

private theorem CountsHub.applyLoadedConfig
    {host : TrayHost}
    (counts : host.CountsHub)
    (bind : Except String UInt16) :
    (host.applyLoadedConfig configPath bind).CountsHub := by
  unfold TrayHost.applyLoadedConfig
  split
  · exact counts
  · split
    · exact (startEmbeddedHubWithCfg_keeps bind host _).2 counts
    · exact counts

private theorem CountsHub.handleEvent
    {host : TrayHost}
    (counts : host.CountsHub)
    (event : TrayEvent) :
    (host.handleEvent configPath event).CountsHub := by
  have nothing (after : TrayHost) (none : after.tray.embeddedHub = none) :
      after.CountsHub := by
    intro there
    rw [none] at there
    cases there
  cases event with
  | startHub bind =>
      exact (startEmbeddedHub_keeps bind host).2 counts
  | stopHub =>
      exact nothing _ rfl
  | restartHub bind =>
      exact (startEmbeddedHub_keeps bind _).2 (nothing _ rfl)
  | reload loaded bind =>
      exact CountsHub.applyLoadedConfig (nothing _ rfl) bind
  | settingsExited loaded bind =>
      exact CountsHub.applyLoadedConfig (nothing _ rfl) bind
  | editConfig launched =>
      exact counts
  | supervisorExited generation =>
      simp only [TrayHost.handleEvent]
      split <;> exact counts
  | hubExited generation =>
      simp only [TrayHost.handleEvent]
      split
      · exact nothing _ rfl
      · exact counts
  | clientStatusChanged generation status =>
      simp only [TrayHost.handleEvent]
      split <;> exact counts
  | hubPeerCountChanged =>
      exact counts
  | themeChanged =>
      exact counts

end TrayHost

namespace TrayView

variable {configPath : String}

/-- Each handler refreshes what it changes, but for the tooltip. -/
private theorem Shows.react
    {view : TrayView}
    {host : TrayHost}
    (shows : view.Shows configPath host.tray)
    (counts : host.CountsHub)
    (reads : TrayReads)
    (event : TrayEvent) :
    (view.react configPath reads host.tray
        (host.handleEvent configPath event).tray event).Shows configPath
      (host.handleEvent configPath event).tray := by
  cases event with
  | startHub bind =>
      exact shows.refreshHub (TrayHost.startEmbeddedHub_keeps bind host).1
  | stopHub =>
      refine ⟨shows.status, shows.server, rfl, rfl, rfl, rfl, rfl, ?_⟩
      rcases shows.tooltip with upToDate | ⟨-, stale⟩
      · cases counted : host.tray.hubStats with
        | none =>
            left
            rw [tooltipText, counted] at upToDate
            exact upToDate
        | some generation =>
            -- the tooltip still counts the hub that has been stopped
            refine .inr ⟨rfl, ?_⟩
            rw [tooltipText, counted] at upToDate
            exact upToDate
      · exact .inr ⟨rfl, stale⟩
  | restartHub bind =>
      exact shows.refreshHub
        (TrayHost.startEmbeddedHub_keeps bind host.stopEmbeddedHub).1
  | reload loaded bind =>
      exact shows_refreshAll
  | settingsExited loaded bind =>
      exact shows_refreshAll.refreshTooltip reads.tipCount
  | editConfig launched =>
      exact ⟨shows.status, shows.server, shows.hubInfo, shows.startHub,
        shows.stopHub, shows.restartHub, shows.icon, shows.tooltip⟩
  | supervisorExited generation =>
      simp only [TrayHost.handleEvent, TrayView.react]
      split
      · exact ⟨rfl, shows.server, shows.hubInfo, shows.startHub,
          shows.stopHub, shows.restartHub, rfl, .inl rfl⟩
      · exact shows
  | hubExited generation =>
      simp only [TrayHost.handleEvent, TrayView.react]
      split
      · rename_i isCurrent
        refine ⟨shows.status, shows.server, ?_, rfl, rfl, rfl, shows.icon,
          shows.tooltip⟩
        -- the count is still there, so the label does not change
        have counted := counts isCurrent.1
        refine shows.hubInfo.trans (hubInfoLabel_congr ?_ counted _)
        rfl
      · exact shows
  | clientStatusChanged generation status =>
      simp only [TrayHost.handleEvent, TrayView.react]
      split
      · exact ⟨rfl, rfl, shows.hubInfo, shows.startHub, shows.stopHub,
          shows.restartHub, rfl, .inl rfl⟩
      · exact shows
  | hubPeerCountChanged =>
      exact ⟨shows.status, shows.server, rfl, shows.startHub, shows.stopHub,
        shows.restartHub, shows.icon, .inl rfl⟩
  | themeChanged =>
      exact ⟨shows.status, shows.server, shows.hubInfo, shows.startHub,
        shows.stopHub, shows.restartHub, rfl, shows.tooltip⟩

end TrayView

/-- The tray with its hubs, and what it shows. -/
structure TrayScreen where
  host : TrayHost
  view : TrayView

namespace TrayScreen

/-- `run` up to the event loop. -/
def start
    (configPath : String)
    (initial : Option ClientConfig)
    (bind : Except String UInt16)
    (reads : TrayReads) : TrayScreen :=
  let host := TrayHost.start configPath initial bind
  { host := host
    view :=
      ({ statusItem := statusLabelWithHub none false none
         serverItem := serverLabel initial
         hubInfoItem := ""
         startHub := false
         stopHub := false
         restartHub := false
         tooltip :=
           match initial with
           | some client =>
               "clipboardwire — " ++ client.server
           | none =>
               "clipboardwire — needs config (right-click → Edit config)\n" ++
                 configPath
         icon := buildIcon reads.theme none false
         theme := reads.theme
         infoCount := 0
         tipCount := 0 } : TrayView).refreshAll configPath reads host.tray }

/-- One step of the tray and the hubs, with what its handler reads. -/
def step?
    (fromStr : String → Option Frame)
    (configPath : String)
    (screen : TrayScreen)
    (action : TrayAction × TrayReads) : Option TrayScreen :=
  (screen.host.step? fromStr configPath action.1).map fun host =>
    { host := host
      view :=
        match action.1 with
        | .event event =>
            screen.view.react configPath action.2 screen.host.tray host.tray
              event
        | .serveStarts _ _ | .accept _ _ | .disconnect _ _
        | .connection _ _ =>
            screen.view }

variable {fromStr : String → Option Frame} {configPath : String}

private theorem shows_start
    (initial : Option ClientConfig)
    (bind : Except String UInt16)
    (reads : TrayReads) :
    (start configPath initial bind reads).view.Shows configPath
        (start configPath initial bind reads).host.tray ∧
      (start configPath initial bind reads).host.CountsHub :=
  ⟨TrayView.shows_refreshAll,
    TrayHost.CountsHub.applyLoadedConfig (fun there => by cases there) bind⟩

private theorem shows_step
    {screen next : TrayScreen}
    {action : TrayAction × TrayReads}
    (shows : screen.view.Shows configPath screen.host.tray)
    (counts : screen.host.CountsHub)
    (stepped : screen.step? fromStr configPath action = some next) :
    next.view.Shows configPath next.host.tray ∧ next.host.CountsHub := by
  obtain ⟨action, reads⟩ := action
  obtain ⟨host, moved, rfl⟩ := Option.map_eq_some_iff.mp stepped
  have aside (same : host.tray = screen.host.tray) :
      screen.view.Shows configPath host.tray ∧ host.CountsHub := by
    rw [TrayHost.CountsHub, same]
    exact ⟨shows, counts⟩
  cases action with
  | event event =>
      simp only [TrayHost.step?] at moved
      split at moved
      · cases moved
        exact ⟨shows.react counts reads event, counts.handleEvent event⟩
      · cases moved
  | serveStarts generation succeeds =>
      exact aside (PolledHost.tray_of_hubStep moved).1
  | accept generation id =>
      exact aside (PolledHost.tray_of_hubStep moved).1
  | disconnect generation id =>
      exact aside (PolledHost.tray_of_hubStep moved).1
  | connection generation action =>
      exact aside (PolledHost.tray_of_hubStep moved).1

/--
The tray shows its state.  In every run of the tray and its hubs, whatever the
events are and whichever of them are outdated: after every step the status
line, the server line, the hub line, the three hub items and the icon are
those of the current state, each count the one last read for it.  So is the
tooltip, or there is no hub any more and the tooltip is the one of the same
state with a hub.
-/
theorem shows_state
    {initial : Option ClientConfig}
    {bind : Except String UInt16}
    {reads : TrayReads}
    {actions : List (TrayAction × TrayReads)}
    {screen : TrayScreen}
    (ran :
      StepRun.run? (step? fromStr configPath)
        (start configPath initial bind reads) actions = some screen) :
    screen.view.Shows configPath screen.host.tray :=
  (StepRun.run?_invariant
    (motive := fun screen =>
      screen.view.Shows configPath screen.host.tray ∧ screen.host.CountsHub)
    (shows_start initial bind reads)
    (fun holds stepped => shows_step holds.1 holds.2 stepped) ran).1

/-- Nobody is connected, and the theme is dark. -/
private def quietReads : TrayReads :=
  ⟨0, 0, some .dark⟩

/-- The tray of a configuration with a hub, before its event loop. -/
private def hubScreen : TrayScreen :=
  start "config.toml" (some TrayHost.hubOwner) (.ok 8484) quietReads

/-- The client connects, the hub is stopped, and the theme changes. -/
private def stoppedHub : List (TrayAction × TrayReads) :=
  [(.event (.clientStatusChanged 1 .connected), ⟨1, 1, none⟩),
    (.event .stopHub, quietReads),
    (.event .themeChanged, ⟨0, 0, some .light⟩)]

/-- What is shown at the end of the sample. -/
private def stoppedScreen : TrayScreen :=
  (StepRun.run? (step? (fun _ => none) "config.toml") hubScreen
    stoppedHub).getD hubScreen

/-- The tooltip still has the client of the hub that was stopped. -/
theorem shows_state_sample :
    stoppedScreen.host.tray.hubStats = none ∧
      stoppedScreen.view.tooltip =
        "clipboardwire — connected\n" ++ TrayHost.hubOwner.server ++
          "\nhub running (1 client connected)" ∧
      stoppedScreen.view.Shows "config.toml" stoppedScreen.host.tray :=
  ⟨by decide +kernel, by decide +kernel,
    shows_state
      (StepRun.run?_getD
        (show (StepRun.run? (step? (fun _ => none) "config.toml") hubScreen
          stoppedHub).isSome = true by decide +kernel) hubScreen)⟩

end TrayScreen

end ClipboardWire
