import ClipboardWire.HubLifetime

namespace ClipboardWire

/-!
# What the tray knows about its tasks

Nine handlers set and clear the fields of `State` that go with the supervisor
and with the embedded hub.  The fields agree after every event exactly in the
runs without three kinds of events: a status of the last supervisor that comes
when there is none any more, the exit of the current hub, and a start of the
hub while there is one.

Every start of a hub spawns a poller, which goes on until it is aborted.  The
tray has the handle of the last one.
-/

namespace TrayHost

/-- The events whose handlers abort the poller of the tray. -/
def abortsPoller : TrayEvent → Bool
  | .stopHub | .restartHub _ | .reload _ _ | .settingsExited _ _ => true
  | _ => false

/--
No status of the last supervisor comes when there is none, the current hub
does not exit, and no hub is started while there is one.
-/
def Orderly (host : TrayHost) : TrayAction → Prop
  | .event (.clientStatusChanged generation _) =>
      generation = host.tray.supervisorGen → host.tray.supervisor.isSome
  | .event (.hubExited generation) =>
      host.Sent (.hubExited generation) →
        host.tray.embeddedHub.isSome →
          generation ≠ host.tray.embeddedHubGen
  | .event (.startHub (.ok _)) =>
      (host.tray.cfg.bind ClientConfig.hub).isSome →
        host.tray.embeddedHub = none
  | _ =>
      True

end TrayHost

/-- The tray with its hubs, the pollers it has aborted, and whether it quit. -/
structure PolledHost where
  host : TrayHost
  abortedPollers : List Nat
  quit : Bool

/-- A step of the tray and its hubs, or the menu item "Quit". -/
inductive PolledAction where
  | host (action : TrayAction)
  | quit

namespace PolledHost

/-- `run` up to the event loop. -/
def start
    (configPath : String)
    (initial : Option ClientConfig)
    (bind : Except String UInt16) :
    PolledHost where
  host := TrayHost.start configPath initial bind
  abortedPollers := []
  quit := false

/-- The poller that the tray has the handle of is aborted as well. -/
def abortPoller (polled : PolledHost) : List Nat :=
  polled.abortedPollers ++ polled.host.tray.hubStatsPoller.toList

/-- One step; after "Quit" there is no further one. -/
def step?
    (fromStr : String → Option Frame)
    (configPath : String)
    (polled : PolledHost)
    (action : PolledAction) :
    Option PolledHost :=
  if polled.quit then
    none
  else
    match action with
    | .host (.event event) =>
        (polled.host.step? fromStr configPath (.event event)).map fun next =>
          { polled with
            host := next
            abortedPollers :=
              if TrayHost.abortsPoller event then
                polled.abortPoller
              else
                polled.abortedPollers }
    | .host action =>
        (polled.host.step? fromStr configPath action).map fun next =>
          { polled with host := next }
    | .quit =>
        some
          { host := polled.host.abortRunning
            abortedPollers := polled.abortPoller
            quit := true }

/-- The poller of a hub has been spawned and not been aborted. -/
def Polls (polled : PolledHost) (generation : Nat) : Prop :=
  (polled.host.hubs generation).isSome ∧ generation ∉ polled.abortedPollers

/-- The fields of the tray agree about its tasks. -/
structure Consistent (polled : PolledHost) : Prop where
  status :
    polled.host.tray.supervisor = none →
    polled.host.tray.clientStatus = none
  stats :
    polled.host.tray.hubStats.isSome ↔ polled.host.tray.embeddedHub.isSome
  poller :
    polled.host.tray.hubStatsPoller.isSome ↔
      polled.host.tray.embeddedHub.isSome
  single :
    ∀ first second,
      polled.Polls first → polled.Polls second → first = second

/-- A step leaves the tray consistent. -/
def StaysConsistent
    (fromStr : String → Option Frame)
    (configPath : String)
    (polled : PolledHost)
    (action : PolledAction) :
    Prop :=
  ∀ next,
    polled.step? fromStr configPath action = some next → next.Consistent

/-- A step of the tray that has not quit is an orderly one. -/
def Orderly (polled : PolledHost) : PolledAction → Prop
  | .host action => polled.quit = false → polled.host.Orderly action
  | .quit => True

end PolledHost

namespace TrayHost

/-- The handles of the hub belong together, and no other poller goes on. -/
structure Tidy (host : TrayHost) (aborted : List Nat) : Prop where
  status : host.tray.supervisor = none → host.tray.clientStatus = none
  stats : host.tray.hubStats = host.tray.embeddedHub
  poller : host.tray.hubStatsPoller = host.tray.embeddedHub
  polls :
    ∀ generation,
      (host.hubs generation).isSome ∧ generation ∉ aborted ↔
        host.tray.embeddedHub = some generation
  fresh :
    ∀ generation,
      (host.hubs generation).isSome → generation ≤ host.tray.embeddedHubGen
  old : ∀ generation ∈ aborted, generation ≤ host.tray.embeddedHubGen

variable {host : TrayHost} {aborted : List Nat} {configPath : String}

/-- Aborting a hub keeps the record of it. -/
theorem isSome_hubs_abortHub (host : TrayHost) (generation : Nat) :
    (host.abortHub.hubs generation).isSome =
      (host.hubs generation).isSome := by
  unfold abortHub
  split
  · rfl
  · rename_i current handle
    by_cases same : generation = current
    · subst same
      simp
    · simp [Function.update_of_ne same]

theorem Tidy.congr
    {next : TrayHost}
    (tidy : host.Tidy aborted)
    (hubs : ∀ generation,
      (next.hubs generation).isSome = (host.hubs generation).isSome)
    (status :
      next.tray.supervisor = none → next.tray.clientStatus = none)
    (stats : next.tray.hubStats = host.tray.hubStats)
    (poller : next.tray.hubStatsPoller = host.tray.hubStatsPoller)
    (embeddedHub : next.tray.embeddedHub = host.tray.embeddedHub)
    (embeddedHubGen :
      next.tray.embeddedHubGen = host.tray.embeddedHubGen) :
    next.Tidy aborted where
  status := status
  stats := by
    rw [stats, embeddedHub]
    exact tidy.stats
  poller := by
    rw [poller, embeddedHub]
    exact tidy.poller
  polls := by
    intro generation
    rw [hubs, embeddedHub]
    exact tidy.polls generation
  fresh := by
    intro generation
    rw [hubs, embeddedHubGen]
    exact tidy.fresh generation
  old := by
    rw [embeddedHubGen]
    exact tidy.old

theorem Tidy.stop
    {tray : Tray}
    (tidy : host.Tidy aborted)
    (status : tray.supervisor = none → tray.clientStatus = none)
    (stats : tray.hubStats = none)
    (poller : tray.hubStatsPoller = none)
    (embeddedHub : tray.embeddedHub = none)
    (embeddedHubGen : tray.embeddedHubGen = host.tray.embeddedHubGen) :
    Tidy { host.abortHub with tray := tray }
      (aborted ++ host.tray.hubStatsPoller.toList) where
  status := status
  stats := stats.trans embeddedHub.symm
  poller := poller.trans embeddedHub.symm
  polls := by
    intro generation
    simp only [isSome_hubs_abortHub, embeddedHub, reduceCtorEq, iff_false]
    rintro ⟨known, notAborted⟩
    have polls :=
      (tidy.polls generation).mp
        ⟨known, fun earlier => notAborted (List.mem_append_left _ earlier)⟩
    refine notAborted (List.mem_append_right _ ?_)
    rw [tidy.poller, polls]
    exact List.mem_singleton_self generation
  fresh := by
    intro generation known
    simp only [isSome_hubs_abortHub] at known
    exact embeddedHubGen ▸ tidy.fresh generation known
  old := by
    intro generation member
    simp only [embeddedHubGen]
    rcases List.mem_append.mp member with earlier | isPoller
    · exact tidy.old generation earlier
    · rw [Option.mem_toList, tidy.poller] at isPoller
      exact tidy.fresh generation ((tidy.polls generation).mpr isPoller).1

/-- A hub is started when there is none. -/
theorem Tidy.startEmbeddedHubWithCfg
    {bind : Except String UInt16}
    {client : ClientConfig}
    (tidy : host.Tidy aborted)
    (noHub :
      ∀ port,
        bind = .ok port →
        client.hub.isSome →
        host.tray.embeddedHub = none) :
    (TrayHost.startEmbeddedHubWithCfg configPath bind host client).1.Tidy
      aborted := by
  unfold TrayHost.startEmbeddedHubWithCfg
  cases hasHub : client.hub with
  | none =>
      exact tidy
  | some hubConfig =>
      cases bind with
      | error reason =>
          exact tidy.congr (fun _ => rfl) tidy.status rfl rfl rfl rfl
      | ok port =>
          have nonePolls (generation : Nat) :
              ¬ ((host.hubs generation).isSome ∧
                generation ∉ aborted) := by
            rw [tidy.polls generation,
              noHub port rfl (by rw [hasHub, Option.isSome_some])]
            exact nofun
          constructor
          · exact tidy.status
          · rfl
          · rfl
          · intro generation
            by_cases isNew : generation = host.tray.embeddedHubGen + 1
            · subst isNew
              have notAborted : host.tray.embeddedHubGen + 1 ∉ aborted := by
                intro member
                have bound := tidy.old _ member
                omega
              simp [setHub, notAborted]
            · simp only [setHub, Function.update_of_ne isNew,
                Option.some.injEq]
              exact iff_of_false (nonePolls generation) (Ne.symm isNew)
          · intro generation known
            by_cases isNew : generation = host.tray.embeddedHubGen + 1
            · exact isNew.le
            · simp only [setHub, Function.update_of_ne isNew] at known
              exact Nat.le_succ_of_le (tidy.fresh generation known)
          · intro generation member
            exact Nat.le_succ_of_le (tidy.old generation member)

/-- The configuration is applied when nothing runs. -/
theorem Tidy.applyLoadedConfig
    (bind : Except String UInt16)
    (tidy : host.Tidy aborted)
    (noHub : host.tray.embeddedHub = none) :
    (host.applyLoadedConfig configPath bind).Tidy aborted := by
  unfold TrayHost.applyLoadedConfig
  cases loaded : host.tray.cfg with
  | none =>
      exact tidy
  | some client =>
      simp only
      split
      · exact (tidy.startEmbeddedHubWithCfg fun _ _ _ => noHub).congr
          (fun _ => rfl) (fun gone => nomatch gone) rfl rfl rfl rfl
      · exact tidy.congr (fun _ => rfl) (fun gone => nomatch gone) rfl rfl rfl
          rfl

theorem tidy_start
    (configPath : String)
    (initial : Option ClientConfig)
    (bind : Except String UInt16) :
    (start configPath initial bind).Tidy [] := by
  refine Tidy.applyLoadedConfig bind ?_ rfl
  constructor
  · exact fun _ => rfl
  · rfl
  · rfl
  · simp
  · simp
  · simp

/-- The hub is started from the menu. -/
theorem Tidy.startEmbeddedHub
    {bind : Except String UInt16}
    (tidy : host.Tidy aborted)
    (noHub :
      ∀ port,
        bind = .ok port →
        (host.tray.cfg.bind ClientConfig.hub).isSome →
        host.tray.embeddedHub = none) :
    (host.startEmbeddedHub configPath bind).Tidy aborted := by
  unfold TrayHost.startEmbeddedHub
  cases loaded : host.tray.cfg with
  | none =>
      exact tidy
  | some client =>
      refine tidy.startEmbeddedHubWithCfg ?_
      intro port isOk hasHub
      exact noHub port isOk (by rw [loaded]; exact hasHub)

/-- Everything is stopped, and the configuration is loaded and applied. -/
theorem Tidy.reload
    (loaded : Option ClientConfig)
    (bind : Except String UInt16)
    (tidy : host.Tidy aborted) :
    (host.reload configPath loaded bind).Tidy
      (aborted ++ host.tray.hubStatsPoller.toList) := by
  have stopped :
      host.abortRunning.Tidy (aborted ++ host.tray.hubStatsPoller.toList) :=
    tidy.stop (fun _ => rfl) rfl rfl rfl rfl
  refine Tidy.applyLoadedConfig bind ?_ rfl
  exact stopped.congr (fun _ => rfl) (fun _ => rfl) rfl rfl rfl rfl

/-- The hub is stopped from the menu. -/
theorem Tidy.stopEmbeddedHub (tidy : host.Tidy aborted) :
    host.stopEmbeddedHub.Tidy
      (aborted ++ host.tray.hubStatsPoller.toList) :=
  tidy.stop tidy.status rfl rfl rfl rfl

/-- An orderly event leaves the tray tidy. -/
theorem Tidy.handleEvent
    {event : TrayEvent}
    (tidy : host.Tidy aborted)
    (orderly : host.Orderly (.event event))
    (sent : host.Sent event) :
    (host.handleEvent configPath event).Tidy
      (if abortsPoller event then
        aborted ++ host.tray.hubStatsPoller.toList
      else
        aborted) := by
  cases event with
  | startHub bind =>
      refine tidy.startEmbeddedHub ?_
      rintro port rfl hasHub
      exact orderly hasHub
  | stopHub =>
      exact tidy.stopEmbeddedHub
  | restartHub bind =>
      exact tidy.stopEmbeddedHub.startEmbeddedHub fun _ _ _ => rfl
  | reload loaded bind =>
      exact tidy.reload loaded bind
  | settingsExited loaded bind =>
      have closed :
          Tidy
            { host with tray := { host.tray with settingsAlive := false } }
            aborted :=
        tidy.congr (fun _ => rfl) tidy.status rfl rfl rfl rfl
      exact closed.reload loaded bind
  | editConfig launched =>
      exact tidy.congr (fun _ => rfl) tidy.status rfl rfl rfl rfl
  | supervisorExited generation =>
      simp only [TrayHost.handleEvent]
      split
      · exact tidy.congr (fun _ => rfl) (fun _ => rfl) rfl rfl rfl rfl
      · exact tidy
  | hubExited generation =>
      simp only [TrayHost.handleEvent]
      split
      · rename_i isCurrent
        exact (orderly sent isCurrent.1 isCurrent.2).elim
      · exact tidy
  | clientStatusChanged generation status =>
      simp only [TrayHost.handleEvent]
      split
      · rename_i isLast
        refine tidy.congr (fun _ => rfl) ?_ rfl rfl rfl rfl
        intro noSupervisor
        have running := orderly isLast
        simp only at noSupervisor
        rw [noSupervisor] at running
        cases running
      · exact tidy
  | hubPeerCountChanged =>
      exact tidy
  | themeChanged =>
      exact tidy

end TrayHost

namespace PolledHost

open TrayHost

variable {fromStr : String → Option Frame} {configPath : String}
  {polled next : PolledHost}

/-- The tray and its pollers are tidy. -/
def IsTidy (polled : PolledHost) : Prop :=
  polled.host.Tidy polled.abortedPollers

/-- A tidy tray is consistent. -/
theorem IsTidy.consistent (tidy : polled.IsTidy) : polled.Consistent where
  status := tidy.status
  stats := by
    rw [tidy.stats]
  poller := by
    rw [tidy.poller]
  single := by
    intro first second polls alsoPolls
    have isFirst := (tidy.polls first).mp polls
    rw [(tidy.polls second).mp alsoPolls, Option.some.injEq] at isFirst
    exact isFirst.symm

/-- A step of a hub is none of the tray. -/
theorem tray_of_hubStep
    {host after : TrayHost}
    {generation : Nat}
    {action : TrayAction}
    (stepped :
      ((host.hubs generation).bind fun hub =>
        (hubStep? fromStr hub action).map (host.setHub generation)) =
        some after) :
    after.tray = host.tray ∧
      ∀ other, (after.hubs other).isSome = (host.hubs other).isSome := by
  obtain ⟨hub, known, moved⟩ := Option.bind_eq_some_iff.mp stepped
  obtain ⟨changed, -, rfl⟩ := Option.map_eq_some_iff.mp moved
  refine ⟨rfl, fun other => ?_⟩
  by_cases same : other = generation
  · subst same
    simp [setHub, known]
  · simp [setHub, Function.update_of_ne same]

theorem IsTidy.step
    {action : PolledAction}
    (tidy : polled.IsTidy)
    (orderly : polled.Orderly action)
    (stepped : polled.step? fromStr configPath action = some next) :
    next.IsTidy := by
  unfold step? at stepped
  split at stepped
  · cases stepped
  · rename_i running
    have hubStepped
        {generation : Nat}
        {hubAction : TrayAction}
        {after : TrayHost}
        (moved :
          ((polled.host.hubs generation).bind fun hub =>
            (hubStep? fromStr hub hubAction).map
              (polled.host.setHub generation)) =
            some after) :
        after.Tidy polled.abortedPollers := by
      obtain ⟨tray, hubs⟩ := tray_of_hubStep moved
      exact tidy.congr hubs (by rw [tray]; exact tidy.status)
        (by rw [tray]) (by rw [tray]) (by rw [tray]) (by rw [tray])
    cases action with
    | quit =>
        cases stepped
        exact Tidy.stop tidy (fun _ => rfl) rfl rfl rfl rfl
    | host action =>
        cases action with
        | event event =>
            obtain ⟨after, moved, rfl⟩ := Option.map_eq_some_iff.mp stepped
            simp only [TrayHost.step?] at moved
            split at moved
            · rename_i sent
              cases moved
              exact Tidy.handleEvent tidy
                (orderly (Bool.eq_false_iff.mpr running)) sent
            · cases moved
        | serveStarts generation succeeds =>
            obtain ⟨after, moved, rfl⟩ := Option.map_eq_some_iff.mp stepped
            exact hubStepped moved
        | accept generation id =>
            obtain ⟨after, moved, rfl⟩ := Option.map_eq_some_iff.mp stepped
            exact hubStepped moved
        | disconnect generation id =>
            obtain ⟨after, moved, rfl⟩ := Option.map_eq_some_iff.mp stepped
            exact hubStepped moved
        | connection generation action =>
            obtain ⟨after, moved, rfl⟩ := Option.map_eq_some_iff.mp stepped
            exact hubStepped moved

/-- The step that an event takes. -/
theorem step?_event
    {event : TrayEvent}
    (running : polled.quit = false)
    (sent : polled.host.Sent event) :
    polled.step? fromStr configPath (.host (.event event)) =
      some
        { polled with
          host := polled.host.handleEvent configPath event
          abortedPollers :=
            if abortsPoller event then
              polled.abortPoller
            else
              polled.abortedPollers } := by
  simp [step?, running, TrayHost.step?, sent]

/-- A hub that is started beside another one leaves two pollers. -/
theorem not_consistent_of_started
    {client : ClientConfig}
    {hubConfig : HubConfig}
    {generation : Nat}
    {port : UInt16}
    (tidy : polled.IsTidy)
    (loaded : polled.host.tray.cfg = some client)
    (hasHub : client.hub = some hubConfig)
    (current : polled.host.tray.embeddedHub = some generation) :
    ¬ Consistent
        { polled with
          host := polled.host.startEmbeddedHub configPath (.ok port) } := by
  intro consistent
  obtain ⟨known, notAborted⟩ := (tidy.polls generation).mpr current
  have bound := tidy.fresh generation known
  have notAbortedNew :
      polled.host.tray.embeddedHubGen + 1 ∉ polled.abortedPollers := by
    intro member
    have earlier := tidy.old _ member
    omega
  have different : generation ≠ polled.host.tray.embeddedHubGen + 1 := by
    omega
  refine different
    (consistent.single _ _ ⟨?_, notAborted⟩ ⟨?_, notAbortedNew⟩)
  · simpa [startEmbeddedHub, loaded, startEmbeddedHubWithCfg, hasHub, setHub,
      Function.update_of_ne different] using known
  · simp [startEmbeddedHub, loaded, startEmbeddedHubWithCfg, hasHub, setHub]

/-- A step that leaves the tray consistent is orderly. -/
theorem IsTidy.orderly
    {action : PolledAction}
    (tidy : polled.IsTidy)
    (stays : polled.StaysConsistent fromStr configPath action) :
    polled.Orderly action := by
  cases action with
  | quit =>
      trivial
  | host action =>
      intro running
      cases action with
      | event event =>
          have consistent (sent : polled.host.Sent event) :=
            stays _ (step?_event running sent)
          cases event with
          | startHub bind =>
              cases bind with
              | error reason =>
                  trivial
              | ok port =>
                  intro hasHub
                  obtain ⟨hubConfig, found⟩ :=
                    Option.isSome_iff_exists.mp hasHub
                  obtain ⟨client, loaded, hasHub⟩ :=
                    Option.bind_eq_some_iff.mp found
                  by_contra present
                  obtain ⟨generation, current⟩ :=
                    Option.ne_none_iff_exists'.mp present
                  exact not_consistent_of_started tidy loaded hasHub current
                    (consistent trivial)
          | hubExited generation =>
              intro sent present isCurrent
              have stats := (consistent sent).stats
              have handled :
                  polled.host.handleEvent configPath (.hubExited generation) =
                    { polled.host with
                      tray := { polled.host.tray with embeddedHub := none } } :=
                if_pos ⟨present, isCurrent⟩
              simp only [handled, tidy.stats, present] at stats
              exact absurd (stats.mp trivial) (by simp)
          | clientStatusChanged generation status =>
              intro isLast
              have cleared := (consistent trivial).status
              have handled :
                  polled.host.handleEvent configPath
                      (.clientStatusChanged generation status) =
                    { polled.host with
                      tray :=
                        { polled.host.tray with
                          clientStatus := some status } } :=
                if_pos isLast
              simp only [handled] at cleared
              rw [Option.isSome_iff_ne_none]
              intro noSupervisor
              cases cleared noSupervisor
          | _ =>
              trivial
      | _ =>
          trivial

/--
Consistency of the tray.  It is consistent before the event loop; and in every
run, each step leaves it consistent if and only if each step is orderly.
-/
theorem staysConsistent_along_iff
    (fromStr : String → Option Frame)
    (configPath : String)
    (initial : Option ClientConfig)
    (bind : Except String UInt16)
    (actions : List PolledAction) :
    (start configPath initial bind).Consistent ∧
      (StepRun.Along (step? fromStr configPath)
          (StaysConsistent fromStr configPath) (start configPath initial bind)
          actions ↔
        StepRun.Along (step? fromStr configPath) Orderly
          (start configPath initial bind) actions) := by
  have tidy : (start configPath initial bind).IsTidy :=
    tidy_start configPath initial bind
  refine ⟨tidy.consistent, ?_⟩
  refine StepRun.Along.congr_of_kept (motive := IsTidy) tidy ?_ ?_
  · intro polled action _ isTidy
    constructor
    · exact isTidy.orderly
    · exact fun orderly next stepped =>
        (isTidy.step orderly stepped).consistent
  · exact fun _ isTidy orderly stepped => isTidy.step orderly stepped

/-- If each step leaves the tray consistent, so does the last one. -/
theorem consistent_of_along
    {initial : PolledHost}
    (past : List PolledAction)
    {action : PolledAction}
    (along :
      StepRun.Along (step? fromStr configPath)
        (StaysConsistent fromStr configPath) initial (past ++ [action]))
    (ran :
      StepRun.run? (step? fromStr configPath) initial (past ++ [action]) =
        some polled) :
    polled.Consistent := by
  obtain ⟨middle, earlier, last⟩ := StepRun.run?_snoc_eq_some.mp ran
  exact along.meets (List.prefix_refl _) earlier polled last

/-- The tray of a configuration with a hub, before its event loop. -/
def ownPolledHost : PolledHost :=
  start "config.toml" (some TrayHost.hubOwner) (.ok 8484)

/-- A step of that tray. -/
abbrev sampleStep? : PolledHost → PolledAction → Option PolledHost :=
  step? (fun _ => none) "config.toml"

/-- The supervisor ends, and its last status comes behind. -/
def lateStatus : List PolledAction :=
  [.host (.event (.supervisorExited 1)),
    .host (.event (.clientStatusChanged 1 .connecting))]

/-- The hub fails while the tray has its handle. -/
def failedHub : List PolledAction :=
  [.host (.serveStarts 1 false), .host (.event (.hubExited 1))]

/-- "Start hub" is clicked although the hub runs. -/
def secondStart : List PolledAction :=
  [.host (.event (.startHub (.ok 8485)))]

/-- Each of the three runs leaves the tray inconsistent. -/
theorem late_events_not_consistent :
    ¬ StepRun.Along sampleStep?
          (StaysConsistent (fun _ => none) "config.toml") ownPolledHost
          lateStatus ∧
      ¬ StepRun.Along sampleStep?
          (StaysConsistent (fun _ => none) "config.toml") ownPolledHost
          failedHub ∧
      ¬ StepRun.Along sampleStep?
          (StaysConsistent (fun _ => none) "config.toml") ownPolledHost
          secondStart := by
  refine ⟨fun along => ?_, fun along => ?_, fun along => ?_⟩
  · have consistent :=
      consistent_of_along [.host (.event (.supervisorExited 1))] along
        (StepRun.run?_getD (by decide +kernel) ownPolledHost)
    exact absurd (consistent.status (by decide +kernel)) (by decide +kernel)
  · have consistent :=
      consistent_of_along [.host (.serveStarts 1 false)] along
        (StepRun.run?_getD (by decide +kernel) ownPolledHost)
    exact absurd (consistent.stats.mp (by decide +kernel)) (by decide +kernel)
  · have consistent :=
      consistent_of_along [] along
        (StepRun.run?_getD (by decide +kernel) ownPolledHost)
    exact absurd
      (consistent.single 1 2 ⟨by decide +kernel, by decide +kernel⟩
        ⟨by decide +kernel, by decide +kernel⟩)
      (by decide)

end PolledHost

end ClipboardWire
