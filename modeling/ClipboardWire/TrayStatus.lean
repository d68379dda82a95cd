import ClipboardWire.StepRun
import ClipboardWire.TransportStatus
import ClipboardWire.TrayConsistency
import ClipboardWire.WatchChannel

namespace ClipboardWire

open WatchChannel

/-!
# From the transport task to the status line

A status goes from the transport task of a supervisor through a watch channel
to a forwarder task, from there as a user event into the queue of the event
loop, and is shown if its generation is still the current one.  Supervisors
are aborted and replaced meanwhile, and every task runs on its own.
-/

/-- The task that turns the changes of the watch into user events. -/
inductive Forwarder where
  | starting
  /-- A status has been read and is about to be sent to the event loop. -/
  | sending (status : ClientStatus)
  | waiting
  | ended
  deriving DecidableEq, Repr

/-- The status that a forwarder is about to send. -/
def Forwarder.inHand : Forwarder → List ClientStatus
  | .sending status => [status]
  | .starting | .waiting | .ended => []

/-- The task that runs `run_with_status`. -/
inductive SupervisorLife where
  | spawned
  | running
  /-- `run_with_status` has returned. -/
  | returned
  /-- The event loop has been told. -/
  | reported
  deriving DecidableEq, Repr

/-- What `apply_loaded_config` spawns for one generation. -/
structure StatusFeed where
  life : SupervisorLife
  /-- The transport task, once there is one. -/
  reporting : Option ReportingTransport
  watch : Watch ClientStatus
  forwarder : Forwarder

/-- The scheduler's choices among the tasks of one generation. -/
inductive FeedAction where
  /-- `run_with_status` up to its select loop. -/
  | runs (clipboard : Bool)
  | transport (action : StatusAction)
  | returns
  | reports
  /-- The transport task and its sender are dropped. -/
  | transportDropped
  | forward
  deriving DecidableEq, Repr

namespace StatusFeed

/-- The tasks of a new generation. -/
def spawn : StatusFeed where
  life := .spawned
  reporting := none
  watch := .channel .connecting
  forwarder := .starting

/-- Everything that the watch has been set to. -/
def reported (feed : StatusFeed) : List ClientStatus :=
  .connecting :: feed.reporting.elim [] ReportingTransport.statuses

/-- The transport task goes on, and sets the watch. -/
def report (feed : StatusFeed) (next : ReportingTransport) : StatusFeed :=
  { feed with
    reporting := some next
    watch :=
      feed.watch.sendAll
        (next.statuses.drop
          (feed.reporting.elim [] ReportingTransport.statuses).length) }

/--
The transport task ends by itself or with the supervisor, whose guard aborts
it; the supervisor is aborted when the tray lets go of its handle.
-/
def MayDrop (feed : StatusFeed) (held : Bool) : Prop :=
  held = false ∨
    feed.life = .returned ∨
    feed.life = .reported ∨
    feed.reporting.any (·.transport.task = .stopped) = true

instance (feed : StatusFeed) (held : Bool) : Decidable (feed.MayDrop held) :=
  inferInstanceAs (Decidable (_ ∨ _))

/-- One step of the forwarder. -/
def forward? (generation : Nat) (feed : StatusFeed) :
    Option (StatusFeed × List TrayEvent) :=
  let read : StatusFeed :=
    { feed with
      watch := feed.watch.borrowAndUpdate
      forwarder := .sending feed.watch.value }
  match feed.forwarder with
  | .starting =>
      some (read, [])
  | .sending status =>
      some
        ({ feed with forwarder := .waiting },
          [.clientStatusChanged generation status])
  | .waiting =>
      match feed.watch.pollChanged with
      | .changed => some (read, [])
      | .closed => some ({ feed with forwarder := .ended }, [])
      | .pending => none
  | .ended =>
      none

/-- One step, with the events that it sends to the event loop. -/
def step?
    (generation : Nat)
    (held : Bool)
    (feed : StatusFeed) :
    FeedAction → Option (StatusFeed × List TrayEvent)
  | .runs clipboard =>
      if feed.life = .spawned ∧ feed.watch.sendersAlive = true then
        if clipboard then
          some
            ({ feed.report (.spawn true false true) with life := .running },
              [])
        else
          some
            ({ feed with
                life := .returned
                watch := feed.watch.dropSenders },
              [])
      else
        none
  | .transport action =>
      if feed.watch.sendersAlive = true then
        (feed.reporting.bind (·.step? action)).map fun next =>
          (feed.report next, [])
      else
        none
  | .returns =>
      if feed.life = .running then
        some ({ feed with life := .returned }, [])
      else
        none
  | .reports =>
      if feed.life = .returned then
        some
          ({ feed with life := .reported }, [.supervisorExited generation])
      else
        none
  | .transportDropped =>
      if feed.watch.sendersAlive = true ∧ feed.MayDrop held then
        some ({ feed with watch := feed.watch.dropSenders }, [])
      else
        none
  | .forward =>
      feed.forward? generation

end StatusFeed

/-- The tray, the queue of its event loop, and what feeds it. -/
structure TrayDesk where
  host : TrayHost
  queue : List TrayEvent
  feeds : Nat → Option StatusFeed
  /-- The statuses that have been shown, with their generations. -/
  shown : List (Nat × ClientStatus)

/-- The scheduler's choices. -/
inductive DeskAction where
  /-- The event loop handles the next event. -/
  | turn
  /-- A menu item, the settings dialog or a hub sends an event. -/
  | send (event : TrayEvent)
  | hub (action : TrayAction)
  | feed (generation : Nat) (action : FeedAction)

/-- Only the tasks of a supervisor report on it. -/
def TrayEvent.ofSupervisor : TrayEvent → Bool
  | .supervisorExited _ | .clientStatusChanged _ _ => true
  | _ => false

/-- The event loop loads the configuration again. -/
def TrayEvent.reloads : TrayEvent → Bool
  | .reload _ _ | .settingsExited _ _ => true
  | _ => false

/-- The status of one generation that an event carries. -/
def TrayEvent.statusOf? (generation : Nat) : TrayEvent → Option ClientStatus
  | .clientStatusChanged sender status =>
      if sender = generation then
        some status
      else
        none
  | _ =>
      none

namespace TrayDesk

/-- A new generation comes with new tasks. -/
def arrive (desk : TrayDesk) (host : TrayHost) : TrayDesk :=
  { desk with
    host := host
    feeds :=
      if host.tray.supervisorGen = desk.host.tray.supervisorGen then
        desk.feeds
      else
        Function.update desk.feeds host.tray.supervisorGen
          (some .spawn) }

/-- `run` up to the event loop. -/
def start
    (configPath : String)
    (initial : Option ClientConfig)
    (bind : Except String UInt16) : TrayDesk :=
  let host := TrayHost.start configPath initial bind
  { host := host
    queue := []
    feeds := fun generation =>
      if generation = host.tray.supervisorGen ∧ 0 < generation then
        some .spawn
      else
        none
    shown := [] }

/-- The event loop handles an event. -/
def handle
    (configPath : String)
    (desk : TrayDesk)
    (event : TrayEvent) : TrayDesk :=
  let shows :=
    event.statusOf? desk.host.tray.supervisorGen |>.map fun status =>
      (desk.host.tray.supervisorGen, status)
  { desk.arrive (desk.host.handleEvent configPath event) with
    shown := desk.shown ++ shows.toList }

/-- One step. -/
def step?
    (fromStr : String → Option Frame)
    (configPath : String)
    (desk : TrayDesk) :
    DeskAction → Option TrayDesk
  | .turn =>
      match desk.queue with
      | [] => none
      | event :: rest =>
          some ({ desk with queue := rest }.handle configPath event)
  | .send event =>
      if event.ofSupervisor = false ∧ desk.host.Sent event then
        some { desk with queue := desk.queue ++ [event] }
      else
        none
  | .hub (.event _) =>
      none
  | .hub action =>
      (desk.host.step? fromStr configPath action).map fun host =>
        { desk with host := host }
  | .feed generation action =>
      (desk.feeds generation).bind fun feed =>
        (feed.step? generation
            (decide (desk.host.tray.supervisor = some generation))
            action).map fun (next, events) =>
          { desk with
            feeds := Function.update desk.feeds generation (some next)
            queue := desk.queue ++ events }

/-- The statuses of one generation that have been shown. -/
def shownOf (desk : TrayDesk) (generation : Nat) : List ClientStatus :=
  desk.shown.filterMap fun (shown, status) =>
    if shown = generation then
      some status
    else
      none

/-- The statuses of one generation that wait to be handled. -/
def queuedOf (desk : TrayDesk) (generation : Nat) : List ClientStatus :=
  desk.queue.filterMap (TrayEvent.statusOf? generation)

end TrayDesk

/-! ## One feed -/

namespace StatusFeed

/-- What the tasks of one generation have sent to the event loop so far. -/
structure Follows
    (feed : StatusFeed)
    (delivered : List ClientStatus) : Prop where
  account :
    feed.watch.Account feed.reported (delivered ++ feed.forwarder.inHand)
  first :
    feed.forwarder = .starting ↔
      delivered ++ feed.forwarder.inHand = []
  ended :
    feed.forwarder = .ended →
      feed.watch.seen = feed.watch.version ∧
        feed.watch.sendersAlive = false
  unspawned : feed.life = .spawned → feed.reporting = none

/-- The tasks of a new generation have sent nothing. -/
theorem follows_spawn : spawn.Follows [] where
  account := Watch.account_channel ClientStatus.connecting
  first := ⟨fun _ => rfl, fun _ => rfl⟩
  ended := fun ended => by cases ended
  unspawned := fun _ => rfl

namespace Follows

variable {feed : StatusFeed} {delivered : List ClientStatus}

private theorem congr
    {next : StatusFeed}
    (follows : feed.Follows delivered)
    (watch : next.watch = feed.watch ∨ next.watch = feed.watch.dropSenders)
    (reporting : next.reporting = feed.reporting)
    (forwarder : next.forwarder = feed.forwarder)
    (life : next.life = .spawned → feed.life = .spawned) :
    next.Follows delivered := by
  have same : next.reported = feed.reported := by
    rw [StatusFeed.reported, reporting, StatusFeed.reported]
  constructor
  · rw [same, forwarder]
    rcases watch with kept | dropped
    · rw [kept]
      exact follows.account
    · rw [dropped]
      exact follows.account.dropSenders
  · rw [forwarder]
    exact follows.first
  · intro ended
    rw [forwarder] at ended
    rcases watch with kept | dropped
    · rw [kept]
      exact follows.ended ended
    · rw [dropped]
      exact ⟨(follows.ended ended).1, rfl⟩
  · intro spawned
    rw [reporting]
    exact follows.unspawned (life spawned)

/-- The transport task sets the watch to what it reports. -/
private theorem report
    {next : ReportingTransport}
    (follows : feed.Follows delivered)
    (more : List ClientStatus)
    (alive : feed.watch.sendersAlive = true)
    (statuses :
      next.statuses =
        feed.reporting.elim [] ReportingTransport.statuses ++ more)
    (life : feed.life ≠ .spawned) :
    (feed.report next).Follows delivered := by
  have grown : (feed.report next).reported = feed.reported ++ more := by
    simp [StatusFeed.reported, StatusFeed.report, statuses]
  have sent : (feed.report next).watch = feed.watch.sendAll more := by
    simp [StatusFeed.report, statuses]
  constructor
  · rw [grown, sent]
    exact follows.account.sendAll more
  · exact follows.first
  · intro ended
    rw [(follows.ended ended).2] at alive
    cases alive
  · exact fun spawned => (life spawned).elim

/-- The forwarder reads the watch. -/
private theorem read
    (follows : feed.Follows delivered)
    (free : feed.forwarder.inHand = [])
    (news :
      feed.forwarder = .starting ∨
        feed.watch.seen ≠ feed.watch.version) :
    Follows
      { feed with
        watch := feed.watch.borrowAndUpdate
        forwarder := .sending feed.watch.value }
      delivered where
  account := by
    have account := follows.account
    have first := follows.first
    rw [free, List.append_nil] at account first
    exact account.read (news.imp_left first.mp)
  first := by
    simp [Forwarder.inHand]
  ended := fun ended => by cases ended
  unspawned := follows.unspawned

/-- A step of the forwarder. -/
private theorem forward
    {generation : Nat}
    {next : StatusFeed}
    {events : List TrayEvent}
    (follows : feed.Follows delivered)
    (stepped : feed.forward? generation = some (next, events)) :
    next.Follows
      (delivered ++ events.filterMap (TrayEvent.statusOf? generation)) := by
  unfold forward? at stepped
  split at stepped
  · rename_i starting
    cases stepped
    simp only [List.filterMap_nil, List.append_nil]
    exact follows.read (by rw [starting]; rfl) (.inl starting)
  · rename_i status sending
    cases stepped
    have account := follows.account
    rw [sending] at account
    have own :
        [TrayEvent.clientStatusChanged generation status].filterMap
            (TrayEvent.statusOf? generation) =
          [status] := by
      simp [TrayEvent.statusOf?]
    rw [own]
    constructor
    · rw [Forwarder.inHand, List.append_nil]
      exact account
    · simp
    · exact fun ended => by cases ended
    · exact follows.unspawned
  · rename_i waiting
    have free : feed.forwarder.inHand = [] := by
      rw [waiting]
      rfl
    unfold Watch.pollChanged at stepped
    split_ifs at stepped with changed alive
    · cases stepped
      simp only [List.filterMap_nil, List.append_nil]
      exact follows.read free (.inr changed)
    · cases stepped
      have account := follows.account
      have first := follows.first
      rw [waiting] at account first
      simp only [List.filterMap_nil, List.append_nil]
      constructor
      · exact account
      · simpa [Forwarder.inHand] using first
      · exact fun _ =>
          ⟨not_not.mp changed, Bool.eq_false_iff.mpr alive⟩
      · exact follows.unspawned
  · cases stepped

theorem step
    {generation : Nat}
    {held : Bool}
    {action : FeedAction}
    {next : StatusFeed}
    {events : List TrayEvent}
    (follows : feed.Follows delivered)
    (stepped : feed.step? generation held action = some (next, events)) :
    next.Follows
      (delivered ++ events.filterMap (TrayEvent.statusOf? generation)) := by
  cases action with
  | runs clipboard =>
      simp only [StatusFeed.step?] at stepped
      split_ifs at stepped with ready started
      · cases stepped
        simp only [List.filterMap_nil, List.append_nil]
        have running : Follows { feed with life := .running } delivered :=
          follows.congr (.inl rfl) rfl rfl (fun spawned => by cases spawned)
        refine running.report
          (ReportingTransport.statuses (.spawn true false true)) ready.2 ?_
          (fun spawned => by cases spawned)
        simp [follows.unspawned ready.1]
      · cases stepped
        simp only [List.filterMap_nil, List.append_nil]
        exact follows.congr (.inr rfl) rfl rfl
          (fun spawned => by cases spawned)
  | transport action =>
      simp only [StatusFeed.step?] at stepped
      split_ifs at stepped with alive
      obtain ⟨moved, known, same⟩ := Option.map_eq_some_iff.mp stepped
      obtain ⟨reporting, there, goesOn⟩ := Option.bind_eq_some_iff.mp known
      cases same
      simp only [List.filterMap_nil, List.append_nil]
      obtain ⟨-, emitted, log, -⟩ :=
        ReportingTransport.logs_of_step? goesOn
      refine follows.report (emitted.filterMap StatusEvent.status?) alive
        ?_ ?_
      · rw [there, ReportingTransport.statuses, log, List.filterMap_append]
        rfl
      · intro spawned
        rw [follows.unspawned spawned] at there
        cases there
  | returns =>
      simp only [StatusFeed.step?] at stepped
      split_ifs at stepped
      cases stepped
      simp only [List.filterMap_nil, List.append_nil]
      exact follows.congr (.inl rfl) rfl rfl (fun spawned => by cases spawned)
  | reports =>
      simp only [StatusFeed.step?] at stepped
      split_ifs at stepped
      cases stepped
      simp only [List.filterMap_cons, TrayEvent.statusOf?, List.filterMap_nil,
        List.append_nil]
      exact follows.congr (.inl rfl) rfl rfl (fun spawned => by cases spawned)
  | transportDropped =>
      simp only [StatusFeed.step?] at stepped
      split_ifs at stepped
      cases stepped
      simp only [List.filterMap_nil, List.append_nil]
      exact follows.congr (.inr rfl) rfl rfl id
  | forward =>
      exact follows.forward stepped

end Follows

/-- A step of a feed sends at most one event. -/
theorem events_of_step?
    {generation : Nat}
    {held : Bool}
    {feed next : StatusFeed}
    {action : FeedAction}
    {events : List TrayEvent}
    (stepped : feed.step? generation held action = some (next, events)) :
    events = [] ∨
      events = [.supervisorExited generation] ∨
      ∃ status, events = [.clientStatusChanged generation status] := by
  cases action with
  | transport action =>
      simp only [step?] at stepped
      split_ifs at stepped
      obtain ⟨moved, -, same⟩ := Option.map_eq_some_iff.mp stepped
      cases same
      exact .inl rfl
  | forward =>
      simp only [step?, forward?] at stepped
      split at stepped
      · cases stepped
        exact .inl rfl
      · cases stepped
        exact .inr (.inr ⟨_, rfl⟩)
      · split at stepped
        · cases stepped
          exact .inl rfl
        · cases stepped
          exact .inl rfl
        · cases stepped
      · cases stepped
  | reports =>
      simp only [step?] at stepped
      split_ifs at stepped
      cases stepped
      exact .inr (.inl rfl)
  | _ =>
      simp only [step?] at stepped
      split_ifs at stepped <;>
        cases stepped <;>
        exact .inl rfl

/-- The events of a feed carry its own generation. -/
theorem filterMap_statusOf?_of_step?
    {generation other : Nat}
    {held : Bool}
    {feed next : StatusFeed}
    {action : FeedAction}
    {events : List TrayEvent}
    (stepped : feed.step? generation held action = some (next, events))
    (different : generation ≠ other) :
    events.filterMap (TrayEvent.statusOf? other) = [] := by
  rcases events_of_step? stepped with rfl | rfl | ⟨status, rfl⟩
  · rfl
  · rfl
  · simp [TrayEvent.statusOf?, different]

end StatusFeed

/-! ## What an event does to the status line -/

/-- What one event does to the fields of the supervisor. -/
inductive SupervisorMoves
    (tray : Tray)
    (event : TrayEvent)
    (next : Tray) : Prop where
  | kept
      (other : event.statusOf? tray.supervisorGen = none)
      (supervisor : next.supervisor = tray.supervisor)
      (generation : next.supervisorGen = tray.supervisorGen)
      (status : next.clientStatus = tray.clientStatus)
  | shown (status : ClientStatus)
      (current : event.statusOf? tray.supervisorGen = some status)
      (supervisor : next.supervisor = tray.supervisor)
      (generation : next.supervisorGen = tray.supervisorGen)
      (shows : next.clientStatus = some status)
  | cleared
      (other : event.statusOf? tray.supervisorGen = none)
      (supervisor : next.supervisor = none)
      (generation : next.supervisorGen = tray.supervisorGen)
      (status : next.clientStatus = none)
  | spawned
      (other : event.reloads = true)
      (supervisor : next.supervisor = some (tray.supervisorGen + 1))
      (generation : next.supervisorGen = tray.supervisorGen + 1)
      (status : next.clientStatus = some .connecting)

namespace TrayHost

variable (configPath : String)

/-- The fields of the supervisor are not those of the hub. -/
structure SameSupervisor (host next : TrayHost) : Prop where
  supervisor : next.tray.supervisor = host.tray.supervisor
  generation : next.tray.supervisorGen = host.tray.supervisorGen
  status : next.tray.clientStatus = host.tray.clientStatus
  cfg : next.tray.cfg = host.tray.cfg

/-- A start of the hub leaves the supervisor alone. -/
theorem sameSupervisor_startEmbeddedHubWithCfg
    (bind : Except String UInt16)
    (host : TrayHost)
    (client : ClientConfig) :
    SameSupervisor host
      (startEmbeddedHubWithCfg configPath bind host client).1 := by
  unfold startEmbeddedHubWithCfg
  split
  · exact ⟨rfl, rfl, rfl, rfl⟩
  · cases bind <;>
      exact ⟨rfl, rfl, rfl, rfl⟩

/-- Also from the menu. -/
theorem sameSupervisor_startEmbeddedHub
    (bind : Except String UInt16)
    (host : TrayHost) :
    SameSupervisor host (host.startEmbeddedHub configPath bind) := by
  unfold startEmbeddedHub
  split
  · exact ⟨rfl, rfl, rfl, rfl⟩
  · exact sameSupervisor_startEmbeddedHubWithCfg configPath bind host _

/-- A configuration that is loaded comes with a new supervisor. -/
theorem applyLoadedConfig_of_some
    {host : TrayHost}
    {client : ClientConfig}
    (bind : Except String UInt16)
    (loaded : host.tray.cfg = some client) :
    (host.applyLoadedConfig configPath bind).tray.supervisor =
        some (host.tray.supervisorGen + 1) ∧
      (host.applyLoadedConfig configPath bind).tray.supervisorGen =
        host.tray.supervisorGen + 1 ∧
      (host.applyLoadedConfig configPath bind).tray.clientStatus =
        some .connecting := by
  simp only [applyLoadedConfig, loaded]
  split
  · have same :=
      sameSupervisor_startEmbeddedHubWithCfg configPath bind host client
    exact ⟨congrArg (some <| · + 1) same.generation,
      congrArg (· + 1) same.generation, trivial⟩
  · exact ⟨rfl, rfl, trivial⟩

/-- A reload replaces the supervisor, or leaves none. -/
theorem supervisorMoves_reload
    {tray : Tray}
    {event : TrayEvent}
    {host : TrayHost}
    (loaded : Option ClientConfig)
    (bind : Except String UInt16)
    (same : host.tray.supervisorGen = tray.supervisorGen)
    (other : event.reloads = true) :
    SupervisorMoves tray event
      (host.reload configPath loaded bind).tray := by
  cases loaded with
  | none =>
      refine .cleared ?_ rfl same rfl
      cases event <;> first | rfl | cases other
  | some client =>
      have applied :
          (host.abortRunning.reloadConfigInto (some client)).tray.cfg =
            some client :=
        rfl
      obtain ⟨supervisor, generation, status⟩ :=
        applyLoadedConfig_of_some configPath bind applied
      exact .spawned other (supervisor.trans (congrArg (some <| · + 1) same))
        (generation.trans (congrArg (· + 1) same)) status

/-- What the event loop does to the fields of the supervisor. -/
theorem supervisorMoves_handleEvent
    (host : TrayHost)
    (event : TrayEvent) :
    SupervisorMoves host.tray event
      (host.handleEvent configPath event).tray := by
  cases event with
  | startHub bind =>
      have same :=
        sameSupervisor_startEmbeddedHub configPath bind host
      exact .kept rfl same.supervisor same.generation same.status
  | restartHub bind =>
      have same :=
        sameSupervisor_startEmbeddedHub configPath bind host.stopEmbeddedHub
      exact .kept rfl same.supervisor same.generation same.status
  | stopHub | editConfig launched | hubPeerCountChanged | themeChanged =>
      exact .kept rfl rfl rfl rfl
  | reload loaded bind =>
      exact supervisorMoves_reload configPath loaded bind rfl rfl
  | settingsExited loaded bind =>
      exact supervisorMoves_reload configPath loaded bind rfl rfl
  | supervisorExited generation =>
      simp only [handleEvent]
      split
      · exact .cleared rfl rfl rfl rfl
      · exact .kept rfl rfl rfl rfl
  | hubExited generation =>
      simp only [handleEvent]
      split <;>
        exact .kept rfl rfl rfl rfl
  | clientStatusChanged generation status =>
      simp only [handleEvent]
      split
      · rename_i current
        refine .shown status ?_ rfl rfl rfl
        simp [TrayEvent.statusOf?, current]
      · rename_i outdated
        refine .kept ?_ rfl rfl rfl
        simp [TrayEvent.statusOf?, outdated]

theorem supervisor_start
    (initial : Option ClientConfig)
    (bind : Except String UInt16) :
    ((start configPath initial bind).tray.supervisor = none ∧
        (start configPath initial bind).tray.clientStatus = none) ∨
      ((start configPath initial bind).tray.supervisor =
          some (start configPath initial bind).tray.supervisorGen ∧
        0 < (start configPath initial bind).tray.supervisorGen ∧
        (start configPath initial bind).tray.clientStatus =
          some .connecting) := by
  cases initial with
  | none =>
      exact .inl ⟨rfl, rfl⟩
  | some client =>
      right
      unfold start
      refine ⟨?_, ?_, (applyLoadedConfig_of_some configPath bind rfl).2.2⟩
      · rw [(applyLoadedConfig_of_some configPath bind rfl).2.1]
        exact (applyLoadedConfig_of_some configPath bind rfl).1
      · rw [(applyLoadedConfig_of_some configPath bind rfl).2.1]
        exact Nat.succ_pos 0

end TrayHost

/-! ## The desk -/

namespace TrayDesk

/-- What is shown, what waits and what the feeds have sent belong together. -/
structure Sound (desk : TrayDesk) : Prop where
  fresh :
    ∀ generation,
      desk.host.tray.supervisorGen < generation →
        desk.feeds generation = none
  silent :
    ∀ generation,
      desk.feeds generation = none →
        desk.shownOf generation = [] ∧ desk.queuedOf generation = []
  delivered :
    ∀ generation feed,
      desk.feeds generation = some feed →
      ∃ delivered,
        feed.Follows delivered ∧
          (desk.shownOf generation ++ desk.queuedOf generation).Sublist
            delivered ∧
          (generation = desk.host.tray.supervisorGen →
            desk.shownOf generation ++ desk.queuedOf generation = delivered)
  sorted :
    (desk.shown.map Prod.fst).Pairwise (· ≤ ·) ∧
      ∀ entry ∈ desk.shown, entry.1 ≤ desk.host.tray.supervisorGen
  held :
    ∀ generation,
      desk.host.tray.supervisor = some generation →
        generation = desk.host.tray.supervisorGen ∧
          (desk.feeds generation).isSome
  status :
    (desk.host.tray.supervisor = none ∧
        desk.host.tray.clientStatus = none) ∨
      desk.host.tray.clientStatus =
        (ClientStatus.connecting ::
          desk.shownOf desk.host.tray.supervisorGen).getLast?

theorem sound_start
    (configPath : String)
    (initial : Option ClientConfig)
    (bind : Except String UInt16) :
    (start configPath initial bind).Sound := by
  have quiet (generation : Nat) :
      (start configPath initial bind).shownOf generation = [] ∧
        (start configPath initial bind).queuedOf generation = [] :=
    ⟨rfl, rfl⟩
  constructor
  · intro generation later
    refine if_neg ?_
    rintro ⟨same, -⟩
    exact Nat.ne_of_gt later same
  · exact fun generation _ => quiet generation
  · intro generation feed known
    have spawned : feed = .spawn := by
      simp only [start] at known
      split_ifs at known
      exact (Option.some.inj known).symm
    subst spawned
    exact ⟨[], StatusFeed.follows_spawn, List.Sublist.refl _, fun _ => rfl⟩
  · exact ⟨List.Pairwise.nil, fun entry inShown => by cases inShown⟩
  · intro generation held
    rcases TrayHost.supervisor_start configPath initial bind with
      ⟨none, -⟩ | ⟨current, positive, -⟩
    · rw [start, none] at held
      cases held
    · have same : generation = _ := Option.some.inj (held.symm.trans current)
      subst same
      exact ⟨rfl, by simp [start, positive]⟩
  · exact
      (TrayHost.supervisor_start configPath initial bind).imp_right
        fun current => current.2.2

variable {desk next : TrayDesk}

private theorem Sound.congr
    (sound : desk.Sound)
    (tray : next.host.tray = desk.host.tray)
    (feeds : next.feeds = desk.feeds)
    (shown : next.shown = desk.shown)
    (queued : ∀ generation,
      next.queuedOf generation = desk.queuedOf generation) :
    next.Sound := by
  have shownOf (generation : Nat) :
      next.shownOf generation = desk.shownOf generation := by
    rw [TrayDesk.shownOf, shown, TrayDesk.shownOf]
  constructor
  · rw [tray, feeds]
    exact sound.fresh
  · intro generation
    rw [feeds, shownOf, queued]
    exact sound.silent generation
  · intro generation
    rw [feeds, shownOf, queued, tray]
    exact sound.delivered generation
  · rw [shown, tray]
    exact sound.sorted
  · rw [tray, feeds]
    exact sound.held
  · rw [tray, shownOf]
    exact sound.status

private theorem Sound.feed
    {generation : Nat}
    {held : Bool}
    {action : FeedAction}
    {feed after : StatusFeed}
    {events : List TrayEvent}
    (sound : desk.Sound)
    (known : desk.feeds generation = some feed)
    (stepped : feed.step? generation held action = some (after, events)) :
    Sound
      { desk with
        feeds := Function.update desk.feeds generation (some after)
        queue := desk.queue ++ events } := by
  have queued (other : Nat) :
      queuedOf
          { desk with
            feeds := Function.update desk.feeds generation (some after)
            queue := desk.queue ++ events } other =
        desk.queuedOf other ++
          events.filterMap (TrayEvent.statusOf? other) :=
    List.filterMap_append
  constructor
  · intro other later
    have different : other ≠ generation := by
      rintro rfl
      rw [sound.fresh other later] at known
      cases known
    simpa [different] using sound.fresh other later
  · intro other nothing
    have different : generation ≠ other := by
      rintro rfl
      simp at nothing
    have before : desk.feeds other = none := by
      simpa [different.symm] using nothing
    rw [queued,
      StatusFeed.filterMap_statusOf?_of_step? stepped different,
      List.append_nil]
    exact sound.silent other before
  · intro other otherFeed knownOther
    rw [queued]
    by_cases same : other = generation
    · subst same
      have isAfter : otherFeed = after := by
        simpa using knownOther.symm
      subst isAfter
      obtain ⟨delivered, follows, inOrder, all⟩ :=
        sound.delivered other feed known
      refine ⟨_, follows.step stepped, ?_, ?_⟩
      · rw [← List.append_assoc]
        exact inOrder.append (List.Sublist.refl _)
      · intro current
        rw [← all current, List.append_assoc]
        rfl
    · have before : desk.feeds other = some otherFeed := by
        simpa [same] using knownOther
      rw [StatusFeed.filterMap_statusOf?_of_step? stepped (Ne.symm same),
        List.append_nil]
      exact sound.delivered other otherFeed before
  · exact sound.sorted
  · intro other isHeld
    obtain ⟨current, there⟩ := sound.held other isHeld
    refine ⟨current, ?_⟩
    by_cases same : other = generation
    · subst same
      simp
    · simpa [same] using there
  · exact sound.status

section

variable
  (configPath : String)
  {event : TrayEvent}
  {rest : List TrayEvent}

/-- The desk after the event loop has handled its next event. -/
abbrev turned
    (desk : TrayDesk)
    (configPath : String)
    (event : TrayEvent)
    (rest : List TrayEvent) : TrayDesk :=
  TrayDesk.handle configPath { desk with queue := rest } event

/-- A status that is handled has waited; it is shown if it is current. -/
private theorem shownOf_turned (generation : Nat) :
    (desk.turned configPath event rest).shownOf generation =
      desk.shownOf generation ++
        if desk.host.tray.supervisorGen = generation then
          (event.statusOf? generation).toList
        else
          [] := by
  simp only [shownOf, handle, List.filterMap_append]
  congr 1
  by_cases current : desk.host.tray.supervisorGen = generation
  · subst current
    cases event.statusOf? desk.host.tray.supervisorGen <;> simp
  · cases event.statusOf? desk.host.tray.supervisorGen <;> simp [current]

/-- The event that is handled was the first one that waited. -/
private theorem queuedOf_turned
    (queue : desk.queue = event :: rest)
    (generation : Nat) :
    desk.queuedOf generation =
      (event.statusOf? generation).toList ++
        (desk.turned configPath event rest).queuedOf generation := by
  simp only [queuedOf, queue, handle, arrive]
  cases carries : event.statusOf? generation <;> simp [carries]

/-- An event that is handled is shown or, if it is outdated, lost. -/
private theorem seen_turned
    (queue : desk.queue = event :: rest)
    (generation : Nat) :
    ((desk.turned configPath event rest).shownOf generation ++
          (desk.turned configPath event rest).queuedOf generation).Sublist
        (desk.shownOf generation ++ desk.queuedOf generation) ∧
      (generation = desk.host.tray.supervisorGen →
        (desk.turned configPath event rest).shownOf generation ++
            (desk.turned configPath event rest).queuedOf generation =
          desk.shownOf generation ++ desk.queuedOf generation) := by
  rw [shownOf_turned, queuedOf_turned configPath queue]
  constructor
  · rw [List.append_assoc]
    refine (List.Sublist.refl _).append (List.Sublist.append ?_
      (List.Sublist.refl _))
    split_ifs
    · exact List.Sublist.refl _
    · exact List.nil_sublist _
  · intro current
    rw [if_pos current.symm, List.append_assoc]

/-- What is shown is from the current generation, at the end. -/
private theorem sorted_turned (sound : desk.Sound) :
    ((desk.turned configPath event rest).shown.map
          Prod.fst).Pairwise (· ≤ ·) ∧
      ∀ entry ∈ (desk.turned configPath event rest).shown,
        entry.1 ≤ desk.host.tray.supervisorGen := by
  obtain ⟨sorted, atMost⟩ := sound.sorted
  simp only [handle]
  cases event.statusOf? desk.host.tray.supervisorGen with
  | none =>
      rw [Option.map_none, Option.toList_none, List.append_nil]
      exact ⟨sorted, atMost⟩
  | some status =>
      constructor
      · simp only [Option.map_some, Option.toList_some, List.map_append,
          List.map_cons, List.map_nil, List.pairwise_append]
        refine ⟨sorted, List.pairwise_singleton _ _, ?_⟩
        intro first inShown last isLast
        obtain ⟨entry, member, rfl⟩ := List.mem_map.mp inShown
        rw [List.mem_singleton.mp isLast]
        exact atMost entry member
      · intro entry member
        rcases List.mem_append.mp member with before | new
        · exact atMost entry before
        · simp only [Option.map_some, Option.toList_some,
            List.mem_singleton] at new
          rw [new]

private theorem Sound.turn_same
    (sound : desk.Sound)
    (queue : desk.queue = event :: rest)
    (same :
      (desk.host.handleEvent configPath event).tray.supervisorGen =
        desk.host.tray.supervisorGen)
    (held :
      ∀ generation,
        (desk.host.handleEvent configPath event).tray.supervisor =
            some generation →
          desk.host.tray.supervisor = some generation)
    (status :
      ((desk.host.handleEvent configPath event).tray.supervisor = none ∧
          (desk.host.handleEvent configPath event).tray.clientStatus =
            none) ∨
        (desk.host.handleEvent configPath event).tray.clientStatus =
          (ClientStatus.connecting ::
            (desk.turned configPath event rest).shownOf
              desk.host.tray.supervisorGen).getLast?) :
    (desk.turned configPath event rest).Sound := by
  have host :
      (desk.turned configPath event rest).host =
        desk.host.handleEvent configPath event :=
    rfl
  have feeds : (desk.turned configPath event rest).feeds = desk.feeds :=
    if_pos same
  constructor
  · rw [host, same, feeds]
    exact sound.fresh
  · intro generation nothing
    rw [feeds] at nothing
    obtain ⟨shown, queued⟩ := sound.silent generation nothing
    have fewer := (seen_turned configPath queue generation).1
    rw [shown, queued] at fewer
    exact List.append_eq_nil_iff.mp (List.sublist_nil.mp fewer)
  · intro generation feed known
    rw [feeds] at known
    obtain ⟨delivered, follows, inOrder, all⟩ :=
      sound.delivered generation feed known
    obtain ⟨fewer, kept⟩ :=
      seen_turned configPath queue generation
    refine ⟨delivered, follows, fewer.trans inOrder, ?_⟩
    rw [host, same]
    exact fun current => (kept current).trans (all current)
  · rw [host, same]
    exact sorted_turned configPath sound
  · intro generation isHeld
    rw [host, same, feeds]
    exact sound.held generation (held generation isHeld)
  · rw [host, same]
    exact status

/-- A new generation comes with new tasks. -/
theorem feeds_turned
    (generation :
      (desk.host.handleEvent configPath event).tray.supervisorGen =
        desk.host.tray.supervisorGen + 1) :
    (desk.turned configPath event rest).feeds =
      Function.update desk.feeds (desk.host.tray.supervisorGen + 1)
        (some .spawn) := by
  rw [← generation]
  refine if_neg ?_
  rw [generation]
  exact Nat.succ_ne_self _

private theorem Sound.turn_spawned
    (sound : desk.Sound)
    (queue : desk.queue = event :: rest)
    (other : event.reloads = true)
    (supervisor :
      (desk.host.handleEvent configPath event).tray.supervisor =
        some (desk.host.tray.supervisorGen + 1))
    (generation :
      (desk.host.handleEvent configPath event).tray.supervisorGen =
        desk.host.tray.supervisorGen + 1)
    (status :
      (desk.host.handleEvent configPath event).tray.clientStatus =
        some .connecting) :
    (desk.turned configPath event rest).Sound := by
  have host :
      (desk.turned configPath event rest).host =
        desk.host.handleEvent configPath event :=
    rfl
  have feeds :
      (desk.turned configPath event rest).feeds =
        Function.update desk.feeds (desk.host.tray.supervisorGen + 1)
          (some .spawn) :=
    feeds_turned configPath generation
  have silent (of : Nat) : event.statusOf? of = none := by
    cases event <;> first | rfl | cases other
  have shown (of : Nat) :
      (desk.turned configPath event rest).shownOf of = desk.shownOf of := by
    rw [shownOf_turned, silent]
    simp
  have queued (of : Nat) :
      (desk.turned configPath event rest).queuedOf of = desk.queuedOf of := by
    rw [queuedOf_turned configPath queue of, silent]
    rfl
  have unheard :=
    sound.silent _
      (sound.fresh _ (Nat.lt_succ_self desk.host.tray.supervisorGen))
  constructor
  · intro of later
    rw [host, generation] at later
    rw [feeds, Function.update_of_ne (Nat.ne_of_gt later)]
    exact sound.fresh of (Nat.lt_of_succ_lt later)
  · intro of nothing
    rw [shown, queued]
    rw [feeds] at nothing
    by_cases new : of = desk.host.tray.supervisorGen + 1
    · simp [new] at nothing
    · rw [Function.update_of_ne new] at nothing
      exact sound.silent of nothing
  · intro of feed known
    rw [shown, queued, host, generation]
    rw [feeds] at known
    by_cases new : of = desk.host.tray.supervisorGen + 1
    · subst new
      rw [Function.update_self, Option.some.injEq] at known
      subst known
      rw [unheard.1, unheard.2]
      exact
        ⟨[], StatusFeed.follows_spawn, List.Sublist.refl _, fun _ => rfl⟩
    · rw [Function.update_of_ne new] at known
      obtain ⟨delivered, follows, inOrder, -⟩ :=
        sound.delivered of feed known
      exact ⟨delivered, follows, inOrder, fun isNew => (new isNew).elim⟩
  · rw [host, generation]
    obtain ⟨sorted, atMost⟩ := sorted_turned configPath sound
    exact
      ⟨sorted, fun entry member => Nat.le_succ_of_le (atMost entry member)⟩
  · intro of isHeld
    rw [host, supervisor] at isHeld
    cases isHeld
    rw [host, generation, feeds]
    exact ⟨rfl, by simp⟩
  · right
    rw [host, generation, shown, status, unheard.1]
    rfl

private theorem Sound.turn
    (sound : desk.Sound)
    (queue : desk.queue = event :: rest) :
    (desk.turned configPath event rest).Sound := by
  have current :
      (desk.turned configPath event rest).shownOf
          desk.host.tray.supervisorGen =
        desk.shownOf desk.host.tray.supervisorGen ++
          (event.statusOf? desk.host.tray.supervisorGen).toList := by
    rw [shownOf_turned, if_pos rfl]
  rcases TrayHost.supervisorMoves_handleEvent configPath desk.host event with
    ⟨other, supervisor, generation, status⟩ |
    ⟨status, carries, supervisor, generation, shows⟩ |
    ⟨other, supervisor, generation, status⟩ |
    ⟨other, supervisor, generation, status⟩
  · refine sound.turn_same configPath queue generation ?_ ?_
    · rw [supervisor]
      exact fun _ isHeld => isHeld
    · rw [supervisor, status, current, other, Option.toList_none,
        List.append_nil]
      exact sound.status
  · refine sound.turn_same configPath queue generation ?_ (.inr ?_)
    · rw [supervisor]
      exact fun _ isHeld => isHeld
    · rw [shows, current, carries, Option.toList_some, ← List.cons_append,
        List.getLast?_concat]
  · refine sound.turn_same configPath queue generation ?_
      (.inl ⟨supervisor, status⟩)
    intro _ isHeld
    rw [supervisor] at isHeld
    cases isHeld
  · exact sound.turn_spawned configPath queue other supervisor generation
      status

end

theorem Sound.step
    {fromStr : String → Option Frame}
    {configPath : String}
    {action : DeskAction}
    (sound : desk.Sound)
    (stepped : desk.step? fromStr configPath action = some next) :
    next.Sound := by
  cases action with
  | turn =>
      simp only [step?] at stepped
      split at stepped
      · cases stepped
      · rename_i event rest queue
        cases stepped
        exact sound.turn configPath queue
  | send event =>
      simp only [step?] at stepped
      split_ifs at stepped with sends
      cases stepped
      refine sound.congr rfl rfl rfl fun generation => ?_
      have silent : event.statusOf? generation = none := by
        have other := sends.1
        cases event <;> first | rfl | cases other
      simp [queuedOf, silent]
  | hub action =>
      have kept
          {generation : Nat}
          (moved :
            (((desk.host.hubs generation).bind fun hub =>
                (TrayHost.hubStep? fromStr hub action).map
                  (desk.host.setHub generation)).map fun host =>
                { desk with host := host }) =
              some next) :
          next.Sound := by
        obtain ⟨host, goesOn, rfl⟩ := Option.map_eq_some_iff.mp moved
        exact sound.congr (PolledHost.tray_of_hubStep goesOn).1 rfl rfl
          fun _ => rfl
      cases action with
      | event event => cases stepped
      | serveStarts generation succeeds => exact kept stepped
      | accept generation id => exact kept stepped
      | disconnect generation id => exact kept stepped
      | connection generation action => exact kept stepped
  | feed generation action =>
      obtain ⟨feed, known, moved⟩ := Option.bind_eq_some_iff.mp stepped
      obtain ⟨⟨after, events⟩, goesOn, rfl⟩ :=
        Option.map_eq_some_iff.mp moved
      exact sound.feed known goesOn

theorem sound_of_run
    {fromStr : String → Option Frame}
    {configPath : String}
    {initial : Option ClientConfig}
    {bind : Except String UInt16}
    {actions : List DeskAction}
    (ran :
      StepRun.run? (step? fromStr configPath)
          (start configPath initial bind) actions =
        some desk) :
    desk.Sound :=
  StepRun.run?_invariant (motive := Sound)
    (sound_start configPath initial bind)
    (fun sound stepped => sound.step stepped) ran

/--
What the tray shows of a supervisor is what its transport task reported, in
the same order and nothing twice, however the two tasks between them and the
event loop are scheduled and whenever supervisors are replaced.  No status of
a supervisor is shown once there is a newer one, and while there is a
supervisor the status line has the last status that was shown of it.
-/
theorem shown_in_order
    {fromStr : String → Option Frame}
    {configPath : String}
    {initial : Option ClientConfig}
    {bind : Except String UInt16}
    {actions : List DeskAction}
    (ran :
      StepRun.run? (step? fromStr configPath)
          (start configPath initial bind) actions =
        some desk) :
    (∀ generation,
      (desk.shownOf generation).Sublist
        ((desk.feeds generation).elim [] StatusFeed.reported)) ∧
      (desk.shown.map Prod.fst).Pairwise (· ≤ ·) ∧
      (∀ status,
        desk.host.tray.clientStatus = some status →
          (ClientStatus.connecting ::
              desk.shownOf desk.host.tray.supervisorGen).getLast? =
            some status) ∧
      (desk.host.tray.supervisor.isSome →
        desk.host.tray.clientStatus =
          (ClientStatus.connecting ::
            desk.shownOf desk.host.tray.supervisorGen).getLast?) := by
  have sound := sound_of_run ran
  refine ⟨fun generation => ?_, sound.sorted.1, ?_, ?_⟩
  · cases known : desk.feeds generation with
    | none =>
        rw [(sound.silent generation known).1]
        exact List.nil_sublist _
    | some feed =>
        obtain ⟨delivered, follows, inOrder, -⟩ :=
          sound.delivered generation feed known
        have wasRead : delivered.Sublist feed.reported :=
          (List.sublist_append_left _ _).trans follows.account.sublist
        exact ((List.sublist_append_left _ _).trans inOrder).trans wasRead
  · intro status shows
    rcases sound.status with ⟨-, nothing⟩ | last
    · rw [nothing] at shows
      cases shows
    · rw [← last, shows]
  · intro there
    rcases sound.status with ⟨nothing, -⟩ | last
    · rw [nothing] at there
      cases there
    · exact last

/-- The configuration of a client without a hub. -/
private def guest : ClientConfig :=
  { TrayHost.hubOwner with hub := none }

/-- A tray with that configuration. -/
def guestDesk : TrayDesk :=
  start "config.toml" (some guest) (.ok 8484)

/-- A step of that tray. -/
abbrev guestStep? : TrayDesk → DeskAction → Option TrayDesk :=
  step? (fun _ => none) "config.toml"

/--
The first supervisor connects and is replaced while its status waits behind
the reload.
-/
def outdated : List DeskAction :=
  [.feed 1 (.runs true),
    .feed 1 .forward,
    .feed 1 .forward,
    .turn,
    .send (.reload (some guest) (.ok 8484)),
    .feed 1 (.transport (.task (.connect true) 0)),
    .feed 1 .forward,
    .feed 1 .forward,
    .turn,
    .turn]

/-- The tray after that. -/
def outdatedDesk : TrayDesk :=
  (StepRun.run? guestStep? guestDesk outdated).getD guestDesk

/-- The first supervisor has connected, but the tray does not show it. -/
theorem shown_in_order_sample :
    (outdatedDesk.feeds 1).elim [] StatusFeed.reported =
        [.connecting, .connecting, .connected] ∧
      outdatedDesk.shownOf 1 = [.connecting] ∧
      (outdatedDesk.shownOf 1).Sublist
        ((outdatedDesk.feeds 1).elim [] StatusFeed.reported) ∧
      outdatedDesk.host.tray.clientStatus = some .connecting := by
  have ran :
      StepRun.run? guestStep? guestDesk outdated = some outdatedDesk :=
    rfl
  obtain ⟨inOrder, -, -, current⟩ := shown_in_order ran
  exact ⟨rfl, rfl, inOrder 1, (current rfl).trans rfl⟩

end TrayDesk

end ClipboardWire
