import ClipboardWire.ServerRejections
import ClipboardWire.TrayHub

namespace ClipboardWire

open BoundedChannel

/-!
# One hub at a time

A client that is connected when the hub is stopped stays with that hub, and
the next hub knows nothing of it.  So all remote clients are with the hub of
the tray in those runs in which a hub is only stopped or replaced while no
remote client is connected to it.  The invariant says that whoever is
connected anywhere is connected to the hub that the tray has the handle of,
and that no other accept loop runs.
-/

variable {fromStr : String → Option Frame} {config : ServerConfig}

/-- A client is registered by its registration only. -/
theorem Hub.registered_handle
    {hub : Hub}
    {mail : Mailboxes}
    {message : HubMessage}
    {id : Uuid}
    (registered : (hub.handle mail message).hub.Registered id) :
    hub.Registered id ∨
      ∃ outbound fileOutbound,
        message = .register id outbound fileOutbound := by
  cases message with
  | register other outbound fileOutbound =>
      by_cases same : id = other
      · subst other
        exact .inr ⟨outbound, fileOutbound, rfl⟩
      · simp only [handle] at registered
        split at registered
        · exact .inl registered
        · exact .inl (by simpa [Registered, same] using registered)
  | deregister other =>
      simp only [handle] at registered
      split at registered
      · exact .inl (AList.mem_erase.mp registered).2
      · exact .inl registered
  | publish sender clip => exact .inl registered
  | publishFile sender chunk => exact .inl registered

namespace Server

/-- A registration is on its way to the hub. -/
def Pending (server : Server) (id : Uuid) : Prop :=
  ∃ outbound fileOutbound,
    HubMessage.register id outbound fileOutbound ∈ server.inbox.buffer

/-- The application has a task, an entry or a message for a connection. -/
def Attended (server : Server) (id : Uuid) : Prop :=
  server.Served id ∨ server.relay.hub.Registered id ∨ server.Pending id

theorem not_attended_start (config : ServerConfig) (id : Uuid) :
    ¬ (start config).Attended id := by
  rintro ((⟨socket, known, -⟩ | ⟨socket, known, -⟩ | running) |
    registered | ⟨outbound, fileOutbound, member⟩)
  · cases known
  · cases known
  · cases running
  · simp [start, Relay.start, Hub.new, Hub.Registered] at registered
  · cases member

/-- A connection with a permit is attended. -/
theorem attended_of_phase
    {server : Server}
    {id : Uuid}
    {socket : Socket}
    (known : server.sockets id = some socket)
    (phase : socket.phase ≠ .closed) :
    server.Attended id :=
  .inl (.inl ⟨socket, known, phase⟩)

/-- A connection with a running reader is attended. -/
theorem attended_of_reader
    {server : Server}
    {id : Uuid}
    {socket : Socket}
    (known : server.sockets id = some socket)
    (running : socket.reader.Running) :
    server.Attended id :=
  .inl (.inr (.inl ⟨socket, known, running⟩))

/-- A step that concerns one connection attends to no other. -/
theorem attended_setSocket
    {server base : Server}
    {id other : Uuid}
    {socket : Socket}
    (own : other = id → server.Attended other)
    (others : other ≠ id → base.Attended other → server.Attended other)
    (attended : (base.setSocket id socket).Attended other) :
    server.Attended other := by
  by_cases same : other = id
  · exact own same
  · refine others same ?_
    rcases attended with (holds | ⟨found, known, running⟩ | writes) | rest
    · exact .inl (.inl ((holdsPermit_setSocket_of_ne socket same).mp holds))
    · rw [sockets_setSocket_of_ne base socket same] at known
      exact .inl (.inr (.inl ⟨found, known, running⟩))
    · exact .inl (.inr (.inr writes))
    · exact .inr rest

/-- A step that concerns an attended connection attends to no other. -/
theorem attended_known
    {server base : Server}
    {id other : Uuid}
    {socket : Socket}
    (was : server.Attended id)
    (others : other ≠ id → base.Attended other → server.Attended other)
    (attended : (base.setSocket id socket).Attended other) :
    server.Attended other := by
  refine attended_setSocket ?_ others attended
  intro same
  rw [same]
  exact was

/-- A step of the relay in which the hub does nothing attends to nobody. -/
theorem attended_relay
    {server : Server}
    {action : RelayAction}
    {next : Relay}
    {id : Uuid}
    (stepped : server.relay.step? action = some next)
    (quiet : action.processed? = none)
    (notWelcome : action ≠ .welcome id)
    (attended : Attended { server with relay := next } id) :
    server.Attended id := by
  have hub : next.hub = server.relay.hub := by
    have same := Relay.hub_step stepped
    rwa [quiet] at same
  rcases attended with (holds | reads | writes) | registered | pending
  · exact .inl (.inl holds)
  · exact .inl (.inr (.inl reads))
  · rcases Relay.running_of_step stepped writes with before | welcomes
    · exact .inl (.inr (.inr before))
    · exact (notWelcome welcomes).elim
  · rw [hub] at registered
    exact .inr (.inl registered)
  · exact .inr (.inr pending)

/-- A message attends to nobody, unless it is a registration. -/
theorem attended_push
    {server : Server}
    {message : HubMessage}
    {room : server.inbox.HasRoom}
    {id : Uuid}
    (registering :
      ∀ outbound fileOutbound,
        message = .register id outbound fileOutbound → server.Attended id)
    (attended :
      Attended { server with inbox := server.inbox.push message room } id) :
    server.Attended id := by
  rcases attended with served | registered |
    ⟨outbound, fileOutbound, member⟩
  · exact .inl served
  · exact .inr (.inl registered)
  · rw [Channel.buffer_push, List.mem_append, List.mem_singleton] at member
    rcases member with before | isNew
    · exact .inr (.inr ⟨outbound, fileOutbound, before⟩)
    · exact registering outbound fileOutbound isNew.symm

/-- The hub attends to those whose registration it handles. -/
theorem attended_process
    {server : Server}
    {message : HubMessage}
    {next : Relay}
    {id : Uuid}
    (first : server.inbox.buffer = message :: server.inbox.buffer.tail)
    (stepped : server.relay.step? (.process message) = some next)
    (attended :
      Attended
        { server with relay := next, inbox := server.inbox.dropHead } id) :
    server.Attended id := by
  rcases attended with (holds | reads | writes) | registered |
    ⟨outbound, fileOutbound, member⟩
  · exact .inl (.inl holds)
  · exact .inl (.inr (.inl reads))
  · rcases Relay.running_of_step stepped writes with before | welcomes
    · exact .inl (.inr (.inr before))
    · cases welcomes
  · have hub :
        next.hub = (server.relay.hub.handle server.relay.mail message).hub :=
      Relay.hub_step stepped
    rw [hub] at registered
    rcases Hub.registered_handle registered with
      before | ⟨outbound, fileOutbound, rfl⟩
    · exact .inr (.inl before)
    · refine .inr (.inr ⟨outbound, fileOutbound, ?_⟩)
      rw [first]
      exact List.mem_cons_self
  · exact .inr (.inr ⟨outbound, fileOutbound, List.mem_of_mem_tail member⟩)

/-- Whoever is attended after a step was so before, or has just connected. -/
theorem attended_of_step
    {server next : Server}
    {action : ServerAction}
    {id : Uuid}
    (readers : server.ReadersPublish)
    (stepped : server.step? fromStr config action = some next)
    (attended : next.Attended id) :
    server.Attended id ∨ action = .connect id := by
  cases serverStep_of_step? stepped with
  | refused unknown full =>
      exact .inl attended
  | @connected other permits unknown free =>
      by_cases same : id = other
      · subst other
        exact .inr rfl
      · exact .inl
          (attended_setSocket (fun isSame => (same isSame).elim)
            (fun _ before => before) attended)
  | upgraded known phase =>
      exact .inl
        (attended_known
          (attended_of_phase known (by simp [phase]))
          (fun _ before => before) attended)
  | abandoned known phase =>
      exact .inl
        (attended_known
          (attended_of_phase known (by simp [phase]))
          (fun _ before => before) attended)
  | registered known phase room =>
      refine .inl (attended_known
        (attended_of_phase known (by simp [phase])) ?_ attended)
      intro different
      refine attended_push ?_
      intro outbound fileOutbound isRegister
      cases isRegister
      exact (different rfl).elim
  | processed first relayed =>
      exact .inl (attended_process first relayed attended)
  | welcomed known phase found ack relayed =>
      refine .inl (attended_known
        (attended_of_phase known (by simp [phase])) ?_ attended)
      intro different
      refine attended_relay relayed rfl ?_
      intro same
      cases same
      exact different rfl
  | turnedAway known phase found ack relayed =>
      refine .inl (attended_known
        (attended_of_phase known (by simp [phase])) ?_ attended)
      intro different
      refine attended_relay relayed rfl ?_
      intro same
      cases same
      exact different rfl
  | received known reading =>
      exact .inl
        (attended_known
          (attended_of_reader known (by rw [reading]; trivial))
          (fun _ before => before) attended)
  | published known publishing room =>
      refine .inl (attended_known
        (attended_of_reader known (by rw [publishing]; trivial)) ?_ attended)
      intro different
      refine attended_push ?_
      intro outbound fileOutbound isRegister
      have sender := readers known _ publishing
      rw [isRegister] at sender
      cases sender
  | rejected known rejecting relayed =>
      refine .inl (attended_known
        (attended_of_reader known (by rw [rejecting]; trivial)) ?_ attended)
      exact fun _ => attended_relay relayed rfl (by simp)
  | rejectedLate known rejecting gone =>
      exact .inl
        (attended_known
          (attended_of_reader known (by rw [rejecting]; trivial))
          (fun _ before => before) attended)
  | drained known closed relayed =>
      exact .inl (attended_relay relayed rfl (by simp) attended)
  | @wrote other socket relay known live relayed =>
      obtain ⟨connection, found, running⟩ := Relay.running_of_write relayed
      have writes : server.WriterRunning other := by
        rw [WriterRunning, found, Option.map_some, running]
      refine .inl (attended_known (.inl (.inr (.inr writes))) ?_ attended)
      exact fun _ => attended_relay relayed rfl (by simp)
  | writeFailed relayed =>
      exact .inl (attended_relay relayed rfl (by simp) attended)
  | finished known phase ended =>
      exact .inl
        (attended_known
          (attended_of_phase known (by simp [phase]))
          (fun _ before => before) attended)
  | deregistered known phase room =>
      refine .inl (attended_known
        (attended_of_phase known (by simp [phase])) ?_ attended)
      intro different
      refine attended_push ?_
      intro outbound fileOutbound isRegister
      cases isRegister
  | released known phase =>
      exact .inl
        (attended_known
          (attended_of_phase known (by simp [phase]))
          (fun _ before => before) attended)

end Server

namespace EmbeddedHub

/-- A client is connected to a hub in one way or another. -/
def Attached (hub : EmbeddedHub) (id : Uuid) : Prop :=
  id ∈ hub.accepted ∨ hub.server.Attended id

/-- Nobody is connected to a new hub. -/
theorem not_attached_spawn (config : ServerConfig) (id : Uuid) :
    ¬ (spawn config).Attached id := by
  rintro (member | attended)
  · cases member
  · exact Server.not_attended_start config id attended

@[simp] theorem attached_abort {hub : EmbeddedHub} {id : Uuid} :
    hub.abort.Attached id ↔ hub.Attached id := by
  unfold abort
  split <;> rfl

/-- An aborted task does not run. -/
theorem not_runs_abort (hub : EmbeddedHub) : ¬ hub.abort.Runs := by
  unfold abort
  split
  · simp [Runs]
  · simp [Runs]
  · rename_i failed
    simp [Runs, failed]
  · rename_i aborted
    simp [Runs, aborted]

/-- Aborting the task changes neither the configuration nor the application. -/
theorem abort_server (hub : EmbeddedHub) :
    hub.abort.config = hub.config ∧ hub.abort.server = hub.server := by
  unfold abort
  split <;> exact ⟨rfl, rfl⟩

/-- The application of a hub is in a state that a server can reach. -/
def Reachable (fromStr : String → Option Frame) (hub : EmbeddedHub) : Prop :=
  StepRun.Reachable (Server.step? fromStr hub.config)
    (Server.start hub.config) hub.server

end EmbeddedHub

namespace TrayHost

/-- The task that the tray has the handle of runs. -/
def HubRunning (host : TrayHost) : Prop :=
  ∃ generation hub,
    host.tray.embeddedHub = some generation ∧
      host.hubs generation = some hub ∧ hub.Runs

/-- No remote client is connected to the hub that the tray has the handle of. -/
def Idle (remote : Uuid → Prop) (host : TrayHost) : Prop :=
  ∀ generation hub id,
    host.tray.embeddedHub = some generation →
      host.hubs generation = some hub → remote id → ¬ hub.Attached id

/--
A hub is stopped while no remote client is connected to it, and another one is
started when none runs.
-/
def Undisturbed (remote : Uuid → Prop) (host : TrayHost) : TrayAction → Prop
  | .event (.startHub (.ok _)) =>
      (host.tray.cfg.bind ClientConfig.hub).isSome → ¬ host.HubRunning
  | .event .stopHub | .event (.restartHub _) | .event (.reload _ _)
  | .event (.settingsExited _ _) =>
      host.Idle remote
  | _ =>
      True

/-- Whoever is connected is connected to the hub of the tray. -/
structure OneHub
    (fromStr : String → Option Frame)
    (remote : Uuid → Prop)
    (host : TrayHost) :
    Prop where
  reachable :
    ∀ {generation hub},
      host.hubs generation = some hub → hub.Reachable fromStr
  fresh :
    ∀ {generation hub},
      host.hubs generation = some hub →
        generation ≤ host.tray.embeddedHubGen
  current :
    ∀ {generation},
      host.tray.embeddedHub = some generation →
        generation = host.tray.embeddedHubGen
  runs :
    ∀ {generation hub},
      host.hubs generation = some hub → hub.Runs →
        host.tray.embeddedHub = some generation
  attached :
    ∀ {generation hub id},
      host.hubs generation = some hub → remote id → hub.Attached id →
        host.tray.embeddedHub = some generation ∧ hub.serve = .serving

namespace OneHub

variable {remote : Uuid → Prop} {host : TrayHost}

theorem congr
    {next : TrayHost}
    (oneHub : host.OneHub fromStr remote)
    (hubs : next.hubs = host.hubs)
    (embeddedHub : next.tray.embeddedHub = host.tray.embeddedHub)
    (embeddedHubGen : next.tray.embeddedHubGen = host.tray.embeddedHubGen) :
    next.OneHub fromStr remote where
  reachable known := oneHub.reachable (hubs ▸ known)
  fresh known := by
    rw [embeddedHubGen]
    exact oneHub.fresh (hubs ▸ known)
  current handle := by
    rw [embeddedHubGen]
    exact oneHub.current (embeddedHub ▸ handle)
  runs known := by
    rw [embeddedHub]
    exact oneHub.runs (hubs ▸ known)
  attached known := by
    rw [embeddedHub]
    exact oneHub.attached (hubs ▸ known)

theorem stop
    {tray : Tray}
    (oneHub : host.OneHub fromStr remote)
    (idle : host.Idle remote)
    (forgotten : tray.embeddedHub = none)
    (embeddedHubGen : tray.embeddedHubGen = host.tray.embeddedHubGen) :
    OneHub fromStr remote { host.abortHub with tray := tray } := by
  cases handle : host.tray.embeddedHub with
  | none =>
      refine oneHub.congr ?_ (by rw [handle]; exact forgotten) embeddedHubGen
      simp [abortHub, handle]
  | some current =>
      -- every hub is as it was, or is the aborted one
      have hubs {generation : Nat} {hub : EmbeddedHub}
          (known : host.abortHub.hubs generation = some hub) :
          ∃ before,
            host.hubs generation = some before ∧
              (generation = current ∧ hub = before.abort ∨
                generation ≠ current ∧ hub = before) := by
        simp only [abortHub, handle] at known
        by_cases same : generation = current
        · subst same
          rw [Function.update_self, Option.map_eq_some_iff] at known
          obtain ⟨before, found, rfl⟩ := known
          exact ⟨before, found, .inl ⟨rfl, rfl⟩⟩
        · rw [Function.update_of_ne same] at known
          exact ⟨hub, known, .inr ⟨same, rfl⟩⟩
      have nobody {generation : Nat} {before : EmbeddedHub} {id : Uuid}
          (found : host.hubs generation = some before)
          (isRemote : remote id)
          (attached : before.Attached id) :
          False := by
        obtain ⟨isCurrent, -⟩ := oneHub.attached found isRemote attached
        exact idle generation before id isCurrent found isRemote attached
      constructor
      · intro generation hub known
        obtain ⟨before, found, ⟨-, rfl⟩ | ⟨-, rfl⟩⟩ := hubs known
        · obtain ⟨config, server⟩ := before.abort_server
          rw [EmbeddedHub.Reachable, config, server]
          exact oneHub.reachable found
        · exact oneHub.reachable found
      · intro generation hub known
        obtain ⟨before, found, -⟩ := hubs known
        show generation ≤ tray.embeddedHubGen
        rw [embeddedHubGen]
        exact oneHub.fresh found
      · intro generation isCurrent
        rw [show tray.embeddedHub = some generation from isCurrent] at forgotten
        cases forgotten
      · intro generation hub known running
        obtain ⟨before, found, ⟨-, rfl⟩ | ⟨different, rfl⟩⟩ :=
          hubs known
        · exact (before.not_runs_abort running).elim
        · have isCurrent := oneHub.runs found running
          rw [handle, Option.some.injEq] at isCurrent
          exact (different isCurrent.symm).elim
      · intro generation hub id known isRemote attached
        obtain ⟨before, found, ⟨-, rfl⟩ | ⟨-, rfl⟩⟩ := hubs known
        · exact
            (nobody found isRemote
              (EmbeddedHub.attached_abort.mp attached)).elim
        · exact (nobody found isRemote attached).elim

theorem spawn
    {tray : Tray}
    {config : ServerConfig}
    (oneHub : host.OneHub fromStr remote)
    (stopped : ¬ host.HubRunning)
    (embeddedHub : tray.embeddedHub = some tray.embeddedHubGen)
    (embeddedHubGen :
      tray.embeddedHubGen = host.tray.embeddedHubGen + 1) :
    OneHub fromStr remote
      ({ host with tray := tray }.setHub tray.embeddedHubGen
        (EmbeddedHub.spawn config)) := by
  have hubs {generation : Nat} {hub : EmbeddedHub}
      (known :
        ({ host with tray := tray }.setHub tray.embeddedHubGen
          (EmbeddedHub.spawn config)).hubs generation = some hub) :
      generation = tray.embeddedHubGen ∧ hub = EmbeddedHub.spawn config ∨
        host.hubs generation = some hub := by
    by_cases same : generation = tray.embeddedHubGen
    · subst same
      simp only [setHub, Function.update_self, Option.some.injEq] at known
      exact .inl ⟨rfl, known.symm⟩
    · simp only [setHub, ne_eq, same, not_false_eq_true,
        Function.update_of_ne] at known
      exact .inr known
  have noneRuns {generation : Nat} {hub : EmbeddedHub}
      (known : host.hubs generation = some hub) :
      ¬ hub.Runs :=
    fun running =>
      stopped ⟨generation, hub, oneHub.runs known running, known, running⟩
  constructor
  · intro generation hub known
    rcases hubs known with ⟨-, rfl⟩ | before
    · exact ⟨[], rfl⟩
    · exact oneHub.reachable before
  · intro generation hub known
    show generation ≤ tray.embeddedHubGen
    rcases hubs known with ⟨rfl, -⟩ | before
    · exact Nat.le_refl _
    · have bound := oneHub.fresh before
      omega
  · intro generation isCurrent
    rw [show tray.embeddedHub = some generation from isCurrent,
      Option.some.injEq] at embeddedHub
    exact embeddedHub
  · intro generation hub known running
    rcases hubs known with ⟨rfl, -⟩ | before
    · exact embeddedHub
    · exact (noneRuns before running).elim
  · intro generation hub id known isRemote attached
    rcases hubs known with ⟨-, rfl⟩ | before
    · exact (EmbeddedHub.not_attached_spawn config id attached).elim
    · obtain ⟨-, serving⟩ := oneHub.attached before isRemote attached
      exact (noneRuns before (.inr serving)).elim

/-- The tray starts the hub of a configuration, or fails to. -/
theorem startEmbeddedHubWithCfg
    {configPath : String}
    {bind : Except String UInt16}
    {client : ClientConfig}
    (oneHub : host.OneHub fromStr remote)
    (stopped :
      client.hub.isSome → bind.isOk → ¬ host.HubRunning) :
    (TrayHost.startEmbeddedHubWithCfg configPath bind host client).1.OneHub
      fromStr remote := by
  unfold TrayHost.startEmbeddedHubWithCfg
  cases isHub : client.hub with
  | none =>
      exact oneHub
  | some hubConfig =>
      cases bind with
      | error reason =>
          exact oneHub.congr rfl rfl rfl
      | ok port =>
          exact oneHub.spawn (stopped (by rw [isHub]; rfl) rfl) rfl rfl

/-- The tray without a handle starts what its configuration asks for. -/
theorem applyLoadedConfig
    (configPath : String)
    (bind : Except String UInt16)
    (oneHub : host.OneHub fromStr remote)
    (noHandle : host.tray.embeddedHub = none) :
    (host.applyLoadedConfig configPath bind).OneHub fromStr remote := by
  have stopped : ¬ host.HubRunning := by
    rintro ⟨generation, hub, isCurrent, -⟩
    rw [noHandle] at isCurrent
    cases isCurrent
  unfold TrayHost.applyLoadedConfig
  split
  · exact oneHub
  · rename_i client loaded
    have started :
        OneHub fromStr remote
          (if client.hub.any (·.enabled) then
            (TrayHost.startEmbeddedHubWithCfg configPath bind host client).1
          else
            host) := by
      split
      · exact oneHub.startEmbeddedHubWithCfg (fun _ _ => stopped)
      · exact oneHub
    exact started.congr rfl rfl rfl

/-- An idle hub is stopped, and the tray starts what the new file asks for. -/
theorem reload
    (configPath : String)
    (loaded : Option ClientConfig)
    (bind : Except String UInt16)
    (oneHub : host.OneHub fromStr remote)
    (idle : host.Idle remote) :
    (host.reload configPath loaded bind).OneHub fromStr remote := by
  have stopped : host.abortRunning.OneHub fromStr remote :=
    oneHub.stop idle rfl rfl
  have reloaded :
      (host.abortRunning.reloadConfigInto loaded).OneHub fromStr remote :=
    stopped.congr rfl rfl rfl
  exact reloaded.applyLoadedConfig configPath bind rfl

/-- The tray forgets the handle of a task that has ended by itself. -/
theorem exited
    {generation : Nat}
    (oneHub : host.OneHub fromStr remote)
    (isCurrent : generation = host.tray.embeddedHubGen)
    (sent : host.Sent (.hubExited generation)) :
    OneHub fromStr remote
      { host with tray := { host.tray with embeddedHub := none } } := by
  have noneRuns {other : Nat} {hub : EmbeddedHub}
      (known : host.hubs other = some hub) :
      ¬ hub.Runs := by
    intro running
    have same : other = generation := by
      rw [oneHub.current (oneHub.runs known running), isCurrent]
    have failed :
        (host.hubs generation).map EmbeddedHub.serve = some .failed :=
      sent
    rw [← same, known, Option.map_some, Option.some.injEq] at failed
    rcases running with starting | serving
    · rw [failed] at starting
      cases starting
    · rw [failed] at serving
      cases serving
  constructor
  · exact oneHub.reachable
  · exact oneHub.fresh
  · intro other handle
    cases handle
  · intro other hub known running
    exact (noneRuns known running).elim
  · intro other hub id known isRemote attached
    obtain ⟨-, serving⟩ := oneHub.attached known isRemote attached
    exact (noneRuns known (.inr serving)).elim

/-- Every event that disturbs nobody leaves the clients with one hub. -/
theorem handleEvent
    {configPath : String}
    {event : TrayEvent}
    (oneHub : host.OneHub fromStr remote)
    (undisturbed : host.Undisturbed remote (.event event))
    (sent : host.Sent event) :
    (host.handleEvent configPath event).OneHub fromStr remote := by
  cases event with
  | startHub bind =>
      simp only [TrayHost.handleEvent, startEmbeddedHub]
      split
      · exact oneHub
      · rename_i client loaded
        refine oneHub.startEmbeddedHubWithCfg ?_
        intro isHub isOk
        cases bind with
        | ok port => exact undisturbed (by rw [loaded]; exact isHub)
        | error reason => cases isOk
  | stopHub =>
      exact oneHub.stop undisturbed rfl rfl
  | restartHub bind =>
      have stopped : host.stopEmbeddedHub.OneHub fromStr remote :=
        oneHub.stop undisturbed rfl rfl
      simp only [TrayHost.handleEvent, startEmbeddedHub]
      split
      · exact stopped
      · refine stopped.startEmbeddedHubWithCfg ?_
        rintro - - ⟨generation, hub, isCurrent, -⟩
        cases isCurrent
  | reload loaded bind =>
      exact oneHub.reload configPath loaded bind undisturbed
  | settingsExited loaded bind =>
      have closed :
          OneHub fromStr remote
            { host with tray := { host.tray with settingsAlive := false } } :=
        oneHub.congr rfl rfl rfl
      exact closed.reload configPath loaded bind undisturbed
  | editConfig launched =>
      exact oneHub.congr rfl rfl rfl
  | supervisorExited generation =>
      simp only [TrayHost.handleEvent]
      split
      · exact oneHub.congr rfl rfl rfl
      · exact oneHub
  | hubExited generation =>
      simp only [TrayHost.handleEvent]
      split
      · rename_i isCurrent
        exact oneHub.exited isCurrent.2 sent
      · exact oneHub
  | clientStatusChanged generation status =>
      simp only [TrayHost.handleEvent]
      split
      · exact oneHub.congr rfl rfl rfl
      · exact oneHub
  | hubPeerCountChanged =>
      exact oneHub
  | themeChanged =>
      exact oneHub

/-- One hub changes; its clients are those of the tray's hub. -/
theorem setHub
    {generation : Nat}
    {hub next : EmbeddedHub}
    (oneHub : host.OneHub fromStr remote)
    (known : host.hubs generation = some hub)
    (reachable : next.Reachable fromStr)
    (runs : next.Runs → hub.Runs)
    (attached :
      ∀ id, remote id → next.Attached id →
        host.tray.embeddedHub = some generation ∧ next.serve = .serving) :
    (host.setHub generation next).OneHub fromStr remote := by
  have hubs {other : Nat} {found : EmbeddedHub}
      (lookup : (host.setHub generation next).hubs other = some found) :
      other = generation ∧ found = next ∨ host.hubs other = some found := by
    by_cases same : other = generation
    · subst same
      simp only [TrayHost.setHub, Function.update_self, Option.some.injEq]
        at lookup
      exact .inl ⟨rfl, lookup.symm⟩
    · simp only [TrayHost.setHub, ne_eq, same, not_false_eq_true,
        Function.update_of_ne] at lookup
      exact .inr lookup
  constructor
  · intro other found lookup
    rcases hubs lookup with ⟨-, rfl⟩ | before
    · exact reachable
    · exact oneHub.reachable before
  · intro other found lookup
    rcases hubs lookup with ⟨rfl, -⟩ | before
    · exact oneHub.fresh known
    · exact oneHub.fresh before
  · exact oneHub.current
  · intro other found lookup running
    rcases hubs lookup with ⟨rfl, rfl⟩ | before
    · exact oneHub.runs known (runs running)
    · exact oneHub.runs before running
  · intro other found id lookup isRemote isAttached
    rcases hubs lookup with ⟨rfl, rfl⟩ | before
    · exact attached id isRemote isAttached
    · exact oneHub.attached before isRemote isAttached

end OneHub

/-- An upgrade or another step of the application, as a step of its server. -/
theorem connection?_eq_some
    {hub next : EmbeddedHub}
    {action : ServerAction}
    (stepped : connection? fromStr hub action = some next) :
    hub.server.step? fromStr hub.config action = some next.server ∧
      next.config = hub.config ∧ next.serve = hub.serve ∧
        (∀ id, action = .connect id → id ∈ hub.accepted) ∧
          ∀ id ∈ next.accepted, id ∈ hub.accepted := by
  unfold connection? at stepped
  split at stepped
  · rename_i id
    split at stepped
    · rename_i member
      obtain ⟨server, moved, rfl⟩ := Option.map_eq_some_iff.mp stepped
      refine ⟨moved, rfl, rfl, ?_, fun other => List.mem_of_mem_erase⟩
      intro other same
      cases same
      exact member
    · cases stepped
  · rename_i notConnect
    obtain ⟨server, moved, rfl⟩ := Option.map_eq_some_iff.mp stepped
    refine ⟨moved, rfl, rfl, ?_, fun other member => member⟩
    intro other same
    exact (notConnect other same).elim

/-- A step of the application connects nobody who was not connected before. -/
theorem attached_of_connection
    {hub next : EmbeddedHub}
    {action : ServerAction}
    {id : Uuid}
    (reachable : hub.Reachable fromStr)
    (stepped : connection? fromStr hub action = some next)
    (attached : next.Attached id) :
    hub.Attached id := by
  obtain ⟨moved, -, -, connects, accepted⟩ := connection?_eq_some stepped
  obtain ⟨past, ran⟩ := reachable
  rcases attached with member | attended
  · exact .inl (accepted id member)
  · rcases Server.attended_of_step (Server.readersPublish_of_run ran) moved
      attended with before | isConnect
    · exact .inr before
    · exact .inl (connects id isConnect)

/-- Every step of a hub leaves the clients with one hub. -/
theorem OneHub.hubStep
    {remote : Uuid → Prop}
    {host : TrayHost}
    {generation : Nat}
    {hub next : EmbeddedHub}
    {action : TrayAction}
    (oneHub : host.OneHub fromStr remote)
    (known : host.hubs generation = some hub)
    (stepped : hubStep? fromStr hub action = some next) :
    (host.setHub generation next).OneHub fromStr remote := by
  have reachable := oneHub.reachable known
  cases action with
  | event event => cases stepped
  | serveStarts other succeeds =>
      simp only [hubStep?] at stepped
      split at stepped
      · rename_i starting
        cases stepped
        refine oneHub.setHub known reachable (fun _ => .inl starting) ?_
        intro id isRemote attached
        have before := (oneHub.attached known isRemote attached).2
        rw [starting] at before
        cases before
      · cases stepped
  | accept other id =>
      simp only [hubStep?] at stepped
      split at stepped
      · rename_i serving
        cases stepped
        exact oneHub.setHub known reachable (fun _ => .inr serving)
          (fun _ _ _ => ⟨oneHub.runs known (.inr serving), serving⟩)
      · cases stepped
  | disconnect other id =>
      cases stepped
      have before {client : Uuid}
          (isRemote : remote client)
          (attached : hub.Attached client) :=
        oneHub.attached known isRemote attached
      refine oneHub.setHub known reachable (fun running => running) ?_
      rintro client isRemote (member | attended)
      · exact before isRemote (.inl (List.mem_of_mem_erase member))
      · exact before isRemote (.inr attended)
  | connection other action =>
      obtain ⟨moved, config, serve, -⟩ := connection?_eq_some stepped
      have ran :
          StepRun.run? (Server.step? fromStr hub.config) hub.server [action] =
            some next.server :=
        StepRun.run?_cons_eq_some.mpr ⟨next.server, moved, rfl⟩
      have nextReachable : next.Reachable fromStr := by
        rw [EmbeddedHub.Reachable, config]
        exact reachable.extend ran
      refine oneHub.setHub known nextReachable ?_ ?_
      · rw [EmbeddedHub.Runs, serve]
        exact fun running => running
      · intro id isRemote attached
        rw [serve]
        exact
          oneHub.attached known isRemote
            (attached_of_connection reachable stepped attached)

theorem OneHub.step
    {remote : Uuid → Prop}
    {configPath : String}
    {host next : TrayHost}
    {action : TrayAction}
    (oneHub : host.OneHub fromStr remote)
    (undisturbed : host.Undisturbed remote action)
    (stepped : host.step? fromStr configPath action = some next) :
    next.OneHub fromStr remote := by
  have hubStepped {generation : Nat}
      (moved :
        ((host.hubs generation).bind fun hub =>
          (hubStep? fromStr hub action).map (host.setHub generation)) =
        some next) :
      next.OneHub fromStr remote := by
    obtain ⟨hub, known, moved⟩ := Option.bind_eq_some_iff.mp moved
    obtain ⟨changed, hubMoved, rfl⟩ := Option.map_eq_some_iff.mp moved
    exact oneHub.hubStep known hubMoved
  cases action with
  | event event =>
      simp only [step?] at stepped
      split at stepped
      · rename_i sent
        cases stepped
        exact oneHub.handleEvent undisturbed sent
      · cases stepped
  | serveStarts generation succeeds => exact hubStepped stepped
  | accept generation id => exact hubStepped stepped
  | disconnect generation id => exact hubStepped stepped
  | connection generation action => exact hubStepped stepped

theorem oneHub_start
    (remote : Uuid → Prop)
    (configPath : String)
    (initial : Option ClientConfig)
    (bind : Except String UInt16) :
    (start configPath initial bind).OneHub fromStr remote := by
  refine OneHub.applyLoadedConfig configPath bind ?_ rfl
  constructor
  · intro generation hub known
    cases known
  · intro generation hub known
    cases known
  · intro generation handle
    cases handle
  · intro generation hub known
    cases known
  · intro generation hub id known
    cases known

/--
In every run in which hubs are stopped while no remote client is connected to
them, and started when none runs, any two connected remote clients are with
the same hub, which is the one that the tray has the handle of and serves.
-/
theorem one_hub_at_a_time
    (remote : Uuid → Prop)
    {configPath : String}
    {initial : Option ClientConfig}
    {bind : Except String UInt16}
    {actions : List TrayAction}
    {host : TrayHost}
    (along :
      StepRun.Along (step? fromStr configPath) (Undisturbed remote)
        (start configPath initial bind) actions)
    (ran :
      StepRun.run? (step? fromStr configPath)
          (start configPath initial bind) actions =
        some host) :
    (∀ first second firstHub secondHub firstGen secondGen,
        remote first → remote second →
          host.hubs firstGen = some firstHub →
            host.hubs secondGen = some secondHub →
              firstHub.Attached first → secondHub.Attached second →
                firstGen = secondGen) ∧
      ∀ id hub generation,
        remote id → host.hubs generation = some hub → hub.Attached id →
          host.tray.embeddedHub = some generation ∧ hub.serve = .serving := by
  have oneHub : host.OneHub fromStr remote :=
    StepRun.run?_history
      (motive := fun _ state => state.OneHub fromStr remote)
      (oneHub_start remote configPath initial bind)
      (fun within earlier oneHub stepped =>
        oneHub.step (along.meets within earlier) stepped)
      ran
  refine ⟨?_, ?_⟩
  · intro first second firstHub secondHub firstGen secondGen isRemote
      alsoRemote known alsoKnown attached alsoAttached
    have handle := (oneHub.attached known isRemote attached).1
    have alsoHandle := (oneHub.attached alsoKnown alsoRemote alsoAttached).1
    rw [handle, Option.some.injEq] at alsoHandle
    exact alsoHandle
  · intro id hub generation isRemote known attached
    exact oneHub.attached known isRemote attached

/-- A start of the hub leaves the earlier hubs alone. -/
theorem startEmbeddedHubWithCfg_frame
    (configPath : String)
    (bind : Except String UInt16)
    (host : TrayHost)
    (client : ClientConfig) :
    ((startEmbeddedHubWithCfg configPath bind host client).1.tray.embeddedHub =
          host.tray.embeddedHub ∨
        (startEmbeddedHubWithCfg configPath bind host
            client).1.tray.embeddedHub =
          some (host.tray.embeddedHubGen + 1)) ∧
      ∀ generation ≤ host.tray.embeddedHubGen,
        (startEmbeddedHubWithCfg configPath bind host client).1.hubs
            generation =
          host.hubs generation := by
  unfold startEmbeddedHubWithCfg
  cases client.hub with
  | none => exact ⟨.inl rfl, fun _ _ => rfl⟩
  | some hubConfig =>
      cases bind with
      | error reason => exact ⟨.inl rfl, fun _ _ => rfl⟩
      | ok port =>
          refine ⟨.inr rfl, ?_⟩
          intro generation bound
          exact Function.update_of_ne (by omega) _ _

/-- The events that stop the hub. -/
def StopsHub : TrayEvent → Prop
  | .stopHub | .restartHub _ | .reload _ _ | .settingsExited _ _ => True
  | _ => False

/-- After a stop the tray has another handle or none. -/
theorem handleEvent_stopsHub
    (configPath : String)
    (host : TrayHost)
    {event : TrayEvent}
    (stops : StopsHub event) :
    ((host.handleEvent configPath event).tray.embeddedHub = none ∨
        (host.handleEvent configPath event).tray.embeddedHub =
          some (host.tray.embeddedHubGen + 1)) ∧
      ∀ generation ≤ host.tray.embeddedHubGen,
        (host.handleEvent configPath event).hubs generation =
          host.abortHub.hubs generation := by
  have applied
      (bind : Except String UInt16)
      (stopped : TrayHost)
      (noHandle : stopped.tray.embeddedHub = none) :
      ((stopped.applyLoadedConfig configPath bind).tray.embeddedHub = none ∨
          (stopped.applyLoadedConfig configPath bind).tray.embeddedHub =
            some (stopped.tray.embeddedHubGen + 1)) ∧
        ∀ generation ≤ stopped.tray.embeddedHubGen,
          (stopped.applyLoadedConfig configPath bind).hubs generation =
            stopped.hubs generation := by
    unfold applyLoadedConfig
    split
    · exact ⟨.inl noHandle, fun _ _ => rfl⟩
    · rename_i client loaded
      simp only
      split
      · have frame :=
          startEmbeddedHubWithCfg_frame configPath bind stopped client
        rwa [noHandle] at frame
      · exact ⟨.inl noHandle, fun _ _ => rfl⟩
  cases event with
  | stopHub => exact ⟨.inl rfl, fun _ _ => rfl⟩
  | restartHub bind =>
      simp only [handleEvent, startEmbeddedHub]
      split
      · exact ⟨.inl rfl, fun _ _ => rfl⟩
      · rename_i client loaded
        exact
          startEmbeddedHubWithCfg_frame configPath bind host.stopEmbeddedHub
            client
  | reload loaded bind =>
      exact applied bind (host.abortRunning.reloadConfigInto loaded) rfl
  | settingsExited loaded bind =>
      have same :
          ({ host with
              tray :=
                { host.tray with settingsAlive := false } } :
              TrayHost).abortHub.hubs =
            host.abortHub.hubs := by
        unfold abortHub
        cases host.tray.embeddedHub <;> rfl
      rw [← same]
      exact
        applied bind
          ({ host with
              tray :=
                { host.tray with
                  settingsAlive :=
                    false } }.abortRunning.reloadConfigInto loaded)
          rfl
  | startHub bind => exact stops.elim
  | editConfig launched => exact stops.elim
  | supervisorExited generation => exact stops.elim
  | hubExited generation => exact stops.elim
  | clientStatusChanged generation status => exact stops.elim
  | hubPeerCountChanged => exact stops.elim
  | themeChanged => exact stops.elim

/--
The condition leaves out nothing harmless: a stop with a remote client leaves
that client with a hub that is no longer the tray's.
-/
theorem left_behind_of_not_idle
    {remote : Uuid → Prop}
    {host : TrayHost}
    {event : TrayEvent}
    (configPath : String)
    (oneHub : host.OneHub fromStr remote)
    (stops : StopsHub event)
    (visited : ¬ host.Idle remote) :
    ∃ id hub generation,
      remote id ∧
        (host.handleEvent configPath event).hubs generation = some hub ∧
          hub.Attached id ∧
            (host.handleEvent configPath event).tray.embeddedHub ≠
              some generation := by
  simp only [Idle, not_forall, not_not] at visited
  obtain ⟨generation, hub, id, handle, known, isRemote, attached⟩ := visited
  have bound := oneHub.fresh known
  have isLast := oneHub.current handle
  obtain ⟨handles, hubs⟩ := handleEvent_stopsHub configPath host stops
  refine ⟨id, hub.abort, generation, isRemote, ?_, ?_, ?_⟩
  · rw [hubs generation bound]
    simp [abortHub, handle, known]
  · exact EmbeddedHub.attached_abort.mpr attached
  · rcases handles with noHandle | another
    · rw [noHandle]
      simp
    · rw [another, isLast]
      simp

/-- A configuration whose hub is enabled and serves without TLS. -/
def hubOwner : ClientConfig where
  server := "ws://127.0.0.1:8484/sync"
  user := "alice"
  password := "hunter2"
  pollMs := defaultPollMs
  tlsCaFile := none
  tlsInsecure := false
  hub :=
    some
      { HubConfig.default with
        enabled := true
        user := "alice"
        password := "hunter2"
        tlsDisabled := true }

/-- The tray of that configuration, before its event loop. -/
def ownHost : TrayHost :=
  start "config.toml" (some hubOwner) (.ok 8484)

/-- Its first hub once it serves. -/
def servedHub : EmbeddedHub :=
  { EmbeddedHub.spawn
      (embeddedServerConfig (hubOwner.hub.getD .default) "config.toml") with
    serve := .serving }

/-- A client connects to a hub. -/
def visit (generation : Nat) (id : Uuid) : List TrayAction :=
  .accept generation id ::
    (Server.joining id).map (TrayAction.connection generation)

/-- The hub is stopped and started again before two clients connect to it. -/
def sharing : List TrayAction :=
  [.serveStarts 1 true, .event .stopHub, .event (.startHub (.ok 8484)),
      .serveStarts 2 true] ++
    (visit 2 ⟨1⟩ ++ visit 2 ⟨2⟩)

/-- The tray and its hubs after that. -/
def shared : TrayHost :=
  (StepRun.run? (step? (fun _ => none) "config.toml") ownHost sharing).get
    (by decide +kernel)

/-- The hub is stopped while it is idle and started while none runs. -/
theorem sharing_undisturbed :
    StepRun.Along (step? (fun _ => none) "config.toml")
      (Undisturbed fun _ => True) ownHost sharing := by
  have idle : (ownHost.setHub 1 servedHub).Idle fun _ => True := by
    rintro generation hub id isCurrent known -
    cases isCurrent
    cases known
    rintro (member | attended)
    · cases member
    · exact Server.not_attended_start _ id attended
  have stopped :
      ¬ (ownHost.setHub 1 servedHub).stopEmbeddedHub.HubRunning := by
    rintro ⟨generation, hub, isCurrent, -⟩
    cases isCurrent
  refine ⟨trivial, idle, fun _ => stopped, trivial, ?_⟩
  refine StepRun.Along.intro ?_
  intro past action state within ran
  have member : action ∈ visit 2 ⟨1⟩ ++ visit 2 ⟨2⟩ :=
    within.subset (List.mem_append_right past (List.mem_singleton.mpr rfl))
  cases action with
  | event event => simp [visit, Server.joining] at member
  | serveStarts generation succeeds => trivial
  | accept generation id => trivial
  | disconnect generation id => trivial
  | connection generation action => trivial

/-- Both clients are with the hub that the tray has the handle of. -/
theorem shared_one_hub :
    (∀ first second firstHub secondHub firstGen secondGen,
        True → True →
          shared.hubs firstGen = some firstHub →
            shared.hubs secondGen = some secondHub →
              firstHub.Attached first → secondHub.Attached second →
                firstGen = secondGen) ∧
      ∀ id hub generation,
        True → shared.hubs generation = some hub → hub.Attached id →
          shared.tray.embeddedHub = some generation ∧ hub.serve = .serving :=
  one_hub_at_a_time (fun _ => True) sharing_undisturbed
    (Option.some_get _).symm

/-- The hub is stopped and started again between two clients. -/
def restarting : List TrayAction :=
  .serveStarts 1 true :: visit 1 ⟨1⟩ ++
    [.event .stopHub, .event (.startHub (.ok 8484)), .serveStarts 2 true] ++
    visit 2 ⟨2⟩

/-- The tray and its hubs after that. -/
def restarted : TrayHost :=
  (StepRun.run? (step? (fun _ => none) "config.toml") ownHost restarting).get
    (by decide +kernel)

/-- The first client stays registered with the hub that was stopped. -/
theorem restarted_two_hubs :
    ∃ first second,
      restarted.hubs 1 = some first ∧ restarted.hubs 2 = some second ∧
        first.serve = .aborted ∧ second.serve = .serving ∧
          first.server.relay.hub.Registered ⟨1⟩ ∧
            second.server.relay.hub.Registered ⟨2⟩ ∧
              restarted.tray.embeddedHub = some 2 :=
  ⟨(restarted.hubs 1).get (by decide +kernel),
    (restarted.hubs 2).get (by decide +kernel), by simp, by simp,
    by decide +kernel, by decide +kernel, by decide +kernel,
    by decide +kernel, by decide +kernel⟩

end TrayHost

end ClipboardWire
