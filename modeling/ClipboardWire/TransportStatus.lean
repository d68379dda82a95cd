import ClipboardWire.TransportBackoff
import ClipboardWire.TransportShutdown

namespace ClipboardWire

/-!
# The connection status of the transport task

The values that `run_loop` and `connect_and_serve` hand to `status_tx`, in
front of the transport task and the holder of its handle.  `Connected` is sent
as soon as the handshake is over and the welcome is awaited after that; a task
that returns sends nothing at all.
-/

/-- What a report can be checked against. -/
inductive StatusEvent where
  | emitted (status : ClientStatus)
  /-- The handshake of a new connection has succeeded. -/
  | opened
  /-- The first message of the connection is a welcome. -/
  | welcomed
  /-- `tokio::time::sleep` -/
  | slept (delay : Nat)
  /-- `run_loop` has returned. -/
  | returned
  deriving DecidableEq, Repr

/-- The status of an emission. -/
def StatusEvent.status? : StatusEvent → Option ClientStatus
  | .emitted status => some status
  | .opened | .welcomed | .slept _ | .returned => none

/-- The transport task with the locals of `run_loop` and what it has done. -/
structure ReportingTransport where
  transport : Transport
  /-- `status_tx` is given. -/
  statusTx : Bool
  backoff : Nat
  log : List StatusEvent

/-- What the task and the holder of its handle can do. -/
inductive StatusAction where
  /-- A step of the task, with the time since `attempt_start`. -/
  | task (action : TransportAction) (elapsed : Nat)
  | holder (action : OwnerAction)
  deriving DecidableEq, Repr

namespace ReportingTransport

/-- `emit`, and the same lines of `connect_and_serve`. -/
def emission
    (reporting : ReportingTransport)
    (status : ClientStatus) : List StatusEvent :=
  if reporting.statusTx then
    [.emitted status]
  else
    []

/-- Something has happened. -/
def note
    (reporting : ReportingTransport)
    (events : List StatusEvent) : ReportingTransport :=
  { reporting with log := reporting.log ++ events }

/-- `spawn_with_status`, up to the first `connect_and_serve`. -/
def spawn (receiveFiles oneShot statusTx : Bool) : ReportingTransport :=
  let reporting : ReportingTransport :=
    { transport := Transport.spawn receiveFiles oneShot
      statusTx := statusTx
      backoff := initialBackoff
      log := [] }
  reporting.note (reporting.emission .connecting)

/-- The end of a round of `run_loop`, with the delay that it decides on. -/
def disconnect
    (reporting : ReportingTransport)
    (elapsed : Nat) : ReportingTransport :=
  let delay :=
    if resetAfterStable ≤ elapsed then
      initialBackoff
    else
      reporting.backoff
  let decided := { reporting with backoff := delay }
  decided.note (decided.emission (.disconnected delay) ++ [.slept delay])

/-- The assignment behind the delay and the start of the next round. -/
def retry (reporting : ReportingTransport) : ReportingTransport :=
  let doubled :=
    { reporting with backoff := min (reporting.backoff * 2) maxBackoff }
  doubled.note (doubled.emission .connecting)

/-- What a step of the task does apart from the step itself. -/
def report
    (reporting : ReportingTransport)
    (action : TransportAction)
    (elapsed : Nat)
    (next : Transport) : ReportingTransport :=
  let moved := { reporting with transport := next }
  match next.task, action with
  | .stopped, _ =>
      moved.note [.returned]
  | .sleeping, _ =>
      moved.disconnect elapsed
  | _, .connect _ =>
      moved.note (.opened :: moved.emission .connected)
  | _, .receive _ =>
      if reporting.transport.task = .awaitingWelcome then
        moved.note [.welcomed]
      else
        moved
  | _, .wake =>
      moved.retry
  | _, _ =>
      moved

/-- One step. -/
def step? (reporting : ReportingTransport) :
    StatusAction → Option ReportingTransport
  | .task action elapsed =>
      match reporting.transport.step? action with
      | some next => some (reporting.report action elapsed next)
      | none => none
  | .holder (.transport _) =>
      none
  | .holder action =>
      match (OwnedTransport.mk reporting.transport [] []).step? action with
      | some owned => some { reporting with transport := owned.transport }
      | none => none

/-- The statuses in the order of their emission. -/
def statuses (reporting : ReportingTransport) : List ClientStatus :=
  reporting.log.filterMap StatusEvent.status?

end ReportingTransport

/-- The statuses of one connection attempt that is over. -/
def ClientStatus.IsRound (statuses : List ClientStatus) : Prop :=
  ∃ delay,
    statuses = [.connecting, .disconnected delay] ∨
      statuses = [.connecting, .connected, .disconnected delay]

namespace ReportingTransport

/-- The statuses say what the task has done. -/
structure IsTruthful (reporting : ReportingTransport) : Prop where
  rounds :
    ∃ rounds : List (List ClientStatus),
      (∀ round ∈ rounds, ClientStatus.IsRound round) ∧
        reporting.statuses <+: rounds.flatten
  /-- The connection that is reported has had its welcome. -/
  welcomed :
    ∀ before after,
      reporting.log = before ++ .emitted .connected :: after →
      ∃ earlier between,
        before = earlier ++ .welcomed :: between ∧
          StatusEvent.opened ∉ between
  slept :
    ∀ before delay after,
      reporting.log = before ++ .emitted (.disconnected delay) :: after →
      ∃ rest, after = .slept delay :: rest
  returned :
    reporting.transport.task = .stopped →
    reporting.statuses.getLast? ≠ some .connected

/-! ## One step -/

/-- The task is in a connection whose handshake is over. -/
def IsOpen (task : TransportTask) : Prop :=
  task ≠ .connecting ∧ task ≠ .sleeping ∧ task ≠ .stopped

/-- What a step adds to the log, by the task before and after it. -/
inductive Logs
    (reporting : ReportingTransport)
    (next : TransportTask) :
    StatusAction → List StatusEvent → Prop where
  | nothing {action : StatusAction}
      (other : ∀ elapsed, action ≠ .task (.connect true) elapsed)
      (stays :
        next = reporting.transport.task ∨
          IsOpen reporting.transport.task ∧ IsOpen next) :
      Logs reporting next action []
  | welcomed {action : StatusAction}
      (other : ∀ elapsed, action ≠ .task (.connect true) elapsed)
      (opened : IsOpen reporting.transport.task)
      (stays : IsOpen next) :
      Logs reporting next action [.welcomed]
  | opened (elapsed : Nat)
      (task : reporting.transport.task = .connecting)
      (opens : IsOpen next) :
      Logs reporting next (.task (.connect true) elapsed)
        (.opened :: reporting.emission .connected)
  | disconnected {action : StatusAction} (delay : Nat)
      (other : ∀ elapsed, action ≠ .task (.connect true) elapsed)
      (inCall : reporting.transport.InCall)
      (sleeps : next = .sleeping) :
      Logs reporting next action
        (reporting.emission (.disconnected delay) ++ [.slept delay])
  | returned {action : StatusAction}
      (other : ∀ elapsed, action ≠ .task (.connect true) elapsed)
      (inCall : reporting.transport.InCall)
      (stops : next = .stopped) :
      Logs reporting next action [.returned]
  | retried {action : StatusAction}
      (other : ∀ elapsed, action ≠ .task (.connect true) elapsed)
      (task : reporting.transport.task = .sleeping)
      (retries : next = .connecting) :
      Logs reporting next action (reporting.emission .connecting)

/-- The other ends of the channels are not part of the task. -/
theorem task_of_holder
    {owned next : OwnedTransport}
    {action : OwnerAction}
    (holder : ∀ action', action ≠ .transport action')
    (stepped : owned.step? action = some next) :
    next.transport.task = owned.transport.task := by
  cases action with
  | transport action => exact (holder action rfl).elim
  | queueClip item | queueChunk item =>
      simp only [OwnedTransport.step?] at stepped
      split at stepped
      · split at stepped
        · cases stepped; rfl
        all_goals cases stepped
      · cases stepped
  | takeInbound | takeInboundFile =>
      simp only [OwnedTransport.step?] at stepped
      split at stepped
      · cases stepped; rfl
      all_goals cases stepped
  | dropClipSenders | dropChunkSenders | dropInbound | dropInboundFiles =>
      cases stepped
      rfl

/-- What a step of the task reports. -/
theorem logs_report
    {reporting : ReportingTransport}
    {action : TransportAction}
    {next : Transport}
    (elapsed : Nat)
    (moved : Transport.Moves reporting.transport action next) :
    (reporting.report action elapsed next).transport = next ∧
      (reporting.report action elapsed next).statusTx = reporting.statusTx ∧
      ∃ events,
        (reporting.report action elapsed next).log =
          reporting.log ++ events ∧
        Logs reporting next.task (.task action elapsed) events := by
  cases moved with
  | connected task =>
      refine ⟨rfl, rfl, _, rfl, .opened elapsed task ?_⟩
      simp [IsOpen]
  | ended ends =>
      have notWake : action ≠ .wake := by
        rintro rfl
        exact ends
      have inCall := (Transport.Moves.ended ends).inCall notWake
      have notConnected :
          ∀ elapsed', StatusAction.task action elapsed ≠
            .task (.connect true) elapsed' := by
        rintro elapsed' same
        cases same
        cases ends.2
      rcases reporting.transport.endConnection_eq with stops | ⟨-, sleeps⟩
      · rw [stops]
        exact ⟨rfl, rfl, _, rfl, .returned notConnected inCall rfl⟩
      · rw [sleeps]
        exact ⟨rfl, rfl, _, rfl, .disconnected _ notConnected inCall rfl⟩
  | woke task =>
      exact ⟨rfl, rfl, _, rfl, .retried (by simp) task rfl⟩
  | welcomed task nothing =>
      simp only [report, task, if_true]
      exact ⟨rfl, rfl, _, rfl,
        .welcomed (by simp) (by simp [IsOpen, task]) (by simp [IsOpen])⟩
  | cached task carried =>
      simp only [report, task, if_true]
      exact ⟨rfl, rfl, _, rfl,
        .welcomed (by simp) (by simp [IsOpen, task]) (by simp [IsOpen])⟩
  | ignored task noClip stays =>
      refine ⟨?_, ?_, [], ?_, .nothing (by simp) (.inl rfl)⟩
      all_goals simp [report, task]
  | clipArrived task =>
      refine ⟨?_, ?_, [], ?_, .nothing (by simp) (.inr ?_)⟩
      all_goals simp [report, IsOpen, task]
  | chunkArrived task wired =>
      refine ⟨?_, ?_, [], ?_, .nothing (by simp) (.inr ?_)⟩
      all_goals simp [report, IsOpen, task]
  | _ =>
      refine ⟨rfl, rfl, [], ?_, .nothing (by simp) (.inr ?_)⟩
      · simp [report]
      · simp_all [IsOpen]

/-- What one step reports. -/
theorem logs_of_step?
    {reporting next : ReportingTransport}
    {action : StatusAction}
    (stepped : reporting.step? action = some next) :
    next.statusTx = reporting.statusTx ∧
      ∃ events,
        next.log = reporting.log ++ events ∧
          Logs reporting next.transport.task action events := by
  cases action with
  | task action elapsed =>
      simp only [step?] at stepped
      split at stepped
      · rename_i after moved
        cases stepped
        have reported := logs_report elapsed (Transport.moves_of_step? moved)
        rw [reported.1]
        exact reported.2
      · cases stepped
  | holder action =>
      unfold step? at stepped
      split at stepped
      · rename_i same
        cases same
      · cases stepped
      · rename_i holder same
        cases same
        split at stepped
        · rename_i owned moved
          cases stepped
          exact ⟨rfl, [], (List.append_nil _).symm,
            .nothing (by simp) (.inl (task_of_holder holder moved))⟩
        · cases stepped

/-! ## The places of the emissions -/

/-- What stands next to an emission. -/
def Placed (before after : List StatusEvent) : StatusEvent → Prop
  | .emitted .connected =>
      ∃ earlier, before = earlier ++ [.opened]
  | .emitted (.disconnected delay) =>
      ∃ rest, after = .slept delay :: rest
  | .emitted .connecting | .opened | .welcomed | .slept _ | .returned =>
      True

/-- Every emission of a log stands in its place. -/
def WellPlaced (log : List StatusEvent) : Prop :=
  ∀ before event after,
    log = before ++ event :: after → Placed before after event

/-- The place of an emission only depends on its neighbours. -/
theorem Placed.widen
    {before after : List StatusEvent}
    {event : StatusEvent}
    (placed : Placed before after event)
    (first last : List StatusEvent) :
    Placed (first ++ before) (after ++ last) event := by
  unfold Placed at placed ⊢
  split
  · obtain ⟨earlier, rfl⟩ := placed
    exact ⟨first ++ earlier, (List.append_assoc _ _ _).symm⟩
  · obtain ⟨rest, rfl⟩ := placed
    exact ⟨rest ++ last, rfl⟩
  all_goals trivial

/-- Two logs in a row. -/
theorem WellPlaced.append
    {first second : List StatusEvent}
    (wellPlaced : WellPlaced first)
    (wellPlaced' : WellPlaced second) :
    WellPlaced (first ++ second) := by
  intro before event after same
  rcases List.append_eq_append_iff.mp same with
    ⟨middle, rfl, rest⟩ | ⟨middle, inFirst, rest⟩
  · have placed := (wellPlaced' middle event after rest).widen first []
    rwa [List.append_nil] at placed
  · cases middle with
    | nil =>
        have placed := (wellPlaced' [] event after rest.symm).widen first []
        simp only [List.append_nil] at placed inFirst
        rwa [inFirst] at placed
    | cons head tail =>
        obtain ⟨rfl, rfl⟩ := List.cons.inj rest
        exact (wellPlaced before event tail inFirst).widen [] second

theorem wellPlaced_nil : WellPlaced [] := by
  intro before event after same
  simp at same

/-- One event. -/
theorem wellPlaced_single
    {event : StatusEvent}
    (placed : Placed [] [] event) :
    WellPlaced [event] := by
  intro before event' after same
  rcases before with _ | ⟨head, tail⟩
  · obtain ⟨rfl, rfl⟩ := List.cons.inj same
    exact placed
  · simp at same

/-- Two events. -/
theorem wellPlaced_pair
    {first second : StatusEvent}
    (placed : Placed [] [second] first)
    (placed' : Placed [first] [] second) :
    WellPlaced [first, second] := by
  intro before event after same
  rcases before with _ | ⟨head, _ | ⟨head', tail⟩⟩
  · obtain ⟨rfl, rfl⟩ := List.cons.inj same
    exact placed
  · simp only [List.cons_append, List.nil_append, List.cons.injEq] at same
    obtain ⟨rfl, rfl, rfl⟩ := same
    exact placed'
  · simp at same

/-- What a step adds is in its place. -/
theorem Logs.wellPlaced
    {reporting : ReportingTransport}
    {next : TransportTask}
    {action : StatusAction}
    {events : List StatusEvent}
    (logs : Logs reporting next action events) :
    WellPlaced events := by
  cases logs with
  | nothing other stays =>
      exact wellPlaced_nil
  | welcomed other opened stays =>
      exact wellPlaced_single trivial
  | opened elapsed task opens =>
      unfold emission
      split
      · exact wellPlaced_pair trivial ⟨[], rfl⟩
      · exact wellPlaced_single trivial
  | disconnected delay other inCall sleeps =>
      unfold emission
      split
      · exact wellPlaced_pair ⟨[], rfl⟩ trivial
      · exact wellPlaced_single trivial
  | returned other inCall stops =>
      exact wellPlaced_single trivial
  | retried other task retries =>
      unfold emission
      split
      · exact wellPlaced_single trivial
      · exact wellPlaced_nil

/-! ## Whole runs -/

/-- The statuses of the attempt that the task is in. -/
def Underway : TransportTask → List ClientStatus → Prop
  | .connecting, statuses =>
      statuses = [.connecting]
  | .sleeping, statuses =>
      statuses = []
  | .stopped, statuses =>
      statuses = [.connecting] ∨ statuses = [.connecting, .connected]
  | _, statuses =>
      statuses = [.connecting, .connected]

/-- In a connection that is open, both statuses have been sent. -/
theorem underway_of_isOpen
    {task : TransportTask}
    {statuses : List ClientStatus}
    (opened : IsOpen task) :
    Underway task statuses ↔ statuses = [.connecting, .connected] := by
  obtain ⟨notConnecting, notSleeping, notStopped⟩ := opened
  cases task with
  | connecting => exact (notConnecting rfl).elim
  | sleeping => exact (notSleeping rfl).elim
  | stopped => exact (notStopped rfl).elim
  | _ => rfl

/-- The statuses of an attempt can be completed to those of one that is over. -/
theorem Underway.completed
    {task : TransportTask}
    {statuses : List ClientStatus}
    (underway : Underway task statuses) :
    statuses = [] ∨ ClientStatus.IsRound (statuses ++ [.disconnected 0]) := by
  cases task with
  | sleeping =>
      exact .inl underway
  | connecting =>
      cases underway
      exact .inr ⟨0, .inl rfl⟩
  | stopped =>
      rcases underway with rfl | rfl
      · exact .inr ⟨0, .inl rfl⟩
      · exact .inr ⟨0, .inr rfl⟩
  | _ =>
      cases underway
      exact .inr ⟨0, .inr rfl⟩

/-- In a call, the attempt has not been reported as over. -/
theorem Underway.inCall
    {transport : Transport}
    {statuses : List ClientStatus}
    (underway : Underway transport.task statuses)
    (inCall : transport.InCall) :
    statuses = [.connecting] ∨ statuses = [.connecting, .connected] := by
  by_cases connecting : transport.task = .connecting
  · rw [connecting] at underway
    exact .inl underway
  · exact .inr ((underway_of_isOpen
      ⟨connecting, inCall.1, inCall.2⟩).mp underway)

/-- The statuses are those of attempts that are over and of one more. -/
def Shaped (reporting : ReportingTransport) : Prop :=
  if reporting.statusTx then
    ∃ (rounds : List (List ClientStatus)) (current : List ClientStatus),
      (∀ round ∈ rounds, ClientStatus.IsRound round) ∧
        Underway reporting.transport.task current ∧
          reporting.statuses = rounds.flatten ++ current
  else
    reporting.statuses = []

theorem Shaped.step
    {reporting next : ReportingTransport}
    {action : StatusAction}
    (shaped : reporting.Shaped)
    (stepped : reporting.step? action = some next) :
    next.Shaped := by
  obtain ⟨statusTx, events, log, logs⟩ := logs_of_step? stepped
  have statuses :
      next.statuses =
        reporting.statuses ++ events.filterMap StatusEvent.status? := by
    rw [ReportingTransport.statuses, log, List.filterMap_append]
    rfl
  unfold Shaped at shaped ⊢
  rw [statusTx, statuses]
  split
  · rename_i reports
    rw [if_pos reports] at shaped
    obtain ⟨rounds, current, areRounds, underway, split⟩ := shaped
    rw [split, List.append_assoc]
    cases logs with
    | nothing other stays =>
        refine ⟨rounds, current, areRounds, ?_, by simp⟩
        rcases stays with same | ⟨opened, opened'⟩
        · rwa [same]
        · rwa [underway_of_isOpen opened', ← underway_of_isOpen opened]
    | welcomed other opened opened' =>
        refine
          ⟨rounds, current, areRounds, ?_, by simp [StatusEvent.status?]⟩
        rwa [underway_of_isOpen opened', ← underway_of_isOpen opened]
    | opened elapsed task opens =>
        rw [task] at underway
        refine ⟨rounds, [.connecting, .connected], areRounds,
          (underway_of_isOpen opens).mpr rfl, ?_⟩
        rw [show current = [.connecting] from underway, emission,
          if_pos reports]
        rfl
    | disconnected delay other inCall sleeps =>
        rw [sleeps]
        refine
          ⟨rounds ++ [current ++ [.disconnected delay]], [], ?_, rfl, ?_⟩
        · intro round member
          rcases List.mem_append.mp member with earlier | last
          · exact areRounds round earlier
          · rw [List.mem_singleton.mp last]
            refine ⟨delay, ?_⟩
            rcases underway.inCall inCall with rfl | rfl
            · exact .inl rfl
            · exact .inr rfl
        · simp [emission, reports, StatusEvent.status?]
    | returned other inCall stops =>
        rw [stops]
        exact ⟨rounds, current, areRounds, underway.inCall inCall,
          by simp [StatusEvent.status?]⟩
    | retried other task retries =>
        rw [task] at underway
        rw [retries]
        refine ⟨rounds, [.connecting], areRounds, rfl, ?_⟩
        rw [show current = [] from underway]
        simp [emission, reports, StatusEvent.status?]
  · rename_i silent
    rw [if_neg silent] at shaped
    rw [shaped]
    cases logs <;> simp [emission, silent, StatusEvent.status?]

/-- What every run keeps to, by the actions performed so far. -/
structure Accounts
    (receivesStatus : Bool)
    (past : List StatusAction)
    (reporting : ReportingTransport) : Prop where
  statusTx : reporting.statusTx = receivesStatus
  shaped : reporting.Shaped
  wellPlaced : WellPlaced reporting.log
  connected :
    .emitted .connected ∈ reporting.log ↔
      receivesStatus = true ∧
        ∃ elapsed, .task (.connect true) elapsed ∈ past

/-- Only a handshake is followed by `Connected`. -/
theorem Logs.connected_mem_iff
    {reporting : ReportingTransport}
    {next : TransportTask}
    {action : StatusAction}
    {events : List StatusEvent}
    (logs : Logs reporting next action events) :
    .emitted .connected ∈ events ↔
      reporting.statusTx = true ∧
        ∃ elapsed, action = .task (.connect true) elapsed := by
  cases logs with
  | opened elapsed task opens =>
      cases reports : reporting.statusTx <;> simp [emission, reports]
  | nothing other stays =>
      simp [other]
  | welcomed other opened stays =>
      simp [other]
  | disconnected delay other inCall sleeps =>
      cases reports : reporting.statusTx <;> simp [emission, reports, other]
  | returned other inCall stops =>
      simp [other]
  | retried other task retries =>
      cases reports : reporting.statusTx <;> simp [emission, reports, other]

theorem accounts_of_run
    {receiveFiles oneShot receivesStatus : Bool}
    {actions : List StatusAction}
    {reporting : ReportingTransport}
    (ran :
      StepRun.run? step? (spawn receiveFiles oneShot receivesStatus) actions =
        some reporting) :
    Accounts receivesStatus actions reporting := by
  refine StepRun.run?_history (motive := Accounts receivesStatus) ?_ ?_ ran
  · cases receivesStatus with
    | false =>
        exact ⟨rfl, rfl, wellPlaced_nil, by simp [spawn, note, emission]⟩
    | true =>
        refine
          ⟨rfl, ⟨[], _, by simp, rfl, rfl⟩, wellPlaced_single trivial, ?_⟩
        simp [spawn, note, emission]
  · intro past state action next within earlier holds stepped
    obtain ⟨statusTx, events, log, logs⟩ := logs_of_step? stepped
    refine
      ⟨statusTx.trans holds.statusTx, holds.shaped.step stepped, ?_, ?_⟩
    · rw [log]
      exact holds.wellPlaced.append logs.wellPlaced
    · rw [log, List.mem_append, holds.connected, logs.connected_mem_iff,
        holds.statusTx]
      simp only [List.mem_append, List.mem_singleton, exists_or,
        ← and_or_left, eq_comm]

/-- The statuses always are those of one attempt after the other. -/
theorem Accounts.rounds
    {receivesStatus : Bool}
    {past : List StatusAction}
    {reporting : ReportingTransport}
    (accounts : Accounts receivesStatus past reporting) :
    ∃ rounds : List (List ClientStatus),
      (∀ round ∈ rounds, ClientStatus.IsRound round) ∧
        reporting.statuses <+: rounds.flatten := by
  have shaped := accounts.shaped
  unfold Shaped at shaped
  split at shaped
  · obtain ⟨rounds, current, areRounds, underway, split⟩ := shaped
    rw [split]
    rcases underway.completed with rfl | isRound
    · exact ⟨rounds, areRounds, by simp⟩
    · refine ⟨rounds ++ [current ++ [.disconnected 0]], ?_, ?_⟩
      · intro round member
        rcases List.mem_append.mp member with earlier | last
        · exact areRounds round earlier
        · rwa [List.mem_singleton.mp last]
      · exact ⟨[.disconnected 0], by simp⟩
  · exact ⟨[], by simp, by rw [shaped]; exact List.nil_prefix⟩

/-- The delay of an emission always is the one that is slept next. -/
theorem Accounts.slept
    {receivesStatus : Bool}
    {past : List StatusAction}
    {reporting : ReportingTransport}
    (accounts : Accounts receivesStatus past reporting)
    (before : List StatusEvent)
    (delay : Nat)
    (after : List StatusEvent)
    (split :
      reporting.log = before ++ .emitted (.disconnected delay) :: after) :
    ∃ rest, after = .slept delay :: rest :=
  accounts.wellPlaced before _ after split

/-- `Connected` is sent between the handshake and the welcome. -/
theorem Accounts.not_connected
    {receivesStatus : Bool}
    {past : List StatusAction}
    {reporting : ReportingTransport}
    (accounts : Accounts receivesStatus past reporting)
    (truthful : reporting.IsTruthful) :
    .emitted .connected ∉ reporting.log := by
  intro connected
  obtain ⟨before, after, split⟩ := List.append_of_mem connected
  obtain ⟨opening, isOpening⟩ := accounts.wellPlaced before _ after split
  obtain ⟨earlier, between, isWelcomed, sameConnection⟩ :=
    truthful.welcomed before after split
  rw [isOpening] at isWelcomed
  rcases List.eq_nil_or_concat between with rfl | ⟨front, last, rfl⟩
  · cases (List.append_inj' isWelcomed rfl).2
  · rw [List.concat_eq_append, ← List.cons_append, ← List.append_assoc]
      at isWelcomed
    obtain ⟨-, isLast⟩ := List.append_inj' isWelcomed rfl
    cases isLast
    exact sameConnection (by simp)

end ReportingTransport

open ReportingTransport in
/-- In every run, the status tells the truth exactly if it is not sent to
anyone or no connection is ever opened. -/
theorem status_isTruthful_iff
    (receiveFiles oneShot receivesStatus : Bool)
    (actions : List StatusAction)
    {reporting : ReportingTransport}
    (ran :
      StepRun.run? step? (spawn receiveFiles oneShot receivesStatus) actions =
        some reporting) :
    reporting.IsTruthful ↔
      (receivesStatus = true →
        ∀ elapsed, .task (.connect true) elapsed ∉ actions) := by
  have accounts := accounts_of_run ran
  constructor
  · intro truthful reports elapsed connects
    exact accounts.not_connected truthful
      (accounts.connected.mpr ⟨reports, elapsed, connects⟩)
  · intro never
    have unconnected : .emitted .connected ∉ reporting.log := by
      intro connected
      obtain ⟨reports, elapsed, connects⟩ := accounts.connected.mp connected
      exact never reports elapsed connects
    refine ⟨accounts.rounds, ?_, accounts.slept, ?_⟩
    · intro before after split
      exact (unconnected (by simp [split])).elim
    · intro stopped last
      have member := List.mem_of_getLast? last
      obtain ⟨event, inLog, isConnected⟩ := List.mem_filterMap.mp member
      cases event <;> simp [StatusEvent.status?] at isConnected
      rw [isConnected] at inLog
      exact unconnected inLog

open ReportingTransport in
/-- A hub that refuses the connection does not spoil the status. -/
theorem status_isTruthful_refused :
    IsTruthful
      ((StepRun.run? step? (spawn false false true)
        [.task (.connect false) 0]).getD (spawn false false true)) :=
  (status_isTruthful_iff false false true [.task (.connect false) 0]
    (StepRun.run?_getD (by decide) _)).mpr
    (by simp)

open ReportingTransport in
/-- A server that closes in front of its welcome has been connected to, and
with a dropped handle that is the last status of all. -/
theorem status_not_truthful_of_close :
    ∃ reporting,
      StepRun.run? step? (spawn false false true)
          [.task (.connect true) 0, .holder .dropClipSenders,
            .task (.receive .close) 0] =
        some reporting ∧
      reporting.log =
        [.emitted .connecting, .opened, .emitted .connected, .returned] ∧
      ¬ reporting.IsTruthful := by
  refine ⟨_, rfl, rfl, fun truthful => ?_⟩
  exact truthful.returned rfl rfl

end ClipboardWire
