import ClipboardWire.ServerFrames

namespace ClipboardWire

open BoundedChannel Semaphore

/-!
# What is left of a connection that has been torn down

`handle_socket` waits for the reader or the writer to end and then tears the
connection down, but dropping the handle of the other task does not end it.
The connection is torn down cleanly in the runs in which the other task ends
by itself in time: the reader before the `Deregister` is sent, and the writer
before the permit is given back.  Otherwise the next step but one leaves a
connection without a permit whose tasks go on.
-/

variable {fromStr : String → Option Frame} {config : ServerConfig}

/-- No publish of a client comes after the deregistration of that client. -/
def PublishesFirst (messages : List HubMessage) : Prop :=
  messages.Pairwise fun earlier later =>
    ∀ id, earlier = .deregister id → later.sender? ≠ some id

/-- One more message that is no publish. -/
theorem PublishesFirst.snoc
    {messages : List HubMessage}
    {message : HubMessage}
    (ordered : PublishesFirst messages)
    (last :
      ∀ id, .deregister id ∈ messages → message.sender? ≠ some id) :
    PublishesFirst (messages ++ [message]) := by
  refine List.pairwise_append.mpr
    ⟨ordered, List.pairwise_singleton _ _, ?_⟩
  intro earlier member later isLast id deregisters
  rw [List.mem_singleton] at isLast
  subst earlier later
  exact last id member

theorem Relay.running_of_step
    {relay next : Relay}
    {action : RelayAction}
    {id : Uuid}
    (stepped : relay.step? action = some next)
    (running : (next.connections id).map Connection.writer = some .running) :
    (relay.connections id).map Connection.writer = some .running ∨
      action = .welcome id := by
  cases relayStep_of_step? stepped with
  | @register other fresh =>
      by_cases same : id = other
      · subst other
        simp [registerConnection] at running
      · simp only [registerConnection, ne_eq, same, not_false_eq_true,
          Function.update_of_ne] at running
        exact .inl running
  | deregister => exact .inl running
  | publish => exact .inl running
  | publishFile => exact .inl running
  | @welcome other connection lastClip known notStarted accepted =>
      by_cases same : id = other
      · subst other
        exact .inr rfl
      · rw [setConnection_other _ _ same] at running
        exact .inl running
  | @reject other connection error internal known alive sent =>
      by_cases same : id = other
      · subst other
        exact .inl (by rw [known, Option.map_some, alive])
      · rw [setConnection_other _ _ same] at running
        exact .inl running
  | @write other connection frame internal clips files known alive turn =>
      by_cases same : id = other
      · subst other
        exact .inl (by rw [known, Option.map_some, alive])
      · simp only [setChannels, setConnection_other _ _ same] at running
        exact .inl running
  | idle => exact .inl running
  | @exit _ other middle before connection hub others known ack sent notHub =>
      by_cases same : id = other
      · subst other
        simp [exitWriter, setChannels, setConnection] at running
      · simp only [exitWriter, setChannels, setConnection_other _ _ same,
          (others id same).1] at running
        exact .inl running

namespace Server

/-- The reader of a connection runs. -/
def ReaderRunning (server : Server) (id : Uuid) : Prop :=
  ∃ socket, server.sockets id = some socket ∧ socket.reader.Running

instance (task : ReaderTask) : Decidable task.Running :=
  match task with
  | .reading | .publishing _ | .rejecting _ => isTrue trivial
  | .notStarted | .ended => isFalse id

instance (server : Server) (id : Uuid) : Decidable (server.ReaderRunning id) :=
  decidable_of_iff
    ((server.sockets id).any (decide ·.reader.Running) = true)
    (by simp [ReaderRunning, Option.any_eq_true])

/-- The permit of a connection has been given back. -/
def Closed (server : Server) (id : Uuid) : Prop :=
  ∃ socket, server.sockets id = some socket ∧ socket.phase = .closed

/-- A connection has a permit or a task. -/
def Served (server : Server) (id : Uuid) : Prop :=
  server.HoldsPermit id ∨ server.ReaderRunning id ∨ server.WriterRunning id

/-- The task that `select!` did not wait for has ended in time. -/
def TearsDown (server : Server) : ServerAction → Prop
  | .deregister id => ¬ server.ReaderRunning id
  | .release id => ¬ server.WriterRunning id
  | _ => True

instance (server : Server) (action : ServerAction) :
    Decidable (server.TearsDown action) :=
  match action with
  | .deregister id => inferInstanceAs (Decidable (¬ server.ReaderRunning id))
  | .release id => inferInstanceAs (Decidable (¬ server.WriterRunning id))
  | .connect _ | .upgrade _ _ | .register _ | .process _ | .welcome _
  | .receive _ _ | .publish _ | .reject _ | .write _ | .writeFails _
  | .finish _ => isTrue trivial

/-- What the hub has been sent so far: what it has handled and its inbox. -/
def messages (server : Server) (past : List ServerAction) : List HubMessage :=
  past.filterMap ServerAction.processed? ++ server.inbox.buffer

/-- Where the tasks of a connection can be while it is torn down cleanly. -/
structure Tidy (past : List ServerAction) (server : Server) : Prop where
  reader :
    ∀ {id socket},
      server.sockets id = some socket →
        socket.reader.Running →
          socket.phase = .serving ∨ socket.phase = .deregistering
  writer :
    ∀ {id},
      server.WriterRunning id →
        ∃ socket,
          server.sockets id = some socket ∧
            (socket.phase = .serving ∨ socket.phase = .deregistering ∨
              socket.phase = .returning)
  deregistered :
    ∀ {id},
      .deregister id ∈ server.messages past →
        ∃ socket,
          server.sockets id = some socket ∧
            (socket.phase = .returning ∨ socket.phase = .closed)
  ordered : PublishesFirst (server.messages past)

namespace Tidy

variable {server : Server} {past : List ServerAction}

theorem start (config : ServerConfig) :
    (Server.start config).Tidy [] where
  reader := by
    intro id socket known
    cases known
  writer := by
    intro id running
    cases running
  deregistered := by
    intro id member
    cases member
  ordered := List.Pairwise.nil

/-- A step in which the hub handles nothing adds nothing to the messages. -/
theorem append
    {action : ServerAction}
    (tidy : server.Tidy past)
    (silent : action.processed? = none) :
    server.Tidy (past ++ [action]) := by
  have same : server.messages (past ++ [action]) = server.messages past := by
    simp [messages, List.filterMap_append, silent]
  exact
    { reader := tidy.reader
      writer := tidy.writer
      deregistered := by
        rw [same]
        exact tidy.deregistered
      ordered := by
        rw [same]
        exact tidy.ordered }

/-- The number of permits does not matter. -/
theorem permits
    (tidy : server.Tidy past)
    (permits : Nat) :
    Tidy past { server with permits := permits } where
  reader := tidy.reader
  writer := tidy.writer
  deregistered := tidy.deregistered
  ordered := tidy.ordered

/-- One connection changes, and its phase suits its tasks. -/
theorem setSocket
    {id : Uuid}
    {socket : Socket}
    (tidy : server.Tidy past)
    (reader :
      socket.reader.Running →
        socket.phase = .serving ∨ socket.phase = .deregistering)
    (writer :
      server.WriterRunning id →
        socket.phase = .serving ∨ socket.phase = .deregistering ∨
          socket.phase = .returning)
    (deregistered :
      .deregister id ∈ server.messages past →
        socket.phase = .returning ∨ socket.phase = .closed) :
    (server.setSocket id socket).Tidy past where
  reader := forall_sockets_setSocket reader tidy.reader
  writer := by
    intro other running
    by_cases same : other = id
    · subst other
      exact ⟨socket, sockets_setSocket_self .., writer running⟩
    · rw [sockets_setSocket_of_ne server socket same]
      exact tidy.writer running
  deregistered := by
    intro other member
    by_cases same : other = id
    · subst other
      exact ⟨socket, sockets_setSocket_self .., deregistered member⟩
    · rw [sockets_setSocket_of_ne server socket same]
      exact tidy.deregistered member
  ordered := tidy.ordered

/-- The phases in which a known connection can have a writer. -/
theorem phase_of_writer
    {id : Uuid}
    {socket : Socket}
    (tidy : server.Tidy past)
    (known : server.sockets id = some socket)
    (running : server.WriterRunning id) :
    socket.phase = .serving ∨ socket.phase = .deregistering ∨
      socket.phase = .returning := by
  obtain ⟨found, lookup, phase⟩ := tidy.writer running
  rw [known, Option.some.injEq] at lookup
  exact lookup ▸ phase

/-- The phases of a known connection whose deregistration has been sent. -/
theorem phase_of_deregistered
    {id : Uuid}
    {socket : Socket}
    (tidy : server.Tidy past)
    (known : server.sockets id = some socket)
    (member : .deregister id ∈ server.messages past) :
    socket.phase = .returning ∨ socket.phase = .closed := by
  obtain ⟨found, lookup, phase⟩ := tidy.deregistered member
  rw [known, Option.some.injEq] at lookup
  exact lookup ▸ phase

/-- A connection that stays in its phase starts no reader. -/
theorem keepPhase
    {id : Uuid}
    {socket next : Socket}
    (tidy : server.Tidy past)
    (known : server.sockets id = some socket)
    (phase : next.phase = socket.phase)
    (reader : next.reader.Running → socket.reader.Running) :
    (server.setSocket id next).Tidy past := by
  refine tidy.setSocket ?_ ?_ ?_
  · rw [phase]
    exact fun running => tidy.reader known (reader running)
  · rw [phase]
    exact tidy.phase_of_writer known
  · rw [phase]
    exact tidy.phase_of_deregistered known

/-- A connection that is not yet served moves on and has no tasks. -/
theorem beforeServing
    {id : Uuid}
    {socket next : Socket}
    (tidy : server.Tidy past)
    (known : server.sockets id = some socket)
    (phase :
      socket.phase = .upgrading ∨ socket.phase = .registering ∨
        socket.phase = .awaitingAck)
    (reader : next.reader = socket.reader) :
    (server.setSocket id next).Tidy past := by
  have notServed :
      socket.phase ≠ .serving ∧ socket.phase ≠ .deregistering ∧
        socket.phase ≠ .returning ∧ socket.phase ≠ .closed := by
    rcases phase with is | is | is <;> simp [is]
  obtain ⟨notServing, notLeaving, notReturning, notClosed⟩ := notServed
  refine tidy.setSocket ?_ ?_ ?_
  · intro running
    rw [reader] at running
    rcases tidy.reader known running with is | is
    · exact (notServing is).elim
    · exact (notLeaving is).elim
  · intro running
    rcases tidy.phase_of_writer known running with is | is | is
    · exact (notServing is).elim
    · exact (notLeaving is).elim
    · exact (notReturning is).elim
  · intro member
    rcases tidy.phase_of_deregistered known member with is | is
    · exact (notReturning is).elim
    · exact (notClosed is).elim

/-- A message is sent to the hub. -/
theorem push
    {message : HubMessage}
    (tidy : server.Tidy past)
    (room : server.inbox.HasRoom)
    (last :
      ∀ id, .deregister id ∈ server.messages past →
        message.sender? ≠ some id)
    (own :
      ∀ id, message = .deregister id →
        ∃ socket,
          server.sockets id = some socket ∧
            (socket.phase = .returning ∨ socket.phase = .closed)) :
    Tidy past { server with inbox := server.inbox.push message room } := by
  have grown :
      messages { server with inbox := server.inbox.push message room } past =
        server.messages past ++ [message] := by
    simp [messages]
  exact
    { reader := tidy.reader
      writer := tidy.writer
      deregistered := by
        intro id member
        rw [grown, List.mem_append, List.mem_singleton] at member
        rcases member with before | same
        · exact tidy.deregistered before
        · exact own id same.symm
      ordered := by
        rw [grown]
        exact tidy.ordered.snoc last }

/-- A step of the relay that welcomes nobody starts no writer. -/
theorem relay
    {action : RelayAction}
    {next : Relay}
    (tidy : server.Tidy past)
    (stepped : server.relay.step? action = some next)
    (notWelcome : ∀ id, action ≠ .welcome id) :
    Tidy past { server with relay := next } where
  reader := tidy.reader
  writer := by
    intro id running
    rcases Relay.running_of_step stepped running with before | welcome
    · exact tidy.writer before
    · exact (notWelcome id welcome).elim
  deregistered := tidy.deregistered
  ordered := tidy.ordered

/-- The hub handles the first message of its inbox. -/
theorem process
    {message : HubMessage}
    {next : Relay}
    (tidy : server.Tidy past)
    (first : server.inbox.buffer = message :: server.inbox.buffer.tail)
    (stepped : server.relay.step? (.process message) = some next) :
    Tidy (past ++ [.process message])
      { server with relay := next, inbox := server.inbox.dropHead } := by
  have moved := tidy.relay stepped (fun id isWelcome => by cases isWelcome)
  have same :
      messages { server with relay := next, inbox := server.inbox.dropHead }
          (past ++ [.process message]) =
        server.messages past := by
    rw [messages, messages, first]
    simp [List.filterMap_append, ServerAction.processed?]
  exact
    { reader := moved.reader
      writer := moved.writer
      deregistered := by
        rw [same]
        exact moved.deregistered
      ordered := by
        rw [same]
        exact moved.ordered }

/-- A connection is welcomed, and both of its tasks start. -/
theorem welcome
    {id : Uuid}
    {socket next : Socket}
    {relay : Relay}
    (tidy : server.Tidy past)
    (known : server.sockets id = some socket)
    (awaiting : socket.phase = .awaitingAck)
    (stepped : server.relay.step? (.welcome id) = some relay)
    (serving : next.phase = .serving) :
    Tidy past ({ server with relay := relay }.setSocket id next) where
  reader := forall_sockets_setSocket (fun _ => .inl serving) tidy.reader
  writer := by
    intro other running
    by_cases same : other = id
    · subst other
      exact ⟨next, sockets_setSocket_self .., .inl serving⟩
    · rw [sockets_setSocket_of_ne _ next same]
      rcases Relay.running_of_step stepped running with before | welcomes
      · exact tidy.writer before
      · cases welcomes
        exact (same rfl).elim
  deregistered := by
    intro other member
    by_cases same : other = id
    · subst other
      have phase := tidy.phase_of_deregistered known member
      rw [awaiting] at phase
      rcases phase with isReturning | isClosed
      · cases isReturning
      · cases isClosed
    · rw [sockets_setSocket_of_ne _ next same]
      exact tidy.deregistered member
  ordered := tidy.ordered

/-- The reader of a connection sends a publish of its own. -/
theorem publish
    {id : Uuid}
    {socket : Socket}
    {message : HubMessage}
    (tidy : server.Tidy past)
    (readers : server.ReadersPublish)
    (known : server.sockets id = some socket)
    (publishing : socket.reader = .publishing message)
    (room : server.inbox.HasRoom) :
    Tidy past
      ({ server with inbox := server.inbox.push message room }.setSocket id
        { socket with reader := .reading }) := by
  have running : socket.reader.Running := by
    rw [publishing]
    trivial
  have sender := readers known message publishing
  have sent :
      Tidy past { server with inbox := server.inbox.push message room } := by
    refine tidy.push room ?_ ?_
    -- the deregistration has not been sent while the reader runs
    · intro other member sameSender
      rw [sender, Option.some.injEq] at sameSender
      subst other
      have served := tidy.reader known running
      rcases tidy.phase_of_deregistered known member with is | is <;>
        simp [is] at served
    · intro other deregisters
      rw [deregisters] at sender
      cases sender
  have moves :
      ({ socket with reader := .reading } : Socket).reader.Running →
        socket.reader.Running :=
    fun _ => running
  exact sent.keepPhase known rfl moves

/-- A connection whose reader has ended sends its deregistration. -/
theorem deregister
    {id : Uuid}
    {socket : Socket}
    (tidy : server.Tidy past)
    (ended : ¬ socket.reader.Running)
    (room : server.inbox.HasRoom) :
    Tidy past
      ({ server with
          inbox := server.inbox.push (.deregister id) room }.setSocket id
        { socket with phase := .returning }) := by
  have moved :
      Tidy past (server.setSocket id { socket with phase := .returning }) :=
    tidy.setSocket (fun running => (ended running).elim)
      (fun _ => .inr (.inr rfl)) (fun _ => .inl rfl)
  refine moved.push room ?_ ?_
  · intro other member sender
    cases sender
  · intro other same
    cases same
    exact ⟨_, sockets_setSocket_self .., .inl rfl⟩

/-- A connection whose writer has ended gives its permit back. -/
theorem release
    {id : Uuid}
    {socket : Socket}
    (tidy : server.Tidy past)
    (known : server.sockets id = some socket)
    (returning : socket.phase = .returning)
    (ended : ¬ server.WriterRunning id) :
    Tidy past (server.setSocket id { socket with phase := .closed }) := by
  refine tidy.setSocket ?_ ?_ (fun _ => .inr rfl)
  · intro running
    have served := tidy.reader known running
    rw [returning] at served
    rcases served with isServing | isLeaving
    · cases isServing
    · cases isLeaving
  · exact fun running => (ended running).elim

theorem step
    {next : Server}
    {action : ServerAction}
    (before : server.Tidy past)
    (readers : server.ReadersPublish)
    (admission : server.Admission config)
    (tearsDown : server.TearsDown action)
    (stepped : server.step? fromStr config action = some next) :
    next.Tidy (past ++ [action]) := by
  cases serverStep_of_step? stepped with
  | refused unknown full =>
      exact before.append rfl
  | @connected id permits unknown free =>
      have tidy : server.Tidy (past ++ [.connect id]) := before.append rfl
      refine (tidy.permits permits).setSocket ?_ ?_ ?_
      · exact fun running => running.elim
      · intro running
        obtain ⟨socket, known, -⟩ := tidy.writer running
        rw [unknown] at known
        cases known
      · intro member
        obtain ⟨socket, known, -⟩ := tidy.deregistered member
        rw [unknown] at known
        cases known
  | upgraded known phase =>
      exact (before.append rfl).beforeServing known (.inl phase) rfl
  | abandoned known phase =>
      exact ((before.append rfl).permits _).beforeServing known (.inl phase) rfl
  | @registered id socket known phase room =>
      have tidy : server.Tidy (past ++ [.register id]) := before.append rfl
      have moved :
          Tidy (past ++ [.register id])
            (server.setSocket id { socket with phase := .awaitingAck }) :=
        tidy.beforeServing known (.inr (.inl phase)) rfl
      refine moved.push room ?_ ?_
      · intro other member sender
        cases sender
      · intro other same
        cases same
  | processed first relayed =>
      exact before.process first relayed
  | welcomed known phase found ack relayed =>
      exact (before.append rfl).welcome known phase relayed rfl
  | turnedAway known phase found ack relayed =>
      exact (admission.accepted found ack).elim
  | received known reading =>
      have running : ReaderTask.reading.Running := trivial
      rw [← reading] at running
      exact (before.append rfl).keepPhase known rfl (fun _ => running)
  | published known publishing room =>
      exact (before.append rfl).publish readers known publishing room
  | rejected known rejecting relayed =>
      exact
        ((before.append rfl).relay relayed (by simp)).keepPhase known rfl
          (fun running => running.elim)
  | rejectedLate known rejecting gone =>
      exact (before.append rfl).keepPhase known rfl
        (fun running => running.elim)
  | drained known closed relayed =>
      exact (before.append rfl).relay relayed (by simp)
  | @wrote id socket relay known live relayed =>
      have tidy : server.Tidy (past ++ [.write id]) := before.append rfl
      exact (tidy.relay relayed (by simp)).keepPhase known rfl
        (fun running => running)
  | writeFailed relayed =>
      exact (before.append rfl).relay relayed (by simp)
  | @finished id socket known phase ended =>
      have tidy : server.Tidy (past ++ [.finish id]) := before.append rfl
      refine tidy.setSocket (fun _ => .inr rfl) (fun _ => .inr (.inl rfl)) ?_
      intro member
      have gone := tidy.phase_of_deregistered known member
      rw [phase] at gone
      rcases gone with isReturning | isClosed
      · cases isReturning
      · cases isClosed
  | @deregistered id socket known phase room =>
      have ended : ¬ socket.reader.Running :=
        fun running => tearsDown ⟨socket, known, running⟩
      exact (before.append rfl).deregister ended room
  | released known phase =>
      exact ((before.append rfl).permits _).release known phase tearsDown

end Tidy

theorem tidy_of_run
    {actions : List ServerAction}
    {server : Server}
    (along :
      StepRun.Along (step? fromStr config) TearsDown (start config) actions)
    (ran :
      StepRun.run? (step? fromStr config) (start config) actions =
        some server) :
    server.Tidy actions :=
  StepRun.run?_history
    (motive := fun past state => state.Tidy past)
    (Tidy.start config)
    (fun within earlier tidy stepped =>
      tidy.step (readersPublish_of_run earlier) (admission_of_run earlier)
        (along.meets within earlier) stepped)
    ran

/-- A connection with a running task is not closed. -/
theorem Tidy.holdsPermit
    {past : List ServerAction}
    {server : Server}
    {id : Uuid}
    (tidy : server.Tidy past)
    (running : server.ReaderRunning id ∨ server.WriterRunning id) :
    server.HoldsPermit id := by
  rcases running with ⟨socket, known, running⟩ | running
  · refine ⟨socket, known, ?_⟩
    rcases tidy.reader known running with is | is <;>
      simp [SocketPhase.HoldsPermit, is]
  · obtain ⟨socket, known, phase⟩ := tidy.writer running
    refine ⟨socket, known, ?_⟩
    rcases phase with is | is | is <;> simp [SocketPhase.HoldsPermit, is]

/--
In every run in which the reader has ended when a connection deregisters, and
the writer when its permit is released, the hub handles no publish of a client
after its deregistration, a released permit leaves no task behind, and no more
than `max_conns` connections are served.
-/
theorem torn_down_cleanly
    {actions : List ServerAction}
    {server : Server}
    (along :
      StepRun.Along (step? fromStr config) TearsDown (start config) actions)
    (ran :
      StepRun.run? (step? fromStr config) (start config) actions =
        some server) :
    PublishesFirst (actions.filterMap ServerAction.processed?) ∧
      (∀ id, server.Closed id →
        ¬ server.ReaderRunning id ∧ ¬ server.WriterRunning id) ∧
      ∀ ids : List Uuid, ids.Nodup → (∀ id ∈ ids, server.Served id) →
        ids.length ≤ config.maxConns.toNat := by
  have tidy := tidy_of_run along ran
  refine ⟨?_, ?_, ?_⟩
  · exact (List.pairwise_append.mp tidy.ordered).1
  · rintro id ⟨socket, known, closed⟩
    have free : ¬ server.HoldsPermit id := by
      rw [holdsPermit_iff known, closed]
      exact fun holds => holds rfl
    exact
      ⟨fun running => free (tidy.holdsPermit (.inl running)),
        fun running => free (tidy.holdsPermit (.inr running))⟩
  · intro ids nodup served
    have fewer :=
      (admission_of_run ran).permits.length_le nodup (by
        intro id member
        rcases served id member with holds | running
        · exact holds
        · exact tidy.holdsPermit running)
    omega

/-- A connection that has deregistered can give its permit back. -/
theorem step?_release
    {server : Server}
    {id : Uuid}
    {socket : Socket}
    (known : server.sockets id = some socket)
    (returning : socket.phase = .returning) :
    server.step? fromStr config (.release id) =
      some
        ({ server with permits := server.permits + 1 }.setSocket id
          { socket with phase := .closed }) := by
  simp [step?, known, release?, returning]

/--
The condition leaves out nothing harmless: a step that does not meet it can be
continued to a connection whose permit is free and whose tasks go on.
-/
theorem closed_running_of_not_tearsDown
    {server next : Server}
    {action : ServerAction}
    (stepped : server.step? fromStr config action = some next)
    (late : ¬ server.TearsDown action) :
    ∃ later final id,
      StepRun.run? (step? fromStr config) next later = some final ∧
        final.Closed id ∧
          (final.ReaderRunning id ∨ final.WriterRunning id) := by
  cases serverStep_of_step? stepped with
  | @deregistered id socket known phase room =>
      obtain ⟨running, found, reading⟩ := not_not.mp late
      rw [known, Option.some.injEq] at found
      subst running
      refine ⟨[.release id], _, id,
        StepRun.run?_cons_eq_some.mpr
          ⟨_, step?_release (sockets_setSocket_self ..) ?_, rfl⟩,
        ?_, .inl ?_⟩
      · rfl
      · exact ⟨_, sockets_setSocket_self .., rfl⟩
      · exact ⟨_, sockets_setSocket_self .., reading⟩
  | @released id socket known phase =>
      refine ⟨[], _, id, rfl, ?_, .inr (not_not.mp late)⟩
      exact ⟨_, sockets_setSocket_self .., rfl⟩
  | _ => exact (late trivial).elim

/-- A client leaves, and both of its tasks end before its connection does. -/
def leaving : List ServerAction :=
  joining ⟨1⟩ ++
    [.receive ⟨1⟩ (.message .close), .writeFails ⟨1⟩, .finish ⟨1⟩,
      .deregister ⟨1⟩, .release ⟨1⟩, .process (.deregister ⟨1⟩)]

/-- The server after the client has left. -/
def left : Server :=
  (StepRun.run? (step? readsSpoofed smallConfig) (start smallConfig)
    leaving).get (by decide)

/-- A connection that is torn down in time leaves nothing behind. -/
theorem left_torn_down :
    PublishesFirst (leaving.filterMap ServerAction.processed?) ∧
      (∀ id, left.Closed id →
        ¬ left.ReaderRunning id ∧ ¬ left.WriterRunning id) ∧
      ∀ ids : List Uuid, ids.Nodup → (∀ id ∈ ids, left.Served id) →
        ids.length ≤ smallConfig.maxConns.toNat :=
  @torn_down_cleanly readsSpoofed smallConfig leaving left (by decide)
    (Option.some_get _).symm

/-- The writer of a client fails, and its reader goes on. -/
def orphaning : List ServerAction :=
  joining ⟨1⟩ ++
    [.writeFails ⟨1⟩, .finish ⟨1⟩, .deregister ⟨1⟩,
      .release ⟨1⟩, .process (.deregister ⟨1⟩)] ++
    joining ⟨2⟩ ++
    [.receive ⟨1⟩ (.message (.text "spoofed")), .publish ⟨1⟩,
      .process (.publish ⟨1⟩ { spoofedClip with fromId := none })]

/-- The server after the orphaned reader has published. -/
def orphaned : Server :=
  (StepRun.run? (step? readsSpoofed smallConfig) (start smallConfig)
    orphaning).get (by decide)

/--
A failed send leaves the reader running: the hub handles its publish after its
deregistration, its permit is free, and a server for one client serves two.
-/
theorem orphaned_not_torn_down :
    ¬ PublishesFirst (orphaning.filterMap ServerAction.processed?) ∧
      orphaned.Closed ⟨1⟩ ∧ orphaned.ReaderRunning ⟨1⟩ ∧
        orphaned.Served ⟨1⟩ ∧ orphaned.Served ⟨2⟩ ∧
          smallConfig.maxConns.toNat = 1 := by
  have reading : orphaned.ReaderRunning ⟨1⟩ := by
    decide
  refine
    ⟨?_, ?_, reading, .inr (.inl reading), .inr (.inl (by decide)), rfl⟩
  · intro ordered
    have later := List.pairwise_cons.mp (List.pairwise_cons.mp ordered).2
    exact later.1 (.publish ⟨1⟩ { spoofedClip with fromId := none })
      (by decide) ⟨1⟩ rfl rfl
  · exact ⟨(orphaned.sockets ⟨1⟩).get (by decide), by simp, by decide⟩

end Server

end ClipboardWire
