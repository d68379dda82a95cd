import ClipboardWire.ServerFrames

namespace ClipboardWire

open BoundedChannel

/-!
# How a rejected message is reported

A message that makes the server end the connection has a cause.  A bad frame
is reported by an error frame with the code of the cause, after which the
writer closes the sink without a close code; a message that is too large is a
read error, which ends the reader and reports nothing.  So the close codes of
`ErrorCode::close_code` never go out.
-/

variable {fromStr : String → Option Frame} {config : ServerConfig}

/-- Why a message makes the server end the connection. -/
def offence?
    (fromStr : String → Option Frame)
    (config : ServerConfig)
    (message : ClientMessage) :
    Option ErrorCode :=
  if (serverLimits config.maxFrameBytes.toNat).Admits message.size then
    match message with
    | .text content =>
        match fromStr content with
        | some (.clip clip) =>
            if clip.validate = .ok () then none else some .badFrame
        | some (.fileChunk chunk) =>
            if chunk.validate = .ok () then none else some .badFrame
        | some (.welcome _) | some (.error _) | none =>
            some .badFrame
    | .binary _ =>
        some .badFrame
    | .ping | .pong | .close =>
        none
  else
    some .frameTooLarge

/-- The reader goes on after a message. -/
def ReaderTask.GoesOn : ReaderTask → Prop
  | .reading | .publishing _ => True
  | .notStarted | .rejecting _ | .ended => False

/-- What a reader makes of a message of admitted size. -/
theorem dispatch_cases (id : Uuid) (message : ClientMessage) :
    (∃ error,
        dispatch fromStr id message = .rejecting error ∧
          error.code = .badFrame) ∨
      ∀ error, dispatch fromStr id message ≠ .rejecting error := by
  cases message with
  | text content =>
      simp only [dispatch]
      split
      · exact .inr (fun error isRejecting => by cases isRejecting)
      · rename_i error read
        refine .inl ⟨error, rfl, ?_⟩
        simp only [readText] at read
        split at read
        · split at read <;> cases read
          rfl
        · split at read <;> cases read
          rfl
        · cases read
          rfl
        · cases read
          rfl
  | binary bytes => exact .inl ⟨_, rfl, rfl⟩
  | ping => exact .inr (fun error isRejecting => by cases isRejecting)
  | pong => exact .inr (fun error isRejecting => by cases isRejecting)
  | close => exact .inr (fun error isRejecting => by cases isRejecting)

/-- The server ends a connection for an offence or a Close, and only then. -/
theorem goesOn_iff (id : Uuid) (message : ClientMessage) :
    (readerTurn fromStr config id (.message message)).GoesOn ↔
      message ≠ .close ∧ offence? fromStr config message = none := by
  simp only [readerTurn, offence?]
  split
  · cases message with
    | text content =>
        simp only [dispatch, readText]
        cases fromStr content with
        | none => simp [ReaderTask.GoesOn]
        | some frame =>
            cases frame with
            | clip clip =>
                cases valid : clip.validate <;>
                  simp [valid, ReaderTask.GoesOn]
            | fileChunk chunk =>
                cases valid : chunk.validate <;>
                  simp [valid, ReaderTask.GoesOn]
            | welcome welcome => simp [ReaderTask.GoesOn]
            | error error => simp [ReaderTask.GoesOn]
    | binary bytes => simp [dispatch, ReaderTask.GoesOn]
    | ping => simp [dispatch, ReaderTask.GoesOn]
    | pong => simp [dispatch, ReaderTask.GoesOn]
    | close => simp [dispatch, ReaderTask.GoesOn]
  · simp [ReaderTask.GoesOn]

namespace Relay

/-- A writer that has exited does not start again. -/
theorem exited_of_step
    {relay next : Relay}
    {action : RelayAction}
    {id : Uuid}
    (stepped : relay.step? action = some next)
    (exited : (relay.connections id).map Connection.writer = some .exited) :
    (next.connections id).map Connection.writer = some .exited := by
  have absurd {other : Uuid} {connection : Connection}
      (known : relay.connections other = some connection)
      (alive : connection.writer ≠ .exited) :
      id ≠ other := by
    rintro rfl
    rw [known, Option.map_some, Option.some.injEq] at exited
    exact alive exited
  cases relayStep_of_step? stepped with
  | @register other fresh =>
      have different : id ≠ other := by
        rintro rfl
        rw [fresh] at exited
        cases exited
      simpa [registerConnection, different] using exited
  | deregister => exact exited
  | publish => exact exited
  | publishFile => exact exited
  | welcome known notStarted accepted =>
      rw [setConnection_other _ _ (absurd known (by simp [notStarted]))]
      exact exited
  | reject known running sent =>
      rw [setConnection_other _ _ (absurd known (by simp [running]))]
      exact exited
  | write known running turn =>
      have different := absurd known (by simp [running])
      simpa [setChannels, setConnection, different] using exited
  | idle => exact exited
  | @exit _ other middle before connection hub others known ack sent notHub =>
      by_cases same : id = other
      · subst other
        simp [exitWriter, setChannels, setConnection]
      · simpa [exitWriter, setChannels, setConnection, same,
          (others id same).1] using exited

/-- An error frame is in an internal queue because the reader sent it. -/
theorem queuedError_of_step
    {relay next : Relay}
    {action : RelayAction}
    {id : Uuid}
    {later : Connection}
    {error : ErrorFrame}
    (stepped : relay.step? action = some next)
    (known : next.connections id = some later)
    (member : .error error ∈ later.internal.buffer) :
    (∃ connection,
        relay.connections id = some connection ∧
          .error error ∈ connection.internal.buffer) ∨
      action = .reject id error := by
  have replaced {other : Uuid} {connection found : Connection}
      (lookup : relay.connections other = some found)
      (after : (relay.setConnection other connection).connections id =
        some later)
      (own :
        id = other → .error error ∈ connection.internal.buffer →
          .error error ∈ found.internal.buffer ∨
            action = .reject id error) :
      (∃ connection,
          relay.connections id = some connection ∧
            .error error ∈ connection.internal.buffer) ∨
        action = .reject id error := by
    by_cases same : id = other
    · subst other
      rw [setConnection_same, Option.some.injEq] at after
      subst later
      exact (own rfl member).imp_left fun before => ⟨found, lookup, before⟩
    · rw [setConnection_other _ _ same] at after
      exact .inl ⟨later, after, member⟩
  cases relayStep_of_step? stepped with
  | @register other fresh =>
      by_cases same : id = other
      · subst other
        simp only [registerConnection, Function.update_self,
          Option.some.injEq] at known
        subst later
        cases member
      · simp only [registerConnection, ne_eq, same, not_false_eq_true,
          Function.update_of_ne] at known
        exact .inl ⟨later, known, member⟩
  | deregister => exact .inl ⟨later, known, member⟩
  | publish => exact .inl ⟨later, known, member⟩
  | publishFile => exact .inl ⟨later, known, member⟩
  | welcome found notStarted accepted =>
      refine replaced found known ?_
      intro same added
      rcases Channel.mem_offer added with before | isWelcome
      · exact .inl before
      · cases isWelcome
  | reject found running sent =>
      refine replaced found known ?_
      intro same added
      subst same
      obtain ⟨room, -, rfl⟩ := Channel.trySend_eq_ok.mp sent
      rw [Channel.buffer_push, List.mem_append, List.mem_singleton] at added
      rcases added with before | isError
      · exact .inl before
      · cases isError
        exact .inr rfl
  | write found running turn =>
      refine replaced found known ?_
      intro same left
      cases turnTakes_of_writerTurn turn with
      | control head => exact .inl (List.mem_of_mem_tail left)
      | clip noControl head => exact .inl left
      | file noControl noClip head => exact .inl left
  | idle => exact .inl ⟨later, known, member⟩
  | @exit _ other middle before connection hub others found ack sent notHub =>
      by_cases same : id = other
      · subst other
        simp only [exitWriter, setChannels, setConnection_same,
          Option.some.injEq] at known
        subst later
        cases member
      · simp only [exitWriter, setChannels, setConnection_other _ _ same,
          (others id same).1] at known
        exact .inl ⟨later, known, member⟩

/-- A turn of a writer; after an error frame the writer is gone. -/
theorem write_step
    {relay next : Relay}
    {id : Uuid}
    (stepped : relay.step? (.write id) = some next) :
    ∃ connection,
      relay.connections id = some connection ∧
        connection.writer = .running ∧
          ∀ frame internal clips files,
            writerTurn connection.internal (relay.mail.clip id)
                (relay.mail.file id) =
              .frame frame internal clips files →
            frame.isError →
              (next.connections id).map Connection.writer = some .exited := by
  obtain ⟨connection, known, running⟩ := running_of_write stepped
  refine ⟨connection, known, running, ?_⟩
  intro frame internal clips files turn isError
  simp only [step?, known, if_pos running, turn, isError, ↓reduceIte,
    Option.some.injEq] at stepped
  subst next
  simp [exitWriter, setChannels, setConnection]

end Relay

/--
What goes out on a connection: at most one Close, without a code, as the last
thing after an error frame for a bad frame.
-/
def SoundWire (wire : List ServerOutput) : Prop :=
  (∀ code, .close code ∉ wire) ∨
    ∃ earlier error,
      wire = earlier ++ [.frame (.error error), .close none] ∧
        error.code = .badFrame ∧
          ∀ code, .close code ∉ earlier

/-- No Close of a connection has a code. -/
theorem SoundWire.code_eq_none
    {wire : List ServerOutput}
    {code : Option UInt16}
    (sound : SoundWire wire)
    (member : .close code ∈ wire) :
    code = none := by
  rcases sound with noClose | ⟨earlier, error, rfl, -, noClose⟩
  · exact (noClose code member).elim
  · simpa [noClose code] using member

/-- What a turn puts on the socket is sound where nothing was closed. -/
theorem soundWire_turnOutput
    {wire : List ServerOutput}
    {turn : WriterTurn}
    (noClose : ∀ code, .close code ∉ wire)
    (errors :
      ∀ error internal clips files,
        turn = .frame (.error error) internal clips files →
          error.code = .badFrame) :
    SoundWire (wire ++ turnOutput turn) := by
  cases turn with
  | frame frame internal clips files =>
      cases frame with
      | error error =>
          exact .inr
            ⟨wire, error, rfl, errors error internal clips files rfl,
              noClose⟩
      | clip clip => exact .inl (by simp [turnOutput, Frame.isError, noClose])
      | welcome welcome =>
          exact .inl (by simp [turnOutput, Frame.isError, noClose])
      | fileChunk chunk =>
          exact .inl (by simp [turnOutput, Frame.isError, noClose])
  | exit => exact .inl (by simp [turnOutput, noClose])
  | idle => exact .inl (by simp [turnOutput, noClose])

namespace Server

/-- What the reports of all connections have in common. -/
structure Reports (server : Server) : Prop where
  rejecting :
    ∀ {id socket},
      server.sockets id = some socket →
        ∀ error, socket.reader = .rejecting error → error.code = .badFrame
  queued :
    ∀ {id connection},
      server.relay.connections id = some connection →
        ∀ error, .error error ∈ connection.internal.buffer →
          error.code = .badFrame
  sound :
    ∀ {id socket}, server.sockets id = some socket → SoundWire socket.wire
  closed :
    ∀ {id socket},
      server.sockets id = some socket →
        ∀ code, .close code ∈ socket.wire →
          (server.relay.connections id).map Connection.writer = some .exited

namespace Reports

variable {server : Server}

theorem start (config : ServerConfig) : (Server.start config).Reports where
  rejecting := by
    intro id socket known
    cases known
  queued := by
    intro id connection known
    cases known
  sound := by
    intro id socket known
    cases known
  closed := by
    intro id socket known
    cases known

theorem congr
    {next : Server}
    (reports : server.Reports)
    (sockets : next.sockets = server.sockets)
    (relay : next.relay = server.relay) :
    next.Reports where
  rejecting known := reports.rejecting (sockets ▸ known)
  queued known := reports.queued (relay ▸ known)
  sound known := reports.sound (sockets ▸ known)
  closed known := by
    rw [relay]
    exact reports.closed (sockets ▸ known)

/-- One connection changes. -/
theorem setSocket
    {id : Uuid}
    {socket : Socket}
    (reports : server.Reports)
    (rejecting :
      ∀ error, socket.reader = .rejecting error → error.code = .badFrame)
    (sound : SoundWire socket.wire)
    (closed :
      ∀ code, .close code ∈ socket.wire →
        (server.relay.connections id).map Connection.writer =
          some .exited) :
    (server.setSocket id socket).Reports where
  rejecting := forall_sockets_setSocket rejecting reports.rejecting
  queued := reports.queued
  sound :=
    forall_sockets_setSocket (motive := fun _ socket => SoundWire socket.wire)
      sound reports.sound
  closed := forall_sockets_setSocket closed reports.closed

/-- A connection changes, and nothing goes out on it. -/
theorem keepWire
    {id : Uuid}
    {socket next : Socket}
    (reports : server.Reports)
    (known : server.sockets id = some socket)
    (rejecting :
      ∀ error, next.reader = .rejecting error → error.code = .badFrame)
    (wire : next.wire = socket.wire) :
    (server.setSocket id next).Reports := by
  refine reports.setSocket rejecting ?_ ?_
  · rw [wire]
    exact reports.sound known
  · rw [wire]
    exact reports.closed known

theorem moves
    {id : Uuid}
    {socket next : Socket}
    (reports : server.Reports)
    (known : server.sockets id = some socket)
    (reader : next.reader = socket.reader)
    (wire : next.wire = socket.wire) :
    (server.setSocket id next).Reports := by
  refine reports.keepWire known ?_ wire
  rw [reader]
  exact reports.rejecting known

/-- A step of the relay; only bad frames are rejected. -/
theorem relay
    {action : RelayAction}
    {next : Relay}
    (reports : server.Reports)
    (stepped : server.relay.step? action = some next)
    (rejected :
      ∀ id error, action = .reject id error → error.code = .badFrame) :
    Reports { server with relay := next } where
  rejecting := reports.rejecting
  queued := by
    intro id connection known error member
    rcases Relay.queuedError_of_step stepped known member with
      ⟨before, found, queued⟩ | rejects
    · exact reports.queued found error queued
    · exact rejected id error rejects
  sound := reports.sound
  closed known code member :=
    Relay.exited_of_step stepped (reports.closed known code member)

theorem write
    {id : Uuid}
    {socket : Socket}
    {relay : Relay}
    (reports : server.Reports)
    (known : server.sockets id = some socket)
    (stepped : server.relay.step? (.write id) = some relay) :
    Reports
      ({ server with relay := relay }.setSocket id
        { socket with
          wire := socket.wire ++ turnOutput (server.nextTurn id) }) := by
  obtain ⟨connection, found, running, ends⟩ := Relay.write_step stepped
  have turn :
      server.nextTurn id =
        writerTurn connection.internal (server.relay.mail.clip id)
          (server.relay.mail.file id) := by
    simp only [nextTurn, found]
  have noClose (code : Option UInt16) : .close code ∉ socket.wire := by
    intro member
    have exited := reports.closed known code member
    rw [found, Option.map_some, running] at exited
    cases exited
  have moved := reports.relay stepped (by simp)
  have rejecting := reports.rejecting known
  refine moved.setSocket rejecting ?_ ?_
  · refine soundWire_turnOutput noClose ?_
    intro error internal clips files isFrame
    rw [turn] at isFrame
    cases turnTakes_of_writerTurn isFrame with
    | control head =>
        exact
          reports.queued found error
            (by rw [head]; exact List.mem_cons_self)
  · intro code member
    rcases List.mem_append.mp member with before | isNew
    · exact (noClose code before).elim
    · rw [turn] at isNew
      cases isTurn :
          writerTurn connection.internal (server.relay.mail.clip id)
            (server.relay.mail.file id) with
      | frame frame internal clips files =>
          rw [isTurn] at isNew
          simp only [turnOutput] at isNew
          split at isNew
          · rename_i isError
            exact ends frame internal clips files isTurn isError
          · simp at isNew
      | exit =>
          rw [isTurn] at isNew
          cases isNew
      | idle =>
          rw [isTurn] at isNew
          cases isNew

theorem step
    {next : Server}
    {action : ServerAction}
    (reports : server.Reports)
    (admission : server.Admission config)
    (stepped : server.step? fromStr config action = some next) :
    next.Reports := by
  cases serverStep_of_step? stepped with
  | refused unknown full =>
      exact reports
  | @connected id permits unknown free =>
      have paid : Reports { server with permits := permits } :=
        reports.congr rfl rfl
      exact paid.setSocket (fun error isRejecting => by cases isRejecting)
        (.inl (by simp)) (by simp)
  | upgraded known phase =>
      exact reports.moves known rfl rfl
  | @abandoned id socket known phase =>
      have returned : Reports { server with permits := server.permits + 1 } :=
        reports.congr rfl rfl
      exact returned.moves known rfl rfl
  | @registered id socket known phase room =>
      have sent :
          Reports
            { server with
              inbox := server.inbox.push (.register id id id) room } :=
        reports.congr rfl rfl
      exact sent.moves known rfl rfl
  | processed first relayed =>
      exact (reports.relay relayed (by simp)).congr rfl rfl
  | welcomed known phase found ack relayed =>
      exact (reports.relay relayed (by simp)).keepWire known
        (fun error isRejecting => by cases isRejecting) rfl
  | turnedAway known phase found ack relayed =>
      exact (admission.accepted found ack).elim
  | @received id socket event known reading =>
      refine reports.keepWire known ?_ rfl
      intro error isRejecting
      cases event with
      | message message =>
          simp only [readerTurn] at isRejecting
          split at isRejecting
          · rcases @dispatch_cases fromStr id message with
              ⟨found, rejects, badFrame⟩ | others
            · rw [rejects] at isRejecting
              cases isRejecting
              exact badFrame
            · exact (others error isRejecting).elim
          · cases isRejecting
      | failed => cases isRejecting
      | ended => cases isRejecting
      | timedOut => cases isRejecting
  | @published id socket message known publishing room =>
      have sent :
          Reports
            { server with inbox := server.inbox.push message room } :=
        reports.congr rfl rfl
      exact sent.keepWire known (fun error isRejecting => by cases isRejecting)
        rfl
  | rejected known rejecting relayed =>
      have moved := reports.relay relayed (by
        intro other error same
        cases same
        exact reports.rejecting known _ rejecting)
      exact moved.keepWire known (fun error isRejecting => by cases isRejecting)
        rfl
  | rejectedLate known rejecting gone =>
      exact reports.keepWire known
        (fun error isRejecting => by cases isRejecting) rfl
  | drained known closed relayed =>
      exact reports.relay relayed (by simp)
  | wrote known live relayed =>
      exact reports.write known relayed
  | writeFailed relayed =>
      exact reports.relay relayed (by simp)
  | finished known phase ended =>
      exact reports.moves known rfl rfl
  | @deregistered id socket known phase room =>
      have sent :
          Reports
            { server with inbox := server.inbox.push (.deregister id) room } :=
        reports.congr rfl rfl
      exact sent.moves known rfl rfl
  | @released id socket known phase =>
      have returned : Reports { server with permits := server.permits + 1 } :=
        reports.congr rfl rfl
      exact returned.moves known rfl rfl

end Reports

theorem reports_of_run
    {actions : List ServerAction}
    {server : Server}
    (ran :
      StepRun.run? (step? fromStr config) (start config) actions =
        some server) :
    server.Reports :=
  StepRun.run?_history
    (motive := fun _ state => state.Reports)
    (Reports.start config)
    (fun _ earlier reports stepped =>
      reports.step (admission_of_run earlier) stepped)
    ran

end Server

/-- A message of a client made the server end its connection. -/
def Offended
    (fromStr : String → Option Frame)
    (config : ServerConfig)
    (actions : List ServerAction)
    (id : Uuid)
    (cause : ErrorCode) :
    Prop :=
  ∃ message,
    .receive id (.message message) ∈ actions ∧
      offence? fromStr config message = some cause

/-- An error frame with the cause goes out, and then its close code. -/
def Server.Reported
    (server : Server)
    (id : Uuid)
    (cause : ErrorCode) :
    Prop :=
  ∃ socket text,
    server.sockets id = some socket ∧
      [.frame (.error ⟨cause, text⟩), .close (some cause.closeCode)].Sublist
        socket.wire

namespace Server

/-- No close code ever goes out. -/
theorem not_reported
    {actions : List ServerAction}
    {server : Server}
    (ran :
      StepRun.run? (step? fromStr config) (start config) actions =
        some server)
    (id : Uuid)
    (cause : ErrorCode) :
    ¬ server.Reported id cause := by
  rintro ⟨socket, text, known, ordered⟩
  have member : .close (some cause.closeCode) ∈ socket.wire :=
    ordered.subset (by simp)
  cases ((reports_of_run ran).sound known).code_eq_none member

/--
The offences of a connection are reported as the protocol says exactly when
there are none, whatever its client sends and however the tasks interleave.
-/
theorem reported_iff_not_offended
    {actions : List ServerAction}
    {server : Server}
    (ran :
      StepRun.run? (step? fromStr config) (start config) actions =
        some server)
    (id : Uuid) :
    (∀ cause,
        Offended fromStr config actions id cause →
          server.Reported id cause) ↔
      ∀ cause, ¬ Offended fromStr config actions id cause := by
  constructor
  · intro reported cause offended
    exact not_reported ran id cause (reported cause offended)
  · intro inoffensive cause offended
    exact (inoffensive cause offended).elim

/-- A client sends a text that is no frame, and is disconnected. -/
def sendingNonsense : List ServerAction :=
  joining ⟨1⟩ ++
    [.receive ⟨1⟩ (.message (.text "nonsense")), .reject ⟨1⟩,
      .write ⟨1⟩, .write ⟨1⟩, .finish ⟨1⟩, .deregister ⟨1⟩,
      .release ⟨1⟩, .process (.deregister ⟨1⟩)]

/-- The server after the client was disconnected. -/
def afterNonsense : Server :=
  (StepRun.run? (step? readsSpoofed smallConfig) (start smallConfig)
    sendingNonsense).get (by decide)

/-- The text that is no frame is not reported as the protocol says. -/
theorem nonsense_reported_iff :
    (∀ cause,
        Offended readsSpoofed smallConfig sendingNonsense ⟨1⟩ cause →
          afterNonsense.Reported ⟨1⟩ cause) ↔
      ∀ cause,
        ¬ Offended readsSpoofed smallConfig sendingNonsense ⟨1⟩ cause :=
  @reported_iff_not_offended readsSpoofed smallConfig sendingNonsense
    afterNonsense (Option.some_get _).symm ⟨1⟩

/-- A client sends a message above the limit, and is disconnected. -/
def sendingTooMuch : List ServerAction :=
  joining ⟨1⟩ ++
    [.receive ⟨1⟩ (.message (.binary 2000)), .write ⟨1⟩,
      .finish ⟨1⟩, .deregister ⟨1⟩, .release ⟨1⟩, .write ⟨1⟩,
      .process (.deregister ⟨1⟩)]

/-- The server after the client was disconnected. -/
def afterTooMuch : Server :=
  (StepRun.run? (step? readsSpoofed smallConfig) (start smallConfig)
    sendingTooMuch).get (by decide)

/--
A text that is no frame is answered with an error and a Close without a code;
a message above the limit is answered with nothing at all.
-/
theorem nonsense_not_reported :
    (afterNonsense.sockets ⟨1⟩).map Socket.wire =
        some
          [.frame (Relay.welcomeFrame ⟨1⟩ none),
            .frame (.error ⟨.badFrame, "malformed frame"⟩), .close none] ∧
      Offended readsSpoofed smallConfig sendingNonsense ⟨1⟩ .badFrame ∧
      ¬ afterNonsense.Reported ⟨1⟩ .badFrame ∧
      (afterTooMuch.sockets ⟨1⟩).map Socket.wire =
        some [.frame (Relay.welcomeFrame ⟨1⟩ none)] ∧
      Offended readsSpoofed smallConfig sendingTooMuch ⟨1⟩
        .frameTooLarge ∧
      ¬ afterTooMuch.Reported ⟨1⟩ .frameTooLarge := by
  refine ⟨by decide +kernel, ⟨.text "nonsense", by decide, by decide⟩, ?_,
    by decide +kernel, ⟨.binary 2000, by decide, by decide⟩, ?_⟩
  · exact
      @not_reported readsSpoofed smallConfig sendingNonsense afterNonsense
        (Option.some_get _).symm ⟨1⟩ .badFrame
  · exact
      @not_reported readsSpoofed smallConfig sendingTooMuch afterTooMuch
        (Option.some_get _).symm ⟨1⟩ .frameTooLarge

end Server

end ClipboardWire
