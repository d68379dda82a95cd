import ClipboardWire.BasicAuth
import ClipboardWire.DesktopJourney
import ClipboardWire.ServerDrain

namespace ClipboardWire

open PlainText StepRun

/-!
# Who gets through to the hub

`sync_handler` of `core/src/server/ws.rs` in front of the server: a request
without the credentials of the server is answered at once, and one with them
takes a permit or is told that there is none.  So a run with requests of all
kinds contains a run of the server behind it, whose connections are those of
requests with the right credentials, and the other requests leave no trace.
-/

/-- `HeaderValue::to_str`: spaces, tabs and visible ASCII characters. -/
def headerToStr (value : List UInt8) : Option String :=
  if value.all fun byte => byte = 9 || (32 ≤ byte && byte < 127) then
    fromUtf8 value
  else
    none

/-- How `sync_handler` responds. -/
inductive SyncResponse where
  | unauthorized (wwwAuthenticate body : String)
  | serviceUnavailable (body : String)
  | switchingProtocols
  deriving DecidableEq, Repr

namespace SyncResponse

/-- The response to a request without the right credentials. -/
def badAuth : SyncResponse :=
  .unauthorized "Basic realm=\"clipboardwire\", charset=\"UTF-8\"" ""

/-- The response to a request that there is no permit for. -/
def atCapacity : SyncResponse :=
  .serviceUnavailable "at capacity"

end SyncResponse

namespace ServerConfig

/-- The first `Authorization` header of a request passes the check. -/
def Authorizes
    (config : ServerConfig)
    (authorization : Option (List UInt8)) : Prop :=
  checkBasicAuth (authorization.bind headerToStr) config.user
    config.password = true

instance (config : ServerConfig) (authorization : Option (List UInt8)) :
    Decidable (config.Authorizes authorization) :=
  inferInstanceAs (Decidable (_ = true))

/-- A header carries the user and the password of the server. -/
def Presented
    (config : ServerConfig)
    (authorization : Option (List UInt8)) : Prop :=
  ∃ encoded,
    authorization.bind headerToStr = some ("Basic " ++ encoded) ∧
      Base64.decode (trimText encoded) =
        .ok (asBytes (config.user ++ ":" ++ config.password))

end ServerConfig

/-- A header passes when it carries the credentials and the user is usable. -/
theorem ServerConfig.authorizes_iff
    {config : ServerConfig}
    {authorization : Option (List UInt8)} :
    config.Authorizes authorization ↔
      ':' ∉ config.user.toList ∧ config.Presented authorization := by
  simp only [Authorizes, Presented, checkBasicAuth]
  constructor
  · intro passes
    split at passes
    · cases passes
    · rename_i encoded stripped
      obtain ⟨header, present, isBasic⟩ :=
        Option.bind_eq_some_iff.mp stripped
      rw [stripPrefix_eq_some] at isBasic
      subst header
      split at passes
      · cases passes
      · rename_i decoded found
        split at passes
        · cases passes
        · rename_i pair isText
          obtain ⟨noColon, rfl⟩ := checkPair_eq_true.mp passes
          rw [fromUtf8_eq_some.mp isText] at found
          exact ⟨noColon, encoded, present, found⟩
  · rintro ⟨noColon, encoded, present, decoded⟩
    simp only [present, Option.bind_some, stripPrefix_append, decoded,
      fromUtf8_asBytes]
    exact checkPair_eq_true.mpr ⟨noColon, rfl⟩

namespace Server

/-- `sync_handler`, for a connection that will have an unused identifier. -/
def syncHandler
    (config : ServerConfig)
    (server : Server)
    (id : Uuid)
    (authorization : Option (List UInt8)) :
    Option (Server × SyncResponse) :=
  if config.Authorizes authorization then
    (server.connect? id).map fun next =>
      if server.permits = 0 then
        (next, .atCapacity)
      else
        (next, .switchingProtocols)
  else
    some (server, .badAuth)

/-- The three responses, and what becomes of the server. -/
theorem syncHandler_cases
    {config : ServerConfig}
    {server next : Server}
    {id : Uuid}
    {authorization : Option (List UInt8)}
    {response : SyncResponse}
    (answered :
      server.syncHandler config id authorization = some (next, response)) :
    (¬ config.Authorizes authorization ∧ response = .badAuth ∧
        next = server) ∨
      (config.Authorizes authorization ∧ server.permits = 0 ∧
        response = .atCapacity ∧ server.connect? id = some next ∧
          next = server) ∨
      (config.Authorizes authorization ∧ server.permits ≠ 0 ∧
        response = .switchingProtocols ∧ server.connect? id = some next ∧
          next.HoldsPermit id) := by
  unfold syncHandler at answered
  split at answered
  · rename_i right
    obtain ⟨connected, connects, same⟩ := Option.map_eq_some_iff.mp answered
    have shape := connects
    unfold connect? at shape
    split at shape
    · rename_i unknown full
      rw [if_pos full] at same
      cases same
      cases shape
      exact .inr (.inl ⟨right, full, rfl, connects, rfl⟩)
    · rename_i permits unknown free
      have left : server.permits ≠ 0 := by
        omega
      rw [if_neg left] at same
      cases same
      cases shape
      exact .inr
        (.inr
          ⟨right, left, rfl, connects,
            holdsPermit_setSocket_self.mpr (by decide)⟩)
    · cases shape
  · rename_i wrong
    cases answered
    exact .inl ⟨wrong, rfl, rfl⟩

end Server

/-- A request for an upgrade, or a step of the server behind the handler. -/
inductive SyncAction where
  | request (id : Uuid) (authorization : Option (List UInt8))
  | server (action : ServerAction)
  deriving DecidableEq, Repr

/-- The server, with the responses that its handler has given so far. -/
structure SyncServer where
  server : Server
  responses : List (Uuid × SyncResponse)

namespace SyncServer

/-- `build_app`. -/
def start (config : ServerConfig) : SyncServer where
  server := Server.start config
  responses := []

/-- Connections are made by requests only. -/
def step?
    (fromStr : String → Option Frame)
    (config : ServerConfig)
    (front : SyncServer) :
    SyncAction → Option SyncServer
  | .request id authorization =>
      (front.server.syncHandler config id authorization).map
        fun (next, response) =>
          { server := next
            responses := front.responses ++ [(id, response)] }
  | .server (.connect _) =>
      none
  | .server action =>
      (front.server.step? fromStr config action).map fun next =>
        { front with server := next }

/-- Everything that a step can do. -/
inductive SyncStep
    (fromStr : String → Option Frame)
    (config : ServerConfig)
    (front : SyncServer) :
    SyncAction → SyncServer → Prop where
  | turnedAway {id : Uuid} {authorization : Option (List UInt8)}
      (wrong : ¬ config.Authorizes authorization) :
      SyncStep fromStr config front (.request id authorization)
        { front with responses := front.responses ++ [(id, .badAuth)] }
  | full {id : Uuid} {authorization : Option (List UInt8)}
      (right : config.Authorizes authorization)
      (stepped :
        front.server.step? fromStr config (.connect id) = some front.server)
      (none : front.server.permits = 0) :
      SyncStep fromStr config front (.request id authorization)
        { front with responses := front.responses ++ [(id, .atCapacity)] }
  | upgraded {id : Uuid} {authorization : Option (List UInt8)}
      {server : Server}
      (right : config.Authorizes authorization)
      (stepped : front.server.step? fromStr config (.connect id) = some server)
      (free : front.server.permits ≠ 0)
      (holds : server.HoldsPermit id) :
      SyncStep fromStr config front (.request id authorization)
        { server := server
          responses := front.responses ++ [(id, .switchingProtocols)] }
  | behind {action : ServerAction} {server : Server}
      (notConnect : ∀ id, action ≠ .connect id)
      (stepped : front.server.step? fromStr config action = some server) :
      SyncStep fromStr config front (.server action)
        { front with server := server }

variable {fromStr : String → Option Frame} {config : ServerConfig}

theorem syncStep_of_step?
    {front next : SyncServer}
    {action : SyncAction}
    (stepped : front.step? fromStr config action = some next) :
    SyncStep fromStr config front action next := by
  cases action with
  | request id authorization =>
      obtain ⟨⟨server, response⟩, answered, rfl⟩ :=
        Option.map_eq_some_iff.mp stepped
      rcases Server.syncHandler_cases answered with
        ⟨wrong, rfl, rfl⟩ | ⟨right, full, rfl, moved, rfl⟩ |
          ⟨right, free, rfl, moved, holds⟩
      · exact .turnedAway wrong
      · exact .full right moved full
      · exact .upgraded right moved free holds
  | server action =>
      cases action with
      | connect id =>
          cases stepped
      | _ =>
          obtain ⟨server, moved, rfl⟩ := Option.map_eq_some_iff.mp stepped
          exact .behind (by simp) moved

end SyncServer

/-- What the server behind the handler sees of an action. -/
def SyncAction.behind?
    (config : ServerConfig) :
    SyncAction → Option ServerAction
  | .request id authorization =>
      if config.Authorizes authorization then
        some (.connect id)
      else
        none
  | .server action =>
      some action

/-- A request without the credentials of the server. -/
def SyncAction.Unauthorized (config : ServerConfig) : SyncAction → Prop
  | .request _ authorization => ¬ config.Authorizes authorization
  | .server _ => False

instance (config : ServerConfig) (action : SyncAction) :
    Decidable (action.Unauthorized config) :=
  match action with
  | .request _ authorization =>
      inferInstanceAs (Decidable (¬ config.Authorizes authorization))
  | .server _ =>
      inferInstanceAs (Decidable False)

/-- A request that presented the credentials asked for a connection. -/
def Admitted
    (config : ServerConfig)
    (actions : List SyncAction)
    (id : Uuid) : Prop :=
  ∃ authorization,
    .request id authorization ∈ actions ∧ config.Presented authorization

namespace SyncServer

/-- As many connections as there may be hold a permit. -/
def Full (config : ServerConfig) (server : Server) : Prop :=
  ∃ held : List Uuid,
    held.Nodup ∧ held.length = config.maxConns.toNat ∧
      ∀ id ∈ held, server.HoldsPermit id

/-- What the handler responds to a request, and what becomes of it. -/
def AnswersRight
    (config : ServerConfig)
    (front : SyncServer) :
    SyncAction → Prop
  | .request id authorization =>
      ∀ next response,
        front.server.syncHandler config id authorization =
            some (next, response) →
          (¬ config.Authorizes authorization ∧ response = .badAuth ∧
              next = front.server) ∨
            (config.Authorizes authorization ∧ Full config front.server ∧
              response = .atCapacity ∧ next = front.server) ∨
            (config.Authorizes authorization ∧ ¬ Full config front.server ∧
              response = .switchingProtocols ∧ next.HoldsPermit id)
  | .server _ =>
      True

/-- Only those who presented the credentials take part. -/
structure Guarded
    (fromStr : String → Option Frame)
    (config : ServerConfig)
    (actions : List SyncAction)
    (front : SyncServer) : Prop where
  /-- Without the unauthorized requests the run ends in the same server. -/
  unnoticed :
    run? (step? fromStr config) (start config)
        (actions.filter fun action => ¬ action.Unauthorized config) =
      some
        { front with
          responses :=
            front.responses.filter fun response => response.2 ≠ .badAuth }
  answered : Along (step? fromStr config) (AnswersRight config)
    (start config) actions
  holders : ∀ id, front.server.HoldsPermit id → Admitted config actions id
  receivers :
    ∀ {id connection},
      front.server.relay.connections id = some connection →
        Admitted config actions id
  clips :
    ∀ {receiver connection clip},
      front.server.relay.connections receiver = some connection →
        clip ∈ connection.sent.filterMap Frame.carried? →
          ∃ sender,
            clip.fromId = some sender ∧ Admitted config actions sender ∧
              clip ∈
                (framesRead fromStr config sender
                  (actions.filterMap (SyncAction.behind? config))).filterMap
                    Frame.clip?
  chunks :
    ∀ {receiver connection chunk},
      front.server.relay.connections receiver = some connection →
        chunk ∈ connection.sent.filterMap Frame.fileChunk? →
          ∃ sender,
            chunk.fromId = some sender ∧ Admitted config actions sender ∧
              chunk ∈
                (framesRead fromStr config sender
                  (actions.filterMap (SyncAction.behind? config))).filterMap
                    Frame.fileChunk?

/-! ## The server behind the handler -/

theorem server_run
    {actions : List SyncAction}
    {front : SyncServer}
    (ran : run? (step? fromStr config) (start config) actions = some front) :
    run? (Server.step? fromStr config) (Server.start config)
        (actions.filterMap (SyncAction.behind? config)) =
      some front.server := by
  refine run?_project SyncServer.server (SyncAction.behind? config) ?_ ran
  intro front action next stepped
  cases syncStep_of_step? stepped with
  | turnedAway wrong =>
      simp [SyncAction.behind?, wrong]
  | full right moved none =>
      simp [SyncAction.behind?, right, run?_cons_eq_some, moved]
  | upgraded right moved free holds =>
      simp [SyncAction.behind?, right, run?_cons_eq_some, moved]
  | behind notConnect moved =>
      simp [SyncAction.behind?, run?_cons_eq_some, moved]

/-- The whole server as seen by somebody who forgets the unauthorized. -/
def withoutBadAuth (front : SyncServer) : SyncServer :=
  { front with
    responses :=
      front.responses.filter fun response => response.2 ≠ .badAuth }

/-- Without the unauthorized requests the whole server runs as before. -/
theorem run_filter
    {actions : List SyncAction}
    {front : SyncServer}
    (ran : run? (step? fromStr config) (start config) actions = some front) :
    run? (step? fromStr config) (start config)
        (actions.filter fun action => ¬ action.Unauthorized config) =
      some front.withoutBadAuth := by
  rw [← List.filterMap_eq_filter]
  refine run?_project withoutBadAuth _ ?_ ran
  intro front action next stepped
  cases syncStep_of_step? stepped with
  | turnedAway wrong =>
      simp [Option.guard, SyncAction.Unauthorized, wrong, withoutBadAuth]
  | full right moved none =>
      have connected : front.server.connect? _ = some front.server := moved
      simp [Option.guard, SyncAction.Unauthorized, right, withoutBadAuth,
        run?_cons_eq_some, step?, Server.syncHandler, connected, none,
        SyncResponse.atCapacity, SyncResponse.badAuth]
  | @upgraded id authorization server right moved free holds =>
      have connected : front.server.connect? id = some server := moved
      simp [Option.guard, SyncAction.Unauthorized, right, withoutBadAuth,
        run?_cons_eq_some, step?, Server.syncHandler, connected, free,
        SyncResponse.badAuth]
  | @behind action server notConnect moved =>
      have passed :
          step? fromStr config front.withoutBadAuth (.server action) =
            some { front.withoutBadAuth with server := server } := by
        cases action with
        | connect id => exact (notConnect id rfl).elim
        | _ => simp only [step?, withoutBadAuth, moved, Option.map_some]
      simp only [Option.guard, SyncAction.Unauthorized, not_false_eq_true,
        decide_true, if_true, Option.toList_some, run?_cons_eq_some, passed,
        run?_nil]
      exact ⟨_, rfl, rfl⟩

/-! ## Who is behind the handler -/

/-- A connection of the server behind the handler has been admitted. -/
theorem admitted_of_known
    {actions : List SyncAction}
    {front : SyncServer}
    {id : Uuid}
    (ran : run? (step? fromStr config) (start config) actions = some front)
    (known : (front.server.sockets id).isSome) :
    Admitted config actions id := by
  refine run?_history
    (motive := fun past front =>
      (front.server.sockets id).isSome → Admitted config past id)
    (fun known => by cases known) ?_ ran known
  rintro past front action next - - holds stepped known
  have earlier (before : (front.server.sockets id).isSome) :
      Admitted config (past ++ [action]) id := by
    obtain ⟨authorization, member, right⟩ := holds before
    exact ⟨authorization, List.mem_append_left _ member, right⟩
  have connected
      {other : Uuid}
      {authorization : Option (List UInt8)}
      (isRequest : action = .request other authorization)
      (right : config.Authorizes authorization)
      (connects : ServerAction.connect other = .connect id) :
      Admitted config (past ++ [action]) id := by
    cases connects
    exact ⟨authorization, by simp [isRequest],
      (ServerConfig.authorizes_iff.mp right).2⟩
  cases syncStep_of_step? stepped with
  | turnedAway wrong =>
      exact earlier known
  | full right moved none =>
      exact earlier known
  | upgraded right moved free holds =>
      rcases Server.known_of_step? moved known with before | connects
      · exact earlier before
      · exact connected rfl right connects
  | behind notConnect moved =>
      rcases Server.known_of_step? moved known with before | connects
      · exact earlier before
      · exact (notConnect id connects).elim

/-- A connection of the hub is one of the server. -/
private theorem known_of_connection
    {actions : List ServerAction}
    {server : Server}
    {id : Uuid}
    {connection : Connection}
    (ran :
      run? (Server.step? fromStr config) (Server.start config) actions =
        some server)
    (found : server.relay.connections id = some connection) :
    (server.sockets id).isSome := by
  by_contra unknown
  have absent : server.relay.writerOf id = none := by
    apply (Server.attendance_of_run ran).early
    intro socket known
    simp [known] at unknown
  simp [Relay.writerOf, found] at absent

/-- Only a connection of the server is read from. -/
private theorem known_of_read
    {server next : Server}
    {action : ServerAction}
    {message : HubMessage}
    {sender : Uuid}
    (stepped : server.step? fromStr config action = some next)
    (read : action.read? fromStr config sender = some message) :
    (server.sockets sender).isSome := by
  cases action with
  | receive id event =>
      by_cases own : id = sender
      · subst sender
        obtain ⟨socket, known, -⟩ := Option.bind_eq_some_iff.mp stepped
        simp [known]
      · simp [ServerAction.read?, own] at read
  | _ =>
      cases read

/-- Whoever has sent something that was read has been admitted. -/
private theorem admitted_of_read
    {actions : List SyncAction}
    {front : SyncServer}
    {sender : Uuid}
    {message : HubMessage}
    (ran : run? (step? fromStr config) (start config) actions = some front)
    (read :
      message ∈
        (actions.filterMap (SyncAction.behind? config)).filterMap
          (ServerAction.read? fromStr config sender)) :
    Admitted config actions sender := by
  refine run?_history
    (motive := fun past _ =>
      message ∈
          (past.filterMap (SyncAction.behind? config)).filterMap
            (ServerAction.read? fromStr config sender) →
        Admitted config past sender)
    (fun member => by cases member) ?_ ran read
  rintro past front action next - reached holds stepped read
  have earlier (before : Admitted config past sender) :
      Admitted config (past ++ [action]) sender := by
    obtain ⟨authorization, member, right⟩ := before
    exact ⟨authorization, List.mem_append_left _ member, right⟩
  rw [List.filterMap_append, List.filterMap_append, List.mem_append] at read
  rcases read with before | now
  · exact earlier (holds before)
  · refine earlier (admitted_of_known reached ?_)
    obtain ⟨behind, isBehind, reads⟩ := List.mem_filterMap.mp now
    obtain ⟨only, isAction, seen⟩ := List.mem_filterMap.mp isBehind
    rw [List.mem_singleton] at isAction
    subst only
    cases syncStep_of_step? stepped with
    | turnedAway wrong =>
        simp [SyncAction.behind?, wrong] at seen
    | full right moved none =>
        simp only [SyncAction.behind?, if_pos right, Option.some.injEq] at seen
        exact known_of_read moved (seen ▸ reads)
    | upgraded right moved free holds =>
        simp only [SyncAction.behind?, if_pos right, Option.some.injEq] at seen
        exact known_of_read moved (seen ▸ reads)
    | behind notConnect moved =>
        cases seen
        exact known_of_read moved reads

/-! ## What is sent -/

/-- A clip that a connection has been sent names who sent it. -/
private theorem exists_sender_of_clip
    {actions : List ServerAction}
    {server : Server}
    {receiver : Uuid}
    {connection : Connection}
    {clip : ClipFrame}
    (ran :
      run? (Server.step? fromStr config) (Server.start config) actions =
        some server)
    (found : server.relay.connections receiver = some connection)
    (sent : clip ∈ connection.sent.filterMap Frame.carried?) :
    ∃ sender, clip.fromId = some sender := by
  obtain ⟨relayActions, relayRan, -⟩ := Server.relay_run ran
  have carried :=
    Relay.carried_sublist_published relayRan
      (by simp [found] : (server.relay.connections receiver).isSome)
  have published : clip ∈ relayActions.filterMap RelayAction.published? := by
    refine carried.subset ?_
    simp only [Relay.carriedClips, found, Option.elim_some,
      Connection.carried, List.mem_append]
    exact .inl (.inl sent)
  obtain ⟨action, -, publishes⟩ := List.mem_filterMap.mp published
  unfold RelayAction.published? at publishes
  split at publishes
  · cases publishes
    exact ⟨_, rfl⟩
  · cases publishes

/-- A chunk that a connection has been sent names who sent it. -/
private theorem exists_sender_of_chunk
    {actions : List ServerAction}
    {server : Server}
    {receiver : Uuid}
    {connection : Connection}
    {chunk : FileChunkFrame}
    (ran :
      run? (Server.step? fromStr config) (Server.start config) actions =
        some server)
    (found : server.relay.connections receiver = some connection)
    (sent : chunk ∈ connection.sent.filterMap Frame.fileChunk?) :
    ∃ sender, chunk.fromId = some sender := by
  obtain ⟨relayActions, relayRan, -⟩ := Server.relay_run ran
  obtain ⟨before, after, -, -, files⟩ :=
    Relay.handedInOrder_of_run relayRan
      (by simp [found] : (server.relay.connections receiver).isSome)
  simp only [Relay.handedFiles, Relay.sentFrames, found] at files
  have handed := files.subset (List.mem_append_left _ sent)
  obtain ⟨action, -, publishes⟩ := List.mem_filterMap.mp handed
  unfold RelayAction.chunkFor at publishes
  split at publishes
  · split at publishes
    · cases publishes
    · cases publishes
      exact ⟨_, rfl⟩
  · cases publishes

private theorem clips_of_run
    {actions : List SyncAction}
    {front : SyncServer}
    {receiver : Uuid}
    {connection : Connection}
    {clip : ClipFrame}
    (ran : run? (step? fromStr config) (start config) actions = some front)
    (found : front.server.relay.connections receiver = some connection)
    (sent : clip ∈ connection.sent.filterMap Frame.carried?) :
    ∃ sender,
      clip.fromId = some sender ∧ Admitted config actions sender ∧
        clip ∈
          (framesRead fromStr config sender
            (actions.filterMap (SyncAction.behind? config))).filterMap
              Frame.clip? := by
  have serverRan := server_run ran
  obtain ⟨sender, isSender⟩ := exists_sender_of_clip serverRan found sent
  have read :=
    (Server.carried_sent_in_order serverRan found sender).subset
      (List.mem_filter.mpr ⟨sent, by simp [isSender]⟩)
  refine ⟨sender, isSender, ?_, read⟩
  obtain ⟨frame, member, -⟩ := List.mem_filterMap.mp read
  obtain ⟨message, isRead, -⟩ := List.mem_filterMap.mp member
  exact admitted_of_read ran isRead

private theorem chunks_of_run
    {actions : List SyncAction}
    {front : SyncServer}
    {receiver : Uuid}
    {connection : Connection}
    {chunk : FileChunkFrame}
    (ran : run? (step? fromStr config) (start config) actions = some front)
    (found : front.server.relay.connections receiver = some connection)
    (sent : chunk ∈ connection.sent.filterMap Frame.fileChunk?) :
    ∃ sender,
      chunk.fromId = some sender ∧ Admitted config actions sender ∧
        chunk ∈
          (framesRead fromStr config sender
            (actions.filterMap (SyncAction.behind? config))).filterMap
              Frame.fileChunk? := by
  have serverRan := server_run ran
  obtain ⟨sender, isSender⟩ := exists_sender_of_chunk serverRan found sent
  have read :=
    (Server.chunks_sent_in_order serverRan found sender).subset
      (List.mem_filter.mpr ⟨sent, by simp [isSender]⟩)
  refine ⟨sender, isSender, ?_, read⟩
  obtain ⟨frame, member, -⟩ := List.mem_filterMap.mp read
  obtain ⟨message, isRead, -⟩ := List.mem_filterMap.mp member
  exact admitted_of_read ran isRead

/-! ## What is answered -/

/-- There is no permit left exactly when the server is full. -/
private theorem full_iff
    {server : Server}
    (admission : server.Admission config) :
    Full config server ↔ server.permits = 0 := by
  constructor
  · rintro ⟨held, nodup, length, holds⟩
    have bound := admission.permits.length_le nodup holds
    omega
  · intro none
    obtain ⟨held, nodup, members, sum⟩ := admission.permits
    exact ⟨held, nodup, by omega, fun id member => (members id).mp member⟩

/-- The handler answers every request as it should. -/
private theorem answersRight
    {front : SyncServer}
    (admission : front.server.Admission config)
    (action : SyncAction) :
    AnswersRight config front action := by
  cases action with
  | server action =>
      trivial
  | request id authorization =>
      intro next response answered
      rcases Server.syncHandler_cases answered with
        ⟨wrong, isBadAuth, same⟩ | ⟨right, none, isFull, -, same⟩ |
          ⟨right, free, isUpgrade, -, holds⟩
      · exact .inl ⟨wrong, isBadAuth, same⟩
      · exact .inr
          (.inl ⟨right, (full_iff admission).mpr none, isFull, same⟩)
      · exact .inr
          (.inr
            ⟨right, fun full => free ((full_iff admission).mp full),
              isUpgrade, holds⟩)

/--
Requests without the credentials of the server are as if they had never come:
they are answered with 401, and without them every run ends in the same
server.  Of the others, each is told that there is no room exactly when as
many connections as there may be hold a permit.  So only connections whose
request presented user and password hold permits or are known to the hub, and
every clip and file chunk that a connection has been sent, the clip of its
welcome included, was read from such a connection.
-/
theorem only_admitted_take_part
    {actions : List SyncAction}
    {front : SyncServer}
    (ran : run? (step? fromStr config) (start config) actions = some front) :
    front.Guarded fromStr config actions where
  unnoticed := run_filter ran
  answered :=
    Along.intro fun _ reached =>
      answersRight (Server.admission_of_run (server_run reached)) _
  holders := by
    rintro id ⟨socket, known, -⟩
    exact admitted_of_known ran (by simp [known])
  receivers := fun found =>
    admitted_of_known ran (known_of_connection (server_run ran) found)
  clips := clips_of_run ran
  chunks := chunks_of_run ran

/-- Ask for a connection with the header of `basic_header_value`. -/
def asking (id : Uuid) (user password : String) : SyncAction :=
  .request id (some (asBytes (basicHeaderValue user password)))

/-- Client 1 and client 2 join, others are sent away, and client 1 copies. -/
def sampleActions : List SyncAction :=
  .request ⟨7⟩ none :: asking ⟨1⟩ "alice" "hunter2" ::
    (Server.joining ⟨1⟩).tail.map .server ++
    asking ⟨7⟩ "alice" "letmein" :: asking ⟨2⟩ "alice" "hunter2" ::
    (Server.joining ⟨2⟩).tail.map .server ++
    asking ⟨3⟩ "alice" "hunter2" ::
    [ServerAction.receive ⟨1⟩ (.message (.text "spoofed")),
      .publish ⟨1⟩,
      .process (.publish ⟨1⟩ { Server.spoofedClip with fromId := none }),
      .write ⟨2⟩, .write ⟨2⟩].map .server

/-- The whole server after the sample. -/
def sampleServer : SyncServer :=
  (run? (step? Server.readsSpoofed Server.pairConfig)
    (start Server.pairConfig) sampleActions).get (by decide +kernel)

/-- On the sample two are unauthorized, and a third comes too late. -/
theorem only_admitted_take_part_sample :
    sampleServer.responses =
        [(⟨7⟩, .badAuth), (⟨1⟩, .switchingProtocols),
          (⟨7⟩, .badAuth), (⟨2⟩, .switchingProtocols),
          (⟨3⟩, .atCapacity)] ∧
      sampleServer.Guarded Server.readsSpoofed Server.pairConfig
        sampleActions :=
  ⟨by decide +kernel, only_admitted_take_part (Option.some_get _).symm⟩

end SyncServer

end ClipboardWire
