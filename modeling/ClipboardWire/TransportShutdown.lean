import ClipboardWire.ClientTransport
import ClipboardWire.StepRun

namespace ClipboardWire

open BoundedChannel

/-!
# What is queued when the transport handle is dropped

One call of `connect_and_serve` together with the holder of the `Transport`
handle, who queues clips and chunks, takes what arrived, and drops the ends of
the channels one after the other while the call goes on.  The call returns
`Ok(())` through several arms; the arm that found the clip queue closed drains
the file queue first, and the others look at no other queue.
-/

namespace Transport

/-- The call returns `Ok(())` with the action. -/
def ReturnsOk (transport : Transport) : TransportAction → Prop
  | .receive message =>
      transport.task = .serving ∧ (message = .close ∨ message = .ended)
  | .forward =>
      transport.Ends .forward
  | .takeChunk =>
      transport.Ends .takeChunk
  | .connect _ | .takeClip | .ping | .write _ | .wake =>
      False

/-- A call that returns `Ok(())` is over. -/
theorem ReturnsOk.ends
    {transport : Transport}
    {action : TransportAction}
    (returns : transport.ReturnsOk action) :
    transport.Ends action := by
  cases action with
  | receive message =>
      obtain ⟨task, rfl | rfl⟩ := returns
      · exact .inr ⟨task, trivial⟩
      · exact .inr ⟨task, trivial⟩
  | forward => exact returns
  | takeChunk => exact returns
  | connect succeeds => cases returns
  | takeClip => cases returns
  | ping => cases returns
  | write succeeds => cases returns
  | wake => cases returns

/-- Nothing is in hand when the call returns `Ok(())`. -/
theorem ReturnsOk.writing
    {transport : Transport}
    {action : TransportAction}
    (returns : transport.ReturnsOk action) :
    transport.writing = [] := by
  cases action with
  | receive message =>
      simp [Transport.writing, returns.1]
  | forward =>
      rcases returns with ⟨clip, task, -⟩ | ⟨chunk, files, task, -⟩
      · simp [Transport.writing, task]
      · simp [Transport.writing, task]
  | takeChunk =>
      rcases returns with ⟨task | task, -⟩
      · simp [Transport.writing, task]
      · simp [Transport.writing, task]
  | connect succeeds => cases returns
  | takeClip => cases returns
  | ping => cases returns
  | write succeeds => cases returns
  | wake => cases returns

/-- The clip queue is closed and empty once it is being drained. -/
def DrainsLast (transport : Transport) : Prop :=
  (transport.task = .draining ∨
      ∃ chunk, transport.task = .drainWriting chunk) →
    transport.outbound.buffer = [] ∧ transport.outbound.sendersAlive = false

/-- Only the arm that found the clip queue closed starts to drain. -/
theorem DrainsLast.moves
    {transport next : Transport}
    {action : TransportAction}
    (drainsLast : transport.DrainsLast)
    (moved : Moves transport action next) :
    next.DrainsLast := by
  cases moved with
  | ended ends =>
      intro draining
      rcases transport.endConnection_eq with stopped | ⟨-, sleeping⟩
      · simp [stopped, stop] at draining
      · simp [sleeping] at draining
  | windingDown task empty gone =>
      exact fun _ => ⟨empty, gone⟩
  | chunkDrained task queued =>
      exact fun _ => drainsLast (.inl task)
  | drainWritten task =>
      exact fun _ => drainsLast (.inr ⟨_, task⟩)
  | ignored task noClip stays =>
      exact drainsLast
  | _ =>
      simp [DrainsLast]

end Transport

/-- A transport in a call, and everything that its queues have accepted. -/
structure OwnedTransport where
  transport : Transport
  clips : List ClipFrame
  chunks : List FileChunkFrame

/-- What the holder of the handle and the task can do. -/
inductive OwnerAction where
  | transport (action : TransportAction)
  | queueClip (clip : ClipFrame)
  | queueChunk (chunk : FileChunkFrame)
  /-- The holder takes the next clip or chunk that arrived. -/
  | takeInbound
  | takeInboundFile
  | dropClipSenders
  | dropChunkSenders
  | dropInbound
  | dropInboundFiles
  deriving DecidableEq, Repr

namespace OwnedTransport

/-- `connect_and_serve` is called, with whatever the queues hold by then. -/
def call (transport : Transport) : OwnedTransport where
  transport := { transport with task := .connecting, wire := [] }
  clips := transport.outbound.buffer
  chunks := transport.outboundFiles.buffer

/-- One step; what comes after the end of the call is left out. -/
def step? (owned : OwnedTransport) : OwnerAction → Option OwnedTransport
  | .transport .wake =>
      none
  | .transport action =>
      match owned.transport.step? action with
      | some next => some { owned with transport := next }
      | none => none
  | .queueClip clip =>
      if owned.transport.outbound.sendersAlive then
        match owned.transport.outbound.pollSend clip with
        | .sent outbound =>
            some
              { owned with
                transport := { owned.transport with outbound := outbound }
                clips := owned.clips ++ [clip] }
        | .pending | .closed => none
      else
        none
  | .queueChunk chunk =>
      if owned.transport.outboundFiles.sendersAlive then
        match owned.transport.outboundFiles.pollSend chunk with
        | .sent files =>
            some
              { owned with
                transport := { owned.transport with outboundFiles := files }
                chunks := owned.chunks ++ [chunk] }
        | .pending | .closed => none
      else
        none
  | .takeInbound =>
      match owned.transport.inbound.pollRecv with
      | .received _ inbound =>
          some
            { owned with
              transport := { owned.transport with inbound := inbound } }
      | .pending | .disconnected => none
  | .takeInboundFile =>
      match owned.transport.inboundFiles.map Channel.pollRecv with
      | some (.received _ files) =>
          some
            { owned with
              transport :=
                { owned.transport with inboundFiles := some files } }
      | some .pending | some .disconnected | none => none
  | .dropClipSenders =>
      some
        { owned with
          transport :=
            { owned.transport with
              outbound := owned.transport.outbound.dropSenders } }
  | .dropChunkSenders =>
      some
        { owned with
          transport :=
            { owned.transport with
              outboundFiles := owned.transport.outboundFiles.dropSenders } }
  | .dropInbound =>
      some
        { owned with
          transport :=
            { owned.transport with
              inbound := owned.transport.inbound.dropReceiver } }
  | .dropInboundFiles =>
      some
        { owned with
          transport :=
            { owned.transport with
              inboundFiles :=
                owned.transport.inboundFiles.map Channel.dropReceiver } }

/-- Every end of a channel that the handle held is gone. -/
def Dropped (owned : OwnedTransport) : Prop :=
  owned.transport.outbound.sendersAlive = false ∧
    owned.transport.outboundFiles.sendersAlive = false ∧
    owned.transport.inbound.receiverAlive = false ∧
    ∀ files,
      owned.transport.inboundFiles = some files →
        files.receiverAlive = false

/-- Every clip and every chunk that was queued has been written, in order. -/
def Flushed (owned : OwnedTransport) : Prop :=
  owned.transport.wire.filterMap Frame.clip? = owned.clips ∧
    owned.transport.wire.filterMap Frame.fileChunk? = owned.chunks

/--
The arm that returns leaves nothing in the queues: the arm of the file queue
runs when no clip is queued, and the arms for arrivals when both are empty.
Draining needs no condition.
-/
def LeavesNothing (owned : OwnedTransport) : TransportAction → Prop
  | .takeChunk =>
      owned.transport.task = .serving → owned.transport.outbound.buffer = []
  | _ =>
      owned.transport.outbound.buffer = [] ∧
        owned.transport.outboundFiles.buffer = []

/-- While the call goes on, what was queued was taken or still is queued. -/
structure Accounted (owned : OwnedTransport) : Prop where
  drainsLast : owned.transport.DrainsLast
  clips :
    owned.transport.InCall →
      owned.transport.taken.filterMap Frame.clip? ++
          owned.transport.outbound.buffer =
        owned.clips
  chunks :
    owned.transport.InCall →
      owned.transport.taken.filterMap Frame.fileChunk? ++
          owned.transport.outboundFiles.buffer =
        owned.chunks

/-- At the start of a call, everything is still queued. -/
theorem accounted_call (transport : Transport) :
    (call transport).Accounted := by
  refine ⟨?_, fun _ => rfl, fun _ => rfl⟩
  rintro (draining | ⟨chunk, writing⟩)
  · cases draining
  · cases writing

theorem Accounted.congr
    {owned next : OwnedTransport}
    (accounted : owned.Accounted)
    (task : next.transport.task = owned.transport.task)
    (wire : next.transport.wire = owned.transport.wire)
    (outbound : next.transport.outbound = owned.transport.outbound ∨
      next.transport.outbound = owned.transport.outbound.dropSenders)
    (files :
      next.transport.outboundFiles.buffer =
        owned.transport.outboundFiles.buffer)
    (clips : next.clips = owned.clips)
    (chunks : next.chunks = owned.chunks) :
    next.Accounted := by
  have buffer :
      next.transport.outbound.buffer = owned.transport.outbound.buffer := by
    rcases outbound with same | dropped
    · rw [same]
    · rw [dropped, Channel.buffer_dropSenders]
  have taken : next.transport.taken = owned.transport.taken := by
    simp only [Transport.taken, Transport.writing, task, wire]
  refine ⟨?_, ?_, ?_⟩
  · intro draining
    rw [task] at draining
    obtain ⟨empty, gone⟩ := accounted.drainsLast draining
    refine ⟨buffer.trans empty, ?_⟩
    rcases outbound with same | dropped
    · rw [same, gone]
    · rw [dropped]
      rfl
  · intro inCall
    rw [Transport.InCall, task] at inCall
    rw [taken, buffer, clips]
    exact accounted.clips inCall
  · intro inCall
    rw [Transport.InCall, task] at inCall
    rw [taken, files, chunks]
    exact accounted.chunks inCall

theorem Accounted.transport
    {owned : OwnedTransport}
    {action : TransportAction}
    {next : Transport}
    (accounted : owned.Accounted)
    (awake : action ≠ .wake)
    (moved : Transport.Moves owned.transport action next) :
    Accounted { owned with transport := next } := by
  have wasInCall := moved.inCall awake
  refine ⟨accounted.drainsLast.moves moved, ?_, ?_⟩
  · intro inCall
    exact (moved.taken_append_queued inCall).1.trans
      (accounted.clips wasInCall)
  · intro inCall
    exact (moved.taken_append_queued inCall).2.trans
      (accounted.chunks wasInCall)

/-- A step of the task, seen from the holder of the handle. -/
theorem step?_transport
    {owned next : OwnedTransport}
    {action : TransportAction}
    (stepped : owned.step? (.transport action) = some next) :
    action ≠ .wake ∧
      ∃ after,
        Transport.Moves owned.transport action after ∧
          next = { owned with transport := after } := by
  unfold step? at stepped
  split at stepped
  · cases stepped
  · rename_i notWake same
    cases same
    refine ⟨fun wake => notWake (by rw [wake]), ?_⟩
    split at stepped
    · rename_i after moved
      cases stepped
      exact ⟨after, Transport.moves_of_step? moved, rfl⟩
    · cases stepped
  all_goals rename_i same; cases same

/-- Queueing a clip keeps the account; nothing is drained before the drop. -/
theorem Accounted.queueClip
    {owned : OwnedTransport}
    {clip : ClipFrame}
    (accounted : owned.Accounted)
    (alive : owned.transport.outbound.sendersAlive = true)
    (room : owned.transport.outbound.HasRoom) :
    Accounted
      { owned with
        transport :=
          { owned.transport with
            outbound := owned.transport.outbound.push clip room }
        clips := owned.clips ++ [clip] } := by
  refine ⟨?_, ?_, accounted.chunks⟩
  · intro draining
    have gone := (accounted.drainsLast draining).2
    rw [alive] at gone
    cases gone
  · intro inCall
    have total := accounted.clips inCall
    rw [← total, List.append_assoc]
    rfl

/-- Queueing a chunk keeps the account. -/
theorem Accounted.queueChunk
    {owned : OwnedTransport}
    {chunk : FileChunkFrame}
    (accounted : owned.Accounted)
    (room : owned.transport.outboundFiles.HasRoom) :
    Accounted
      { owned with
        transport :=
          { owned.transport with
            outboundFiles := owned.transport.outboundFiles.push chunk room }
        chunks := owned.chunks ++ [chunk] } := by
  refine ⟨accounted.drainsLast, accounted.clips, ?_⟩
  intro inCall
  have total := accounted.chunks inCall
  rw [← total, List.append_assoc]
  rfl

theorem Accounted.step
    {owned next : OwnedTransport}
    {action : OwnerAction}
    (accounted : owned.Accounted)
    (stepped : owned.step? action = some next) :
    next.Accounted := by
  cases action with
  | transport action =>
      obtain ⟨awake, after, moved, rfl⟩ := step?_transport stepped
      exact accounted.transport awake moved
  | queueClip clip =>
      simp only [step?] at stepped
      split at stepped
      · rename_i alive
        split at stepped
        · rename_i sent
          cases stepped
          obtain ⟨room, -, rfl⟩ := Channel.pollSend_eq_sent.mp sent
          exact accounted.queueClip alive room
        · cases stepped
        · cases stepped
      · cases stepped
  | queueChunk chunk =>
      simp only [step?] at stepped
      split at stepped
      · split at stepped
        · rename_i sent
          cases stepped
          obtain ⟨room, -, rfl⟩ := Channel.pollSend_eq_sent.mp sent
          exact accounted.queueChunk room
        · cases stepped
        · cases stepped
      · cases stepped
  | takeInbound =>
      simp only [step?] at stepped
      split at stepped
      · cases stepped
        exact accounted.congr rfl rfl (.inl rfl) rfl rfl rfl
      · cases stepped
      · cases stepped
  | takeInboundFile =>
      simp only [step?] at stepped
      split at stepped
      · cases stepped
        exact accounted.congr rfl rfl (.inl rfl) rfl rfl rfl
      all_goals cases stepped
  | dropClipSenders =>
      cases stepped
      exact accounted.congr rfl rfl (.inr rfl) rfl rfl rfl
  | dropChunkSenders =>
      cases stepped
      exact accounted.congr rfl rfl (.inl rfl) rfl rfl rfl
  | dropInbound =>
      cases stepped
      exact accounted.congr rfl rfl (.inl rfl) rfl rfl rfl
  | dropInboundFiles =>
      cases stepped
      exact accounted.congr rfl rfl (.inl rfl) rfl rfl rfl

theorem accounted_of_run
    {transport : Transport}
    {actions : List OwnerAction}
    {owned : OwnedTransport}
    (ran : StepRun.run? step? (call transport) actions = some owned) :
    owned.Accounted :=
  StepRun.run?_invariant (accounted_call transport) Accounted.step ran

/-- A call that returns leaves behind exactly what its queues still hold. -/
theorem flushed_iff_empty
    {owned next : OwnedTransport}
    {action : TransportAction}
    (accounted : owned.Accounted)
    (returns : owned.transport.ReturnsOk action)
    (stepped : owned.step? (.transport action) = some next) :
    next.Flushed ↔
      owned.transport.outbound.buffer = [] ∧
        owned.transport.outboundFiles.buffer = [] := by
  obtain ⟨awake, after, moved, rfl⟩ := step?_transport stepped
  have inCall := moved.inCall awake
  have clips := accounted.clips inCall
  have chunks := accounted.chunks inCall
  have wire : after.wire = owned.transport.wire := by
    rw [moved.eq_endConnection returns.ends]
    rcases owned.transport.endConnection_eq with stopped | ⟨-, sleeping⟩
    · rw [stopped]
      rfl
    · rw [sleeping]
  simp only [Transport.taken, returns.writing, List.append_nil] at clips chunks
  simp only [Flushed, wire, ← clips, ← chunks, List.self_eq_append_right]

/--
When the call returns `Ok(())`, after the handle is gone as before, every clip
and every chunk that was queued has been written exactly if the arm that
returned left nothing in the queues.
-/
theorem flushed_iff
    {transport : Transport}
    {actions : List OwnerAction}
    {owned next : OwnedTransport}
    {action : TransportAction}
    (ran : StepRun.run? step? (call transport) actions = some owned)
    (returns : owned.transport.ReturnsOk action)
    (stepped : owned.step? (.transport action) = some next) :
    next.Flushed ↔ owned.LeavesNothing action := by
  have accounted := accounted_of_run ran
  rw [flushed_iff_empty accounted returns stepped]
  cases action with
  | takeChunk =>
      obtain ⟨task, empty, -⟩ := returns
      rw [empty, LeavesNothing]
      rcases task with serving | draining
      · simp [serving]
      · simp [draining, (accounted.drainsLast (.inl draining)).1]
  | receive message => rfl
  | forward => rfl
  | connect succeeds => cases returns
  | takeClip => cases returns
  | ping => cases returns
  | write succeeds => cases returns
  | wake => cases returns

/-- A welcome without a cached clip. -/
def plainWelcome : Incoming :=
  .text (some (.welcome ⟨protocolVersion, ⟨1⟩, none⟩))

/-- A clip that the holder queues. -/
def queuedClip : ClipFrame :=
  .text ⟨2⟩ 0 "last words"

/-- A clip is queued on a connection, and then the handle is dropped. -/
def queuedAndDropped : List OwnerAction :=
  [.transport (.connect true), .transport (.receive plainWelcome),
    .queueClip queuedClip, .dropInbound, .dropInboundFiles, .dropClipSenders,
    .dropChunkSenders]

/-- The clip queue is served to its end before the call returns. -/
def drained : List OwnerAction :=
  queuedAndDropped ++
    [.transport .takeClip, .transport (.write true), .transport .takeClip]

/-- The state after a run of the first call. -/
def after (actions : List OwnerAction) : OwnedTransport :=
  (StepRun.run? step? (call (.spawn true false)) actions).getD
    (call (.spawn true false))

/-- The drained call leaves nothing, and the clip was written. -/
theorem drained_flushed_iff :
    (after (drained ++ [.transport .takeChunk])).Flushed ↔
      (after drained).LeavesNothing .takeChunk := by
  have ran :
      StepRun.run? step? (call (.spawn true false)) drained =
        some (after drained) := by
    rfl
  exact flushed_iff ran ⟨.inr rfl, rfl, rfl⟩ rfl

/-- The arm of the file queue returns first, and the clip is lost. -/
theorem queuedAndDropped_not_flushed :
    ¬ ∀ (transport : Transport) (actions : List OwnerAction)
        (owned next : OwnedTransport) (action : TransportAction),
        StepRun.run? step? (call transport) actions = some owned →
          owned.Dropped →
            owned.transport.ReturnsOk action →
              owned.step? (.transport action) = some next →
                next.Flushed := by
  intro always
  have flushed :=
    always (.spawn true false) queuedAndDropped (after queuedAndDropped)
      (after (queuedAndDropped ++ [.transport .takeChunk])) .takeChunk rfl
      ⟨rfl, rfl, rfl, by rintro files ⟨⟩; rfl⟩
      ⟨.inl rfl, rfl, rfl⟩ rfl
  cases flushed.1

end OwnedTransport

end ClipboardWire
