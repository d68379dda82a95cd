import ClipboardWire.TransportShutdown

namespace ClipboardWire

open BoundedChannel

/-!
# The frames of a client over all its connections

`run_loop` keeps the receiving ends of the outbound queues while it reconnects,
so what is queued during an outage goes out on the next connection.  The sink
answers about each frame once: a frame that it accepts is on the wire, and a
frame that it refuses is lost together with the connection.  Over any number
of connections the answers come in the order in which the frames were queued,
and everything that has no answer yet is in hand or still queued.
-/

namespace Transport

/-- What the sink answers about the frame in hand, and whether it takes it. -/
def answers
    (transport : Transport) :
    TransportAction → List (Frame × Bool)
  | .write succeeds =>
      transport.writing.map fun frame => (frame, succeeds)
  | _ =>
      []

/-- The frames of some answers that were taken. -/
def takenOf (answers : List (Frame × Bool)) : List Frame :=
  (answers.filter Prod.snd).map Prod.fst

/-- The frames of some answers that were refused. -/
def refusedOf (answers : List (Frame × Bool)) : List Frame :=
  (answers.filter (!·.2)).map Prod.fst

@[simp] theorem takenOf_append (first second : List (Frame × Bool)) :
    takenOf (first ++ second) = takenOf first ++ takenOf second := by
  simp [takenOf]

@[simp] theorem refusedOf_append (first second : List (Frame × Bool)) :
    refusedOf (first ++ second) = refusedOf first ++ refusedOf second := by
  simp [refusedOf]

@[simp] theorem takenOf_map_true (frames : List Frame) :
    takenOf (frames.map fun frame => (frame, true)) = frames := by
  simp [takenOf, List.filter_map, Function.comp_def]

@[simp] theorem takenOf_map_false (frames : List Frame) :
    takenOf (frames.map fun frame => (frame, false)) = [] := by
  simp [takenOf]

/-- The clips that wait for an answer, the one in hand first. -/
def waitingClips (transport : Transport) : List ClipFrame :=
  transport.writing.filterMap Frame.clip? ++ transport.outbound.buffer

/-- The chunks that wait for an answer, the one in hand first. -/
def waitingChunks (transport : Transport) : List FileChunkFrame :=
  transport.writing.filterMap Frame.fileChunk? ++
    transport.outboundFiles.buffer

/-- What one step of the task does with the frames that wait. -/
structure Passes
    (transport next : Transport)
    (action : TransportAction) : Prop where
  wire :
    next.wire = transport.wire ++ takenOf (transport.answers action)
  clips :
    ((transport.answers action).map Prod.fst).filterMap Frame.clip? ++
        next.waitingClips =
      transport.waitingClips
  chunks :
    ((transport.answers action).map Prod.fst).filterMap Frame.fileChunk? ++
        next.waitingChunks =
      transport.waitingChunks

/-- A task that stops drops what waits in its queues. -/
structure Drops
    (transport next : Transport)
    (action : TransportAction) : Prop where
  wire :
    next.wire = transport.wire ++ takenOf (transport.answers action)
  clips :
    ((transport.answers action).map Prod.fst).filterMap Frame.clip? ++
        next.waitingClips <+:
      transport.waitingClips
  chunks :
    ((transport.answers action).map Prod.fst).filterMap Frame.fileChunk? ++
        next.waitingChunks <+:
      transport.waitingChunks
  stopped : next.task = .stopped
  closed :
    next.outbound.receiverAlive = false ∧
      next.outboundFiles.receiverAlive = false

/-- At the end of a connection the frame in hand has been refused. -/
private theorem answers_of_ends
    {transport : Transport}
    {action : TransportAction}
    (ends : transport.Ends action) :
    (transport.answers action).map Prod.fst = transport.writing ∧
      takenOf (transport.answers action) = [] := by
  cases action with
  | write succeeds =>
      obtain ⟨-, rfl⟩ := ends
      simp [answers, Function.comp_def]
  | connect succeeds =>
      simp [answers, takenOf, writing, ends.1]
  | receive message =>
      rcases ends with ⟨task, -⟩ | ⟨task, -⟩ <;>
        simp [answers, takenOf, writing, task]
  | forward =>
      rcases ends with ⟨clip, task, -⟩ | ⟨chunk, files, task, -⟩ <;>
        simp [answers, takenOf, writing, task]
  | takeChunk =>
      rcases ends with ⟨task | task, -⟩ <;>
        simp [answers, takenOf, writing, task]
  | takeClip => cases ends
  | ping => cases ends
  | wake => cases ends

/-- One step passes frames on, or stops the task and drops what waits. -/
theorem Moves.passes_or_drops
    {transport next : Transport}
    {action : TransportAction}
    (moved : Moves transport action next) :
    Passes transport next action ∨ Drops transport next action := by
  cases moved with
  | ended ends =>
      obtain ⟨inHand, nothing⟩ := answers_of_ends ends
      rcases transport.endConnection_eq with stopped | ⟨-, sleeping⟩
      · right
        rw [stopped]
        constructor
        · simp [stop, nothing]
        · simp [inHand, waitingClips, stop, writing]
        · simp [inHand, waitingChunks, stop, writing]
        · rfl
        · exact ⟨rfl, rfl⟩
      · left
        rw [sleeping]
        constructor
        · simp [nothing]
        · simp [inHand, waitingClips, writing]
        · simp [inHand, waitingChunks, writing]
  | clipTaken task queued =>
      left
      constructor <;>
        simp [answers, takenOf, waitingClips, waitingChunks, writing, task,
          queued, Outgoing.frame?, Frame.clip?, Frame.fileChunk?]
  | chunkTaken task queued =>
      left
      constructor <;>
        simp [answers, takenOf, waitingClips, waitingChunks, writing, task,
          queued, Outgoing.frame?, Frame.clip?, Frame.fileChunk?]
  | chunkDrained task queued =>
      left
      constructor <;>
        simp [answers, takenOf, waitingClips, waitingChunks, writing, task,
          queued, Frame.clip?, Frame.fileChunk?]
  | written task =>
      left
      constructor <;>
        simp [answers, waitingClips, waitingChunks, writing, task,
          Function.comp_def]
  | drainWritten task =>
      left
      constructor <;>
        simp [answers, takenOf, waitingClips, waitingChunks, writing, task]
  | pinged task =>
      left
      constructor <;>
        simp [answers, takenOf, waitingClips, waitingChunks, writing, task,
          Outgoing.frame?]
  | ignored task noClip stays =>
      left
      constructor <;>
        simp [answers, takenOf]
  | _ =>
      left
      constructor <;>
        simp_all [answers, takenOf, waitingClips, waitingChunks, writing]

/-- A step refuses at most one frame, and only when the sink fails. -/
theorem length_refusedOf_answers
    (transport : Transport)
    (action : TransportAction) :
    (refusedOf (transport.answers action)).length ≤
      if action = .write false then
        1
      else
        0 := by
  have single : transport.writing.length ≤ 1 := by
    unfold writing
    split
    · rename_i message _
      cases message <;> simp [Outgoing.frame?]
    · simp
    · simp
  cases action with
  | write succeeds =>
      cases succeeds with
      | true =>
          simp [answers, refusedOf]
      | false =>
          simpa [answers, refusedOf, List.filter_map, Function.comp_def] using
            single
  | _ =>
      simp [answers, refusedOf]

end Transport

namespace OwnedTransport

/-- The task is spawned, and nothing has been queued. -/
def spawn (receiveFiles oneShot : Bool) : OwnedTransport where
  transport := Transport.spawn receiveFiles oneShot
  clips := []
  chunks := []

/-- One step of the task or of the holder, over all connections. -/
def live? (owned : OwnedTransport) :
    OwnerAction → Option OwnedTransport
  | .transport action =>
      (owned.transport.step? action).map fun next =>
        { owned with transport := next }
  | action =>
      owned.step? action

/-- The sink refuses what it is given. -/
def isRefusal (action : OwnerAction) : Bool :=
  decide (action = .transport (.write false))

/-- The answers of the sink so far, and what still waits for one. -/
structure Answered
    (owned : OwnedTransport)
    (answers : List (Frame × Bool)) : Prop where
  wire : owned.transport.wire = Transport.takenOf answers
  clips :
    (answers.map Prod.fst).filterMap Frame.clip? ++
        owned.transport.waitingClips <+:
      owned.clips
  chunks :
    (answers.map Prod.fst).filterMap Frame.fileChunk? ++
        owned.transport.waitingChunks <+:
      owned.chunks
  running :
    owned.transport.task ≠ .stopped →
      (answers.map Prod.fst).filterMap Frame.clip? ++
          owned.transport.waitingClips =
        owned.clips ∧
      (answers.map Prod.fst).filterMap Frame.fileChunk? ++
          owned.transport.waitingChunks =
        owned.chunks
  stopped :
    owned.transport.task = .stopped →
      owned.transport.outbound.receiverAlive = false ∧
        owned.transport.outboundFiles.receiverAlive = false

namespace Answered

variable {owned : OwnedTransport} {answers : List (Frame × Bool)}

private theorem spawn (receiveFiles oneShot : Bool) :
    (OwnedTransport.spawn receiveFiles oneShot).Answered [] where
  wire := rfl
  clips := List.prefix_refl _
  chunks := List.prefix_refl _
  running := fun _ => ⟨rfl, rfl⟩
  stopped := fun stopped => by cases stopped

private theorem transport
    {action : TransportAction}
    {next : Transport}
    (answered : owned.Answered answers)
    (moved : Transport.Moves owned.transport action next) :
    Answered { owned with transport := next }
      (answers ++ owned.transport.answers action) := by
  obtain ⟨clips, chunks⟩ := answered.running moved.task_ne_stopped
  rcases moved.passes_or_drops with passes | drops
  · have allClips :
        ((answers ++ owned.transport.answers action).map
              Prod.fst).filterMap Frame.clip? ++
            next.waitingClips =
          owned.clips := by
      rw [List.map_append, List.filterMap_append, List.append_assoc,
        passes.clips, clips]
    have allChunks :
        ((answers ++ owned.transport.answers action).map
              Prod.fst).filterMap Frame.fileChunk? ++
            next.waitingChunks =
          owned.chunks := by
      rw [List.map_append, List.filterMap_append, List.append_assoc,
        passes.chunks, chunks]
    exact
      { wire := by
          rw [passes.wire, Transport.takenOf_append, answered.wire]
        clips := allClips ▸ List.prefix_refl _
        chunks := allChunks ▸ List.prefix_refl _
        running := fun _ => ⟨allClips, allChunks⟩
        stopped := by
          intro stopped
          have drained := moved.ends_of_stopped stopped
          rw [moved.eq_endConnection drained] at stopped ⊢
          rcases owned.transport.endConnection_eq with isStop | ⟨-, sleeps⟩
          · rw [isStop]
            exact ⟨rfl, rfl⟩
          · rw [sleeps] at stopped
            cases stopped }
  · exact
      { wire := by
          rw [drops.wire, Transport.takenOf_append, answered.wire]
        clips := by
          rw [List.map_append, List.filterMap_append, List.append_assoc,
            ← clips]
          exact (List.prefix_append_right_inj _).mpr drops.clips
        chunks := by
          rw [List.map_append, List.filterMap_append, List.append_assoc,
            ← chunks]
          exact (List.prefix_append_right_inj _).mpr drops.chunks
        running := fun runs => (runs drops.stopped).elim
        stopped := fun _ => drops.closed }

private theorem congr
    {next : OwnedTransport}
    (answered : owned.Answered answers)
    (task : next.transport.task = owned.transport.task)
    (wire : next.transport.wire = owned.transport.wire)
    (outbound :
      next.transport.outbound.buffer = owned.transport.outbound.buffer ∧
        next.transport.outbound.receiverAlive =
          owned.transport.outbound.receiverAlive)
    (files :
      next.transport.outboundFiles.buffer =
          owned.transport.outboundFiles.buffer ∧
        next.transport.outboundFiles.receiverAlive =
          owned.transport.outboundFiles.receiverAlive)
    (clips : next.clips = owned.clips)
    (chunks : next.chunks = owned.chunks) :
    next.Answered answers := by
  have waits :
      next.transport.waitingClips = owned.transport.waitingClips ∧
        next.transport.waitingChunks = owned.transport.waitingChunks := by
    simp only [Transport.waitingClips, Transport.waitingChunks,
      Transport.writing, task, outbound.1, files.1, and_self]
  exact
    { wire := wire.trans answered.wire
      clips := by
        rw [waits.1, clips]
        exact answered.clips
      chunks := by
        rw [waits.2, chunks]
        exact answered.chunks
      running := by
        rw [task, waits.1, waits.2, clips, chunks]
        exact answered.running
      stopped := by
        rw [task, outbound.2, files.2]
        exact answered.stopped }

/-- A clip that is queued waits behind all others. -/
private theorem queueClip
    {clip : ClipFrame}
    (answered : owned.Answered answers)
    (room : owned.transport.outbound.HasRoom)
    (alive : owned.transport.outbound.receiverAlive = true) :
    Answered
      { owned with
        transport :=
          { owned.transport with
            outbound := owned.transport.outbound.push clip room }
        clips := owned.clips ++ [clip] }
      answers := by
  have runs : owned.transport.task ≠ .stopped := by
    intro stopped
    rw [(answered.stopped stopped).1] at alive
    cases alive
  obtain ⟨clips, chunks⟩ := answered.running runs
  have longer :
      (answers.map Prod.fst).filterMap Frame.clip? ++
          (owned.transport.writing.filterMap Frame.clip? ++
            (owned.transport.outbound.buffer ++ [clip])) =
        owned.clips ++ [clip] := by
    rw [← clips, Transport.waitingClips]
    simp
  exact
    { wire := answered.wire
      clips := longer ▸ List.prefix_refl _
      chunks := answered.chunks
      running := fun _ => ⟨longer, chunks⟩
      stopped := fun stopped => (runs stopped).elim }

/-- A chunk that is queued waits behind all others. -/
private theorem queueChunk
    {chunk : FileChunkFrame}
    (answered : owned.Answered answers)
    (room : owned.transport.outboundFiles.HasRoom)
    (alive : owned.transport.outboundFiles.receiverAlive = true) :
    Answered
      { owned with
        transport :=
          { owned.transport with
            outboundFiles := owned.transport.outboundFiles.push chunk room }
        chunks := owned.chunks ++ [chunk] }
      answers := by
  have runs : owned.transport.task ≠ .stopped := by
    intro stopped
    rw [(answered.stopped stopped).2] at alive
    cases alive
  obtain ⟨clips, chunks⟩ := answered.running runs
  have longer :
      (answers.map Prod.fst).filterMap Frame.fileChunk? ++
          (owned.transport.writing.filterMap Frame.fileChunk? ++
            (owned.transport.outboundFiles.buffer ++ [chunk])) =
        owned.chunks ++ [chunk] := by
    rw [← chunks, Transport.waitingChunks]
    simp
  exact
    { wire := answered.wire
      clips := answered.clips
      chunks := longer ▸ List.prefix_refl _
      running := fun _ => ⟨clips, longer⟩
      stopped := fun stopped => (runs stopped).elim }

private theorem step
    {next : OwnedTransport}
    {action : OwnerAction}
    (answered : owned.Answered answers)
    (stepped : owned.live? action = some next) :
    ∃ more,
      next.Answered (answers ++ more) ∧
        (Transport.refusedOf more).length ≤
          if isRefusal action then
            1
          else
            0 := by
  have nothing (kept : next.Answered answers) :
      ∃ more,
        next.Answered (answers ++ more) ∧
          (Transport.refusedOf more).length ≤
            if isRefusal action then
              1
            else
              0 :=
    ⟨[], by simpa using kept, by simp [Transport.refusedOf]⟩
  cases action with
  | transport action =>
      obtain ⟨after, moved, rfl⟩ := Option.map_eq_some_iff.mp stepped
      refine ⟨owned.transport.answers action,
        answered.transport (Transport.moves_of_step? moved), ?_⟩
      simpa [isRefusal] using
        owned.transport.length_refusedOf_answers action
  | queueClip clip =>
      simp only [live?, OwnedTransport.step?] at stepped
      split at stepped
      · split at stepped
        · rename_i outbound sent
          cases stepped
          obtain ⟨room, alive, rfl⟩ := Channel.pollSend_eq_sent.mp sent
          exact nothing (answered.queueClip room alive)
        · cases stepped
        · cases stepped
      · cases stepped
  | queueChunk chunk =>
      simp only [live?, OwnedTransport.step?] at stepped
      split at stepped
      · split at stepped
        · rename_i files sent
          cases stepped
          obtain ⟨room, alive, rfl⟩ := Channel.pollSend_eq_sent.mp sent
          exact nothing (answered.queueChunk room alive)
        · cases stepped
        · cases stepped
      · cases stepped
  | takeInbound =>
      simp only [live?, OwnedTransport.step?] at stepped
      split at stepped
      · cases stepped
        exact nothing
          (answered.congr rfl rfl ⟨rfl, rfl⟩ ⟨rfl, rfl⟩ rfl rfl)
      · cases stepped
      · cases stepped
  | takeInboundFile =>
      simp only [live?, OwnedTransport.step?] at stepped
      split at stepped
      · cases stepped
        exact nothing
          (answered.congr rfl rfl ⟨rfl, rfl⟩ ⟨rfl, rfl⟩ rfl rfl)
      · cases stepped
      · cases stepped
      · cases stepped
  | dropClipSenders =>
      cases stepped
      exact nothing
        (answered.congr rfl rfl ⟨rfl, rfl⟩ ⟨rfl, rfl⟩ rfl rfl)
  | dropChunkSenders =>
      cases stepped
      exact nothing
        (answered.congr rfl rfl ⟨rfl, rfl⟩ ⟨rfl, rfl⟩ rfl rfl)
  | dropInbound =>
      cases stepped
      exact nothing
        (answered.congr rfl rfl ⟨rfl, rfl⟩ ⟨rfl, rfl⟩ rfl rfl)
  | dropInboundFiles =>
      cases stepped
      exact nothing
        (answered.congr rfl rfl ⟨rfl, rfl⟩ ⟨rfl, rfl⟩ rfl rfl)

end Answered

/--
Nothing is sent twice or out of order over all connections of a client.  In
every run of the transport task and of the holder of its handle, the sink has
answered about the frames in the order in which they were queued, once about
each: those that it took are what is on the wire, each of the others was lost
in a write of its own that failed, and as long as the task runs, whatever has
no answer yet is in hand or still queued.
-/
theorem answered_in_order
    {receiveFiles oneShot : Bool}
    {actions : List OwnerAction}
    {owned : OwnedTransport}
    (ran :
      StepRun.run? live? (spawn receiveFiles oneShot) actions = some owned) :
    ∃ answers : List (Frame × Bool),
      owned.transport.wire = (answers.filter Prod.snd).map Prod.fst ∧
      (answers.filter (!·.2)).length ≤ (actions.filter isRefusal).length ∧
      ((answers.map Prod.fst).filterMap Frame.clip? ++
          owned.transport.waitingClips <+:
        owned.clips) ∧
      ((answers.map Prod.fst).filterMap Frame.fileChunk? ++
          owned.transport.waitingChunks <+:
        owned.chunks) ∧
      (owned.transport.task ≠ .stopped →
        (answers.map Prod.fst).filterMap Frame.clip? ++
            owned.transport.waitingClips =
          owned.clips ∧
        (answers.map Prod.fst).filterMap Frame.fileChunk? ++
            owned.transport.waitingChunks =
          owned.chunks) := by
  have holds :
      ∃ answers,
        owned.Answered answers ∧
          (Transport.refusedOf answers).length ≤
            (actions.filter isRefusal).length := by
    refine StepRun.run?_history
      (motive := fun past state =>
        ∃ answers,
          state.Answered answers ∧
            (Transport.refusedOf answers).length ≤
              (past.filter isRefusal).length)
      ⟨[], .spawn receiveFiles oneShot,
        by simp [Transport.refusedOf]⟩ ?_ ran
    rintro past state action next - - ⟨answers, answered, few⟩ stepped
    obtain ⟨more, kept, atMost⟩ := answered.step stepped
    refine ⟨answers ++ more, kept, ?_⟩
    rw [Transport.refusedOf_append, List.length_append, List.filter_append,
      List.length_append]
    have last :
        ([action].filter isRefusal).length =
          if isRefusal action then
            1
          else
            0 := by
      cases refuses : isRefusal action <;> simp [refuses]
    omega
  obtain ⟨answers, answered, few⟩ := holds
  refine ⟨answers, answered.wire, ?_, answered.clips, answered.chunks,
    answered.running⟩
  simpa [Transport.refusedOf] using few

/-- The server is reached, and welcomes the client. -/
private def reached : List OwnerAction :=
  [.transport (.connect true),
    .transport
      (.receive
        (.text
          (some
            (.welcome
              { server := protocolVersion
                clientId := ⟨1⟩
                lastClip := none }))))]

/-- Two clips are queued, and the connection breaks with the first. -/
def outage : List OwnerAction :=
  [.queueClip (.text ⟨5⟩ 1 "lost"), .queueClip (.text ⟨6⟩ 2 "sent")] ++
    reached ++
    [.transport .takeClip, .transport (.write false), .transport .wake] ++
    reached ++
    [.transport .takeClip, .transport (.write true)]

/-- The client after that. -/
def afterOutage : OwnedTransport :=
  (StepRun.run? live? (spawn false false) outage).getD (spawn false false)

/-- The second clip goes out on the second connection. -/
theorem answered_in_order_sample :
    afterOutage.transport.wire = [.clip (.text ⟨6⟩ 2 "sent")] ∧
      ∃ answers : List (Frame × Bool),
        [.clip (.text ⟨6⟩ 2 "sent")] =
            (answers.filter Prod.snd).map Prod.fst ∧
          (answers.map Prod.fst).filterMap Frame.clip? =
            [.text ⟨5⟩ 1 "lost", .text ⟨6⟩ 2 "sent"] := by
  have sent :
      afterOutage.transport.wire = [.clip (.text ⟨6⟩ 2 "sent")] :=
    rfl
  have idle : afterOutage.transport.waitingClips = [] := rfl
  obtain ⟨answers, wire, -, -, -, running⟩ :=
    answered_in_order
      (show StepRun.run? live? (spawn false false) outage = some afterOutage
        from rfl)
  have clips := (running (by decide)).1
  rw [idle, List.append_nil] at clips
  exact ⟨sent, answers, sent.symm.trans wire, clips⟩

end OwnedTransport

end ClipboardWire
