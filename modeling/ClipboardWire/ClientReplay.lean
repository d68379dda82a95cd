import ClipboardWire.ClientSupervisor
import ClipboardWire.FileTransfer
import ClipboardWire.StepRun

namespace ClipboardWire

open BoundedChannel

/-!
# What a client forwards to its clipboard

Every connection starts with a welcome that may carry the cached clip, and the
supervisor treats that clip like any other one.  Over a run with any number of
connections it forwards exactly the clips that arrived and can be decoded,
once for each arrival and in the order of arrival; neither `ts` nor `id` is
looked at.
-/

namespace Transport

/-- The clip that the task is passing on to the supervisor. -/
def inHand (transport : Transport) : List ClipFrame :=
  match transport.task with
  | .surfacing clip => [clip]
  | .forwardingClip clip => [clip]
  | _ => []

/-- Clips on their way to the supervisor, oldest first. -/
def toSupervisor (transport : Transport) : List ClipFrame :=
  transport.inbound.buffer ++ transport.inHand

/--
What a move does to the inbound clips: new arrivals are recorded, and while
the supervisor listens they queue up behind the earlier ones.
-/
theorem inbound_of_moves
    {transport next : Transport}
    {action : TransportAction}
    (moved : Moves transport action next) :
    next.inbound.receiverAlive = transport.inbound.receiverAlive ∧
      ∃ arrived,
        next.received = transport.received ++ arrived ∧
          (transport.inbound.receiverAlive = true →
            next.toSupervisor = transport.toSupervisor ++ arrived) := by
  cases moved with
  | ended ends =>
      have nothing :
          transport.inbound.receiverAlive = true → transport.inHand = [] := by
        intro alive
        unfold inHand
        cases action <;> simp only [Ends] at ends <;> grind
      have kept :
          transport.endConnection.inbound.receiverAlive =
              transport.inbound.receiverAlive ∧
            transport.endConnection.received = transport.received ∧
            transport.endConnection.toSupervisor =
              transport.inbound.buffer := by
        rcases endConnection_eq transport with isStop | ⟨-, sleeps⟩
        · rw [isStop]
          exact ⟨rfl, rfl, by simp [stop, toSupervisor, inHand]⟩
        · rw [sleeps]
          exact ⟨rfl, rfl, by simp [toSupervisor, inHand]⟩
      refine ⟨kept.1, [], by simp [kept.2.1], fun alive => ?_⟩
      rw [kept.2.2]
      simp [toSupervisor, nothing alive]
  | @cached welcome clip task carried =>
      exact ⟨rfl, [clip], rfl,
        fun _ => by simp [toSupervisor, inHand, task]⟩
  | @clipArrived clip task =>
      exact ⟨rfl, [clip], rfl,
        fun _ => by simp [toSupervisor, inHand, task]⟩
  | ignored task noClip stays =>
      exact ⟨rfl, [], by simp, fun _ => by simp⟩
  | surfaced task alive room =>
      exact ⟨rfl, [], by simp,
        fun _ => by simp [toSupervisor, inHand, task]⟩
  | notSurfaced task gone =>
      refine ⟨rfl, [], by simp, fun alive => ?_⟩
      rw [gone] at alive
      cases alive
  | clipForwarded task alive room =>
      exact ⟨rfl, [], by simp,
        fun _ => by simp [toSupervisor, inHand, task]⟩
  | _ =>
      -- the other moves leave the inbound clips alone
      refine ⟨rfl, [], (List.append_nil _).symm, fun _ => ?_⟩
      simp_all [toSupervisor, inHand]

end Transport

/-- A change that can come from a clip: anything but a list of files. -/
def ClipChange.isClip : ClipChange → Bool
  | .text _ | .image _ => true
  | .files _ => false

/-- The change that a frame carries, when it can be decoded. -/
def decoded?
    (codec : Codec)
    (png : PngCodec)
    (clip : ClipFrame) :
    Option ClipChange :=
  (frameToChange codec png clip).toOption

/-- The frames that can be decoded. -/
def Decodes (codec : Codec) (png : PngCodec) (clip : ClipFrame) : Bool :=
  (decoded? codec png clip).isSome

namespace Client

variable {codec : Codec} {png : PngCodec}

/--
The supervisor has forwarded an initial part of the decodable clips that
arrived, and the rest of them is still on its way as long as it runs.
-/
structure Forwards
    (codec : Codec)
    (png : PngCodec)
    (client : Client) : Prop where
  changes :
    client.applied.filter ClipChange.isClip =
      client.forwarded.filterMap (decoded? codec png)
  initial :
    client.forwarded <+:
      client.transport.received.filter (Decodes codec png)
  pending :
    client.task ≠ .exited →
      client.transport.inbound.receiverAlive = true ∧
        client.transport.received.filter (Decodes codec png) =
          client.forwarded ++
            client.transport.toSupervisor.filter (Decodes codec png)

private theorem Forwards.exit
    {client : Client}
    (forwards : Forwards codec png client) :
    Forwards codec png client.exit where
  changes := forwards.changes
  initial := forwards.initial
  pending := fun running => (running rfl).elim

private theorem Forwards.frame
    {client next : Client}
    (forwards : Forwards codec png client)
    (running : client.task ≠ .exited)
    (applied :
      next.applied.filter ClipChange.isClip =
        client.applied.filter ClipChange.isClip)
    (forwarded : next.forwarded = client.forwarded)
    (received : next.transport.received = client.transport.received)
    (inbound : next.transport.inbound = client.transport.inbound)
    (task : next.transport.task = client.transport.task) :
    Forwards codec png next := by
  have onTheWay :
      next.transport.toSupervisor = client.transport.toSupervisor := by
    simp only [Transport.toSupervisor, Transport.inHand, inbound, task]
  constructor
  · rw [applied, forwarded]
    exact forwards.changes
  · rw [forwarded, received]
    exact forwards.initial
  · intro _
    rw [forwarded, received, inbound, onTheWay]
    exact forwards.pending running

private theorem Forwards.transport
    {client : Client}
    {action : TransportAction}
    {next : Transport}
    (forwards : Forwards codec png client)
    (moved : Transport.Moves client.transport action next) :
    Forwards codec png { client with transport := next } := by
  obtain ⟨alive, arrived, received, queued⟩ :=
    Transport.inbound_of_moves moved
  constructor
  · exact forwards.changes
  · rw [received, List.filter_append]
    exact forwards.initial.trans (List.prefix_append _ _)
  · intro running
    obtain ⟨listens, pending⟩ := forwards.pending running
    refine ⟨alive.trans listens, ?_⟩
    rw [received, queued listens, List.filter_append, List.filter_append,
      pending, List.append_assoc]

private theorem Forwards.take
    {client : Client}
    {clip : ClipFrame}
    {rest : List ClipFrame}
    (forwards : Forwards codec png client)
    (applied : List ClipChange)
    (running : client.task ≠ .exited)
    (queued : client.transport.inbound.buffer = clip :: rest)
    (changes :
      applied.filter ClipChange.isClip =
        client.applied.filter ClipChange.isClip ++
          [clip].filterMap (decoded? codec png)) :
    Forwards codec png
      { client with
        applied := applied
        forwarded :=
          client.forwarded ++ [clip].filter (Decodes codec png)
        transport :=
          { client.transport with
            inbound := client.transport.inbound.dropHead } } := by
  obtain ⟨listens, pending⟩ := forwards.pending running
  have split :
      client.transport.toSupervisor =
        [clip] ++ (rest ++ client.transport.inHand) := by
    simp [Transport.toSupervisor, queued]
  have accounted :
      client.transport.received.filter (Decodes codec png) =
        (client.forwarded ++ [clip].filter (Decodes codec png)) ++
          (rest ++ client.transport.inHand).filter (Decodes codec png) := by
    rw [pending, split, List.filter_append, List.append_assoc]
  constructor
  · rw [changes, forwards.changes, List.filterMap_append]
    congr 1
    cases shape : decoded? codec png clip <;>
      simp [Decodes, shape]
  · exact ⟨_, accounted.symm⟩
  · intro _
    refine ⟨listens, accounted.trans ?_⟩
    simp [Transport.toSupervisor, Transport.inHand, queued]

theorem Forwards.step
    {client next : Client}
    {action : ClientAction}
    (forwards : Forwards codec png client)
    (stepped : step? codec png client action = some next) :
    Forwards codec png next := by
  cases turns_of_step? stepped with
  | transport moved =>
      exact forwards.transport moved
  | exited selecting own =>
      exact forwards.exit
  | clipOffered selecting single =>
      exact forwards.frame (by simp [selecting]) rfl rfl rfl rfl rfl
  | eventDropped selecting =>
      exact forwards
  | filesOpened selecting =>
      exact forwards.frame (by simp [selecting]) rfl rfl rfl rfl rfl
  | @clipForwarded clip rest change selecting queued decoded =>
      have decodes : decoded? codec png clip = some change := by
        simp [decoded?, decoded, Except.toOption]
      have isClip : change.isClip = true := by
        cases change with
        | text content =>
            rfl
        | image image =>
            rfl
        | files paths =>
            exact (frameToChange_ne_files decoded paths rfl).elim
      have taken :=
        forwards.take (client.applied ++ [change])
          (by simp [selecting]) queued
          (by simp [List.filter_append, isClip, decodes])
      simpa [Decodes, decodes] using taken
  | @clipRejected clip rest reason alive selecting queued rejected =>
      have undecodable : decoded? codec png clip = none := by
        simp [decoded?, rejected, Except.toOption]
      have taken :=
        forwards.take client.applied
          (by simp [selecting]) queued (by simp [undecodable])
      simpa [Decodes, undecodable] using taken
  | clipboardGone selecting queued =>
      exact
        { changes := forwards.changes
          initial := forwards.initial
          pending := fun running => (running rfl).elim }
  | @chunkTaken io files chunk rest selecting wired queued =>
      obtain ⟨applied, forwarded, kept | exited⟩ :=
        @receiveChunk_cases codec io
          { client with
            transport :=
              { client.transport with
                inboundFiles := some files.dropHead } }
          chunk
      · rcases kept with ⟨task, transport⟩
        exact forwards.frame (by simp [selecting])
          (by rw [applied]) forwarded
          (by rw [transport]) (by rw [transport]) (by rw [transport])
      · rcases exited with ⟨task, transport⟩
        constructor
        · rw [applied, forwarded]
          exact forwards.changes
        · rw [forwarded, transport]
          exact forwards.initial
        · intro running
          exact (running task).elim
  | filesQuiet selecting =>
      exact forwards
  | batchApplied selecting =>
      refine forwards.frame (by simp [selecting]) ?_ rfl rfl rfl rfl
      simp only [applyBatch]
      split
      · simp [List.filter_append, ClipChange.isClip]
      · rfl
  | chunkQueued task alive room =>
      exact forwards.frame (by simp [task]) rfl rfl rfl rfl rfl
  | chunkRefused task gone =>
      exact forwards.frame (by simp [task]) rfl rfl rfl rfl rfl

/--
In every run, over any number of connections, the supervisor forwards the
decodable clips that arrived, once for each arrival and in the order of
arrival: what it has forwarded is an initial part of them, and as long as it
runs the rest of them is still queued for it.
-/
theorem forwarded_exactly
    {fileReceiver : Option ReceiverState}
    {actions : List ClientAction}
    {client : Client}
    (ran :
      StepRun.run? (step? codec png) (start fileReceiver) actions =
        some client) :
    client.applied.filter ClipChange.isClip =
        client.forwarded.filterMap (decoded? codec png) ∧
      client.forwarded <+:
        client.transport.received.filter (Decodes codec png) ∧
      (client.task ≠ .exited →
        client.transport.received.filter (Decodes codec png) =
          client.forwarded ++
            client.transport.toSupervisor.filter (Decodes codec png)) := by
  have forwards : Forwards codec png client := by
    apply StepRun.run?_invariant
      (motive := fun client => Forwards codec png client) _ _ ran
    · exact
        { changes := rfl
          initial := List.nil_prefix
          pending := fun _ => ⟨rfl, rfl⟩ }
    · intro state action next forwards stepped
      exact forwards.step stepped
  exact ⟨forwards.changes, forwards.initial,
    fun running => (forwards.pending running).2⟩

private theorem writes_of_step
    {client next : Client}
    {action : ClientAction}
    (writes : ∀ change ∈ client.applied, change ≠ .files [])
    (stepped : step? codec png client action = some next) :
    ∀ change ∈ next.applied, change ≠ .files [] := by
  cases turns_of_step? stepped with
  | @clipForwarded clip rest change selecting queued decoded =>
      intro each member
      rcases List.mem_append.mp member with earlier | isLast
      · exact writes each earlier
      · rw [List.mem_singleton.mp isLast]
        exact frameToChange_ne_files decoded []
  | @chunkTaken io files chunk rest selecting wired queued =>
      rw [(receiveChunk_cases io _ chunk).1]
      exact writes
  | @batchApplied alive selecting =>
      intro each member
      simp only [applyBatch] at member
      split at member
      · rename_i batch
        rcases List.mem_append.mp member with earlier | isLast
        · exact writes each earlier
        · rw [List.mem_singleton.mp isLast]
          simpa using batch.1
      · exact writes each member
  | _ =>
      exact writes

/--
The supervisor never asks its clipboard thread to write an empty file list,
which the clipboard would skip: no batch is empty, and no frame is decoded to
files.
-/
theorem writes_of_run
    {fileReceiver : Option ReceiverState}
    {actions : List ClientAction}
    {client : Client}
    (ran :
      StepRun.run? (step? codec png) (start fileReceiver) actions =
        some client) :
    ∀ change ∈ client.applied, change ≠ .files [] := by
  refine StepRun.run?_invariant
    (motive := fun client => ∀ change ∈ client.applied, change ≠ .files [])
    ?_ ?_ ran
  · intro change member
    cases member
  · intro client action next writes stepped
    exact writes_of_step writes stepped

/-- A text clip of another client, as the hub relays it. -/
def sampleClip : ClipFrame :=
  { ClipFrame.text ⟨5⟩ 20 "hello" with fromId := some ⟨2⟩ }

/-- A clip of a client whose clock is behind. -/
def olderClip : ClipFrame :=
  { ClipFrame.text ⟨6⟩ 10 "hi" with fromId := some ⟨3⟩ }

/-- A welcome that carries a cached clip. -/
def sampleWelcome (lastClip : Option ClipFrame) : Incoming :=
  .text
    (some
      (.welcome
        { server := protocolVersion
          clientId := ⟨1⟩
          lastClip := lastClip }))

/-- A clip arrives, the connection is lost, and the next one starts with it. -/
def reconnectRun : List ClientAction :=
  [.transport (.connect true),
    .transport (.receive (sampleWelcome none)),
    .transport (.receive (.text (some (.clip sampleClip)))),
    .transport .forward,
    .takeClip true,
    .transport (.receive .ended),
    .transport .wake,
    .transport (.connect true),
    .transport (.receive (sampleWelcome (some sampleClip))),
    .transport .forward,
    .takeClip true,
    .transport (.receive (.text (some (.clip olderClip)))),
    .transport .forward,
    .takeClip true]

/-- A client with the sample codecs. -/
abbrev sampleStep? : Client → ClientAction → Option Client :=
  step? ReceiverState.sampleCodec samplePng

/-- The client after the lost connection and the new one. -/
def reconnected : Client :=
  (StepRun.run? sampleStep? (start none) reconnectRun).getD (start none)

/-- What the client has forwarded when it is connected again. -/
theorem forwarded_exactly_sample :
    reconnected.applied.filter ClipChange.isClip =
        reconnected.forwarded.filterMap
          (decoded? ReceiverState.sampleCodec samplePng) ∧
      reconnected.forwarded <+:
        reconnected.transport.received.filter
          (Decodes ReceiverState.sampleCodec samplePng) ∧
      (reconnected.task ≠ .exited →
        reconnected.transport.received.filter
            (Decodes ReceiverState.sampleCodec samplePng) =
          reconnected.forwarded ++
            reconnected.transport.toSupervisor.filter
              (Decodes ReceiverState.sampleCodec samplePng)) :=
  forwarded_exactly
    (show
      StepRun.run? sampleStep? (start none) reconnectRun = some reconnected
      from rfl)

/-- No clip is older than an earlier one, and no identifier comes back. -/
def NoReplay (forwarded : List ClipFrame) : Prop :=
  forwarded.Pairwise (fun earlier later => earlier.ts ≤ later.ts) ∧
    (forwarded.map ClipFrame.id).Nodup

instance : DecidablePred NoReplay :=
  fun _ => inferInstanceAs (Decidable (_ ∧ _))

/-- The supervisor forwards a clip twice, and then an older one. -/
theorem reconnect_replays_clip :
    StepRun.run? sampleStep? (start none) reconnectRun = some reconnected ∧
      reconnected.forwarded = [sampleClip, sampleClip, olderClip] ∧
        ¬ NoReplay reconnected.forwarded :=
  ⟨rfl, by decide +kernel, by decide +kernel⟩

end Client

end ClipboardWire
