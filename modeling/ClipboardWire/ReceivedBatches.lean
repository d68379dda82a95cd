import ClipboardWire.ClientReplay

namespace ClipboardWire

/-!
# Batches of received files

The supervisor collects the paths of completed files and hands them to the
clipboard in batches: every completion sets a deadline, and the batch is sent
when the deadline passes.  Here the supervisor runs against a clock, next to a
log of the completions and of the batches with their times.
-/

/-- `RECEIVE_BATCH_WINDOW`, in nanoseconds. -/
def receiveBatchWindow : Nat :=
  500000000

/-- The paths of a file list. -/
def ClipChange.files? : ClipChange → Option (List Path)
  | .files paths => some paths
  | .text _ | .image _ => none

/-- The file lists that were sent on `apply_tx`. -/
def Client.batches (client : Client) : List (List Path) :=
  client.applied.filterMap ClipChange.files?

/-- The path that the file receiver reports for the next chunk. -/
def Client.completion?
    (codec : Codec)
    (io : IoAnswers)
    (client : Client) :
    Option Path :=
  match client.transport.inboundFiles.map BoundedChannel.Channel.pollRecv,
      client.fileReceiver with
  | some (.received chunk _), some receiver =>
      match (ReceiverState.receiveChunk codec io receiver chunk).result with
      | .ok path => path
      | .error _ => none
  | _, _ =>
      none

/-- What is recorded about received files, and when it happened. -/
inductive BatchEvent where
  | completed (path : Path) (time : Nat)
  | sent (batch : List Path) (time : Nat)

/-- The path of a completion. -/
def BatchEvent.completed? : BatchEvent → Option Path
  | .completed path _ => some path
  | .sent _ _ => none

/-- The paths of a batch. -/
def BatchEvent.sent? : BatchEvent → Option (List Path)
  | .completed _ _ => none
  | .sent batch _ => some batch

/-- A client, its clock in nanoseconds, and what has happened so far. -/
structure TimedClient where
  client : Client
  now : Nat
  pendingDeadline : Option Nat
  log : List BatchEvent

/-- Time passes, or the client takes a step. -/
inductive TimedAction where
  | elapse (duration : Nat)
  | client (action : ClientAction)

namespace TimedClient

/-- A supervisor that has just spawned its transport task. -/
def start (fileReceiver : Option ReceiverState) : TimedClient where
  client := Client.start fileReceiver
  now := 0
  pendingDeadline := none
  log := []

section

variable (codec : Codec) (png : PngCodec)

/-- Taking a chunk sets the deadline when it completes a file. -/
def takeChunk? (timed : TimedClient) (io : IoAnswers) : Option TimedClient :=
  (timed.client.step? codec png (.takeChunk io)).map fun next =>
    match timed.client.completion? codec io with
    | none =>
        { timed with client := next }
    | some path =>
        { timed with
          client := next
          pendingDeadline := some (timed.now + receiveBatchWindow)
          log := timed.log ++ [.completed path timed.now] }

/-- The deadline arm is enabled once the deadline has passed. -/
def deadline? (timed : TimedClient) (alive : Bool) : Option TimedClient :=
  match timed.pendingDeadline with
  | none =>
      none
  | some deadline =>
      if timed.now < deadline then
        none
      else
        (timed.client.step? codec png (.deadline alive)).map fun next =>
          { timed with
            client := next
            pendingDeadline := none
            log :=
              if timed.client.pendingFiles ≠ [] ∧ alive = true then
                timed.log ++ [.sent timed.client.pendingFiles timed.now]
              else
                timed.log }

/-- One step of a client and its clock. -/
def step? (timed : TimedClient) : TimedAction → Option TimedClient
  | .elapse duration =>
      some { timed with now := timed.now + duration }
  | .client (.takeChunk io) =>
      timed.takeChunk? codec png io
  | .client (.deadline alive) =>
      timed.deadline? codec png alive
  | .client action =>
      (timed.client.step? codec png action).map fun next =>
        { timed with client := next }

end

end TimedClient

namespace Client

variable {codec : Codec} {png : PngCodec}

/-- The client collects the same files as another one. -/
structure SameFiles (before after : Client) : Prop where
  pendingFiles : after.pendingFiles = before.pendingFiles
  deadline : after.deadline = before.deadline
  batches : after.batches = before.batches

theorem sameFiles_of_step?
    {client next : Client}
    {action : ClientAction}
    (stepped : step? codec png client action = some next)
    (noChunk : ∀ io, action ≠ .takeChunk io)
    (noDeadline : ∀ alive, action ≠ .deadline alive) :
    SameFiles client next := by
  cases turns_of_step? stepped with
  | @clipForwarded clip rest change selecting queued decoded =>
      refine ⟨rfl, rfl, ?_⟩
      cases change with
      | files paths =>
          exact (frameToChange_ne_files decoded paths rfl).elim
      | _ =>
          simp [batches, ClipChange.files?]
  | chunkTaken selecting wired queued =>
      exact (noChunk _ rfl).elim
  | filesQuiet selecting =>
      exact (noChunk _ rfl).elim
  | batchApplied selecting =>
      exact (noDeadline _ rfl).elim
  | _ =>
      exact ⟨rfl, rfl, rfl⟩

/-- A chunk that completes no file leaves the collected files alone. -/
theorem sameFiles_of_takeChunk
    {client next : Client}
    {io : IoAnswers}
    (stepped : step? codec png client (.takeChunk io) = some next)
    (incomplete : client.completion? codec io = none) :
    SameFiles client next := by
  simp only [step?] at stepped
  split at stepped
  · unfold takeChunk? at stepped
    split at stepped
    · cases stepped
    · rename_i files wired
      split at stepped
      · rename_i chunk rest taken
        simp only [completion?, wired, Option.map_some, taken] at incomplete
        cases stepped
        unfold receiveChunk
        split
        · exact ⟨rfl, rfl, rfl⟩
        · rename_i receiver isReceiver
          simp only at isReceiver
          simp only [isReceiver] at incomplete
          simp only
          split
          · rename_i path success
            rw [success] at incomplete
            cases incomplete
          · exact ⟨rfl, rfl, rfl⟩
          · exact ⟨rfl, rfl, rfl⟩
          · exact ⟨rfl, rfl, rfl⟩
      · cases stepped
        exact ⟨rfl, rfl, rfl⟩
      · cases stepped
  · cases stepped

/-- A completed file is collected, and the deadline is set. -/
theorem collects_of_takeChunk
    {client next : Client}
    {io : IoAnswers}
    {path : Path}
    (stepped : step? codec png client (.takeChunk io) = some next)
    (completes : client.completion? codec io = some path) :
    next.pendingFiles = client.pendingFiles ++ [path] ∧
      next.deadline = true ∧
        next.batches = client.batches := by
  simp only [step?] at stepped
  split at stepped
  · unfold takeChunk? at stepped
    split at stepped
    · cases stepped
    · rename_i files wired
      split at stepped
      · rename_i chunk rest taken
        simp only [completion?, wired, Option.map_some, taken] at completes
        cases stepped
        unfold receiveChunk
        split at completes
        · rename_i other receiver isChunk isReceiver
          cases isChunk
          simp only [isReceiver]
          split at completes
          · rename_i result success
            subst completes
            simp [success, batches]
          · cases completes
        · cases completes
      · rename_i closed
        simp [completion?, wired, closed] at completes
      · cases stepped
  · cases stepped

/-- The deadline arm hands the collected files over. -/
theorem applyBatch_of_deadline
    {client next : Client}
    {alive : Bool}
    (stepped : step? codec png client (.deadline alive) = some next) :
    next = client.applyBatch alive := by
  simp only [step?] at stepped
  split at stepped
  · exact (Option.some.inj stepped).symm
  · cases stepped

/-- A batch that is handed over is sent to the clipboard. -/
theorem batches_applyBatch
    {client : Client}
    (nonempty : client.pendingFiles ≠ []) :
    (client.applyBatch true).batches =
      client.batches ++ [client.pendingFiles] := by
  simp [batches, applyBatch, nonempty, ClipChange.files?]

end Client

/-- A batch is sent late enough, and consists of all that was completed. -/
def TimelyBatches (log : List BatchEvent) : Prop :=
  ∀ before batch sentAt after,
    log = before ++ .sent batch sentAt :: after →
    (∀ path time,
        .completed path time ∈ before →
        time + receiveBatchWindow ≤ sentAt) ∧
      before.filterMap BatchEvent.completed? =
        (before.filterMap BatchEvent.sent?).flatten ++ batch

/-- Adding a completion keeps the batches before it timely. -/
theorem TimelyBatches.completed
    {log : List BatchEvent}
    (timely : TimelyBatches log)
    (path : Path)
    (time : Nat) :
    TimelyBatches (log ++ [.completed path time]) := by
  intro before batch sentAt after split
  cases after using List.reverseRecOn with
  | nil =>
      have last := congrArg List.getLast? split
      simp at last
  | append_singleton after last =>
      rw [← List.cons_append, ← List.append_assoc] at split
      exact timely before batch sentAt after (List.append_inj_left' split rfl)

/-- Adding a batch keeps the batches before it timely. -/
theorem TimelyBatches.sent
    {log : List BatchEvent}
    {pending : List Path}
    {now : Nat}
    (timely : TimelyBatches log)
    (waited :
      ∀ path time,
        .completed path time ∈ log → time + receiveBatchWindow ≤ now)
    (account :
      log.filterMap BatchEvent.completed? =
        (log.filterMap BatchEvent.sent?).flatten ++ pending) :
    TimelyBatches (log ++ [.sent pending now]) := by
  intro before batch sentAt after split
  cases after using List.reverseRecOn with
  | nil =>
      obtain ⟨rfl, last⟩ := List.append_inj' split rfl
      cases last
      exact ⟨waited, account⟩
  | append_singleton after last =>
      rw [← List.cons_append, ← List.append_assoc] at split
      exact timely before batch sentAt after (List.append_inj_left' split rfl)

namespace TimedClient

variable {codec : Codec} {png : PngCodec}

/-- The log accounts for the collected files, and the deadline for the log. -/
structure Batching (timed : TimedClient) : Prop where
  flag : timed.client.deadline = timed.pendingDeadline.isSome
  armed : timed.client.pendingFiles ≠ [] ↔ timed.client.deadline = true
  sent : timed.client.batches = timed.log.filterMap BatchEvent.sent?
  account :
    timed.log.filterMap BatchEvent.completed? =
      timed.client.batches.flatten ++ timed.client.pendingFiles
  nonempty : ∀ batch ∈ timed.client.batches, batch ≠ []
  past :
    ∀ path time, .completed path time ∈ timed.log → time ≤ timed.now
  later :
    ∀ deadline,
      timed.pendingDeadline = some deadline →
      ∀ path time,
        .completed path time ∈ timed.log →
        time + receiveBatchWindow ≤ deadline
  timely : TimelyBatches timed.log

/-- The clock may go on. -/
theorem Batching.elapse
    {timed : TimedClient}
    (batching : Batching timed)
    (duration : Nat) :
    Batching { timed with now := timed.now + duration } :=
  { batching with
    past := fun path time member =>
      Nat.le_trans (batching.past path time member)
        (Nat.le_add_right timed.now duration) }

/-- A step that does not concern the collected files. -/
theorem Batching.sameFiles
    {timed : TimedClient}
    {next : Client}
    (batching : Batching timed)
    (same : Client.SameFiles timed.client next) :
    Batching { timed with client := next } where
  flag := same.deadline.trans batching.flag
  armed := by
    rw [same.pendingFiles, same.deadline]
    exact batching.armed
  sent := same.batches.trans batching.sent
  account := by
    rw [same.batches, same.pendingFiles]
    exact batching.account
  nonempty := by
    rw [same.batches]
    exact batching.nonempty
  past := batching.past
  later := batching.later
  timely := batching.timely

/-- Taking a chunk keeps the account. -/
theorem Batching.takeChunk
    {timed next : TimedClient}
    {io : IoAnswers}
    (batching : Batching timed)
    (stepped : timed.takeChunk? codec png io = some next) :
    Batching next := by
  obtain ⟨client, taken, rfl⟩ := Option.map_eq_some_iff.mp stepped
  cases completes : timed.client.completion? codec io with
  | none =>
      exact batching.sameFiles (Client.sameFiles_of_takeChunk taken completes)
  | some path =>
      obtain ⟨pendingFiles, deadline, batches⟩ :=
        Client.collects_of_takeChunk taken completes
      constructor
      · simp [deadline]
      · simp [pendingFiles, deadline]
      · simp [batches, batching.sent, BatchEvent.sent?]
      · simp [batches, pendingFiles, batching.account, BatchEvent.completed?]
      · simp only [batches]
        exact batching.nonempty
      · intro other time member
        rcases List.mem_append.mp member with earlier | isLast
        · exact batching.past other time earlier
        · cases List.mem_singleton.mp isLast
          exact Nat.le_refl timed.now
      · intro set isSet other time member
        simp only [Option.some.injEq] at isSet
        subst set
        refine Nat.add_le_add_right ?_ receiveBatchWindow
        rcases List.mem_append.mp member with earlier | isLast
        · exact batching.past other time earlier
        · cases List.mem_singleton.mp isLast
          exact Nat.le_refl timed.now
      · exact batching.timely.completed path timed.now

/-- The deadline arm keeps the account while there is a clipboard. -/
theorem Batching.deadline
    {timed next : TimedClient}
    (batching : Batching timed)
    (stepped : timed.deadline? codec png true = some next) :
    Batching next := by
  unfold deadline? at stepped
  split at stepped
  · cases stepped
  · rename_i deadline isSet
    by_cases early : timed.now < deadline
    · rw [if_pos early] at stepped
      cases stepped
    rw [if_neg early] at stepped
    obtain ⟨client, applied, rfl⟩ := Option.map_eq_some_iff.mp stepped
    have isApplied := Client.applyBatch_of_deadline applied
    have isArmed : timed.client.deadline = true := by
      rw [batching.flag, isSet, Option.isSome_some]
    have nonempty : timed.client.pendingFiles ≠ [] :=
      batching.armed.mpr isArmed
    have batches : client.batches =
        timed.client.batches ++ [timed.client.pendingFiles] := by
      rw [isApplied, Client.batches_applyBatch nonempty]
    have pendingFiles : client.pendingFiles = [] := by
      rw [isApplied]
      rfl
    have waited :
        ∀ path time,
          .completed path time ∈ timed.log →
          time + receiveBatchWindow ≤ timed.now := by
      intro path time member
      have due := batching.later deadline isSet path time member
      omega
    have account := batching.account
    rw [batching.sent] at account
    rw [if_pos ⟨nonempty, rfl⟩]
    constructor
    · rw [isApplied]
      rfl
    · rw [isApplied]
      simp [Client.applyBatch]
    · simp [batches, batching.sent, BatchEvent.sent?]
    · simp [batches, pendingFiles, batching.account, BatchEvent.completed?]
    · intro batch member
      rw [batches] at member
      rcases List.mem_append.mp member with earlier | isLast
      · exact batching.nonempty batch earlier
      · rw [List.mem_singleton.mp isLast]
        exact nonempty
    · intro path time member
      rcases List.mem_append.mp member with earlier | isLast
      · exact batching.past path time earlier
      · cases List.mem_singleton.mp isLast
    · intro set isNone
      cases isNone
    · exact batching.timely.sent waited account

theorem Batching.step
    {timed next : TimedClient}
    {action : TimedAction}
    (batching : Batching timed)
    (alive : action ≠ .client (.deadline false))
    (stepped : timed.step? codec png action = some next) :
    Batching next := by
  cases action with
  | elapse duration =>
      cases stepped
      exact batching.elapse duration
  | client action =>
      cases action with
      | takeChunk io =>
          exact batching.takeChunk stepped
      | deadline clipboardAlive =>
          cases clipboardAlive with
          | false =>
              exact (alive rfl).elim
          | true =>
              exact batching.deadline stepped
      | _ =>
          obtain ⟨client, moved, rfl⟩ := Option.map_eq_some_iff.mp stepped
          exact batching.sameFiles
            (Client.sameFiles_of_step? moved (by simp) (by simp))

/--
Received files.  In every run in which the clipboard is there whenever the
deadline passes, the batches sent to the clipboard followed by the files still
collected are the completed files in the order of completion.  No batch is
empty, the deadline is set exactly while files are collected, and each batch is
sent when the window has passed since every completion before it.
-/
theorem batches_of_run
    {fileReceiver : Option ReceiverState}
    {actions : List TimedAction}
    {timed : TimedClient}
    (alive : ∀ action ∈ actions, action ≠ .client (.deadline false))
    (ran :
      StepRun.run? (step? codec png) (start fileReceiver) actions =
        some timed) :
    timed.client.batches.flatten ++ timed.client.pendingFiles =
        timed.log.filterMap BatchEvent.completed? ∧
      (∀ batch ∈ timed.client.batches, batch ≠ []) ∧
      (timed.client.pendingFiles ≠ [] ↔ timed.pendingDeadline.isSome) ∧
      timed.client.batches = timed.log.filterMap BatchEvent.sent? ∧
      TimelyBatches timed.log := by
  have batching : Batching timed := by
    refine StepRun.run?_history
      (motive := fun _ reached => Batching reached) ?_ ?_ ran
    · constructor
      · rfl
      · simp [start, Client.start]
      · rfl
      · rfl
      · simp [start, Client.start, Client.batches]
      · simp [start]
      · simp [start]
      · intro before batch sentAt after split
        simp [start] at split
    · intro past reached action next within _ holds stepped
      have member : action ∈ actions :=
        within.subset (List.mem_append_right past
          (List.mem_singleton_self action))
      exact holds.step (alive action member) stepped
  refine ⟨batching.account.symm, batching.nonempty, ?_, batching.sent,
    batching.timely⟩
  rw [batching.armed, batching.flag]

/-- A chunk arrives and is written. -/
def receiving (chunk : FileChunkFrame) : List TimedAction :=
  [.client (.transport (.receive (.text (some (.fileChunk chunk))))),
    .client (.transport .forward),
    .client (.takeChunk (.success ⟨3⟩))]

/-- Two files arrive within one window, and a third one after it. -/
def sampleBatch : List TimedAction :=
  [.client (.transport (.connect true)),
      .client (.transport (.receive (Client.sampleWelcome none)))] ++
    receiving ReceiverState.sampleChunk ++ [.elapse 400] ++
    receiving { ReceiverState.sampleChunk with fileId := ⟨8⟩ } ++
    [.elapse receiveBatchWindow, .client (.deadline true)] ++
    receiving { ReceiverState.sampleChunk with fileId := ⟨9⟩ }

/-- A client that is about to receive the sample. -/
def beforeBatch : TimedClient :=
  start (some (ReceiverState.start ReceiverState.sampleDir .empty))

/-- The client after the batch of the sample. -/
def afterBatch : TimedClient :=
  (StepRun.run? (step? ReceiverState.sampleCodec samplePng) beforeBatch
    sampleBatch).getD beforeBatch

/-- Every action of the sample is enabled. -/
theorem ran_sampleBatch :
    StepRun.run? (step? ReceiverState.sampleCodec samplePng) beforeBatch
        sampleBatch =
      some afterBatch :=
  StepRun.run?_getD (by decide +kernel) beforeBatch

/-- The consumer of the sample does not go away. -/
theorem alive_of_mem_sampleBatch :
    ∀ action ∈ sampleBatch, action ≠ .client (.deadline false) := by
  simp [sampleBatch, receiving]

/-- Two files are handed over in one batch, and the third one waits. -/
theorem batches_of_run_sample :
    afterBatch.client.batches =
        [[ReceiverState.sampleDir.join ".._hi.txt",
          ReceiverState.sampleDir.join ".._hi (1).txt"]] ∧
      afterBatch.client.pendingFiles =
        [ReceiverState.sampleDir.join ".._hi (2).txt"] ∧
      afterBatch.client.batches.flatten ++ afterBatch.client.pendingFiles =
        afterBatch.log.filterMap BatchEvent.completed? ∧
      (∀ batch ∈ afterBatch.client.batches, batch ≠ []) ∧
      (afterBatch.client.pendingFiles ≠ [] ↔
        afterBatch.pendingDeadline.isSome) ∧
      afterBatch.client.batches =
        afterBatch.log.filterMap BatchEvent.sent? ∧
      TimelyBatches afterBatch.log :=
  ⟨by decide +kernel, by decide +kernel,
    batches_of_run alive_of_mem_sampleBatch ran_sampleBatch⟩

end TimedClient

end ClipboardWire
