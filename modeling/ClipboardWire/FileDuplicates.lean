import ClipboardWire.FileTransfer

namespace ClipboardWire

open FileStore

/-!
# Chunks that are delivered again

Duplicates are recognized by the entry of the transfer, which is removed when
the file is complete.  A chunk repeated before that is ignored; a chunk that
arrives after it opens the transfer again, so it creates a new partial file or
even saves a second copy.  The main result is that a transfer completes once,
with every repetition ignored, exactly when no chunk arrives late.
-/

namespace ReceiverState

/-- The paths that a sequence of calls reports as saved. -/
def completions
    (codec : Codec) :
    ReceiverState → List ReceiverCall → List Path
  | _, [] =>
      []
  | state, call :: rest =>
      let received := receiveChunk codec call.io state call.chunk
      match received.result with
      | .ok (some path) =>
          path :: completions codec received.state rest
      | _ =>
          completions codec received.state rest

private theorem completions_snoc
    {codec : Codec}
    {initial state : ReceiverState}
    {past : List ReceiverCall}
    {call : ReceiverCall}
    (ran : StepRun.run? (step? codec) initial past = some state) :
    completions codec initial (past ++ [call]) =
      completions codec initial past ++
        match (receiveChunk codec call.io state call.chunk).result with
        | .ok (some path) => [path]
        | _ => [] := by
  induction past generalizing initial with
  | nil =>
      simp only [StepRun.run?_nil, Option.some.injEq] at ran
      subst state
      simp only [List.nil_append, completions]
  | cons first rest inductionHypothesis =>
      obtain ⟨next, stepped, ran⟩ := StepRun.run?_cons_eq_some.mp ran
      simp only [step?, Option.some.injEq] at stepped
      subst next
      simp only [List.cons_append, completions,
        inductionHypothesis ran]
      split <;> rfl

/-- A call with a chunk that one of the earlier calls has delivered. -/
def Repeats (past : List ReceiverCall) (call : ReceiverCall) : Prop :=
  ∃ earlier ∈ past,
    { earlier.chunk with fromId := none } =
      { call.chunk with fromId := none }

/--
A transfer completes at most once: at most one call reports a saved file, once
all chunks are delivered exactly one copy is saved, and a call with a repeated
chunk returns `Ok(None)` and creates no file.
-/
structure CompletesOnce
    (codec : Codec)
    (initial : ReceiverState)
    (frames : List FileChunkFrame)
    (content : List UInt8)
    (calls : List ReceiverCall) : Prop where
  atMostOnce : (completions codec initial calls).length ≤ 1
  oneCopy :
    Delivered frames calls →
    ∃ path state,
      completions codec initial calls = [path] ∧
        StepRun.run? (step? codec) initial calls = some state ∧
        state.store.read path = some content
  repeats :
    ∀ past call rest state,
      calls = past ++ call :: rest →
      StepRun.run? (step? codec) initial past = some state →
      Repeats past call →
      (receiveChunk codec call.io state call.chunk).result = .ok none ∧
        ∀ path,
          (receiveChunk codec call.io state
              call.chunk).state.store.exists? path = true →
          state.store.exists? path = true

/-- Some chunk arrives although every chunk has been delivered before. -/
def ArrivesLate
    (frames : List FileChunkFrame)
    (calls : List ReceiverCall) : Prop :=
  ∃ past call rest, calls = past ++ call :: rest ∧ Delivered frames past

/-- Runs of the receiver never get stuck. -/
private theorem run?_isSome
    (codec : Codec)
    (initial : ReceiverState)
    (calls : List ReceiverCall) :
    ∃ state, StepRun.run? (step? codec) initial calls = some state := by
  induction calls generalizing initial with
  | nil =>
      exact ⟨initial, rfl⟩
  | cons call rest inductionHypothesis =>
      exact inductionHypothesis
        (receiveChunk codec call.io initial call.chunk).state

/-- The call that completes the delivery of a transfer. -/
private theorem exists_completing
    {frames : List FileChunkFrame}
    {calls : List ReceiverCall}
    (nonempty : ¬ Delivered frames [])
    (delivered : Delivered frames calls) :
    ∃ past call rest,
      calls = past ++ call :: rest ∧
        ¬ Delivered frames past ∧
        Delivered frames (past ++ [call]) := by
  induction calls using List.reverseRecOn with
  | nil =>
      exact (nonempty delivered).elim
  | append_singleton past call inductionHypothesis =>
      by_cases earlier : Delivered frames past
      · obtain ⟨first, completing, rest, split, missing, complete⟩ :=
          inductionHypothesis earlier
        exact ⟨first, completing, rest ++ [call], by simp [split],
          missing, complete⟩
      · exact ⟨past, call, [], rfl, earlier, delivered⟩

section Duplicates

variable
  {codec : Codec}
  {header : FileHeader}
  {pieces : List (List UInt8)}
  {saveDir : Path}
  {store : Store Path}

/-- A delivery of the pieces of one transfer to a new receiver. -/
structure Delivery
    (codec : Codec)
    (header : FileHeader)
    (pieces : List (List UInt8))
    (calls : List ReceiverCall) : Prop where
  lawful : codec.Lawful
  announces : Announces codec header pieces
  succeed : ∀ call ∈ calls, call.io.Succeeds
  own :
    ∀ call ∈ calls,
      ∃ index, IsPiece codec header pieces index call.chunk

private theorem Delivery.take
    {past later : List ReceiverCall}
    (delivery : Delivery codec header pieces (past ++ later)) :
    Delivery codec header pieces past where
  lawful := delivery.lawful
  announces := delivery.announces
  succeed := fun call member =>
    delivery.succeed call (List.mem_append_left later member)
  own := fun call member =>
    delivery.own call (List.mem_append_left later member)

private theorem Delivery.outcome
    {past later : List ReceiverCall}
    {call : ReceiverCall}
    {state : ReceiverState}
    (delivery : Delivery codec header pieces (past ++ call :: later))
    (ran :
      StepRun.run? (step? codec) (start saveDir store) past = some state)
    (missing : ¬ AllDelivered codec header pieces past) :
    ∃ index,
      IsPiece codec header pieces index call.chunk ∧
        PieceOutcome header pieces
          (DeliveredIn codec header pieces past) state index
          (receiveChunk codec call.io state call.chunk) := by
  have member : call ∈ past ++ call :: later := by simp
  obtain ⟨index, isPiece⟩ := delivery.own call member
  have before := delivery.take
  exact ⟨index, isPiece,
    receiveChunk_outcome delivery.lawful delivery.announces
      (delivery.succeed call member) (confined_of_run ran).sound
      (tracks_of_run before.lawful before.announces before.succeed
        (fun each isEach _ => before.own each isEach) ran missing)
      isPiece⟩

/-- A call repeats a piece exactly when the piece has been delivered. -/
private theorem deliveredIn_of_repeats
    {past : List ReceiverCall}
    {call : ReceiverCall}
    {index : Nat}
    (isPiece : IsPiece codec header pieces index call.chunk)
    (repeats : Repeats past call) :
    DeliveredIn codec header pieces past index := by
  rcases repeats with ⟨earlier, member, same⟩
  rcases isPiece with ⟨bytes, found, isChunk⟩
  exact ⟨earlier, member, bytes, found, same.trans isChunk⟩

/-- Nothing is reported as saved before the delivery is complete. -/
private theorem completions_of_missing
    {calls : List ReceiverCall}
    {state : ReceiverState}
    (delivery : Delivery codec header pieces calls)
    (ran :
      StepRun.run? (step? codec) (start saveDir store) calls = some state)
    (missing : ¬ AllDelivered codec header pieces calls) :
    completions codec (start saveDir store) calls = [] := by
  have none :
      ¬ AllDelivered codec header pieces calls →
        completions codec (start saveDir store) calls = [] := by
    refine StepRun.run?_history
      (motive := fun past _ =>
        ¬ AllDelivered codec header pieces past →
          completions codec (start saveDir store) past = [])
      (fun _ => rfl) ?_ ran
    intro past reached call next within earlier holds stepped stillMissing
    rcases within with ⟨later, rfl⟩
    rw [List.append_assoc, List.singleton_append] at delivery
    have missingBefore : ¬ AllDelivered codec header pieces past :=
      fun all => stillMissing (all.snoc call)
    obtain ⟨index, isPiece, outcome⟩ :=
      delivery.outcome earlier missingBefore
    rw [completions_snoc earlier, holds missingBefore, List.nil_append]
    generalize receiveChunk codec call.io reached call.chunk = result
      at outcome
    cases outcome with
    | ignored again =>
        rfl
    | pending first missing progress =>
        rfl
    | completed first complete saved closed moved =>
        refine (stillMissing ?_).elim
        intro position bound
        rw [deliveredIn_snoc delivery.announces past isPiece]
        exact complete position bound
  exact none missing

/-- A repetition before the delivery is complete changes nothing. -/
private theorem repeats_ignored
    {past later : List ReceiverCall}
    {call : ReceiverCall}
    {state : ReceiverState}
    (delivery : Delivery codec header pieces (past ++ call :: later))
    (ran :
      StepRun.run? (step? codec) (start saveDir store) past = some state)
    (missing : ¬ AllDelivered codec header pieces past)
    (repeats : Repeats past call) :
    receiveChunk codec call.io state call.chunk = ⟨.ok none, state⟩ := by
  obtain ⟨index, isPiece, outcome⟩ := delivery.outcome ran missing
  have again := deliveredIn_of_repeats isPiece repeats
  generalize receiveChunk codec call.io state call.chunk = result
    at outcome ⊢
  cases outcome with
  | ignored _ =>
      rfl
  | pending first missing progress =>
      exact (first again).elim
  | completed first complete saved closed moved =>
      exact (first again).elim

/-- The call that completes the delivery saves the file and closes it. -/
private theorem completing_call
    {past later : List ReceiverCall}
    {call : ReceiverCall}
    {state : ReceiverState}
    (delivery : Delivery codec header pieces (past ++ call :: later))
    (ran :
      StepRun.run? (step? codec) (start saveDir store) past = some state)
    (missing : ¬ AllDelivered codec header pieces past)
    (complete : AllDelivered codec header pieces (past ++ [call])) :
    ∃ path after,
      receiveChunk codec call.io state call.chunk =
          ⟨.ok (some path), after⟩ ∧
        after.store.read path = some pieces.flatten ∧
        after.receiver.transfers.lookup header.fileId = none ∧
        after.store.exists? (after.receiver.partialPath header.fileId) =
          false := by
  obtain ⟨index, isPiece, outcome⟩ := delivery.outcome ran missing
  have extended :=
    deliveredIn_snoc delivery.announces past isPiece
  generalize receiveChunk codec call.io state call.chunk = result
    at outcome ⊢
  cases outcome with
  | ignored again =>
      refine (missing ?_).elim
      intro position bound
      have isDelivered := complete position bound
      rw [extended] at isDelivered
      rcases isDelivered with before | rfl
      · exact before
      · exact again
  | pending first stillMissing progress =>
      refine (stillMissing ?_).elim
      intro position bound
      have isDelivered := complete position bound
      rw [extended] at isDelivered
      exact isDelivered
  | completed first all saved closed moved =>
      exact ⟨_, _, rfl, saved, closed, moved⟩

/-- A late chunk is not ignored, or it creates a partial file. -/
private theorem late_call
    {call : ReceiverCall}
    {state : ReceiverState}
    {index : Nat}
    (lawful : codec.Lawful)
    (announces : Announces codec header pieces)
    (succeeds : call.io.Succeeds)
    (sound : state.Sound)
    (closed : state.receiver.transfers.lookup header.fileId = none)
    (moved :
      state.store.exists? (state.receiver.partialPath header.fileId) =
        false)
    (isPiece : IsPiece codec header pieces index call.chunk)
    (ignored :
      (receiveChunk codec call.io state call.chunk).result = .ok none)
    (noFile :
      ∀ path,
        (receiveChunk codec call.io state
            call.chunk).state.store.exists? path = true →
        state.store.exists? path = true) :
    False := by
  have tracks : Tracks header pieces (fun _ => False) state :=
    .inl ⟨closed, fun _ => id⟩
  have outcome :=
    receiveChunk_outcome lawful announces succeeds sound tracks isPiece
  have evolves :=
    (receives_receiveChunk codec call.io sound call.chunk).evolves
  generalize receiveChunk codec call.io state call.chunk = result
    at outcome ignored noFile evolves
  cases outcome with
  | ignored again =>
      exact again
  | @pending after transfer first missing progress =>
      have own := evolves.sound _ _ progress.found
      have named :
          after.store.exists? (state.receiver.partialPath header.fileId) =
            true := by
        have place : transfer.file.path =
            state.receiver.partialPath header.fileId := by
          rw [own.path, own.tempPath, evolves.partialPath]
        rw [← place, Store.exists?, own.refers, Option.isSome_some]
      rw [noFile _ named] at moved
      cases moved
  | completed first complete saved closed moved =>
      cases ignored

private theorem Delivery.completesOnce
    {calls : List ReceiverCall}
    (delivery : Delivery codec header pieces calls)
    (notEmpty : ¬ AllDelivered codec header pieces [])
    (notLate :
      ∀ past call rest,
        calls = past ++ call :: rest →
        ¬ AllDelivered codec header pieces past) :
    CompletesOnce codec (start saveDir store)
      (pieces.mapIdx fun index bytes =>
        header.chunk codec (UInt32.ofNat index) bytes)
      pieces.flatten calls := by
  have completed
      (all : AllDelivered codec header pieces calls) :
      ∃ path state,
        completions codec (start saveDir store) calls = [path] ∧
          StepRun.run? (step? codec) (start saveDir store) calls =
            some state ∧
          state.store.read path = some pieces.flatten := by
    rcases List.eq_nil_or_concat calls with isEmpty | ⟨past, call, isLast⟩
    · subst calls
      exact (notEmpty all).elim
    · rw [List.concat_eq_append] at isLast
      subst calls
      have missing := notLate past call [] rfl
      obtain ⟨state, ran⟩ := run?_isSome codec (start saveDir store) past
      obtain ⟨path, after, result, saved, -, -⟩ :=
        completing_call delivery ran missing all
      refine ⟨path, after, ?_, ?_, saved⟩
      · rw [completions_snoc ran,
          completions_of_missing delivery.take ran missing, result]
        rfl
      · exact StepRun.run?_snoc_eq_some.mpr
          ⟨state, ran, by rw [step?, result]⟩
  refine ⟨?_, ?_, ?_⟩
  · by_cases all : AllDelivered codec header pieces calls
    · obtain ⟨path, state, one, -, -⟩ := completed all
      rw [one]
      exact Nat.le_refl 1
    · obtain ⟨state, ran⟩ := run?_isSome codec (start saveDir store) calls
      rw [completions_of_missing delivery ran all]
      exact Nat.zero_le 1
  · intro delivered
    exact completed (delivered_iff.mp delivered)
  · intro past call rest state split ran repeats
    have missing := notLate past call rest split
    subst calls
    rw [repeats_ignored delivery ran missing repeats]
    exact ⟨rfl, fun _ named => named⟩

private theorem Delivery.not_late
    {calls : List ReceiverCall}
    (delivery : Delivery codec header pieces calls)
    (notEmpty : ¬ AllDelivered codec header pieces [])
    (once :
      CompletesOnce codec (start saveDir store)
        (pieces.mapIdx fun index bytes =>
          header.chunk codec (UInt32.ofNat index) bytes)
        pieces.flatten calls)
    {past rest : List ReceiverCall}
    {call : ReceiverCall}
    (split : calls = past ++ call :: rest) :
    ¬ AllDelivered codec header pieces past := by
  intro all
  obtain ⟨first, completing, between, isPast, missing, complete⟩ :=
    exists_completing
      (fun delivered => notEmpty (delivered_iff.mp delivered))
      (delivered_iff.mpr all)
  rw [delivered_iff] at missing complete
  -- the first call after the completing one repeats a delivered piece
  obtain ⟨late, later, isLate⟩ :
      ∃ late later, between ++ call :: rest = late :: later := by
    cases between with
    | nil =>
        exact ⟨call, rest, rfl⟩
    | cons late others =>
        exact ⟨late, others ++ call :: rest, rfl⟩
  have layout : calls = first ++ completing :: (late :: later) := by
    rw [split, isPast, List.append_assoc, List.cons_append, isLate]
  have layoutLate :
      calls = (first ++ [completing]) ++ late :: later := by
    rw [layout, List.append_assoc, List.singleton_append]
  rw [layout] at delivery
  obtain ⟨state, ran⟩ := run?_isSome codec (start saveDir store) first
  obtain ⟨path, after, result, -, closed, moved⟩ :=
    completing_call delivery ran missing complete
  have toLate :
      StepRun.run? (step? codec) (start saveDir store)
          (first ++ [completing]) = some after :=
    StepRun.run?_snoc_eq_some.mpr ⟨state, ran, by rw [step?, result]⟩
  have member : late ∈ first ++ completing :: late :: later := by simp
  obtain ⟨index, isPiece⟩ := delivery.own late member
  have bound : index < pieces.length := by
    rcases isPiece with ⟨bytes, found, -⟩
    exact (List.getElem?_eq_some_iff.mp found).1
  have repeats : Repeats (first ++ [completing]) late := by
    obtain ⟨earlier, isEarlier, bytes, found, same⟩ :=
      complete index bound
    rcases isPiece with ⟨lateBytes, lateFound, lateSame⟩
    rw [found, Option.some.injEq] at lateFound
    subst lateBytes
    exact ⟨earlier, isEarlier, same.trans lateSame.symm⟩
  obtain ⟨ignored, noFile⟩ :=
    once.repeats (first ++ [completing]) late later after layoutLate
      toLate repeats
  exact late_call delivery.lawful delivery.announces
    (delivery.succeed late member) (confined_of_run toLate).sound
    closed moved isPiece ignored noFile

end Duplicates

/--
Deliver the chunks of a file in any order and with any repetition.  The
transfer completes once, with one copy saved and every repeated chunk ignored,
exactly when no chunk arrives after all of them have been delivered.
-/
theorem completesOnce_iff
    {codec : Codec}
    {file : SourceFile}
    {content : List UInt8}
    {fileId : Uuid}
    {saveDir : Path}
    {store : Store Path}
    {calls : List ReceiverCall}
    (lawful : codec.Lawful)
    (source : file.Holds content)
    (nonempty : content ≠ [])
    (countFits : chunkCount content.length ≤ maxU32)
    (succeed : ∀ call ∈ calls, call.io.Succeeds)
    (own :
      ∀ call ∈ calls,
        CarriedBy (sendFileThrough codec fileId file).frames call.chunk) :
    CompletesOnce codec (start saveDir store)
        (sendFileThrough codec fileId file).frames content calls ↔
      ¬ ArrivesLate (sendFileThrough codec fileId file).frames calls := by
  obtain ⟨header, announces, -, sent⟩ :=
    sendFileThrough_eq codec fileId source nonempty countFits
  simp only [sent, carriedBy_iff] at own ⊢
  have delivery : Delivery codec header file.reads calls :=
    ⟨lawful, announces, succeed, own⟩
  have notEmpty : ¬ AllDelivered codec header file.reads [] := by
    intro all
    have some : 0 < file.reads.length := by
      rw [List.length_pos_iff]
      intro noReads
      refine nonempty ?_
      rw [← source.reads, noReads]
      rfl
    obtain ⟨call, member, -⟩ := all 0 some
    cases member
  rw [← source.reads]
  constructor
  · rintro once ⟨past, call, rest, split, delivered⟩
    exact delivery.not_late notEmpty once split
      (delivered_iff.mp delivered)
  · intro notLate
    refine delivery.completesOnce notEmpty ?_
    intro past call rest split all
    exact notLate ⟨past, call, rest, split, delivered_iff.mpr all⟩

/-- The chunks of the larger sample in the wrong order, one of them twice. -/
def repeatedInside : List ReceiverCall :=
  [secondCall, secondCall, firstCall]

/-- No chunk of it comes after all of them have been delivered. -/
theorem not_arrivesLate_repeatedInside :
    ¬ ArrivesLate twoPieceFrames repeatedInside := by
  rintro ⟨past, call, rest, split, delivered⟩
  have within : past <+: [secondCall, secondCall] := by
    have shorter :
        [secondCall, secondCall] = past ++ (call :: rest).dropLast := by
      rw [← List.dropLast_append_of_ne_nil (List.cons_ne_nil call rest),
        ← split]
      rfl
    exact ⟨_, shorter.symm⟩
  refine not_delivered_twoPieceFrames ?_ delivered
  intro other member _
  have isSecond : other = secondCall := by
    simpa using within.subset member
  rw [isSecond]
  decide

/-- So the file of the sample completes once. -/
theorem completesOnce_iff_sample :
    CompletesOnce sampleCodec (start sampleDir Store.empty) twoPieceFrames
      (firstPiece ++ [98]) repeatedInside := by
  refine
    (completesOnce_iff lawful_sampleCodec holds_twoPieceFile (by simp)
      fits_twoPieceFile ?_ ?_).mpr not_arrivesLate_repeatedInside
  · intro call member
    simp only [repeatedInside, List.mem_cons, List.not_mem_nil,
      or_false] at member
    rcases member with rfl | rfl | rfl <;> rfl
  · intro call member
    refine carriedBy_twoPieceFrames ?_
    simp only [repeatedInside, List.mem_cons, List.not_mem_nil,
      or_false] at member
    rcases member with rfl | rfl | rfl <;> simp

/-- Delivered twice, the only chunk of the sample saves two copies. -/
theorem repeated_chunk_saves_twice :
    (∀ call ∈ [lastCall, lastCall],
        CarriedBy sampleFrames call.chunk) ∧
      completions sampleCodec (start sampleDir Store.empty)
          [lastCall, lastCall] =
        [sampleDir.join "hi.txt", sampleDir.join "hi (1).txt"] ∧
      ¬ CompletesOnce sampleCodec (start sampleDir Store.empty)
          sampleFrames [104, 105] [lastCall, lastCall] := by
  have twice :
      completions sampleCodec (start sampleDir Store.empty)
          [lastCall, lastCall] =
        [sampleDir.join "hi.txt", sampleDir.join "hi (1).txt"] := by
    decide +kernel
  refine ⟨by decide +kernel, twice, ?_⟩
  intro once
  have atMostOnce := once.atMostOnce
  rw [twice] at atMostOnce
  exact absurd atMostOnce (by decide)

end ReceiverState

end ClipboardWire
