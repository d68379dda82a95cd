import ClipboardWire.HubFanOut

namespace ClipboardWire

open BoundedChannel

/-!
# What a slow peer ends up with

The module doc of `core/src/server/hub.rs` allows a slow peer to miss an
intermediate clip.  A full queue refuses the newest clip, though, and nothing
sends it again.  The main result says when a peer that has caught up holds the
clip that the hub caches: exactly when the last publish was not refused.
-/

namespace Frame

/-- The cached clip that a `welcome` frame carries. -/
def lastClip? : Frame → Option ClipFrame
  | .welcome frame => frame.lastClip
  | _ => none

end Frame

/-- The most recent clip among sent frames; the welcome counts as well. -/
def lastDelivered (sent : List Frame) : Option ClipFrame :=
  (sent.filterMap Frame.clip?).getLast?.or
    (sent.head?.bind Frame.lastClip?)

namespace RegisterResult

/-- The snapshot that an acknowledgement carries. -/
def lastClip? : RegisterResult → Option ClipFrame
  | .accepted lastClip => lastClip
  | .atCapacity => none

end RegisterResult

namespace Relay

/-- The most recent clip handed to a connection, sent or still queued. -/
def lastHanded (relay : Relay) (id : Uuid) : Option ClipFrame :=
  (relay.handedClips id).getLast?.or
    ((relay.connections id).bind fun connection =>
      connection.ack.lastClip?)

/-- The cached clip was published by the client itself. -/
def LastClipIsOwn (relay : Relay) (id : Uuid) : Prop :=
  ∃ clip, relay.hub.lastClip = some clip ∧ clip.fromId = some id

/-- A publish is not lost for a client: no other clip is its last one. -/
def KeepsLast (id : Uuid) (relay : Relay) (action : RelayAction) : Prop :=
  ∀ clip, action.clipFor id = some clip →
    (relay.mail.clip id).HasRoom ∨ relay.lastHanded id = some clip

/-- The last publish of a run, if there is one, is not lost for a client. -/
def LastPublishKept
    (id : Uuid)
    (joined : Relay)
    (actions : List RelayAction) : Prop :=
  ∀ past action rest relay,
    actions = past ++ action :: rest →
    action.published?.isSome →
    (∀ later ∈ rest, later.published? = none) →
    StepRun.run? step? joined past = some relay →
    relay.KeepsLast id action

private theorem lastPublishKept_nil
    (id : Uuid)
    (joined : Relay) :
    LastPublishKept id joined [] := by
  intro past action rest relay split
  simp at split

private theorem lastPublishKept_publish
    {id : Uuid}
    {joined relay : Relay}
    {past : List RelayAction}
    {action : RelayAction}
    (published : action.published?.isSome)
    (reached : StepRun.run? step? joined past = some relay) :
    LastPublishKept id joined (past ++ [action]) ↔
      relay.KeepsLast id action := by
  constructor
  · intro kept
    exact kept past action [] relay rfl published (by simp) reached
  · intro keeps past' action' rest relay' split _ quiet reached'
    rcases List.eq_nil_or_concat rest with noMore | ⟨others, last, isLast⟩
    · subst rest
      obtain ⟨rfl, same⟩ := List.append_inj' split rfl
      obtain ⟨rfl, -⟩ := List.cons.inj same
      rw [reached, Option.some.injEq] at reached'
      subst relay'
      exact keeps
    · subst rest
      rw [List.concat_eq_append, ← List.cons_append,
        ← List.append_assoc] at split
      obtain ⟨-, same⟩ := List.append_inj' split rfl
      obtain ⟨rfl, -⟩ := List.cons.inj same
      have none := quiet action (by simp)
      simp [none] at published

private theorem lastPublishKept_other
    {id : Uuid}
    {joined : Relay}
    {past : List RelayAction}
    {action : RelayAction}
    (quiet : action.published? = none) :
    LastPublishKept id joined (past ++ [action]) ↔
      LastPublishKept id joined past := by
  constructor
  · intro kept earlier publish rest relay split published later reached
    refine kept earlier publish (rest ++ [action]) relay
      (by simp [split]) published ?_ reached
    intro other member
    rcases List.mem_append.mp member with isOld | isNew
    · exact later other isOld
    · rw [List.mem_singleton] at isNew
      subst other
      exact quiet
  · intro kept earlier publish rest relay split published later reached
    rcases List.eq_nil_or_concat rest with noMore | ⟨others, last, isLast⟩
    · subst rest
      obtain ⟨-, same⟩ := List.append_inj' split rfl
      obtain ⟨rfl, -⟩ := List.cons.inj same
      simp [quiet] at published
    · subst rest
      rw [List.concat_eq_append, ← List.cons_append,
        ← List.append_assoc] at split
      obtain ⟨same, -⟩ := List.append_inj' split rfl
      exact kept earlier publish others relay same published
        (fun other member => later other (by simp [member])) reached

/-- The peer holds the cached clip, or is the one that published it. -/
private def HoldsLast (relay : Relay) (id : Uuid) : Prop :=
  relay.lastHanded id = relay.hub.lastClip ∨ relay.LastClipIsOwn id

/-- The clip that a client should get is the one that is published. -/
private theorem published_of_clipFor
    {id : Uuid}
    {action : RelayAction}
    {clip : ClipFrame}
    (foreign : action.clipFor id = some clip) :
    action.published? = some clip ∧ clip.fromId ≠ some id := by
  cases action with
  | process message =>
      cases message with
      | publish sender content =>
          simp only [RelayAction.clipFor] at foreign
          split at foreign
          · cases foreign
          · rename_i different
            rw [Option.some.injEq] at foreign
            subst clip
            exact ⟨rfl, fun same => different (Option.some.inj same)⟩
      | _ =>
          cases foreign
  | _ =>
      cases foreign

/-- A published clip that a client should not get is its own. -/
private theorem own_of_clipFor_none
    {id : Uuid}
    {action : RelayAction}
    {clip : ClipFrame}
    (published : action.published? = some clip)
    (notForeign : action.clipFor id = none) :
    clip.fromId = some id := by
  cases action with
  | process message =>
      cases message with
      | publish sender content =>
          simp only [RelayAction.clipFor, ite_eq_left_iff,
            reduceCtorEq, imp_false, Decidable.not_not] at notForeign
          cases published
          exact congrArg some notForeign
      | _ =>
          cases published
  | _ =>
      cases published

/-- What a step adds to the clips handed decides which clip is the last. -/
private theorem lastHanded_step
    {relay next : Relay}
    {action : RelayAction}
    {id : Uuid}
    {connection : Connection}
    (grows : Grows relay next id action)
    (stepped : relay.step? action = some next)
    (known : relay.connections id = some connection) :
    next.lastHanded id =
      (relay.clipsAdded id action).getLast?.or (relay.lastHanded id) := by
  obtain ⟨later, found, ack⟩ := ack_step stepped known
  simp only [lastHanded, grows.clips, known, found, Option.bind_some, ack,
    List.getLast?_append, Option.or_assoc]

/-- A foreign publish is held exactly when it was not lost. -/
private theorem holdsLast_foreign
    {relay next : Relay}
    {action : RelayAction}
    {id : Uuid}
    {connection : Connection}
    {clip : ClipFrame}
    (grows : Grows relay next id action)
    (stepped : relay.step? action = some next)
    (known : relay.connections id = some connection)
    (foreign : action.clipFor id = some clip) :
    HoldsLast next id ↔ relay.KeepsLast id action := by
  obtain ⟨published, notOwn⟩ := published_of_clipFor foreign
  have cached : next.hub.lastClip = some clip := by
    rw [lastClip_step stepped, published, Option.some_or]
  have handed := lastHanded_step grows stepped known
  have notOwnClip : ¬ next.LastClipIsOwn id := by
    rintro ⟨other, isLast, isOwn⟩
    rw [cached, Option.some.injEq] at isLast
    subst other
    exact notOwn isOwn
  simp only [HoldsLast, notOwnClip, or_false, cached, handed,
    KeepsLast, foreign, Option.some.injEq, forall_eq']
  by_cases room : (relay.mail.clip id).HasRoom
  · simp [clipsAdded, room, foreign]
  · simp [clipsAdded, room]

private theorem holdsLast_quiet
    {relay next : Relay}
    {action : RelayAction}
    {id : Uuid}
    {connection : Connection}
    (grows : Grows relay next id action)
    (stepped : relay.step? action = some next)
    (known : relay.connections id = some connection)
    (quiet : action.published? = none) :
    HoldsLast next id ↔ HoldsLast relay id := by
  have notForeign : action.clipFor id = none := by
    cases foreign : action.clipFor id with
    | none =>
        rfl
    | some clip =>
        rw [(published_of_clipFor foreign).1] at quiet
        cases quiet
  have cached : next.hub.lastClip = relay.hub.lastClip := by
    rw [lastClip_step stepped, quiet, Option.none_or]
  have handed : next.lastHanded id = relay.lastHanded id := by
    rw [lastHanded_step grows stepped known]
    simp [clipsAdded, notForeign]
  simp [HoldsLast, LastClipIsOwn, cached, handed]

private theorem holdsLast_step
    {joined relay next : Relay}
    {past : List RelayAction}
    {action : RelayAction}
    {id : Uuid}
    {connection : Connection}
    (grows : Grows relay next id action)
    (stepped : relay.step? action = some next)
    (known : relay.connections id = some connection)
    (reached : StepRun.run? step? joined past = some relay)
    (holds : HoldsLast relay id ↔ LastPublishKept id joined past) :
    HoldsLast next id ↔
      LastPublishKept id joined (past ++ [action]) := by
  cases published : action.published? with
  | none =>
      rw [lastPublishKept_other published,
        holdsLast_quiet grows stepped known published]
      exact holds
  | some clip =>
      rw [lastPublishKept_publish (by simp [published]) reached]
      cases foreign : action.clipFor id with
      | none =>
          have own : next.LastClipIsOwn id :=
            ⟨clip, by rw [lastClip_step stepped, published, Option.some_or],
              own_of_clipFor_none published foreign⟩
          have nothingLost : relay.KeepsLast id action := by
            intro other isForeign
            rw [foreign] at isForeign
            cases isForeign
          exact iff_of_true (.inr own) nothingLost
      | some other =>
          exact holdsLast_foreign grows stepped known foreign

/-- A caught-up writer has delivered the last clip that it was handed. -/
private theorem lastDelivered_eq_lastHanded
    {relay : Relay}
    {id : Uuid}
    {connection : Connection}
    {lastClip : Option ClipFrame}
    (first : relay.WelcomeFirst)
    (known : relay.connections id = some connection)
    (accepted : connection.ack = .accepted lastClip)
    (running : connection.writer = .running)
    (noControl : connection.internal.buffer = [])
    (noClips : (relay.mail.clip id).buffer = []) :
    lastDelivered connection.sent = relay.lastHanded id := by
  have welcomed :
      connection.sent.head? = some (welcomeFrame id lastClip) := by
    rcases first id connection lastClip known accepted with
      ⟨-, queued⟩ | isFirst
    · have head := queued running
      simp [noControl] at head
    · exact isFirst
  simp [lastDelivered, lastHanded, handedClips, sentFrames, known,
    noClips, welcomed, accepted, welcomeFrame, Frame.lastClip?,
    RegisterResult.lastClip?]

/--
A registered peer that has caught up holds the clip that the hub caches, or
has published it, exactly when the last publish since its registration was not
lost for it: the peer published it, or its queue had room for it, or the clip
only repeats the one handed to the peer before.
-/
theorem holdsLastClip_iff
    {maxClients : Nat}
    {stats : Option UInt64}
    {before after : List RelayAction}
    {id : Uuid}
    {joined final : Relay}
    {connection : Connection}
    (joins :
      StepRun.run? step? (start maxClients stats)
        (before ++ [.process (.register id id id)]) = some joined)
    (ran : StepRun.run? step? joined after = some final)
    (registered : final.hub.Registered id)
    (known : final.connections id = some connection)
    (running : connection.writer = .running)
    (noControl : connection.internal.buffer = [])
    (noClips : (final.mail.clip id).buffer = []) :
    (lastDelivered connection.sent = final.hub.lastClip ∨
        final.LastClipIsOwn id) ↔
      LastPublishKept id joined after := by
  have live : final.Live id :=
    ⟨registered, connection, known, by simp [running]⟩
  have holds :
      (∃ found,
          final.connections id = some found ∧
            found.ack = .accepted (lastPublished before)) ∧
        (HoldsLast final id ↔ LastPublishKept id joined after) := by
    refine live_history
      (motive := fun past relay =>
        HoldsLast relay id ↔ LastPublishKept id joined past)
      joins ran live ?_ ?_
    · intro fresh
      obtain ⟨joining, made, accepted⟩ := fresh.accepted
      refine iff_of_true (.inl ?_) (lastPublishKept_nil id joined)
      simp [lastHanded, fresh.clips, fresh.cached, made, accepted,
        RegisterResult.lastClip?]
    · intro past relay action next earlier _ reached made stepped grows
        before
      exact holdsLast_step grows stepped made reached before
  rcases holds with ⟨⟨found, same, accepted⟩, holds⟩
  rw [known, Option.some.injEq] at same
  subst found
  have first :=
    welcomeFirst_of_run
      (StepRun.run?_append_eq_some.mpr ⟨_, joins, ran⟩)
  rw [lastDelivered_eq_lastHanded first known accepted running
    noControl noClips]
  exact holds

/-- The sample of the join, with the queued clip sent as well. -/
def caughtUp : Relay :=
  (StepRun.run? step? sampleJoined (sampleAfter ++ [.write ⟨2⟩])).get
    (by decide)

/-- The second connection of the sample once it has caught up. -/
def caughtUpConnection : Connection :=
  (caughtUp.connections ⟨2⟩).get (by decide)

/-- On the sample the peer has caught up. -/
theorem holdsLastClip_iff_sample :
    (lastDelivered caughtUpConnection.sent = caughtUp.hub.lastClip ∨
        caughtUp.LastClipIsOwn ⟨2⟩) ↔
      LastPublishKept ⟨2⟩ sampleJoined (sampleAfter ++ [.write ⟨2⟩]) :=
  holdsLastClip_iff
    (Option.some_get _).symm
    (Option.some_get _).symm
    (by decide)
    (Option.some_get _).symm
    (by decide)
    (by decide)
    (by decide)

/-- A burst of one clip more than a client's queue holds, then a drain. -/
def overflowRun : List RelayAction :=
  [.welcome ⟨2⟩, .write ⟨2⟩] ++
    (List.range (perClientChannelBuf + 1)).map (fun count =>
      .process (.publish ⟨1⟩ (.text ⟨count⟩ 0 "burst"))) ++
    List.replicate perClientChannelBuf (.write ⟨2⟩)

/-- The server after the burst and the drain. -/
def overflowed : Relay :=
  (StepRun.run? step? sampleJoined overflowRun).get (by decide +kernel)

/-- The slow connection after the burst and the drain. -/
def overflowedConnection : Connection :=
  (overflowed.connections ⟨2⟩).get (by decide +kernel)

/-- The last clip of the burst is lost to the peer, which has caught up. -/
theorem overflow_loses_last_clip :
    overflowed.hub.Registered ⟨2⟩ ∧
      overflowedConnection.writer = .running ∧
      overflowedConnection.internal.buffer = [] ∧
      (overflowed.mail.clip ⟨2⟩).buffer = [] ∧
      ¬ (lastDelivered overflowedConnection.sent =
            overflowed.hub.lastClip ∨
          overflowed.LastClipIsOwn ⟨2⟩) := by
  refine
    ⟨by decide +kernel, by decide +kernel, by decide +kernel,
      by decide +kernel, ?_⟩
  rintro (held | ⟨clip, cached, own⟩)
  · revert held
    decide +kernel
  · have sender :
        overflowed.hub.lastClip.bind ClipFrame.fromId = some ⟨1⟩ := by
      decide +kernel
    rw [cached, Option.bind_some, own] at sender
    revert sender
    decide +kernel

end Relay

end ClipboardWire
