namespace BoundedChannel

/-!
# Bounded channels with one receiver

A channel has a fixed capacity, a FIFO buffer and two liveness bits: whether
the receiving end still exists and whether some sending end still exists.
The operations are those of an asynchronous bounded channel: a send that never
waits, a send that is polled until there is room, and a polled receive.

The capacity bound is a field of the structure, so a channel that holds more
than its capacity cannot be built.
-/

/-- A bounded FIFO channel together with the liveness of its two sides. -/
structure Channel (Item : Type) where
  capacity : Nat
  buffer : List Item
  receiverAlive : Bool
  sendersAlive : Bool
  bounded : buffer.length ≤ capacity
  deriving DecidableEq, Repr

/-- Why a send that never waits did not go through. -/
inductive TrySendError where
  | full
  | closed
  deriving DecidableEq, Repr

/-- One poll of a waiting send. -/
inductive SendPoll (Item : Type) where
  | sent : Channel Item → SendPoll Item
  | pending
  | closed

/-- One poll of a receive. -/
inductive RecvPoll (Item : Type) where
  | received : Item → Channel Item → RecvPoll Item
  | pending
  | disconnected

namespace Channel

variable {Item : Type}

/-- A new channel with both ends alive and nothing in it. -/
def withCapacity (capacity : Nat) : Channel Item where
  capacity := capacity
  buffer := []
  receiverAlive := true
  sendersAlive := true
  bounded := Nat.zero_le capacity

/-- The buffer is below its capacity. -/
def HasRoom (channel : Channel Item) : Prop :=
  channel.buffer.length < channel.capacity

instance (channel : Channel Item) : Decidable channel.HasRoom :=
  inferInstanceAs
    (Decidable (channel.buffer.length < channel.capacity))

/-- Append an item to a channel that has room for it. -/
def push
    (channel : Channel Item)
    (item : Item)
    (room : channel.HasRoom) :
    Channel Item :=
  { channel with
    buffer := channel.buffer ++ [item]
    bounded := by
      simpa [HasRoom, Nat.succ_le_iff] using room }

/-- Send without waiting: a full or closed channel refuses the item. -/
def trySend
    (channel : Channel Item)
    (item : Item) :
    Except TrySendError (Channel Item) :=
  if channel.receiverAlive then
    if room : channel.HasRoom then
      .ok (channel.push item room)
    else
      .error .full
  else
    .error .closed

/-- The channel after a send without waiting whose result is ignored. -/
def offer
    (channel : Channel Item)
    (item : Item) :
    Channel Item :=
  match channel.trySend item with
  | .ok next => next
  | .error _ => channel

/-- Poll a waiting send: it completes as soon as there is room. -/
def pollSend
    (channel : Channel Item)
    (item : Item) :
    SendPoll Item :=
  if channel.receiverAlive then
    if room : channel.HasRoom then
      .sent (channel.push item room)
    else
      .pending
  else
    .closed

/-- Drop the first buffered item. -/
def dropHead (channel : Channel Item) : Channel Item :=
  { channel with
    buffer := channel.buffer.tail
    bounded := by
      have := channel.bounded
      simp only [List.length_tail]
      omega }

/--
Poll a receive.  Buffered items are handed out even after the last sender is
gone; only an empty channel without senders reports the end of the stream.
-/
def pollRecv (channel : Channel Item) : RecvPoll Item :=
  match channel.buffer with
  | item :: _ =>
      .received item channel.dropHead
  | [] =>
      if channel.sendersAlive then
        .pending
      else
        .disconnected

/-- Drop the receiver together with everything still buffered. -/
def dropReceiver (channel : Channel Item) : Channel Item :=
  { channel with
    buffer := []
    receiverAlive := false
    bounded := Nat.zero_le _ }

/-- Drop the last sender; what is buffered can still be received. -/
def dropSenders (channel : Channel Item) : Channel Item :=
  { channel with sendersAlive := false }

@[simp] theorem buffer_withCapacity (capacity : Nat) :
    (withCapacity capacity : Channel Item).buffer = [] := by
  rfl

@[simp] theorem capacity_withCapacity (capacity : Nat) :
    (withCapacity capacity : Channel Item).capacity = capacity := by
  rfl

@[simp] theorem receiverAlive_withCapacity (capacity : Nat) :
    (withCapacity capacity : Channel Item).receiverAlive = true := by
  rfl

@[simp] theorem sendersAlive_withCapacity (capacity : Nat) :
    (withCapacity capacity : Channel Item).sendersAlive = true := by
  rfl

@[simp] theorem buffer_push
    (channel : Channel Item)
    (item : Item)
    (room : channel.HasRoom) :
    (channel.push item room).buffer = channel.buffer ++ [item] := by
  rfl

@[simp] theorem capacity_push
    (channel : Channel Item)
    (item : Item)
    (room : channel.HasRoom) :
    (channel.push item room).capacity = channel.capacity := by
  rfl

@[simp] theorem receiverAlive_push
    (channel : Channel Item)
    (item : Item)
    (room : channel.HasRoom) :
    (channel.push item room).receiverAlive = channel.receiverAlive := by
  rfl

@[simp] theorem sendersAlive_push
    (channel : Channel Item)
    (item : Item)
    (room : channel.HasRoom) :
    (channel.push item room).sendersAlive = channel.sendersAlive := by
  rfl

@[simp] theorem buffer_dropHead (channel : Channel Item) :
    channel.dropHead.buffer = channel.buffer.tail := by
  rfl

@[simp] theorem capacity_dropHead (channel : Channel Item) :
    channel.dropHead.capacity = channel.capacity := by
  rfl

@[simp] theorem receiverAlive_dropHead (channel : Channel Item) :
    channel.dropHead.receiverAlive = channel.receiverAlive := by
  rfl

@[simp] theorem sendersAlive_dropHead (channel : Channel Item) :
    channel.dropHead.sendersAlive = channel.sendersAlive := by
  rfl

@[simp] theorem buffer_dropReceiver (channel : Channel Item) :
    channel.dropReceiver.buffer = [] := by
  rfl

@[simp] theorem capacity_dropReceiver (channel : Channel Item) :
    channel.dropReceiver.capacity = channel.capacity := by
  rfl

@[simp] theorem receiverAlive_dropReceiver (channel : Channel Item) :
    channel.dropReceiver.receiverAlive = false := by
  rfl

@[simp] theorem buffer_dropSenders (channel : Channel Item) :
    channel.dropSenders.buffer = channel.buffer := by
  rfl

@[simp] theorem receiverAlive_dropSenders (channel : Channel Item) :
    channel.dropSenders.receiverAlive = channel.receiverAlive := by
  rfl

/-- A send without waiting succeeds exactly on a live channel with room. -/
theorem trySend_eq_ok
    {channel next : Channel Item}
    {item : Item} :
    channel.trySend item = .ok next ↔
      ∃ room : channel.HasRoom,
        channel.receiverAlive = true ∧
          next = channel.push item room := by
  unfold trySend
  by_cases alive : channel.receiverAlive = true
  · by_cases room : channel.HasRoom
    · simp [alive, room, eq_comm]
    · simp [alive, room]
  · simp [alive]

/-- A waiting send completes exactly on a live channel with room. -/
theorem pollSend_eq_sent
    {channel next : Channel Item}
    {item : Item} :
    channel.pollSend item = .sent next ↔
      ∃ room : channel.HasRoom,
        channel.receiverAlive = true ∧
          next = channel.push item room := by
  unfold pollSend
  by_cases alive : channel.receiverAlive = true
  · by_cases room : channel.HasRoom
    · simp [alive, room, eq_comm]
    · simp [alive, room]
  · simp [alive]

/-- A send waits exactly on a live channel without room. -/
theorem pollSend_eq_pending
    {channel : Channel Item}
    {item : Item} :
    channel.pollSend item = .pending ↔
      channel.receiverAlive = true ∧ ¬ channel.HasRoom := by
  unfold pollSend
  by_cases alive : channel.receiverAlive = true
  · by_cases room : channel.HasRoom <;>
      simp [alive, room]
  · simp [alive]

/-- A send is refused exactly by a channel whose receiver is gone. -/
theorem pollSend_eq_closed
    {channel : Channel Item}
    {item : Item} :
    channel.pollSend item = .closed ↔
      channel.receiverAlive = false := by
  unfold pollSend
  by_cases alive : channel.receiverAlive = true
  · by_cases room : channel.HasRoom <;>
      simp [alive, room]
  · simp [alive]

/-- An offer to a live channel with room appends the item. -/
theorem buffer_offer_of_room
    {channel : Channel Item}
    (item : Item)
    (alive : channel.receiverAlive = true)
    (room : channel.HasRoom) :
    (channel.offer item).buffer = channel.buffer ++ [item] := by
  simp [offer, trySend, alive, room]

/-- An offer to a channel without room changes nothing. -/
theorem offer_of_full
    {channel : Channel Item}
    (item : Item)
    (full : ¬ channel.HasRoom) :
    channel.offer item = channel := by
  unfold offer
  cases sent : channel.trySend item with
  | ok next =>
      obtain ⟨room, -⟩ := trySend_eq_ok.mp sent
      exact (full room).elim
  | error reason =>
      rfl

/-- An offer adds at most the item. -/
theorem mem_offer
    {channel : Channel Item}
    {item found : Item}
    (member : found ∈ (channel.offer item).buffer) :
    found ∈ channel.buffer ∨ found = item := by
  by_cases room : channel.HasRoom
  · by_cases alive : channel.receiverAlive = true
    · rw [buffer_offer_of_room item alive room] at member
      simpa using member
    · simp only [offer, trySend, alive] at member
      exact .inl member
  · rw [offer_of_full item room] at member
    exact .inl member

/-- An offer adds the item after what is buffered, or not at all. -/
theorem buffer_offer_sublist
    (channel : Channel Item)
    (item : Item) :
    (channel.offer item).buffer.Sublist (channel.buffer ++ [item]) := by
  unfold offer
  cases sent : channel.trySend item with
  | ok next =>
      obtain ⟨room, -, rfl⟩ := trySend_eq_ok.mp sent
      exact List.Sublist.refl _
  | error reason =>
      exact List.sublist_append_left channel.buffer [item]

@[simp] theorem receiverAlive_offer
    (channel : Channel Item)
    (item : Item) :
    (channel.offer item).receiverAlive = channel.receiverAlive := by
  unfold offer
  cases sent : channel.trySend item with
  | ok next =>
      obtain ⟨room, -, rfl⟩ := trySend_eq_ok.mp sent
      rfl
  | error reason =>
      rfl

/-- A poll that receives takes the oldest item and keeps the rest in order. -/
theorem pollRecv_eq_received
    {channel next : Channel Item}
    {item : Item} :
    channel.pollRecv = .received item next ↔
      channel.buffer = item :: next.buffer ∧ next = channel.dropHead := by
  unfold pollRecv
  cases shape : channel.buffer with
  | nil =>
      by_cases alive : channel.sendersAlive = true <;>
        simp [alive]
  | cons first rest =>
      simp only [RecvPoll.received.injEq, List.cons.injEq]
      constructor
      · rintro ⟨rfl, rfl⟩
        simp [shape]
      · rintro ⟨⟨rfl, -⟩, rfl⟩
        exact ⟨rfl, rfl⟩

/-- A poll waits exactly on an empty channel that still has senders. -/
theorem pollRecv_eq_pending
    {channel : Channel Item} :
    channel.pollRecv = .pending ↔
      channel.buffer = [] ∧ channel.sendersAlive = true := by
  unfold pollRecv
  cases channel.buffer with
  | nil =>
      by_cases alive : channel.sendersAlive = true <;>
        simp [alive]
  | cons first rest =>
      simp

/-- A poll reports the end exactly on an empty channel without senders. -/
theorem pollRecv_eq_disconnected
    {channel : Channel Item} :
    channel.pollRecv = .disconnected ↔
      channel.buffer = [] ∧ channel.sendersAlive = false := by
  unfold pollRecv
  cases channel.buffer with
  | nil =>
      by_cases alive : channel.sendersAlive = true <;>
        simp [alive]
  | cons first rest =>
      simp

end Channel

end BoundedChannel
