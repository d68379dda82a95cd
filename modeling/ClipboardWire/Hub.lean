import ClipboardWire.BoundedChannel
import ClipboardWire.KeyedMap
import ClipboardWire.Protocol

namespace ClipboardWire

open BoundedChannel

/-!
# The central fan-out hub

`Hub::handle` of `core/src/server/hub.rs`, message by message.  The hub only
holds the sending ends of the per-client channels, so the channels themselves
live in a table beside it and a sender is the identifier of its channel.
Handling a message returns the new hub, the new table and, for a registration,
what is sent on the acknowledgement channel.
-/

/-- `PER_CLIENT_CHANNEL_BUF`: capacity of a client's outbound clip channel. -/
def perClientChannelBuf : Nat :=
  32

/-- `PER_CLIENT_FILE_CHANNEL_BUF`: capacity of a client's file channel. -/
def perClientFileChannelBuf : Nat :=
  4

/-- Names the channel that a sending end belongs to. -/
abbrev ChannelId :=
  Uuid

/-- The two sending ends that the hub keeps for a client. -/
structure ClientChannels where
  clip : ChannelId
  file : ChannelId
  deriving DecidableEq, Repr

/-- Messages of the hub inbox; the acknowledgement is the handler's result. -/
inductive HubMessage where
  | register (id : Uuid) (outbound fileOutbound : ChannelId)
  | deregister (id : Uuid)
  | publish (sender : Uuid) (clip : ClipFrame)
  | publishFile (sender : Uuid) (chunk : FileChunkFrame)
  deriving DecidableEq, Repr

/-- Answer to a registration. -/
inductive RegisterResult where
  | accepted (lastClip : Option ClipFrame)
  | atCapacity
  deriving DecidableEq, Repr

/-- Every per-client channel, looked up by the identifier of its senders. -/
structure Mailboxes where
  clip : ChannelId → Channel ClipFrame
  file : ChannelId → Channel FileChunkFrame

/-- Try to send to one channel of a table; a refused item is dropped. -/
def offerTo
    {Item : Type}
    (table : ChannelId → Channel Item)
    (channel : ChannelId)
    (item : Item) :
    ChannelId → Channel Item :=
  Function.update table channel ((table channel).offer item)

namespace Mailboxes

/-- Both sending ends of a client are dropped. -/
def dropSenders
    (mail : Mailboxes)
    (channels : ClientChannels) :
    Mailboxes where
  clip := Function.update mail.clip channels.clip
    (mail.clip channels.clip).dropSenders
  file := Function.update mail.file channels.file
    (mail.file channels.file).dropSenders

end Mailboxes

/-- State of the hub task. -/
structure Hub where
  clients : AList fun _ : Uuid => ClientChannels
  lastClip : Option ClipFrame
  maxClients : Nat
  stats : Option UInt64

/-- What handling one message leaves behind. -/
structure Handled where
  hub : Hub
  mail : Mailboxes
  ack : Option RegisterResult

namespace Hub

/-- `Hub::new`. -/
def new (maxClients : Nat) (stats : Option UInt64) : Hub where
  clients := ∅
  lastClip := none
  maxClients := maxClients
  stats := stats

/-- The number of registered clients. -/
def clientCount (hub : Hub) : Nat :=
  hub.clients.entries.length

/--
Offer a frame to every client but the sender.  The order in which the hash map
is walked does not matter to any single channel.
-/
def fanOut
    {Item : Type}
    (hub : Hub)
    (sender : Uuid)
    (channelOf : ClientChannels → ChannelId)
    (item : Item)
    (table : ChannelId → Channel Item) :
    ChannelId → Channel Item :=
  hub.clients.entries.foldl
    (fun current entry =>
      if entry.1 = sender then
        current
      else
        offerTo current (channelOf entry.2) item)
    table

/-- `Hub::handle`. -/
def handle (hub : Hub) (mail : Mailboxes) : HubMessage → Handled
  | .register id outbound fileOutbound =>
      if hub.maxClients ≤ hub.clientCount then
        { hub := hub
          mail := mail.dropSenders ⟨outbound, fileOutbound⟩
          ack := some .atCapacity }
      else
        { hub :=
            { hub with
              clients := hub.clients.insert id ⟨outbound, fileOutbound⟩
              stats := hub.stats.map (· + 1) }
          -- a replaced entry drops its senders
          mail :=
            match hub.clients.lookup id with
            | some replaced => mail.dropSenders replaced
            | none => mail
          ack := some (.accepted hub.lastClip) }
  | .deregister id =>
      match hub.clients.lookup id with
      | some removed =>
          { hub :=
              { hub with
                clients := hub.clients.erase id
                stats := hub.stats.map (· - 1) }
            mail := mail.dropSenders removed
            ack := none }
      | none =>
          { hub := hub, mail := mail, ack := none }
  | .publish sender clip =>
      let stamped := { clip with fromId := some sender }
      { hub := { hub with lastClip := some stamped }
        mail :=
          { mail with
            clip :=
              hub.fanOut sender ClientChannels.clip stamped mail.clip }
        ack := none }
  | .publishFile sender chunk =>
      let stamped := { chunk with fromId := some sender }
      { hub := hub
        mail :=
          { mail with
            file :=
              hub.fanOut sender ClientChannels.file stamped mail.file }
        ack := none }

/-- A client is connected when the hub has an entry for it. -/
def Registered (hub : Hub) (id : Uuid) : Prop :=
  id ∈ hub.clients

instance (hub : Hub) (id : Uuid) : Decidable (hub.Registered id) :=
  inferInstanceAs (Decidable (id ∈ hub.clients))

/-- The number of clients is the number of the keys of the map. -/
theorem clientCount_eq (hub : Hub) :
    hub.clientCount = hub.clients.keys.length :=
  (List.length_map _).symm

/-- Every client was registered with the channels made for its connection. -/
def OwnChannels (hub : Hub) : Prop :=
  ∀ entry ∈ hub.clients.entries, entry.2 = ⟨entry.1, entry.1⟩

/--
A fan-out over channels of their own offers the item to every registered
client but the sender, and to nobody else.
-/
theorem fanOut_eq
    {Item : Type}
    {hub : Hub}
    {channelOf : ClientChannels → ChannelId}
    (own :
      ∀ entry ∈ hub.clients.entries, channelOf entry.2 = entry.1)
    (sender : Uuid)
    (item : Item)
    (table : ChannelId → Channel Item) :
    hub.fanOut sender channelOf item table =
      fun peer =>
        if hub.Registered peer ∧ peer ≠ sender then
          (table peer).offer item
        else
          table peer := by
  have sameFold :
      hub.fanOut sender channelOf item table =
        hub.clients.entries.foldl
          (fun current entry =>
            if entry.1 = sender then
              current
            else
              Function.update current entry.1
                ((current entry.1).offer item))
          table := by
    apply List.foldl_ext
    intro current entry member
    rw [own entry member]
    rfl
  rw [sameFold,
    KeyedMap.foldl_update_except sender (fun channel => channel.offer item)
      hub.clients.entries hub.clients.nodupKeys table]
  funext peer
  exact if_congr Iff.rfl rfl rfl

end Hub

end ClipboardWire
