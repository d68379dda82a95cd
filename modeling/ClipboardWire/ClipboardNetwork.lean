import ClipboardWire.ClientReplay
import ClipboardWire.ClipboardPolls
import ClipboardWire.Hub

namespace ClipboardWire

open BoundedChannel

/-!
# Clipboards connected by a hub

A number of desktop clients, each with its clipboard and its trackers, and one
hub.  A value that a poll reports becomes a frame in the client's queue to the
hub, the reader of its connection puts it into the inbox, the hub handles it,
and every other client takes it from its channel, decodes it and hands it to
its clipboard thread.  Local copies, polls, and the steps of every queue can
happen in any order; the one restriction is that the hub handles a clip only
when no channel overflows.
-/

/-- A write that waits for the clipboard thread. -/
inductive ApplyRequest where
  /-- The change that a frame was decoded to. -/
  | clip (frame : ClipFrame) (change : ClipChange)
  /-- A batch of received files; no batch is empty. -/
  | files (paths : List Path) (nonempty : paths ≠ [])
  deriving DecidableEq, Repr

/-- What has happened to the clipboard of a client. -/
inductive DeskEvent where
  /-- The user copied a value. -/
  | copied (change : ClipChange)
  /-- A poll reported the value, and it was sent as this frame. -/
  | published (frame : ClipFrame)
  /-- The change in this frame was written. -/
  | applied (frame : ClipFrame)
  | appliedFiles (paths : List Path)
  deriving DecidableEq, Repr

/-- A connected client. -/
structure Desktop where
  clipboard : Option ClipChange
  seen : Trackers
  toHub : List ClipFrame
  toApply : List ApplyRequest
  history : List DeskEvent
  deriving DecidableEq, Repr

/-- A client that has just started. -/
def Desktop.start : Desktop where
  clipboard := none
  seen := .fresh
  toHub := []
  toApply := []
  history := []

/-- The hub, its inbox and its clients. -/
structure Network where
  hub : Hub
  mail : Mailboxes
  inbox : List HubMessage
  desktop : Uuid → Desktop

/-- The scheduler's choices. -/
inductive NetworkAction where
  | copy (client : Uuid) (change : ClipChange)
  | poll (client : Uuid) (failures : ReadFailures) (id : Uuid) (ts : Int64)
  /-- The next frame of a client reaches the inbox of the hub. -/
  | submit (client : Uuid)
  /-- The hub handles the next message of its inbox. -/
  | process
  /-- The next clip of a client's channel is decoded for its clipboard. -/
  | deliver (client : Uuid)
  /-- The clipboard thread handles its next request. -/
  | apply (client : Uuid)
  /-- A batch of received files is complete. -/
  | receiveFiles (client : Uuid) (paths : List Path) (nonempty : paths ≠ [])
  deriving DecidableEq, Repr

namespace Desktop

/-- The user copies a value. -/
def copy (desk : Desktop) (change : ClipChange) : Desktop :=
  { desk with
    clipboard := some change
    history := desk.history ++ [.copied change] }

/--
One poll.  The supervisor sends a text or an image as one frame; the files of
a list become file chunks, and what cannot be encoded is dropped.
-/
def poll
    (codec : Codec)
    (png : PngCodec)
    (failures : ReadFailures)
    (id : Uuid)
    (ts : Int64)
    (desk : Desktop) :
    Desktop :=
  let polled := pollClipboard (readsWith failures desk.clipboard) desk.seen
  match polled.1 with
  | none =>
      { desk with seen := polled.2 }
  | some change =>
      match changeToFrame codec png id ts change with
      | .error _ =>
          { desk with seen := polled.2 }
      | .ok frame =>
          { desk with
            seen := polled.2
            toHub := desk.toHub ++ [frame]
            history := desk.history ++ [.published frame] }

/-- The clipboard thread writes a change. -/
def write
    (desk : Desktop)
    (change : ClipChange)
    (event : DeskEvent) :
    Desktop :=
  let applied := applyChange none change desk.clipboard desk.seen
  { desk with
    clipboard := applied.1
    seen := applied.2
    history := desk.history ++ [event] }

/-- The clipboard thread handles a request. -/
def apply (desk : Desktop) : ApplyRequest → Desktop
  | .clip frame change => desk.write change (.applied frame)
  | .files paths _ => desk.write (.files paths) (.appliedFiles paths)

end Desktop

namespace Network

/-- No channel that the message is offered to is full. -/
def NoOverflow (net : Network) : HubMessage → Prop
  | .publish sender _ =>
      ∀ entry ∈ net.hub.clients.entries,
        entry.1 ≠ sender → (net.mail.clip entry.2.clip).HasRoom
  | .register _ _ _ | .deregister _ | .publishFile _ _ =>
      True

instance (net : Network) : DecidablePred net.NoOverflow
  | .publish sender _ =>
      inferInstanceAs (Decidable
        (∀ entry ∈ net.hub.clients.entries,
          entry.1 ≠ sender → (net.mail.clip entry.2.clip).HasRoom))
  | .register _ _ _ | .deregister _ | .publishFile _ _ =>
      inferInstanceAs (Decidable True)

/-- A client is connected when the hub has registered it. -/
def Connected (net : Network) (client : Uuid) : Prop :=
  net.hub.Registered client

instance (net : Network) (client : Uuid) : Decidable (net.Connected client) :=
  inferInstanceAs (Decidable (net.hub.Registered client))

/-- Replace what one client does. -/
def setDesktop (net : Network) (client : Uuid) (desk : Desktop) : Network :=
  { net with desktop := Function.update net.desktop client desk }

/-- The hub registers clients, one after the other. -/
def registerAll (hub : Hub) (mail : Mailboxes) : List Uuid → Hub × Mailboxes
  | [] =>
      (hub, mail)
  | id :: rest =>
      let handled := hub.handle mail (.register id id id)
      registerAll handled.hub handled.mail rest

/-- Clients that have just been connected to a new hub. -/
def start (maxClients : Nat) (ids : List Uuid) : Network :=
  let registered :=
    registerAll (Hub.new maxClients none)
      { clip := fun _ => Channel.withCapacity perClientChannelBuf
        file := fun _ => Channel.withCapacity perClientFileChannelBuf }
      ids
  { hub := registered.1
    mail := registered.2
    inbox := []
    desktop := fun _ => .start }

section

variable (codec : Codec) (png : PngCodec)

/-- The next frame of a client passes the reader of its connection. -/
def submit? (net : Network) (client : Uuid) : Option Network :=
  match (net.desktop client).toHub with
  | [] =>
      none
  | frame :: rest =>
      match frame.validate with
      -- the client would be told and disconnected
      | .error _ =>
          none
      | .ok () =>
          some
            { net with
              inbox :=
                net.inbox ++ [.publish client { frame with fromId := none }]
              desktop :=
                Function.update net.desktop client
                  { net.desktop client with toHub := rest } }

/-- The hub handles the next message, unless a channel would overflow. -/
def process? (net : Network) : Option Network :=
  match net.inbox with
  | [] =>
      none
  | message :: rest =>
      if net.NoOverflow message then
        let handled := net.hub.handle net.mail message
        some
          { net with
            hub := handled.hub
            mail := handled.mail
            inbox := rest }
      else
        none

/-- The next clip of a client's channel reaches its supervisor. -/
def deliver? (net : Network) (client : Uuid) : Option Network :=
  match (net.mail.clip client).pollRecv with
  | .received frame clips =>
      let mail :=
        { net.mail with clip := Function.update net.mail.clip client clips }
      match frameToChange codec png frame with
      | .error _ =>
          some { net with mail := mail }
      | .ok change =>
          some
            { net with
              mail := mail
              desktop :=
                Function.update net.desktop client
                  { net.desktop client with
                    toApply :=
                      (net.desktop client).toApply ++
                        [.clip frame change] } }
  | .pending | .disconnected =>
      none

/-- The clipboard thread of a client handles its next request. -/
def applyNext? (net : Network) (client : Uuid) : Option Network :=
  match (net.desktop client).toApply with
  | [] =>
      none
  | request :: rest =>
      some
        (net.setDesktop client
          (Desktop.apply { net.desktop client with toApply := rest }
            request))

/-- One step of the network, at a connected client or at the hub. -/
def step? (net : Network) : NetworkAction → Option Network
  | .copy client change =>
      if net.Connected client ∧ change.WellFormed then
        some (net.setDesktop client ((net.desktop client).copy change))
      else
        none
  | .poll client failures id ts =>
      if net.Connected client then
        some
          (net.setDesktop client
            ((net.desktop client).poll codec png failures id ts))
      else
        none
  | .submit client =>
      if net.Connected client then net.submit? client else none
  | .process =>
      net.process?
  | .deliver client =>
      if net.Connected client then deliver? codec png net client else none
  | .apply client =>
      if net.Connected client then net.applyNext? client else none
  | .receiveFiles client paths nonempty =>
      if net.Connected client then
        some
          (net.setDesktop client
            { net.desktop client with
              toApply :=
                (net.desktop client).toApply ++ [.files paths nonempty] })
      else
        none

end

/-- Nothing is on its way, and no poll has anything to report. -/
def Quiescent (net : Network) : Prop :=
  net.inbox = [] ∧
    ∀ client ∈ net.hub.clients.keys,
      (net.desktop client).toHub = [] ∧
        (net.mail.clip client).buffer = [] ∧
        (net.desktop client).toApply = [] ∧
        (pollClipboard (readsOf (net.desktop client).clipboard)
          (net.desktop client).seen).1 = none

instance : DecidablePred Quiescent :=
  fun _ => inferInstanceAs (Decidable (_ ∧ _))

end Network

end ClipboardWire
