import Mathlib.Data.List.Basic

namespace WatchChannel

/-!
# A channel that keeps the latest value

The sender overwrites the value, and the receiver learns that it has changed.
A value that is overwritten before the receiver looks is never read, but what
is read follows the order of the sends, and a receiver that has nothing new to
read has read the latest value.

The module is independent of what is sent.
-/

variable {α : Type}

/-- The sender and the receiver of one channel. -/
structure Watch (α : Type) where
  value : α
  /-- How often the value has been replaced. -/
  version : Nat
  /-- The version that the receiver has seen. -/
  seen : Nat
  sendersAlive : Bool
  deriving DecidableEq, Repr

/-- What the receiver learns when it waits for a change. -/
inductive Changed where
  | changed
  | closed
  | pending
  deriving DecidableEq, Repr

namespace Watch

/-- A new channel; the receiver has seen the initial value. -/
def channel (value : α) : Watch α where
  value := value
  version := 0
  seen := 0
  sendersAlive := true

/-- Replace the value. -/
def send (watch : Watch α) (value : α) : Watch α :=
  { watch with value := value, version := watch.version + 1 }

/-- Replace the value several times. -/
def sendAll (watch : Watch α) (values : List α) : Watch α :=
  values.foldl send watch

/-- The last sender is gone. -/
def dropSenders (watch : Watch α) : Watch α :=
  { watch with sendersAlive := false }

/-- The receiver reads the value. -/
def borrowAndUpdate (watch : Watch α) : Watch α :=
  { watch with seen := watch.version }

/-- A change that has not been seen comes before the end of the channel. -/
def pollChanged (watch : Watch α) : Changed :=
  if watch.seen ≠ watch.version then
    .changed
  else if watch.sendersAlive then
    .pending
  else
    .closed

@[simp] theorem sendersAlive_sendAll (watch : Watch α) (values : List α) :
    (watch.sendAll values).sendersAlive = watch.sendersAlive := by
  induction values generalizing watch with
  | nil => rfl
  | cons value rest inductionHypothesis =>
      exact inductionHypothesis (watch.send value)

/--
The values that the channel has had, the initial one first, and those that the
receiver has read.
-/
structure Account
    (watch : Watch α)
    (values reads : List α) : Prop where
  latest : values.getLast? = some watch.value
  version : values.length = watch.version + 1
  seen : watch.seen ≤ watch.version
  ordered : reads.Sublist (values.take (watch.seen + 1))
  newest : reads ≠ [] → reads.getLast? = values[watch.seen]?

/-- Nothing has been read from a new channel. -/
theorem account_channel (value : α) : (channel value).Account [value] [] where
  latest := rfl
  version := rfl
  seen := Nat.le_refl 0
  ordered := List.nil_sublist _
  newest := fun nonempty => (nonempty rfl).elim

namespace Account

variable {watch : Watch α} {values reads : List α}

/-- A value is replaced. -/
theorem send
    (account : watch.Account values reads)
    (value : α) :
    (watch.send value).Account (values ++ [value]) reads where
  latest := List.getLast?_concat
  version := by
    rw [List.length_append, account.version]
    rfl
  seen := Nat.le_succ_of_le account.seen
  ordered := by
    have inside : watch.seen + 1 ≤ values.length := by
      rw [account.version]
      exact Nat.succ_le_succ account.seen
    have unchanged :
        (values ++ [value]).take (watch.seen + 1) =
          values.take (watch.seen + 1) :=
      List.take_append_of_le_length inside
    exact unchanged ▸ account.ordered
  newest := by
    intro nonempty
    have inside : watch.seen < values.length := by
      have := account.version
      have := account.seen
      omega
    rw [account.newest nonempty]
    exact (List.getElem?_append_left inside).symm

/-- Several values are replaced. -/
theorem sendAll
    (account : watch.Account values reads)
    (more : List α) :
    (watch.sendAll more).Account (values ++ more) reads := by
  induction more generalizing watch values with
  | nil =>
      rw [List.append_nil]
      exact account
  | cons value rest inductionHypothesis =>
      have sent := inductionHypothesis (account.send value)
      rwa [List.append_assoc, List.singleton_append] at sent

/-- Whether there are senders says nothing about the values. -/
theorem dropSenders
    (account : watch.Account values reads) :
    watch.dropSenders.Account values reads :=
  ⟨account.latest, account.version, account.seen, account.ordered,
    account.newest⟩

/-- The latest value is the one with the current version. -/
private theorem getElem?_version
    (account : watch.Account values reads) :
    values[watch.version]? = some watch.value := by
  rw [← account.latest, List.getLast?_eq_getElem?, account.version,
    Nat.add_sub_cancel]

/-- The first read, or a read after a change, adds the latest value. -/
theorem read
    (account : watch.Account values reads)
    (news : reads = [] ∨ watch.seen ≠ watch.version) :
    watch.borrowAndUpdate.Account values (reads ++ [watch.value]) where
  latest := account.latest
  version := account.version
  seen := Nat.le_refl _
  ordered := by
    have earlier : reads.Sublist (values.take watch.version) := by
      rcases news with rfl | changed
      · exact List.nil_sublist _
      · have older : watch.seen + 1 ≤ watch.version := by
          have := account.seen
          omega
        exact account.ordered.trans (List.take_sublist_take_left older)
    have split :
        values.take (watch.version + 1) =
          values.take watch.version ++ [watch.value] := by
      rw [List.take_add_one, account.getElem?_version]
      rfl
    simp only [borrowAndUpdate]
    rw [split]
    exact earlier.append (List.Sublist.refl _)
  newest := by
    intro _
    rw [List.getLast?_concat]
    exact account.getElem?_version.symm

/-- Values are read in the order in which they were sent, each at most once. -/
theorem sublist (account : watch.Account values reads) :
    reads.Sublist values :=
  account.ordered.trans (List.take_sublist _ _)

/-- Without a change to read, the last read was the latest value. -/
theorem getLast?_of_seen
    (account : watch.Account values reads)
    (nonempty : reads ≠ [])
    (seen : watch.seen = watch.version) :
    reads.getLast? = values.getLast? := by
  rw [account.newest nonempty, seen, account.getElem?_version, account.latest]

end Account

end Watch

end WatchChannel
