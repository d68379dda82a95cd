import ClipboardWire.HubRelay
import ClipboardWire.StepRun

namespace ClipboardWire

/-!
# The count of connected clients

`HubStatsSink` of `core/src/server/hub.rs` next to the map that it counts.  A
registration that is accepted counts up and inserts into the map, which
replaces an entry of the same client instead of growing; a deregistration
counts down if the map had an entry.

A step hands one message to the hub.  What the mailboxes hold by then depends
on the connections and is part of the step.
-/

namespace Hub

variable {hub : Hub}

/-- The hub after a message, with the mailboxes as they are by then. -/
def after (hub : Hub) (delivery : HubMessage × Mailboxes) : Hub :=
  (hub.handle delivery.2 delivery.1).hub

/-- `Hub::run`: the next message of the inbox is handled. -/
def step? (hub : Hub) (delivery : HubMessage × Mailboxes) : Option Hub :=
  some (hub.after delivery)

/-- The counter shows the number of entries, which is within the limit. -/
def Counted (hub : Hub) : Prop :=
  ∃ counter : UInt64,
    hub.stats = some counter ∧
      counter.toNat = hub.clientCount ∧
        hub.clientCount ≤ hub.maxClients

/-- A message makes the counter go below zero. -/
def Underflows (hub : Hub) : HubMessage → Prop
  | .deregister id => hub.Registered id ∧ hub.stats = some 0
  | _ => False

/-- A message is handled with a counter that is right afterwards. -/
def KeepsCount (hub : Hub) (delivery : HubMessage × Mailboxes) : Prop :=
  (hub.after delivery).Counted ∧ ¬ hub.Underflows delivery.1

/-- A registration is accepted for a client that the hub has already. -/
def Replaces (hub : Hub) : HubMessage → Prop
  | .register id _ _ => hub.Registered id ∧ hub.clientCount < hub.maxClients
  | _ => False

/-! ## One message -/

/-- What a message does to the number of entries and to the counter. -/
inductive Recount (hub : Hub) : HubMessage → Hub → Prop where
  /-- Neither changes. -/
  | kept {message : HubMessage} {next : Hub}
      (notReplaced : ¬ hub.Replaces message)
      (notBelow : ¬ hub.Underflows message)
      (count : next.clientCount = hub.clientCount)
      (stats : next.stats = hub.stats) :
      Recount hub message next
  /-- A new client is counted. -/
  | enrolled {id : Uuid} {outbound fileOutbound : ChannelId} {next : Hub}
      (unknown : ¬ hub.Registered id)
      (room : hub.clientCount < hub.maxClients)
      (count : next.clientCount = hub.clientCount + 1)
      (stats : next.stats = hub.stats.map (· + 1)) :
      Recount hub (.register id outbound fileOutbound) next
  /-- A client that is connected already is counted once more. -/
  | replaced {id : Uuid} {outbound fileOutbound : ChannelId} {next : Hub}
      (known : hub.Registered id)
      (room : hub.clientCount < hub.maxClients)
      (count : next.clientCount = hub.clientCount)
      (stats : next.stats = hub.stats.map (· + 1)) :
      Recount hub (.register id outbound fileOutbound) next
  /-- A client that leaves is counted down. -/
  | removed {id : Uuid} {next : Hub}
      (known : hub.Registered id)
      (count : next.clientCount + 1 = hub.clientCount)
      (stats : next.stats = hub.stats.map (· - 1)) :
      Recount hub (.deregister id) next

/-- The limit does not change, and the count changes in one of four ways. -/
theorem recount_after (delivery : HubMessage × Mailboxes) :
    Recount hub delivery.1 (hub.after delivery) ∧
      (hub.after delivery).maxClients = hub.maxClients := by
  obtain ⟨message, mail⟩ := delivery
  cases message with
  | register id outbound fileOutbound =>
      by_cases full : hub.maxClients ≤ hub.clientCount
      · have same :
            hub.after (.register id outbound fileOutbound, mail) = hub := by
          simp [after, handle, full]
        rw [same]
        refine ⟨.kept ?_ not_false rfl rfl, rfl⟩
        exact fun replaced => absurd replaced.2 (Nat.not_lt.mpr full)
      · have inserted :
            hub.after (.register id outbound fileOutbound, mail) =
              { hub with
                clients := hub.clients.insert id ⟨outbound, fileOutbound⟩
                stats := hub.stats.map (· + 1) } := by
          simp [after, handle, full]
        rw [inserted]
        have room : hub.clientCount < hub.maxClients :=
          Nat.lt_of_not_le full
        refine ⟨?_, rfl⟩
        by_cases known : hub.Registered id
        · refine .replaced known room ?_ rfl
          rw [clientCount_eq, clientCount_eq]
          exact KeyedMap.length_keys_insert_of_mem known _
        · refine .enrolled known room ?_ rfl
          rw [clientCount_eq, clientCount_eq]
          exact KeyedMap.length_keys_insert_of_notMem known _
  | deregister id =>
      cases found : hub.clients.lookup id with
      | none =>
          have same : hub.after (.deregister id, mail) = hub := by
            simp [after, handle, found]
          rw [same]
          refine ⟨.kept not_false ?_ rfl rfl, rfl⟩
          exact fun below => AList.lookup_eq_none.mp found below.1
      | some channels =>
          have erased :
              hub.after (.deregister id, mail) =
                { hub with
                  clients := hub.clients.erase id
                  stats := hub.stats.map (· - 1) } := by
            simp [after, handle, found]
          rw [erased]
          have known : hub.Registered id := by
            apply AList.lookup_isSome.mp
            rw [found]
            rfl
          refine ⟨.removed known ?_ rfl, rfl⟩
          rw [clientCount_eq, clientCount_eq]
          exact KeyedMap.length_keys_erase known
  | publish sender clip =>
      exact ⟨.kept not_false not_false rfl rfl, rfl⟩
  | publishFile sender chunk =>
      exact ⟨.kept not_false not_false rfl rfl, rfl⟩

/-- Every message keeps the number of entries within the limit. -/
theorem clientCount_after
    (within : hub.clientCount ≤ hub.maxClients)
    (delivery : HubMessage × Mailboxes) :
    (hub.after delivery).clientCount ≤ (hub.after delivery).maxClients := by
  obtain ⟨recount, maxClients⟩ := hub.recount_after delivery
  obtain ⟨message, mail⟩ := delivery
  rw [maxClients]
  cases recount with
  | kept notReplaced notBelow count stats =>
      omega
  | enrolled unknown room count stats =>
      omega
  | replaced known room count stats =>
      omega
  | removed known count stats =>
      omega

/-- A counter below the limit of its type is counted up. -/
theorem toNat_add_one
    {counter : UInt64}
    (bounded : counter.toNat + 1 < 2 ^ 64) :
    (counter + 1).toNat = counter.toNat + 1 := by
  rw [UInt64.toNat_add]
  exact Nat.mod_eq_of_lt bounded

/-- A counter above zero is counted down. -/
theorem toNat_sub_one
    {counter : UInt64}
    (positive : 0 < counter.toNat) :
    (counter - 1).toNat = counter.toNat - 1 :=
  UInt64.toNat_sub_of_le _ _ (UInt64.le_iff_toNat_le.mpr positive)

/-- The counter stays right with one message exactly if the message does not
replace an entry. -/
theorem keepsCount_iff
    (counted : hub.Counted)
    (bounded : hub.maxClients < 2 ^ 64)
    (delivery : HubMessage × Mailboxes) :
    hub.KeepsCount delivery ↔ ¬ hub.Replaces delivery.1 := by
  obtain ⟨counter, isCounter, shows, within⟩ := counted
  have stillWithin := hub.clientCount_after within delivery
  obtain ⟨recount, maxClients⟩ := hub.recount_after delivery
  obtain ⟨message, mail⟩ := delivery
  cases recount with
  | kept notReplaced notBelow count stats =>
      refine iff_of_true ⟨⟨counter, ?_, ?_, stillWithin⟩, notBelow⟩
        notReplaced
      · rw [stats, isCounter]
      · rw [count, shows]
  | enrolled unknown room count stats =>
      refine iff_of_true
        ⟨⟨counter + 1, ?_, ?_, stillWithin⟩, not_false⟩
        (fun replaced => unknown replaced.1)
      · rw [stats, isCounter, Option.map_some]
      · rw [toNat_add_one (by omega), count, shows]
  | replaced known room count stats =>
      refine iff_of_false ?_ (not_not_intro ⟨known, room⟩)
      rintro ⟨⟨other, isOther, showsToo, -⟩, -⟩
      rw [stats, isCounter, Option.map_some, Option.some.injEq] at isOther
      rw [← isOther, toNat_add_one (by omega), count] at showsToo
      omega
  | removed known count stats =>
      have positive : 0 < counter.toNat := by
        omega
      refine iff_of_true
        ⟨⟨counter - 1, ?_, ?_, stillWithin⟩, ?_⟩ not_false
      · rw [stats, isCounter, Option.map_some]
      · rw [toNat_sub_one positive]
        omega
      · rintro ⟨-, zero⟩
        rw [isCounter, Option.some.injEq] at zero
        rw [zero] at positive
        exact absurd positive (by decide)

/-! ## All messages -/

/-- A hub that was just started has nobody to count. -/
theorem counted_new (maxClients : Nat) :
    (Hub.new maxClients (some 0)).Counted :=
  ⟨0, rfl, rfl, Nat.zero_le maxClients⟩

/-- However many messages are handled, the hub never has more clients than it
may have. -/
theorem clientCount_le_of_run
    {maxClients : Nat}
    {stats : Option UInt64}
    {deliveries : List (HubMessage × Mailboxes)}
    (ran :
      StepRun.run? step? (Hub.new maxClients stats) deliveries = some hub) :
    hub.clientCount ≤ hub.maxClients := by
  refine StepRun.run?_invariant
    (motive := fun hub => hub.clientCount ≤ hub.maxClients)
    ?_ ?_ ran
  · exact Nat.zero_le maxClients
  · rintro before delivery next within stepped
    cases stepped
    exact before.clientCount_after within delivery

/-- The counter shows the number of clients after every message, and never
goes below zero, exactly as long as no registration is accepted for a client
that is connected already. -/
theorem keepsCount_along_iff
    (maxClients : UInt64)
    (deliveries : List (HubMessage × Mailboxes)) :
    StepRun.Along step? KeepsCount
        (Hub.new maxClients.toNat (some 0)) deliveries ↔
      StepRun.Along step? (fun hub delivery => ¬ hub.Replaces delivery.1)
        (Hub.new maxClients.toNat (some 0)) deliveries := by
  refine StepRun.Along.congr_of_kept
    (motive := fun hub => hub.Counted ∧ hub.maxClients < 2 ^ 64)
    ⟨counted_new maxClients.toNat, maxClients.toNat_lt⟩ ?_ ?_
  · rintro before delivery - ⟨counted, bounded⟩
    exact keepsCount_iff counted bounded delivery
  · rintro before delivery next - ⟨counted, bounded⟩ notReplaced stepped
    cases stepped
    have kept := (keepsCount_iff counted bounded delivery).mpr notReplaced
    exact ⟨kept.1, by rwa [(before.recount_after delivery).2]⟩

end Hub

/-- One client registers twice and leaves. -/
private def twice : List (HubMessage × Mailboxes) :=
  let mail := (Relay.start 8 none).mail
  [(.register ⟨1⟩ ⟨1⟩ ⟨1⟩, mail),
    (.register ⟨1⟩ ⟨2⟩ ⟨2⟩, mail),
    (.deregister ⟨1⟩, mail)]

/-- A client that registers twice is counted twice, and it stays in the count
when nobody is connected any more. -/
theorem Hub.count_of_replaced :
    (StepRun.run? Hub.step? (Hub.new 8 (some 0)) (twice.take 2)).map
        (fun hub => (hub.stats, hub.clientCount)) = some (some 2, 1) ∧
      (StepRun.run? Hub.step? (Hub.new 8 (some 0)) twice).map
        (fun hub => (hub.stats, hub.clientCount)) = some (some 1, 0) ∧
      ¬ StepRun.Along Hub.step? Hub.KeepsCount
        (Hub.new 8 (some 0)) twice := by
  refine ⟨by decide, by decide, fun keeps => ?_⟩
  obtain ⟨counter, shown, counts, -⟩ := keeps.2.1.1
  have isTwo : counter = 2 :=
    (Option.some.inj shown).symm
  rw [isTwo] at counts
  exact absurd counts (by decide)

end ClipboardWire
