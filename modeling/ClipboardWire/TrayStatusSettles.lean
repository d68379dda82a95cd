import ClipboardWire.TrayStatus
import Mathlib.Algebra.BigOperators.Group.Finset.Basic

namespace ClipboardWire

open WatchChannel

/-!
# The status line becomes true

The tasks between a transport task and the status line have finitely much to
do: each status that is reported takes a few steps of the forwarder and one
turn of the event loop, and a reload of the configuration those of one new
forwarder.  When nothing is left to do, the last status is shown.
-/

/-- The steps that an event can bring about. -/
def TrayEvent.weight (event : TrayEvent) : Nat :=
  if event.reloads then
    5
  else
    1

/-- The steps that are left for a forwarder. -/
def StatusFeed.work (feed : StatusFeed) : Nat :=
  let unread :=
    if feed.watch.seen = feed.watch.version then
      0
    else
      3
  match feed.forwarder with
  | .starting => 4
  | .sending _ => 3 + unread
  | .waiting => 1 + unread
  | .ended => 0

/-- A step of a forwarder leaves it less to do. -/
theorem StatusFeed.work_lt_of_forward?
    {generation : Nat}
    {feed next : StatusFeed}
    {events : List TrayEvent}
    (stepped : feed.forward? generation = some (next, events)) :
    next.work + (events.map TrayEvent.weight).sum < feed.work := by
  unfold forward? at stepped
  split at stepped
  · rename_i starting
    cases stepped
    simp [work, starting, Watch.borrowAndUpdate]
  · rename_i status sending
    cases stepped
    simp only [work, sending, TrayEvent.weight, TrayEvent.reloads,
      Bool.false_eq_true, if_false, List.map_cons, List.map_nil,
      List.sum_cons, List.sum_nil]
    omega
  · rename_i waiting
    unfold Watch.pollChanged at stepped
    split_ifs at stepped with changed alive
    · cases stepped
      simp [work, waiting, Watch.borrowAndUpdate, changed]
    · cases stepped
      simp only [work, waiting, List.map_nil, List.sum_nil]
      omega
  · cases stepped

/-- The event loop and the forwarders: what only passes statuses on. -/
def DeskAction.Delivers : DeskAction → Prop
  | .turn | .feed _ .forward => True
  | _ => False

instance : DecidablePred DeskAction.Delivers
  | .turn | .feed _ .forward => isTrue trivial
  | .send _ | .hub _ | .feed _ (.runs _) | .feed _ (.transport _)
  | .feed _ .returns | .feed _ .reports | .feed _ .transportDropped =>
      isFalse id

namespace TrayDesk

variable {desk next : TrayDesk}

/-- The steps that are left for the forwarder of a generation. -/
def load (desk : TrayDesk) (generation : Nat) : Nat :=
  (desk.feeds generation).elim 0 StatusFeed.work

/-- The steps that are left until everything is handled. -/
def work (desk : TrayDesk) : Nat :=
  (desk.queue.map TrayEvent.weight).sum +
    ∑ generation ∈ Finset.range (desk.host.tray.supervisorGen + 1),
      desk.load generation

/-- Every event is a step that is left. -/
private theorem weight_pos (event : TrayEvent) : 0 < event.weight := by
  unfold TrayEvent.weight
  split <;> omega

/-- A turn of the event loop leaves less to do. -/
private theorem work_turned_lt
    {event : TrayEvent}
    {rest : List TrayEvent}
    (configPath : String)
    (queue : desk.queue = event :: rest) :
    (desk.turned configPath event rest).work < desk.work := by
  have pending :
      (desk.turned configPath event rest).queue = rest :=
    rfl
  have positive := weight_pos event
  have same
      (generation :
        (desk.host.handleEvent configPath event).tray.supervisorGen =
          desk.host.tray.supervisorGen) :
      (desk.turned configPath event rest).work < desk.work := by
    have host :
        (desk.turned configPath event rest).host.tray.supervisorGen =
          desk.host.tray.supervisorGen :=
      generation
    have load : (desk.turned configPath event rest).load = desk.load := by
      funext of
      simp only [TrayDesk.load, handle, arrive, generation, if_true]
    simp only [work, host, load, pending, queue, List.map_cons, List.sum_cons]
    omega
  rcases TrayHost.supervisorMoves_handleEvent configPath desk.host event with
    ⟨-, -, generation, -⟩ | ⟨-, -, -, generation, -⟩ |
    ⟨-, -, generation, -⟩ | ⟨reloads, -, generation, -⟩
  · exact same generation
  · exact same generation
  · exact same generation
  · have host :
        (desk.turned configPath event rest).host.tray.supervisorGen =
          desk.host.tray.supervisorGen + 1 :=
      generation
    have feeds :
        (desk.turned configPath event rest).feeds =
          Function.update desk.feeds (desk.host.tray.supervisorGen + 1)
            (some .spawn) :=
      feeds_turned configPath generation
    have older :
        ∑ of ∈ Finset.range (desk.host.tray.supervisorGen + 1),
            (desk.turned configPath event rest).load of =
          ∑ of ∈ Finset.range (desk.host.tray.supervisorGen + 1),
            desk.load of := by
      refine Finset.sum_congr rfl fun of inRange => ?_
      have different : of ≠ desk.host.tray.supervisorGen + 1 :=
        Nat.ne_of_lt (Finset.mem_range.mp inRange)
      simp only [TrayDesk.load, feeds, Function.update_of_ne different]
    have new :
        (desk.turned configPath event rest).load
            (desk.host.tray.supervisorGen + 1) =
          4 := by
      simp only [TrayDesk.load, feeds, Function.update_self]
      rfl
    have heavy : event.weight = 5 := if_pos reloads
    simp only [work, host, pending, queue, List.map_cons, List.sum_cons]
    rw [Finset.sum_range_succ, older, new, heavy]
    omega

/-- A step of a forwarder leaves less to do. -/
private theorem work_forwarded_lt
    {generation : Nat}
    {feed after : StatusFeed}
    {events : List TrayEvent}
    (sound : desk.Sound)
    (known : desk.feeds generation = some feed)
    (stepped : feed.forward? generation = some (after, events)) :
    work
        { desk with
          feeds := Function.update desk.feeds generation (some after)
          queue := desk.queue ++ events } <
      desk.work := by
  have less := StatusFeed.work_lt_of_forward? stepped
  have member :
      generation ∈ Finset.range (desk.host.tray.supervisorGen + 1) := by
    rw [Finset.mem_range, Nat.lt_succ_iff]
    refine Nat.le_of_not_lt fun later => ?_
    rw [sound.fresh generation later] at known
    cases known
  have before := Finset.add_sum_erase _ desk.load member
  have now :=
    Finset.add_sum_erase _
      (load
        { desk with
          feeds := Function.update desk.feeds generation (some after)
          queue := desk.queue ++ events })
      member
  have others :
      ∑ of ∈
            (Finset.range (desk.host.tray.supervisorGen + 1)).erase
              generation,
          load
            { desk with
              feeds := Function.update desk.feeds generation (some after)
              queue := desk.queue ++ events } of =
        ∑ of ∈ (Finset.range (desk.host.tray.supervisorGen + 1)).erase
            generation,
          desk.load of := by
    refine Finset.sum_congr rfl fun of inRest => ?_
    simp only [load, Function.update_of_ne (Finset.ne_of_mem_erase inRest)]
  have own :
      load
          { desk with
            feeds := Function.update desk.feeds generation (some after)
            queue := desk.queue ++ events } generation =
        after.work := by
    simp only [load, Function.update_self, Option.elim_some]
  have was : desk.load generation = feed.work := by
    simp only [load, known, Option.elim_some]
  simp only [work, List.map_append, List.sum_append]
  omega

theorem work_lt_of_step?
    {fromStr : String → Option Frame}
    {configPath : String}
    {action : DeskAction}
    (sound : desk.Sound)
    (delivers : action.Delivers)
    (stepped : desk.step? fromStr configPath action = some next) :
    next.work < desk.work := by
  cases action with
  | turn =>
      simp only [step?] at stepped
      split at stepped
      · cases stepped
      · rename_i event rest queue
        cases stepped
        exact work_turned_lt configPath queue
  | feed generation action =>
      obtain ⟨feed, known, moved⟩ := Option.bind_eq_some_iff.mp stepped
      obtain ⟨⟨after, events⟩, goesOn, rfl⟩ :=
        Option.map_eq_some_iff.mp moved
      cases action with
      | forward => exact work_forwarded_lt sound known goesOn
      | _ => cases delivers
  | send event => cases delivers
  | hub action => cases delivers

/-- No event waits, and no forwarder has anything to read or to send. -/
def Settled
    (fromStr : String → Option Frame)
    (configPath : String)
    (desk : TrayDesk) : Prop :=
  ∀ action : DeskAction,
    action.Delivers → desk.step? fromStr configPath action = none

private theorem StatusFeed.Follows.latest
    {generation : Nat}
    {feed : StatusFeed}
    {delivered : List ClientStatus}
    (follows : feed.Follows delivered)
    (idle : feed.forward? generation = none) :
    delivered ≠ [] ∧ delivered.getLast? = feed.reported.getLast? := by
  have account := follows.account
  have first := follows.first
  have caughtUp :
      feed.forwarder.inHand = [] ∧
        feed.forwarder ≠ .starting ∧
        feed.watch.seen = feed.watch.version := by
    unfold StatusFeed.forward? at idle
    split at idle
    · cases idle
    · cases idle
    · rename_i waiting
      rw [waiting]
      refine ⟨rfl, by simp, ?_⟩
      unfold Watch.pollChanged at idle
      split_ifs at idle with changed
      exact not_not.mp changed
    · rename_i ended
      rw [ended]
      exact ⟨rfl, by simp, (follows.ended ended).1⟩
  obtain ⟨inHand, started, seen⟩ := caughtUp
  rw [inHand, List.append_nil] at account first
  have nonempty : delivered ≠ [] := fun empty => started (first.mpr empty)
  exact ⟨nonempty, account.getLast?_of_seen nonempty seen⟩

private theorem Settled.latest
    {fromStr : String → Option Frame}
    {configPath : String}
    {feed : StatusFeed}
    (settled : desk.Settled fromStr configPath)
    (sound : desk.Sound)
    (known : desk.feeds desk.host.tray.supervisorGen = some feed) :
    (desk.host.tray.supervisor = none ∧
        desk.host.tray.clientStatus = none) ∨
      desk.host.tray.clientStatus = feed.reported.getLast? := by
  have queue : desk.queue = [] := by
    have turn := settled .turn trivial
    simp only [step?] at turn
    split at turn
    · rename_i empty
      exact empty
    · cases turn
  have idle :
      feed.forward? desk.host.tray.supervisorGen = none := by
    have forward := settled (.feed desk.host.tray.supervisorGen .forward)
      trivial
    simpa [step?, known, StatusFeed.step?] using forward
  obtain ⟨delivered, follows, -, all⟩ := sound.delivered _ feed known
  obtain ⟨nonempty, latest⟩ := StatusFeed.Follows.latest follows idle
  have shown :
      desk.shownOf desk.host.tray.supervisorGen = delivered := by
    have everything := all rfl
    rwa [queuedOf, queue, List.filterMap_nil, List.append_nil] at everything
  refine sound.status.imp_right fun last => ?_
  rw [last, shown, ← latest, List.getLast?_cons,
    List.getLast?_eq_some_getLast nonempty, Option.getD_some]

/--
The status line becomes true.  From every reachable state, once only the
forwarders and the event loop run, the number of further steps is bounded
whatever the order in which they run, and when none is left the tray shows the
status that the transport task of its supervisor reported last.
-/
theorem status_settles
    {fromStr : String → Option Frame}
    {configPath : String}
    {initial : Option ClientConfig}
    {bind : Except String UInt16}
    {actions : List DeskAction}
    (ran :
      StepRun.run? (step? fromStr configPath)
          (start configPath initial bind) actions =
        some desk) :
    ∃ bound,
      ∀ later final,
        StepRun.run?
            (StepRun.restrict (step? fromStr configPath)
              DeskAction.Delivers)
            desk later = some final →
          later.length ≤ bound ∧
            (final.Settled fromStr configPath →
              ∀ generation,
                final.host.tray.supervisor = some generation →
                ∃ feed,
                  final.feeds generation = some feed ∧
                    final.host.tray.clientStatus =
                      feed.reported.getLast?) := by
  refine ⟨desk.work, fun later final goesOn => ?_⟩
  have bounded :=
    StepRun.run?_bounded (motive := Sound) work ?_ (sound_of_run ran) goesOn
  · obtain ⟨sound, steps⟩ := bounded
    refine ⟨(Nat.le_add_right _ _).trans steps, ?_⟩
    intro settled generation held
    obtain ⟨rfl, there⟩ := sound.held generation held
    obtain ⟨feed, known⟩ := Option.isSome_iff_exists.mp there
    refine ⟨feed, known, ?_⟩
    rcases settled.latest sound known with ⟨nothing, -⟩ | latest
    · rw [nothing] at held
      cases held
    · exact latest
  · intro state action next sound stepped
    obtain ⟨delivers, moved⟩ := StepRun.restrict_eq_some.mp stepped
    exact ⟨sound.step moved, work_lt_of_step? sound delivers moved⟩

/-- The statuses of the two supervisors settle. -/
theorem status_settles_sample :
    ∃ bound,
      ∀ later final,
        StepRun.run?
            (StepRun.restrict guestStep? DeskAction.Delivers)
            outdatedDesk later = some final →
          later.length ≤ bound ∧
            (final.Settled (fun _ => none) "config.toml" →
              ∀ generation,
                final.host.tray.supervisor = some generation →
                ∃ feed,
                  final.feeds generation = some feed ∧
                    final.host.tray.clientStatus =
                      feed.reported.getLast?) :=
  status_settles
    (show StepRun.run? guestStep? guestDesk outdated = some outdatedDesk
      from rfl)

end TrayDesk

end ClipboardWire
