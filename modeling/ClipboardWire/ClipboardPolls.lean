import ClipboardWire.ClientClipboard
import ClipboardWire.StepRun

namespace ClipboardWire

/-!
# What polling the clipboard reports

Polls of the clipboard thread of `core/src/client/clipboard.rs` against an
operating system that holds one kind of content at a time.  Local copies,
writes of `apply_change` and polls come in any order, and any read of a poll
may fail for the moment.  What a poll reports is compared with who put the
content there, and with what the poll before it had found.
-/

/-- Which reads of a poll fail for the moment. -/
structure ReadFailures where
  files : Bool
  image : Bool
  text : Bool
  deriving DecidableEq, Repr

/-- The reads of a poll, some of which may fail. -/
def readsWith
    (failures : ReadFailures)
    (clipboard : Option ClipChange) :
    ClipboardReads where
  files :=
    if failures.files then .failed "" else (readsOf clipboard).files
  image :=
    if failures.image then .failed "" else (readsOf clipboard).image
  text :=
    if failures.text then .failed "" else (readsOf clipboard).text

/-- No read fails. -/
def ReadFailures.never : ReadFailures :=
  ⟨false, false, false⟩

/-- When no read fails, the reads are those of the clipboard. -/
theorem readsWith_never (clipboard : Option ClipChange) :
    readsWith .never clipboard = readsOf clipboard := by
  rfl

/-- A read that shows something has not failed. -/
private theorem of_available
    {Value : Type}
    {fails : Bool}
    {read : ClipboardRead Value}
    {value : Value}
    (shown :
      (if fails then .failed "" else read) = ClipboardRead.available value) :
    read = .available value := by
  split at shown
  · cases shown
  · exact shown

/-- What the clipboard shows is on it. -/
private theorem clipboard_of_readsOf (clipboard : Option ClipChange) :
    (∀ paths,
        (readsOf clipboard).files = .available paths →
          clipboard = some (.files paths)) ∧
      (∀ image,
        (readsOf clipboard).image = .available image →
          clipboard = some (.image image)) ∧
      ∀ text,
        (readsOf clipboard).text = .available text →
          clipboard = some (.text text) := by
  cases clipboard with
  | none =>
      simp [readsOf]
  | some change =>
      cases change <;> simp [readsOf]

/-- What a read shows is on the clipboard. -/
private theorem clipboard_of_readsWith
    {failures : ReadFailures}
    {clipboard : Option ClipChange} :
    (∀ paths,
        (readsWith failures clipboard).files = .available paths →
          clipboard = some (.files paths)) ∧
      (∀ image,
        (readsWith failures clipboard).image = .available image →
          clipboard = some (.image image)) ∧
      ∀ text,
        (readsWith failures clipboard).text = .available text →
          clipboard = some (.text text) := by
  obtain ⟨ofFiles, ofImage, ofText⟩ := clipboard_of_readsOf clipboard
  refine ⟨?_, ?_, ?_⟩
  · intro paths shown
    exact ofFiles paths (of_available shown)
  · intro image shown
    exact ofImage image (of_available shown)
  · intro text shown
    exact ofText text (of_available shown)

/-- A poll only reports what is on the clipboard. -/
theorem clipboard_of_pollClipboard
    {failures : ReadFailures}
    {clipboard : Option ClipChange}
    {seen : Trackers}
    {change : ClipChange}
    (reported :
      (pollClipboard (readsWith failures clipboard) seen).1 = some change) :
    clipboard = some change := by
  obtain ⟨ofFiles, ofImage, ofText⟩ :=
    @clipboard_of_readsWith failures clipboard
  unfold pollClipboard at reported
  split at reported
  · rename_i paths isNew
    cases reported
    unfold newFiles at isNew
    split at isNew
    · rename_i read
      split at isNew
      · cases isNew
        exact ofFiles paths read
      · cases isNew
    · cases isNew
    · cases isNew
  · split at reported
    · rename_i image isNew
      cases reported
      unfold newImage at isNew
      split at isNew
      · rename_i read
        split at isNew
        · cases isNew
          exact ofImage image read
        · cases isNew
      · cases isNew
      · cases isNew
    · unfold pollText at reported
      split at reported
      · rename_i text read
        split at reported
        · cases reported
          exact ofText text read
        · cases reported
      · cases reported
      · cases reported

/-- The content is the value of its kind that was seen last. -/
def Trackers.SeenLast (seen : Trackers) : ClipChange → Prop
  | .text content => seen.lastText = some content
  | .image image => seen.lastImage = some image
  | .files paths => seen.lastFiles = some paths

instance (seen : Trackers) : DecidablePred seen.SeenLast
  | .text content =>
      inferInstanceAs (Decidable (seen.lastText = some content))
  | .image image =>
      inferInstanceAs (Decidable (seen.lastImage = some image))
  | .files paths =>
      inferInstanceAs (Decidable (seen.lastFiles = some paths))

/-- A value that was just seen is the last one of its kind. -/
theorem seenLast_saw (seen : Trackers) (change : ClipChange) :
    (seen.saw change).SeenLast change := by
  cases change <;> rfl

/--
Content that was seen last is not reported, whatever reads fail, and stays the
content that was seen last.
-/
theorem pollClipboard_of_seenLast
    {failures : ReadFailures}
    {content : ClipChange}
    {seen : Trackers}
    (known : seen.SeenLast content) :
    (pollClipboard (readsWith failures (some content)) seen).1 = none ∧
      (pollClipboard (readsWith failures (some content)) seen).2.SeenLast
        content := by
  rcases failures with ⟨files, image, text⟩
  cases content with
  | text content =>
      rw [Trackers.SeenLast] at known
      cases files <;> cases image <;> cases text <;>
        simp [pollClipboard, newFiles, newImage, pollText, readsWith, readsOf,
          Trackers.SeenLast, known]
  | image pixels =>
      rw [Trackers.SeenLast] at known
      cases files <;> cases image <;> cases text <;>
        simp [pollClipboard, newFiles, newImage, pollText, readsWith, readsOf,
          Trackers.SeenLast, known]
  | files paths =>
      rw [Trackers.SeenLast] at known
      cases files <;> cases image <;> cases text <;>
        simp [pollClipboard, newFiles, newImage, pollText, readsWith, readsOf,
          Trackers.SeenLast, known]

/-- A poll whose reads succeed reports content that was not seen last. -/
theorem pollClipboard_eq_some_iff
    {content : ClipChange}
    {seen : Trackers} :
    (pollClipboard (readsOf (some content)) seen).1 = some content ↔
      content ≠ .files [] ∧ ¬ seen.SeenLast content := by
  cases content with
  | text content =>
      by_cases known : seen.lastText = some content <;>
        simp [pollClipboard, newFiles, newImage, pollText, readsOf,
          Trackers.SeenLast, known]
  | image pixels =>
      by_cases known : seen.lastImage = some pixels <;>
        simp [pollClipboard, newFiles, newImage, pollText, readsOf,
          Trackers.SeenLast, known]
  | files paths =>
      by_cases known : seen.lastFiles = some paths <;>
        by_cases empty : paths = [] <;>
          simp [pollClipboard, newFiles, newImage, pollText, readsOf,
            Trackers.SeenLast, known, empty]

/-! ## Runs of the clipboard thread -/

/-- Who put the content on the clipboard. -/
inductive Origin where
  | user
  | applied
  deriving DecidableEq, Repr

/-- The clipboard of the system, with the origin of what it holds. -/
structure HeldContent where
  content : ClipChange
  origin : Origin
  deriving DecidableEq, Repr

/-- The clipboard and the trackers of the thread that watches it. -/
structure ClipboardThread where
  held : Option HeldContent
  seen : Trackers
  /-- What the last poll found, unless something was written since. -/
  found : Option (Option ClipChange)
  deriving DecidableEq, Repr

/-- What can happen to the clipboard. -/
inductive ClipboardAction where
  | copy (content : ClipChange)
  /--
  `apply_change` whose write succeeds.  The supervisor asks for no empty list
  (`Client.writes_of_run`).
  -/
  | apply (change : ClipChange) (writes : change ≠ .files [])
  | poll (failures : ReadFailures)
  deriving DecidableEq, Repr

namespace ClipboardThread

/-- A thread that starts; what is on the clipboard was copied by the user. -/
def start
    (content : Option ClipChange)
    (seen : Trackers) :
    ClipboardThread where
  held := content.map fun copied => ⟨copied, .user⟩
  seen := seen
  found := none

/-- What a read returns when it succeeds. -/
def content (thread : ClipboardThread) : Option ClipChange :=
  thread.held.map HeldContent.content

/-- What a poll reports, and the trackers after it. -/
def poll (thread : ClipboardThread) (failures : ReadFailures) :
    Option ClipChange × Trackers :=
  pollClipboard (readsWith failures thread.content) thread.seen

/-- One step; every action is always possible. -/
def step?
    (thread : ClipboardThread) :
    ClipboardAction → Option ClipboardThread
  | .copy content =>
      some { thread with held := some ⟨content, .user⟩ }
  | .apply change _ =>
      let (written, seen) :=
        applyChange none change thread.content thread.seen
      some
        { held := written.map fun content => ⟨content, .applied⟩
          seen := seen
          found := none }
  | .poll failures =>
      some
        { thread with
          seen := (thread.poll failures).2
          found := some thread.content }

/-- What `apply_change` wrote is the content that was seen last. -/
def Suppressed (thread : ClipboardThread) : Prop :=
  ∀ change,
    thread.held = some ⟨change, .applied⟩ →
      thread.seen.SeenLast change

theorem Suppressed.step
    {thread next : ClipboardThread}
    {action : ClipboardAction}
    (suppressed : thread.Suppressed)
    (stepped : thread.step? action = some next) :
    next.Suppressed := by
  intro change isHeld
  cases action with
  | copy content =>
      cases stepped
      cases isHeld
  | apply applied writes =>
      cases stepped
      simp only [ClipChange.writtenOver_of_ne writes, Option.map_some,
        Option.some.injEq, HeldContent.mk.injEq, and_true] at isHeld
      subst isHeld
      exact seenLast_saw thread.seen applied
  | poll failures =>
      cases stepped
      have known := suppressed change isHeld
      have content : thread.content = some change := by
        rw [ClipboardThread.content, isHeld]
        rfl
      simp only [poll, content]
      exact (pollClipboard_of_seenLast known).2

theorem suppressed_of_run
    {content : Option ClipChange}
    {seen : Trackers}
    {actions : List ClipboardAction}
    {thread : ClipboardThread}
    (ran : StepRun.run? step? (start content seen) actions = some thread) :
    thread.Suppressed := by
  refine StepRun.run?_invariant ?_ Suppressed.step ran
  intro change isHeld
  cases content <;> cases isHeld

/--
A poll reports only what the user copied, however the copies, the writes and
the polls before it were ordered and whatever reads failed.
-/
theorem reported_was_copied
    {content : Option ClipChange}
    {seen : Trackers}
    {actions : List ClipboardAction}
    {thread : ClipboardThread}
    {failures : ReadFailures}
    {change : ClipChange}
    (ran : StepRun.run? step? (start content seen) actions = some thread)
    (reported : (thread.poll failures).1 = some change) :
    thread.held = some ⟨change, .user⟩ := by
  have current : thread.content = some change :=
    clipboard_of_pollClipboard reported
  rw [ClipboardThread.content, Option.map_eq_some_iff] at current
  obtain ⟨⟨held, origin⟩, isHeld, rfl⟩ := current
  cases origin with
  | user =>
      exact isHeld
  | applied =>
      have known := suppressed_of_run ran held isHeld
      have silent :
          (pollClipboard (readsWith failures (some held)) thread.seen).1 =
            none :=
        (pollClipboard_of_seenLast known).1
      simp [poll, ClipboardThread.content, isHeld, silent] at reported

/-- A text is written and polled, then the user copies another one. -/
def writtenThenCopied : List ClipboardAction :=
  [.apply (.text "from the hub") (by simp), .poll .never,
    .copy (.text "local")]

/-- The thread after that. -/
def threadAfterCopy : ClipboardThread where
  held := some ⟨.text "local", .user⟩
  seen := ⟨some "from the hub", none, none⟩
  found := some (some (.text "from the hub"))

/-- What the next poll reports is the copy. -/
theorem threadAfterCopy_reported :
    threadAfterCopy.held = some ⟨.text "local", .user⟩ := by
  have ran :
      StepRun.run? step? (start none .fresh) writtenThenCopied =
        some threadAfterCopy := by
    rfl
  have reported :
      (threadAfterCopy.poll ⟨true, true, false⟩).1 =
        some (.text "local") := by
    rfl
  exact reported_was_copied ran reported

/-! ## What a poll misses -/

/--
What a poll finds, when it differs from what the poll before it found and
nothing was written in between.
-/
def newContent? (thread : ClipboardThread) : Option ClipChange :=
  match thread.found with
  | none => none
  | some before => if thread.content = before then none else thread.content

/-- A poll whose reads succeed reports the content that is new to it. -/
def ReportsNew (thread : ClipboardThread) : ClipboardAction → Prop
  | .poll failures =>
      failures = .never →
        ∀ content,
          thread.newContent? = some content →
            (thread.poll failures).1 = some content
  | .copy _ | .apply _ _ =>
      True

/--
What a poll finds to be new is no empty file list, and it is not the content
of its kind that was seen last.
-/
def NewIsUnseen (thread : ClipboardThread) : ClipboardAction → Prop
  | .poll failures =>
      failures = .never →
        ∀ content,
          thread.newContent? = some content →
            content ≠ .files [] ∧ ¬ thread.seen.SeenLast content
  | .copy _ | .apply _ _ =>
      True

/-- What is new to a poll is on the clipboard. -/
theorem content_of_newContent?
    {thread : ClipboardThread}
    {content : ClipChange}
    (isNew : thread.newContent? = some content) :
    thread.content = some content := by
  unfold newContent? at isNew
  split at isNew
  · cases isNew
  · split at isNew
    · cases isNew
    · exact isNew

/-- A poll reports what is new exactly when it was not the last of its kind. -/
theorem reportsNew_iff
    {thread : ClipboardThread}
    {action : ClipboardAction} :
    thread.ReportsNew action ↔ thread.NewIsUnseen action := by
  cases action with
  | copy content =>
      rfl
  | apply change writes =>
      rfl
  | poll failures =>
      apply imp_congr_right
      rintro rfl
      apply forall_congr'
      intro content
      apply imp_congr_right
      intro isNew
      rw [poll, content_of_newContent? isNew, readsWith_never,
        pollClipboard_eq_some_iff]

/--
Every poll of a run reports the content that is new to it exactly when, in no
poll of the run, the new content is an empty file list or the content of its
kind that was seen last.
-/
theorem reports_copies_iff
    (content : Option ClipChange)
    (seen : Trackers)
    (actions : List ClipboardAction) :
    StepRun.Along step? ReportsNew (start content seen) actions ↔
      StepRun.Along step? NewIsUnseen (start content seen) actions :=
  StepRun.Along.congr fun _ _ => reportsNew_iff

/-- An image of one pixel. -/
def samplePixel : ImageBytes :=
  ⟨1, 1, [255, 0, 0, 255]⟩

/-- The same image is copied before and after a text, with a poll each time. -/
def copiedAgain : List ClipboardAction :=
  [.copy (.image samplePixel), .poll .never, .copy (.text "caption"),
    .poll .never, .copy (.image samplePixel), .poll .never]

/-- The second copy of the image is missed. -/
theorem copiedAgain_missed :
    ¬ ∀ (content : Option ClipChange) (seen : Trackers)
        (actions : List ClipboardAction),
        StepRun.Along step? ReportsNew (start content seen) actions := by
  intro always
  have within : copiedAgain.take 5 ++ [.poll .never] <+: copiedAgain :=
    List.prefix_refl copiedAgain
  have last := (always none .fresh copiedAgain).meets within rfl
  exact absurd (last rfl (.image samplePixel) rfl) (by decide)

end ClipboardThread

end ClipboardWire
