import ClipboardWire.ClipboardPolls

namespace ClipboardWire

/-!
# Polling a clipboard that offers several kinds at once

File managers, browsers and spreadsheets offer the same copy as a file list,
an image or a text, in any combination.  `poll_clipboard` reports one kind at
a time, and the next poll falls through to the kinds behind it: polling such a
clipboard reports every kind that was not seen before, in the order of their
priority.
-/

/-- What the clipboard offers at once. -/
structure ClipboardOffer where
  files : Option (List Path)
  image : Option ImageBytes
  text : Option String
  deriving DecidableEq, Repr

namespace ClipboardOffer

/-- A read of a kind that may be offered. -/
def readOffered {Value : Type} : Option Value → ClipboardRead Value
  | some value => .available value
  | none => .notAvailable

/-- The reads of a poll, none of which fails. -/
def reads (offer : ClipboardOffer) : ClipboardReads where
  files := readOffered offer.files
  image := readOffered offer.image
  text := readOffered offer.text

/-- The kinds that are present, by priority; an empty file list is no kind. -/
def kinds (offer : ClipboardOffer) : List ClipChange :=
  (offer.files.filter (· ≠ [])).toList.map .files ++
    (offer.image.toList.map .image ++ offer.text.toList.map .text)

/-- What a number of polls reports in total while the offer stays. -/
def reports (offer : ClipboardOffer) : Nat → Trackers → List ClipChange
  | 0, _ =>
      []
  | polls + 1, seen =>
      let (reported, after) := pollClipboard offer.reads seen
      reported.toList ++ offer.reports polls after

/-- The kinds that are not the last ones seen. -/
def unseen (offer : ClipboardOffer) (seen : Trackers) : List ClipChange :=
  offer.kinds.filter fun kind => ¬ seen.SeenLast kind

/-- A text that is not the last one seen. -/
def newText (text : Option String) (seen : Trackers) : Option String :=
  text.filter fun content => seen.lastText ≠ some content

/-- The kinds that are not known, one by one. -/
theorem unseen_eq (offer : ClipboardOffer) (seen : Trackers) :
    offer.unseen seen =
      (newFiles (readOffered offer.files) seen).toList.map .files ++
        ((newImage (readOffered offer.image) seen).toList.map .image ++
          (newText offer.text seen).toList.map .text) := by
  have files :
      ((offer.files.filter (· ≠ [])).toList.map ClipChange.files).filter
          (fun kind => ¬ seen.SeenLast kind) =
        (newFiles (readOffered offer.files) seen).toList.map .files := by
    cases offer.files with
    | none =>
        rfl
    | some paths =>
        by_cases empty : paths = [] <;>
          by_cases known : seen.lastFiles = some paths <;>
            simp [newFiles, readOffered, Trackers.SeenLast, Option.filter,
              empty, known]
  have image :
      (offer.image.toList.map ClipChange.image).filter
          (fun kind => ¬ seen.SeenLast kind) =
        (newImage (readOffered offer.image) seen).toList.map .image := by
    cases offer.image with
    | none =>
        rfl
    | some pixels =>
        by_cases known : seen.lastImage = some pixels <;>
          simp [newImage, readOffered, Trackers.SeenLast, known]
  have text :
      (offer.text.toList.map ClipChange.text).filter
          (fun kind => ¬ seen.SeenLast kind) =
        (newText offer.text seen).toList.map .text := by
    cases offer.text with
    | none =>
        rfl
    | some content =>
        by_cases known : seen.lastText = some content <;>
          simp [newText, Option.filter, Trackers.SeenLast, known]
  rw [unseen, kinds, List.filter_append, List.filter_append, files, image,
    text]

theorem newFiles_congr
    {read : ClipboardRead (List Path)}
    {seen other : Trackers}
    (same : other.lastFiles = seen.lastFiles) :
    newFiles read other = newFiles read seen := by
  simp only [newFiles, same]

theorem newImage_congr
    {read : ClipboardRead ImageBytes}
    {seen other : Trackers}
    (same : other.lastImage = seen.lastImage) :
    newImage read other = newImage read seen := by
  simp only [newImage, same]

/-- Files that were reported are not new a second time. -/
theorem newFiles_saw
    {read : ClipboardRead (List Path)}
    {seen : Trackers}
    {paths : List Path}
    (isNew : newFiles read seen = some paths) :
    newFiles read (seen.saw (.files paths)) = none := by
  unfold newFiles at isNew ⊢
  cases read with
  | available found =>
      simp only at isNew ⊢
      split at isNew
      · cases isNew
        simp [Trackers.saw]
      · cases isNew
  | notAvailable => rfl
  | failed reason => rfl

/-- An image that was reported is not new a second time. -/
theorem newImage_saw
    {read : ClipboardRead ImageBytes}
    {seen : Trackers}
    {image : ImageBytes}
    (isNew : newImage read seen = some image) :
    newImage read (seen.saw (.image image)) = none := by
  unfold newImage at isNew ⊢
  cases read with
  | available found =>
      simp only at isNew ⊢
      split at isNew
      · cases isNew
        simp [Trackers.saw]
      · cases isNew
  | notAvailable => rfl
  | failed reason => rfl

/-- The text part of a poll, for a text that may be offered. -/
theorem pollText_readOffered (text : Option String) (seen : Trackers) :
    (pollText (readOffered text) seen).1 = (newText text seen).map .text ∧
      newText text (pollText (readOffered text) seen).2 = none ∧
      (pollText (readOffered text) seen).2.lastImage = seen.lastImage ∧
      (pollText (readOffered text) seen).2.lastFiles = seen.lastFiles := by
  cases text with
  | none =>
      exact ⟨rfl, rfl, rfl, rfl⟩
  | some content =>
      by_cases known : seen.lastText = some content <;>
        simp [pollText, readOffered, newText, Option.filter, Trackers.saw,
          known]

/-- A poll reports the first kind that is not known and makes it known. -/
theorem pollClipboard_reads (offer : ClipboardOffer) (seen : Trackers) :
    (pollClipboard offer.reads seen).1 = (offer.unseen seen).head? ∧
      offer.unseen (pollClipboard offer.reads seen).2 =
        (offer.unseen seen).tail := by
  simp only [unseen_eq, pollClipboard, reads]
  cases files : newFiles (readOffered offer.files) seen with
  | some paths =>
      have known := newFiles_saw files
      simp only [known]
      exact ⟨rfl, rfl⟩
  | none =>
      cases image : newImage (readOffered offer.image) seen with
      | some pixels =>
          have known := newImage_saw image
          have same :
              newFiles (readOffered offer.files)
                  (seen.saw (.image pixels)) = none :=
            files
          simp only [known, same]
          exact ⟨rfl, rfl⟩
      | none =>
          obtain ⟨reported, known, sameImage, sameFiles⟩ :=
            pollText_readOffered offer.text seen
          simp only [reported, known, newImage_congr sameImage,
            newFiles_congr sameFiles, files, image]
          cases newText offer.text seen with
          | none => exact ⟨rfl, rfl⟩
          | some content => exact ⟨rfl, rfl⟩

/-- A number of polls reports the kinds that are not known, one a poll. -/
theorem reports_eq (offer : ClipboardOffer) (polls : Nat) (seen : Trackers) :
    offer.reports polls seen = (offer.unseen seen).take polls := by
  induction polls generalizing seen with
  | zero =>
      rfl
  | succ polls inductionHypothesis =>
      obtain ⟨reported, after⟩ := pollClipboard_reads offer seen
      simp only [reports]
      rw [inductionHypothesis, reported, after]
      cases offer.unseen seen with
      | nil => simp
      | cons kind rest => simp

/-- The kinds of an offer are different from each other. -/
theorem nodup_kinds (offer : ClipboardOffer) : offer.kinds.Nodup := by
  rw [kinds]
  cases offer.files.filter (· ≠ []) <;> cases offer.image <;>
    cases offer.text <;> simp

/-- One copy is reported once at most, as the first of its kinds. -/
def ReportedOnce (offer : ClipboardOffer) (seen : Trackers) : Prop :=
  ∀ polls,
    (offer.reports polls seen).length ≤ 1 ∧
      ∀ change ∈ offer.reports polls seen,
        offer.kinds.head? = some change

/--
However often the clipboard is polled, a copy is reported once at most and as
its first kind, exactly when each of the other kinds that it offers is the
content of that kind that was seen last.
-/
theorem reportedOnce_iff (offer : ClipboardOffer) (seen : Trackers) :
    offer.ReportedOnce seen ↔
      ∀ kind ∈ offer.kinds.tail, seen.SeenLast kind := by
  have distinct := offer.nodup_kinds
  cases kinds : offer.kinds with
  | nil =>
      simp [ReportedOnce, reports_eq, unseen, kinds]
  | cons first others =>
      rw [kinds, List.nodup_cons] at distinct
      simp only [List.tail_cons]
      constructor
      · intro once kind member
        by_contra notKnown
        obtain ⟨-, isFirst⟩ := once offer.kinds.length
        have reported : kind ∈ offer.reports offer.kinds.length seen := by
          rw [reports_eq, unseen,
            List.take_of_length_le (List.length_filter_le _ offer.kinds)]
          simp [kinds, member, notKnown]
        have same := isFirst kind reported
        rw [kinds, List.head?_cons, Option.some.injEq] at same
        exact distinct.1 (same ▸ member)
      · intro known polls
        have others :
            others.filter (fun kind => ¬ seen.SeenLast kind) = [] := by
          rw [List.filter_eq_nil_iff]
          intro kind member
          simp [known kind member]
        rw [reports_eq, unseen, kinds, List.filter_cons, others]
        split
        · exact
            ⟨List.length_take_le' polls [first],
              fun change member => by
                have isFirst := List.mem_of_mem_take member
                simp_all⟩
        · simp

/-- A file manager offers the copied files also as a text. -/
def copiedFile : ClipboardOffer where
  files := some [⟨["home", "alice", "notes.txt"]⟩]
  image := none
  text := some "/home/alice/notes.txt"

/-- Two polls report the one copy twice, the second time as a text. -/
theorem copiedFile_reportedTwice :
    ¬ ∀ (offer : ClipboardOffer) (seen : Trackers),
        offer.ReportedOnce seen := by
  intro always
  have once := (always copiedFile .fresh 2).1
  exact absurd once (by decide)

end ClipboardOffer

end ClipboardWire
