import ClipboardWire.CertificatePem
import ClipboardWire.StepRun

namespace ClipboardWire

/-!
# The self-signed certificate over crashes

`ensure_self_signed_cert` and `write_file_with_mode` of
`core/src/server/tls.rs`, called again and again over one state directory.
A call may be cut off by a crash or by an error of the system.  The two files
are written in place, one after the other, and the next call asks only whether
both of them exist.
-/

/-- `CertifiedKey`: a certificate with its key, as they are written. -/
structure CertifiedKey where
  der : List UInt8
  certPem : String
  keyPem : List UInt8
  isPem : IsCertificatePem der certPem

/-- A file of the state directory. -/
structure StoredFile where
  /-- The pair that it was written for. -/
  origin : Nat
  bytes : List UInt8
  deriving DecidableEq

/-- `state_dir`, with every pair that was ever generated. -/
structure StateDir where
  generated : List CertifiedKey
  cert : Option StoredFile
  key : Option StoredFile

/-- Where a call is cut off. -/
inductive CutOff where
  /-- Before it creates the certificate file, or while it reads one. -/
  | early
  /-- After it has created the certificate file and written some of it. -/
  | insideCert (written : Nat)
  /-- After it has created the key file and written some of it. -/
  | insideKey (written : Nat)
  deriving DecidableEq

/-- A call, with the pair that it generates if it has to. -/
structure CertCall where
  cutOff : Option CutOff
  fresh : CertifiedKey

/-- What a call returns besides the two paths. -/
structure EnsuredCert where
  fingerprintSha256 : String
  wasNew : Bool
  deriving DecidableEq

namespace StateDir

/-- The directory in front of the first call. -/
def initial (pair : CertifiedKey) (hasCert hasKey : Bool) : StateDir where
  generated := [pair]
  cert := if hasCert then some ⟨0, asBytes pair.certPem⟩ else none
  key := if hasKey then some ⟨0, pair.keyPem⟩ else none

variable (sha256 : List UInt8 → List UInt8)

/-- The part of a call that generates and writes a pair. -/
def generate
    (dir : StateDir)
    (call : CertCall) : StateDir × Option EnsuredCert :=
  let origin := dir.generated.length
  let made := { dir with generated := dir.generated ++ [call.fresh] }
  let certBytes := asBytes call.fresh.certPem
  match call.cutOff with
  | some .early =>
      (dir, none)
  | some (.insideCert written) =>
      ({ made with cert := some ⟨origin, certBytes.take written⟩ }, none)
  | some (.insideKey written) =>
      ({ made with
          cert := some ⟨origin, certBytes⟩
          key := some ⟨origin, call.fresh.keyPem.take written⟩ },
        none)
  | none =>
      ({ made with
          cert := some ⟨origin, certBytes⟩
          key := some ⟨origin, call.fresh.keyPem⟩ },
        some ⟨fingerprintOfDer sha256 call.fresh.der, true⟩)

/-- `ensure_self_signed_cert`; a call that is cut off returns nothing. -/
def ensureSelfSignedCert
    (dir : StateDir)
    (call : CertCall) : StateDir × Option EnsuredCert :=
  match dir.cert, dir.key with
  | some cert, some _ =>
      match call.cutOff with
      | some _ =>
          (dir, none)
      | none =>
          match fingerprintOfPem sha256 cert.bytes with
          | .ok fingerprint => (dir, some ⟨fingerprint, false⟩)
          | .error _ => (dir, none)
  | _, _ =>
      dir.generate sha256 call

/-- A call as a step. -/
def step? (dir : StateDir) (call : CertCall) : Option StateDir :=
  some (dir.ensureSelfSignedCert sha256 call).1

/-- A complete certificate and a complete key of one pair are there. -/
def HasPair (dir : StateDir) : Prop :=
  ∃ (origin : Nat) (pair : CertifiedKey),
    dir.generated[origin]? = some pair ∧
      dir.cert = some ⟨origin, asBytes pair.certPem⟩ ∧
      dir.key = some ⟨origin, pair.keyPem⟩

/-- A call that returns `Ok` leaves a pair. -/
def LeavesPair (dir : StateDir) (call : CertCall) : Prop :=
  (dir.ensureSelfSignedCert sha256 call).2.isSome = true →
    (dir.ensureSelfSignedCert sha256 call).1.HasPair

/-- A certificate file that the hub would use. -/
def IsReadable (bytes : List UInt8) : Prop :=
  (firstPemBlockToDer bytes).toOption.isSome = true

/--
A call that has to generate is not cut off while a key is there that is not
the complete one of the certificate, unless that is unreadable as well.
-/
def CutsNoPair (dir : StateDir) (call : CertCall) : Prop :=
  (dir.cert.isSome = true ∧ dir.key.isSome = true) ∨
    match call.cutOff with
    | none | some .early =>
        True
    | some (.insideCert written) =>
        dir.key = none ∨
          ¬ IsReadable ((asBytes call.fresh.certPem).take written)
    | some (.insideKey written) =>
        call.fresh.keyPem.length ≤ written

/-- The next call will not use anything but a pair. -/
def IsSound (dir : StateDir) : Prop :=
  ∀ cert key,
    dir.cert = some cert →
    dir.key = some key →
    IsReadable cert.bytes →
    dir.HasPair

/-- No file is of a pair that is still to come. -/
def IsNumbered (dir : StateDir) : Prop :=
  ∀ key, dir.key = some key → key.origin < dir.generated.length

variable {sha256 : List UInt8 → List UInt8}
  {dir : StateDir} {call : CertCall}

/-- With both files there, a call changes nothing. -/
theorem ensure_of_both
    (hasCert : dir.cert.isSome = true)
    (hasKey : dir.key.isSome = true) :
    (dir.ensureSelfSignedCert sha256 call).1 = dir := by
  obtain ⟨cert, isCert⟩ := Option.isSome_iff_exists.mp hasCert
  obtain ⟨key, isKey⟩ := Option.isSome_iff_exists.mp hasKey
  unfold ensureSelfSignedCert
  rw [isCert, isKey]
  dsimp only
  split
  · rfl
  · split <;> rfl

/-- With a file missing, a call generates. -/
theorem ensure_of_missing
    (missing : ¬ (dir.cert.isSome = true ∧ dir.key.isSome = true)) :
    dir.ensureSelfSignedCert sha256 call = dir.generate sha256 call := by
  unfold ensureSelfSignedCert
  split
  · rename_i isCert isKey
    exact (missing (by simp [isCert, isKey])).elim
  · rfl

/-- The certificate of a pair is readable. -/
theorem isReadable_certPem (pair : CertifiedKey) :
    IsReadable (asBytes pair.certPem) := by
  rw [IsReadable, firstPemBlockToDer_of_isCertificatePem pair.isPem]
  rfl

/-- With both files there, a call returns `Ok` if it can read the one. -/
theorem isSome_ensure_of_both
    {cert key : StoredFile}
    (isCert : dir.cert = some cert)
    (isKey : dir.key = some key) :
    (dir.ensureSelfSignedCert sha256 call).2.isSome = true ↔
      call.cutOff = none ∧ IsReadable cert.bytes := by
  unfold ensureSelfSignedCert IsReadable fingerprintOfPem
  rw [isCert, isKey]
  cases call.cutOff with
  | some cutOff =>
      simp
  | none =>
      cases read : firstPemBlockToDer cert.bytes <;>
        simp [read, Except.map, Except.toOption]

/-- A call that is not cut off leaves the pair that it generates. -/
theorem hasPair_generate (finishes : call.cutOff = none) :
    (dir.generate sha256 call).1.HasPair := by
  refine ⟨dir.generated.length, call.fresh, ?_, ?_, ?_⟩ <;>
    simp [generate, finishes]

/-- A pair is used by the next call. -/
theorem HasPair.isSound (hasPair : dir.HasPair) : dir.IsSound :=
  fun _ _ _ _ _ => hasPair

/-- From a sound directory a call that returns `Ok` leaves a pair. -/
theorem IsSound.leavesPair
    (sound : dir.IsSound)
    (call : CertCall) :
    dir.LeavesPair sha256 call := by
  intro returns
  by_cases both : dir.cert.isSome = true ∧ dir.key.isSome = true
  · obtain ⟨cert, isCert⟩ := Option.isSome_iff_exists.mp both.1
    obtain ⟨key, isKey⟩ := Option.isSome_iff_exists.mp both.2
    rw [ensure_of_both both.1 both.2]
    exact sound cert key isCert isKey
      ((isSome_ensure_of_both isCert isKey).mp returns).2
  · rw [ensure_of_missing both] at returns ⊢
    refine hasPair_generate ?_
    unfold generate at returns
    split at returns
    · cases returns
    · cases returns
    · cases returns
    · assumption

/-- A directory that is not sound has both files. -/
theorem both_of_not_isSound (unsound : ¬ dir.IsSound) :
    dir.cert.isSome = true ∧ dir.key.isSome = true := by
  simp only [IsSound, not_forall] at unsound
  obtain ⟨cert, key, isCert, isKey, -⟩ := unsound
  exact ⟨by rw [isCert]; rfl, by rw [isKey]; rfl⟩

/-- The next call that is not cut off shows that a directory is not sound. -/
theorem not_leavesPair_of_not_isSound
    (unsound : ¬ dir.IsSound)
    (finishes : call.cutOff = none) :
    ¬ dir.LeavesPair sha256 call := by
  have both := both_of_not_isSound unsound
  simp only [IsSound, not_forall] at unsound
  obtain ⟨cert, key, isCert, isKey, readable, noPair⟩ := unsound
  intro leaves
  have left := leaves
    ((isSome_ensure_of_both isCert isKey).mpr ⟨finishes, readable⟩)
  rw [ensure_of_both both.1 both.2] at left
  exact noPair left

/-- A call that is cut off while it writes the certificate. -/
theorem isSound_insideCert_iff
    {written : Nat}
    (numbered : dir.IsNumbered)
    (cutOff : call.cutOff = some (.insideCert written)) :
    (dir.generate sha256 call).1.IsSound ↔
      dir.key = none ∨
        ¬ IsReadable ((asBytes call.fresh.certPem).take written) := by
  simp only [generate, cutOff]
  constructor
  · intro sound
    by_contra neither
    rw [not_or, not_not] at neither
    obtain ⟨key, isKey⟩ := Option.ne_none_iff_exists'.mp neither.1
    obtain ⟨origin, pair, -, isCert, isKey'⟩ :=
      sound _ key rfl isKey neither.2
    have sameCert : origin = dir.generated.length := by
      simpa using congrArg StoredFile.origin (Option.some.inj isCert).symm
    have sameKey : key.origin = origin := by
      rw [isKey] at isKey'
      exact congrArg StoredFile.origin (Option.some.inj isKey')
    have earlier := numbered key isKey
    omega
  · rintro (missing | unreadable) cert key isCert isKey readable
    · rw [missing] at isKey
      cases isKey
    · cases isCert
      exact (unreadable readable).elim

/-- A call that is cut off while it writes the key. -/
theorem isSound_insideKey_iff
    {written : Nat}
    (cutOff : call.cutOff = some (.insideKey written)) :
    (dir.generate sha256 call).1.IsSound ↔
      call.fresh.keyPem.length ≤ written := by
  simp only [generate, cutOff]
  constructor
  · intro sound
    obtain ⟨origin, pair, isPair, isCert, isKey⟩ :=
      sound _ _ rfl rfl (isReadable_certPem call.fresh)
    have same : origin = dir.generated.length := by
      simpa using congrArg StoredFile.origin (Option.some.inj isCert).symm
    have isFresh : pair = call.fresh := by
      simpa [same] using isPair.symm
    have whole : call.fresh.keyPem.take written = call.fresh.keyPem := by
      have bytes := congrArg StoredFile.bytes (Option.some.inj isKey)
      rwa [isFresh] at bytes
    exact List.take_eq_self_iff _ |>.mp whole
  · intro whole
    refine HasPair.isSound ⟨dir.generated.length, call.fresh, ?_, rfl, ?_⟩
    · simp
    · simp [List.take_of_length_le whole]

/-- A call keeps a directory sound exactly if it leaves no part of a pair. -/
theorem isSound_ensure_iff
    (sound : dir.IsSound)
    (numbered : dir.IsNumbered) :
    (dir.ensureSelfSignedCert sha256 call).1.IsSound ↔
      dir.CutsNoPair call := by
  by_cases both : dir.cert.isSome = true ∧ dir.key.isSome = true
  · rw [ensure_of_both both.1 both.2]
    exact iff_of_true sound (.inl both)
  · rw [ensure_of_missing both, CutsNoPair, or_iff_right both]
    cases cutOff : call.cutOff with
    | none =>
        exact iff_of_true (hasPair_generate cutOff).isSound trivial
    | some cut =>
        cases cut with
        | early =>
            refine iff_of_true ?_ trivial
            simpa only [generate, cutOff] using sound
        | insideCert written =>
            exact isSound_insideCert_iff numbered cutOff
        | insideKey written =>
            exact isSound_insideKey_iff cutOff

/-- A call numbers its pair behind the others. -/
theorem IsNumbered.ensure
    (numbered : dir.IsNumbered)
    (call : CertCall) :
    (dir.ensureSelfSignedCert sha256 call).1.IsNumbered := by
  by_cases both : dir.cert.isSome = true ∧ dir.key.isSome = true
  · rwa [ensure_of_both both.1 both.2]
  · rw [ensure_of_missing both]
    intro key isKey
    unfold generate at isKey ⊢
    split at isKey <;> simp only [List.length_append, List.length_singleton]
      at isKey ⊢
    · exact numbered key isKey
    · exact Nat.lt_succ_of_lt (numbered key isKey)
    · cases isKey
      exact Nat.lt_succ_self _
    · cases isKey
      exact Nat.lt_succ_self _

/-- The directory in front of the first call is sound. -/
theorem isSound_initial (pair : CertifiedKey) (hasCert hasKey : Bool) :
    (initial pair hasCert hasKey).IsSound := by
  intro cert key isCert isKey readable
  cases hasCert with
  | false => cases isCert
  | true =>
      cases hasKey with
      | false => cases isKey
      | true => exact ⟨0, pair, rfl, rfl, rfl⟩

/-- Its files are of the first pair. -/
theorem isNumbered_initial (pair : CertifiedKey) (hasCert hasKey : Bool) :
    (initial pair hasCert hasKey).IsNumbered := by
  intro key isKey
  cases hasKey with
  | false => cases isKey
  | true =>
      cases isKey
      exact Nat.zero_lt_one

/-- Every call along a run that leaves no part of a pair leaves a pair. -/
theorem leavesPair_of_cutsNoPair
    {calls : List CertCall}
    (sound : dir.IsSound)
    (numbered : dir.IsNumbered)
    (whole : StepRun.Along (step? sha256) CutsNoPair dir calls) :
    StepRun.Along (step? sha256) (LeavesPair sha256) dir calls := by
  induction calls generalizing dir with
  | nil =>
      trivial
  | cons call rest inductionHypothesis =>
      refine ⟨sound.leavesPair call, ?_⟩
      exact inductionHypothesis
        ((isSound_ensure_iff sound numbered).mpr whole.1)
        (numbered.ensure call) whole.2

theorem cutsNoPair_append
    {calls later : List CertCall}
    (whole : StepRun.Along (step? sha256) CutsNoPair dir calls)
    (finish : ∀ call ∈ later, call.cutOff = none) :
    StepRun.Along (step? sha256) CutsNoPair dir (calls ++ later) := by
  induction calls generalizing dir with
  | nil =>
      apply StepRun.Along.intro
      intro past call state within ran
      have member : call ∈ later :=
        within.subset (List.mem_append_right past List.mem_cons_self)
      refine .inr ?_
      rw [finish call member]
      trivial
  | cons call rest inductionHypothesis =>
      exact ⟨whole.1, inductionHypothesis whole.2⟩

theorem not_leavesPair_append
    (unsound : ¬ dir.IsSound)
    (calls : List CertCall)
    {last : CertCall}
    (finishes : last.cutOff = none) :
    ¬ StepRun.Along (step? sha256) (LeavesPair sha256) dir
      (calls ++ [last]) := by
  have both := both_of_not_isSound unsound
  induction calls with
  | nil =>
      intro leaves
      exact not_leavesPair_of_not_isSound unsound finishes leaves.1
  | cons call rest inductionHypothesis =>
      intro leaves
      have later := leaves.2
      simp only [step?, ensure_of_both both.1 both.2] at later
      exact inductionHypothesis later

/-- If every ordinary call that may follow leaves a pair, no call of the run
left a part of one. -/
theorem cutsNoPair_of_leavesPair
    {calls : List CertCall}
    {last : CertCall}
    (finishes : last.cutOff = none)
    (sound : dir.IsSound)
    (numbered : dir.IsNumbered)
    (leaves :
      StepRun.Along (step? sha256) (LeavesPair sha256) dir
        (calls ++ [last])) :
    StepRun.Along (step? sha256) CutsNoPair dir calls := by
  induction calls generalizing dir with
  | nil =>
      trivial
  | cons call rest inductionHypothesis =>
      have next : (dir.ensureSelfSignedCert sha256 call).1.IsSound := by
        by_contra unsound
        exact not_leavesPair_append unsound rest finishes leaves.2
      exact ⟨(isSound_ensure_iff sound numbered).mp next,
        inductionHypothesis next (numbered.ensure call) leaves.2⟩

/-- Over any calls, and whatever ordinary calls come after them, every call
that returns `Ok` leaves a pair exactly if none is cut off between the files
of one. -/
theorem leavesPair_along_iff
    (sha256 : List UInt8 → List UInt8)
    (pair : CertifiedKey)
    (hasCert hasKey : Bool)
    (calls : List CertCall) :
    (∀ later,
      (∀ call ∈ later, call.cutOff = none) →
      StepRun.Along (step? sha256) (LeavesPair sha256)
        (initial pair hasCert hasKey) (calls ++ later)) ↔
      StepRun.Along (step? sha256) CutsNoPair
        (initial pair hasCert hasKey) calls := by
  have sound := isSound_initial pair hasCert hasKey
  have numbered := isNumbered_initial pair hasCert hasKey
  constructor
  · intro leaves
    have last := leaves [⟨none, pair⟩] (by simp)
    exact cutsNoPair_of_leavesPair rfl sound numbered last
  · intro whole later finish
    exact leavesPair_of_cutsNoPair sound numbered
      (cutsNoPair_append whole finish)

/-- A pair to start with. -/
def samplePair : CertifiedKey where
  der := [1, 2, 3]
  certPem := derToPem [1, 2, 3]
  keyPem := [7]
  isPem := isCertificatePem_derToPem [1, 2, 3]

/-- A crash leaves an empty key file, and the next call returns `Ok`. -/
theorem ensure_after_crash :
    ¬ StepRun.Along (step? fun _ => []) (LeavesPair fun _ => [])
      (initial samplePair false false)
      [⟨some (.insideKey 0), samplePair⟩, ⟨none, samplePair⟩] := by
  intro leaves
  have whole :
      StepRun.Along (step? fun _ => []) CutsNoPair
        (initial samplePair false false)
        [⟨some (.insideKey 0), samplePair⟩] :=
    cutsNoPair_of_leavesPair rfl (isSound_initial samplePair false false)
      (isNumbered_initial samplePair false false) leaves
  rcases whole.1 with both | complete
  · exact absurd both.1 (by decide)
  · exact absurd complete (by decide)

end StateDir

end ClipboardWire
