import ClipboardWire.InstanceLock
import ClipboardWire.SelfSignedCert
import ClipboardWire.SettingsForm
import ClipboardWire.WssAuthority

namespace ClipboardWire

/-!
# Pinning the certificate of a hub

A hub without certificate files serves the certificate of its state directory
and logs its fingerprint.  The settings dialog of a client can pin it: it
connects once without any check, writes what was presented into a file beside
the config file and shows the fingerprint, and from then on the client trusts
that file.  Both machines run here together: `serve` of
`core/src/server/mod.rs` with `ensure_self_signed_cert`, `pin_server_cert` of
`cli/src/settings.rs`, and `make_connector` of `core/src/client/tls.rs`.
-/

/-- What the TLS libraries do with certificate files. -/
structure TlsStack where
  /-- `RustlsConfig::from_pem_file`: the certificate that is presented. -/
  presents : List UInt8 → List UInt8 → Option (List UInt8)
  /-- `rustls_pemfile::certs`; an item that cannot be read is `none`. -/
  certs : List UInt8 → List (Option (List UInt8))
  /-- `RootCertStore::add` accepts a certificate. -/
  isAnchor : List UInt8 → Bool
  /-- Of a file that is cut off, only a whole block is presented. -/
  whole :
    ∀ {pair : CertifiedKey} {written : Nat} {key der : List UInt8},
      presents ((asBytes pair.certPem).take written) key = some der →
        ∃ pem,
          IsCertificatePem der pem ∧
            asBytes pem = (asBytes pair.certPem).take written
  /-- A file that is one block is one certificate. -/
  single : ∀ der, certs (asBytes (derToPem der)) = [some der]

/-- A connector: it checks nothing, or trusts more than the bundled roots. -/
inductive Connector where
  | insecure
  | trusting (added : List (List UInt8))
  deriving DecidableEq, Repr

/-- The loop of `make_connector` over the certificates of the file. -/
def addCerts (stack : TlsStack) :
    List (List UInt8) → List (Option (List UInt8)) →
      Except String (List (List UInt8))
  | added, [] =>
      .ok added
  | _, none :: _ =>
      .error "parsing TLS CA file"
  | added, some cert :: rest =>
      if stack.isAnchor cert then
        addCerts stack (added ++ [cert]) rest
      else
        .error "adding cert from CA file to trust store"

/-- `make_connector` -/
def makeConnector
    (stack : TlsStack)
    (read : String → Option (List UInt8))
    (config : ClientConfig) :
    Except String Connector :=
  if config.tlsInsecure then
    .ok .insecure
  else
    match config.tlsCaFile with
    | none =>
        .ok (.trusting [])
    | some path =>
        match read path with
        | none =>
            .error ("reading TLS CA file " ++ path)
        | some bytes =>
            match addCerts stack [] (stack.certs bytes) with
            | .error message =>
                .error message
            | .ok [] =>
                .error ("CA file " ++ path ++ " contained no certificates")
            | .ok added =>
                .ok (.trusting added)

/-- What is at the address that the dialog connects to. -/
inductive PinPeer where
  | hub
  | other (presented : Option (List UInt8))
  deriving DecidableEq, Repr

/-- What the system answers to the button. -/
structure PinAnswers where
  /-- The connection; its handshake is not checked. -/
  connect : Except String PinPeer
  createDirAll : Except String Unit
  /-- A failed write leaves the path with some content. -/
  write : Except (String × Option (List UInt8)) Unit

/-- A hub that serves, with the fingerprint in its log. -/
structure ServingHub where
  der : List UInt8
  logged : String
  deriving DecidableEq, Repr

/-- The hub with its state directory, and the dialog with its file. -/
structure PinDesk where
  dir : StateDir
  serving : Option ServingHub
  form : FormState
  /-- `server-pinned.crt` -/
  pinned : Option (List UInt8)

/-- The scheduler's choices. -/
inductive PinAction where
  /-- The hub is started. -/
  | serve (call : CertCall)
  /-- The hub ends. -/
  | stop
  /-- The form is filled in. -/
  | fill (form : FormState)
  /-- "Pin from server" is clicked. -/
  | pin (answers : PinAnswers)

/-- The dialog does not write the file again. -/
def PinAction.SparesFile : PinAction → Prop
  | .pin _ => False
  | .serve _ | .stop | .fill _ => True

instance (action : PinAction) : Decidable action.SparesFile :=
  match action with
  | .pin _ => isFalse not_false
  | .serve _ | .stop | .fill _ => isTrue trivial

namespace PinDesk

variable (sha256 : List UInt8 → List UInt8) (stack : TlsStack)
  (configPath : String)

/-- Both machines in front of the first start of the hub. -/
def start
    (pair : CertifiedKey)
    (hasCert hasKey : Bool)
    (form : FormState)
    (pinned : Option (List UInt8)) :
    PinDesk where
  dir := .initial pair hasCert hasKey
  serving := none
  form := form
  pinned := pinned

/-- `serve` without certificate files: those of the state directory. -/
def serve (desk : PinDesk) (call : CertCall) : PinDesk :=
  let called := desk.dir.ensureSelfSignedCert sha256 call
  { desk with
    dir := called.1
    serving :=
      match called.2, called.1.cert, called.1.key with
      | some ensured, some cert, some key =>
          (stack.presents cert.bytes key.bytes).map fun der =>
            ⟨der, ensured.fingerprintSha256⟩
      | _, _, _ =>
          none }

/-- The certificate that the dialog gets to see. -/
def presented (desk : PinDesk) : PinPeer → Option (List UInt8)
  | .hub => desk.serving.map ServingHub.der
  | .other presented => presented

/-- `pin_server_cert_impl`: the path and the fingerprint, and the file. -/
def pinServerCertImpl (desk : PinDesk) (answers : PinAnswers) :
    Except String (String × String) × Option (List UInt8) :=
  match parseWssAuthority desk.form.server, answers.connect with
  | .error message, _ =>
      (.error message, desk.pinned)
  | .ok _, .error message =>
      (.error message, desk.pinned)
  | .ok _, .ok peer =>
      match desk.presented peer with
      | none =>
          (.error "server did not present any certificates", desk.pinned)
      | some der =>
          match parentPath configPath with
          | none =>
              (.error "config path has no parent dir", desk.pinned)
          | some parent =>
              let target := joinPath parent "server-pinned.crt"
              match answers.createDirAll, answers.write with
              | .error message, _ =>
                  (.error message, desk.pinned)
              | .ok (), .error (message, left) =>
                  (.error message, left)
              | .ok (), .ok () =>
                  (.ok (target, sha256Hex sha256 der),
                    some (asBytes (derToPem der)))

/-- `pin_server_cert` -/
def pinServerCert (desk : PinDesk) (answers : PinAnswers) : PinDesk :=
  match desk.pinServerCertImpl sha256 configPath answers with
  | (.ok (path, fingerprint), after) =>
      { desk with
        form :=
          { desk.form with
            tlsCaFile := path
            tlsInsecure := false
            lastError :=
              some
                ("Pinned cert at " ++ path ++ "\nSHA-256 " ++ fingerprint) }
        pinned := after }
  | (.error message, after) =>
      { desk with
        form :=
          { desk.form with
            lastError := some ("Could not pin server cert: " ++ message) }
        pinned := after }

/-- One step of the hub or of the dialog. -/
def step? (desk : PinDesk) : PinAction → Option PinDesk
  | .serve call =>
      if desk.serving.isNone then
        some (desk.serve sha256 stack call)
      else
        none
  | .stop =>
      some { desk with serving := none }
  | .fill form =>
      some { desk with form := form }
  | .pin answers =>
      some (desk.pinServerCert sha256 configPath answers)

/-- The certificate file has been written, at least in part, for a pair. -/
def WrittenCert (dir : StateDir) : Prop :=
  ∀ stored,
    dir.cert = some stored →
      ∃ (pair : CertifiedKey) (written : Nat),
        stored.bytes = (asBytes pair.certPem).take written

/-- A hub serves what is in its state directory, and has logged it. -/
def ServesDir (desk : PinDesk) : Prop :=
  ∀ serving,
    desk.serving = some serving →
      ∃ cert key,
        desk.dir.cert = some cert ∧
          desk.dir.key = some key ∧
          stack.presents cert.bytes key.bytes = some serving.der ∧
          serving.logged = fingerprintOfDer sha256 serving.der

variable {sha256 : List UInt8 → List UInt8} {stack : TlsStack}
  {configPath : String} {desk next : PinDesk}

/-- A whole block in front of a file is what the hub's own scanner reads. -/
private theorem firstPemBlock_of_presents
    {pair : CertifiedKey}
    {written : Nat}
    {key der : List UInt8}
    (presents :
      stack.presents ((asBytes pair.certPem).take written) key = some der) :
    firstPemBlockToDer ((asBytes pair.certPem).take written) = .ok der := by
  obtain ⟨pem, isPem, same⟩ := stack.whole presents
  rw [← same]
  exact firstPemBlockToDer_of_isCertificatePem isPem

/-- Of a whole file its own certificate is presented. -/
private theorem der_of_presents
    {pair : CertifiedKey}
    {key der : List UInt8}
    (presents : stack.presents (asBytes pair.certPem) key = some der) :
    der = pair.der := by
  have all :
      (asBytes pair.certPem).take (asBytes pair.certPem).length =
        asBytes pair.certPem :=
    List.take_length
  rw [← all] at presents
  have read := firstPemBlock_of_presents presents
  rw [all, firstPemBlockToDer_of_isCertificatePem pair.isPem] at read
  exact (Except.ok.inj read).symm

private theorem WrittenCert.ensure
    {dir : StateDir}
    (written : WrittenCert dir)
    (call : CertCall) :
    WrittenCert (dir.ensureSelfSignedCert sha256 call).1 := by
  by_cases both : dir.cert.isSome = true ∧ dir.key.isSome = true
  · rwa [StateDir.ensure_of_both both.1 both.2]
  · rw [StateDir.ensure_of_missing both]
    have whole : (asBytes call.fresh.certPem) =
        (asBytes call.fresh.certPem).take
          (asBytes call.fresh.certPem).length :=
      List.take_length.symm
    intro stored isStored
    unfold StateDir.generate at isStored
    split at isStored
    · exact written stored isStored
    · rename_i count _
      cases isStored
      exact ⟨call.fresh, count, rfl⟩
    · cases isStored
      exact ⟨call.fresh, _, whole⟩
    · cases isStored
      exact ⟨call.fresh, _, whole⟩

/-- What a call returns is the fingerprint of what is presented. -/
private theorem fingerprint_of_ensure
    {dir : StateDir}
    {call : CertCall}
    {ensured : EnsuredCert}
    {cert key : StoredFile}
    {der : List UInt8}
    (written : WrittenCert dir)
    (returns : (dir.ensureSelfSignedCert sha256 call).2 = some ensured)
    (isCert : (dir.ensureSelfSignedCert sha256 call).1.cert = some cert)
    (presents : stack.presents cert.bytes key.bytes = some der) :
    ensured.fingerprintSha256 = fingerprintOfDer sha256 der := by
  by_cases both : dir.cert.isSome = true ∧ dir.key.isSome = true
  · rw [StateDir.ensure_of_both both.1 both.2] at isCert
    obtain ⟨pair, count, bytes⟩ := written cert isCert
    rw [bytes] at presents
    have read : fingerprintOfPem sha256 cert.bytes =
        .ok (fingerprintOfDer sha256 der) := by
      rw [fingerprintOfPem, bytes, firstPemBlock_of_presents presents]
      rfl
    obtain ⟨other, isKey⟩ := Option.isSome_iff_exists.mp both.2
    simp only [StateDir.ensureSelfSignedCert, isCert, isKey, read] at returns
    split at returns
    · cases returns
    · cases returns
      rfl
  · rw [StateDir.ensure_of_missing both] at returns isCert
    unfold StateDir.generate at returns isCert
    split at returns
    · cases returns
    · cases returns
    · cases returns
    · rename_i finishes
      simp only [finishes] at isCert
      cases isCert
      cases returns
      rw [der_of_presents presents]

/-- A start of the hub serves what it leaves in the directory. -/
private theorem servesDir_serve
    (written : WrittenCert desk.dir)
    (call : CertCall) :
    ServesDir sha256 stack (desk.serve sha256 stack call) := by
  intro serving serves
  simp only [serve] at serves ⊢
  split at serves
  · rename_i ensured cert key returns isCert isKey
    obtain ⟨der, presents, rfl⟩ := Option.map_eq_some_iff.mp serves
    exact ⟨cert, key, isCert, isKey, presents,
      fingerprint_of_ensure written returns isCert presents⟩
  · cases serves

/-- The dialog has the file as it was left, and does not touch the hub. -/
private theorem pinServerCert_leaves (answers : PinAnswers) :
    (desk.pinServerCert sha256 configPath answers).pinned =
        (desk.pinServerCertImpl sha256 configPath answers).2 ∧
      (desk.pinServerCert sha256 configPath answers).dir = desk.dir ∧
      (desk.pinServerCert sha256 configPath answers).serving =
        desk.serving := by
  unfold pinServerCert
  split <;> rename_i made <;> exact ⟨by rw [made], rfl, rfl⟩

private theorem written_step
    {action : PinAction}
    (written : WrittenCert desk.dir)
    (stepped : desk.step? sha256 stack configPath action = some next) :
    WrittenCert next.dir := by
  cases action with
  | serve call =>
      simp only [step?] at stepped
      split at stepped
      · cases stepped
        exact written.ensure call
      · cases stepped
  | stop =>
      cases stepped
      exact written
  | fill form =>
      cases stepped
      exact written
  | pin answers =>
      cases stepped
      rwa [(pinServerCert_leaves answers).2.1]

private theorem serves_step
    {action : PinAction}
    (written : WrittenCert desk.dir)
    (serves : ServesDir sha256 stack desk)
    (stepped : desk.step? sha256 stack configPath action = some next) :
    ServesDir sha256 stack next := by
  cases action with
  | serve call =>
      simp only [step?] at stepped
      split at stepped
      · cases stepped
        exact servesDir_serve written call
      · cases stepped
  | stop =>
      cases stepped
      intro serving none
      cases none
  | fill form =>
      cases stepped
      exact serves
  | pin answers =>
      cases stepped
      intro serving isServing
      rw [(pinServerCert_leaves answers).2.2] at isServing
      rw [(pinServerCert_leaves answers).2.1]
      exact serves serving isServing

private theorem keeps_run
    {pair : CertifiedKey}
    {hasCert hasKey : Bool}
    {form : FormState}
    {pinned : Option (List UInt8)}
    {actions : List PinAction}
    (ran :
      StepRun.run? (step? sha256 stack configPath)
        (start pair hasCert hasKey form pinned) actions = some desk) :
    WrittenCert desk.dir ∧ ServesDir sha256 stack desk := by
  refine StepRun.run?_invariant
    (motive := fun desk =>
      WrittenCert desk.dir ∧ ServesDir sha256 stack desk)
    ⟨?_, fun serving none => by cases none⟩
    (fun keeps stepped =>
      ⟨written_step keeps.1 stepped, serves_step keeps.1 keeps.2 stepped⟩)
    ran
  intro stored isStored
  cases hasCert with
  | false => cases isStored
  | true =>
      cases isStored
      exact ⟨pair, _, List.take_length.symm⟩

/-- A pin that succeeds has written what was presented. -/
private theorem of_pinServerCertImpl
    {answers : PinAnswers}
    {target fingerprint : String}
    (succeeds :
      (desk.pinServerCertImpl sha256 configPath answers).1 =
        .ok (target, fingerprint)) :
    ∃ peer der,
      answers.connect = .ok peer ∧
        desk.presented peer = some der ∧
        fingerprint = fingerprintOfDer sha256 der ∧
        (desk.pinServerCertImpl sha256 configPath answers).2 =
          some (asBytes (derToPem der)) := by
  unfold pinServerCertImpl at succeeds ⊢
  split at succeeds
  · cases succeeds
  · cases succeeds
  · rename_i peer _ connected
    split at succeeds
    · cases succeeds
    · rename_i der presented
      split at succeeds
      · cases succeeds
      · simp only at succeeds ⊢
        split at succeeds
        · cases succeeds
        · cases succeeds
        · cases succeeds
          exact ⟨peer, der, connected, presented, rfl, rfl⟩

/-- The hub that was pinned is the only one that ever serves again. -/
structure Pinned (desk : PinDesk) (serving : ServingHub) (dir : StateDir) :
    Prop where
  dir : desk.dir = dir
  file : desk.pinned = some (asBytes (derToPem serving.der))
  again : ∀ other, desk.serving = some other → other = serving

/-- What is served from the directory is told by its files. -/
private theorem serving_unique
    {first second : PinDesk}
    {one other : ServingHub}
    (same : second.dir = first.dir)
    (isOne : ServesDir sha256 stack first)
    (isOther : ServesDir sha256 stack second)
    (serves : first.serving = some one)
    (servesToo : second.serving = some other) :
    other = one := by
  obtain ⟨cert, key, isCert, isKey, presents, logged⟩ := isOne one serves
  obtain ⟨cert', key', isCert', isKey', presents', logged'⟩ :=
    isOther other servesToo
  rw [same] at isCert' isKey'
  rw [isCert, Option.some.injEq] at isCert'
  rw [isKey, Option.some.injEq] at isKey'
  rw [← isCert', ← isKey', presents, Option.some.injEq] at presents'
  rw [← presents', ← logged] at logged'
  cases one
  cases other
  cases presents'
  cases logged'
  rfl

private theorem Pinned.step
    {first : PinDesk}
    {serving : ServingHub}
    {action : PinAction}
    (pinned : desk.Pinned serving first.dir)
    (isFirst : ServesDir sha256 stack first)
    (serves : first.serving = some serving)
    (written : WrittenCert desk.dir)
    (spares : action.SparesFile)
    (stepped : desk.step? sha256 stack configPath action = some next) :
    next.Pinned serving first.dir := by
  cases action with
  | serve call =>
      simp only [step?] at stepped
      split at stepped
      · cases stepped
        obtain ⟨cert, key, isCert, isKey, -, -⟩ := isFirst serving serves
        have kept :
            (desk.serve sha256 stack call).dir = first.dir := by
          simp only [serve]
          rw [StateDir.ensure_of_both, pinned.dir]
          · rw [pinned.dir, isCert]
            rfl
          · rw [pinned.dir, isKey]
            rfl
        exact
          { dir := kept
            file := pinned.file
            again := fun other servesToo =>
              serving_unique kept isFirst (servesDir_serve written call)
                serves servesToo }
      · cases stepped
  | stop =>
      cases stepped
      exact ⟨pinned.dir, pinned.file, fun other none => by cases none⟩
  | fill form =>
      cases stepped
      exact ⟨pinned.dir, pinned.file, pinned.again⟩
  | pin answers =>
      exact spares.elim

/-- The client trusts the certificate in the file besides the bundled ones. -/
private theorem makeConnector_of_pinned
    {read : String → Option (List UInt8)}
    {config : ClientConfig}
    {target : String}
    {der : List UInt8}
    (verified : config.tlsInsecure = false)
    (points : config.tlsCaFile = some target)
    (content : read target = some (asBytes (derToPem der)))
    (isAnchor : stack.isAnchor der = true) :
    makeConnector stack read config = .ok (.trusting [der]) := by
  simp [makeConnector, verified, points, content, stack.single, addCerts,
    isAnchor]

/--
A pin stays good.  Whatever calls of the hub were cut off before and whoever
was pinned, once the dialog has pinned the hub: the fingerprint that it shows
is the one in the log of the hub; and in every later run, over all restarts of
the hub and as long as the dialog does not pin again, a hub that serves
presents that very certificate and logs that very fingerprint, and a client
whose configuration has the pinned file trusts this one certificate besides
the bundled roots.
-/
theorem pin_stays_good
    {pair : CertifiedKey}
    {hasCert hasKey : Bool}
    {form : FormState}
    {earlier : Option (List UInt8)}
    {before after : List PinAction}
    {final : PinDesk}
    {answers : PinAnswers}
    {target fingerprint : String}
    (ran :
      StepRun.run? (step? sha256 stack configPath)
        (start pair hasCert hasKey form earlier) before = some desk)
    (reaches : answers.connect = .ok .hub)
    (succeeds :
      (desk.pinServerCertImpl sha256 configPath answers).1 =
        .ok (target, fingerprint))
    (later :
      StepRun.run?
          (StepRun.restrict (step? sha256 stack configPath)
            PinAction.SparesFile)
          (desk.pinServerCert sha256 configPath answers) after =
        some final) :
    ∃ serving,
      desk.serving = some serving ∧
        fingerprint = serving.logged ∧
        (∀ other, final.serving = some other → other = serving) ∧
        ∀ config read,
          config.tlsInsecure = false →
          config.tlsCaFile = some target →
          read target = final.pinned →
          stack.isAnchor serving.der = true →
            makeConnector stack read config =
              .ok (.trusting [serving.der]) := by
  obtain ⟨written, serves⟩ := keeps_run ran
  obtain ⟨peer, der, connected, presented, shown, file⟩ :=
    of_pinServerCertImpl succeeds
  rw [reaches, Except.ok.injEq] at connected
  subst peer
  obtain ⟨serving, isServing, rfl⟩ := Option.map_eq_some_iff.mp presented
  obtain ⟨-, -, -, -, -, logged⟩ := serves serving isServing
  obtain ⟨left, sameDir, sameServing⟩ :=
    @pinServerCert_leaves sha256 configPath desk answers
  have fresh :
      (desk.pinServerCert sha256 configPath answers).Pinned serving
        desk.dir := by
    refine ⟨sameDir, left.trans file, fun other servesToo => ?_⟩
    rw [sameServing, isServing, Option.some.injEq] at servesToo
    exact servesToo.symm
  have holds : WrittenCert final.dir ∧ final.Pinned serving desk.dir :=
    StepRun.run?_invariant
      (motive := fun state =>
        WrittenCert state.dir ∧ state.Pinned serving desk.dir)
      ⟨by rwa [sameDir], fresh⟩
      (fun keeps stepped =>
        have goesOn := StepRun.restrict_eq_some.mp stepped
        ⟨written_step keeps.1 goesOn.2,
          keeps.2.step serves isServing keeps.1 goesOn.1 goesOn.2⟩)
      later
  refine ⟨serving, isServing, shown.trans logged.symm, holds.2.again, ?_⟩
  intro config read verified points reads isAnchor
  exact makeConnector_of_pinned verified points
    (reads.trans holds.2.file) isAnchor

/-- Libraries that present the certificate of the sample. -/
def sampleStack : TlsStack where
  presents cert _ :=
    if cert = asBytes StateDir.samplePair.certPem then
      some StateDir.samplePair.der
    else
      none
  certs bytes :=
    match firstPemBlockToDer bytes with
    | .ok der => [some der]
    | .error _ => []
  isAnchor _ := true
  whole := by
    intro pair written key der presents
    split at presents
    · rename_i same
      cases presents
      exact ⟨_, StateDir.samplePair.isPem, same.symm⟩
    · cases presents
  single der := by
    rw [firstPemBlockToDer_of_isCertificatePem (isCertificatePem_derToPem der)]

/-- The hub dies while it writes a certificate, and is started twice. -/
private def beforePin : List PinAction :=
  [.serve ⟨some (.insideCert 12), StateDir.samplePair⟩,
    .serve ⟨none, StateDir.samplePair⟩, .stop,
    .serve ⟨none, StateDir.samplePair⟩,
    .fill { FormState.empty with server := "wss://nas.lan:8484/sync" }]

/-- Both machines before that. -/
private def newDesk : PinDesk :=
  start StateDir.samplePair false false FormState.empty none

/-- Both machines when the button is clicked. -/
private def readyDesk : PinDesk :=
  (StepRun.run? (step? (fun _ => [171]) sampleStack "/etc/cw/config.toml")
    newDesk beforePin).getD newDesk

/-- Everything succeeds. -/
private def pinSucceeds : PinAnswers :=
  ⟨.ok .hub, .ok (), .ok ()⟩

/-- Both machines after the pin. -/
private def pinnedDesk : PinDesk :=
  readyDesk.pinServerCert (fun _ => [171]) "/etc/cw/config.toml" pinSucceeds

/-- The hub is started once more after that. -/
private def restartedDesk : PinDesk :=
  (StepRun.run?
    (StepRun.restrict
      (step? (fun _ => [171]) sampleStack "/etc/cw/config.toml")
      PinAction.SparesFile)
    pinnedDesk [.stop, .serve ⟨none, StateDir.samplePair⟩]).getD pinnedDesk

/-- The dialog of the sample shows the fingerprint, and the pin stays good. -/
theorem pin_stays_good_sample :
    pinnedDesk.form.lastError =
        some "Pinned cert at /etc/cw/server-pinned.crt\nSHA-256 AB" ∧
      restartedDesk.serving.isSome = true ∧
      ∃ serving,
        readyDesk.serving = some serving ∧
          "AB" = serving.logged ∧
          (∀ other,
            restartedDesk.serving = some other → other = serving) ∧
          ∀ config read,
            config.tlsInsecure = false →
            config.tlsCaFile = some "/etc/cw/server-pinned.crt" →
            read "/etc/cw/server-pinned.crt" = restartedDesk.pinned →
            sampleStack.isAnchor serving.der = true →
              makeConnector sampleStack read config =
                .ok (.trusting [serving.der]) := by
  have before :=
    StepRun.run?_getD
      (show
        (StepRun.run?
          (step? (fun _ => [171]) sampleStack "/etc/cw/config.toml") newDesk
          beforePin).isSome = true by decide +kernel)
      newDesk
  have after :=
    StepRun.run?_getD
      (show
        (StepRun.run?
          (StepRun.restrict
            (step? (fun _ => [171]) sampleStack "/etc/cw/config.toml")
            PinAction.SparesFile)
          pinnedDesk
          [.stop, .serve ⟨none, StateDir.samplePair⟩]).isSome = true by
        decide +kernel)
      pinnedDesk
  refine ⟨by decide +kernel, by decide +kernel, ?_⟩
  exact pin_stays_good before rfl (by decide +kernel) after

end PinDesk

end ClipboardWire
