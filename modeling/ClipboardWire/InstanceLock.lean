import ClipboardWire.ServerEntry
import ClipboardWire.StepRun
import Mathlib.Logic.Function.Basic

namespace ClipboardWire

/-!
# One tray per lock file

`run_with_tray` takes a lock before it does anything else: `acquire_or_fail`
makes the directory, opens the lock file and tries to lock what it has opened.
Processes do so at the same time, in any order, and any of them can die at any
point; the system then lets go of its lock.  The file itself is never removed
by the program.
-/

/-- `dir.join(name)` for a path as text. -/
def joinPath (dir name : String) : String :=
  if dir = "" ∨ dir.toList.getLast? = some '/' then
    dir ++ name
  else
    dir ++ "/" ++ name

/-- `lock_path` -/
def lockPath (dir : String) : String :=
  joinPath dir "clipboardwire.lock"

/-- `singleton_lock_dir` -/
def singletonLockDir (defaultPath overridePath : Option String) :
    Except String String :=
  match overridePath.or defaultPath with
  | some configPath =>
      .ok ((parentPath configPath).getD ".")
  | none =>
      .error
        "could not determine the default config path for the singleton lock"

/-- How far a process has come in `run_with_tray`. -/
inductive LaunchPhase where
  | starting
  /-- The directory is there. -/
  | prepared
  /-- The lock file is open; it is the file with this inode. -/
  | opened (inode : Nat)
  /-- `acquire_or_fail` has returned, and the tray comes up. -/
  | running (inode : Nat)
  | failed (reason : String)
  deriving DecidableEq, Repr

/-- A process that was launched in tray mode. -/
structure Launch where
  lockDir : String
  phase : LaunchPhase
  deriving DecidableEq, Repr

/-- The lock files of a user, and the processes that use them. -/
structure LockHost where
  /-- The inode that a path names. -/
  files : String → Option Nat
  /-- The process that has locked a file. -/
  holder : Nat → Option Nat
  /-- The inodes that have been used. -/
  inodes : Nat
  launches : Nat → Option Launch

/-- What processes do and how the system answers them. -/
inductive LockAction where
  | launch (pid : Nat) (overridePath : Option String)
  | createDir (pid : Nat) (result : Except String Unit)
  | openFile (pid : Nat) (result : Except String Unit)
  /-- `try_lock`, with an error other than that the file is locked. -/
  | tryLock (pid : Nat) (error : Option String)
  /-- A process ends, however that comes about. -/
  | exit (pid : Nat)
  /-- Somebody removes a lock file. -/
  | remove (path : String)

namespace LockHost

/-- No process has been launched, and there is no lock file. -/
def start : LockHost where
  files := fun _ => none
  holder := fun _ => none
  inodes := 0
  launches := fun _ => none

/-- A process goes on. -/
def setPhase
    (host : LockHost)
    (pid : Nat)
    (launch : Launch)
    (phase : LaunchPhase) : LockHost :=
  { host with
    launches :=
      Function.update host.launches pid
        (some { launch with phase := phase }) }

/-- The file that an `open` with `create` finds or makes. -/
def openOrCreate (host : LockHost) (path : String) : LockHost × Nat :=
  match host.files path with
  | some inode =>
      (host, inode)
  | none =>
      ({ host with
          files := Function.update host.files path (some host.inodes)
          inodes := host.inodes + 1 },
        host.inodes)

/-- One step of `acquire_or_fail`, of a process or of somebody else. -/
def step?
    (defaultPath : Option String)
    (host : LockHost) :
    LockAction → Option LockHost
  | .launch pid overridePath =>
      match host.launches pid with
      | some _ =>
          none
      | none =>
          let launch : Launch :=
            match singletonLockDir defaultPath overridePath with
            | .ok dir => ⟨dir, .starting⟩
            | .error reason => ⟨"", .failed reason⟩
          some
            { host with
              launches :=
                Function.update host.launches pid (some launch) }
  | .createDir pid result =>
      match host.launches pid with
      | some ⟨dir, .starting⟩ =>
          match result with
          | .ok () =>
              some (host.setPhase pid ⟨dir, .starting⟩ .prepared)
          | .error reason =>
              some
                (host.setPhase pid ⟨dir, .starting⟩
                  (.failed ("creating lock dir " ++ dir ++ ": " ++ reason)))
      | _ =>
          none
  | .openFile pid result =>
      match host.launches pid with
      | some ⟨dir, .prepared⟩ =>
          match result with
          | .ok () =>
              let (opened, inode) := host.openOrCreate (lockPath dir)
              some (opened.setPhase pid ⟨dir, .prepared⟩ (.opened inode))
          | .error reason =>
              some
                (host.setPhase pid ⟨dir, .prepared⟩
                  (.failed ("opening " ++ lockPath dir ++ ": " ++ reason)))
      | _ =>
          none
  | .tryLock pid error =>
      match host.launches pid with
      | some ⟨dir, .opened inode⟩ =>
          match error, host.holder inode with
          | some reason, _ =>
              some
                (host.setPhase pid ⟨dir, .opened inode⟩
                  (.failed
                    ("could not test the singleton lock at " ++
                      lockPath dir ++ ": " ++ reason)))
          | none, none =>
              some
                { host.setPhase pid ⟨dir, .opened inode⟩
                    (.running inode) with
                  holder := Function.update host.holder inode (some pid) }
          | none, some _ =>
              some
                (host.setPhase pid ⟨dir, .opened inode⟩
                  (.failed
                    ("another instance of clipboardwire is already " ++
                      "running (lock held on " ++ lockPath dir ++ ")")))
      | _ =>
          none
  | .exit pid =>
      match host.launches pid with
      | some _ =>
          some
            { host with
              launches := Function.update host.launches pid none
              holder := fun inode =>
                if host.holder inode = some pid then
                  none
                else
                  host.holder inode }
      | none =>
          none
  | .remove path =>
      some { host with files := Function.update host.files path none }

/-- A process has got past the lock. -/
def Runs (host : LockHost) (pid : Nat) (path : String) : Prop :=
  ∃ launch inode,
    host.launches pid = some launch ∧
      launch.phase = .running inode ∧
      lockPath launch.lockDir = path

/-- A path names a file, or a process has opened the file under it. -/
def Names (host : LockHost) (path : String) (inode : Nat) : Prop :=
  host.files path = some inode ∨
    ∃ pid launch,
      host.launches pid = some launch ∧
        lockPath launch.lockDir = path ∧
        (launch.phase = .opened inode ∨ launch.phase = .running inode)

/-- The locks are held by the processes that run, and by no others. -/
structure Sound (host : LockHost) : Prop where
  held :
    ∀ pid inode,
      host.holder inode = some pid ↔
        ∃ launch,
          host.launches pid = some launch ∧
            launch.phase = .running inode
  unique :
    ∀ first second inode,
      host.Names first inode → host.Names second inode → first = second
  fresh : ∀ path inode, host.Names path inode → inode < host.inodes

/-- Whoever has opened a lock file has opened the one that is there. -/
def Keeps (host : LockHost) (path : String) : Prop :=
  ∀ inode, host.Names path inode → host.files path = some inode

/-- What one step can do. -/
inductive Moves (host : LockHost) : LockAction → LockHost → Prop where
  | launched {pid : Nat} {overridePath : Option String} {launch : Launch}
      (free : host.launches pid = none)
      (early :
        ∀ inode,
          launch.phase ≠ .opened inode ∧ launch.phase ≠ .running inode) :
      Moves host (.launch pid overridePath)
        { host with
          launches := Function.update host.launches pid (some launch) }
  /-- A process goes on without the lock, or gives up. -/
  | advanced {action : LockAction} {pid : Nat} {launch : Launch}
      {phase : LaunchPhase}
      (known : host.launches pid = some launch)
      (idle : ∀ inode, launch.phase ≠ .running inode)
      (early : ∀ inode, phase ≠ .opened inode ∧ phase ≠ .running inode)
      (busy : ∀ inode, launch.phase = .opened inode →
        action = .tryLock pid none →
          ∃ other, host.holder inode = some other) :
      Moves host action (host.setPhase pid launch phase)
  | found {pid inode : Nat} {dir : String}
      (known : host.launches pid = some ⟨dir, .prepared⟩)
      (file : host.files (lockPath dir) = some inode) :
      Moves host (.openFile pid (.ok ()))
        (host.setPhase pid ⟨dir, .prepared⟩ (.opened inode))
  | created {pid : Nat} {dir : String}
      (known : host.launches pid = some ⟨dir, .prepared⟩)
      (absent : host.files (lockPath dir) = none) :
      Moves host (.openFile pid (.ok ()))
        { host.setPhase pid ⟨dir, .prepared⟩ (.opened host.inodes) with
          files :=
            Function.update host.files (lockPath dir) (some host.inodes)
          inodes := host.inodes + 1 }
  | locked {pid inode : Nat} {dir : String}
      (known : host.launches pid = some ⟨dir, .opened inode⟩)
      (free : host.holder inode = none) :
      Moves host (.tryLock pid none)
        { host.setPhase pid ⟨dir, .opened inode⟩ (.running inode) with
          holder := Function.update host.holder inode (some pid) }
  | exited {pid : Nat} {launch : Launch}
      (known : host.launches pid = some launch) :
      Moves host (.exit pid)
        { host with
          launches := Function.update host.launches pid none
          holder := fun inode =>
            if host.holder inode = some pid then
              none
            else
              host.holder inode }
  | removed {path : String} :
      Moves host (.remove path)
        { host with files := Function.update host.files path none }

variable {defaultPath : Option String}

theorem moves_of_step?
    {host next : LockHost}
    {action : LockAction}
    (stepped : host.step? defaultPath action = some next) :
    Moves host action next := by
  cases action with
  | launch pid overridePath =>
      simp only [step?] at stepped
      split at stepped
      · cases stepped
      · rename_i free
        cases stepped
        refine .launched free fun inode => ?_
        split <;> simp
  | createDir pid result =>
      simp only [step?] at stepped
      split at stepped
      · rename_i dir known
        cases result <;> cases stepped <;>
          exact .advanced known (by simp) (by simp) (by simp)
      · cases stepped
  | openFile pid result =>
      simp only [step?] at stepped
      split at stepped
      · rename_i dir known
        cases result with
        | error reason =>
            cases stepped
            exact .advanced known (by simp) (by simp) (by simp)
        | ok nothing =>
            cases file : host.files (lockPath dir) with
            | some inode =>
                simp only [openOrCreate, file] at stepped
                cases stepped
                exact .found known file
            | none =>
                simp only [openOrCreate, file] at stepped
                cases stepped
                exact .created known file
      · cases stepped
  | tryLock pid error =>
      simp only [step?] at stepped
      split at stepped
      · rename_i dir inode known
        split at stepped
        · cases stepped
          exact .advanced known (by simp) (by simp) (by simp)
        · rename_i free
          cases stepped
          exact .locked known free
        · rename_i other busy
          cases stepped
          refine .advanced known (by simp) (by simp) ?_
          intro opened same _
          cases same
          exact ⟨other, busy⟩
      · cases stepped
  | exit pid =>
      simp only [step?] at stepped
      split at stepped
      · rename_i launch known
        cases stepped
        exact .exited known
      · cases stepped
  | remove path =>
      cases stepped
      exact .removed

private theorem held_of_moves
    {host next : LockHost}
    {action : LockAction}
    (held :
      ∀ pid inode,
        host.holder inode = some pid ↔
          ∃ launch,
            host.launches pid = some launch ∧
              launch.phase = .running inode)
    (moved : Moves host action next)
    (pid inode : Nat) :
    next.holder inode = some pid ↔
      ∃ launch,
        next.launches pid = some launch ∧ launch.phase = .running inode := by
  have before := held pid inode
  cases moved with
  | @launched other _ launch free early =>
      by_cases own : pid = other
      · subst other
        simp [before, free, (early inode).2]
      · simp [own, before]
  | @advanced _ other launch phase known idle early busy =>
      by_cases own : pid = other
      · subst other
        simp [setPhase, before, known, idle inode, (early inode).2]
      · simp [setPhase, own, before]
  | @found other opened dir known file =>
      by_cases own : pid = other
      · subst other
        simp [setPhase, before, known]
      · simp [setPhase, own, before]
  | @created other dir known absent =>
      by_cases own : pid = other
      · subst other
        simp [setPhase, before, known]
      · simp [setPhase, own, before]
  | @locked other opened dir known free =>
      by_cases own : pid = other
      · subst other
        by_cases same : inode = opened
        · simp [setPhase, same]
        · simp [setPhase, same, Ne.symm same, before, known]
      · by_cases same : inode = opened
        · subst opened
          simp [setPhase, own, Ne.symm own, ← before, free]
        · simp [setPhase, own, same, before]
  | @exited other launch known =>
      by_cases own : pid = other
      · subst other
        simp
      · by_cases its : host.holder inode = some other
        · simp [its, own, ← before, Ne.symm own]
        · simp [its, own, before]
  | removed =>
      exact before

/-- A step makes a path name a file only by creating a new one. -/
private theorem names_of_moves
    {host next : LockHost}
    {action : LockAction}
    {path : String}
    {inode : Nat}
    (moved : Moves host action next)
    (names : next.Names path inode) :
    host.Names path inode ∨
      (inode = host.inodes ∧ host.files path = none ∧
        next.files path = some inode ∧
        ∃ pid launch,
          action = .openFile pid (.ok ()) ∧
            host.launches pid = some launch ∧
            lockPath launch.lockDir = path) := by
  have others
      {other : Nat}
      {launch : Launch}
      (files : next.files = host.files)
      (launches :
        next.launches = Function.update host.launches other (some launch))
      (early :
        launch.phase = .opened inode ∨ launch.phase = .running inode →
          lockPath launch.lockDir = path → host.Names path inode) :
      host.Names path inode := by
    rcases names with file | ⟨pid, found, known, isPath, phase⟩
    · exact .inl (files ▸ file)
    · rw [launches] at known
      by_cases own : pid = other
      · subst other
        rw [Function.update_self, Option.some.injEq] at known
        subst found
        exact early phase isPath
      · rw [Function.update_of_ne own] at known
        exact .inr ⟨pid, found, known, isPath, phase⟩
  cases moved with
  | launched free early =>
      refine .inl (others rfl rfl fun phase _ => ?_)
      exact absurd phase (by simp [early inode])
  | advanced known idle early busy =>
      refine .inl (others rfl rfl fun phase _ => ?_)
      exact absurd phase (by simp [early inode])
  | found known file =>
      refine .inl (others rfl rfl fun phase isPath => .inl ?_)
      simp only [LaunchPhase.opened.injEq, reduceCtorEq, or_false] at phase
      rw [← isPath, ← phase]
      exact file
  | @created other dir known absent =>
      by_cases new : path = lockPath dir ∧ inode = host.inodes
      · obtain ⟨rfl, rfl⟩ := new
        exact .inr
          ⟨rfl, absent, Function.update_self .., other, _, rfl, known, rfl⟩
      · left
        rcases names with file | ⟨pid, launch, launched, isPath, phase⟩
        · simp only [Function.update_apply] at file
          split at file
          · rename_i isPath
            exact (new ⟨isPath, (Option.some.inj file).symm⟩).elim
          · exact .inl file
        · simp only [setPhase] at launched
          by_cases own : pid = other
          · subst other
            rw [Function.update_self, Option.some.injEq] at launched
            subst launch
            simp only [LaunchPhase.opened.injEq, reduceCtorEq,
              or_false] at phase
            exact (new ⟨isPath.symm, phase.symm⟩).elim
          · rw [Function.update_of_ne own] at launched
            exact .inr ⟨pid, launch, launched, isPath, phase⟩
  | @locked other opened dir known free =>
      refine .inl (others rfl rfl fun phase isPath => ?_)
      simp only [LaunchPhase.running.injEq, reduceCtorEq, false_or] at phase
      subst opened
      exact .inr ⟨other, _, known, isPath, .inl rfl⟩
  | @exited other launch known =>
      left
      rcases names with file | ⟨pid, found, launched, isPath, phase⟩
      · exact .inl file
      · by_cases own : pid = other
        · subst other
          simp at launched
        · simp only [Function.update_of_ne own] at launched
          exact .inr ⟨pid, found, launched, isPath, phase⟩
  | @removed gone =>
      left
      rcases names with file | used
      · simp only [Function.update_apply] at file
        split at file
        · cases file
        · exact .inl file
      · exact .inr used

private theorem inodes_of_moves
    {host next : LockHost}
    {action : LockAction}
    (moved : Moves host action next) :
    host.inodes ≤ next.inodes ∧
      ∀ path,
        host.files path = none →
          next.files path ≠ none →
            host.inodes < next.inodes := by
  cases moved with
  | created known absent =>
      exact ⟨Nat.le_succ _, fun _ _ _ => Nat.lt_succ_self _⟩
  | removed =>
      refine ⟨Nat.le_refl _, fun path nothing there => ?_⟩
      simp only [Function.update_apply] at there
      split at there
      · exact (there rfl).elim
      · exact (there nothing).elim
  | _ =>
      exact ⟨Nat.le_refl _, fun _ nothing there => (there nothing).elim⟩

private theorem sound_start : start.Sound where
  held := by simp [start]
  unique := by
    rintro first second inode (file | ⟨pid, launch, known, -⟩)
    · cases file
    · cases known
  fresh := by
    rintro path inode (file | ⟨pid, launch, known, -⟩)
    · cases file
    · cases known

private theorem Sound.step
    {host next : LockHost}
    {action : LockAction}
    (sound : host.Sound)
    (moved : Moves host action next) :
    next.Sound where
  held := held_of_moves sound.held moved
  unique := by
    intro first second inode isFirst isSecond
    rcases names_of_moves moved isFirst with
      was | ⟨new, -, -, pid, launch, opens, known, isPath⟩
    · rcases names_of_moves moved isSecond with also | ⟨new, -⟩
      · exact sound.unique first second inode was also
      · have := sound.fresh first inode was
        omega
    · rcases names_of_moves moved isSecond with
        also | ⟨-, -, -, other, found, alsoOpens, alsoKnown, alsoPath⟩
      · have := sound.fresh second inode also
        omega
      · rw [opens] at alsoOpens
        cases alsoOpens
        rw [known, Option.some.injEq] at alsoKnown
        rw [← isPath, ← alsoPath, alsoKnown]
  fresh := by
    intro path inode names
    obtain ⟨grows, new⟩ := inodes_of_moves moved
    rcases names_of_moves moved names with was | ⟨isNew, absent, file, -⟩
    · exact Nat.lt_of_lt_of_le (sound.fresh path inode was) grows
    · rw [isNew]
      exact new path absent (by simp [file])

private theorem files_of_moves
    {host next : LockHost}
    {action : LockAction}
    {path : String}
    {inode : Nat}
    (moved : Moves host action next)
    (kept : action ≠ .remove path)
    (file : host.files path = some inode) :
    next.files path = some inode := by
  cases moved with
  | @created pid dir known absent =>
      have other : path ≠ lockPath dir := by
        rintro rfl
        rw [absent] at file
        cases file
      simp only [Function.update_of_ne other]
      exact file
  | @removed gone =>
      have other : path ≠ gone := by
        rintro rfl
        exact kept rfl
      simp only [Function.update_of_ne other]
      exact file
  | _ =>
      exact file

/-- As long as a lock file is not removed, all who open it open the same. -/
private theorem Keeps.step
    {host next : LockHost}
    {action : LockAction}
    {path : String}
    (keeps : host.Keeps path)
    (moved : Moves host action next)
    (kept : action ≠ .remove path) :
    next.Keeps path := by
  intro inode names
  rcases names_of_moves moved names with was | ⟨-, -, file, -⟩
  · exact files_of_moves moved kept (keeps inode was)
  · exact file

private theorem sound_of_steps
    {host final : LockHost}
    {actions : List LockAction}
    {path : String}
    (holds : host.Sound ∧ host.Keeps path)
    (ran : StepRun.run? (step? defaultPath) host actions = some final)
    (kept : LockAction.remove path ∉ actions) :
    final.Sound ∧ final.Keeps path := by
  induction actions generalizing host with
  | nil =>
      cases ran
      exact holds
  | cons action rest inductionHypothesis =>
      obtain ⟨next, stepped, remaining⟩ := StepRun.run?_cons_eq_some.mp ran
      rw [List.mem_cons, not_or] at kept
      have moved := moves_of_step? stepped
      exact inductionHypothesis
        ⟨holds.1.step moved, holds.2.step moved (Ne.symm kept.1)⟩
        remaining kept.2

private theorem sound_of_run
    {actions : List LockAction}
    {host : LockHost}
    {path : String}
    (ran : StepRun.run? (step? defaultPath) start actions = some host)
    (kept : LockAction.remove path ∉ actions) :
    host.Sound ∧ host.Keeps path := by
  refine sound_of_steps ⟨sound_start, ?_⟩ ran kept
  rintro inode (file | ⟨pid, launch, known, -⟩)
  · cases file
  · cases known

private theorem Runs.holds
    {host : LockHost}
    {pid : Nat}
    {path : String}
    (runs : host.Runs pid path)
    (sound : host.Sound)
    (keeps : host.Keeps path) :
    ∃ inode,
      host.files path = some inode ∧ host.holder inode = some pid := by
  obtain ⟨launch, inode, known, running, isPath⟩ := runs
  refine ⟨inode, keeps inode ?_, (sound.held pid inode).mpr ?_⟩
  · exact .inr ⟨pid, launch, known, isPath, .inr running⟩
  · exact ⟨launch, known, running⟩

private theorem Sound.runs
    {host : LockHost}
    {pid inode : Nat}
    {path : String}
    (sound : host.Sound)
    (named : host.Names path inode)
    (locked : host.holder inode = some pid) :
    host.Runs pid path := by
  obtain ⟨launch, known, running⟩ := (sound.held pid inode).mp locked
  refine ⟨launch, inode, known, running, ?_⟩
  exact sound.unique _ _ inode
    (.inr ⟨pid, launch, known, rfl, .inr running⟩) named

/-- What comes of trying to lock a file that has been opened. -/
private theorem runs_tryLock_iff
    {host next : LockHost}
    {pid inode : Nat}
    {dir : String}
    (sound : host.Sound)
    (keeps : host.Keeps (lockPath dir))
    (known : host.launches pid = some ⟨dir, .opened inode⟩)
    (stepped : host.step? defaultPath (.tryLock pid none) = some next) :
    next.Runs pid (lockPath dir) ↔
      ∀ other, ¬ host.Runs other (lockPath dir) := by
  have named : host.Names (lockPath dir) inode :=
    .inr ⟨pid, _, known, rfl, .inl rfl⟩
  simp only [step?, known] at stepped
  cases locked : host.holder inode with
  | none =>
      simp only [locked, Option.some.injEq] at stepped
      subst next
      constructor
      · intro _ other runs
        obtain ⟨found, file, held⟩ := runs.holds sound keeps
        have same : found = inode :=
          Option.some.inj (file.symm.trans (keeps inode named))
        rw [same, locked] at held
        cases held
      · intro _
        exact
          ⟨⟨dir, .running inode⟩, inode, by simp [setPhase], rfl, rfl⟩
  | some holder =>
      simp only [locked, Option.some.injEq] at stepped
      subst next
      constructor
      · rintro ⟨launch, found, launched, running, -⟩
        simp only [setPhase, Function.update_self,
          Option.some.injEq] at launched
        subst launch
        cases running
      · intro nobody
        exact (nobody holder (sound.runs named locked)).elim

/-- An opened file can be locked or found locked. -/
private theorem step?_tryLock
    {host : LockHost}
    {pid inode : Nat}
    {dir : String}
    (known : host.launches pid = some ⟨dir, .opened inode⟩) :
    ∃ next, host.step? defaultPath (.tryLock pid none) = some next := by
  simp only [step?, known]
  cases host.holder inode with
  | none =>
      exact ⟨_, rfl⟩
  | some holder =>
      exact ⟨_, rfl⟩

/-- The way of a process from its launch to the open lock file. -/
private theorem run?_opens
    {host : LockHost}
    {pid : Nat}
    {overridePath : Option String}
    {dir : String}
    (free : host.launches pid = none)
    (found : singletonLockDir defaultPath overridePath = .ok dir) :
    ∃ inode opened,
      StepRun.run? (step? defaultPath) host
          [.launch pid overridePath, .createDir pid (.ok ()),
            .openFile pid (.ok ())] =
        some opened ∧
      opened.launches pid = some ⟨dir, .opened inode⟩ ∧
      ∀ other path, opened.Runs other path → host.Runs other path := by
  have early
      {other : Nat}
      {path : String}
      {opened : LockHost}
      {inode : Nat}
      (launches :
        opened.launches =
          Function.update host.launches pid
            (some ⟨dir, .opened inode⟩))
      (runs : opened.Runs other path) :
      host.Runs other path := by
    obtain ⟨launch, held, known, running, isPath⟩ := runs
    rw [launches] at known
    by_cases own : other = pid
    · subst other
      rw [Function.update_self, Option.some.injEq] at known
      subst launch
      cases running
    · rw [Function.update_of_ne own] at known
      exact ⟨launch, held, known, running, isPath⟩
  cases file : host.files (lockPath dir) with
  | some inode =>
      refine ⟨inode,
        { host with
          launches :=
            Function.update host.launches pid (some ⟨dir, .opened inode⟩) },
        ?_, Function.update_self .., fun other path runs => early rfl runs⟩
      simp [StepRun.run?, step?, free, found, setPhase, openOrCreate, file]
  | none =>
      refine ⟨host.inodes,
        { host with
          files :=
            Function.update host.files (lockPath dir) (some host.inodes)
          inodes := host.inodes + 1
          launches :=
            Function.update host.launches pid
              (some ⟨dir, .opened host.inodes⟩) },
        ?_, Function.update_self .., fun other path runs => early rfl runs⟩
      simp [StepRun.run?, step?, free, found, setPhase, openOrCreate, file]

/-- A process that is alone gets the lock. -/
private theorem runs_of_alone
    {host : LockHost}
    {pid : Nat}
    {overridePath : Option String}
    {dir : String}
    (sound : host.Sound)
    (keeps : host.Keeps (lockPath dir))
    (free : host.launches pid = none)
    (found : singletonLockDir defaultPath overridePath = .ok dir)
    (nobody : ∀ other, ¬ host.Runs other (lockPath dir)) :
    ∃ next,
      StepRun.run? (step? defaultPath) host
          [.launch pid overridePath, .createDir pid (.ok ()),
            .openFile pid (.ok ()), .tryLock pid none] =
        some next ∧
      next.Runs pid (lockPath dir) := by
  obtain ⟨inode, opened, ran, known, runs⟩ :=
    @run?_opens defaultPath host pid overridePath dir free found
  obtain ⟨openedSound, openedKeeps⟩ :
      opened.Sound ∧ opened.Keeps (lockPath dir) :=
    sound_of_steps ⟨sound, keeps⟩ ran (by simp)
  obtain ⟨next, locked⟩ :=
    @step?_tryLock defaultPath opened pid inode dir known
  refine ⟨next, ?_, ?_⟩
  · exact StepRun.run?_append_eq_some.mpr
      ⟨opened, ran, StepRun.run?_cons_eq_some.mpr ⟨next, locked, rfl⟩⟩
  · refine (runs_tryLock_iff openedSound openedKeeps known locked).mpr ?_
    intro other running
    exact nobody other (runs other _ running)

/--
At most one tray per lock file.  However processes are launched, interleaved
and killed, as long as nobody removes a lock file: at most one process runs on
it; a process that tries to lock it without an error of the system gets past
the lock exactly if no process runs on it at that moment, so what it reports
about another instance is true; and a lock file that a dead process has left
behind keeps nobody out.
-/
theorem single_instance
    {actions : List LockAction}
    {host : LockHost}
    {path : String}
    (ran : StepRun.run? (step? defaultPath) start actions = some host)
    (kept : LockAction.remove path ∉ actions) :
    (∀ first second,
      host.Runs first path → host.Runs second path → first = second) ∧
    (∀ pid dir inode next,
      host.launches pid = some ⟨dir, .opened inode⟩ →
      lockPath dir = path →
      host.step? defaultPath (.tryLock pid none) = some next →
        (next.Runs pid path ↔ ∀ other, ¬ host.Runs other path)) ∧
    (∀ pid overridePath dir,
      host.launches pid = none →
      singletonLockDir defaultPath overridePath = .ok dir →
      lockPath dir = path →
      (∀ other, ¬ host.Runs other path) →
        ∃ next,
          StepRun.run? (step? defaultPath) host
              [.launch pid overridePath, .createDir pid (.ok ()),
                .openFile pid (.ok ()), .tryLock pid none] =
            some next ∧
          next.Runs pid path) := by
  obtain ⟨sound, keeps⟩ := sound_of_run ran kept
  refine ⟨fun first second isFirst isSecond => ?_, ?_, ?_⟩
  · obtain ⟨inode, file, held⟩ := isFirst.holds sound keeps
    obtain ⟨other, alsoFile, alsoHeld⟩ := isSecond.holds sound keeps
    rw [file, Option.some.injEq] at alsoFile
    rw [← alsoFile, held, Option.some.injEq] at alsoHeld
    exact alsoHeld
  · rintro pid dir inode next known rfl stepped
    exact runs_tryLock_iff sound keeps known stepped
  · rintro pid overridePath dir free found rfl nobody
    exact runs_of_alone sound keeps free found nobody

/-- Two trays that come up at the same time. -/
private def twoLaunches : List LockAction :=
  [.launch 1 none, .launch 2 (some "/etc/cw/client.toml"),
    .createDir 2 (.ok ()), .createDir 1 (.ok ()), .openFile 1 (.ok ()),
    .openFile 2 (.ok ()), .tryLock 2 none]

/-- The second one has locked the file, the first one has opened it. -/
private def lockedHost : LockHost :=
  (StepRun.run? (step? (some "/etc/cw/other.toml")) start
    twoLaunches).getD start

/-- Only one of the two gets past the lock. -/
theorem single_instance_sample :
    (∀ first second,
      lockedHost.Runs first "/etc/cw/clipboardwire.lock" →
        lockedHost.Runs second "/etc/cw/clipboardwire.lock" →
          first = second) ∧
    (∀ pid dir inode next,
      lockedHost.launches pid = some ⟨dir, .opened inode⟩ →
      lockPath dir = "/etc/cw/clipboardwire.lock" →
      lockedHost.step? (some "/etc/cw/other.toml") (.tryLock pid none) =
        some next →
        (next.Runs pid "/etc/cw/clipboardwire.lock" ↔
          ∀ other,
            ¬ lockedHost.Runs other "/etc/cw/clipboardwire.lock")) ∧
    (∀ pid overridePath dir,
      lockedHost.launches pid = none →
      singletonLockDir (some "/etc/cw/other.toml") overridePath = .ok dir →
      lockPath dir = "/etc/cw/clipboardwire.lock" →
      (∀ other, ¬ lockedHost.Runs other "/etc/cw/clipboardwire.lock") →
        ∃ next,
          StepRun.run? (step? (some "/etc/cw/other.toml")) lockedHost
              [.launch pid overridePath, .createDir pid (.ok ()),
                .openFile pid (.ok ()), .tryLock pid none] =
            some next ∧
          next.Runs pid "/etc/cw/clipboardwire.lock") :=
  single_instance
    (StepRun.run?_getD
      (show (StepRun.run? (step? (some "/etc/cw/other.toml")) start
        twoLaunches).isSome = true from rfl) start)
    (by simp [twoLaunches])

end LockHost

end ClipboardWire
