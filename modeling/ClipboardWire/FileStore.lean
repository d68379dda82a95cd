import Mathlib.Data.List.Basic
import Mathlib.Logic.Function.Basic

namespace FileStore

/-!
# A file store with names and inodes

Paths name inodes and inodes hold the bytes, so that an open file is not
affected when another path is renamed, and follows its inode when its own path
is.  Distinct paths name distinct inodes and every named inode has been
allocated; both facts are fields of the structure.

The store also logs the paths that it creates or writes.  The module is
independent of what the paths are and of who uses the store.
-/

/-- Cut a file to a size, or extend it with zero bytes. -/
def resize (content : List UInt8) (size : Nat) : List UInt8 :=
  content.take size ++ List.replicate (size - content.length) 0

/-- Write bytes at an offset; a gap before them is filled with zero bytes. -/
def overwrite
    (content : List UInt8)
    (offset : Nat)
    (bytes : List UInt8) :
    List UInt8 :=
  (content ++ List.replicate (offset - content.length) 0).take offset ++
    bytes ++ content.drop (offset + bytes.length)

@[simp] theorem length_resize (content : List UInt8) (size : Nat) :
    (resize content size).length = size := by
  simp only [resize, List.length_append, List.length_take,
    List.length_replicate]
  omega

/-- A write inside a file does not change its size. -/
theorem length_overwrite
    {content bytes : List UInt8}
    {offset : Nat}
    (fits : offset + bytes.length ≤ content.length) :
    (overwrite content offset bytes).length = content.length := by
  simp only [overwrite, List.length_append, List.length_take,
    List.length_replicate, List.length_drop]
  omega

/-- A write beyond the end of a file extends it. -/
theorem length_overwrite_eq_max
    (content bytes : List UInt8)
    (offset : Nat) :
    (overwrite content offset bytes).length =
      max content.length (offset + bytes.length) := by
  simp only [overwrite, List.length_append, List.length_take,
    List.length_replicate, List.length_drop]
  omega

/-- A write at the end of a file appends to it. -/
theorem overwrite_at_end (content bytes : List UInt8) :
    overwrite content content.length bytes = content ++ bytes := by
  simp [overwrite]

/-- A write inside a file changes the written range and nothing else. -/
theorem getElem?_overwrite
    {content bytes : List UInt8}
    {offset : Nat}
    (fits : offset + bytes.length ≤ content.length)
    (position : Nat) :
    (overwrite content offset bytes)[position]? =
      if offset ≤ position ∧ position < offset + bytes.length then
        bytes[position - offset]?
      else
        content[position]? := by
  have noGap : offset - content.length = 0 := by
    omega
  have leading : (content.take offset).length = offset := by
    rw [List.length_take]
    omega
  simp only [overwrite, noGap, List.replicate_zero, List.append_nil,
    List.append_assoc]
  by_cases before : position < offset
  · rw [List.getElem?_append_left (by rw [leading]; exact before),
      List.getElem?_take_of_lt before, if_neg (by omega)]
  · rw [List.getElem?_append_right (by rw [leading]; omega), leading]
    by_cases inside : position < offset + bytes.length
    · rw [List.getElem?_append_left (by omega),
        if_pos ⟨by omega, inside⟩]
    · rw [List.getElem?_append_right (by omega), List.getElem?_drop,
        if_neg (fun range => inside range.2)]
      congr 1
      omega

/-- Names, contents and the log of paths created or written. -/
structure Store (Path : Type) where
  names : Path → Option Nat
  data : Nat → List UInt8
  next : Nat
  touched : List Path
  allocated :
    ∀ path inode, names path = some inode → inode < next
  separate :
    ∀ first second inode,
      names first = some inode →
      names second = some inode →
      first = second

/-- An open file: the path it was opened at and the inode it refers to. -/
structure Handle (Path : Type) where
  path : Path
  inode : Nat
  deriving DecidableEq, Repr

namespace Store

variable {Path : Type}

/-- A store without any file. -/
def empty : Store Path where
  names := fun _ => none
  data := fun _ => []
  next := 0
  touched := []
  allocated := by
    intro path inode named
    cases named
  separate := by
    intro first second inode named
    cases named

/-- Whether a path names a file. -/
def exists? (store : Store Path) (path : Path) : Bool :=
  (store.names path).isSome

/-- The content of the file at a path. -/
def read (store : Store Path) (path : Path) : Option (List UInt8) :=
  (store.names path).map store.data

/-- Replace the content of the inode that an open file refers to. -/
def setContent
    (store : Store Path)
    (handle : Handle Path)
    (content : List UInt8) :
    Store Path :=
  { store with
    data := Function.update store.data handle.inode content
    touched := store.touched ++ [handle.path] }

/-- Set the size of an open file. -/
def setLen
    (store : Store Path)
    (handle : Handle Path)
    (size : Nat) :
    Store Path :=
  store.setContent handle (resize (store.data handle.inode) size)

/-- Write to an open file at an offset. -/
def writeAt
    (store : Store Path)
    (handle : Handle Path)
    (offset : Nat)
    (bytes : List UInt8) :
    Store Path :=
  store.setContent handle
    (overwrite (store.data handle.inode) offset bytes)

@[simp] theorem names_setContent
    (store : Store Path)
    (handle : Handle Path)
    (content : List UInt8) :
    (store.setContent handle content).names = store.names := by
  rfl

@[simp] theorem touched_setContent
    (store : Store Path)
    (handle : Handle Path)
    (content : List UInt8) :
    (store.setContent handle content).touched =
      store.touched ++ [handle.path] := by
  rfl

@[simp] theorem data_setContent_same
    (store : Store Path)
    (handle : Handle Path)
    (content : List UInt8) :
    (store.setContent handle content).data handle.inode = content := by
  simp [setContent]

/-- A write through an open file only changes its own inode. -/
theorem data_setContent_other
    (store : Store Path)
    (handle : Handle Path)
    (content : List UInt8)
    {inode : Nat}
    (different : inode ≠ handle.inode) :
    (store.setContent handle content).data inode = store.data inode := by
  simp [setContent, different]

/-- An open file refers to the inode that its path names. -/
def Refers (store : Store Path) (handle : Handle Path) : Prop :=
  store.names handle.path = some handle.inode

/-- A path that an open file does not refer to names another inode. -/
theorem Refers.inode_ne
    {store : Store Path}
    {handle : Handle Path}
    (refers : store.Refers handle)
    {path : Path}
    {inode : Nat}
    (named : store.names path = some inode)
    (different : path ≠ handle.path) :
    inode ≠ handle.inode := by
  intro same
  subst inode
  exact different (store.separate _ _ _ named refers)

/-- The content read back at the path of an open file is its content. -/
theorem Refers.read
    {store : Store Path}
    {handle : Handle Path}
    (refers : store.Refers handle) :
    store.read handle.path = some (store.data handle.inode) := by
  rw [Store.read, refers, Option.map_some]

/-- A write through an open file leaves every other path as it is. -/
theorem Refers.read_setContent_other
    {store : Store Path}
    {handle : Handle Path}
    (refers : store.Refers handle)
    (content : List UInt8)
    {path : Path}
    (different : path ≠ handle.path) :
    (store.setContent handle content).read path = store.read path := by
  cases named : store.names path with
  | none =>
      simp [Store.read, named]
  | some inode =>
      simp [Store.read, named, store.data_setContent_other handle content
        (refers.inode_ne named different)]

/--
Between two stores nobody has touched a path: it names the same file, with the
same content, and what the log has grown by does not mention it.
-/
structure LeavesAlone (path : Path) (before after : Store Path) : Prop where
  names : after.names path = before.names path
  read : after.read path = before.read path
  touched :
    ∃ added, after.touched = before.touched ++ added ∧ path ∉ added

theorem LeavesAlone.refl (path : Path) (store : Store Path) :
    LeavesAlone path store store where
  names := rfl
  read := rfl
  touched := ⟨[], (List.append_nil _).symm, List.not_mem_nil⟩

theorem LeavesAlone.trans
    {path : Path}
    {before middle after : Store Path}
    (first : LeavesAlone path before middle)
    (second : LeavesAlone path middle after) :
    LeavesAlone path before after where
  names := second.names.trans first.names
  read := second.read.trans first.read
  touched := by
    obtain ⟨early, split, notEarly⟩ := first.touched
    obtain ⟨late, split', notLate⟩ := second.touched
    refine ⟨early ++ late, ?_, ?_⟩
    · rw [split', split, List.append_assoc]
    · rw [List.mem_append, not_or]
      exact ⟨notEarly, notLate⟩

/-- A path that the log has been extended by is not left alone. -/
theorem not_leavesAlone_of_touched
    {path : Path}
    {before after : Store Path}
    (logged : before.touched ++ [path] <+: after.touched) :
    ¬ LeavesAlone path before after := by
  intro alone
  obtain ⟨others, split, notMember⟩ := alone.touched
  rw [split, List.prefix_append_right_inj] at logged
  exact notMember (logged.subset (List.mem_singleton_self path))

/-- A write through an open file leaves the other paths alone. -/
theorem Refers.leavesAlone_setContent
    {store : Store Path}
    {handle : Handle Path}
    (refers : store.Refers handle)
    (content : List UInt8)
    {path : Path}
    (different : path ≠ handle.path) :
    LeavesAlone path store (store.setContent handle content) where
  names := rfl
  read := refers.read_setContent_other content different
  touched := ⟨[handle.path], rfl, by simpa using different⟩

variable [DecidableEq Path]

/-- Give a new inode to a path. -/
def create (store : Store Path) (path : Path) : Store Path where
  names := Function.update store.names path (some store.next)
  data := Function.update store.data store.next []
  next := store.next + 1
  touched := store.touched ++ [path]
  allocated := by
    intro other inode named
    by_cases same : other = path
    · subst other
      simp only [Function.update_self, Option.some.injEq] at named
      omega
    · rw [Function.update_of_ne same] at named
      have := store.allocated other inode named
      omega
  separate := by
    intro first second inode firstNamed secondNamed
    by_cases firstSame : first = path <;>
      by_cases secondSame : second = path
    · rw [firstSame, secondSame]
    · subst first
      rw [Function.update_of_ne secondSame] at secondNamed
      simp only [Function.update_self, Option.some.injEq] at firstNamed
      have := store.allocated second inode secondNamed
      omega
    · subst second
      rw [Function.update_of_ne firstSame] at firstNamed
      simp only [Function.update_self, Option.some.injEq] at secondNamed
      have := store.allocated first inode firstNamed
      omega
    · rw [Function.update_of_ne firstSame] at firstNamed
      rw [Function.update_of_ne secondSame] at secondNamed
      exact store.separate first second inode firstNamed secondNamed

/-- Open a path for reading and writing; the file is created or emptied. -/
def openTruncate
    (store : Store Path)
    (path : Path) :
    Handle Path × Store Path :=
  match store.names path with
  | some inode =>
      (⟨path, inode⟩, store.setContent ⟨path, inode⟩ [])
  | none =>
      (⟨path, store.next⟩, store.create path)

/-- Remove the name of a file. -/
def remove (store : Store Path) (path : Path) : Store Path :=
  { store with
    names := Function.update store.names path none
    allocated := by
      intro other inode named
      by_cases same : other = path
      · subst other
        simp at named
      · rw [Function.update_of_ne same] at named
        exact store.allocated other inode named
    separate := by
      intro first second inode firstNamed secondNamed
      by_cases firstSame : first = path
      · subst first
        simp at firstNamed
      · by_cases secondSame : second = path
        · subst second
          simp at secondNamed
        · rw [Function.update_of_ne firstSame] at firstNamed
          rw [Function.update_of_ne secondSame] at secondNamed
          exact
            store.separate first second inode firstNamed secondNamed }

/-- Give the inode of one path, if there is one, to another path. -/
def rename (store : Store Path) (source target : Path) : Store Path :=
  match named : store.names source with
  | none =>
      store
  | some moved =>
      { store with
        names :=
          Function.update (Function.update store.names source none)
            target (some moved)
        touched := store.touched ++ [target]
        allocated := by
          intro other inode isNamed
          by_cases isTarget : other = target
          · subst other
            simp only [Function.update_self, Option.some.injEq] at isNamed
            subst inode
            exact store.allocated source moved named
          · rw [Function.update_of_ne isTarget] at isNamed
            exact (store.remove source).allocated other inode isNamed
        separate := by
          have elsewhere (other : Path) :
              Function.update store.names source none other ≠
                some moved := by
            intro isNamed
            by_cases isSource : other = source
            · subst other
              simp at isNamed
            · rw [Function.update_of_ne isSource] at isNamed
              exact isSource
                (store.separate other source moved isNamed named)
          intro first second inode firstNamed secondNamed
          by_cases firstSame : first = target <;>
            by_cases secondSame : second = target
          · rw [firstSame, secondSame]
          · subst first
            rw [Function.update_of_ne secondSame] at secondNamed
            simp only [Function.update_self, Option.some.injEq]
              at firstNamed
            subst inode
            exact (elsewhere second secondNamed).elim
          · subst second
            rw [Function.update_of_ne firstSame] at firstNamed
            simp only [Function.update_self, Option.some.injEq]
              at secondNamed
            subst inode
            exact (elsewhere first firstNamed).elim
          · rw [Function.update_of_ne firstSame] at firstNamed
            rw [Function.update_of_ne secondSame] at secondNamed
            exact (store.remove source).separate first second inode
              firstNamed secondNamed }

@[simp] theorem path_openTruncate
    (store : Store Path)
    (path : Path) :
    (store.openTruncate path).1.path = path := by
  unfold openTruncate
  cases store.names path <;> rfl

/-- A file that has just been opened is referred to by its path. -/
theorem refers_openTruncate
    (store : Store Path)
    (path : Path) :
    (store.openTruncate path).2.Refers (store.openTruncate path).1 := by
  unfold Refers openTruncate
  cases named : store.names path with
  | some inode =>
      exact named
  | none =>
      simp [create]

/-- Opening a file leaves the names of the other paths alone. -/
theorem names_openTruncate_other
    (store : Store Path)
    {path other : Path}
    (different : other ≠ path) :
    (store.openTruncate path).2.names other = store.names other := by
  unfold openTruncate
  cases store.names path with
  | some inode =>
      rfl
  | none =>
      simp [create, different]

/-- Opening a file leaves the content of the other paths alone. -/
theorem read_openTruncate_other
    (store : Store Path)
    {path other : Path}
    (different : other ≠ path) :
    (store.openTruncate path).2.read other = store.read other := by
  unfold openTruncate
  cases named : store.names path with
  | some inode =>
      have refers : store.Refers ⟨path, inode⟩ := named
      exact refers.read_setContent_other [] different
  | none =>
      cases otherNamed : store.names other with
      | none =>
          simp [Store.read, create, different, otherNamed]
      | some inode =>
          have old : inode ≠ store.next :=
            Nat.ne_of_lt (store.allocated other inode otherNamed)
          simp [Store.read, create, different, otherNamed, old]

@[simp] theorem touched_openTruncate
    (store : Store Path)
    (path : Path) :
    (store.openTruncate path).2.touched = store.touched ++ [path] := by
  unfold openTruncate
  cases store.names path <;> rfl

@[simp] theorem data_openTruncate
    (store : Store Path)
    (path : Path) :
    (store.openTruncate path).2.data (store.openTruncate path).1.inode =
      [] := by
  unfold openTruncate
  cases store.names path with
  | some inode =>
      exact store.data_setContent_same ⟨path, inode⟩ []
  | none =>
      simp [create]

@[simp] theorem data_rename
    (store : Store Path)
    (source target : Path) :
    (store.rename source target).data = store.data := by
  unfold rename
  split <;> rfl

/-- A renamed file is found at the target. -/
theorem names_rename_target
    {store : Store Path}
    {source target : Path}
    {inode : Nat}
    (named : store.names source = some inode) :
    (store.rename source target).names target = some inode := by
  unfold rename
  split
  · rename_i absent
    rw [named] at absent
    cases absent
  · rename_i moved isNamed
    rw [named, Option.some.injEq] at isNamed
    subst moved
    simp

/-- A renamed file is read at the target. -/
theorem read_rename_target
    {store : Store Path}
    {source target : Path}
    {content : List UInt8}
    (isContent : store.read source = some content) :
    (store.rename source target).read target = some content := by
  obtain ⟨inode, named, isData⟩ := Option.map_eq_some_iff.mp isContent
  rw [read, names_rename_target named, Option.map_some, data_rename, isData]

/-- A renamed file is no longer found at the source. -/
theorem names_rename_source
    (store : Store Path)
    {source target : Path}
    (different : source ≠ target) :
    (store.rename source target).names source = none := by
  unfold rename
  split
  · assumption
  · simp [different]

/-- Renaming a file leaves the names of the other paths alone. -/
theorem names_rename_other
    (store : Store Path)
    {source target other : Path}
    (notSource : other ≠ source)
    (notTarget : other ≠ target) :
    (store.rename source target).names other = store.names other := by
  unfold rename
  split
  · rfl
  · simp [notSource, notTarget]

/-- The only path that a rename creates is the target. -/
theorem touched_rename
    (store : Store Path)
    (source target path : Path)
    (member : path ∈ (store.rename source target).touched) :
    path ∈ store.touched ∨ path = target := by
  unfold rename at member
  split at member
  · exact .inl member
  · simpa using member

/-- Renaming a file only extends the log. -/
theorem touched_prefix_rename
    (store : Store Path)
    (source target : Path) :
    store.touched <+: (store.rename source target).touched := by
  unfold rename
  split
  · exact List.prefix_refl _
  · exact List.prefix_append _ _

@[simp] theorem data_remove
    (store : Store Path)
    (path : Path) :
    (store.remove path).data = store.data := by
  rfl

@[simp] theorem touched_remove
    (store : Store Path)
    (path : Path) :
    (store.remove path).touched = store.touched := by
  rfl

/-- Removing a file leaves the names of the other paths alone. -/
theorem names_remove_other
    (store : Store Path)
    {path other : Path}
    (different : other ≠ path) :
    (store.remove path).names other = store.names other := by
  simp [remove, different]

/-- Opening a file leaves the other paths alone. -/
theorem leavesAlone_openTruncate
    (store : Store Path)
    {path other : Path}
    (different : other ≠ path) :
    LeavesAlone other store (store.openTruncate path).2 where
  names := store.names_openTruncate_other different
  read := store.read_openTruncate_other different
  touched :=
    ⟨[path], store.touched_openTruncate path, by simpa using different⟩

/-- Renaming a file leaves the paths alone that are neither end of it. -/
theorem leavesAlone_rename
    (store : Store Path)
    {source target other : Path}
    (notSource : other ≠ source)
    (notTarget : other ≠ target) :
    LeavesAlone other store (store.rename source target) where
  names := names_rename_other store notSource notTarget
  read := by
    rw [Store.read, Store.read, data_rename,
      names_rename_other store notSource notTarget]
  touched := by
    unfold rename
    split
    · exact ⟨[], (List.append_nil _).symm, List.not_mem_nil⟩
    · exact ⟨[target], rfl, by simpa using notTarget⟩

/-- Removing a file leaves the other paths alone. -/
theorem leavesAlone_remove
    (store : Store Path)
    {path other : Path}
    (different : other ≠ path) :
    LeavesAlone other store (store.remove path) where
  names := store.names_remove_other different
  read := by
    rw [Store.read, Store.read, data_remove, store.names_remove_other different]
  touched := ⟨[], (List.append_nil _).symm, List.not_mem_nil⟩

end Store

end FileStore
