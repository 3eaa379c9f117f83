import Mathlib.Logic.Function.Basic

/-!
# File systems that forget on a crash

Names lead to files, each to a file of its own. What was written to a file
survives a crash once it is synced; before that a crash may leave anything in
its place. Directory entries change at once, but a crash may bring back one that
a name had earlier.
-/
namespace Foundation

universe u

structure File where
  contents : List UInt8
  synced : Bool
  deriving DecidableEq

structure FileSystem (ν : Type u) where
  live : ν → Option File
  -- What a crash may bring back.
  older : ν → List (Option File)

namespace FileSystem

variable {ν : Type u}

/-- What a reader finds under a name. -/
def read (fs : FileSystem ν) (name : ν) : Option (List UInt8) := (fs.live name).map File.contents

/-- What a crash leaves of an entry. -/
inductive Survives : Option File → Option File → Prop where
  | missing : Survives none none
  | file (file : File) (contents : List UInt8)
      (kept : file.synced = true → contents = file.contents) :
      Survives (some file) (some ⟨contents, true⟩)

/-- A crash leaves one of the entries that a name had; what is read from disk is on disk. -/
structure Crash (before after : FileSystem ν) : Prop where
  survives : ∀ name, ∃ entry ∈ before.live name :: before.older name,
    Survives entry (after.live name)
  settled : ∀ name, after.older name = []

/-- Every entry a name may turn out to have is on disk, with contents that are allowed. -/
def Holds (fs : FileSystem ν) (name : ν) (allowed : Option (List UInt8) → Prop) : Prop :=
  ∀ entry ∈ fs.live name :: fs.older name,
    (∀ file, entry = some file → file.synced = true) ∧ allowed (entry.map File.contents)

/-- A name whose entry is not touched keeps what a crash may make of it too. -/
def SameAt (name : ν) (fs fs' : FileSystem ν) : Prop :=
  fs'.live name = fs.live name ∧ fs'.older name = fs.older name

variable {fs fs' fs'' : FileSystem ν} {name other : ν}
  {allowed allowed' : Option (List UInt8) → Prop}

theorem SameAt.refl (name : ν) (fs : FileSystem ν) : SameAt name fs fs := ⟨rfl, rfl⟩

theorem SameAt.trans (first : SameAt name fs fs') (second : SameAt name fs' fs'') :
    SameAt name fs fs'' :=
  ⟨second.1.trans first.1, second.2.trans first.2⟩

theorem SameAt.read (same : SameAt name fs fs') : fs'.read name = fs.read name := by
  rw [FileSystem.read, FileSystem.read, same.1]

theorem Holds.read (holds : fs.Holds name allowed) : allowed (fs.read name) :=
  (holds _ List.mem_cons_self).2

theorem Holds.mono (holds : fs.Holds name allowed)
    (weaker : ∀ contents, allowed contents → allowed' contents) : fs.Holds name allowed' := by
  intro entry member
  obtain ⟨synced, allows⟩ := holds entry member
  exact ⟨synced, weaker _ allows⟩

theorem Holds.same (holds : fs.Holds name allowed) (same : SameAt name fs fs') :
    fs'.Holds name allowed := by
  rw [Holds, same.1, same.2]
  exact holds

theorem Holds.crash (holds : fs.Holds name allowed) (crash : Crash fs fs') :
    fs'.Holds name allowed := by
  obtain ⟨entry, member, survives⟩ := crash.survives name
  obtain ⟨synced, allows⟩ := holds entry member
  intro entry' member'
  rw [crash.settled name] at member'
  obtain rfl := List.mem_singleton.mp member'
  generalize fs'.live name = left at survives
  cases survives with
  | missing => exact ⟨by simp, allows⟩
  | file file contents kept =>
    rw [kept (synced file rfl)]
    refine ⟨?_, allows⟩
    rintro _ ⟨⟩
    rfl

/-! ### Operations -/

variable [DecidableEq ν]

def set (fs : FileSystem ν) (name : ν) (entry : Option File) : FileSystem ν where
  live := Function.update fs.live name entry
  older := Function.update fs.older name (fs.live name :: fs.older name)

/-- Creating a file, or truncating the one that is there. -/
def create (fs : FileSystem ν) (name : ν) : FileSystem ν := fs.set name (some ⟨[], false⟩)

def append (fs : FileSystem ν) (name : ν) (bytes : List UInt8) : FileSystem ν :=
  match fs.live name with
  | none => fs
  | some file => fs.set name (some ⟨file.contents ++ bytes, false⟩)

def sync (fs : FileSystem ν) (name : ν) : FileSystem ν :=
  match fs.live name with
  | none => fs
  | some file => fs.set name (some ⟨file.contents, true⟩)

def rename (fs : FileSystem ν) (source target : ν) : FileSystem ν :=
  (fs.set target (fs.live source)).set source none

theorem sameAt_set (different : other ≠ name) (entry : Option File) :
    SameAt name fs (fs.set other entry) :=
  ⟨Function.update_of_ne different.symm _ _, Function.update_of_ne different.symm _ _⟩

theorem sameAt_create (different : other ≠ name) : SameAt name fs (fs.create other) :=
  sameAt_set different _

theorem sameAt_append (different : other ≠ name) (bytes : List UInt8) :
    SameAt name fs (fs.append other bytes) := by
  unfold append
  split
  · exact .refl name fs
  · exact sameAt_set different _

theorem sameAt_sync (different : other ≠ name) : SameAt name fs (fs.sync other) := by
  unfold sync
  split
  · exact .refl name fs
  · exact sameAt_set different _

@[simp] theorem live_set (fs : FileSystem ν) (name : ν) (entry : Option File) :
    (fs.set name entry).live name = entry :=
  Function.update_self ..

@[simp] theorem older_set (fs : FileSystem ν) (name : ν) (entry : Option File) :
    (fs.set name entry).older name = fs.live name :: fs.older name :=
  Function.update_self ..

theorem live_append {file : File} (present : fs.live name = some file) (bytes : List UInt8) :
    (fs.append name bytes).live name = some ⟨file.contents ++ bytes, false⟩ := by
  simp [append, present]

theorem live_sync {file : File} (present : fs.live name = some file) :
    (fs.sync name).live name = some ⟨file.contents, true⟩ := by
  simp [sync, present]

/-- The target of a rename has the entry of its source, and had those it had. -/
theorem rename_target (different : other ≠ name) :
    (fs.rename other name).live name = fs.live other ∧
      (fs.rename other name).older name = fs.live name :: fs.older name := by
  have untouched : SameAt name (fs.set name (fs.live other)) (fs.rename other name) :=
    sameAt_set different none
  exact ⟨untouched.1.trans (live_set ..), untouched.2.trans (older_set ..)⟩

theorem Holds.rename {file : File} (holds : fs.Holds name allowed) (different : other ≠ name)
    (present : fs.live other = some file) (synced : file.synced = true)
    (allows : allowed (some file.contents)) : (fs.rename other name).Holds name allowed := by
  intro entry member
  rw [(rename_target different).1, (rename_target different).2, present] at member
  rcases List.mem_cons.mp member with rfl | earlier
  · refine ⟨?_, allows⟩
    rintro _ ⟨⟩
    exact synced
  · exact holds entry earlier

end FileSystem

end Foundation
