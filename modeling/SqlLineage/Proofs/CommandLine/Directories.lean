import Mathlib.Tactic.SplitIfs
import SqlLineage.CommandLine.Directory

/-!
# Writing a file

A file that is written is the only one that changes: whatever path leads to its place reads the text
afterwards, what stands at any other place is what stood there, and every path leads where it led.
-/

namespace SqlLineage.CommandLine.Directory

/-- A directory becomes another one by the file at a place receiving a text. -/
structure Receives (before : Directory) (place : Place) (text : String) (after : Directory) :
    Prop where
  content : after.content? place = some (.text text)
  file : after.isDirectory place = false
  others : ∀ other, other ≠ place → after.content? other = before.content? other
  directories : ∀ other, after.isDirectory other = before.isDirectory other
  links : ∀ other, after.link? other = before.link? other
  refusals : ∀ access other, after.refusal? access other = before.refusal? access other
  home : after.home = before.home

/-! ## Walking -/

section Walking

variable {before after : Directory} {place : Place} {text : String}

theorem obstacle?_eq_none_iff {directory : Directory} {place : Place} :
    directory.obstacle? place = none ↔
      directory.isDirectory place ∧ directory.refusal? .search place = none := by
  unfold obstacle?
  split_ifs with hdirectory <;> simp [hdirectory]

/-- Nothing new stands in the way, and nothing gets out of it. -/
theorem Receives.obstacle?_eq_none_iff (hreceives : before.Receives place text after)
    (passed : Place) : after.obstacle? passed = none ↔ before.obstacle? passed = none := by
  rw [Directory.obstacle?_eq_none_iff, Directory.obstacle?_eq_none_iff, hreceives.directories,
    hreceives.refusals]

theorem Receives.walkNames_eq_ok_iff (hreceives : before.Receives place text after)
    {follow follow' : Place → List String → Except FileFault Place}
    (hfollow : ∀ start names target,
      follow' start names = .ok target ↔ follow start names = .ok target)
    (start : Place) (names : List String) (target : Place) :
    after.walkNames follow' start names = .ok target ↔
      before.walkNames follow start names = .ok target := by
  induction names generalizing start with
  | nil => rfl
  | cons name rest ih =>
    rw [walkNames, walkNames, hreceives.links]
    have hobstacle := hreceives.obstacle?_eq_none_iff start
    cases hbefore : before.obstacle? start with
    | some fault =>
      cases hafter : after.obstacle? start with
      | some fault' => simp
      | none => simp [hbefore, hafter] at hobstacle
    | none =>
      rw [hobstacle.mpr hbefore]
      cases before.link? (start.enter name) with
      | some target => exact hfollow _ _ _
      | none => exact ih _

theorem Receives.walk_eq_ok_iff (hreceives : before.Receives place text after) (links : Nat) :
    ∀ start names target,
      after.walk links start names = .ok target ↔ before.walk links start names = .ok target := by
  induction links with
  | zero => exact hreceives.walkNames_eq_ok_iff (fun _ _ _ => Iff.rfl)
  | succ links ih => exact hreceives.walkNames_eq_ok_iff ih

/-- Every path leads where it led. -/
theorem Receives.locate_eq_ok_iff (hreceives : before.Receives place text after) (path : String)
    (target : Place) : after.locate path = .ok target ↔ before.locate path = .ok target := by
  unfold locate
  split_ifs
  · rfl
  · simp only [walkFor, homePlace, hreceives.home]
    exact hreceives.walk_eq_ok_iff _ _ _ _

end Walking

/-! ## Reading -/

section Reading

variable {before after : Directory} {place : Place} {path text : String}

theorem read_of_locate {directory : Directory} (hlocate : directory.locate path = .ok place) :
    directory.read path = directory.readAt place := by
  rw [read, hlocate]
  rfl

/-- What is written is read along every path to it. -/
theorem Receives.read (hreceives : before.Receives place text after)
    (hlocate : before.locate path = .ok place) (hreadable : before.refusal? .read place = none) :
    after.read path = .ok text := by
  rw [read_of_locate ((hreceives.locate_eq_ok_iff path place).mpr hlocate), readAt, stands,
    hreceives.refusals, hreadable, hreceives.content, hreceives.file]
  rfl

/-- What is read along any other path is what it was. -/
theorem Receives.read_of_ne (hreceives : before.Receives place text after) {other : Place}
    (hlocate : before.locate path = .ok other) (hother : other ≠ place) :
    after.read path = before.read path := by
  rw [read_of_locate ((hreceives.locate_eq_ok_iff path other).mpr hlocate), read_of_locate hlocate,
    readAt, readAt, stands, stands, hreceives.refusals, hreceives.directories,
    hreceives.others other hother]

end Reading

/-! ## Writing -/

section Writing

variable {directory changed : Directory} {place : Place} {path text : String}

/-- A place that is no directory receives a text by being written. -/
theorem receives_written (hfile : directory.isDirectory place = false) :
    directory.Receives place text
      { directory with written := (place, text) :: directory.written } where
  content := by simp [content?]
  file := hfile
  others other hother := by
    have hne : (other == place) = false := by simpa using hother
    simp only [content?, List.lookup_cons, hne]
    rfl
  directories _ := rfl
  links _ := rfl
  refusals _ _ := rfl
  home := rfl

theorem receives_of_writeAt (hwrite : directory.writeAt place text = .ok changed) :
    directory.Receives place text changed := by
  unfold writeAt at hwrite
  split at hwrite
  · cases hwrite
  · next hfile =>
    split at hwrite
    · cases hwrite
    · cases hwrite
      exact receives_written (by simpa using hfile)

/-- What is written is what the file holds that the path leads to, and nothing else changes. -/
theorem receives_of_write (hwrite : directory.write path text = .ok changed) :
    ∃ place, directory.locate path = .ok place ∧ directory.Receives place text changed := by
  unfold write at hwrite
  split at hwrite
  · cases hparent : directory.walkFor path (parentNames path) <;> rw [hparent] at hwrite <;>
      cases hwrite
  · cases hlocate : directory.locate path with
    | error fault =>
      rw [hlocate] at hwrite
      cases hwrite
    | ok place =>
      rw [hlocate] at hwrite
      exact ⟨place, rfl, receives_of_writeAt hwrite⟩

end Writing

end SqlLineage.CommandLine.Directory
