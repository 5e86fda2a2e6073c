import Mathlib
import ChatGateway.Proofs.Toml.RoundTrip

/-!
# Updates of the preferences on a disk that may refuse

An update reads the file of preferences, assigns some fields and saves what comes of it: the
directory is made, the text is written out, a temporary file is made, filled and flushed, and at
last it takes the place of the file.  The disk may refuse each of these acts.  No act but the
last one touches the file (`perform_file`), so an update is done as a whole or not at all, and
what it does is what `Preferences.update` says (`updateOn_eq`).

Over any updates, one after the other, the file holds for each field what was last assigned to
it by an update that succeeded (`updates_atomic`).
-/

set_option autoImplicit false

namespace ChatGateway.Preferences

/-! ## Fields -/

/-- What the file remembers. -/
inductive Field
  | thread
  | model
deriving DecidableEq

/-- The value of a field. -/
def get (p : Preferences) : Field → Option String
  | .thread => p.thread
  | .model => p.model

/-- The preferences with another value in one field. -/
def set (p : Preferences) : Field → Option String → Preferences
  | .thread, value => { p with thread := value }
  | .model, value => { p with model := value }

/-- The assignments that a change makes when it is given some preferences, in order. -/
abbrev Change := Preferences → List (Field × Option String)

/-- The preferences after some assignments. -/
def assign (p : Preferences) (assignments : List (Field × Option String)) : Preferences :=
  assignments.foldl (fun p a => p.set a.1 a.2) p

/-- The preferences after a change that was made to them as they are. -/
def Change.apply (change : Change) (p : Preferences) : Preferences :=
  p.assign (change p)

/-- What was last assigned to a field, if anything was. -/
def lastOf (x : Field) (assignments : List (Field × Option String)) : Option (Option String) :=
  ((assignments.filter fun a => a.1 = x).map Prod.snd).getLast?

/-- A field that is set has the value, and the others stay. -/
theorem get_set (p : Preferences) (x y : Field) (value : Option String) :
    (p.set x value).get y = if x = y then value else p.get y := by
  cases x <;> cases y <;> rfl

/-- The last assignment to a field is in the second part, if there is one. -/
theorem lastOf_append (x : Field) (first second : List (Field × Option String)) :
    lastOf x (first ++ second) = (lastOf x second).or (lastOf x first) := by
  simp [lastOf, List.getLast?_append]

/-- A field holds what was last assigned to it, and else what it held before. -/
theorem get_assign (p : Preferences) (assignments : List (Field × Option String)) (x : Field) :
    (p.assign assignments).get x = (lastOf x assignments).getD (p.get x) := by
  induction assignments generalizing p with
  | nil => rfl
  | cons a rest ih =>
    have hcons : lastOf x (a :: rest) = (lastOf x rest).or (lastOf x [a]) :=
      lastOf_append x [a] rest
    have hassign : p.assign (a :: rest) = (p.set a.1 a.2).assign rest := rfl
    rw [hassign, ih, hcons, get_set]
    by_cases h : a.1 = x
    · cases lastOf x rest <;> simp [lastOf, h]
    · cases lastOf x rest <;> simp [lastOf, h]

/-- A field that is not assigned has no last assignment. -/
theorem lastOf_eq_none {x : Field} {assignments : List (Field × Option String)}
    (h : x ∉ assignments.map Prod.fst) : lastOf x assignments = none := by
  have hnone : assignments.filter (fun a => a.1 = x) = [] := by
    rw [List.filter_eq_nil_iff]
    intro a ha hx
    exact h (of_decide_eq_true hx ▸ List.mem_map_of_mem ha)
  rw [lastOf, hnone]
  rfl

/-! ## Saving, act by act -/

/-- Where the disk may stop an update. -/
inductive Point
  | read
  | folder
  | text
  | create
  | write
  | sync
  | rename
deriving DecidableEq

/-- What an update meets with. -/
structure Circumstances where
  /-- Why it is stopped at a point, if it is; some fault stands for any reason. -/
  refusal : Point → Option DiskFault := fun _ => none
  /-- How many bytes get into the temporary file before a write is stopped. -/
  cut : Nat := 0

/-- The file of preferences and the bytes of a temporary file beside it. -/
structure Site where
  file : File
  temporary : Option (List UInt8) := none

/-- One act of saving. -/
inductive Act
  | makeFolder
  /-- The preferences are written out as a text, in memory. -/
  | spell
  | create
  | write (bs : List UInt8)
  | sync
  /-- The temporary file takes the place of the file. -/
  | rename

/-- The point of saving at which an act may be refused. -/
def Act.point : Act → Point
  | .makeFolder => .folder
  | .spell => .text
  | .create => .create
  | .write _ => .write
  | .sync => .sync
  | .rename => .rename

/-- What an act does that is not refused. -/
def Act.done : Act → Site → Site
  | .create, s => { s with temporary := some [] }
  | .write bs, s => { s with temporary := s.temporary.map (· ++ bs) }
  | .rename, s =>
    match s.temporary with
    | none => s
    | some bs => ⟨.bytes bs, none⟩
  | _, s => s

/-- What an act leaves behind that is refused. -/
def Act.stopped (c : Circumstances) : Act → Site → Site
  | .write bs, s => { s with temporary := s.temporary.map (· ++ bs.take c.cut) }
  | _, s => s

/-- Some acts, one after the other, up to the first that is refused. -/
def perform (c : Circumstances) : List Act → Site → Option DiskFault × Site
  | [], s => (none, s)
  | a :: rest, s =>
    match c.refusal a.point with
    | some fault => (some fault, a.stopped c s)
    | none => perform c rest (a.done s)

/-- What is done before the file is replaced. -/
def preparations (p : Preferences) : List Act :=
  [.makeFolder, .spell, .create, .write (Text.Utf8.encode p.toText.toList), .sync]

/-- The acts of saving some preferences. -/
def acts (p : Preferences) : List Act :=
  p.preparations ++ [.rename]

/-- What is read of a file; one that is absent is not opened. -/
def loadOn (c : Circumstances) (f : File) : Except FileFailure Preferences :=
  match c.refusal .read with
  | some fault => if f = .absent then load f else .error (.read fault)
  | none => load f

/-- The outcome of an update, and the file after it; the temporary file is removed. -/
def updateOn (c : Circumstances) (change : Change) (f : File) :
    Except FileFailure Preferences × File :=
  match loadOn c f with
  | .error e => (.error e, f)
  | .ok p =>
    let p' := change.apply p
    match perform c p'.acts ⟨f, none⟩ with
    | (some fault, s) => (.error (.write fault), s.file)
    | (none, s) => (.ok p', s.file)

/-- Why a save is refused, if it is: what stops it first. -/
def stops (c : Circumstances) : Option DiskFault :=
  [Point.folder, .text, .create, .write, .sync, .rename].findSome? c.refusal

/-- Acts are performed one part after another, unless one is refused. -/
theorem perform_append (c : Circumstances) (first second : List Act) (s : Site) :
    perform c (first ++ second) s =
      match perform c first s with
      | (some fault, s') => (some fault, s')
      | (none, s') => perform c second s' := by
  induction first generalizing s with
  | nil => rfl
  | cons a rest ih =>
    cases h : c.refusal a.point with
    | none => simp only [List.cons_append, perform, h, ih]
    | some fault => simp only [List.cons_append, perform, h]

/-- What stops some acts does not depend on the site. -/
theorem perform_fst (c : Circumstances) (list : List Act) (s : Site) :
    (perform c list s).1 = (list.map Act.point).findSome? c.refusal := by
  induction list generalizing s with
  | nil => rfl
  | cons a rest ih =>
    cases h : c.refusal a.point with
    | none => simp only [perform, h, List.map_cons, List.findSome?_cons, ih]
    | some fault => simp only [perform, h, List.map_cons, List.findSome?_cons]

/-- An act that is refused leaves the file. -/
theorem Act.stopped_file (c : Circumstances) (a : Act) (s : Site) :
    (a.stopped c s).file = s.file := by
  cases a <;> rfl

/-- Only the renaming touches the file. -/
theorem Act.done_file {a : Act} (h : a.point ≠ .rename) (s : Site) : (a.done s).file = s.file := by
  cases a with
  | rename => exact absurd rfl h
  | _ => rfl

/-- Acts without a renaming leave the file as it is, wherever they are stopped. -/
theorem perform_file (c : Circumstances) {list : List Act} (h : ∀ a ∈ list, a.point ≠ .rename)
    (s : Site) : (perform c list s).2.file = s.file := by
  induction list generalizing s with
  | nil => rfl
  | cons a rest ih =>
    obtain ⟨ha, hrest⟩ := List.forall_mem_cons.1 h
    cases hrefusal : c.refusal a.point with
    | some fault => simp only [perform, hrefusal, a.stopped_file]
    | none => simp only [perform, hrefusal, ih hrest, Act.done_file ha]

/-- What prepares the renaming does not rename. -/
theorem not_rename_of_mem (p : Preferences) : ∀ a ∈ p.preparations, a.point ≠ .rename := by
  simp [preparations, Act.point]

/-- Acts of which only the last is a renaming leave the file as it is if they are stopped. -/
theorem perform_file_of_stopped (c : Circumstances) {list : List Act}
    (h : ∀ a ∈ list, a.point ≠ .rename) {s : Site} {fault : DiskFault}
    (stopped : (perform c (list ++ [.rename]) s).1 = some fault) :
    (perform c (list ++ [.rename]) s).2.file = s.file := by
  have hprepared := perform_file c h s
  rw [perform_append] at stopped ⊢
  rcases hfirst : perform c list s with ⟨_ | earlier, s'⟩
  · rw [hfirst] at hprepared stopped
    -- the renaming itself is refused
    cases hrefusal : c.refusal .rename with
    | none => simp [perform, Act.point, hrefusal] at stopped
    | some late =>
      simp only [perform, Act.point, hrefusal, Act.stopped_file]
      exact hprepared
  · rw [hfirst] at hprepared
    exact hprepared

/-- A save that nothing stops leaves the text of the preferences in the file. -/
theorem perform_acts (c : Circumstances) (p : Preferences) (f : File) (unstopped : stops c = none) :
    (perform c p.acts ⟨f, none⟩).2.file = .bytes (Text.Utf8.encode p.toText.toList) := by
  have hnone := List.findSome?_eq_none_iff.1 unstopped
  have hfolder : c.refusal .folder = none := hnone _ (by simp)
  have htext : c.refusal .text = none := hnone _ (by simp)
  have hcreate : c.refusal .create = none := hnone _ (by simp)
  have hwrite : c.refusal .write = none := hnone _ (by simp)
  have hsync : c.refusal .sync = none := hnone _ (by simp)
  have hrename : c.refusal .rename = none := hnone _ (by simp)
  simp [acts, preparations, perform, Act.point, Act.done, hfolder, htext, hcreate, hwrite, hsync,
    hrename]

/-- At every moment of a save the file is as it was before, or it holds all of the new text. -/
theorem perform_take (c : Circumstances) (p : Preferences) (f : File) (n : Nat) :
    (perform c (p.acts.take n) ⟨f, none⟩).2.file = f ∨
      stops c = none ∧
        (perform c (p.acts.take n) ⟨f, none⟩).2.file =
          .bytes (Text.Utf8.encode p.toText.toList) := by
  by_cases hn : n ≤ p.preparations.length
  · refine .inl (perform_file c (fun a ha => ?_) _)
    rw [acts, List.take_append_of_le_length hn] at ha
    exact p.not_rename_of_mem a (List.mem_of_mem_take ha)
  · have hall : p.acts.take n = p.acts := List.take_of_length_le (by simp [acts]; omega)
    have hstops : (perform c p.acts ⟨f, none⟩).1 = stops c := perform_fst c p.acts _
    rw [hall]
    cases h : stops c with
    | none => exact .inr ⟨rfl, perform_acts c p f h⟩
    | some fault => exact .inl (perform_file_of_stopped c p.not_rename_of_mem (hstops.trans h))

/-! ## Updates -/

/-- An update that is refused the reading gives that failure and leaves the file. -/
theorem updateOn_of_unread {c : Circumstances} {f : File} {e : FileFailure} (change : Change)
    (unread : loadOn c f = .error e) : updateOn c change f = (.error e, f) := by
  simp only [updateOn, unread]

/-- An update that reads the file and is stopped then gives that failure and leaves the file. -/
theorem updateOn_of_stopped {c : Circumstances} {f : File} {p : Preferences} {fault : DiskFault}
    (change : Change) (read : loadOn c f = .ok p) (stopped : stops c = some fault) :
    updateOn c change f = (.error (.write fault), f) := by
  have hfirst : (perform c (change.apply p).acts ⟨f, none⟩).1 = some fault :=
    (perform_fst c _ _).trans stopped
  have hfile : (perform c (change.apply p).acts ⟨f, none⟩).2.file = f :=
    perform_file_of_stopped c (change.apply p).not_rename_of_mem hfirst
  rcases hperform : perform c (change.apply p).acts ⟨f, none⟩ with ⟨outcome, s⟩
  rw [hperform] at hfirst hfile
  obtain rfl : outcome = some fault := hfirst
  obtain rfl : s.file = f := hfile
  simp only [updateOn, read, hperform]

/-- An update that reads the file and is not stopped replaces the file. -/
theorem updateOn_of_unstopped {c : Circumstances} {f : File} {p : Preferences} (change : Change)
    (read : loadOn c f = .ok p) (unstopped : stops c = none) :
    updateOn c change f =
      (.ok (change.apply p), .bytes (Text.Utf8.encode (change.apply p).toText.toList)) := by
  have hfirst : (perform c (change.apply p).acts ⟨f, none⟩).1 = none :=
    (perform_fst c _ _).trans unstopped
  have hfile := perform_acts c (change.apply p) f unstopped
  rcases hperform : perform c (change.apply p).acts ⟨f, none⟩ with ⟨outcome, s⟩
  rw [hperform] at hfirst hfile
  obtain rfl : outcome = none := hfirst
  have hs : s.file = .bytes (Text.Utf8.encode (change.apply p).toText.toList) := hfile
  simp only [updateOn, read, hperform, hs]

/-- What is read from a file that may be read is what the file says. -/
theorem load_of_loadOn {c : Circumstances} {f : File} {p : Preferences}
    (read : loadOn c f = .ok p) : load f = .ok p := by
  unfold loadOn at read
  split at read
  · split at read
    · exact read
    · cases read
  · exact read

/-- Where the reading is not refused, an update is the update that the disk refuses for the
first reason that there is. -/
theorem updateOn_eq {c : Circumstances} (f : File) (change : Change)
    (read : loadOn c f = load f) : updateOn c change f = update (stops c) change.apply f := by
  cases hload : load f with
  | error e =>
    rw [updateOn_of_unread change (read.trans hload)]
    simp only [update, hload]
  | ok p =>
    have hread := read.trans hload
    cases hstops : stops c with
    | some fault =>
      rw [updateOn_of_stopped change hread hstops]
      simp only [update, hload, File.replace]
    | none =>
      rw [updateOn_of_unstopped change hread hstops]
      cases f with
      | directory => cases hload
      | absent => simp only [update, hload, File.replace]
      | bytes content => simp only [update, hload, File.replace]

/-- An update succeeds exactly if the file can be read and nothing stops the save. -/
theorem updateOn_eq_ok_iff (c : Circumstances) (change : Change) (f : File) (p' : Preferences) :
    (updateOn c change f).1 = .ok p' ↔
      ∃ p, loadOn c f = .ok p ∧ stops c = none ∧ p' = change.apply p := by
  cases hread : loadOn c f with
  | error e => simp [updateOn_of_unread change hread]
  | ok p =>
    cases hstops : stops c with
    | some fault => simp [updateOn_of_stopped change hread hstops]
    | none => simp [updateOn_of_unstopped change hread hstops, eq_comm]

/-- An update that fails leaves the file as it was. -/
theorem updateOn_error {c : Circumstances} {change : Change} {f : File} {e : FileFailure}
    (failed : (updateOn c change f).1 = .error e) : (updateOn c change f).2 = f := by
  cases hread : loadOn c f with
  | error e => rw [updateOn_of_unread change hread]
  | ok p =>
    cases hstops : stops c with
    | some fault => rw [updateOn_of_stopped change hread hstops]
    | none => simp [updateOn_of_unstopped change hread hstops] at failed

/-- An update that succeeds returns what is read afterwards: what was read before, with the
change applied to it. -/
theorem updateOn_ok {c : Circumstances} {change : Change} {f : File} {p' : Preferences}
    (done : (updateOn c change f).1 = .ok p') :
    ∃ p, load f = .ok p ∧ p' = change.apply p ∧ load (updateOn c change f).2 = .ok p' := by
  obtain ⟨p, hread, hstops, rfl⟩ := (updateOn_eq_ok_iff c change f p').1 done
  refine ⟨p, load_of_loadOn hread, rfl, ?_⟩
  rw [updateOn_of_unstopped change hread hstops]
  exact load_toText _

/-! ### One after the other -/

/-- What an update assigns, if it succeeds. -/
def assigned (c : Circumstances) (change : Change) (f : File) : List (Field × Option String) :=
  match (updateOn c change f).1, load f with
  | .ok _, .ok p => change p
  | _, _ => []

/-- The file after some updates. -/
def fileAfter : List (Circumstances × Change) → File → File
  | [], f => f
  | (c, change) :: rest, f => fileAfter rest (updateOn c change f).2

/-- What those of some updates assign that succeed, in order. -/
def assignedIn : List (Circumstances × Change) → File → List (Field × Option String)
  | [], _ => []
  | (c, change) :: rest, f =>
    assigned c change f ++ assignedIn rest (updateOn c change f).2

/-- After an update the file holds what was read before with the assignments that it made, if
it succeeded. -/
theorem load_updateOn (c : Circumstances) (change : Change) {f : File} {p : Preferences}
    (understood : load f = .ok p) :
    load (updateOn c change f).2 = .ok (p.assign (assigned c change f)) := by
  cases houtcome : (updateOn c change f).1 with
  | error e =>
    rw [updateOn_error houtcome, understood]
    simp [assigned, houtcome, assign]
  | ok p' =>
    obtain ⟨q, hq, rfl, hload⟩ := updateOn_ok houtcome
    obtain rfl : q = p := by simpa [understood, eq_comm] using hq
    rw [hload]
    simp [assigned, houtcome, understood, Change.apply]

/-- After some updates the file holds what was read before with all assignments that succeeded. -/
theorem load_fileAfter (updates : List (Circumstances × Change)) {f : File} {p : Preferences}
    (understood : load f = .ok p) :
    load (fileAfter updates f) = .ok (p.assign (assignedIn updates f)) := by
  induction updates generalizing f p with
  | nil => exact understood
  | cons u rest ih =>
    obtain ⟨c, change⟩ := u
    have hrest := ih (load_updateOn c change understood)
    rw [fileAfter, hrest, assign, assign, assignedIn, assign, List.foldl_append]

/-- A file that cannot be read or understood is never written. -/
theorem fileAfter_of_error (updates : List (Circumstances × Change)) {f : File} {e : FileFailure}
    (unusable : load f = .error e) : fileAfter updates f = f := by
  induction updates with
  | nil => rfl
  | cons u rest ih =>
    obtain ⟨c, change⟩ := u
    cases houtcome : (updateOn c change f).1 with
    | error e' => rw [fileAfter, updateOn_error houtcome, ih]
    | ok p' =>
      obtain ⟨p, hload, -⟩ := updateOn_ok houtcome
      simp [unusable] at hload

/-- **Updates of the preferences.**  Where the reading is not refused, an update act by act comes
to what `update` says.  It succeeds exactly if the file can be read and understood and the disk
refuses none of the acts of saving.  One that fails leaves the file exactly as it was, and at
every moment of a save the file is as before or as the update leaves it.  One that succeeds
returns what is read afterwards, which differs from what was read before in fields that the
change assigns and in no others.  So after any updates each field holds what was last assigned
to it by one that succeeded, and a file that cannot be read or understood is still the same. -/
theorem updates_atomic :
    (∀ (c : Circumstances) (change : Change) (f : File), loadOn c f = load f →
      updateOn c change f = update (stops c) change.apply f) ∧
    (∀ (c : Circumstances) (change : Change) (f : File) (p' : Preferences),
      (updateOn c change f).1 = .ok p' ↔
        ∃ p, loadOn c f = .ok p ∧ stops c = none ∧ p' = change.apply p) ∧
    (∀ (c : Circumstances) (change : Change) (f : File) (e : FileFailure),
      (updateOn c change f).1 = .error e → (updateOn c change f).2 = f) ∧
    (∀ (c : Circumstances) (change : Change) (f : File) (p : Preferences) (n : Nat),
      loadOn c f = .ok p →
        (perform c ((change.apply p).acts.take n) ⟨f, none⟩).2.file = f ∨
        (perform c ((change.apply p).acts.take n) ⟨f, none⟩).2.file = (updateOn c change f).2) ∧
    (∀ (c : Circumstances) (change : Change) (f : File) (p' : Preferences),
      (updateOn c change f).1 = .ok p' →
        ∃ p, load f = .ok p ∧ load (updateOn c change f).2 = .ok p' ∧
          ∀ x, x ∉ (change p).map Prod.fst → p'.get x = p.get x) ∧
    (∀ (updates : List (Circumstances × Change)) (f : File) (p : Preferences), load f = .ok p →
      ∃ p', load (fileAfter updates f) = .ok p' ∧
        ∀ x, p'.get x = (lastOf x (assignedIn updates f)).getD (p.get x)) ∧
    ∀ (updates : List (Circumstances × Change)) (f : File) (e : FileFailure),
      load f = .error e → fileAfter updates f = f := by
  refine ⟨fun c change f => updateOn_eq f change, updateOn_eq_ok_iff,
    fun c change f e => updateOn_error, ?_, ?_, ?_,
    fun updates f e => fileAfter_of_error updates⟩
  · intro c change f p n read
    rcases perform_take c (change.apply p) f n with hbefore | ⟨hstops, hafter⟩
    · exact .inl hbefore
    · rw [updateOn_of_unstopped change read hstops]
      exact .inr hafter
  · intro c change f p' done
    obtain ⟨p, hread, rfl, hload⟩ := updateOn_ok done
    refine ⟨p, hread, hload, fun x hx => ?_⟩
    rw [Change.apply, get_assign, lastOf_eq_none hx, Option.getD_none]
  · intro updates f p understood
    exact ⟨_, load_fileAfter updates understood, get_assign p _⟩

/-- A thread is remembered; a flush fails when another thread and a model are to be; then the
name of the thread is taken for the model. -/
def unsteadyUpdates : List (Circumstances × Change) :=
  [({}, fun _ => [(.thread, some "t1")]),
    ({ refusal := fun point => if point = .sync then some .isBusy else none },
      fun _ => [(.thread, some "t2"), (.model, some "big")]),
    ({}, fun p => [(.model, p.thread)])]

/-- Nothing of the update that failed is in the file. -/
theorem updates_atomic_unsteady :
    ∃ p, load (fileAfter unsteadyUpdates .absent) = .ok p ∧
      p.thread = some "t1" ∧ p.model = some "t1" := by
  have hassigned : assignedIn unsteadyUpdates .absent =
      [(.thread, some "t1"), (.model, some "t1")] := by
    decide +kernel
  obtain ⟨-, -, -, -, -, hfields, -⟩ := updates_atomic
  obtain ⟨p, hload, hget⟩ := hfields unsteadyUpdates .absent {} rfl
  rw [hassigned] at hget
  exact ⟨p, hload, hget .thread, hget .model⟩

end ChatGateway.Preferences
