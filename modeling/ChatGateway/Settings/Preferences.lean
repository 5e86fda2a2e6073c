import ChatGateway.Settings.Basic

/-!
# Preferences

What is remembered between runs: the latest thread and the model that was chosen.  An
update reads the file, changes what it read and writes it back; if any step fails, the
file stays as it was.
-/

set_option autoImplicit false

namespace ChatGateway

/-- What is remembered between runs. -/
structure Preferences where
  thread : Option String := none
  model : Option String := none
deriving DecidableEq, Repr

namespace Preferences

/-- The preferences in the tables of a file. -/
def ofMembers (ms : Toml.Members) : Option Preferences := do
  let thread ← ms.optional Toml.Node.text? "last_thread_id"
  let model ← ms.optional Toml.Node.text? "selected_model"
  some ⟨thread, model⟩

/-- The preferences in a file. -/
def load (f : File) : Except FileFailure Preferences :=
  f.load ofMembers {}

/-- The preferences as the text of a file. -/
def toText (p : Preferences) : String :=
  Toml.fileText
    (Settings.pair "last_thread_id" (p.thread.map .text) ++
      Settings.pair "selected_model" (p.model.map .text)) []

/-- The outcome of changing the preferences in a file, and the file after it.  `refusal`
is why the disk does not allow the file to be written, if it does not. -/
def update (refusal : Option DiskFault) (change : Preferences → Preferences) (f : File) :
    Except FileFailure Preferences × File :=
  match load f with
  | .error e => (.error e, f)
  | .ok p =>
    let p' := change p
    match f.replace refusal p'.toText with
    | (.ok (), f') => (.ok p', f')
    | (.error e, f') => (.error e, f')

/-- An update that fails leaves the file as it was. -/
theorem update_error (refusal : Option DiskFault) (change : Preferences → Preferences)
    (f : File) (e : FileFailure) (h : (update refusal change f).1 = .error e) :
    (update refusal change f).2 = f := by
  unfold update at h ⊢
  cases hl : load f with
  | error e' => rfl
  | ok p =>
    simp only [hl] at h ⊢
    rcases hr : f.replace refusal (change p).toText with ⟨r, f'⟩
    cases r with
    | ok u => simp [hr] at h
    | error e' =>
      have := File.replace_error refusal (change p).toText f e' (by rw [hr])
      rw [hr] at this
      simpa using this

end Preferences

end ChatGateway
