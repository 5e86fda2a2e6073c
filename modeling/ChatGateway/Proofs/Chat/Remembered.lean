import Mathlib
import ChatGateway.Proofs.Chat.Timetable
import ChatGateway.Proofs.Chat.Turns
import ChatGateway.Proofs.Toml.RoundTrip

/-!
# The thread that is remembered

A runtime writes the thread of its conversation into a file of preferences.  Here its steps
are labelled with the uses of the conversation: which turn was taken, what the conversation
answered, and why the disk refused the update that followed, if it did.  The steps without
refusals are the steps of `Runtime.Step` (`step_iff_moves`).

Two things are read off the labels of a run.  The thread of the conversation is the one that
it last asked to have remembered (`Run.thread_eq`).  The file is what the updates make of it,
one use after the other (`Run.preferences_eq`): an update that the disk refuses leaves the
file as it is, one that it allows leaves the model alone, and a file that cannot be
understood is never written.  No step looks at the file, so a run with one file is a run with
any other, or with none (`Run.withPreferences`).
-/

set_option autoImplicit false

namespace ChatGateway

/-! ## Runs on a disk that may refuse -/

namespace Runtime

/-- One use of the conversation of a runtime. -/
structure Use where
  turn : Turn
  answer : Conversation.Answer
  /-- Why the disk refuses to have the file updated, if it does. -/
  refusal : Option DiskFault := none
deriving DecidableEq, Repr

/-- The thread, or none, that a use asks to have remembered. -/
def Use.asks (u : Use) : Option (Option String) :=
  match u.answer.command with
  | some (.remember thread) => some thread
  | _ => none

/-- The file after a use. -/
def Use.fileAfter (u : Use) (f : File) : File :=
  match u.asks with
  | none => f
  | some thread => (Preferences.update u.refusal (fun p => { p with thread := thread }) f).2

/-- The conversation of `r` takes a turn. -/
def use (r : Runtime) (refusal : Option DiskFault) (t : Turn) : Use :=
  ⟨t, r.conversation.take t, refusal⟩

/-- The runtime after its conversation took a turn. -/
def afterUse (r : Runtime) (refusal : Option DiskFault) : Turn → Runtime
  | .act a =>
    { r.apply a with preferences := r.preferences.map (r.use refusal (.act a)).fileAfter }
  | .tell => { r with conversation := r.conversation.takeNotices.2 }

/-- What can happen next without the conversation: an action is put on its channel, or a task
goes on. -/
inductive Works (gives : Gives) (r : Runtime) : Runtime → Prop
  | dispatched (a : Action) : Works gives r { r with actions := r.actions ++ [a] }
  | replyItem {stream : Nat} {request : ChatRequest} {item : Except Failure Chunk}
      (running : (stream, request) ∈ r.replies)
      (given : gives request (decide (.stream stream ∈ r.cancelled)) item) :
      Works gives r (r.forward stream (some item))
  | replyEnd {stream : Nat} {request : ChatRequest} (running : (stream, request) ∈ r.replies) :
      Works gives r (r.forward stream none)
  | replyStopped {stream : Nat} {request : ChatRequest}
      (running : (stream, request) ∈ r.replies) (stopped : .stream stream ∈ r.cancelled) :
      Works gives r (r.endReply stream)
  | loadEnd {request : Nat} {thread : String} (running : (request, thread) ∈ r.loads)
      (result : Option (Except Failure (List ThreadMessage))) :
      Works gives r (r.finishLoad request thread (result.getD (.error .emptyResponse)))
  | loadStopped {request : Nat} {thread : String} (running : (request, thread) ∈ r.loads)
      (stopped : .load request ∈ r.cancelled) :
      Works gives r (r.finishLoad request thread (.error .cancelled))

/-- A step of a runtime, with the use that it makes of the conversation. -/
inductive Moves (gives : Gives) (r : Runtime) : List Use → Runtime → Prop
  | used (t : Turn) (refusal : Option DiskFault) :
      Moves gives r [r.use refusal t] (r.afterUse refusal t)
  | readChunk {e : Reply.Envelope} {rest : List Reply.Envelope} (first : r.chunks = e :: rest)
      (refusal : Option DiskFault) :
      Moves gives r [r.use refusal (.act (.chunk e.stream e.chunk))]
        ({ r with chunks := rest }.afterUse refusal (.act (.chunk e.stream e.chunk)))
  | readAction {a : Action} {rest : List Action} (first : r.actions = a :: rest)
      (refusal : Option DiskFault) :
      Moves gives r [r.use refusal (.act a)]
        ({ r with actions := rest }.afterUse refusal (.act a))
  | works {r' : Runtime} (goesOn : Works gives r r') : Moves gives r [] r'

/-- Some steps of a runtime, with the uses that they make of the conversation. -/
inductive Run (gives : Gives) (r : Runtime) : List Use → Runtime → Prop
  | start : Run gives r [] r
  | step {uses more : List Use} {r' r'' : Runtime} (run : Run gives r uses r')
      (moves : Moves gives r' more r'') : Run gives r (uses ++ more) r''

/-- The threads that some uses ask to have remembered, each with why the disk refuses. -/
def asked (uses : List Use) : List (Option String × Option DiskFault) :=
  uses.filterMap fun u => u.asks.map fun thread => (thread, u.refusal)

/-- The threads that the disk lets be written. -/
def written (uses : List Use) : List (Option String) :=
  (asked uses).filterMap fun ask => if ask.2 = none then some ask.1 else none

/-- The file after some uses. -/
def fileAfter (uses : List Use) (f : File) : File :=
  uses.foldl (fun f u => u.fileAfter f) f

/-! ### What the disk has to do with it -/

/-- A use that asks nothing leaves the file. -/
theorem Use.fileAfter_of_silent {u : Use} (silent : u.asks = none) : u.fileAfter = id := by
  funext f
  simp [Use.fileAfter, silent]

/-- One use leaves what it leaves. -/
theorem fileAfter_singleton (u : Use) : fileAfter [u] = u.fileAfter := rfl

/-- No uses leave the file. -/
theorem map_fileAfter_nil (file : Option File) : file.map (fileAfter []) = file := by
  cases file <;> rfl

/-- Uses change the file one after another. -/
theorem map_fileAfter_append (uses more : List Use) (file : Option File) :
    file.map (fileAfter (uses ++ more)) = (file.map (fileAfter uses)).map (fileAfter more) := by
  cases file with
  | none => rfl
  | some f => exact congrArg some List.foldl_append

/-- What some uses ask to have remembered, with some more uses. -/
theorem asked_append (uses more : List Use) : asked (uses ++ more) = asked uses ++ asked more :=
  List.filterMap_append

/-- One use asks for what it asks. -/
theorem asked_singleton (u : Use) :
    asked [u] = (u.asks.map fun thread => (thread, u.refusal)).toList := by
  cases h : u.asks <;> simp [asked, h]

/-- What is written before comes first. -/
theorem written_append (uses more : List Use) :
    written (uses ++ more) = written uses ++ written more := by
  rw [written, asked_append, List.filterMap_append]
  rfl

/-! ### Runs without refusals -/

section unrefused

variable {gives : Gives} {r r' : Runtime}

/-- The file of a runtime is updated by the command of an action. -/
theorem apply_preferences (r : Runtime) (a : Action) :
    (r.apply a).preferences = r.preferences.map (r.use none (.act a)).fileAfter := by
  have hsame : ∀ u : Use, u.asks = none → r.preferences = r.preferences.map u.fileAfter := by
    intro u silent
    rw [Use.fileAfter_of_silent silent, Option.map_id_fun, id]
  rcases h : (r.conversation.apply a).command with _ | (_ | _ | thread)
  · simpa [apply, h] using hsame _ (by simp [use, Conversation.take, Use.asks, h])
  · simpa [apply, h, execute] using hsame _ (by simp [use, Conversation.take, Use.asks, h])
  · simpa [apply, h, execute] using hsame _ (by simp [use, Conversation.take, Use.asks, h])
  · have hasks : (r.use none (.act a)).asks = some thread := by
      simp [use, Conversation.take, Use.asks, h]
    have hfile : (r.use none (.act a)).fileAfter = fun f =>
        (Preferences.update none (fun p => { p with thread := thread }) f).2 := by
      funext f
      rw [Use.fileAfter, hasks]
      rfl
    simp [apply, h, execute, hfile]

/-- On a disk that allows the update, using the conversation is applying the action. -/
theorem afterUse_act (r : Runtime) (a : Action) : r.afterUse none (.act a) = r.apply a := by
  rw [afterUse, ← apply_preferences]

/-- The steps of a runtime are those in which no update is refused. -/
theorem step_iff_moves :
    Step gives r r' ↔ ∃ uses, Moves gives r uses r' ∧ ∀ u ∈ uses, u.refusal = none := by
  constructor
  · intro step
    cases step with
    | applied a =>
      have moves := @Moves.used gives r (.act a) none
      rw [afterUse_act] at moves
      exact ⟨_, moves, by simp [use]⟩
    | dispatched a => exact ⟨_, .works (.dispatched a), by simp⟩
    | told => exact ⟨_, .used .tell none, by simp [use]⟩
    | readChunk first =>
      have moves := @Moves.readChunk gives r _ _ first none
      rw [afterUse_act] at moves
      exact ⟨_, moves, by simp [use]⟩
    | readAction first =>
      have moves := @Moves.readAction gives r _ _ first none
      rw [afterUse_act] at moves
      exact ⟨_, moves, by simp [use]⟩
    | replyItem running given => exact ⟨_, .works (.replyItem running given), by simp⟩
    | replyEnd running => exact ⟨_, .works (.replyEnd running), by simp⟩
    | replyStopped running stopped => exact ⟨_, .works (.replyStopped running stopped), by simp⟩
    | loadEnd running result => exact ⟨_, .works (.loadEnd running result), by simp⟩
    | loadStopped running stopped => exact ⟨_, .works (.loadStopped running stopped), by simp⟩
  · rintro ⟨uses, moves, allowed⟩
    cases moves with
    | used t refusal =>
      obtain rfl : refusal = none := allowed _ List.mem_cons_self
      cases t with
      | act a =>
        rw [afterUse_act]
        exact .applied a
      | tell => exact .told
    | readChunk first refusal =>
      obtain rfl : refusal = none := allowed _ List.mem_cons_self
      rw [afterUse_act]
      exact .readChunk first
    | readAction first refusal =>
      obtain rfl : refusal = none := allowed _ List.mem_cons_self
      rw [afterUse_act]
      exact .readAction first
    | works goesOn =>
      cases goesOn with
      | dispatched a => exact .dispatched a
      | replyItem running given => exact .replyItem running given
      | replyEnd running => exact .replyEnd running
      | replyStopped running stopped => exact .replyStopped running stopped
      | loadEnd running result => exact .loadEnd running result
      | loadStopped running stopped => exact .loadStopped running stopped

/-- What a runtime reaches, it reaches by a run in which no update is refused. -/
theorem reaches_iff_run :
    Reaches gives r r' ↔ ∃ uses, Run gives r uses r' ∧ ∀ u ∈ uses, u.refusal = none := by
  constructor
  · intro reaches
    induction reaches with
    | refl => exact ⟨[], .start, by simp⟩
    | tail _ step ih =>
      obtain ⟨uses, run, allowed⟩ := ih
      obtain ⟨more, moves, allowed'⟩ := step_iff_moves.1 step
      refine ⟨uses ++ more, .step run moves, fun u hu => ?_⟩
      exact (List.mem_append.1 hu).elim (allowed u) (allowed' u)
  · rintro ⟨uses, run, allowed⟩
    induction run with
    | start => exact .refl
    | step run moves ih =>
      have before := ih fun u hu => allowed u (List.mem_append_left _ hu)
      exact before.tail (step_iff_moves.2
        ⟨_, moves, fun u hu => allowed u (List.mem_append_right _ hu)⟩)

end unrefused

end Runtime

/-! ## The thread of a conversation -/

namespace Conversation

/-- A turn leaves the thread that it asks to have remembered, and else the one before. -/
theorem thread_take (s : Conversation) (t : Turn) (refusal : Option DiskFault) :
    (s.take t).conversation.thread =
      (Runtime.Use.mk t (s.take t) refusal).asks.getD s.thread := by
  cases t with
  | tell => rfl
  | act a =>
    have hstep := apply_step s a
    change (s.apply a).conversation.thread = _
    simp only [Runtime.Use.asks, Conversation.take]
    generalize s.apply a = o at hstep ⊢
    cases hstep with
    | @receive stream id c =>
      -- a thread that is the conversation's already is not asked to be remembered again
      cases hr : (s.transcript.reduce id c).thread with
      | none => simp [receive, hr]
      | some thread =>
        by_cases h : s.thread = some thread
        · simp [receive, hr, h]
        · simp [receive, hr, h]
    | _ => rfl

end Conversation

namespace Runtime

variable {gives : Gives} {r r' : Runtime}

/-- The conversation takes its turn. -/
theorem afterUse_conversation (r : Runtime) (refusal : Option DiskFault) (t : Turn) :
    (r.afterUse refusal t).conversation = (r.use refusal t).answer.conversation := by
  cases t with
  | act a => exact apply_conversation r a
  | tell => rfl

/-- Tasks and channels leave the conversation alone. -/
theorem Works.conversation (goesOn : Works gives r r') : r'.conversation = r.conversation := by
  cases goesOn <;> simp [endReply, finishLoad]

/-- A step leaves the thread that it last asks to have remembered. -/
theorem Moves.thread_eq {uses : List Use} (moves : Moves gives r uses r') :
    r'.conversation.thread = ((asked uses).getLast?.map Prod.fst).getD r.conversation.thread := by
  have huse : ∀ q : Runtime, ∀ refusal t, q.conversation = r.conversation →
      (q.afterUse refusal t).conversation.thread =
        ((asked [r.use refusal t]).getLast?.map Prod.fst).getD r.conversation.thread := by
    intro q refusal t hq
    rw [afterUse_conversation, use, hq, Conversation.thread_take _ _ refusal, asked_singleton]
    cases h : (r.use refusal t).asks <;> simp [use] at h <;> simp [use, h]
  cases moves with
  | used t refusal => exact huse r refusal t rfl
  | readChunk first refusal => exact huse _ refusal _ rfl
  | readAction first refusal => exact huse _ refusal _ rfl
  | works goesOn => rw [goesOn.conversation]; rfl

/-- A run leaves the thread that it last asks to have remembered. -/
theorem Run.thread_eq {uses : List Use} (run : Run gives r uses r') :
    r'.conversation.thread = ((asked uses).getLast?.map Prod.fst).getD r.conversation.thread := by
  induction run with
  | start => rfl
  | step run moves ih =>
    rw [moves.thread_eq, ih, asked_append, List.getLast?_append]
    cases (asked _).getLast? <;> rfl

end Runtime

/-! ## The file -/

namespace Preferences

/-- Preferences that could be read are there, changed, when the disk allows the update. -/
theorem load_update (change : Preferences → Preferences) {f : File} {p : Preferences}
    (understood : load f = .ok p) : load (update none change f).2 = .ok (change p) := by
  have hfile : f ≠ .directory := by
    rintro rfl
    cases understood
  have hreplaced : f.replace none (change p).toText =
      (.ok (), .bytes (Text.Utf8.encode (change p).toText.toList)) := by
    cases f with
    | directory => exact absurd rfl hfile
    | absent => rfl
    | bytes => rfl
  simp only [update, understood, hreplaced]
  exact load_toText (change p)

/-- An update that the disk refuses leaves the file as it is. -/
theorem update_refused (fault : DiskFault) (change : Preferences → Preferences) (f : File) :
    (update (some fault) change f).2 = f := by
  cases h : load f with
  | error e => simp only [update, h]
  | ok p => simp only [update, h, File.replace]

end Preferences

namespace Runtime

variable {gives : Gives} {r r' : Runtime}

/-- Using the conversation does not depend on the file, which is updated by the way. -/
theorem afterUse_withPreferences (r : Runtime) (refusal : Option DiskFault) (t : Turn)
    (file : Option File) :
    { r with preferences := file }.afterUse refusal t =
      { r.afterUse refusal t with preferences := file.map (r.use refusal t).fileAfter } := by
  cases t with
  | act a =>
    rcases h : (r.conversation.apply a).command with _ | (_ | _ | _) <;>
      simp [afterUse, apply, h, execute, use]
  | tell =>
    have silent : (r.use refusal .tell).asks = none := rfl
    rw [Use.fileAfter_of_silent silent, Option.map_id_fun, id]
    rfl

/-- Tasks and channels do the same on any other file. -/
theorem Works.withPreferences (goesOn : Works gives r r') (file : Option File) :
    Works gives { r with preferences := file } { r' with preferences := file } := by
  have hforward : ∀ stream item, { r with preferences := file }.forward stream item =
      { r.forward stream item with preferences := file } := by
    intro stream item
    cases h : (Reply.pass item).2 <;> simp [forward, h, endReply]
  cases goesOn with
  | dispatched a => exact .dispatched a
  | replyItem running given => exact hforward .. ▸ .replyItem running given
  | replyEnd running => exact hforward .. ▸ .replyEnd running
  | replyStopped running stopped => exact .replyStopped running stopped
  | loadEnd running result =>
    exact @Works.loadEnd gives { r with preferences := file } _ _ running result
  | loadStopped running stopped => exact .loadStopped running stopped

/-- Tasks and channels leave the file alone. -/
theorem Works.preferences (goesOn : Works gives r r') : r'.preferences = r.preferences := by
  cases goesOn <;> simp [endReply, finishLoad]

/-- A step on one file is a step on any other, which becomes what the updates make of it. -/
theorem Moves.withPreferences {uses : List Use} (moves : Moves gives r uses r')
    (file : Option File) :
    Moves gives { r with preferences := file } uses
      { r' with preferences := file.map (fileAfter uses) } := by
  cases moves with
  | used t refusal =>
    have moves := @Moves.used gives { r with preferences := file } t refusal
    rw [afterUse_withPreferences] at moves
    exact moves
  | @readChunk e rest first refusal =>
    have moves := @Moves.readChunk gives { r with preferences := file } e rest first refusal
    rw [afterUse_withPreferences { r with chunks := rest }] at moves
    exact moves
  | @readAction a rest first refusal =>
    have moves := @Moves.readAction gives { r with preferences := file } a rest first refusal
    rw [afterUse_withPreferences { r with actions := rest }] at moves
    exact moves
  | works goesOn =>
    rw [map_fileAfter_nil]
    exact .works (goesOn.withPreferences file)

/-- A turn changes the file by what it asks. -/
theorem afterUse_preferences (r : Runtime) (refusal : Option DiskFault) (t : Turn) :
    (r.afterUse refusal t).preferences = r.preferences.map (r.use refusal t).fileAfter := by
  cases t with
  | act a => rfl
  | tell =>
    have silent : (r.use refusal .tell).asks = none := rfl
    rw [Use.fileAfter_of_silent silent, Option.map_id_fun, id]
    rfl

/-- A step changes the file by its uses only. -/
theorem Moves.preferences_eq {uses : List Use} (moves : Moves gives r uses r') :
    r'.preferences = r.preferences.map (fileAfter uses) := by
  have huse : ∀ q : Runtime, ∀ refusal t, q.conversation = r.conversation →
      q.preferences = r.preferences →
        (q.afterUse refusal t).preferences = r.preferences.map (fileAfter [r.use refusal t]) := by
    intro q refusal t hconv hpref
    rw [afterUse_preferences, use, use, hconv, hpref, fileAfter_singleton]
  cases moves with
  | used t refusal => exact huse r refusal t rfl rfl
  | readChunk first refusal => exact huse _ refusal _ rfl rfl
  | readAction first refusal => exact huse _ refusal _ rfl rfl
  | works goesOn =>
    rw [goesOn.preferences, map_fileAfter_nil]

/-- The file of a runtime is what the updates make of it. -/
theorem Run.preferences_eq {uses : List Use} (run : Run gives r uses r') :
    r'.preferences = r.preferences.map (fileAfter uses) := by
  induction run with
  | start => rw [map_fileAfter_nil]
  | step run moves ih => rw [moves.preferences_eq, ih, map_fileAfter_append]

/-- A run on one file is a run on any other, with the same uses. -/
theorem Run.withPreferences {uses : List Use} (run : Run gives r uses r') (file : Option File) :
    Run gives { r with preferences := file } uses
      { r' with preferences := file.map (fileAfter uses) } := by
  induction run with
  | start =>
    rw [map_fileAfter_nil]
    exact .start
  | @step uses more q q' run moves ih =>
    rw [map_fileAfter_append]
    exact ih.step (moves.withPreferences (file.map (fileAfter uses)))

/-- A file that cannot be understood stays as it is. -/
theorem fileAfter_of_error (uses : List Use) {f : File} {e : FileFailure}
    (unusable : Preferences.load f = .error e) : fileAfter uses f = f := by
  induction uses with
  | nil => rfl
  | cons u uses ih =>
    have hkept : u.fileAfter f = f := by
      cases h : u.asks with
      | none => simp [Use.fileAfter, h]
      | some thread => simp [Use.fileAfter, h, Preferences.update, unusable]
    rw [fileAfter, List.foldl_cons, hkept]
    exact ih

/-- A use that the disk allows leaves in the file the thread that it asks to have
remembered; no use touches the model. -/
theorem Use.load_fileAfter (u : Use) {f : File} {p : Preferences}
    (understood : Preferences.load f = .ok p) :
    Preferences.load (u.fileAfter f) = .ok ⟨(written [u]).getLast?.getD p.thread, p.model⟩ := by
  cases h : u.asks with
  | none => simp [fileAfter, h, written, asked_singleton, understood]
  | some thread =>
    cases hr : u.refusal with
    | none =>
      have hupdate := Preferences.load_update (fun p => { p with thread := thread }) understood
      simpa [fileAfter, h, hr, written, asked_singleton] using hupdate
    | some fault =>
      have hkept := Preferences.update_refused fault (fun p => { p with thread := thread }) f
      simp [fileAfter, h, hr, written, asked_singleton, hkept, understood]

/-- The file holds the thread that was last written, and the model that it held before. -/
theorem load_fileAfter (uses : List Use) {f : File} {p : Preferences}
    (understood : Preferences.load f = .ok p) :
    Preferences.load (fileAfter uses f) =
      .ok ⟨(written uses).getLast?.getD p.thread, p.model⟩ := by
  induction uses generalizing f p with
  | nil => exact understood
  | cons u uses ih =>
    have hrest := ih (u.load_fileAfter understood)
    have hsplit : written (u :: uses) = written [u] ++ written uses := written_append [u] uses
    rw [fileAfter] at hrest ⊢
    rw [List.foldl_cons, hrest, hsplit, List.getLast?_append]
    cases (written uses).getLast? <;> rfl

/-- The thread that was last asked to be remembered was the last to be written, if the disk
did not refuse it. -/
theorem getLast?_written {uses : List Use} {thread : Option String}
    (last : (asked uses).getLast? = some (thread, none)) :
    (written uses).getLast? = some thread := by
  obtain ⟨before, hasked⟩ := List.getLast?_eq_some_iff.1 last
  rw [written, hasked, List.filterMap_append]
  simp

/-! ## The two agree -/

/-- The thread of a conversation and the thread that is remembered.

The thread is the one that the conversation last asked to have remembered, and at first the
one that it started with.  In a file that can be understood stands the thread that was last
written, so the thread of the conversation as long as the disk does not refuse it; the model
stays as it was.  A file that cannot be understood stays as it is, and all runs are those
without a file.  The steps in which the disk refuses nothing are the steps of a runtime, so what
these reach is what such runs lead to; and what a live chat becomes, such a run leads to. -/
theorem thread_remembered {gives : Gives} {model : String} {thread : Option String} {file : File}
    {uses : List Use} {r : Runtime}
    (run : Run gives (start model thread (some file)) uses r) :
    r.conversation.thread = ((asked uses).getLast?.map Prod.fst).getD thread ∧
    (∀ p, Preferences.load file = .ok p →
      ∃ f, r.preferences = some f ∧
        Preferences.load f = .ok ⟨(written uses).getLast?.getD p.thread, p.model⟩ ∧
        ∀ last, (asked uses).getLast? = some last → last.2 = none →
          Preferences.load f = .ok ⟨r.conversation.thread, p.model⟩) ∧
    (∀ e, Preferences.load file = .error e →
      r.preferences = some file ∧
        ∀ uses' r', Run gives (start model thread none) uses' r' ↔
          r'.preferences = none ∧
            Run gives (start model thread (some file)) uses' { r' with preferences := some file }) ∧
    (∀ q q', Step gives q q' ↔
      ∃ uses', Moves gives q uses' q' ∧ ∀ u ∈ uses', u.refusal = none) ∧
    (∀ r', Reaches gives (start model thread (some file)) r' ↔
      ∃ uses', Run gives (start model thread (some file)) uses' r' ∧
        ∀ u ∈ uses', u.refusal = none) ∧
    ∀ sources c, Chat.Sources.Obey sources gives →
      LiveChat.Reached sources model thread (some file) c →
        ∃ uses' r', Run gives (start model thread (some file)) uses' r' ∧
          (∀ u ∈ uses', u.refusal = none) ∧ r'.conversation = c.conversation ∧
          r'.preferences = c.preferences := by
  have hthread : r.conversation.thread = ((asked uses).getLast?.map Prod.fst).getD thread :=
    run.thread_eq
  have hfile : r.preferences = some (fileAfter uses file) := run.preferences_eq
  refine ⟨hthread, ?_, ?_, fun q q' => step_iff_moves, fun r' => reaches_iff_run, ?_⟩
  · intro p understood
    have hload := load_fileAfter uses understood
    refine ⟨_, hfile, hload, ?_⟩
    rintro ⟨asks, refusal⟩ last rfl
    rw [hload, hthread, getLast?_written last, last]
    rfl
  · intro e unusable
    refine ⟨by rw [hfile, fileAfter_of_error uses unusable], fun uses' r' => ⟨?_, ?_⟩⟩
    · intro run'
      have hwith := run'.withPreferences (some file)
      rw [Option.map_some, fileAfter_of_error uses' unusable] at hwith
      exact ⟨run'.preferences_eq, hwith⟩
    · rintro ⟨hnone, run'⟩
      have hsame : { r' with preferences := none } = r' := by rw [← hnone]
      exact hsame ▸ run'.withPreferences none
  · intro sources c obey reached
    obtain ⟨r', reaches, follows, -, -⟩ := exists_follows obey reached
    obtain ⟨uses', run', allowed⟩ := reaches_iff_run.1 reaches
    exact ⟨uses', r', run', allowed, follows.conversation, follows.preferences⟩

/-- A thread is loaded and remembered beside the model; that it is left again the disk refuses
to have written. -/
theorem thread_remembered_refused :
    ∃ uses r, Run (fun _ _ _ => True) (start "small" (some "old")
        (some (.bytes (Text.Utf8.encode (Preferences.toText ⟨none, some "big"⟩).toList)))) uses r ∧
      asked uses = [(some "t1", none), (none, some .isBusy)] ∧ r.conversation.thread = none ∧
      ∃ f, r.preferences = some f ∧ Preferences.load f = .ok ⟨some "t1", some "big"⟩ := by
  have understood := Preferences.load_toText ⟨none, some "big"⟩
  generalize File.bytes _ = file at understood ⊢
  have selected := (@Run.start (fun _ _ _ => True) (start "small" (some "old") (some file))).step
    (.used (.act (.selectThread "t1")) none)
  have answered := selected.step
    (.works (@Works.loadEnd _ _ 1 "t1" List.mem_cons_self (some (.ok []))))
  have loaded := answered.step (@Moves.readAction _ _ (.threadLoaded 1 "t1" []) [] rfl none)
  have refused := loaded.step (.used (.act .newThread) (some .isBusy))
  obtain ⟨hthread, hfile, -⟩ := thread_remembered refused
  obtain ⟨f, hf, hload, -⟩ := hfile _ understood
  exact ⟨_, _, refused, rfl, hthread, f, hf, hload⟩

end Runtime

end ChatGateway
