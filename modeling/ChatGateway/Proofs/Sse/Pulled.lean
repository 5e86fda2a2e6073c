import Mathlib
import ChatGateway.Proofs.History
import ChatGateway.Proofs.Sse.OnePass

/-!
# A reply pulled item by item

Whoever wants a reply asks for one item after the other.  Each time the reader hands out
what is queued; when nothing is, it looks whether the reply is finished or cancelled and
only then waits for the body.  Here these are single moves, and the caller may cancel
between any two of them, so a run is a reply with its body, its timing and the moment of
the cancellation.

`Accounts` compares a run with the complete lines of the bytes that have been read: as long
as the reader reads, what it has handed out and what is queued are the items of these lines.
After that at most one more item can come, and none if one of the lines has ended the reply.
-/

set_option autoImplicit false

namespace ChatGateway.Sse

/-- The failure that a read ends the reply with, if it does. -/
def Read.failure? (idle : Nat) : Read → Option Failure
  | .bytes _ => none
  | .failed f => some f
  | .silent => some (ReplyReader.idleFailure idle)

/-- Whether nothing may follow an item. -/
def Item.IsLast : Item → Prop
  | .ok c => c.isTerminal = true
  | .error _ => True

/-- The item of a line is a last one exactly if the reply ends with the line. -/
theorem isLast_iff_endsReply {line : String} {x : Item} (hx : itemOf? line = some x) :
    x.IsLast ↔ endsReply line = true := by
  unfold itemOf? at hx
  unfold endsReply
  obtain ⟨event, hline, hevent⟩ := Option.bind_eq_some_iff.1 hx
  rw [hline, Option.any_some]
  cases event with
  | chunk c =>
    cases hevent
    exact Iff.rfl
  | finish => cases hevent
  | malformed detail =>
    cases hevent
    exact iff_of_true trivial rfl

/-- In the items of some lines only the last one ends the reply. -/
theorem pairwise_lineItems (lines : List String) :
    (lineItems lines).Pairwise fun x _ => ¬ x.IsLast := by
  induction lines with
  | nil => exact .nil
  | cons line lines ih =>
    rw [lineItems_cons]
    cases hline : itemOf? line with
    | none => split <;> simp [ih]
    | some x =>
      have hlast := isLast_iff_endsReply hline
      split <;> simp_all

/-- Lines that do not end the reply carry no last item. -/
theorem not_isLast_of_mem {lines : List String} (goes : lines.any endsReply = false) {x : Item}
    (hx : x ∈ lineItems lines) : ¬ x.IsLast := by
  induction lines with
  | nil => cases hx
  | cons line lines ih =>
    obtain ⟨hends, hlines⟩ := Bool.or_eq_false_iff.1 (List.any_cons.symm.trans goes)
    rw [lineItems_cons, hends, List.mem_append, Option.mem_toList] at hx
    rcases hx with hx | hx
    · rw [isLast_iff_endsReply hx, hends]
      simp
    · exact ih hlines hx

/-- Items none of which is a last one are chunks that are not terminal. -/
theorem exists_chunks_of_not_isLast {items : List Item} (h : ∀ x ∈ items, ¬ x.IsLast) :
    ∃ chunks : List Chunk, items = chunks.map .ok ∧ ∀ c ∈ chunks, c.isTerminal = false := by
  induction items with
  | nil => exact ⟨[], rfl, by simp⟩
  | cons x rest ih =>
    obtain ⟨hx, hrest⟩ := List.forall_mem_cons.1 h
    obtain ⟨chunks, hitems, hchunks⟩ := ih hrest
    cases x with
    | error f => exact absurd trivial hx
    | ok c =>
      refine ⟨c :: chunks, by simp [hitems], List.forall_mem_cons.2 ⟨?_, hchunks⟩⟩
      simpa [Item.IsLast] using hx

/-- Items of which only the latest may be a last one are such chunks, and perhaps a last item. -/
theorem exists_chunks_of_pairwise {items : List Item}
    (h : items.Pairwise fun x _ => ¬ x.IsLast) :
    ∃ (chunks : List Chunk) (last : Option Item), items = chunks.map .ok ++ last.toList ∧
      (∀ c ∈ chunks, c.isTerminal = false) ∧ ∀ x ∈ last, x.IsLast := by
  obtain rfl | ⟨rest, x, rfl⟩ := List.eq_nil_or_concat items
  · exact ⟨[], none, rfl, by simp, by simp⟩
  · rw [List.concat_eq_append, List.pairwise_append] at h
    obtain ⟨-, -, hrest⟩ := h
    obtain ⟨chunks, hitems, hchunks⟩ := exists_chunks_of_not_isLast fun y hy =>
      hrest y hy x (List.mem_singleton_self x)
    by_cases hlast : x.IsLast
    · exact ⟨chunks, some x, by simp [hitems], hchunks, by simpa using hlast⟩
    · cases x with
      | error f => exact absurd trivial hlast
      | ok c =>
        have hc : c.isTerminal = false := by simpa [Item.IsLast] using hlast
        refine ⟨chunks ++ [c], none, by simp [hitems], ?_, by simp⟩
        simpa [or_imp, forall_and, hc] using hchunks

/-! ## Moves -/

/-- What a reader that is asked for items does. -/
inductive Stage
  /-- It looks for something to hand out. -/
  | looking
  /-- It waits for the body. -/
  | waiting
  /-- The reply is over. -/
  | ended
deriving DecidableEq

/-- A reader that is asked for items. -/
structure Pulled where
  reader : ReplyReader := {}
  cancelled : Bool := false
  stage : Stage := .looking

/-- What happens between a reader, its caller and the body. -/
inductive Move
  /-- The caller cancels. -/
  | cancel
  | hand (x : Item)
  | wait
  | read (r : Read)
  /-- The body ends. -/
  | close
  /-- The reader says that there are no more items. -/
  | stop

/-- The item that a move gives the caller. -/
def Move.item? (idle : Nat) : Move → Option Item
  | .hand x => some x
  | .read r => (r.failure? idle).map .error
  | _ => none

/-- The bytes that a move takes from the body. -/
def Move.bytes : Move → List UInt8
  | .read (.bytes bs) => bs
  | _ => []

/-- Whether the body does something in a move. -/
def Move.isOfBody : Move → Bool
  | .read _ => true
  | .close => true
  | _ => false

/-- The items of some moves. -/
def itemsOf (idle : Nat) (moves : List Move) : List Item :=
  moves.filterMap (Move.item? idle)

/-- The bytes of some moves, in one piece. -/
def bytesOf (moves : List Move) : List UInt8 :=
  moves.flatMap Move.bytes

/-- Whether a move is the end of the body. -/
def Move.isClose : Move → Bool
  | .close => true
  | _ => false

/-- The lines that the reader has been given. -/
def linesOf (moves : List Move) : List String :=
  if moves.any Move.isClose then bodyLines (bytesOf moves) else completeLines (bytesOf moves)

/-- The items of a run are that of the first move and those of the others. -/
theorem itemsOf_cons (idle : Nat) (m : Move) (moves : List Move) :
    itemsOf idle (m :: moves) = (m.item? idle).toList ++ itemsOf idle moves := by
  unfold itemsOf
  cases h : m.item? idle <;> simp [h]

/-- One more move puts its item behind the others. -/
theorem itemsOf_concat (idle : Nat) (moves : List Move) (m : Move) :
    itemsOf idle (moves ++ [m]) = itemsOf idle moves ++ (m.item? idle).toList := by
  cases h : m.item? idle <;> simp [itemsOf, h]

/-- One more move puts its bytes behind the others. -/
theorem bytesOf_concat (moves : List Move) (m : Move) :
    bytesOf (moves ++ [m]) = bytesOf moves ++ m.bytes := by
  simp [bytesOf]

namespace Pulled

/-- What can happen next.  Only a reader that has nothing queued looks at the flag and at the
token. -/
inductive Step (idle : Nat) (p : Pulled) : Move → Pulled → Prop
  | cancel (once : p.cancelled = false) : Step idle p .cancel { p with cancelled := true }
  | hand {x : Item} {rest : List Item} (looking : p.stage = .looking)
      (first : p.reader.pending = x :: rest) :
      Step idle p (.hand x) { p with reader := { p.reader with pending := rest } }
  | wait (looking : p.stage = .looking) (empty : p.reader.pending = [])
      (goes : p.reader.finished = false) (wanted : p.cancelled = false) :
      Step idle p .wait { p with stage := .waiting }
  | read (bs : List UInt8) (waiting : p.stage = .waiting) :
      Step idle p (.read (.bytes bs)) { p with reader := p.reader.feed bs, stage := .looking }
  /-- The failure is handed out at once. -/
  | fail {r : Read} {f : Failure} (waiting : p.stage = .waiting)
      (failure : r.failure? idle = some f) :
      Step idle p (.read r)
        { p with reader := { p.reader with finished := true }, stage := .looking }
  | close (waiting : p.stage = .waiting) :
      Step idle p .close { p with reader := p.reader.close, stage := .looking }
  | stop (looking : p.stage = .looking) (empty : p.reader.pending = [])
      (done : p.reader.finished = true ∨ p.cancelled = true) :
      Step idle p .stop { p with stage := .ended }

/-- What can happen from the first request for an item on. -/
inductive Run (idle : Nat) : List Move → Pulled → Prop
  | start : Run idle [] {}
  | step {moves : List Move} {p p' : Pulled} {m : Move} (run : Run idle moves p)
      (step : Step idle p m p') : Run idle (moves ++ [m]) p'

variable {idle : Nat} {moves : List Move} {p p' : Pulled} {m : Move}

/-- A reader that looks for something to hand out hands it out, waits or stops. -/
theorem exists_step_of_looking (idle : Nat) (looking : p.stage = .looking) :
    ∃ m p', m.isOfBody = false ∧ m ≠ .cancel ∧ Step idle p m p' := by
  cases hpending : p.reader.pending with
  | cons x rest => exact ⟨.hand x, _, rfl, by simp, .hand looking hpending⟩
  | nil =>
    cases hfinished : p.reader.finished with
    | true => exact ⟨.stop, _, rfl, by simp, .stop looking hpending (.inl hfinished)⟩
    | false =>
      cases hcancelled : p.cancelled with
      | true => exact ⟨.stop, _, rfl, by simp, .stop looking hpending (.inr hcancelled)⟩
      | false => exact ⟨.wait, _, rfl, by simp, .wait looking hpending hfinished hcancelled⟩

/-- A reader that waits goes on with whatever the body does. -/
theorem exists_step_of_waiting (idle : Nat) (waiting : p.stage = .waiting)
    (ofBody : m.isOfBody = true) : ∃ p', Step idle p m p' := by
  cases m with
  | close => exact ⟨_, .close waiting⟩
  | read r =>
    cases r with
    | bytes bs => exact ⟨_, .read bs waiting⟩
    | failed f => exact ⟨_, .fail waiting rfl⟩
    | silent => exact ⟨_, .fail waiting rfl⟩
  | _ => cases ofBody

/-! ## How long a run can be -/

/-- The moves that neither the body nor an item stands for. -/
def idleMoves (p : Pulled) : Nat :=
  (if p.cancelled then 1 else 0) + (if p.stage = .looking then 0 else 1)

/-- A wait is over with the next thing that the body does; all other moves give an item,
cancel or stop. -/
theorem Step.idleMoves_lt (step : Step idle p m p') :
    p.idleMoves <
      p'.idleMoves + 2 * (if m.isOfBody then 1 else 0) + (m.item? idle).toList.length := by
  cases step with
  | cancel once =>
    show p.idleMoves < idleMoves _ + 2 * 0 + 0
    simp [idleMoves, once]
  | hand looking first =>
    show p.idleMoves < p.idleMoves + 2 * 0 + 1
    omega
  | wait looking empty goes wanted =>
    show p.idleMoves < idleMoves _ + 2 * 0 + 0
    simp [idleMoves, looking]
  | read bs waiting =>
    show p.idleMoves < idleMoves _ + 2 * 1 + 0
    simp [idleMoves, waiting]
  | fail waiting failure =>
    refine Nat.lt_of_lt_of_le ?_ (Nat.le_add_right _ _)
    show p.idleMoves < idleMoves _ + 2 * 1
    simp [idleMoves, waiting]
  | close waiting =>
    show p.idleMoves < idleMoves _ + 2 * 1 + 0
    simp [idleMoves, waiting]
  | stop looking empty done =>
    show p.idleMoves < idleMoves _ + 2 * 0 + 0
    simp [idleMoves, looking]

/-- A run is bounded by the reads, the items and the looks that are still owed, so a stream cannot
idle forever. -/
theorem Run.length_le (run : Run idle moves p) :
    moves.length ≤
      2 * moves.countP Move.isOfBody + (itemsOf idle moves).length + p.idleMoves := by
  induction run with
  | start => exact Nat.zero_le _
  | step run step ih =>
    have hstep := step.idleMoves_lt
    rw [itemsOf_concat, List.length_append, List.length_append, List.countP_append,
      List.countP_singleton, List.length_singleton]
    omega

/-! ## What a run gives -/

/-- Only a reader with nothing queued waits. -/
theorem Run.of_waiting (run : Run idle moves p) (waiting : p.stage = .waiting) :
    p.reader.pending = [] ∧ p.reader.finished = false := by
  induction run with
  | start => cases waiting
  | step run step ih =>
    cases step with
    | cancel once => exact ih waiting
    | hand looking first => exact absurd (looking.symm.trans waiting) (by decide)
    | wait looking empty goes wanted => exact ⟨empty, goes⟩
    | read bs _ => cases waiting
    | fail _ failure => cases waiting
    | close _ => cases waiting
    | stop looking empty done => cases waiting

/-- How what has been handed out and is queued compares with the bytes that have been read. -/
inductive Accounts (idle : Nat) (moves : List Move) (p : Pulled) : Prop
  | reading (notClosed : moves.any Move.isClose = false)
      (buffer : p.reader.lines.bytes = lastLine (bytesOf moves))
      (finished : p.reader.finished = (completeLines (bytesOf moves)).any endsReply)
      (items : itemsOf idle moves ++ p.reader.pending =
        lineItems (completeLines (bytesOf moves)))
  | closed (closed : moves.any Move.isClose = true) (finished : p.reader.finished = true)
      (items : itemsOf idle moves ++ p.reader.pending = lineItems (bodyLines (bytesOf moves)))
  | failed {f : Failure} (notClosed : moves.any Move.isClose = false)
      (finished : p.reader.finished = true)
      (goes : (completeLines (bytesOf moves)).any endsReply = false)
      (items : itemsOf idle moves ++ p.reader.pending =
        lineItems (completeLines (bytesOf moves)) ++ [.error f])

/-- A move that the body has no part in changes nothing, apart from what the caller has got. -/
theorem Accounts.same (accounts : Accounts idle moves p) (m : Move) (aside : m.isOfBody = false)
    (lines : p'.reader.lines = p.reader.lines) (finished : p'.reader.finished = p.reader.finished)
    (items : (m.item? idle).toList ++ p'.reader.pending = p.reader.pending) :
    Accounts idle (moves ++ [m]) p' := by
  have hbytes : bytesOf (moves ++ [m]) = bytesOf moves := by
    cases m <;> simp_all [bytesOf_concat, Move.bytes, Move.isOfBody]
  have hclose : (moves ++ [m]).any Move.isClose = moves.any Move.isClose := by
    cases m <;> simp_all [Move.isClose, Move.isOfBody]
  have hitems : itemsOf idle (moves ++ [m]) ++ p'.reader.pending =
      itemsOf idle moves ++ p.reader.pending := by
    rw [itemsOf_concat, List.append_assoc, items]
  cases accounts with
  | reading notClosed buffer ends total =>
    exact .reading (hclose.trans notClosed) (by rw [lines, hbytes, buffer])
      (by rw [finished, hbytes, ends]) (by rw [hitems, hbytes, total])
  | closed closed ends total =>
    exact .closed (hclose.trans closed) (finished.trans ends) (by rw [hitems, hbytes, total])
  | failed notClosed ends goes total =>
    exact .failed (hclose.trans notClosed) (finished.trans ends) (by rw [hbytes, goes])
      (by rw [hitems, hbytes, total])

/-- A reader that waits has handed out the items of all complete lines, and none of these has
ended the reply. -/
theorem Run.handed_of_waiting (run : Run idle moves p) (waiting : p.stage = .waiting)
    (accounts : Accounts idle moves p) :
    moves.any Move.isClose = false ∧ p.reader.lines.bytes = lastLine (bytesOf moves) ∧
      (completeLines (bytesOf moves)).any endsReply = false ∧
      itemsOf idle moves = lineItems (completeLines (bytesOf moves)) := by
  obtain ⟨hpending, hfinished⟩ := run.of_waiting waiting
  cases accounts with
  | reading notClosed buffer finished items =>
    rw [hpending, List.append_nil] at items
    exact ⟨notClosed, buffer, finished.symm.trans hfinished, items⟩
  | closed closed finished items => exact absurd (finished.symm.trans hfinished) (by decide)
  | failed notClosed finished goes items =>
    exact absurd (finished.symm.trans hfinished) (by decide)

/-- Every run has an account of the bytes that it has read. -/
theorem Run.accounts (run : Run idle moves p) : Accounts idle moves p := by
  induction run with
  | start => exact .reading rfl rfl rfl rfl
  | @step moves p p' m run step ih =>
    cases step with
    | cancel once => exact ih.same _ rfl rfl rfl rfl
    | hand looking first => exact ih.same _ rfl rfl rfl first.symm
    | wait looking empty goes wanted => exact ih.same _ rfl rfl rfl rfl
    | stop looking empty done => exact ih.same _ rfl rfl rfl rfl
    | read bs waiting =>
      obtain ⟨hpending, hfinished⟩ := run.of_waiting waiting
      obtain ⟨hclose, hbuffer, hgoes, hitems⟩ := run.handed_of_waiting waiting ih
      have hbytes : bytesOf (moves ++ [.read (.bytes bs)]) = bytesOf moves ++ bs :=
        bytesOf_concat _ _
      refine .reading (by simpa [Move.isClose] using hclose) ?_ ?_ ?_
      · rw [hbytes, lastLine_append]
        simp [hbuffer]
      · rw [hbytes, completeLines_append, List.any_append, hgoes]
        simp [hbuffer, hfinished]
      · rw [hbytes, completeLines_append, lineItems_append, hgoes, ← hitems]
        simp [hbuffer, hfinished, hpending, itemsOf_concat, Move.item?, Read.failure?,
          ReplyReader.withLines]
    | @fail r f waiting failure =>
      obtain ⟨hpending, hfinished⟩ := run.of_waiting waiting
      obtain ⟨hclose, hbuffer, hgoes, hitems⟩ := run.handed_of_waiting waiting ih
      have hbytes : bytesOf (moves ++ [.read r]) = bytesOf moves := by
        cases r with
        | bytes bs => cases failure
        | failed _ => simp [bytesOf_concat, Move.bytes]
        | silent => simp [bytesOf_concat, Move.bytes]
      refine .failed (f := f) (by simpa [Move.isClose] using hclose) rfl (by rw [hbytes, hgoes]) ?_
      rw [hbytes, ← hitems]
      simp [itemsOf_concat, Move.item?, failure, hpending]
    | close waiting =>
      obtain ⟨hpending, hfinished⟩ := run.of_waiting waiting
      obtain ⟨hclose, hbuffer, hgoes, hitems⟩ := run.handed_of_waiting waiting ih
      have hbytes : bytesOf (moves ++ [.close]) = bytesOf moves := by
        simp [bytesOf_concat, Move.bytes]
      refine .closed (by simp [Move.isClose]) rfl ?_
      rw [hbytes, bodyLines_eq, lineItems_append, hgoes, ← hitems]
      simp [itemsOf_concat, Move.item?, ReplyReader.close_pending, ReplyReader.withLines,
        hpending, hfinished, hbuffer]

/-- Unless the body has failed, what has been handed out and is queued are the items of the
lines that the reader has been given. -/
theorem Run.total (run : Run idle moves p) :
    itemsOf idle moves ++ p.reader.pending = lineItems (linesOf moves) ∨
      (linesOf moves).any endsReply = false ∧
        ∃ f, itemsOf idle moves ++ p.reader.pending = lineItems (linesOf moves) ++ [.error f] := by
  unfold linesOf
  cases run.accounts with
  | reading notClosed _ _ items => exact .inl (by simpa [notClosed] using items)
  | closed closed _ items => exact .inl (by simpa [closed] using items)
  | failed notClosed _ goes items =>
    exact .inr ⟨by simpa [notClosed] using goes, _, by simpa [notClosed] using items⟩

/-- After a line that ends the reply nothing more is handed out. -/
theorem Run.prefix_of_endsReply (run : Run idle moves p) {early late : List String}
    {line : String} (lines : linesOf moves = early ++ line :: late)
    (ends : endsReply line = true) : itemsOf idle moves <+: lineItems (early ++ [line]) := by
  have hends : (early ++ [line]).any endsReply = true := by simp [ends]
  rw [List.append_cons] at lines
  have htotal := run.total
  rw [lines, lineItems_append, hends, if_pos rfl, List.append_nil] at htotal
  rcases htotal with htotal | ⟨hgoes, -⟩
  · exact ⟨_, htotal⟩
  · rw [List.any_append, hends, Bool.true_or] at hgoes
    cases hgoes

/-- Of all items of a run only the latest may be a last one. -/
theorem Run.pairwise (run : Run idle moves p) :
    (itemsOf idle moves).Pairwise fun x _ => ¬ x.IsLast := by
  have htotal : (itemsOf idle moves ++ p.reader.pending).Pairwise fun x _ => ¬ x.IsLast := by
    rcases run.total with htotal | ⟨hgoes, f, htotal⟩
    · rw [htotal]
      exact pairwise_lineItems _
    · rw [htotal, List.pairwise_append]
      exact ⟨pairwise_lineItems _, List.pairwise_singleton _ _,
        fun x hx _ _ => not_isLast_of_mem hgoes hx⟩
  exact (List.pairwise_append.1 htotal).1

/-- A reader that has nothing to do but to say that the reply is over. -/
structure Spent (p : Pulled) : Prop where
  finished : p.reader.finished = true
  empty : p.reader.pending = []
  notWaiting : p.stage ≠ .waiting

/-- A stream that is spent stays so and yields nothing, whatever is done with it. -/
theorem Step.spent (step : Step idle p m p') (spent : Spent p) :
    Spent p' ∧ m.item? idle = none := by
  obtain ⟨hfinished, hempty, hstage⟩ := spent
  cases step with
  | cancel once => exact ⟨⟨hfinished, hempty, hstage⟩, rfl⟩
  | hand looking first => exact absurd (hempty.symm.trans first) (by simp)
  | wait looking empty goes wanted => exact absurd (hfinished.symm.trans goes) (by simp)
  | read bs waiting => exact absurd waiting hstage
  | fail waiting failure => exact absurd waiting hstage
  | close waiting => exact absurd waiting hstage
  | stop looking empty done => exact ⟨⟨hfinished, hempty, by simp⟩, rfl⟩

/-- A failure that the reader meets is handed out, and then nothing. -/
theorem Run.itemsOf_of_failure (run : Run idle moves p) {before after : List Move} {r : Read}
    {f : Failure} (met : moves = before ++ .read r :: after) (failure : r.failure? idle = some f) :
    Spent p ∧ itemsOf idle moves = itemsOf idle before ++ [.error f] := by
  induction run generalizing after with
  | start => simp at met
  | @step moves p p' m run step ih =>
    obtain ⟨rfl, rfl, rfl⟩ | ⟨rest, rfl, hmoves⟩ := concat_eq_append_cons.1 met
    · refine ⟨?_, by simp [itemsOf_concat, Move.item?, failure]⟩
      cases step with
      | read bs waiting => cases failure
      | fail waiting _ => exact ⟨rfl, (run.of_waiting waiting).1, by simp⟩
    · obtain ⟨hspent, hitems⟩ := ih hmoves
      obtain ⟨hspent', hnone⟩ := step.spent hspent
      exact ⟨hspent', by rw [itemsOf_concat, hnone, Option.toList_none, List.append_nil, hitems]⟩

/-- A body with so many line feeds gives at most one item more. -/
theorem Run.length_itemsOf_le (run : Run idle moves p) :
    (itemsOf idle moves).length ≤ (bytesOf moves).count 10 + 1 := by
  have hcomplete := length_completeLines_le (bytesOf moves)
  have hlength :
      (itemsOf idle moves ++ p.reader.pending).length ≤ (bytesOf moves).count 10 + 1 := by
    cases run.accounts with
    | reading _ _ _ items =>
      have := length_lineItems_le (completeLines (bytesOf moves))
      rw [items]
      omega
    | closed _ _ items =>
      have := length_lineItems_le (bodyLines (bytesOf moves))
      rw [bodyLines_eq, List.length_append, List.length_singleton] at this
      rw [items, bodyLines_eq]
      omega
    | failed _ _ _ items =>
      have := length_lineItems_le (completeLines (bytesOf moves))
      rw [items, List.length_append, List.length_singleton]
      omega
  rw [List.length_append] at hlength
  omega

/-- **The shape of a reply.**  Whatever the body does, however long it takes and whenever the
caller cancels: the items are chunks that are not terminal and at most one last item, which is
a terminal chunk or a failure.  A failure of the transport or a silence that the reader meets
is the last item, and the only failure.  After an end mark nothing is handed out but what
earlier lines carry.  A reply has at most one item more than its body has line feeds, what the
body does bounds the number of moves, and until the reply is over the reader always goes on. -/
theorem Run.shape (run : Run idle moves p) :
    (∃ (chunks : List Chunk) (last : Option Item),
      itemsOf idle moves = chunks.map .ok ++ last.toList ∧
      (∀ c ∈ chunks, c.isTerminal = false) ∧ ∀ x ∈ last, x.IsLast) ∧
    (∀ before r after f, moves = before ++ .read r :: after → r.failure? idle = some f →
      ∃ chunks : List Chunk, itemsOf idle before = chunks.map .ok ∧
        itemsOf idle moves = chunks.map .ok ++ [.error f]) ∧
    (∀ early line late, linesOf moves = early ++ line :: late →
      Event.ofLine line = some .finish → itemsOf idle moves <+: lineItems early) ∧
    (itemsOf idle moves).length ≤ (bytesOf moves).count 10 + 1 ∧
    moves.length ≤ 2 * moves.countP Move.isOfBody + (bytesOf moves).count 10 + 3 ∧
    (p.stage = .looking → ∃ m p', m.isOfBody = false ∧ m ≠ .cancel ∧ Step idle p m p') ∧
    (p.stage = .waiting → ∀ m, m.isOfBody = true → ∃ p', Step idle p m p') := by
  refine ⟨exists_chunks_of_pairwise run.pairwise, ?_, ?_, run.length_itemsOf_le, ?_,
    exists_step_of_looking idle, fun waiting m ofBody => exists_step_of_waiting idle waiting ofBody⟩
  · intro before r after f met failure
    have hitems := (run.itemsOf_of_failure met failure).2
    have hpairwise := run.pairwise
    rw [hitems, List.pairwise_append] at hpairwise
    obtain ⟨-, -, hbefore⟩ := hpairwise
    obtain ⟨chunks, hchunks, -⟩ := exists_chunks_of_not_isLast fun x hx =>
      hbefore x hx _ (List.mem_singleton_self _)
    exact ⟨chunks, hchunks, by rw [hitems, hchunks]⟩
  · intro early line late lines mark
    have hearly := run.prefix_of_endsReply lines (by simp [endsReply, mark, Event.isFinal])
    rw [lineItems_append] at hearly
    simpa [lineItems, mark] using hearly
  · have hlength := run.length_le
    have hitems := run.length_itemsOf_le
    have hidle : p.idleMoves ≤ 2 := by
      unfold idleMoves
      split <;> split <;> omega
    omega

/-- A chunk, the end mark and another chunk. -/
def bufferedBody : List UInt8 :=
  Text.Utf8.encode ("data: \x7b\"type\":\"delta\",\"delta\":\"a\"\x7d\n" ++ "data: [DONE]\n" ++
    "data: \x7b\"type\":\"delta\",\"delta\":\"b\"\x7d\n").toList

/-- The body comes in one read; the caller cancels before it asks for the second item. -/
def bufferedMoves : List Move :=
  [.wait, .read (.bytes bufferedBody), .hand (.ok (.delta "a")), .cancel, .stop]

/-- What stands in the buffer behind the end mark is not handed out. -/
theorem Run.shape_buffered :
    ∃ p, Run 30 bufferedMoves p ∧ itemsOf 30 bufferedMoves <+:
      lineItems ["data: \x7b\"type\":\"delta\",\"delta\":\"a\"\x7d"] := by
  have hwait : Run 30 [.wait] { stage := .waiting } := .step .start (.wait rfl rfl rfl rfl)
  have hread := hwait.step (.read bufferedBody rfl)
  have hqueued : (({} : ReplyReader).feed bufferedBody).pending = [.ok (.delta "a")] := by
    decide +kernel
  have hhand := hread.step (.hand rfl hqueued)
  have hstop := (hhand.step (.cancel rfl)).step (.stop rfl rfl (.inr rfl))
  obtain ⟨p, run⟩ : ∃ p, Run 30 bufferedMoves p := ⟨_, hstop⟩
  have hmark : ∀ early line late, linesOf bufferedMoves = early ++ line :: late →
      Event.ofLine line = some .finish → itemsOf 30 bufferedMoves <+: lineItems early :=
    run.shape.2.2.1
  exact ⟨p, run, hmark _ "data: [DONE]" ["data: \x7b\"type\":\"delta\",\"delta\":\"b\"\x7d"]
    (by decide +kernel) (by decide +kernel)⟩

end Pulled

end ChatGateway.Sse
