import Mathlib
import ChatGateway.Proofs.Sse.Pulled

/-!
# The reader at once and its moves

`replyItems` reads a whole body at once and asks a function of the number of items whether the
caller has cancelled.  The moves of `Pulled` leave the moment of the cancellation open.  Both
give the same replies (`exists_run_iff`).

In one direction the reader at once is followed read by read, and the caller cancels just before
a look at the token.  In the other direction the function says that the caller has cancelled
once all items of the run have been handed out: whatever happens then gives none.
-/

set_option autoImplicit false

namespace ChatGateway.Sse

/-- What the body does in these moves is to give these reads, as far as they are taken, and
then to end. -/
def Takes : List Move → List Read → Prop
  | [], _ => True
  | .read r :: moves, reads => ∃ rest, reads = r :: rest ∧ Takes moves rest
  | .close :: moves, reads => reads = [] ∧ Takes moves []
  | _ :: moves, reads => Takes moves reads

namespace Pulled

variable {idle : Nat} {moves : List Move} {p p' : Pulled} {m : Move}

/-- From `p` on these moves lead to the end of the reply. -/
inductive Ends (idle : Nat) : Pulled → List Move → Prop
  | ended {p : Pulled} (ended : p.stage = .ended) : Ends idle p []
  | step {p p' : Pulled} {m : Move} {moves : List Move} (step : Step idle p m p')
      (rest : Ends idle p' moves) : Ends idle p (m :: moves)

/-- A run that goes on to its end has come to its end. -/
theorem Run.append {after : List Move} (run : Run idle moves p) (ends : Ends idle p after) :
    ∃ p', Run idle (moves ++ after) p' ∧ p'.stage = .ended := by
  induction ends generalizing moves with
  | @ended p ended => exact ⟨p, by rwa [List.append_nil], ended⟩
  | @step p p' m after step rest ih =>
    obtain ⟨q, hrun, hended⟩ := ih (run.step step)
    exact ⟨q, by rwa [List.append_assoc] at hrun, hended⟩

/-- What a run needs to its end it needs from its start. -/
theorem Run.ends {after : List Move} (run : Run idle moves p) (ends : Ends idle p after) :
    Ends idle {} (moves ++ after) := by
  induction run generalizing after with
  | start => exact ends
  | step run step ih =>
    rw [List.append_assoc]
    exact ih (.step step ends)

/-- From `p` on the reply can end after these items, with a body that gives these reads. -/
def CanEnd (idle : Nat) (p : Pulled) (reads : List Read) (items : List Item) : Prop :=
  ∃ moves, Ends idle p moves ∧ Takes moves reads ∧ itemsOf idle moves = items

section canEnd

variable {reads : List Read} {items : List Item}

/-- A reader that looks can stop when nothing waits and the end or a cancelling has been seen. -/
theorem CanEnd.stop (looking : p.stage = .looking) (empty : p.reader.pending = [])
    (done : p.reader.finished = true ∨ p.cancelled = true) : CanEnd idle p reads [] :=
  ⟨[.stop], .step (.stop looking empty done) (.ended rfl), trivial, rfl⟩

/-- A move that the body has no part in goes first. -/
theorem CanEnd.step (step : Step idle p m p') (aside : m.isOfBody = false)
    (rest : CanEnd idle p' reads items) :
    CanEnd idle p reads ((m.item? idle).toList ++ items) := by
  obtain ⟨moves, hends, htakes, rfl⟩ := rest
  refine ⟨m :: moves, .step step hends, ?_, itemsOf_cons _ m moves⟩
  cases m with
  | read r => cases aside
  | close => cases aside
  | _ => exact htakes

/-- A reader can come to its end through a read. -/
theorem CanEnd.read {r : Read} (step : Step idle p (.read r) p')
    (rest : CanEnd idle p' reads items) :
    CanEnd idle p (r :: reads) (((Move.read r).item? idle).toList ++ items) := by
  obtain ⟨moves, hends, htakes, rfl⟩ := rest
  exact ⟨.read r :: moves, .step step hends, ⟨reads, rfl, htakes⟩, itemsOf_cons _ _ moves⟩

/-- A reader can come to its end through the end of the body. -/
theorem CanEnd.close (step : Step idle p .close p') (rest : CanEnd idle p' [] items) :
    CanEnd idle p [] items := by
  obtain ⟨moves, hends, htakes, rfl⟩ := rest
  exact ⟨.close :: moves, .step step hends, ⟨rfl, htakes⟩, itemsOf_cons _ _ moves⟩

/-- What is queued goes first. -/
theorem CanEnd.hands (looking : p.stage = .looking)
    (rest : CanEnd idle { p with reader := { p.reader with pending := [] } } reads items) :
    CanEnd idle p reads (p.reader.pending ++ items) := by
  induction hpending : p.reader.pending generalizing p with
  | nil =>
    rw [← hpending] at rest
    exact rest
  | cons x pending ih => exact .step (.hand looking hpending) rfl (ih looking rest rfl)

end canEnd

/-- A reader hands out what waits before anything else. -/
theorem items_eq_pending_append (cancelled : Nat → Bool) (count : Nat) (r : ReplyReader)
    (reads : List Read) :
    r.items idle cancelled count reads = r.pending ++
      { r with pending := [] }.items idle cancelled (count + r.pending.length) reads := by
  cases reads <;> simp [ReplyReader.items]

/-- What is handed out from a wait on. -/
def afterWait (idle : Nat) (cancelled : Nat → Bool) (count : Nat) (r : ReplyReader) :
    List Read → List Item
  | [] => r.close.pending
  | .bytes bs :: reads => (r.feed bs).items idle cancelled count reads
  | .failed f :: _ => [.error f]
  | .silent :: _ => [.error (ReplyReader.idleFailure idle)]

/-- A reader with nothing queued hands out nothing if it is finished or cancelled, and waits
otherwise. -/
theorem items_of_empty {r : ReplyReader} (empty : r.pending = []) (cancelled : Nat → Bool)
    (count : Nat) (reads : List Read) :
    r.items idle cancelled count reads =
      if r.finished || cancelled count then [] else afterWait idle cancelled count r reads := by
  have hreader : { r with pending := [] } = r := by
    rw [← empty]
  cases reads with
  | nil => simp [ReplyReader.items, afterWait, empty, hreader]
  | cons read reads => cases read <;> simp [ReplyReader.items, afterWait, empty, hreader]

/-- A reader that looks can come to its end by waiting. -/
theorem CanEnd.of_wait {cancelled : Nat → Bool} {count : Nat} {reads : List Read}
    (looking : p.stage = .looking) (wanted : p.cancelled = false) (empty : p.reader.pending = [])
    (waits : CanEnd idle { p with stage := .waiting } reads
      (afterWait idle cancelled count p.reader reads)) :
    CanEnd idle p reads (p.reader.items idle cancelled count reads) := by
  rw [items_of_empty empty]
  cases hfinished : p.reader.finished with
  | true => exact .stop looking empty (.inl hfinished)
  | false =>
    cases hcancelled : cancelled count with
    | true => exact .step (.cancel wanted) rfl (.stop looking empty (.inr rfl))
    | false => exact .step (.wait looking empty hfinished wanted) rfl waits

/-- The reader at once does what the moves do: when it looks at the token, the caller cancels
just before if `cancelled` says so. -/
theorem canEnd_items (cancelled : Nat → Bool) (count : Nat) (reads : List Read)
    (looking : p.stage = .looking) (wanted : p.cancelled = false) (empty : p.reader.pending = []) :
    CanEnd idle p reads (p.reader.items idle cancelled count reads) := by
  -- the induction is on the reads: what one of them queues is handed out before the next
  induction reads generalizing p count with
  | nil =>
    refine .of_wait looking wanted empty (.close (.close rfl) ?_)
    rw [afterWait, ← List.append_nil p.reader.close.pending]
    exact .hands rfl (.stop rfl rfl (.inl rfl))
  | cons read reads ih =>
    refine .of_wait looking wanted empty ?_
    cases read with
    | bytes bs =>
      rw [afterWait, items_eq_pending_append]
      exact .read (.read bs rfl) (.hands rfl (ih _ rfl wanted rfl))
    | failed f => exact .read (.fail rfl rfl) (.stop rfl empty (.inl rfl))
    | silent => exact .read (.fail rfl rfl) (.stop rfl empty (.inl rfl))

/-- What the reader at once would hand out from `p` on. -/
def coming (idle : Nat) (cancelled : Nat → Bool) (count : Nat) (p : Pulled) (reads : List Read) :
    List Item :=
  match p.stage with
  | .looking => p.reader.items idle cancelled count reads
  | .waiting => afterWait idle cancelled count p.reader reads
  | .ended => []

section coming

variable {cancelled : Nat → Bool} {count : Nat} {reads : List Read}

/-- What is to come of a reader that looks is what the loop gives. -/
theorem coming_of_looking (looking : p.stage = .looking) :
    coming idle cancelled count p reads = p.reader.items idle cancelled count reads := by
  rw [coming, looking]

/-- What is to come of a reader that waits is what the loop gives after its wait. -/
theorem coming_of_waiting (waiting : p.stage = .waiting) :
    coming idle cancelled count p reads = afterWait idle cancelled count p.reader reads := by
  rw [coming, waiting]

/-- Nothing is to come of a reader that has ended. -/
theorem coming_of_ended (ended : p.stage = .ended) :
    coming idle cancelled count p reads = [] := by
  rw [coming, ended]

/-- The first item that waits is handed out first. -/
theorem items_of_pending {r : ReplyReader} {x : Item} {rest : List Item}
    (first : r.pending = x :: rest) :
    r.items idle cancelled count reads =
      x :: { r with pending := rest }.items idle cancelled (count + 1) reads := by
  have hlength : count + (rest.length + 1) = count + 1 + rest.length := by omega
  rw [items_eq_pending_append, items_eq_pending_append (r := { r with pending := rest }), first,
    List.length_cons, hlength]
  rfl

/-- A read that fails is the last thing that is handed out. -/
theorem afterWait_of_failure {r : ReplyReader} {read : Read} {f : Failure}
    (failure : read.failure? idle = some f) :
    afterWait idle cancelled count r (read :: reads) = [.error f] := by
  cases read with
  | bytes bs => cases failure
  | failed _ =>
    cases failure
    rfl
  | silent =>
    cases failure
    rfl

end coming

/-- The moves do what the reader at once does that is cancelled after as many items: whether it
is then cancelled before a read or goes on makes no difference, because there are no more. -/
theorem Ends.coming_eq (ends : Ends idle p moves) {total count : Nat} {reads : List Read}
    (takes : Takes moves reads) (sum : count + (itemsOf idle moves).length = total)
    (quiet : p.stage = .waiting → p.reader.pending = []) :
    coming idle (fun k => decide (total ≤ k)) count p reads = itemsOf idle moves := by
  induction ends generalizing count reads with
  | @ended p ended => exact coming_of_ended ended
  | @step p p' m moves step rest ih =>
    rw [itemsOf_cons, List.length_append] at sum
    rw [itemsOf_cons]
    cases step with
    | cancel once => exact ih takes (by simpa [Move.item?] using sum) quiet
    | @hand x pending looking first =>
      have hsum : count + 1 + (itemsOf idle moves).length = total := by
        rw [← sum]
        exact Nat.add_assoc _ _ _
      have hrest := ih takes hsum fun h => absurd (looking.symm.trans h) (by decide)
      unfold coming at hrest ⊢
      simp only [looking] at hrest ⊢
      rw [items_of_pending first, hrest]
      rfl
    | wait looking empty goes wanted =>
      have hsum : count + (itemsOf idle moves).length = total := by
        simpa [Move.item?] using sum
      have hrest := ih takes hsum fun _ => empty
      rw [coming_of_waiting rfl] at hrest
      rw [coming_of_looking looking, items_of_empty empty, goes, Bool.false_or]
      by_cases hend : total ≤ count
      · have hnil : itemsOf idle moves = [] := List.length_eq_zero_iff.1 (by omega)
        rw [if_pos (by simpa using hend), hnil]
        rfl
      · rw [if_neg (by simpa using hend), hrest]
        rfl
    | read bs waiting =>
      obtain ⟨more, rfl, htakes⟩ := takes
      have hrest := ih htakes (by simpa [Move.item?, Read.failure?] using sum) (by simp)
      rw [coming_of_looking rfl] at hrest
      rw [coming_of_waiting waiting, afterWait, hrest]
      rfl
    | @fail r f waiting failure =>
      obtain ⟨more, rfl, htakes⟩ := takes
      have hitem : (Move.read r).item? idle = some (.error f) := by
        rw [Move.item?, failure, Option.map_some]
      rw [hitem] at sum ⊢
      have hsum : count + 1 + (itemsOf idle moves).length = total := by
        rw [← sum]
        exact Nat.add_assoc _ _ _
      have hempty : ({ p.reader with finished := true } : ReplyReader).pending = [] := quiet waiting
      have hrest := ih htakes hsum (by simp)
      rw [coming_of_looking rfl, items_of_empty hempty, Bool.true_or, if_pos rfl] at hrest
      rw [coming_of_waiting waiting, afterWait_of_failure failure, ← hrest]
      rfl
    | close waiting =>
      obtain ⟨rfl, htakes⟩ := takes
      have hrest := ih htakes (by simpa [Move.item?] using sum) (by simp)
      have hclosed : p.reader.close.items idle (fun k => decide (total ≤ k)) count [] =
          p.reader.close.pending := by
        rw [items_eq_pending_append, items_of_empty rfl]
        exact List.append_nil _
      rw [coming_of_looking rfl, hclosed] at hrest
      rw [coming_of_waiting waiting, afterWait, hrest]
      rfl
    | stop looking empty done =>
      have hrest := ih takes (by simpa [Move.item?] using sum) (by simp)
      rw [coming_of_ended rfl] at hrest
      have hend : total ≤ count := by
        rw [← hrest] at sum
        exact sum.symm.le
      rw [coming_of_looking looking, items_of_empty empty, if_pos (by simp [hend]), ← hrest]
      rfl

/-- **The reader at once.**  The replies that runs over a body give are those that the reader at
once gives, for all that its caller may do. -/
theorem exists_run_iff (idle : Nat) (reads : List Read) (items : List Item) :
    (∃ moves p, Run idle moves p ∧ p.stage = .ended ∧ Takes moves reads ∧
      itemsOf idle moves = items) ↔
      ∃ cancelled, replyItems idle cancelled reads = items := by
  constructor
  · rintro ⟨moves, p, run, ended, takes, rfl⟩
    have hends := run.ends (.ended ended)
    rw [List.append_nil] at hends
    exact ⟨_, hends.coming_eq takes (Nat.zero_add _) (by simp)⟩
  · rintro ⟨cancelled, rfl⟩
    obtain ⟨moves, hends, htakes, hitems⟩ :=
      @canEnd_items idle {} cancelled 0 reads rfl rfl rfl
    obtain ⟨p, run, ended⟩ := Run.start.append hends
    exact ⟨moves, p, run, ended, htakes, hitems⟩

end Pulled

end ChatGateway.Sse
