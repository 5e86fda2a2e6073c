import Mathlib
import ChatGateway.Gateway.Client
import ChatGateway.Proofs.CommandLine.Relay

/-!
# What a response says

A response comes to a text, that of the deltas before its first terminal item, and does or does not
end in an error.  One that never says that it was cancelled is printed to its end
(`Listening.hearAll_passedOn`); and a response never says that if no read of its body failed for
that reason (`uncancelled_items`), since the failures that are made of a status, of a malformed
payload or of a silence have other names.
-/

set_option autoImplicit false

namespace ChatGateway

/-- The failure for a status is no cancelling. -/
theorem Failure.isCancelled_ofStatus (status : Nat) (body : String) :
    (Failure.ofStatus status body).isCancelled = false := by
  unfold Failure.ofStatus
  split <;> rfl

/-! ## The gateway -/

namespace Gateway

/-- A gateway whose connections do not fail for the reason that a caller has cancelled. -/
def Honest (server : Server) : Prop :=
  ∀ n r status reads, server n r = .answered status reads →
    ∀ f, Sse.Read.failed f ∈ reads → f ≠ .cancelled

/-- The statuses of a success are those from 200 to 299. -/
theorem isSuccess_iff (status : Nat) : isSuccess status = true ↔ 200 ≤ status ∧ status < 300 := by
  simp [isSuccess]

/-- An answer that is no success is a failure of its status, whether or not its body can be had. -/
theorem Exchange.body_of_rejected (r : Request) (unread : String) {status : Nat}
    (reads : List Sse.Read) (failure : isSuccess status = false) :
    ∃ text, (Exchange.answered status reads).body r unread = .error (.ofStatus status text) := by
  simp only [Exchange.body, failure]
  cases bodyText reads with
  | ok text => exact ⟨text, rfl⟩
  | error f => exact ⟨unread, rfl⟩

/-- The body of a success is there as it was read. -/
theorem Exchange.body_of_success (r : Request) (unread : String) {status : Nat}
    (reads : List Sse.Read) (success : isSuccess status = true) :
    (Exchange.answered status reads).body r unread = .ok reads := by
  simp [Exchange.body, success]

/-- Reading from the gateway does not change how it is reached. -/
theorem Client.read_connection {α : Type} (server : Server) (decode : String → Except Refusal α)
    (endpoint : String) (c : Client) :
    (c.read server decode endpoint).2.connection = c.connection := by
  unfold Client.read
  split <;> rfl

end Gateway

/-! ## Responses that were not cancelled -/

namespace Sse.ReplyReader

/-- Items of which none says that the reply was cancelled. -/
def Uncancelled (items : List Item) : Prop :=
  ∀ x ∈ items, Reply.IsCancellation x = false

/-- Two parts are free of cancellings if each of them is. -/
theorem uncancelled_append {items more : List Item} :
    Uncancelled (items ++ more) ↔ Uncancelled items ∧ Uncancelled more :=
  List.forall_mem_append

/-- A failure of another kind is no cancelling. -/
theorem uncancelled_failure {f : Failure} (h : f.isCancelled = false) :
    Uncancelled [.error f] := by
  simpa [Uncancelled, Reply.isCancelled_eq_isCancellation] using h

/-- A line brings no cancelling. -/
theorem uncancelled_takeLine {r : ReplyReader} (h : Uncancelled r.pending) (line : String) :
    Uncancelled (r.takeLine line).pending := by
  unfold takeLine
  split
  · exact h
  · split
    · exact h
    · exact h
    · exact uncancelled_append.2 ⟨h, by simp [Uncancelled, Reply.IsCancellation]⟩
    · exact uncancelled_append.2 ⟨h, uncancelled_failure rfl⟩

/-- Bytes that are read bring no cancelling. -/
theorem uncancelled_feed {r : ReplyReader} (h : Uncancelled r.pending) (bs : List UInt8) :
    Uncancelled (r.feed bs).pending := by
  have hlines : ∀ lines : List Line, ∀ r : ReplyReader, Uncancelled r.pending →
      Uncancelled (lines.foldl takeBufferLine r).pending := by
    intro lines
    induction lines with
    | nil => exact fun r h => h
    | cons line lines ih =>
      intro r h
      refine ih _ ?_
      cases line with
      | text s => exact uncancelled_takeLine h s
      | invalid => exact h
  exact hlines _ r h

/-- The end of a body brings no cancelling. -/
theorem uncancelled_close {r : ReplyReader} (h : Uncancelled r.pending) :
    Uncancelled r.close.pending := by
  rcases hlast : r.lines.remainder with ⟨_ | line, rest⟩
  · simpa [close, hlast] using h
  · simpa [close, hlast] using uncancelled_takeLine h line

/-- A body whose reads do not fail for a cancelled call gives items that do not, either. -/
theorem uncancelled_items (idle : Nat) (cancelled : Nat → Bool) (count : Nat) (r : ReplyReader)
    (reads : List Read) (h : Uncancelled r.pending)
    (honest : ∀ f, Read.failed f ∈ reads → f.isCancelled = false) :
    Uncancelled (items idle cancelled count r reads) := by
  induction reads generalizing count r with
  | nil =>
    rw [items, uncancelled_append]
    refine ⟨h, ?_⟩
    split
    · simp [Uncancelled]
    · exact uncancelled_close (by simp [Uncancelled])
  | cons read reads ih =>
    unfold items
    refine uncancelled_append.2 ⟨h, ?_⟩
    split
    · simp [Uncancelled]
    · cases read with
      | bytes bs =>
        exact ih _ _ (uncancelled_feed (by simp [Uncancelled]) bs) fun f hf =>
          honest f (List.mem_cons_of_mem _ hf)
      | failed f => exact uncancelled_failure (honest f List.mem_cons_self)
      | silent => exact uncancelled_failure rfl

end Sse.ReplyReader

/-! ## What is printed of a response -/

namespace CommandLine

/-- What the deltas of a response carry before its first terminal item. -/
def responseText (items : List Sse.Item) : String :=
  String.join ((items.takeWhile fun x => !Reply.IsLast (Reply.chunkOf x)).map fun x =>
    (Reply.chunkOf x).text)

/-- Whether the first terminal item of a response is an error. -/
def endsInError (items : List Sse.Item) : Bool :=
  (items.find? fun x => Reply.IsLast (Reply.chunkOf x)).any fun x => (Reply.chunkOf x).isError

/-- The whole response is heard, up to its first terminal item. -/
theorem Listening.hearAll_passedOn {stream : Nat} {id : String} {s : Conversation × ReplyPrinter}
    (h : Listening stream id s) {items : List Sse.Item}
    (honest : Sse.ReplyReader.Uncancelled items) :
    let s' := CommandLine.hearAll stream (Reply.passedOn items) s
    s'.1.isBusy = false ∧ s'.2.out = s.2.out ++ responseText items ∧
      s'.2.failed = (s.2.failed || endsInError items) := by
  let last := ((items.find? fun x => Reply.IsLast (Reply.chunkOf x)).map
    Reply.chunkOf).getD .finished
  have hgoesOn : ∀ c ∈ (items.takeWhile fun x => !Reply.IsLast (Reply.chunkOf x)).map
      Reply.chunkOf, c.isTerminal = false := by
    intro c hc
    obtain ⟨x, hx, rfl⟩ := List.mem_map.1 hc
    simpa [Reply.isTerminal_eq_isLast] using List.mem_takeWhile_imp hx
  have hterminal : last.isTerminal = true := by
    cases hfind : items.find? fun x => Reply.IsLast (Reply.chunkOf x) with
    | none => simp only [last, hfind]; rfl
    | some x => simpa [last, hfind, Reply.isTerminal_eq_isLast] using List.find?_some hfind
  have hfailed : last.isError = endsInError items := by
    simp only [last, endsInError]
    cases items.find? fun x => Reply.IsLast (Reply.chunkOf x) <;> rfl
  have hall := h.hearAll hgoesOn hterminal []
  rw [hfailed, List.map_map] at hall
  rw [Reply.passedOn_eq honest]
  exact hall

end CommandLine

end ChatGateway
