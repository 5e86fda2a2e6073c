import Mathlib
import ChatGateway.Proofs.Gateway.Repeated
import ChatGateway.Proofs.History

/-!
# Session lists that are given again

A client and its clones share what they remember, and any number of their calls may be under way
at a time.  A call looks at the remembered list when it is made, and hands it out before it asks
the gateway; its answer is remembered when it comes, whatever the other calls have come to by
then.  Each attempt is made and answered in moves of its own, so calls take turns in any order.

A call has two sides.  What it gives is compared with the list that was remembered when it was
made (`Run.standing`), and what is remembered is compared with the answers so far
(`Run.sessions_eq`).  A call that meets no other comes to what `Client.getSessions` says
(`Run.alone`).
-/

set_option autoImplicit false

namespace ChatGateway.Gateway

/-- What a call of the session list gives. -/
abbrev Listing := Except Failure (List Session)

/-- How far a call of the session list is. -/
inductive Call
  /-- The remembered list is handed out first. -/
  | holding (list : List Session)
  /-- The attempt of this number, counted from one, is made next. -/
  | due (attempt : ℕ)
  /-- The attempt has gone out as the `n`-th request. -/
  | out (attempt n : ℕ) (r : Request)
  | closed

namespace Call

/-- A call that knows a list hands it out first. -/
def first : Option (List Session) → Call
  | none => .due 1
  | some list => .holding list

/-- What is still to be given ahead of the new list. -/
def held : Call → List Listing
  | .holding list => [.ok list]
  | _ => []

/-- A bound on the moves that a call can still make, if it may make so many attempts. -/
def work (attempts : ℕ) : Call → ℕ
  | .holding _ => 2 * (attempts - 1) + 3
  | .due attempt => 2 * (attempts - attempt) + 2
  | .out attempt _ _ => 2 * (attempts - attempt) + 1
  | .closed => 0

end Call

/-- A client with its clones and their calls. -/
structure Shared where
  client : Client
  clones : ℕ := 1
  calls : ℕ → Option Call := fun _ => none

/-- What is seen of a client and its calls. -/
inductive Move
  | cloned (clone : ℕ)
  | called (call clone : ℕ) (fresh : Bool)
  /-- The remembered list is handed out. -/
  | gave (call : ℕ) (list : List Session)
  | asked (call : ℕ)
  /-- An attempt has failed for a passing reason. -/
  | failed (call : ℕ) (f : Failure)
  | brought (call : ℕ) (result : Listing)

namespace Move

/-- The call that makes a move. -/
def call? : Move → Option ℕ
  | .gave call _ => some call
  | .asked call => some call
  | .failed call _ => some call
  | .brought call _ => some call
  | _ => none

/-- What a move gives to whoever has made the call. -/
def item? (call : ℕ) : Move → Option Listing
  | .gave other list => if other = call then some (.ok list) else none
  | .brought other result => if other = call then some result else none
  | _ => none

/-- What the call's own question has come to. -/
def outcome? (call : ℕ) : Move → Option Listing
  | .brought other result => if other = call then some result else none
  | _ => none

/-- The list that an answer brings. -/
def list? : Move → Option (List Session)
  | .brought _ (.ok list) => some list
  | _ => none

end Move

/-- What a call is given, in order. -/
def itemsOf (call : ℕ) (moves : List Move) : List Listing :=
  moves.filterMap (Move.item? call)

/-- What the call's own questions have come to, in order. -/
def outcomesOf (call : ℕ) (moves : List Move) : List Listing :=
  moves.filterMap (Move.outcome? call)

/-- How many moves a call has made. -/
def movesOf (call : ℕ) (moves : List Move) : ℕ :=
  moves.countP fun m => m.call? = some call

/-- The list that came last. -/
def latest (moves : List Move) : Option (List Session) :=
  (moves.filterMap Move.list?).getLast?

namespace Shared

/-- The client with a call as it is now. -/
def put (s : Shared) (call : ℕ) (c : Call) : Shared :=
  { s with calls := Function.update s.calls call (some c) }

/-- How many attempts a call may make. -/
def attempts (s : Shared) : ℕ :=
  s.client.connection.retry.attempts.toNat

/-- What can happen next.  What a call knows is looked up when it is made, and what comes is
remembered in the same move that hands it out. -/
inductive Step (server : Server) (s : Shared) : Move → Shared → Prop
  | cloned {clone : ℕ} (there : clone < s.clones) :
      Step server s (.cloned clone) { s with clones := s.clones + 1 }
  | called {call clone : ℕ} {fresh : Bool} (there : clone < s.clones) (new : s.calls call = none) :
      Step server s (.called call clone fresh) (s.put call (.first (s.client.known fresh)))
  | gave {call : ℕ} {list : List Session} (holding : s.calls call = some (.holding list)) :
      Step server s (.gave call list) (s.put call (.due 1))
  | asked {call attempt : ℕ} {r : Request} (due : s.calls call = some (.due attempt))
      (made : Request.make s.client.connection Endpoint.sessions none = .ok r) :
      Step server s (.asked call)
        ({ s with client := { s.client with sent := s.client.sent ++ [r] } }.put call
          (.out attempt s.client.sent.length r))
  /-- The request is refused before it goes out. -/
  | refused {call attempt : ℕ} {refusal : Request.Refused}
      (due : s.calls call = some (.due attempt))
      (refused : Request.make s.client.connection Endpoint.sessions none = .error refusal) :
      Step server s (.brought call (.error refusal.failure)) (s.put call .closed)
  | failed {call attempt n : ℕ} {r : Request} {f : Failure}
      (out : s.calls call = some (.out attempt n r))
      (failed : Client.attempt server Session.listOfText r n = .error f)
      (passing : f.isRetryable = true) (left : attempt < s.attempts) :
      Step server s (.failed call f) (s.put call (.due (attempt + 1)))
  | brought {call attempt n : ℕ} {r : Request} {result : Listing}
      (out : s.calls call = some (.out attempt n r))
      (came : Client.attempt server Session.listOfText r n = result)
      (final : settles Failure.isRetryable result = true ∨ s.attempts ≤ attempt) :
      Step server s (.brought call result)
        ({ s with client := s.client.remember result }.put call .closed)

/-- What can happen from `s` on. -/
inductive Run (server : Server) (s : Shared) : List Move → Shared → Prop
  | start : Run server s [] s
  | step {moves : List Move} {s' s'' : Shared} {m : Move} (run : Run server s moves s')
      (step : Step server s' m s'') : Run server s (moves ++ [m]) s''

variable {server : Server} {s s' : Shared} {m : Move} {moves : List Move} {call : ℕ}

/-- What a call is replaced by leaves the client alone. -/
@[simp]
theorem put_client (s : Shared) (call : ℕ) (c : Call) : (s.put call c).client = s.client := rfl

/-- A call that is put is there. -/
@[simp]
theorem put_calls_self (s : Shared) (call : ℕ) (c : Call) : (s.put call c).calls call = some c :=
  Function.update_self ..

/-- A call that is put leaves the others. -/
theorem put_calls_of_ne {other : ℕ} (h : some other ≠ some call) (s : Shared) (c : Call) :
    (s.put other c).calls call = s.calls call :=
  Function.update_of_ne (fun heq => h (congrArg some heq.symm)) ..

/-- No move changes the connection. -/
theorem Step.connection_eq (step : Step server s m s') :
    s'.client.connection = s.client.connection := by
  cases step with
  | @brought _ _ _ _ result => cases result <;> rfl
  | _ => rfl

/-- No move changes the number of attempts. -/
theorem Step.attempts_eq (step : Step server s m s') : s'.attempts = s.attempts := by
  unfold attempts
  rw [step.connection_eq]

/-- No moves change the number of attempts. -/
theorem Run.attempts_eq (run : Run server s moves s') : s'.attempts = s.attempts := by
  induction run with
  | start => rfl
  | step _ step ih => rw [step.attempts_eq, ih]

/-- Moves may follow on moves. -/
theorem Run.append {more : List Move} {s'' : Shared} (run : Run server s moves s')
    (next : Run server s' more s'') : Run server s (moves ++ more) s'' := by
  induction next with
  | start => simpa using run
  | step _ step ih => simpa using ih.step step

/-- Moves may follow on one move. -/
theorem Run.cons {more : List Move} {s'' : Shared} (step : Step server s m s')
    (next : Run server s' more s'') : Run server s (m :: more) s'' :=
  (Run.start.step step).append next

/-! ## What is remembered -/

/-- The latest list is that of the last move that brought one. -/
theorem latest_concat (moves : List Move) (m : Move) :
    latest (moves ++ [m]) = m.list?.or (latest moves) := by
  cases h : m.list? <;> simp [latest, h]

/-- The client remembers the list that a move brings. -/
theorem Step.sessions_eq (step : Step server s m s') :
    s'.client.sessions = m.list?.or s.client.sessions := by
  cases step with
  | @brought _ _ _ _ result => cases result <;> rfl
  | _ => rfl

/-- What came last is remembered. -/
theorem Run.sessions_eq (run : Run server s moves s') :
    s'.client.sessions = (latest moves).or s.client.sessions := by
  induction run with
  | start => rfl
  | step _ step ih => rw [step.sessions_eq, ih, latest_concat, Option.or_assoc]

/-! ## What a call gives -/

/-- What the last move hands out to a call comes last. -/
theorem itemsOf_concat (call : ℕ) (moves : List Move) (m : Move) :
    itemsOf call (moves ++ [m]) = itemsOf call moves ++ (m.item? call).toList := by
  cases h : m.item? call <;> simp [itemsOf, h]

/-- What the last move brings to a call comes last. -/
theorem outcomesOf_concat (call : ℕ) (moves : List Move) (m : Move) :
    outcomesOf call (moves ++ [m]) = outcomesOf call moves ++ (m.outcome? call).toList := by
  cases h : m.outcome? call <;> simp [outcomesOf, h]

/-- The last move counts for a call if it is the call's own. -/
theorem movesOf_concat (call : ℕ) (moves : List Move) (m : Move) :
    movesOf call (moves ++ [m]) = movesOf call moves + if m.call? = some call then 1 else 0 := by
  simp [movesOf, List.countP_append, List.countP_singleton]

/-- A move of another call hands out nothing to this one, and brings it nothing. -/
theorem item?_of_ne (h : m.call? ≠ some call) : m.item? call = none ∧ m.outcome? call = none := by
  cases m <;> simp_all [Move.call?, Move.item?, Move.outcome?]

/-- A move of another call leaves a call where it is. -/
theorem Step.calls_eq (step : Step server s m s') (other : m.call? ≠ some call)
    (there : s.calls call ≠ none) : s'.calls call = s.calls call := by
  cases step with
  | cloned => rfl
  | called _ new =>
    refine put_calls_of_ne ?_ ..
    rintro ⟨⟩
    exact there new
  | gave => exact put_calls_of_ne other ..
  | asked => exact put_calls_of_ne other ..
  | refused => exact put_calls_of_ne other ..
  | failed => exact put_calls_of_ne other ..
  | brought => exact put_calls_of_ne other ..

/-- What a move does to the call that makes it. -/
theorem Step.own (step : Step server s m s') (own : m.call? = some call) :
    ∃ c c', s.calls call = some c ∧ s'.calls call = some c' ∧
      c'.work s.attempts < c.work s.attempts ∧
      ((c' ≠ .closed ∧ (m.item? call).toList ++ c'.held = c.held ∧ m.outcome? call = none) ∨
        (c' = .closed ∧ c.held = [] ∧
          ∃ result, m.item? call = some result ∧ m.outcome? call = some result)) := by
  cases step with
  | cloned => cases own
  | called => cases own
  | gave holding =>
    obtain rfl := Option.some.inj own
    refine ⟨_, _, holding, put_calls_self .., ?_, .inl ⟨by simp, ?_, rfl⟩⟩
    · simp [Call.work]
    · simp [Move.item?, Call.held]
  | asked due =>
    obtain rfl := Option.some.inj own
    refine ⟨_, _, due, put_calls_self .., ?_, .inl ⟨by simp, rfl, rfl⟩⟩
    simp [Call.work]
  | refused due =>
    obtain rfl := Option.some.inj own
    refine ⟨_, _, due, put_calls_self .., ?_, .inr ⟨rfl, rfl, _, if_pos rfl, if_pos rfl⟩⟩
    simp [Call.work]
  | failed out _ _ left =>
    obtain rfl := Option.some.inj own
    refine ⟨_, _, out, put_calls_self .., ?_, .inl ⟨by simp, rfl, rfl⟩⟩
    simp only [Call.work]
    omega
  | brought out =>
    obtain rfl := Option.some.inj own
    refine ⟨_, _, out, put_calls_self .., ?_, .inr ⟨rfl, rfl, _, if_pos rfl, if_pos rfl⟩⟩
    simp [Call.work]

/-- How what a call has given in some moves compares with what it knew before. -/
structure Standing (call : ℕ) (known : List Listing) (moves : List Move) (s : Shared) (c : Call) :
    Prop where
  there : s.calls call = some c
  running : c ≠ .closed → itemsOf call moves ++ c.held = known ∧ outcomesOf call moves = []
  ended : c = .closed →
    ∃ result, itemsOf call moves = known ++ [result] ∧ outcomesOf call moves = [result]
  bounded : movesOf call moves + c.work s.attempts ≤ 2 * (s.attempts - 1) + 3

/-- A call that stands so stands so after one more move. -/
theorem Standing.step {known : List Listing} {c : Call} (h : Standing call known moves s c)
    (step : Step server s m s') : ∃ c', Standing call known (moves ++ [m]) s' c' := by
  have hbound := h.bounded
  by_cases hown : m.call? = some call
  · obtain ⟨c₀, c', hthere, hthere', hwork, hcases⟩ := step.own hown
    obtain rfl := Option.some.inj (h.there.symm.trans hthere)
    have hgoes : c ≠ .closed := by
      rintro rfl
      simp [Call.work] at hwork
    obtain ⟨hitems, houtcomes⟩ := h.running hgoes
    have hbounded : movesOf call (moves ++ [m]) + c'.work s'.attempts ≤
        2 * (s'.attempts - 1) + 3 := by
      rw [movesOf_concat, if_pos hown, step.attempts_eq]
      omega
    rcases hcases with ⟨hgoes', hitem, hnone⟩ | ⟨rfl, hheld, result, hitem, houtcome⟩
    · refine ⟨c', hthere', fun _ => ⟨?_, ?_⟩, fun hclosed => absurd hclosed hgoes', hbounded⟩
      · rw [itemsOf_concat, List.append_assoc, hitem, hitems]
      · rw [outcomesOf_concat, houtcomes, hnone]
        rfl
    · refine ⟨.closed, hthere', fun hgoes' => absurd rfl hgoes', fun _ => ⟨result, ?_, ?_⟩, hbounded⟩
      · rw [hheld, List.append_nil] at hitems
        rw [itemsOf_concat, hitems, hitem]
        rfl
      · rw [outcomesOf_concat, houtcomes, houtcome]
        rfl
  · obtain ⟨hitem, houtcome⟩ := item?_of_ne hown
    have hitems : itemsOf call (moves ++ [m]) = itemsOf call moves := by
      simp [itemsOf_concat, hitem]
    have houtcomes : outcomesOf call (moves ++ [m]) = outcomesOf call moves := by
      simp [outcomesOf_concat, houtcome]
    refine ⟨c, ?_, ?_, ?_, ?_⟩
    · exact (step.calls_eq hown (by simp [h.there])).trans h.there
    · rw [hitems, houtcomes]
      exact h.running
    · rw [hitems, houtcomes]
      exact h.ended
    · rw [movesOf_concat, if_neg hown, step.attempts_eq]
      exact hbound

/-- From the moment it is made, a call stands by what it knew then. -/
theorem Run.standing (run : Run server s moves s') {before after : List Move} {clone : ℕ}
    {fresh : Bool} (split : moves = before ++ .called call clone fresh :: after) :
    ∃ c, Standing call
      (if fresh then [] else (((latest before).or s.client.sessions).toList.map .ok)) after s' c := by
  induction run generalizing after with
  | start => simp at split
  | @step moves s' s'' m run step ih =>
    rcases concat_eq_append_cons.1 split with ⟨rfl, rfl, rfl⟩ | ⟨rest, rfl, rfl⟩
    · cases step with
      | called there new =>
        have hknown := run.sessions_eq
        refine ⟨_, put_calls_self .., fun _ => ⟨?_, rfl⟩, ?_, ?_⟩
        · rw [← hknown]
          cases fresh with
          | true => rfl
          | false =>
            cases hsessions : s'.client.sessions <;>
              simp [itemsOf, Client.known, hsessions, Call.first, Call.held]
        · intro hclosed
          cases hfirst : s'.client.known fresh <;> simp [hfirst, Call.first] at hclosed
        · cases hfirst : s'.client.known fresh <;> simp [Call.first, Call.work, movesOf]
    · obtain ⟨c, hstanding⟩ := ih rfl
      exact hstanding.step step

/-! ## That a call ends -/

/-- A call that is under way has a next move. -/
theorem exists_step (server : Server) {c : Call} (there : s.calls call = some c)
    (goes : c ≠ .closed) : ∃ m s', m.call? = some call ∧ Step server s m s' := by
  cases c with
  | holding list => exact ⟨_, _, rfl, .gave there⟩
  | due attempt =>
    cases hmade : Request.make s.client.connection Endpoint.sessions none with
    | ok r => exact ⟨_, _, rfl, .asked there hmade⟩
    | error refusal => exact ⟨_, _, rfl, .refused there hmade⟩
  | out attempt n r =>
    rcases hcame : Client.attempt server Session.listOfText r n with f | list
    · cases hpassing : f.isRetryable with
      | false =>
        refine ⟨_, _, rfl, .brought there hcame (.inl ?_)⟩
        simp [settles, hpassing]
      | true =>
        rcases Nat.lt_or_ge attempt s.attempts with hleft | hused
        · exact ⟨_, _, rfl, .failed there hcame hpassing hleft⟩
        · exact ⟨_, _, rfl, .brought there hcame (.inr hused)⟩
    · exact ⟨_, _, rfl, .brought there hcame (.inl rfl)⟩
  | closed => exact absurd rfl goes

/-- A call that is left alone from now on comes to its end. -/
theorem exists_run_closed (server : Server) {c : Call} (there : s.calls call = some c) :
    ∃ more s', Run server s more s' ∧ (∀ m ∈ more, m.call? = some call) ∧
      s'.calls call = some .closed := by
  induction hwork : c.work s.attempts using Nat.strong_induction_on generalizing s c with
  | _ work ih =>
    by_cases hclosed : c = .closed
    · exact ⟨[], s, .start, by simp, hclosed ▸ there⟩
    · obtain ⟨m, s₁, hown, hstep⟩ := exists_step server there hclosed
      obtain ⟨c₀, c₁, hthere, hthere₁, hless, -⟩ := hstep.own hown
      obtain rfl := Option.some.inj (there.symm.trans hthere)
      rw [hwork, ← hstep.attempts_eq] at hless
      obtain ⟨more, s', hrun, hmore, hend⟩ := ih _ hless hthere₁ rfl
      exact ⟨m :: more, s', hrun.cons hstep, List.forall_mem_cons.2 ⟨hown, hmore⟩, hend⟩

/-! ## A call that meets no other -/

/-- What the attempts from this number on come to, when nothing else is sent. -/
def attemptsFrom (server : Server) (i : ℕ) (c : Client) : Listing × Client :=
  match Request.make c.connection Endpoint.sessions none with
  | .error refusal => (.error refusal.failure, c)
  | .ok r =>
    let (result, delays) :=
      retrying.go Failure.isRetryable (fun j => (c.connection.retry.backoff j.toUInt32).toNat)
        (fun j => Client.attempt server Session.listOfText r (c.sent.length + j - i))
        (c.connection.retry.attempts.toNat - i) i
    (result, { c with sent := c.sent ++ List.replicate (delays.length + 1) r })

/-- What a call still gives, and the client that it leaves, when no other call moves. -/
def toCome (server : Server) (c : Client) : Call → List Listing × Client
  | .holding list =>
    let (result, c') := attemptsFrom server 1 c
    ([.ok list, result], c'.remember result)
  | .due attempt =>
    let (result, c') := attemptsFrom server attempt c
    ([result], c'.remember result)
  | .out attempt n r =>
    let result := Client.attempt server Session.listOfText r n
    if settles Failure.isRetryable result = true ∨ c.connection.retry.attempts.toNat ≤ attempt then
      ([result], c.remember result)
    else
      let (result, c') := attemptsFrom server (attempt + 1) c
      ([result], c'.remember result)
  | .closed => ([], c)

/-- All that is to come of a call at its start is what it gives when it is made alone. -/
theorem toCome_first (server : Server) (fresh : Bool) (c : Client) :
    toCome server c (.first (c.known fresh)) = c.getSessions server fresh := by
  have hread : attemptsFrom server 1 c = c.read server Session.listOfText Endpoint.sessions := by
    unfold attemptsFrom Client.read retrying
    cases Request.make c.connection Endpoint.sessions none <;> rfl
  unfold Client.getSessions
  rw [← hread]
  cases c.known fresh <;> simp [Call.first, toCome]

/-- To go out is the first thing that an attempt does. -/
theorem toCome_out (server : Server) (attempt : ℕ) {c : Client} {r : Request}
    (made : Request.make c.connection Endpoint.sessions none = .ok r) :
    toCome server { c with sent := c.sent ++ [r] } (.out attempt c.sent.length r) =
      toCome server c (.due attempt) := by
  unfold toCome attemptsFrom
  simp only [made]
  rcases Nat.lt_or_ge attempt c.connection.retry.attempts.toNat with hleft | hused
  · obtain ⟨left, hcount, hnext⟩ : ∃ left, c.connection.retry.attempts.toNat - attempt = left + 1 ∧
        c.connection.retry.attempts.toNat - (attempt + 1) = left := ⟨_, by omega, rfl⟩
    have hsame : ∀ j, c.sent.length + 1 + j - (attempt + 1) = c.sent.length + j - attempt := by
      intro j
      omega
    rw [hcount, retrying_go_succ]
    cases hsettles : settles Failure.isRetryable
        (Client.attempt server Session.listOfText r c.sent.length) with
    | true => simp [hsettles]
    | false => simp [hsettles, hleft.not_ge, hnext, hsame, List.replicate_succ]
  · have hleft : c.connection.retry.attempts.toNat - attempt = 0 := by omega
    simp [hused, hleft, retrying.go]

/-- What a move of a call gives is what was to come first. -/
theorem Step.toCome_eq {c : Call} (step : Step server s m s') (own : m.call? = some call)
    (there : s.calls call = some c) :
    ∃ c', s'.calls call = some c' ∧
      toCome server s.client c =
        ((m.item? call).toList ++ (toCome server s'.client c').1, (toCome server s'.client c').2) := by
  cases step with
  | cloned => cases own
  | called => cases own
  | gave holding =>
    obtain rfl := Option.some.inj own
    obtain rfl := Option.some.inj (there.symm.trans holding)
    refine ⟨_, put_calls_self .., ?_⟩
    simp [toCome, Move.item?]
  | asked due made =>
    obtain rfl := Option.some.inj own
    obtain rfl := Option.some.inj (there.symm.trans due)
    refine ⟨_, put_calls_self .., ?_⟩
    rw [put_client, toCome_out server _ made]
    simp [Move.item?]
  | refused due refused =>
    obtain rfl := Option.some.inj own
    obtain rfl := Option.some.inj (there.symm.trans due)
    refine ⟨_, put_calls_self .., ?_⟩
    simp [toCome, attemptsFrom, refused, Move.item?, Client.remember]
  | failed out failed passing left =>
    obtain rfl := Option.some.inj own
    obtain rfl := Option.some.inj (there.symm.trans out)
    refine ⟨_, put_calls_self .., ?_⟩
    have hleft : ¬ s.client.connection.retry.attempts.toNat ≤ _ := Nat.not_le.2 left
    simp [toCome, failed, settles, passing, hleft, Move.item?]
  | brought out came final =>
    obtain rfl := Option.some.inj own
    obtain rfl := Option.some.inj (there.symm.trans out)
    refine ⟨_, put_calls_self .., ?_⟩
    unfold attempts at final
    simp [toCome, came, final, Move.item?]

/-- From a call's place on, its moves alone give what was to come, until it has come. -/
theorem Run.toCome_eq {c : Call} (run : Run server s moves s')
    (alone : ∀ m ∈ moves, m.call? = some call) (there : s.calls call = some c) :
    ∃ c', s'.calls call = some c' ∧
      toCome server s.client c =
        (itemsOf call moves ++ (toCome server s'.client c').1, (toCome server s'.client c').2) := by
  induction run with
  | start => exact ⟨c, there, rfl⟩
  | @step moves s' s'' m _ step ih =>
    rw [List.forall_mem_append, List.forall_mem_singleton] at alone
    obtain ⟨c', hthere, hcome⟩ := ih alone.1
    obtain ⟨c'', hthere', hcome'⟩ := step.toCome_eq alone.2 hthere
    refine ⟨c'', hthere', ?_⟩
    rw [hcome, hcome', itemsOf_concat, List.append_assoc]

/-- A call that meets no other gives what a client gives that is asked for its sessions. -/
theorem Run.alone {clone : ℕ} {fresh : Bool} {s₁ : Shared}
    (step : Step server s (.called call clone fresh) s₁) (run : Run server s₁ moves s')
    (alone : ∀ m ∈ moves, m.call? = some call) (closed : s'.calls call = some .closed) :
    s.client.getSessions server fresh = (itemsOf call moves, s'.client) := by
  cases step
  obtain ⟨c', hthere, hcome⟩ := run.toCome_eq alone (put_calls_self ..)
  obtain rfl := Option.some.inj (hthere.symm.trans closed)
  rw [put_client, toCome_first] at hcome
  rw [hcome]
  simp [toCome]

/-- A body that is no list of sessions ends the call at once. -/
theorem Step.of_undecodable {attempt n : ℕ} {r : Request} {body : List Sse.Read} {text : String}
    {refusal : Refusal} (step : Step server s m s') (own : m.call? = some call)
    (out : s.calls call = some (.out attempt n r))
    (answered : (server n r).body r "" = .ok body) (read : bodyText body = .ok text)
    (undecodable : Session.listOfText text = .error refusal) :
    m = .brought call (.error (.malformed refusal.message)) ∧ s'.client = s.client := by
  have hattempt : Client.attempt server Session.listOfText r n =
      .error (.malformed refusal.message) := by
    simp [Client.attempt, answered, read, undecodable, bind, Except.bind, Except.mapError]
  cases step with
  | cloned => cases own
  | called => cases own
  | gave holding =>
    obtain rfl := Option.some.inj own
    simp [out] at holding
  | asked due =>
    obtain rfl := Option.some.inj own
    simp [out] at due
  | refused due =>
    obtain rfl := Option.some.inj own
    simp [out] at due
  | failed out' failed passing =>
    obtain rfl := Option.some.inj own
    simp only [out, Option.some.injEq, Call.out.injEq] at out'
    obtain ⟨rfl, rfl, rfl⟩ := out'
    rw [hattempt] at failed
    cases failed
    cases passing
  | brought out' came =>
    obtain rfl := Option.some.inj own
    simp only [out, Option.some.injEq, Call.out.injEq] at out'
    obtain ⟨rfl, rfl, rfl⟩ := out'
    rw [hattempt] at came
    subst came
    exact ⟨rfl, rfl⟩

/-! ## The session list -/

/-- What a call gives ahead of a new list, if it is made after these moves. -/
def replayed (fresh : Bool) (before : List Move) : List Listing :=
  if fresh then [] else (latest before).toList.map .ok

/-- Whatever the clones of a client are asked for, however their calls take turns and whatever
the gateway answers: a call that insists on a new list gives what it brings and nothing else, and
any other call first gives the list that came last before it was made.  A call that is under way
has given part of this, and comes to its end when its turn comes often enough.  The list that came
last is remembered, whoever it was for; a call that fails changes nothing, be it over a body
that is no list.  A call that meets no other gives what the client gives on its own. -/
theorem sessions_replayed (connection : Connection) {history : List Move}
    (run : Run server { client := { connection := connection } } history s) :
    (∀ before call clone fresh after, history = before ++ .called call clone fresh :: after →
      ((outcomesOf call after = [] ∧ itemsOf call after <+: replayed fresh before) ∨
        ∃ result, outcomesOf call after = [result] ∧
          itemsOf call after = replayed fresh before ++ [result]) ∧
      movesOf call after ≤ 2 * (connection.retry.attempts.toNat - 1) + 3 ∧
      ∃ more s' result, Run server s more s' ∧ (∀ m ∈ more, m.call? = some call) ∧
        outcomesOf call (after ++ more) = [result] ∧
        itemsOf call (after ++ more) = replayed fresh before ++ [result]) ∧
    s.client.sessions = latest history ∧
    (∀ call list s', Step server s (.brought call (.ok list)) s' →
      s'.client.sessions = some list) ∧
    (∀ call f s', Step server s (.brought call (.error f)) s' →
      s'.client.sessions = s.client.sessions) ∧
    (∀ m s' call attempt n r body text refusal, Step server s m s' → m.call? = some call →
      s.calls call = some (.out attempt n r) → (server n r).body r "" = .ok body →
      bodyText body = .ok text → Session.listOfText text = .error refusal →
      m = .brought call (.error (.malformed refusal.message)) ∧ s'.client = s.client) ∧
    ∀ call clone fresh s₁ own s', Step server s (.called call clone fresh) s₁ →
      Run server s₁ own s' → (∀ m ∈ own, m.call? = some call) →
      s'.calls call = some .closed →
      s.client.getSessions server fresh = (itemsOf call own, s'.client) := by
  have hattempts : s.attempts = connection.retry.attempts.toNat := run.attempts_eq
  refine ⟨?_, ?_, ?_, ?_, ?_, ?_⟩
  · intro before call clone fresh after hsplit
    obtain ⟨c, hstanding⟩ := run.standing hsplit
    rw [Option.or_none] at hstanding
    refine ⟨?_, ?_, ?_⟩
    · by_cases hclosed : c = .closed
      · obtain ⟨result, hitems, houtcomes⟩ := hstanding.ended hclosed
        exact .inr ⟨result, houtcomes, hitems⟩
      · obtain ⟨hitems, houtcomes⟩ := hstanding.running hclosed
        exact .inl ⟨houtcomes, c.held, hitems⟩
    · have := hstanding.bounded
      omega
    · obtain ⟨more, s', hmore, hown, hend⟩ := exists_run_closed server hstanding.there
      have hsplit' : history ++ more = before ++ .called call clone fresh :: (after ++ more) := by
        simp [hsplit]
      obtain ⟨c', hstanding'⟩ := (run.append hmore).standing hsplit'
      obtain rfl := Option.some.inj (hstanding'.there.symm.trans hend)
      obtain ⟨result, hitems, houtcomes⟩ := hstanding'.ended rfl
      rw [Option.or_none] at hitems
      exact ⟨more, s', result, hmore, hown, houtcomes, hitems⟩
  · rw [run.sessions_eq, Option.or_none]
  · intro call list s' hstep
    exact hstep.sessions_eq
  · intro call f s' hstep
    exact hstep.sessions_eq
  · intro m s' call attempt n r body text refusal hstep hown hout hanswered hread hundecodable
    exact hstep.of_undecodable hown hout hanswered hread hundecodable
  · intro call clone fresh s₁ own s' hstep hrun halone hclosed
    exact Run.alone hstep hrun halone hclosed

/-- A gateway that lists nothing at first, is overloaded then, and says something else before it
lists a session. -/
def late : Server
  | 0, _ => .answered 200 [.bytes (Text.Utf8.encode "\x7b\"sessions\":[]\x7d".toList)]
  | 1, _ => .answered 503 []
  | 2, _ => .answered 200 [.bytes (Text.Utf8.encode "\x7b\"sessions\":7\x7d".toList)]
  | _, _ => .answered 200 [.bytes (Text.Utf8.encode ("\x7b\"sessions\":[\x7b\"id\":\"a\"," ++
      "\"name\":\"Night\",\"status\":\"connected\",\"created_at\":\"2024-01-01T00:00:00Z\"," ++
      "\"updated_at\":\"2024-01-01T00:00:00Z\"\x7d]\x7d").toList)]

/-- The session that is listed last. -/
def night : Session :=
  ⟨"a", "Night", .connected, ⟨1704067200, 0⟩, ⟨1704067200, 0⟩⟩

/-- Four calls that overlap.  The new list of the third comes after the last call is made and
before that hands out what it knows. -/
def overlapping : List Move :=
  [.called 0 0 false, .asked 0, .cloned 0, .brought 0 (.ok []), .called 1 1 false, .called 2 0 true,
    .asked 2, .gave 1 [], .failed 2 (.http 503 "<empty response>"), .asked 1,
    .brought 1 (.error
      (.malformed "invalid type: integer \x607\x60, expected a sequence at line 1 column 13")),
    .called 3 1 false, .asked 2, .brought 2 (.ok [night]), .gave 3 []]

/-- The request that each of them makes. -/
def request : Request where
  method := .read
  address := "http://localhost:8080/api/terminal/sessions"
  url :=
    { scheme := "http", user := "", password := none, host := some "localhost",
      service := some 8080, path := "/api/terminal/sessions", query := none, fragment := none }
  authorization := []
  accept := "application/json"
  contentType := none
  body := ""

/-- The last call first hands out the list that was known when it was made, not the one that came
since. -/
theorem sessions_replayed_overlapping :
    ∃ s, Run late { client := { connection := Connection.ofSettings {} } } overlapping s ∧
      s.client.sessions = some [night] ∧
      ∃ more s' result, Run late s more s' ∧ itemsOf 3 (overlapping ++ more) = [.ok [], result] := by
  have hmade : Request.make (Connection.ofSettings {}) Endpoint.sessions none = .ok request := by
    decide +kernel
  have hfirst : Client.attempt late Session.listOfText request 0 = .ok [] := by
    decide +kernel
  have hsecond : Client.attempt late Session.listOfText request 1 =
      .error (.http 503 "<empty response>") := by
    decide +kernel
  have hthird : Client.attempt late Session.listOfText request 2 = .error
      (.malformed "invalid type: integer \x607\x60, expected a sequence at line 1 column 13") := by
    decide +kernel
  have hfourth : Client.attempt late Session.listOfText request 3 = .ok [night] := by
    decide +kernel
  have hleft : 1 < (Connection.ofSettings {}).retry.attempts.toNat := by decide +kernel
  obtain ⟨s, hrun⟩ :
      ∃ s, Run late { client := { connection := Connection.ofSettings {} } } overlapping s := by
    exact ⟨_, .cons (.called Nat.zero_lt_one rfl) <| .cons (.asked rfl hmade) <|
      .cons (.cloned Nat.zero_lt_one) <| .cons (.brought rfl hfirst (.inl rfl)) <|
      .cons (.called Nat.one_lt_two rfl) <| .cons (.called Nat.zero_lt_two rfl) <|
      .cons (.asked rfl hmade) <| .cons (.gave rfl) <|
      .cons (.failed rfl hsecond rfl hleft) <| .cons (.asked rfl hmade) <|
      .cons (.brought rfl hthird (.inl rfl)) <| .cons (.called Nat.one_lt_two rfl) <|
      .cons (.asked rfl hmade) <| .cons (.brought rfl hfourth (.inl rfl)) <|
      .cons (.gave rfl) .start⟩
  obtain ⟨hcalls, hremembered, -⟩ := sessions_replayed (Connection.ofSettings {}) hrun
  obtain ⟨-, -, more, s', result, hmore, -, -, hitems⟩ :=
    hcalls (overlapping.take 11) 3 1 false (overlapping.drop 12) rfl
  exact ⟨s, hrun, hremembered, more, s', result, hmore, hitems⟩

end Shared

end ChatGateway.Gateway
