import Mathlib
import ChatGateway.Proofs.Gateway.Repeated
import ChatGateway.Proofs.Gateway.Requests
import ChatGateway.Proofs.Url.Below
import ChatGateway.Text.Blank

/-!
# Identifiers in addresses

An identifier from outside becomes a part of an address only if it is one plain segment.  So
what is asked for by an identifier stands below the base of the gateway, in the place that is
meant for it, and different identifiers ask for different things; any other identifier is
refused without a request.
-/

set_option autoImplicit false

namespace ChatGateway

/-- An identifier that stands for itself in one segment of a path. -/
structure Endpoint.IsIdentifier (id : String) : Prop where
  nonempty : id ≠ ""
  notDot : id ≠ "."
  notDots : id ≠ ".."
  unmarked : ∀ c ∈ id.toList, c ∉ ['/', '?', '#', '%', '\\']
  unblank : ∀ c ∈ id.toList, Text.isBlank c = false
  isAscii : ∀ c ∈ id.toList, c.toNat < 0x80

/-- What may be a segment is one that stays as it is written. -/
theorem Endpoint.isPlain_of_isSegment {id : String} (h : isSegment id = true) :
    Url.IsPlain id.toList := by
  simp only [isSegment, Bool.and_eq_true, decide_eq_true_eq, List.all_eq_true, ne_eq] at h
  obtain ⟨⟨⟨hnonempty, hchars⟩, hdot⟩, hdots⟩ := h
  refine ⟨?_, hchars, ?_, ?_⟩
  · simpa using hnonempty
  · exact fun heq => hdot (String.toList_inj.1 heq)
  · exact fun heq => hdots (String.toList_inj.1 heq)

/-- What may be a segment is an identifier. -/
theorem Endpoint.isIdentifier_of_isSegment {id : String} (h : isSegment id = true) :
    IsIdentifier id := by
  have hplain := isPlain_of_isSegment h
  refine ⟨?_, ?_, ?_, ?_, ?_, ?_⟩
  · rintro rfl
    exact hplain.nonempty rfl
  · rintro rfl
    exact hplain.notDot rfl
  · rintro rfl
    exact hplain.notDots rfl
  · intro c hc hmark
    have hchar := hplain.chars c hc
    simp only [List.mem_cons, List.not_mem_nil, or_false] at hmark
    rcases hmark with rfl | rfl | rfl | rfl | rfl <;> exact absurd hchar (by decide)
  · intro c hc
    have hbounds := isSegmentChar_bounds (hplain.chars c hc)
    simp only [Text.isBlank, Bool.or_eq_false_iff, Bool.and_eq_false_iff, decide_eq_false_iff_not]
    omega
  · intro c hc
    have := isSegmentChar_bounds (hplain.chars c hc)
    omega

namespace Gateway

/-- What can be looked up by an identifier. -/
inductive Lookup
  | session
  | thread

namespace Lookup

/-- What is found. -/
def Answer : Lookup → Type
  | .session => Session
  | .thread => List ThreadMessage

/-- What an identifier is said to be one of. -/
def kind : Lookup → String
  | .session => "session"
  | .thread => "thread"

/-- Where it is, segment by segment below the base. -/
def segments (id : String) : Lookup → List String
  | .session => ["terminal", "sessions", id]
  | .thread => ["threads", id, "messages"]

/-- Where it is below the base. -/
def place (l : Lookup) (id : String) : String :=
  "/".intercalate (l.segments id)

/-- Looks it up. -/
def get (server : Server) (id : String) (c : Client) :
    (l : Lookup) → Except Failure l.Answer × Client
  | .session => c.getSession server id
  | .thread => c.getThread server id

/-- How the answer is read. -/
def decode : (l : Lookup) → String → Except Refusal l.Answer
  | .session => Session.ofText
  | .thread => ThreadMessage.listOfText

/-- The endpoint that is asked. -/
def endpoint (id : String) : Lookup → String
  | .session => Endpoint.session id
  | .thread => Endpoint.threadMessages id

/-- The endpoint of a lookup is its place. -/
theorem endpoint_eq (l : Lookup) (id : String) : l.endpoint id = l.place id := by
  cases l with
  | session =>
    have hfolder : "terminal/sessions/" = "terminal" ++ "/" ++ "sessions" ++ "/" := by decide
    show "terminal/sessions/" ++ id = "terminal" ++ "/" ++ "sessions" ++ "/" ++ id
    rw [hfolder]
  | thread =>
    have hfolder : "threads/" = "threads" ++ "/" := by decide
    have hfile : "/messages" = "/" ++ "messages" := by decide
    show "threads/" ++ id ++ "/messages" = "threads" ++ "/" ++ id ++ "/" ++ "messages"
    rw [hfolder, hfile, ← String.append_assoc]

/-- What is looked up is read from its place, if the identifier can be a segment. -/
theorem get_eq (l : Lookup) (server : Server) (id : String) (c : Client) :
    l.get server id c =
      if Endpoint.isSegment id then c.read server l.decode (l.place id)
      else (.error (Client.invalidId l.kind id), c) := by
  rw [← endpoint_eq]
  cases l <;> rfl

section place

variable (l : Lookup) {id : String}

/-- A place is its segments with slashes in front of them. -/
theorem toList_place (id : String) :
    (l.place id).toList = Url.joined ((l.segments id).map String.toList) :=
  String.toList_intercalate

/-- All segments of a place may be segments if the identifier may. -/
theorem isSegment_segments (h : Endpoint.isSegment id = true) :
    ∀ s ∈ l.segments id, Endpoint.isSegment s = true := by
  have hterminal : Endpoint.isSegment "terminal" = true := by decide +kernel
  have hsessions : Endpoint.isSegment "sessions" = true := by decide +kernel
  have hthreads : Endpoint.isSegment "threads" = true := by decide +kernel
  have hmessages : Endpoint.isSegment "messages" = true := by decide +kernel
  cases l <;> simp [segments, h, hterminal, hsessions, hthreads, hmessages]

/-- All segments of a place stay as they are written if the identifier may be one. -/
theorem isPlain_segments (h : Endpoint.isSegment id = true) :
    ∀ s ∈ (l.segments id).map String.toList, Url.IsPlain s := by
  intro s hs
  obtain ⟨segment, hsegment, rfl⟩ := List.mem_map.1 hs
  exact Endpoint.isPlain_of_isSegment (l.isSegment_segments h segment hsegment)

/-- Split at its slashes, the place is its segments again. -/
theorem segments_place (h : Endpoint.isSegment id = true) :
    Url.segments true [] (l.place id).toList = (l.segments id).map String.toList := by
  rw [toList_place]
  exact Url.segments_joined true (by cases l <;> simp [segments]) (l.isPlain_segments h)

/-- Different identifiers have different places. -/
theorem place_inj {id' : String} (heq : l.place id = l.place id') : id = id' := by
  cases l with
  | session => exact (String.append_right_inj _).1 heq
  | thread =>
    exact (String.append_right_inj _).1
      ((String.append_left_inj _).1 ((String.append_left_inj _).1 heq))

/-- The place has no slash at its front that an address would leave out. -/
theorem address_place (base : String) (h : Endpoint.isSegment id = true) :
    Endpoint.address base (l.place id) =
      Endpoint.normalizeBase base ++ "/" ++ l.place id := by
  have hplain := l.isPlain_segments h
  have hdrop : (l.place id).toList.dropWhile (· = '/') = (l.place id).toList := by
    rw [toList_place]
    generalize (l.segments id).map String.toList = segs at hplain
    rcases segs with _ | ⟨s, segs⟩
    · rfl
    · have hs := hplain s List.mem_cons_self
      obtain ⟨c, hc, cs, hjoined⟩ := Url.exists_joined_cons hs.nonempty segs
      rw [hjoined]
      have hslash : c ≠ '/' := by simpa [Url.isSlash] using hs.isSlash false hc
      exact List.dropWhile_cons_of_neg (by simp [hslash])
  rw [Endpoint.address, hdrop, String.ofList_toList]

/-- Behind its first segment, which would be a host, more follows. -/
theorem exists_segments (id : String) :
    ∃ s segs, (l.segments id).map String.toList = s :: segs ∧ ':' ∉ s ∧
      Url.hostOf s = some (String.ofList s) ∧ segs ≠ [] := by
  cases l with
  | session => exact ⟨_, _, rfl, by decide +kernel, by decide +kernel, by simp⟩
  | thread => exact ⟨_, _, rfl, by decide +kernel, by decide +kernel, by simp⟩

end place

end Lookup

/-- The schemes that the gateway speaks are among those whose URLs name a host. -/
theorem Request.Made.needsHost {c : Connection} {endpoint : String} {body : Option String} {u : Url}
    {r : Request} (h : Made c endpoint body u r) : Url.needsHost u.scheme = true := by
  have hscheme : u.withoutCredentials.scheme = u.scheme := by
    simp only [Url.withoutCredentials]
    split <;> rfl
  obtain hhttp | hhttps := hscheme ▸ h.target.scheme
  · rw [hhttp]
    rfl
  · rw [hhttps]
    rfl

/-- A request that reads what stands at a place below a base. -/
structure Request.Reads (r : Request) (base place : String) : Prop where
  method : r.method = .read
  address : r.address = base ++ "/" ++ place
  /-- The URL as it is written: it ends with the place, and what stands in front is the base's. -/
  text : r.url.toText = Url.root base ++ place
  /-- The URL part by part, if the base names a host. -/
  url : ∀ v, Url.ofText? (base ++ "/") = some v → r.url = v.withoutCredentials.below place

/-- A request that can be made for a place reads what stands there. -/
theorem Lookup.reads_place (l : Lookup) {id : String} (h : Endpoint.isSegment id = true)
    {c : Connection} {r : Request} (hr : Request.make c (l.place id) none = .ok r) :
    r.Reads (Endpoint.normalizeBase c.baseUrl) (l.place id) := by
  obtain ⟨u, made⟩ := Request.made hr
  have hu := made.read
  have haddress := made.address
  obtain ⟨s, segs, hsegments, hcolon, hname, hne⟩ := l.exists_segments id
  have hplain := l.isPlain_segments h
  have hplace : l.place id = String.ofList (Url.joined (s :: segs)) := by
    rw [← hsegments, ← l.toList_place, String.ofList_toList]
  rw [hsegments] at hplain
  obtain ⟨hs, hsegs⟩ := List.forall_mem_cons.1 hplain
  rw [l.address_place _ h] at haddress
  rw [l.address_place _ h, hplace] at hu
  refine ⟨made.method, haddress, ?_, fun v hv => ?_⟩ <;> rw [made.url, hplace]
  · exact Url.toText_root hs hcolon hname hne hsegs hu made.needsHost made.target.hosted
  · obtain ⟨-, ⟨v', hv', rfl⟩ | ⟨hnone, -⟩⟩ :=
      Url.ofText?_below hs hcolon hname hne hsegs hu made.needsHost
    · rw [hv] at hv'
      cases hv'
      exact Url.withoutCredentials_below v _
    · rw [hv] at hnone
      cases hnone

/-- A read whose request can be made makes attempts, each with that request. -/
theorem Client.exists_attempts {α : Type} (server : Server) (decode : String → Except Refusal α)
    {endpoint : String} {c : Client} {r : Request}
    (h : Request.make c.connection endpoint none = .ok r) :
    ∃ attempts, 1 ≤ attempts ∧
      (c.read server decode endpoint).2 =
        { c with sent := c.sent ++ List.replicate attempts r } := by
  rw [read_eq server decode endpoint c rfl]
  simp only [requests, h]
  exact ⟨_, Nat.le_add_left 1 _, rfl⟩

/-- A read whose request is refused makes no attempt. -/
theorem Client.read_of_refused {α : Type} (server : Server)
    (decode : String → Except Refusal α) {endpoint : String} {c : Client}
    {refused : Request.Refused} (h : Request.make c.connection endpoint none = .error refused) :
    c.read server decode endpoint = (.error refused.failure, c) := by
  simp only [read, h]

/-- What is refused is refused for no reason that the gateway gave. -/
theorem Request.Refused.exists_unknown (refused : Refused) :
    ∃ message, refused.failure = .unknown message := by
  cases refused <;> exact ⟨_, rfl⟩

namespace Lookup

/-- What is looked up stays below the base.  An identifier that cannot be a segment gives one
failure and no request.  Any other one stands for itself in one segment of the place that is
meant, which follows the base without its trailing slashes.  Either no request for that address
can be made, which is one failure of another kind, or all requests that go out are for it: the
URL is the one of the base with the place at its end.  Different identifiers have different
addresses and URLs. -/
theorem get_below_base (l : Lookup) (server : Server) (c : Client) (id : String) :
    let base := Endpoint.normalizeBase c.connection.baseUrl
    (Endpoint.isSegment id = false ∧
      l.get server id c =
        (.error (.invalid ("invalid " ++ l.kind ++ " id '" ++ id ++ "'")), c)) ∨
    (Endpoint.isSegment id = true ∧ Endpoint.IsIdentifier id ∧
      Url.segments true [] (l.place id).toList = (l.segments id).map String.toList ∧
      Endpoint.address c.connection.baseUrl (l.place id) = base ++ "/" ++ l.place id ∧
      ((∃ refused message,
          Request.make c.connection (l.place id) none = .error refused ∧
          refused.failure = .unknown message ∧
          l.get server id c = (.error (.unknown message), c)) ∨
        ∃ r attempts, 1 ≤ attempts ∧
          (l.get server id c).2 = { c with sent := c.sent ++ List.replicate attempts r } ∧
          r.Reads base (l.place id)) ∧
      ∀ id', Endpoint.isSegment id' = true → id' ≠ id →
        Endpoint.address c.connection.baseUrl (l.place id') ≠
            Endpoint.address c.connection.baseUrl (l.place id) ∧
          ∀ r r', Request.make c.connection (l.place id) none = .ok r →
            Request.make c.connection (l.place id') none = .ok r' →
            r'.url.toText ≠ r.url.toText) := by
  intro base
  rw [get_eq]
  cases h : Endpoint.isSegment id with
  | false => exact .inl ⟨rfl, rfl⟩
  | true =>
    have haddress := l.address_place c.connection.baseUrl h
    refine .inr ⟨rfl, Endpoint.isIdentifier_of_isSegment h, l.segments_place h, haddress, ?_, ?_⟩
    · rw [if_pos rfl]
      cases hmake : Request.make c.connection (l.place id) none with
      | error refused =>
        obtain ⟨message, hmessage⟩ := refused.exists_unknown
        refine .inl ⟨refused, message, rfl, hmessage, ?_⟩
        rw [Client.read_of_refused server l.decode hmake, hmessage]
      | ok r =>
        obtain ⟨attempts, hattempts, hsent⟩ := Client.exists_attempts server l.decode hmake
        exact .inr ⟨r, attempts, hattempts, hsent, l.reads_place h hmake⟩
    · intro id' h' hne
      refine ⟨fun heq => ?_, fun r r' hr hr' heq => ?_⟩
      · rw [haddress, l.address_place _ h'] at heq
        exact hne (l.place_inj ((String.append_right_inj _).1 heq))
      · rw [(l.reads_place h hr).text, (l.reads_place h' hr').text] at heq
        exact hne (l.place_inj ((String.append_right_inj _).1 heq))

/-- A client of a gateway at this base. -/
def clientAt (base : String) : Client where
  connection := { Connection.ofSettings {} with baseUrl := base }

/-- Credentials and dots of a base are gone from the URL, and the place is at its end. -/
theorem get_below_base_dotted :
    let c := clientAt "https://u:p@gw.example.com/a/./b//"
    (session.get unreachable "s1" c).2.sent ≠ [] ∧
    ∀ r ∈ (session.get unreachable "s1" c).2.sent,
      r.address = "https://u:p@gw.example.com/a/./b/terminal/sessions/s1" ∧
      r.url.toText = "https://gw.example.com/a/b/terminal/sessions/s1" := by
  intro c
  have hplace : session.place "s1" = "terminal/sessions/s1" := by decide +kernel
  have hbase : Endpoint.normalizeBase c.connection.baseUrl =
      "https://u:p@gw.example.com/a/./b" := by decide +kernel
  have hroot : Url.root "https://u:p@gw.example.com/a/./b" =
      "https://gw.example.com/a/b/" := by decide +kernel
  have hmake : (Request.make c.connection (session.place "s1") none).isOk = true := by
    decide +kernel
  obtain ⟨hnot, -⟩ | ⟨-, -, -, -, ⟨refused, -, hrefused, -⟩ | hrequests, -⟩ :=
    get_below_base session unreachable c "s1"
  · exact absurd hnot (by decide +kernel)
  · rw [hrefused] at hmake
    cases hmake
  · obtain ⟨r, attempts, hattempts, hsent, hreads⟩ := hrequests
    rw [hbase, hplace] at hreads
    have htext := hreads.text
    rw [hroot] at htext
    rw [hsent]
    refine ⟨?_, fun r' hr' => ?_⟩
    · have hunsent : c.sent = [] := rfl
      simp only [hunsent, List.nil_append, ne_eq, List.replicate_eq_nil_iff]
      omega
    · obtain rfl : r' = r := List.eq_of_mem_replicate hr'
      exact ⟨hreads.address, htext⟩

/-- Nothing that stands below a base without a scheme can be asked for, and that is no matter of
the identifier: no request goes out, and what fails is not the identifier. -/
theorem get_without_scheme :
    ¬ ∀ (l : Lookup) (server : Server) (c : Client) (id : String),
      (∃ message, l.get server id c = (.error (.invalid message), c)) ∨
        ∃ r ∈ (l.get server id c).2.sent,
          r.address = Endpoint.normalizeBase c.connection.baseUrl ++ "/" ++ l.place id := by
  intro h
  have hrefused : Request.make (clientAt "gw.example.com").connection (session.place "s1") none =
      .error .noUrl := by decide +kernel
  have hget : session.get unreachable "s1" (clientAt "gw.example.com") =
      (.error (.unknown "builder error"), clientAt "gw.example.com") := by
    rw [get_eq, if_pos (by decide +kernel), Client.read_of_refused _ _ hrefused]
    rfl
  obtain ⟨message, hinvalid⟩ | ⟨r, hr, -⟩ := h session unreachable (clientAt "gw.example.com") "s1"
  · rw [hget] at hinvalid
    cases hinvalid
  · rw [hget] at hr
    cases hr

end Lookup

end Gateway

end ChatGateway
