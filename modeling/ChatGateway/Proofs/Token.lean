import Mathlib
import ChatGateway.CommandLine.Run
import ChatGateway.Proofs.Gateway.Requests
import ChatGateway.Proofs.Text.Utf8
import ChatGateway.Proofs.Text.Words

/-!
# The two ways to give a token

The environment may give a token, or it is typed once and stored.  Both ways drop the blanks
around it.  A scheme may have been pasted with the token; it is looked for only in what is typed,
dropped once, and not found where nothing stands behind it, because the blank at its end is gone
by then.  So both ways come to the same header exactly if no scheme stands in front of a token
(`same_header_iff`), and to what they are meant to exactly if there is no scheme (`agree_iff`).
-/

set_option autoImplicit false

namespace ChatGateway

/-- The Unicode category of controls. -/
def Text.isControl (c : Char) : Bool :=
  c.toNat < 0x20 || (0x7F ≤ c.toNat && c.toNat < 0xA0)

namespace Token

/-! ## What a text says about the token -/

/-- The word for the scheme of a token. -/
def word : List Char := "Bearer".toList

/-- The scheme as it stands in front of a token. -/
def scheme : List Char := "Bearer ".toList

/-- A text without a token: blanks, and at most the word for the scheme among them. -/
inductive Lacks : List Char → Prop
  | blank {cs : List Char} (blanks : ∀ c ∈ cs, Text.isBlank c = true) : Lacks cs
  | word {before after : List Char} (start : ∀ c ∈ before, Text.isBlank c = true)
      (stop : ∀ c ∈ after, Text.isBlank c = true) : Lacks (before ++ (word ++ after))

/-- What is left of a text without the blanks around it and a scheme in front of it. -/
inductive Leaves : List Char → List Char → Prop
  | bare {before token after : List Char} (start : ∀ c ∈ before, Text.isBlank c = true)
      (stop : ∀ c ∈ after, Text.isBlank c = true) (trimmed : Text.IsTrimmed token)
      (noScheme : ¬ scheme <+: token) : Leaves (before ++ (token ++ after)) token
  | schemed {before between token after : List Char}
      (start : ∀ c ∈ before, Text.isBlank c = true)
      (middle : ∀ c ∈ between, Text.isBlank c = true)
      (stop : ∀ c ∈ after, Text.isBlank c = true) (trimmed : Text.IsTrimmed token) :
      Leaves (before ++ (scheme ++ (between ++ (token ++ after)))) token

/-- A text that begins with a scheme, whether or not something stands behind it. -/
def NamesScheme (cs : List Char) : Prop :=
  Text.trimChars cs = word ∨ scheme <+: Text.trimChars cs

/-- What leaves a text is made of its characters. -/
theorem Leaves.mem_of_mem {cs token : List Char} (h : Leaves cs token) {c : Char}
    (hc : c ∈ token) : c ∈ cs := by
  cases h <;> simp [hc]

/-- The scheme's word has no blank at its ends. -/
theorem isTrimmed_word : Text.IsTrimmed word where
  start c hc := by
    obtain rfl : 'B' = c := Option.some.inj hc
    rfl
  stop c hc := by
    obtain rfl : 'r' = c := Option.some.inj hc
    rfl

section text

variable {cs : List Char}

/-- A text lacks a token exactly if trimming leaves nothing of it, or the word alone. -/
theorem lacks_iff : Lacks cs ↔ Text.trimChars cs = [] ∨ Text.trimChars cs = word := by
  constructor
  · rintro (blanks | ⟨start, stop⟩)
    · exact .inl ((Text.trimChars_eq_nil_iff _).2 blanks)
    · exact .inr (isTrimmed_word.trimChars_between start stop)
  · rintro (hnil | hword)
    · exact .blank ((Text.trimChars_eq_nil_iff _).1 hnil)
    · obtain ⟨before, after, hcs, hbefore, hafter⟩ := Text.exists_trimChars cs
      rw [hcs, hword]
      exact .word hbefore hafter

/-- Trimmed, a text with a scheme in front has something behind the scheme that is not blank. -/
theorem trimChars_rest_ne_nil {rest : List Char} (h : Text.trimChars cs = scheme ++ rest) :
    Text.trimChars rest ≠ [] := by
  intro hnil
  have hstop := (Text.isTrimmed_trimChars cs).stop
  rw [h] at hstop
  cases rest using List.reverseRecOn with
  | nil => exact absurd (hstop ' ' rfl) (by decide)
  | append_singleton rest c =>
    have hc : Text.isBlank c = false := hstop c (by rw [← List.append_assoc]; simp)
    have hmem : c ∈ Text.trimChars (rest ++ [c]) := Text.mem_trimChars hc (by simp)
    rw [hnil] at hmem
    cases hmem

/-- A text that starts with the scheme does not lack it. -/
theorem not_lacks_of_scheme (h : scheme <+: Text.trimChars cs) : ¬ Lacks cs := by
  rw [lacks_iff]
  rintro (hnil | hword)
  · rw [hnil] at h
    exact absurd h (by decide)
  · rw [hword] at h
    exact absurd h (by decide)

end text

/-! ## The token that is kept -/

section normalize

variable {s : String}

/-- Normalizing takes one scheme off, trims, and keeps nothing empty. -/
theorem normalize_eq {token : List Char}
    (h : (Text.dropPrefix? scheme (Text.trimChars s.toList)).getD (Text.trimChars s.toList) =
      token) :
    normalize s =
      if Text.trimChars token = [] then none else some (String.ofList (Text.trimChars token)) := by
  rw [← h]
  simp only [normalize, List.isEmpty_iff]
  rfl

/-- A token without a scheme is kept as it is, unless it is blank. -/
theorem normalize_of_not_scheme (h : ¬ scheme <+: Text.trimChars s.toList) :
    normalize s = if Text.trimChars s.toList = [] then none else some (Text.trim s) := by
  have hdrop : Text.dropPrefix? scheme (Text.trimChars s.toList) = none := by
    rw [Option.eq_none_iff_forall_ne_some]
    exact fun rest hrest => h ⟨rest, ((Text.dropPrefix?_eq_some_iff _ _ _).1 hrest).symm⟩
  rw [normalize_eq (by rw [hdrop, Option.getD_none]), (Text.isTrimmed_trimChars _).trimChars_eq]
  rfl

/-- One scheme is dropped from a token. -/
theorem normalize_of_scheme {rest : List Char}
    (h : Text.trimChars s.toList = scheme ++ rest) :
    normalize s = some (String.ofList (Text.trimChars rest)) := by
  have hdrop : Text.dropPrefix? scheme (Text.trimChars s.toList) = some rest :=
    (Text.dropPrefix?_eq_some_iff _ _ _).2 h
  rw [normalize_eq (by rw [hdrop, Option.getD_some]), if_neg (trimChars_rest_ne_nil h)]

/-- Nothing is kept of a blank text only. -/
theorem normalize_eq_none_iff : normalize s = none ↔ ∀ c ∈ s.toList, Text.isBlank c = true := by
  rw [← Text.trimChars_eq_nil_iff]
  by_cases h : scheme <+: Text.trimChars s.toList
  · obtain ⟨rest, hrest⟩ := h
    rw [normalize_of_scheme hrest.symm, ← hrest]
    have hne : scheme ≠ [] := by decide
    exact iff_of_false (fun hnone => nomatch hnone) fun hnil => hne (List.append_eq_nil_iff.1 hnil).1
  · rw [normalize_of_not_scheme h]
    split <;> simp_all

/-- What is kept is what the text leaves, and it is not empty. -/
theorem leaves_of_normalize {t : String} (h : normalize s = some t) :
    Leaves s.toList t.toList ∧ t ≠ "" := by
  obtain ⟨before, after, hs, hbefore, hafter⟩ := Text.exists_trimChars s.toList
  have hne : ∀ cs : List Char, cs ≠ [] → String.ofList cs ≠ "" := fun cs hcs => by simpa using hcs
  by_cases hscheme : scheme <+: Text.trimChars s.toList
  · obtain ⟨rest, hrest⟩ := hscheme
    rw [normalize_of_scheme hrest.symm] at h
    obtain rfl := Option.some.inj h
    refine ⟨?_, hne _ (trimChars_rest_ne_nil hrest.symm)⟩
    obtain ⟨between, after', hr, hbetween, hafter'⟩ := Text.exists_trimChars rest
    have hcs : s.toList =
        before ++ (scheme ++ (between ++ (Text.trimChars rest ++ (after' ++ after)))) := by
      calc s.toList = before ++ (Text.trimChars s.toList ++ after) := hs
        _ = before ++ ((scheme ++ rest) ++ after) := by rw [hrest]
        _ = before ++ ((scheme ++ (between ++ (Text.trimChars rest ++ after'))) ++ after) := by
          rw [← hr]
        _ = _ := by simp only [List.append_assoc]
    rw [hcs, String.toList_ofList]
    exact .schemed hbefore hbetween (List.forall_mem_append.2 ⟨hafter', hafter⟩)
      (Text.isTrimmed_trimChars rest)
  · rw [normalize_of_not_scheme hscheme] at h
    split_ifs at h with hnil
    obtain rfl := Option.some.inj h
    refine ⟨?_, hne _ hnil⟩
    rw [Text.trim, String.toList_ofList]
    nth_rewrite 1 [hs]
    exact .bare hbefore hafter (Text.isTrimmed_trimChars _) hscheme

end normalize

/-! ## The header of a token -/

/-- The bytes of a character that is no control are allowed in a header. -/
theorem isHeaderByte_of_mem_encodeChar {c : Char} (h : Text.isControl c = false) :
    ∀ b ∈ Text.Utf8.encodeChar c, isHeaderByte b = true := by
  have hvalid : c.toNat < 0xD800 ∨ (0xDFFF < c.toNat ∧ c.toNat < 0x110000) := c.valid
  have hbyte : ∀ n, 0x20 ≤ n → n < 0x100 → n ≠ 0x7F → isHeaderByte (UInt8.ofNat n) = true := by
    intro n hlow hhigh hdelete
    have hn := Text.Utf8.toNat_ofNat_of_lt hhigh
    simp only [isHeaderByte, Bool.or_eq_true, Bool.and_eq_true, decide_eq_true_eq,
      UInt8.le_iff_toNat_le, ne_eq, ← UInt8.toNat_inj, hn]
    exact .inl ⟨hlow, hdelete⟩
  simp only [Text.isControl, Bool.or_eq_false_iff, Bool.and_eq_false_iff,
    decide_eq_false_iff_not] at h
  intro b hb
  unfold Text.Utf8.encodeChar at hb
  generalize c.toNat = n at hvalid h hb
  dsimp only at hb
  split_ifs at hb
  all_goals
    simp only [List.mem_cons, List.not_mem_nil, or_false] at hb
    rcases hb with rfl | rfl | rfl | rfl <;> exact hbyte _ (by omega) (by omega) (by omega)

/-- Without controls every token can stand in a header. -/
theorem header_of_plain {t : String} (plain : ∀ c ∈ t.toList, Text.isControl c = false) :
    header t = some ("Bearer " ++ t) := by
  have hall : (Text.Utf8.encode ("Bearer " ++ t).toList).all isHeaderByte = true := by
    rw [List.all_eq_true]
    intro b hb
    obtain ⟨c, hc, hb⟩ := List.mem_flatMap.1 hb
    refine isHeaderByte_of_mem_encodeChar ?_ b hb
    rw [String.toList_append, List.mem_append] at hc
    obtain hc | hc := hc
    · have hscheme : ("Bearer ".toList.all fun c => !Text.isControl c) = true := by decide
      simpa using List.all_eq_true.1 hscheme c hc
    · exact plain c hc
  simp only [header, hall, if_true]

end Token

/-! ## The two ways -/

/-- What the requests over a connection say of its token.  None is refused for its header, so one is
made for every address that it can go to; and each that is made has the value, or none, behind the
header for the user and the password of its address.  Where no user and no password leave the
address, there is nothing else. -/
structure Connection.Carries (c : Connection) (value : Option String) : Prop where
  header : Gateway.Request.authorizationOf c.token = some value
  made : ∀ endpoint body u, Url.ofText? (Endpoint.address c.baseUrl endpoint) = some u →
    Gateway.Request.IsTarget u → ∃ r, Gateway.Request.make c endpoint body = .ok r
  requests : ∀ endpoint body r, Gateway.Request.make c endpoint body = .ok r →
    ∃ u, Url.ofText? (Endpoint.address c.baseUrl endpoint) = some u ∧
      r.authorization = u.credentialsHeader.toList ++ value.toList ∧
      (u.withoutCredentials = u → r.authorization = value.toList)

/-- What the header of the token can be is what the requests carry. -/
theorem Connection.carries_of_header {c : Connection} {value : Option String}
    (h : Gateway.Request.authorizationOf c.token = some value) : c.Carries value where
  header := h
  made _ _ _ read target := Gateway.Request.exists_made read target h
  requests _ _ _ hr := by
    obtain ⟨u, made⟩ := Gateway.Request.made hr
    obtain ⟨value', hvalue, hall⟩ := made.authorization
    obtain rfl := Option.some.inj (h.symm.trans hvalue)
    refine ⟨u, made.read, hall, fun stays => ?_⟩
    rw [hall, (Url.credentialsHeader_eq_none_iff u).2 stays]
    rfl

/-- A connection carries one value. -/
theorem Connection.Carries.unique {c : Connection} {value value' : Option String}
    (h : c.Carries value) (h' : c.Carries value') : value = value' := by
  have heq := h.header
  rw [h'.header] at heq
  exact (Option.some.inj heq).symm

/-- A token without controls is carried behind its scheme. -/
theorem Connection.carries_token {c : Connection} {token : Option String}
    (h : c.token = token) (plain : ∀ t, token = some t → ∀ d ∈ t.toList, Text.isControl d = false) :
    c.Carries (token.map ("Bearer " ++ ·)) := by
  refine carries_of_header ?_
  rw [h]
  cases token with
  | none => rfl
  | some t => rw [Gateway.Request.authorizationOf, Token.header_of_plain (plain t rfl)]; rfl

namespace CommandLine

namespace World

/-- The world whose environment gives a text as the token. -/
def giving (w : World) (s : String) : World :=
  { w with surroundings := { w.surroundings with token := some s } }

/-- The world after the command that stores a token, when this was typed. -/
def afterTyping (w : World) (typed : List UInt8) : World :=
  { w with stored := (runStoreToken { w with input := typed }).stored }

/-- A world without a token: neither the environment nor the store has one. -/
structure IsTokenless (w : World) : Prop where
  environment : w.surroundings.token = none
  store : w.stored.token = none

end World

/-- The first line of what is typed; it ends at a line feed or with what is typed. -/
def StartsWithLine (typed : List UInt8) (s : String) : Prop :=
  typed = Text.Utf8.encode s.toList ∨ ∃ rest, typed = Text.Utf8.encode s.toList ++ 10 :: rest

/-- The first line ends at the first line feed. -/
theorem firstLine_append {line : List UInt8} (h : 10 ∉ line) (rest : List UInt8) :
    firstLine (line ++ rest) = line ++ firstLine rest := by
  induction line with
  | nil => rfl
  | cons b line ih =>
    obtain ⟨hb, hline⟩ := not_or.1 (fun hmem => h (List.mem_cons.2 hmem))
    rw [List.cons_append, firstLine, if_neg (Ne.symm hb), ih hline, List.cons_append]

/-- Trimmed, the line that is read is the text that was typed. -/
theorem decode?_firstLine {typed : List UInt8} {s : String} (h : StartsWithLine typed s)
    (plain : ∀ c ∈ s.toList, Text.isControl c = false) :
    ∃ cs, Text.Utf8.decode? (firstLine typed) = some cs ∧
      Text.trimChars cs = Text.trimChars s.toList := by
  have hline : 10 ∉ Text.Utf8.encode s.toList := by
    rw [Text.Utf8.mem_encode_iff]
    intro hmem
    exact absurd (plain _ hmem) (by decide)
  obtain rfl | ⟨rest, rfl⟩ := h
  · refine ⟨s.toList, ?_, rfl⟩
    have hall := firstLine_append hline []
    rw [List.append_nil, firstLine, List.append_nil] at hall
    rw [hall, Text.Utf8.decode?_encode]
  · refine ⟨s.toList ++ ['\n'], ?_, Text.trimChars_concat_blank (by decide) _⟩
    have hall : firstLine (Text.Utf8.encode s.toList ++ 10 :: rest) =
        Text.Utf8.encode (s.toList ++ ['\n']) := by
      rw [firstLine_append hline, Text.Utf8.encode_append]
      rfl
    rw [hall, Text.Utf8.decode?_encode]

section ways

variable {w : World} {s : String} {typed : List UInt8} (settings : Settings)
  (model : Option String)

/-- The environment's token is trimmed, and there is none if it is blank. -/
theorem token_giving (tokenless : w.IsTokenless) :
    ((w.giving s).connection settings model).token =
      if Text.trimChars s.toList = [] then none else some (Text.trim s) := by
  have hblank : Text.isBlankText s = true ↔ Text.trimChars s.toList = [] := by
    rw [Text.trimChars_eq_nil_iff, Text.isBlankText, List.all_eq_true]
  show (((Connection.given (some s)).map Text.trim).or none).or w.stored.token = _
  rw [tokenless.store, Option.or_none, Option.or_none, Connection.given, Option.filter_some]
  by_cases h : Text.trimChars s.toList = []
  · simp [h, hblank.2 h]
  · have hfalse : Text.isBlankText s = false := by
      rw [Bool.eq_false_iff]
      exact fun htrue => h (hblank.1 htrue)
    simp [h, hfalse]

/-- What is stored is the token of the line that was typed. -/
theorem stored_afterTyping (tokenless : w.IsTokenless) (line : StartsWithLine typed s)
    (plain : ∀ c ∈ s.toList, Text.isControl c = false) :
    (w.afterTyping typed).stored.token = Token.normalize s := by
  obtain ⟨cs, hdecode, htrim⟩ := decode?_firstLine line plain
  have hsame : Token.normalize (String.ofList cs) = Token.normalize s := by
    simp only [Token.normalize, String.toList_ofList, htrim]
  show (runStoreToken { w with input := typed }).stored.token = _
  simp only [runStoreToken, hdecode, hsame]
  cases h : Token.normalize s with
  | none => exact tokenless.store
  | some t => rfl

/-- A command that was given no token takes the line that is typed as its own. -/
theorem token_afterTyping (tokenless : w.IsTokenless) (line : StartsWithLine typed s)
    (plain : ∀ c ∈ s.toList, Text.isControl c = false) :
    ((w.afterTyping typed).connection settings model).token = Token.normalize s := by
  rw [← stored_afterTyping tokenless line plain]
  show ((((Connection.given w.surroundings.token).map Text.trim).or none).or _) = _
  rw [tokenless.environment]
  rfl

/-- What both ways are meant to come to: the header for what the text leaves, which is not empty
and has no scheme of its own, or no header and nothing stored if the text lacks a token. -/
structure Agree (s : String) (environment store : Connection) (stored : Option String) : Prop where
  token : ¬ Token.Lacks s.toList → ∃ t : String, Token.Leaves s.toList t.toList ∧ t ≠ "" ∧
    ¬ Token.scheme <+: t.toList ∧ environment.Carries (some ("Bearer " ++ t)) ∧
    store.Carries (some ("Bearer " ++ t))
  nothing : Token.Lacks s.toList →
    stored = none ∧ environment.Carries none ∧ store.Carries none

/-- The environment's token is carried as it is but for the blanks around it. -/
theorem carries_giving (tokenless : w.IsTokenless)
    (plain : ∀ c ∈ s.toList, Text.isControl c = false) :
    ((w.giving s).connection settings model).Carries
      (if Text.trimChars s.toList = [] then none else some ("Bearer " ++ Text.trim s)) := by
  have hcarries := Connection.carries_token (token_giving settings model tokenless) (by
    intro t ht d hd
    split_ifs at ht
    obtain rfl := Option.some.inj ht
    rw [Text.trim, String.toList_ofList] at hd
    exact plain d (Text.mem_of_mem_trimChars hd))
  split_ifs at hcarries ⊢ <;> exact hcarries

/-- What was stored is carried behind one scheme. -/
theorem carries_afterTyping (tokenless : w.IsTokenless) (line : StartsWithLine typed s)
    (plain : ∀ c ∈ s.toList, Text.isControl c = false) :
    ((w.afterTyping typed).connection settings model).Carries
      ((Token.normalize s).map ("Bearer " ++ ·)) :=
  Connection.carries_token (token_afterTyping settings model tokenless line plain)
    fun _ ht _ hd => plain _ ((Token.leaves_of_normalize ht).1.mem_of_mem hd)

/-- Both ways come to the same header exactly if no scheme stands in front of a token. -/
theorem same_header_iff (tokenless : w.IsTokenless) (line : StartsWithLine typed s)
    (plain : ∀ c ∈ s.toList, Text.isControl c = false) :
    (∃ value, ((w.giving s).connection settings model).Carries value ∧
      ((w.afterTyping typed).connection settings model).Carries value) ↔
    ¬ Token.scheme <+: Text.trimChars s.toList := by
  have henvironment := carries_giving settings model tokenless plain
  have hstore := carries_afterTyping settings model tokenless line plain
  constructor
  · rintro ⟨value, hvalue, hvalue'⟩ ⟨rest, hrest⟩
    rw [Token.normalize_of_scheme hrest.symm] at hstore
    have hsome : Text.trimChars s.toList ≠ [] := by
      rw [← hrest]
      exact fun hnil => absurd (List.append_eq_nil_iff.1 hnil).1 (by decide)
    rw [if_neg hsome] at henvironment
    have heq := (henvironment.unique hvalue).trans (hvalue'.unique hstore)
    -- the store's token is shorter, because the scheme is gone
    have htoken := (String.append_right_inj _).1 (Option.some.inj heq)
    have hchars := congrArg String.toList htoken
    rw [Text.trim, String.toList_ofList, String.toList_ofList] at hchars
    have hlength := Text.length_trimChars_le rest
    rw [← hchars, ← hrest, List.length_append] at hlength
    have hscheme : Token.scheme.length = 7 := by decide
    omega
  · intro h
    rw [Token.normalize_of_not_scheme h] at hstore
    refine ⟨_, henvironment, ?_⟩
    split_ifs at hstore ⊢ <;> exact hstore

/-- Both ways come to what they are meant to exactly if there is no scheme. -/
theorem agree_iff (tokenless : w.IsTokenless) (line : StartsWithLine typed s)
    (plain : ∀ c ∈ s.toList, Text.isControl c = false) :
    Agree s ((w.giving s).connection settings model)
      ((w.afterTyping typed).connection settings model) (w.afterTyping typed).stored.token ↔
    ¬ Token.NamesScheme s.toList := by
  have henvironment := carries_giving settings model tokenless plain
  have hstore := carries_afterTyping settings model tokenless line plain
  constructor
  · rintro agree (hword | hscheme)
    -- the environment alone rules out a scheme: it keeps the word, and a scheme in front
    · obtain ⟨-, hnone, -⟩ := agree.nothing (Token.lacks_iff.2 (.inr hword))
      rw [if_neg (by rw [hword]; decide)] at henvironment
      cases hnone.unique henvironment
    · obtain ⟨t, -, -, hfree, hgiven, -⟩ := agree.token (Token.not_lacks_of_scheme hscheme)
      rw [if_neg (fun hnil => by rw [hnil] at hscheme; exact absurd hscheme (by decide))]
        at henvironment
      have heq := (String.append_right_inj _).1 (Option.some.inj (hgiven.unique henvironment))
      rw [heq, Text.trim, String.toList_ofList] at hfree
      exact hfree hscheme
  · intro h
    obtain ⟨hword, hscheme⟩ := not_or.1 h
    have hnormal := Token.normalize_of_not_scheme hscheme
    rw [hnormal] at hstore
    refine ⟨fun htoken => ?_, fun hlacks => ?_⟩
    · have hsome : Text.trimChars s.toList ≠ [] := fun hnil => htoken (Token.lacks_iff.2 (.inl hnil))
      rw [if_neg hsome] at hnormal hstore henvironment
      obtain ⟨hleaves, hne⟩ := Token.leaves_of_normalize hnormal
      refine ⟨_, hleaves, hne, ?_, henvironment, hstore⟩
      rwa [Text.trim, String.toList_ofList]
    · have hnil := (Token.lacks_iff.1 hlacks).resolve_right hword
      rw [if_pos hnil] at hnormal hstore henvironment
      exact ⟨(stored_afterTyping tokenless line plain).trans hnormal, henvironment, hstore⟩

/-- **Two ways to give a token.**  Take a text without controls and a world without a token.  Given
by the environment, the text is carried behind a scheme without the blanks around it.  Typed, it is
stored and carried without one scheme in front of it too, and nothing is stored of a blank text
only.  So both ways come to the same header exactly if no scheme stands in front of a token, and
both come to what they are meant to exactly if the text does not begin with a scheme at all. -/
theorem ways_agree_iff (tokenless : w.IsTokenless) (line : StartsWithLine typed s)
    (plain : ∀ c ∈ s.toList, Text.isControl c = false) :
    let environment := (w.giving s).connection settings model
    let store := (w.afterTyping typed).connection settings model
    let stored := (w.afterTyping typed).stored.token
    (Agree s environment store stored ↔ ¬ Token.NamesScheme s.toList) ∧
    ((∃ value, environment.Carries value ∧ store.Carries value) ↔
      ¬ Token.scheme <+: Text.trimChars s.toList) ∧
    environment.Carries
      (if Text.trimChars s.toList = [] then none else some ("Bearer " ++ Text.trim s)) ∧
    (stored = none ↔ ∀ c ∈ s.toList, Text.isBlank c = true) ∧
    ∀ t, stored = some t →
      Token.Leaves s.toList t.toList ∧ t ≠ "" ∧ store.Carries (some ("Bearer " ++ t)) := by
  intro environment store stored
  have hstored : stored = Token.normalize s := stored_afterTyping tokenless line plain
  refine ⟨agree_iff settings model tokenless line plain,
    same_header_iff settings model tokenless line plain,
    carries_giving settings model tokenless plain, ?_, fun t ht => ?_⟩
  · rw [hstored, Token.normalize_eq_none_iff]
  · rw [hstored] at ht
    obtain ⟨hleaves, hne⟩ := Token.leaves_of_normalize ht
    have hcarries := carries_afterTyping settings model tokenless line plain
    rw [ht] at hcarries
    exact ⟨hleaves, hne, hcarries⟩

end ways

/-- A world without files, without a token and without a gateway. -/
def freshWorld : World where
  home := none
  systemHome := "/"
  settingsHome := none
  surroundings := {}
  settings := .absent
  preferences := .absent
  logFault := none
  input := []
  stored := {}
  server := Gateway.unreachable

/-- A token is pasted with its scheme, between blanks that are no ASCII, and more lines follow.
Either way the sessions are asked for, with two schemes or with one. -/
theorem ways_agree_iff_pasted :
    let s := "\u3000Bearer  xyz\u00a0"
    let w := freshWorld.afterTyping (Text.Utf8.encode s.toList ++ [10, 0xFF])
    let headers (c : Connection) :=
      (Gateway.Request.make c Endpoint.sessions none).map (·.authorization)
    ((freshWorld.giving s).connection {} none).Carries (some "Bearer Bearer  xyz") ∧
    headers ((freshWorld.giving s).connection {} none) = .ok ["Bearer Bearer  xyz"] ∧
    w.stored.token = some "xyz" ∧ (w.connection {} none).Carries (some "Bearer xyz") ∧
    headers (w.connection {} none) = .ok ["Bearer xyz"] := by
  intro s w headers
  have plain : ∀ c ∈ s.toList, Text.isControl c = false := by simp [s, Text.isControl]
  obtain ⟨-, -, henvironment, -, hstore⟩ := @ways_agree_iff freshWorld s
    (Text.Utf8.encode s.toList ++ [10, 0xFF]) {} none ⟨rfl, rfl⟩ (.inr ⟨[0xFF], rfl⟩) plain
  have hvalue : (if Text.trimChars s.toList = [] then none else some ("Bearer " ++ Text.trim s)) =
      some "Bearer Bearer  xyz" := by decide +kernel
  have hstored : w.stored.token = some "xyz" := by decide +kernel
  rw [hvalue] at henvironment
  have hcarries := (hstore _ hstored).2.2
  -- the standard address names no user and no password
  obtain ⟨u, hread, htarget, hstays⟩ : ∃ u,
      Url.ofText? (Endpoint.address Connection.standardUrl Endpoint.sessions) = some u ∧
        Gateway.Request.IsTarget u ∧ u.withoutCredentials = u :=
    ⟨_, (Option.some_get (by decide +kernel)).symm,
      ⟨by decide +kernel, .inl (by decide +kernel), by decide +kernel⟩, by decide +kernel⟩
  have hheaders {c : Connection} {value : String} (base : c.baseUrl = Connection.standardUrl)
      (carries : c.Carries (some value)) : headers c = .ok [value] := by
    rw [← base] at hread
    obtain ⟨r, hr⟩ := carries.made Endpoint.sessions none u hread htarget
    obtain ⟨u', hread', -, halone⟩ := carries.requests _ _ r hr
    obtain rfl := Option.some.inj (hread.symm.trans hread')
    simp only [headers, hr, Except.map, halone hstays]
    rfl
  exact ⟨henvironment, hheaders rfl henvironment, hstored, hcarries, hheaders rfl hcarries⟩

/-- A token that is given with its scheme does not come to the same both ways. -/
theorem schemed_token_disagrees :
    ¬ ∀ (w : World) (s : String) (typed : List UInt8) (settings : Settings)
      (model : Option String), w.IsTokenless → StartsWithLine typed s →
      (∀ c ∈ s.toList, Text.isControl c = false) →
      Agree s ((w.giving s).connection settings model)
        ((w.afterTyping typed).connection settings model) (w.afterTyping typed).stored.token := by
  intro h
  have plain : ∀ c ∈ "Bearer xyz".toList, Text.isControl c = false := by simp [Text.isControl]
  have hagree := h freshWorld "Bearer xyz" (Text.Utf8.encode "Bearer xyz".toList) {} none
    ⟨rfl, rfl⟩ (.inl rfl) plain
  exact (agree_iff {} none ⟨rfl, rfl⟩ (.inl rfl) plain).1 hagree (.inr (by decide +kernel))

end CommandLine

end ChatGateway
