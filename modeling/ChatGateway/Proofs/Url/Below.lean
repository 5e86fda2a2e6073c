import Mathlib
import ChatGateway.Proofs.Url.Plain
import ChatGateway.Url.Basic

/-!
# What stands below a base

Plain segments behind the slash of a URL are read as what they say, and nothing in front of
them is read differently because of them.  So they belong to the last part of the URL, in most
cases to the path; only where no host stands between the scheme and that slash, the first
segment is taken for one (`ofText?_below`).  The URL as it is written ends with them, and the
rest of it is the base's (`toText_root`).
-/

set_option autoImplicit false

namespace ChatGateway.Url

/-! ## The parts of a URL -/

section parts

variable {p : Char → Bool} {d : Char}

/-- What is taken before a stop does not see what stands behind it. -/
theorem takeWhile_append_stop (hd : p d = false) (cs ds : List Char) :
    (cs ++ d :: ds).takeWhile p = cs.takeWhile p := by
  rw [List.takeWhile_append]
  split_ifs with h
  · rw [List.takeWhile_cons_of_neg (by simp [hd]), List.append_nil]
    exact ((List.takeWhile_prefix p).eq_of_length h).symm
  · rfl

/-- What is left from a stop on keeps what stands behind it. -/
theorem dropWhile_append_stop (hd : p d = false) (cs ds : List Char) :
    (cs ++ d :: ds).dropWhile p = cs.dropWhile p ++ d :: ds := by
  rw [List.dropWhile_append]
  split_ifs with h
  · rw [List.dropWhile_cons_of_neg (by simp [hd]), List.isEmpty_iff.1 h, List.nil_append]
  · rfl

end parts

/-- What stands before the first `d` and, if there is one, what follows it. -/
def cut (d : Char) (cs : List Char) : List Char × Option (List Char) :=
  (cs.takeWhile (· ≠ d), (cs.dropWhile (· ≠ d)).tail?)

/-- A text of two parts, of which the second may be missing, with more at its end. -/
def extendCut (more : List Char) : List Char × Option (List Char) → List Char × Option (List Char)
  | (front, some rest) => (front, some (rest ++ more))
  | (front, none) => (front ++ more, none)

/-- A text without a character differs from it everywhere. -/
theorem ne_of_not_mem {d : Char} {cs : List Char} (h : d ∉ cs) :
    ∀ c ∈ cs, decide (c ≠ d) = true :=
  fun _ hc => decide_eq_true fun heq => h (heq ▸ hc)

/-- A text without the mark is not cut. -/
theorem cut_of_not_mem {d : Char} {cs : List Char} (h : d ∉ cs) : cut d cs = (cs, none) := by
  rw [cut, List.takeWhile_eq_self_iff.2 (ne_of_not_mem h),
    List.dropWhile_eq_nil_iff.2 (ne_of_not_mem h)]
  rfl

/-- A text is cut at the first mark. -/
theorem cut_append_cons {d : Char} {cs : List Char} (h : d ∉ cs) (rest : List Char) :
    cut d (cs ++ d :: rest) = (cs, some rest) := by
  have hstop : decide (d ≠ d) = false := by simp
  rw [cut, takeWhile_append_stop hstop, dropWhile_append_stop hstop,
    List.takeWhile_eq_self_iff.2 (ne_of_not_mem h), List.dropWhile_eq_nil_iff.2 (ne_of_not_mem h)]
  rfl

/-- Where there is no mark, the front is all there is. -/
theorem fst_of_cut {d : Char} {cs : List Char} (h : (cut d cs).2 = none) : (cut d cs).1 = cs := by
  by_cases hmem : d ∈ cs
  · obtain ⟨front, rest, rfl, hfront⟩ := List.eq_append_cons_of_mem hmem
    simp [cut_append_cons hfront] at h
  · rw [cut_of_not_mem hmem]

/-- What follows without a mark goes to the last part. -/
theorem cut_append {d : Char} {more : List Char} (h : d ∉ more) (cs : List Char) :
    cut d (cs ++ more) = extendCut more (cut d cs) := by
  by_cases hmem : d ∈ cs
  · obtain ⟨front, rest, rfl, hfront⟩ := List.eq_append_cons_of_mem hmem
    rw [List.append_assoc, List.cons_append, cut_append_cons hfront, cut_append_cons hfront]
    rfl
  · have hboth : d ∉ cs ++ more := by simp [hmem, h]
    rw [cut_of_not_mem hboth, cut_of_not_mem hmem]
    rfl

/-- The parts of a text with more at its end, which belongs to the last part there is. -/
def extendParts (more : List Char) :
    List Char × Option (List Char) × Option (List Char) →
      List Char × Option (List Char) × Option (List Char)
  | (front, query, some fragment) => (front, query, some (fragment ++ more))
  | (front, query, none) =>
    let (front, query) := extendCut more (front, query)
    (front, query, none)

/-- The three parts are cut at the fragment's mark first, then at the query's. -/
theorem splitParts_eq (cs : List Char) :
    splitParts cs =
      let (front, fragment) := cut '#' cs
      let (front, query) := cut '?' front
      (front, query, fragment) := by
  simp only [splitParts, cut]
  cases hquery : (cs.takeWhile (· ≠ '#')).dropWhile (· ≠ '?') with
  | nil =>
    rw [List.takeWhile_eq_self_iff.2 (List.dropWhile_eq_nil_iff.1 hquery)]
    cases cs.dropWhile (· ≠ '#') <;> rfl
  | cons c query => cases cs.dropWhile (· ≠ '#') <;> rfl

/-- What follows without a mark of either goes to the last of the three parts. -/
theorem splitParts_append {more : List Char} (hhash : '#' ∉ more) (hmark : '?' ∉ more)
    (cs : List Char) : splitParts (cs ++ more) = extendParts more (splitParts cs) := by
  rw [splitParts_eq, splitParts_eq, cut_append hhash]
  obtain ⟨front, fragment⟩ := cut '#' cs
  cases fragment with
  | none => simp [extendCut, extendParts, cut_append hmark]
  | some fragment => rfl

/-- A text of one part is that part. -/
theorem front_of_splitParts {cs front : List Char} (h : splitParts cs = (front, none, none)) :
    front = cs := by
  simp only [splitParts_eq, Prod.mk.injEq] at h
  obtain ⟨hfront, hquery, hfragment⟩ := h
  rw [fst_of_cut hquery, fst_of_cut hfragment] at hfront
  exact hfront.symm

/-! ## Reading -/

/-- What is read of a text that has more behind it. -/
def cleanedFront (cs : List Char) : List Char :=
  (cs.dropWhile fun c => decide (c.toNat ≤ 0x20)).filter fun c => c ≠ '\t' ∧ c ≠ '\n' ∧ c ≠ '\r'

/-- A quiet text loses nothing at its end and nothing in between. -/
theorem cleaned_append_slash (base : List Char) {cs : List Char} (h : IsQuiet cs) :
    cleaned (base ++ '/' :: cs) = cleanedFront base ++ '/' :: cs := by
  have hquiet := h.cons_slash
  have hkept : ('/' :: cs).filter (fun c => c ≠ '\t' ∧ c ≠ '\n' ∧ c ≠ '\r') = '/' :: cs := by
    refine List.filter_eq_self.2 fun c hc => ?_
    have hbounds := hquiet.bounds hc
    refine decide_eq_true ⟨?_, ?_, ?_⟩ <;> rintro rfl <;> exact absurd hbounds.1 (by decide)
  have hend : (base.dropWhile (fun c => decide (c.toNat ≤ 0x20)) ++ '/' :: cs).reverse.dropWhile
      (fun c => decide (c.toNat ≤ 0x20)) =
        (base.dropWhile (fun c => decide (c.toNat ≤ 0x20)) ++ '/' :: cs).reverse := by
    -- the last character is the slash or behind it, and neither is trimmed
    rw [List.reverse_append]
    cases hlast : ('/' :: cs).reverse with
    | nil => simp at hlast
    | cons c before =>
      have hc : c ∈ '/' :: cs := by
        rw [← List.mem_reverse, hlast]
        exact List.mem_cons_self
      have hbounds := hquiet.bounds hc
      rw [List.cons_append, List.dropWhile_cons_of_neg]
      simpa using hbounds.1
  rw [cleaned, dropWhile_append_stop (by decide), hend, List.reverse_reverse, List.filter_append,
    hkept]
  rfl

/-- A slash belongs to no scheme. -/
theorem splitScheme_append_slash (cs ds : List Char) :
    splitScheme (cs ++ '/' :: ds) =
      (splitScheme cs).map fun (scheme, rest) => (scheme, rest ++ '/' :: ds) := by
  simp only [splitScheme]
  rw [takeWhile_append_stop (by decide), dropWhile_append_stop (by decide)]
  generalize cs.takeWhile _ = scheme
  generalize cs.dropWhile _ = rest
  rcases scheme with _ | ⟨first, scheme⟩
  · rfl
  · rcases rest with _ | ⟨c, rest⟩
    · rfl
    · by_cases hcolon : c = ':'
      · subst hcolon
        simp only [List.cons_append]
        split_ifs <;> rfl
      · simp [hcolon]

/-! ## URLs that name a host -/

/-- The path behind a host, from all that follows the host. -/
def pathOf : List Char → List Char
  | [] => ['/']
  | c :: cs => readPath false true (if isSlash true c then cs else c :: cs)

/-- The authority and the path of a text that starts with a host. -/
def hosted? (scheme : String) (isLast : Bool) (cs : List Char) : Option (Authority × List Char) :=
  let path := cs.dropWhile fun c => !isSlash true c
  (authorityOf scheme (isLast && path.isEmpty) (cs.takeWhile fun c => !isSlash true c)).map
    fun a => (a, pathOf (a.rest ++ path))

/-- The URL of these parts. -/
def ofHosted (scheme : String) (query fragment : Option (List Char))
    (hosted : Authority × List Char) : Url where
  scheme := scheme
  user := hosted.1.user
  password := hosted.1.password
  host := some hosted.1.host
  service := hosted.1.service
  path := String.ofList hosted.2
  query := query.map fun q => String.ofList (percentEncode ('\'' :: querySpecial) q)
  fragment := fragment.map fun f => String.ofList (percentEncode fragmentSpecial f)

/-- The URL with a text that stands behind its last part. -/
def below (more : String) (u : Url) : Url :=
  match u.fragment, u.query with
  | some f, _ => { u with fragment := some (f ++ more) }
  | none, some q => { u with query := some (q ++ more) }
  | none, none => { u with path := u.path ++ more }

section hosts

variable {scheme : String} {segs : List (List Char)}

/-- A scheme that needs a host has its parts read behind the slashes. -/
theorem ofParts_of_needsHost (h : needsHost scheme = true) (rest : List Char) :
    ofParts scheme rest =
      let (front, query, fragment) := splitParts rest
      (hosted? scheme (query.isNone && fragment.isNone) (front.dropWhile (isSlash true))).map
        (ofHosted scheme query fragment) := by
  simp only [ofParts, h, Bool.true_or, if_true, hosted?, Option.map_map]
  rfl

/-- Plain segments behind a slash come out as they are. -/
theorem pathOf_append_slash (cs : List Char) (hne : segs ≠ []) (h : ∀ s ∈ segs, IsPlain s) :
    pathOf (cs ++ '/' :: joined segs) = pathOf (cs ++ ['/']) ++ joined segs := by
  have hslash : isSlash true '/' = true := rfl
  cases cs with
  | nil =>
    simp only [List.nil_append, pathOf, hslash, if_true]
    rw [readPath_joined true hne h]
    rfl
  | cons c cs =>
    simp only [List.cons_append, pathOf]
    split_ifs
    · exact readPath_append_slash true cs hne h
    · exact readPath_append_slash true (c :: cs) hne h

/-- Plain segments behind a slash change nothing but the end of the path. -/
theorem hosted?_append_slash (isLast : Bool) (cs : List Char) (hne : segs ≠ [])
    (h : ∀ s ∈ segs, IsPlain s) :
    hosted? scheme isLast (cs ++ '/' :: joined segs) =
      (hosted? scheme isLast (cs ++ ['/'])).map fun (a, path) => (a, path ++ joined segs) := by
  simp only [hosted?]
  rw [takeWhile_append_stop (by decide), dropWhile_append_stop (by decide),
    takeWhile_append_stop (by decide), dropWhile_append_stop (by decide), Option.map_map]
  have hpath : ∀ ds : List Char,
      ((cs.dropWhile fun c => !isSlash true c) ++ '/' :: ds).isEmpty = false := by simp
  rw [hpath, hpath]
  congr 1
  funext a
  simp only [Function.comp_apply, ← List.append_assoc, pathOf_append_slash _ hne h]

/-- A quiet text that follows goes to the last part of a URL with a host. -/
theorem below_ofHosted (query fragment : Option (List Char)) {more : List Char}
    (h : IsQuiet more) (a : Authority) (path : List Char) :
    (ofHosted scheme query fragment (a, path)).below (String.ofList more) =
      match fragment, query with
      | some f, _ => ofHosted scheme query (some (f ++ more)) (a, path)
      | none, some q => ofHosted scheme (some (q ++ more)) none (a, path)
      | none, none => ofHosted scheme none none (a, path ++ more) := by
  have hquery : percentEncode ('\'' :: querySpecial) more = more := h.percentEncode (by decide)
  have hfragment : percentEncode fragmentSpecial more = more := h.percentEncode (by decide)
  cases fragment with
  | some f => simp [below, ofHosted, percentEncode_append, hfragment, String.ofList_append]
  | none =>
    cases query with
    | some q => simp [below, ofHosted, percentEncode_append, hquery, String.ofList_append]
    | none => simp [below, ofHosted, String.ofList_append]

/-- Behind a slash that follows more than slashes, plain segments belong to the last part. -/
theorem ofParts_append_slash (hscheme : needsHost scheme = true) {rest : List Char}
    (hrest : ∃ c ∈ rest, isSlash true c = false) (hne : segs ≠ []) (h : ∀ s ∈ segs, IsPlain s) :
    ofParts scheme (rest ++ '/' :: joined segs) =
      (ofParts scheme (rest ++ ['/'])).map (below (String.ofList (joined segs))) := by
  have hquiet := isQuiet_joined h
  have hslash := hquiet.cons_slash
  rw [ofParts_of_needsHost hscheme, ofParts_of_needsHost hscheme,
    splitParts_append (hslash.not_mem (by decide)) (hslash.not_mem (by decide)),
    splitParts_append (by decide) (by decide)]
  rcases hparts : splitParts rest with ⟨front, query, fragment⟩
  cases fragment with
  | some f =>
    simp only [extendParts, Option.map_map]
    congr 1
    funext ⟨a, path⟩
    simp [below_ofHosted _ _ hquiet]
  | none =>
    cases query with
    | some q =>
      simp only [extendParts, extendCut, Option.map_map]
      congr 1
      funext ⟨a, path⟩
      simp [below_ofHosted _ _ hquiet]
    | none =>
      obtain rfl := front_of_splitParts hparts
      have hnonempty : ¬ (front.dropWhile (isSlash true)).isEmpty = true := by
        obtain ⟨c, hc, hslash⟩ := hrest
        intro hnil
        simp [List.dropWhile_eq_nil_iff.1 (List.isEmpty_iff.1 hnil) c hc] at hslash
      simp only [extendParts, extendCut, List.dropWhile_append, if_neg hnonempty]
      rw [hosted?_append_slash _ _ hne h, Option.map_map, Option.map_map]
      congr 1
      funext ⟨a, path⟩
      simp [below_ofHosted _ _ hquiet]

/-- Slashes in front of a host are skipped, however many there are. -/
theorem ofParts_slashes (hscheme : needsHost scheme = true) {rest cs : List Char}
    (hrest : ∀ c ∈ rest, isSlash true c = true) (h : IsQuiet cs) :
    ofParts scheme (rest ++ '/' :: cs) =
      (hosted? scheme true (cs.dropWhile (isSlash true))).map (ofHosted scheme none none) := by
  have hslash := h.cons_slash
  have hnot : ∀ d, isSlash true d = false → d ∉ '/' :: cs → d ∉ rest ++ '/' :: cs := by
    intro d hd hbehind hmem
    rcases List.mem_append.1 hmem with hrestmem | hmem
    · rw [hrest d hrestmem] at hd
      cases hd
    · exact hbehind hmem
  have hparts : splitParts (rest ++ '/' :: cs) = (rest ++ '/' :: cs, none, none) :=
    splitParts_append (hnot _ (by decide) (hslash.not_mem (by decide)))
      (hnot _ (by decide) (hslash.not_mem (by decide))) []
  have hcons : ('/' :: cs).dropWhile (isSlash true) = cs.dropWhile (isSlash true) := rfl
  rw [ofParts_of_needsHost hscheme, hparts]
  simp only [List.dropWhile_append_of_pos hrest, hcons]
  rfl

/-- Nothing is no host. -/
theorem hosted?_nil (hscheme : needsHost scheme = true) (isLast : Bool) :
    hosted? scheme isLast [] = none := by
  simp [hosted?, authorityOf, splitCredentials, splitHost, hscheme]

/-- A host without a port is the whole text. -/
theorem splitHost_of_not_mem {cs : List Char} (h : ':' ∉ cs) (inside : Bool) :
    splitHost inside cs = (cs, []) := by
  induction cs generalizing inside with
  | nil => rfl
  | cons c cs ih =>
    obtain ⟨hc, hcs⟩ := not_or.1 (mt List.mem_cons.2 h)
    simp [splitHost, ih hcs, Ne.symm hc]

/-- A name alone is a host without a user and a service. -/
theorem authorityOf_name (hscheme : needsHost scheme = true) (isLast : Bool) {s : List Char}
    {name : String} (h : IsPlain s) (hcolon : ':' ∉ s) (hname : hostOf s = some name) :
    authorityOf scheme isLast s = some ⟨"", none, name, none, []⟩ := by
  have hat : '@' ∉ s := h.isQuiet.not_mem (by decide)
  have hcredentials : splitCredentials s = (none, s) := by
    have hall : s.reverse.takeWhile (· ≠ '@') = s.reverse :=
      List.takeWhile_eq_self_iff.2 (ne_of_not_mem (by simpa using hat))
    simp only [splitCredentials, hall, List.reverse_reverse, if_true]
  simp [authorityOf, hcredentials, credentialsOf, splitHost_of_not_mem hcolon, h.nonempty,
    hscheme, hname, serviceOf, percentEncode]

/-- The URL of a name and plain segments in its path. -/
theorem hosted?_name (hscheme : needsHost scheme = true) {s : List Char} {name : String}
    (hs : IsPlain s) (hcolon : ':' ∉ s) (hname : hostOf s = some name) (hne : segs ≠ [])
    (h : ∀ s ∈ segs, IsPlain s) :
    (hosted? scheme true (s ++ '/' :: joined segs)).map (ofHosted scheme none none) =
      some ⟨scheme, "", none, some name, none, String.ofList ('/' :: joined segs), none, none⟩ := by
  have hself : ∀ c ∈ s, (!isSlash true c) = true := fun c hc => by rw [hs.isSlash true hc]; rfl
  have hpath := pathOf_append_slash [] hne h
  simp only [List.nil_append] at hpath
  simp only [hosted?]
  rw [takeWhile_append_stop (by decide), dropWhile_append_stop (by decide),
    List.takeWhile_eq_self_iff.2 hself, List.dropWhile_eq_nil_iff.2 hself,
    authorityOf_name hscheme _ hs hcolon hname]
  simp only [List.nil_append, Option.map_some, hpath]
  rfl

/-- A URL that is read has the scheme that stands in front of its colon. -/
theorem scheme_of_ofParts {rest : List Char} {u : Url} (h : ofParts scheme rest = some u) :
    u.scheme = scheme := by
  by_cases hneeds : needsHost scheme = true
  · rw [ofParts_of_needsHost hneeds] at h
    obtain ⟨hosted, -, rfl⟩ := Option.map_eq_some_iff.1 h
    rfl
  · simp only [ofParts] at h
    rw [if_neg hneeds] at h
    by_cases hfile : scheme = "file"
    · rw [if_pos hfile] at h
      rcases hfront : (splitParts rest).1 with _ | ⟨a, _ | ⟨b, cs⟩⟩ <;> simp only [hfront] at h
      · cases h
        rfl
      · cases h
        rfl
      · by_cases hslashes : isSlash true a = true ∧ isSlash true b = true
        · rw [if_pos hslashes] at h
          obtain ⟨parts, -, rfl⟩ := Option.map_eq_some_iff.1 h
          rfl
        · rw [if_neg hslashes] at h
          cases h
          rfl
    · rw [if_neg hfile] at h
      split at h
      · obtain ⟨a, -, rfl⟩ := Option.map_eq_some_iff.1 h
        rfl
      all_goals (cases h; rfl)

/-- What is read of a base and a text behind it. -/
theorem ofText?_append_slash (base : String) {cs : List Char} (h : IsQuiet cs) :
    ofText? (base ++ "/" ++ String.ofList cs) =
      (splitScheme (cleanedFront base.toList)).bind fun (scheme, rest) =>
        ofParts scheme (rest ++ '/' :: cs) := by
  have htext : (base ++ "/" ++ String.ofList cs).toList = base.toList ++ '/' :: cs := by simp
  rw [ofText?, htext, cleaned_append_slash _ h, splitScheme_append_slash]
  cases splitScheme (cleanedFront base.toList) <;> rfl

/-- The scheme of what starts with a base. -/
def schemeOf? (base : String) : Option String :=
  (splitScheme (cleanedFront base.toList)).map Prod.fst

/-- Plain segments behind a base that names a host belong to the last part of its URL.  If the
base names none, the first of them is the host. -/
theorem ofText?_below {base : String} {s : List Char} (hs : IsPlain s) (hcolon : ':' ∉ s)
    (hname : hostOf s = some (String.ofList s)) (hne : segs ≠ []) (h : ∀ s ∈ segs, IsPlain s)
    {u : Url} (hu : ofText? (base ++ "/" ++ String.ofList (joined (s :: segs))) = some u)
    (hscheme : needsHost u.scheme = true) :
    schemeOf? base = some u.scheme ∧
      ((∃ v, ofText? (base ++ "/") = some v ∧ u = v.below (String.ofList (joined (s :: segs)))) ∨
        ofText? (base ++ "/") = none ∧
          u = ⟨u.scheme, "", none, some (String.ofList s), none,
            String.ofList ('/' :: joined segs), none, none⟩) := by
  have hall : ∀ t ∈ s :: segs, IsPlain t := List.forall_mem_cons.2 ⟨hs, h⟩
  have hbase := ofText?_append_slash base isQuiet_nil
  rw [String.ofList_nil, String.append_empty] at hbase
  rw [ofText?_append_slash base (isQuiet_joined hall)] at hu
  obtain ⟨⟨scheme, rest⟩, hsplit, hparts⟩ := Option.bind_eq_some_iff.1 hu
  obtain rfl := scheme_of_ofParts hparts
  replace hparts : ofParts u.scheme (rest ++ '/' :: joined (s :: segs)) = some u := hparts
  replace hbase : ofText? (base ++ "/") = ofParts u.scheme (rest ++ ['/']) := by
    rw [hbase, hsplit]
    rfl
  refine ⟨by rw [schemeOf?, hsplit]; rfl, ?_⟩
  by_cases hrest : ∃ c ∈ rest, isSlash true c = false
  · rw [ofParts_append_slash hscheme hrest (List.cons_ne_nil _ _) hall, ← hbase] at hparts
    obtain ⟨v, hv, hu⟩ := Option.map_eq_some_iff.1 hparts
    exact .inl ⟨v, hv, hu.symm⟩
  · have hslashes : ∀ c ∈ rest, isSlash true c = true := by
      intro c hc
      by_contra hslash
      exact hrest ⟨c, hc, by simpa using hslash⟩
    have hdrop : (joined (s :: segs)).dropWhile (isSlash true) = joined (s :: segs) := by
      obtain ⟨c, hc, cs, hjoined⟩ := exists_joined_cons hs.nonempty segs
      rw [hjoined]
      exact List.dropWhile_cons_of_neg (by simp [hs.isSlash true hc])
    refine .inr ⟨?_, ?_⟩
    · rw [hbase, ofParts_slashes hscheme hslashes isQuiet_nil, List.dropWhile_nil,
        hosted?_nil hscheme]
      rfl
    · rw [ofParts_slashes hscheme hslashes (isQuiet_joined hall), hdrop,
        joined_cons s hne, hosted?_name hscheme hs hcolon hname hne h] at hparts
      exact (Option.some.inj hparts).symm

end hosts

/-! ## Writing -/

/-- What stands below a URL has its user. -/
theorem user_below (u : Url) (more : String) : (u.below more).user = u.user := by
  unfold below
  split <;> rfl

/-- What stands below a URL has its password. -/
theorem password_below (u : Url) (more : String) : (u.below more).password = u.password := by
  unfold below
  split <;> rfl

/-- What stands below a URL has its host. -/
theorem host_below (u : Url) (more : String) : (u.below more).host = u.host := by
  unfold below
  split <;> rfl

/-- It does not matter whether the credentials go before or after. -/
theorem withoutCredentials_below (u : Url) (more : String) :
    (u.below more).withoutCredentials = u.withoutCredentials.below more := by
  simp only [withoutCredentials, user_below, password_below]
  split_ifs
  · rfl
  · obtain ⟨scheme, user, password, host, service, path, query, fragment⟩ := u
    cases fragment <;> cases query <;> rfl

/-- What stands below a URL has its credentials. -/
theorem credentialsText_below (u : Url) (more : String) :
    (u.below more).credentialsText = u.credentialsText := by
  simp only [credentialsText, user_below, password_below]

/-- A URL that names a host is written with the text behind it at its end. -/
theorem toText_below {u : Url} (h : u.host.isSome = true) (more : String) :
    (u.below more).toText = u.toText ++ more := by
  obtain ⟨host, hhost⟩ := Option.isSome_iff_exists.1 h
  simp only [toText, host_below, credentialsText_below, hhost]
  cases hf : u.fragment <;> cases hq : u.query <;> simp [below, hf, hq, String.append_assoc]

/-- The host stays when the credentials go. -/
theorem host_withoutCredentials (u : Url) : u.withoutCredentials.host = u.host := by
  simp only [withoutCredentials]
  split <;> rfl

/-- A URL without a user and a password has nothing to take off. -/
theorem withoutCredentials_eq_self {u : Url} (huser : u.user = "") (hpassword : u.password = none) :
    u.withoutCredentials = u := by
  obtain ⟨scheme, user, password, host, service, path, query, fragment⟩ := u
  obtain rfl : user = "" := huser
  obtain rfl : password = none := hpassword
  simp only [withoutCredentials]
  split <;> rfl

/-- A URL that names a host has one. -/
theorem isSome_host {u : Url} (h : u.namesHost = true) : u.host.isSome = true := by
  unfold namesHost at h
  split at h
  · cases h
  · rename_i hhost
    rw [hhost]
    rfl

/-- What stands in front of all that is below a base: the URL of the base or, if it names no
host, its scheme alone. -/
def root (base : String) : String :=
  match ofText? (base ++ "/") with
  | some v => v.withoutCredentials.toText
  | none => (schemeOf? base).getD "" ++ "://"

/-- Plain segments stand at the end of a URL as they are, and the rest is the base's. -/
theorem toText_root {base : String} {s : List Char} {segs : List (List Char)} (hs : IsPlain s)
    (hcolon : ':' ∉ s) (hname : hostOf s = some (String.ofList s)) (hne : segs ≠ [])
    (h : ∀ s ∈ segs, IsPlain s) {u : Url}
    (hu : ofText? (base ++ "/" ++ String.ofList (joined (s :: segs))) = some u)
    (hscheme : needsHost u.scheme = true) (hhost : u.namesHost = true) :
    u.withoutCredentials.toText = root base ++ String.ofList (joined (s :: segs)) := by
  obtain ⟨hbase, hbelow | hhostless⟩ := ofText?_below hs hcolon hname hne h hu hscheme
  · obtain ⟨v, hv, rfl⟩ := hbelow
    have hvhost : v.withoutCredentials.host.isSome = true := by
      rw [host_withoutCredentials, ← host_below v, isSome_host hhost]
    rw [withoutCredentials_below, toText_below hvhost, root, hv]
  · obtain ⟨hnone, hu⟩ := hhostless
    have huser : u.user = "" := by rw [hu]
    have hpassword : u.password = none := by rw [hu]
    rw [withoutCredentials_eq_self huser hpassword, root, hnone, hbase, joined_cons s hne]
    have hmarks (text : String) : ":" ++ ("//" ++ text) = "://" ++ text := by
      rw [← String.append_assoc]
      rfl
    rw [hu]
    simp [toText, credentialsText, String.append_assoc, hmarks]

end ChatGateway.Url
