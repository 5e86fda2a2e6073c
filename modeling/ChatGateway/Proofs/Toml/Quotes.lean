import Mathlib
import ChatGateway.Toml.Printer
import ChatGateway.Toml.Reader

/-!
# Quoted texts read back

A text is written in the plainest of four kinds of quotes that can hold it.  Whatever the kind,
reading takes the text back and leaves what follows (`takeText_quoted`).

In the quotes of several lines a run of quotes is read at once, and the closing quotes may follow
quotes that still belong to the text.  So what stands between them is described with the number of
quotes that have just been seen (`Spelled`).
-/

set_option autoImplicit false

namespace ChatGateway.Toml

/-! ## Escapes -/

/-- The two digits of a control in upper case denote it. -/
theorem hexByte_upper :
    ∀ n < 128, ((Text.hexByte n.toUInt8).map Char.toUpper).length = 2 ∧
      ((Text.hexByte n.toUInt8).map Char.toUpper).all (fun c => digitValue c < 16) = true ∧
      ((Text.hexByte n.toUInt8).map Char.toUpper).foldl
        (fun v c => v * 16 + digitValue c) 0 = n := by
  decide +kernel

/-- A control is read back from the escape that is written for it. -/
theorem takeEscape_control {c : Char} (h : needsEscape c = true) (rest : List Char) :
    takeEscape ('u' :: '0' :: '0' :: ((Text.hexByte c.toNat.toUInt8).map Char.toUpper ++ rest)) =
      some (c, rest) := by
  have hlt : c.toNat < 128 := by
    simp [needsEscape] at h
    omega
  obtain ⟨hlength, hall, hvalue⟩ := hexByte_upper c.toNat hlt
  obtain ⟨a, b, hdigits⟩ := List.length_eq_two.1 hlength
  rw [hdigits] at hall hvalue ⊢
  have hzero : digitValue '0' = 0 := rfl
  have hhex : takeHex 4 ('0' :: '0' :: a :: b :: rest) = some (c.toNat, rest) := by
    simp only [List.all_cons, List.all_nil, Bool.and_true, Bool.and_eq_true,
      decide_eq_true_eq] at hall
    simp only [List.foldl_cons, List.foldl_nil] at hvalue
    simp [takeHex, hzero, hall, ← hvalue]
  have hvalid : c.toNat < 0xD800 := by omega
  simp [takeEscape, takeScalar, hhex, hvalid]

/-- What needs no escape is no control but the end of a line. -/
theorem printable_of_needsEscape {c : Char} (h : needsEscape c = false) :
    isControl c = false ∨ c = '\n' := by
  simp only [needsEscape, Bool.or_eq_false_iff, Bool.and_eq_false_iff, decide_eq_false_iff_not,
    ne_eq, not_not] at h
  simp only [isControl, Bool.or_eq_false_iff, Bool.and_eq_false_iff, decide_eq_false_iff_not,
    ne_eq, not_not]
  rcases h.1 with (hlow | htab) | hnewline
  · exact .inl ⟨.inl (by omega), h.2⟩
  · exact .inl ⟨.inr htab, h.2⟩
  · exact .inr hnewline

/-- A character that stands for itself between double quotes; `lines` says whether ends of lines
do. -/
def IsPlain (lines : Bool) (c : Char) : Prop :=
  c ≠ '"' ∧ c ≠ '\\' ∧ (isControl c = false ∨ c = '\n' ∧ lines = true)

/-- Characters that stand for `c` after a backslash. -/
def IsEscape (c : Char) (e : List Char) : Prop :=
  (∀ rest, takeEscape (e ++ rest) = some (c, rest)) ∧
    ∃ x ∈ e.head?, x ∉ [' ', '\t', '\n', '\r']

/-- A character that is no double quote is written as it is or escaped. -/
theorem escaped_cons {allowed run : Nat} {c : Char} (h : c ≠ '"') (cs : List Char) :
    (IsPlain (0 < allowed) c ∧ escaped allowed run (c :: cs) = c :: escaped allowed 0 cs) ∨
      ∃ e, IsEscape c e ∧
        escaped allowed run (c :: cs) = '\\' :: (e ++ escaped allowed 0 cs) := by
  by_cases hline : c = '\n' ∧ 0 < allowed
  · refine .inl ⟨⟨h, by simp [hline.1], .inr ⟨hline.1, by simpa using hline.2⟩⟩, ?_⟩
    simp [escaped, hline]
  · rw [escaped.eq_def]
    simp only [if_neg h, if_neg hline]
    split
    · exact .inr ⟨['b'], ⟨fun _ => rfl, by simp⟩, rfl⟩
    · exact .inr ⟨['t'], ⟨fun _ => rfl, by simp⟩, rfl⟩
    · exact .inr ⟨['n'], ⟨fun _ => rfl, by simp⟩, rfl⟩
    · exact .inr ⟨['f'], ⟨fun _ => rfl, by simp⟩, rfl⟩
    · exact .inr ⟨['r'], ⟨fun _ => rfl, by simp⟩, rfl⟩
    · exact .inr ⟨['\\'], ⟨fun _ => rfl, by simp⟩, rfl⟩
    · rename_i hb ht hn hf hr hbackslash
      cases hescape : needsEscape c with
      | true =>
        refine .inr ⟨'u' :: '0' :: '0' :: (Text.hexByte c.toNat.toUInt8).map Char.toUpper,
          ⟨fun rest => takeEscape_control hescape rest, by simp⟩, by simp⟩
      | false =>
        have hcontrol : isControl c = false :=
          (printable_of_needsEscape hescape).resolve_right hn
        exact .inl ⟨⟨h, hbackslash, .inl hcontrol⟩, by simp⟩

/-- A double quote stands for itself as long as the run before it is short enough. -/
theorem escaped_quote_allowed {allowed run : Nat} (h : run < allowed) (cs : List Char) :
    escaped allowed run ('"' :: cs) = '"' :: escaped allowed (run + 1) cs := by
  simp [escaped, h]

/-- A double quote that would close the text is escaped, and the run starts anew. -/
theorem escaped_quote {allowed run : Nat} (h : ¬ run < allowed) (cs : List Char) :
    escaped allowed run ('"' :: cs) = '\\' :: (['"'] ++ escaped allowed 0 cs) := by
  simp [escaped, h]

/-- A double quote after a backslash stands for itself. -/
theorem isEscape_quote : IsEscape '"' ['"'] :=
  ⟨fun _ => rfl, by simp⟩

/-- How the written text starts. -/
theorem head_escaped {allowed : Nat} {cs : List Char} {x : Char}
    (h : x ∈ (escaped allowed 0 cs).head?) :
    x = '\\' ∨ x = '"' ∧ 0 < allowed ∨ x ∈ cs ∧ IsPlain (0 < allowed) x := by
  cases cs with
  | nil => cases h
  | cons c cs =>
    by_cases hc : c = '"'
    · subst hc
      by_cases hallowed : 0 < allowed
      · rw [escaped_quote_allowed hallowed] at h
        exact .inr (.inl ⟨(Option.some.inj h).symm, hallowed⟩)
      · rw [escaped_quote hallowed] at h
        exact .inl (Option.some.inj h).symm
    · rcases escaped_cons hc cs with ⟨hplain, heq⟩ | ⟨e, -, heq⟩
      · rw [heq] at h
        obtain rfl : c = x := Option.some.inj h
        exact .inr (.inr ⟨List.mem_cons_self, hplain⟩)
      · rw [heq] at h
        exact .inl (Option.some.inj h).symm

/-! ## One line -/

/-- A plain character is read as itself. -/
theorem takeBasic_plain {c : Char} (h : IsPlain false c) (fuel : Nat) (done rest : List Char) :
    takeBasic (fuel + 1) done (c :: rest) = takeBasic fuel (c :: done) rest := by
  obtain ⟨hquote, hbackslash, hcontrol⟩ := h
  have hcontrol : isControl c = false := by simpa using hcontrol
  rw [takeBasic]
  · simp [hcontrol]
  · exact hquote
  · exact hbackslash

/-- An escape is read as its character. -/
theorem takeBasic_escape {c : Char} {e : List Char} (h : IsEscape c e) (fuel : Nat)
    (done rest : List Char) :
    takeBasic (fuel + 1) done ('\\' :: (e ++ rest)) = takeBasic fuel (c :: done) rest := by
  rw [takeBasic, h.1]

/-- A text that is written between double quotes is read back up to the closing one. -/
theorem takeBasic_escaped (cs : List Char) :
    ∀ (fuel : Nat) (done rest : List Char), (escaped 0 0 cs).length < fuel →
      takeBasic fuel done (escaped 0 0 cs ++ '"' :: rest) = some (done.reverse ++ cs, rest) := by
  induction cs with
  | nil =>
    intro fuel done rest hfuel
    obtain ⟨fuel, rfl⟩ := Nat.exists_eq_succ_of_ne_zero (Nat.ne_zero_of_lt hfuel)
    simp [escaped, takeBasic]
  | cons c cs ih =>
    intro fuel done rest hfuel
    obtain ⟨fuel, rfl⟩ := Nat.exists_eq_succ_of_ne_zero (Nat.ne_zero_of_lt hfuel)
    have hrest := ih fuel (c :: done) rest
    rw [List.reverse_cons, List.append_assoc, List.singleton_append] at hrest
    by_cases hc : c = '"'
    · subst hc
      rw [escaped_quote (by omega)] at hfuel ⊢
      rw [List.cons_append, List.append_assoc, takeBasic_escape isEscape_quote]
      exact hrest (by simp at hfuel; omega)
    · rcases escaped_cons hc cs with ⟨hplain, heq⟩ | ⟨e, hescape, heq⟩
      · rw [heq] at hfuel ⊢
        rw [List.cons_append, takeBasic_plain (by simpa using hplain)]
        exact hrest (by simpa using hfuel)
      · rw [heq] at hfuel ⊢
        rw [List.cons_append, List.append_assoc, takeBasic_escape hescape]
        exact hrest (by simp at hfuel; omega)

/-- A text that single quotes can hold is read back up to the closing one. -/
theorem takeLiteral_append {cs : List Char} (h : ∀ c ∈ cs, c ≠ '\'' ∧ isControl c = false)
    (rest : List Char) : takeLiteral (cs ++ '\'' :: rest) = some (cs, rest) := by
  have hbody : ∀ c ∈ cs, (c ≠ '\'' && !isControl c) = true := by
    intro c hc
    simpa using h c hc
  rw [takeLiteral, List.takeWhile_append_of_pos hbody, List.dropWhile_append_of_pos hbody]
  simp

/-! ## Several lines -/

/-- What stands between long quotes for a text, after a run of so many quotes. -/
inductive Spelled (quote : Char) (escapes : Bool) : Nat → List Char → List Char → Prop
  | nil {run : Nat} (few : run ≤ 2) : Spelled quote escapes run [] []
  | quote {run : Nat} {body cs : List Char} (rest : Spelled quote escapes (run + 1) body cs) :
      Spelled quote escapes run (quote :: body) (quote :: cs)
  | plain {run : Nat} {c : Char} {body cs : List Char} (few : run ≤ 2) (other : c ≠ quote)
      (unescaped : escapes = true → c ≠ '\\') (printable : isControl c = false ∨ c = '\n')
      (rest : Spelled quote escapes 0 body cs) :
      Spelled quote escapes run (c :: body) (c :: cs)
  | escape {run : Nat} {c : Char} {e body cs : List Char} (few : run ≤ 2)
      (special : escapes = true) (other : quote ≠ '\\') (escape : IsEscape c e)
      (rest : Spelled quote escapes 0 body cs) :
      Spelled quote escapes run ('\\' :: (e ++ body)) (c :: cs)

section long

variable {quote : Char} {escapes : Bool}

/-- The quotes at the start of a text are a run followed by something else. -/
theorem takeWhile_replicate_append (run : Nat) {rest : List Char}
    (h : ∀ c ∈ rest.head?, c ≠ quote) :
    (List.replicate run quote ++ rest).takeWhile (· = quote) = List.replicate run quote ∧
      (List.replicate run quote ++ rest).dropWhile (· = quote) = rest := by
  have hall : ∀ c ∈ List.replicate run quote, decide (c = quote) = true := by
    intro c hc
    simp [List.eq_of_mem_replicate hc]
  rw [List.takeWhile_append_of_pos hall, List.dropWhile_append_of_pos hall]
  cases rest with
  | nil => simp
  | cons c rest =>
    have hc : c ≠ quote := h c rfl
    simp [hc]

/-- At most two quotes in a row belong to the text. -/
theorem takeLong_run {run fuel : Nat} (few : run ≤ 2) (done : List Char) {rest : List Char}
    (other : ∀ c ∈ rest.head?, c ≠ quote) (hfuel : run + rest.length < fuel) :
    ∃ fuel', rest.length < fuel' ∧
      takeLong quote escapes fuel done (List.replicate run quote ++ rest) =
        takeLong quote escapes fuel' (List.replicate run quote ++ done) rest := by
  cases run with
  | zero => exact ⟨fuel, by omega, rfl⟩
  | succ run =>
    obtain ⟨fuel, rfl⟩ := Nat.exists_eq_succ_of_ne_zero (Nat.ne_zero_of_lt hfuel)
    obtain ⟨htake, hdrop⟩ := takeWhile_replicate_append (run + 1) other
    have hclosing : takeClosing quote (List.replicate (run + 1) quote ++ rest) =
        some (List.replicate (run + 1) quote, false, rest) := by
      have hlt : run + 1 < 3 := by omega
      simp only [takeClosing, htake, hdrop, List.length_replicate, if_pos hlt]
    rw [List.replicate_succ, List.cons_append] at hclosing ⊢
    refine ⟨fuel, by omega, ?_⟩
    rw [takeLong, if_pos rfl, hclosing]

/-- Up to two quotes before the closing three belong to the text. -/
theorem takeLong_closing {run fuel : Nat} (few : run ≤ 2) (done : List Char) {rest : List Char}
    (other : ∀ c ∈ rest.head?, c ≠ quote) (hfuel : 0 < fuel) :
    takeLong quote escapes fuel done
        (List.replicate run quote ++ (quote :: quote :: quote :: rest)) =
      some (done.reverse ++ List.replicate run quote, rest) := by
  obtain ⟨fuel, rfl⟩ := Nat.exists_eq_succ_of_ne_zero hfuel.ne'
  have hjoin : List.replicate run quote ++ (quote :: quote :: quote :: rest) =
      List.replicate (run + 3) quote ++ rest := by
    rw [List.replicate_add, List.append_assoc]
    rfl
  obtain ⟨htake, hdrop⟩ := takeWhile_replicate_append (run + 3) other
  have hclosing : takeClosing quote (List.replicate (run + 3) quote ++ rest) =
      some (List.replicate run quote, true, rest) := by
    have hge : ¬ run + 3 < 3 := by omega
    have hle : run + 3 ≤ 5 := by omega
    simp only [takeClosing, htake, hdrop, List.length_replicate, if_neg hge, if_pos hle,
      List.drop_replicate, Nat.add_sub_cancel]
  rw [hjoin]
  rw [List.replicate_succ, List.cons_append] at hclosing ⊢
  rw [takeLong, if_pos rfl, hclosing]

/-- A character that is not special is read as itself between long quotes. -/
theorem takeLong_plain {c : Char} (other : c ≠ quote) (unescaped : escapes = true → c ≠ '\\')
    (printable : isControl c = false ∨ c = '\n') (fuel : Nat) (done rest : List Char) :
    takeLong quote escapes (fuel + 1) done (c :: rest) =
      takeLong quote escapes fuel (c :: done) rest := by
  have hplain : ¬ (escapes = true ∧ c = '\\') := fun h => unescaped h.1 h.2
  rw [takeLong, if_neg other, if_neg hplain]
  rcases printable with hcontrol | rfl
  · have hline : takeNewline (c :: rest) = none := by
      have hn : c ≠ '\n' := by rintro rfl; cases hcontrol
      have hr : c ≠ '\r' := by rintro rfl; cases hcontrol
      unfold takeNewline
      split <;> simp_all
    simp [hline, hcontrol]
  · simp [takeNewline]

/-- An escape is read as its character between long quotes, where the backslash is special. -/
theorem takeLong_escape {c : Char} {e : List Char} (special : escapes = true)
    (other : quote ≠ '\\') (escape : IsEscape c e) (fuel : Nat) (done rest : List Char) :
    takeLong quote escapes (fuel + 1) done ('\\' :: (e ++ rest)) =
      takeLong quote escapes fuel (c :: done) rest := by
  have hline : takeNewline (skipBlank (e ++ rest)) = none := by
    obtain ⟨x, hx, hnot⟩ := escape.2
    cases e with
    | nil => cases hx
    | cons y e =>
      obtain rfl : y = x := Option.some.inj hx
      simp only [List.mem_cons, List.not_mem_nil, or_false, not_or] at hnot
      obtain ⟨hspace, htab, hnewline, hreturn⟩ := hnot
      have hskip : skipBlank (y :: e ++ rest) = y :: e ++ rest := by
        simp [skipBlank, hspace, htab]
      rw [hskip, List.cons_append]
      unfold takeNewline
      split <;> simp_all
  rw [takeLong, if_neg (Ne.symm other), if_pos ⟨special, rfl⟩, hline]
  simp only [escape.1]

/-- What is spelled between long quotes is read. -/
theorem takeLong_spelled {run : Nat} {body cs : List Char}
    (h : Spelled quote escapes run body cs) :
    ∀ (fuel : Nat) (done rest : List Char), (∀ c ∈ rest.head?, c ≠ quote) →
      run + body.length + rest.length + 3 < fuel →
      takeLong quote escapes fuel done
          (List.replicate run quote ++ (body ++ quote :: quote :: quote :: rest)) =
        some (done.reverse ++ (List.replicate run quote ++ cs), rest) := by
  induction h with
  | nil few =>
    intro fuel done rest other hfuel
    rw [List.append_nil]
    exact takeLong_closing few done other (by omega)
  | @quote run body cs _ ih =>
    intro fuel done rest other hfuel
    have hrest := ih fuel done rest other (by rw [List.length_cons] at hfuel; omega)
    have hrun (tail : List Char) : List.replicate run quote ++ (quote :: tail) =
        List.replicate (run + 1) quote ++ tail := by
      rw [List.replicate_add, List.append_assoc]
      rfl
    rwa [List.cons_append, hrun, hrun]
  | @plain run c body cs few hother unescaped printable _ ih =>
    intro fuel done rest other hfuel
    rw [List.length_cons] at hfuel
    obtain ⟨fuel', hfuel', hrun⟩ := @takeLong_run quote escapes run fuel few done
      (c :: (body ++ quote :: quote :: quote :: rest)) (by simpa using hother) (by simp; omega)
    obtain ⟨fuel', rfl⟩ := Nat.exists_eq_succ_of_ne_zero (Nat.ne_zero_of_lt hfuel')
    have hrest := ih fuel' (c :: (List.replicate run quote ++ done)) rest other (by
      simp at hfuel'
      omega)
    rw [List.cons_append, hrun, takeLong_plain hother unescaped printable]
    simpa using hrest
  | @escape run c e body cs few special hother escape _ ih =>
    intro fuel done rest other hfuel
    rw [List.length_cons, List.length_append] at hfuel
    obtain ⟨fuel', hfuel', hrun⟩ := @takeLong_run quote escapes run fuel few done
      ('\\' :: (e ++ (body ++ quote :: quote :: quote :: rest))) (by simpa using hother.symm)
      (by simp; omega)
    obtain ⟨fuel', rfl⟩ := Nat.exists_eq_succ_of_ne_zero (Nat.ne_zero_of_lt hfuel')
    have hrest := ih fuel' (c :: (List.replicate run quote ++ done)) rest other (by
      simp at hfuel'
      omega)
    rw [List.cons_append, List.append_assoc, hrun, takeLong_escape special hother escape]
    simpa using hrest

end long

/-- Escaping spells a text so that three double quotes never stand in a row. -/
theorem spelled_escaped (cs : List Char) :
    ∀ {run : Nat}, run ≤ 2 → Spelled '"' true run (escaped 2 run cs) cs := by
  induction cs with
  | nil => exact fun few => .nil few
  | cons c cs ih =>
    intro run few
    by_cases hc : c = '"'
    · subst hc
      by_cases hrun : run < 2
      · rw [escaped_quote_allowed hrun]
        exact .quote (ih hrun)
      · rw [escaped_quote hrun]
        exact .escape few rfl (by decide) isEscape_quote (ih (by omega))
    · rcases escaped_cons hc cs with ⟨⟨-, hbackslash, hprintable⟩, heq⟩ | ⟨e, hescape, heq⟩
      · rw [heq]
        exact .plain few hc (fun _ => hbackslash) (hprintable.imp_right And.left)
          (ih (by omega))
      · rw [heq]
        exact .escape few rfl (by decide) hescape (ih (by omega))

/-! ## Runs of quotes -/

/-- The longest run is at least the one under way and the best so far. -/
theorem le_longestRunFrom (q : Char) (cs : List Char) :
    ∀ run best, run ≤ longestRunFrom q run best cs ∧ best ≤ longestRunFrom q run best cs := by
  induction cs with
  | nil => simp [longestRunFrom]
  | cons c cs ih =>
    intro run best
    by_cases hc : c = q
    · have := ih (run + 1) best
      simp only [longestRunFrom, if_pos hc]
      omega
    · have := ih 0 (max run best)
      simp only [longestRunFrom, if_neg hc]
      omega

/-- A text whose longest run is none holds no such character. -/
theorem ne_of_longestRunFrom {q : Char} {cs : List Char} :
    ∀ {run best}, longestRunFrom q run best cs = 0 → ∀ c ∈ cs, c ≠ q := by
  induction cs with
  | nil => simp
  | cons c cs ih =>
    intro run best h
    by_cases hc : c = q
    · have := le_longestRunFrom q cs (run + 1) best
      simp only [longestRunFrom, if_pos hc] at h
      omega
    · simp only [longestRunFrom, if_neg hc] at h
      exact List.forall_mem_cons.2 ⟨hc, ih h⟩

/-- A text with nothing to escape and no three single quotes in a row spells itself. -/
theorem spelled_literal (cs : List Char) :
    ∀ {run best : Nat}, longestRunFrom '\'' run best cs ≤ 2 →
      (∀ c ∈ cs, needsEscape c = false) → Spelled '\'' false run cs cs := by
  induction cs with
  | nil =>
    intro run best hlong _
    have := le_longestRunFrom '\'' [] run best
    exact .nil (by omega)
  | cons c cs ih =>
    intro run best hlong hplain
    obtain ⟨hc, hcs⟩ := List.forall_mem_cons.1 hplain
    by_cases hquote : c = '\''
    · subst hquote
      simp only [longestRunFrom, ↓reduceIte] at hlong
      exact .quote (ih hlong hcs)
    · simp only [longestRunFrom, if_neg hquote] at hlong
      have := le_longestRunFrom '\'' cs 0 (max run best)
      exact .plain (by omega) hquote (by simp) (printable_of_needsEscape hc) (ih hlong hcs)

/-! ## All four kinds -/

/-- One double quote that two others do not follow opens a text of one line. -/
theorem takeText_basic {tail : List Char} (h : ∀ rest, tail ≠ '"' :: '"' :: rest) :
    takeText ('"' :: tail) = takeBasic (tail.length + 1) [] tail := by
  unfold takeText
  split <;> simp_all

/-- One single quote that two others do not follow opens a literal of one line. -/
theorem takeText_literal {tail : List Char} (h : ∀ rest, tail ≠ '\'' :: '\'' :: rest) :
    takeText ('\'' :: tail) = takeLiteral tail := by
  unfold takeText
  split <;> simp_all

/-- A text that does not begin with an end of line loses none. -/
theorem dropNewline_of_ne {cs : List Char} (h : ∀ c ∈ cs.head?, c ≠ '\n' ∧ c ≠ '\r') :
    dropNewline cs = cs := by
  unfold dropNewline takeNewline
  split <;> simp_all

/-- A text of several lines starts after the end of a line, which is left out if the text has
only one. -/
theorem dropNewline_opening {cs body : List Char}
    (h : '\n' ∉ cs → ∀ c ∈ body.head?, c ≠ '\n' ∧ c ≠ '\r') :
    dropNewline ((if cs.contains '\n' then "\n" else "").toList ++ body) = body := by
  by_cases hline : '\n' ∈ cs
  · simp [hline, dropNewline, takeNewline]
  · simpa [hline] using dropNewline_of_ne (h hline)

/-- A single quote on either side is chosen only for a text that they can hold. -/
theorem of_literal {cs : List Char} (h : Quotes.of cs = .literal) :
    cs ≠ [] ∧ ∀ c ∈ cs, c ≠ '\'' ∧ isControl c = false := by
  have hne : cs ≠ [] := by
    rintro rfl
    cases h
  simp only [Quotes.of] at h
  split_ifs at h with hbasic hliteral
  simp only [Bool.and_eq_true, Bool.not_eq_true', List.any_eq_false, decide_eq_true_eq] at hliteral
  obtain ⟨⟨hcontrols, hline⟩, hsingles⟩ := hliteral
  refine ⟨hne, fun c hc => ⟨ne_of_longestRunFrom hsingles c hc, ?_⟩⟩
  rcases printable_of_needsEscape (by simpa using hcontrols c hc) with hprintable | rfl
  · exact hprintable
  · simp [hc] at hline

/-- Three single quotes are chosen only for a text that they can hold. -/
theorem of_longLiteral {cs : List Char} (h : Quotes.of cs = .longLiteral) :
    (∀ c ∈ cs, needsEscape c = false) ∧ longestRun '\'' cs ≤ 2 := by
  simp only [Quotes.of] at h
  split_ifs at h with hbasic hliteral hdoubles hsingles
  simp only [Bool.and_eq_true, Bool.not_eq_true', List.any_eq_false, decide_eq_true_eq] at hsingles
  exact ⟨fun c hc => by simpa using hsingles.1 c hc, hsingles.2⟩

/-- A text in single double quotes is not taken for one in three: what follows its opening quote
is a second quote only if that closes the text. -/
theorem escaped_ne_opening {cs rest : List Char} (h : ∀ c ∈ rest.head?, c ≠ '"')
    (tail : List Char) : escaped 0 0 cs ++ '"' :: rest ≠ '"' :: '"' :: tail := by
  intro heq
  cases hbody : escaped 0 0 cs with
  | nil =>
    rw [hbody, List.nil_append, List.cons.injEq] at heq
    exact h '"' (by simp [heq.2]) rfl
  | cons x body =>
    rw [hbody, List.cons_append, List.cons.injEq] at heq
    have hhead : '"' ∈ (escaped 0 0 cs).head? := by rw [hbody, heq.1]; rfl
    rcases head_escaped hhead with hx | hx | hx
    · cases hx
    · exact absurd hx.2 (by omega)
    · exact hx.2.1 rfl

/-- A text of one line does not start with the end of a line, whichever long quotes it is in. -/
theorem head_longBasic {cs : List Char} (rest : List Char) (line : '\n' ∉ cs) :
    ∀ c ∈ (escaped 2 0 cs ++ '"' :: rest).head?, c ≠ '\n' ∧ c ≠ '\r' := by
  intro c hc
  cases hbody : escaped 2 0 cs with
  | nil =>
    obtain rfl : '"' = c := by simpa [hbody] using hc
    decide
  | cons x body =>
    obtain rfl : x = c := by simpa [hbody] using hc
    have hhead : x ∈ (escaped 2 0 cs).head? := by rw [hbody]; rfl
    rcases head_escaped hhead with rfl | ⟨rfl, -⟩ | ⟨hmem, -, -, hprintable⟩
    · decide
    · decide
    · have hne : x ≠ '\n' := fun heq => line (heq ▸ hmem)
      refine ⟨hne, ?_⟩
      rintro rfl
      rcases hprintable with hcontrol | ⟨heq, -⟩
      · cases hcontrol
      · exact hne heq

/-- A literal of one line does not begin with an end of line. -/
theorem head_longLiteral {cs : List Char} (rest : List Char)
    (plain : ∀ c ∈ cs, needsEscape c = false) (line : '\n' ∉ cs) :
    ∀ c ∈ (cs ++ '\'' :: rest).head?, c ≠ '\n' ∧ c ≠ '\r' := by
  intro c hc
  cases cs with
  | nil =>
    obtain rfl : '\'' = c := Option.some.inj hc
    decide
  | cons x cs =>
    obtain rfl : x = c := Option.some.inj hc
    refine ⟨fun heq => line (heq ▸ List.mem_cons_self), ?_⟩
    rintro rfl
    have := plain _ List.mem_cons_self
    cases this

/-- Reading a quoted text takes it back. -/
theorem takeText_quoted (s : String) {rest : List Char}
    (h : ∀ c ∈ rest.head?, c ≠ '"' ∧ c ≠ '\'') :
    takeText ((quoted s).toList ++ rest) = some (s.toList, rest) := by
  have hdouble : ∀ c ∈ rest.head?, c ≠ '"' := fun c hc => (h c hc).1
  have hsingle : ∀ c ∈ rest.head?, c ≠ '\'' := fun c hc => (h c hc).2
  cases hquotes : Quotes.of s.toList with
  | basic =>
    have htext : (quoted s).toList ++ rest = '"' :: (escaped 0 0 s.toList ++ '"' :: rest) := by
      simp [quoted, hquotes]
    rw [htext, takeText_basic (escaped_ne_opening hdouble)]
    exact takeBasic_escaped s.toList _ [] rest (by simp)
  | literal =>
    obtain ⟨hne, hbody⟩ := of_literal hquotes
    have htext : (quoted s).toList ++ rest = '\'' :: (s.toList ++ '\'' :: rest) := by
      simp [quoted, hquotes]
    have hopening : ∀ tail, s.toList ++ '\'' :: rest ≠ '\'' :: '\'' :: tail := by
      intro tail heq
      cases hs : s.toList with
      | nil => exact hne hs
      | cons c cs =>
        rw [hs, List.cons_append, List.cons.injEq] at heq
        exact (hbody c (by simp [hs])).1 heq.1
    rw [htext, takeText_literal hopening]
    exact takeLiteral_append hbody rest
  | longBasic =>
    have htext : (quoted s).toList ++ rest =
        '"' :: '"' :: '"' :: ((if s.toList.contains '\n' then "\n" else "").toList ++
          (escaped 2 0 s.toList ++ '"' :: '"' :: '"' :: rest)) := by
      simp [quoted, hquotes]
    have hbody := takeLong_spelled (spelled_escaped s.toList (Nat.zero_le 2))
    rw [htext, takeText, dropNewline_opening (head_longBasic _)]
    exact hbody _ [] rest hdouble (by simp; omega)
  | longLiteral =>
    obtain ⟨hplain, hruns⟩ := of_longLiteral hquotes
    have htext : (quoted s).toList ++ rest =
        '\'' :: '\'' :: '\'' :: ((if s.toList.contains '\n' then "\n" else "").toList ++
          (s.toList ++ '\'' :: '\'' :: '\'' :: rest)) := by
      simp [quoted, hquotes]
    have hbody := takeLong_spelled (spelled_literal s.toList hruns hplain)
    rw [htext, takeText, dropNewline_opening (head_longLiteral _ hplain)]
    exact hbody _ [] rest hsingle (by simp; omega)

end ChatGateway.Toml
