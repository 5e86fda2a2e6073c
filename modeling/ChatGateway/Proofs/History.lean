/-!
# The past of a list

Of a list that grows at its end one asks whether something has happened: whether some
element, seen with all that stands before it, has a property.  One more element either
leaves the answer as it was or is itself the occasion.
-/

set_option autoImplicit false

namespace ChatGateway

variable {α : Type}

/-- Whether `p` holds at some point of `l`, of what stands before the point and the element
that stands there. -/
def Once (p : List α → α → Prop) (l : List α) : Prop :=
  ∃ before a after, l = before ++ a :: after ∧ p before a

/-- Nothing happens once in an empty list. -/
theorem not_once_nil (p : List α → α → Prop) : ¬ Once p [] := by
  rintro ⟨before, a, after, h, -⟩
  simp at h

/-- A list that ends in an element is cut either there or inside the list before. -/
theorem concat_eq_append_cons {l before after : List α} {a b : α} :
    l ++ [b] = before ++ a :: after ↔
      (after = [] ∧ before = l ∧ a = b) ∨
        ∃ rest, after = rest ++ [b] ∧ l = before ++ a :: rest := by
  constructor
  · intro h
    rcases List.eq_nil_or_concat after with rfl | ⟨rest, c, rfl⟩
    · obtain ⟨hl, hb⟩ := List.append_inj' h rfl
      exact .inl ⟨rfl, hl.symm, (List.singleton_inj.1 hb).symm⟩
    · rw [List.concat_eq_append, ← List.cons_append, ← List.append_assoc] at h
      obtain ⟨hl, hb⟩ := List.append_inj' h rfl
      obtain rfl := List.singleton_inj.1 hb
      exact .inr ⟨rest, List.concat_eq_append, hl⟩
  · rintro (⟨rfl, rfl, rfl⟩ | ⟨rest, rfl, rfl⟩)
    · rfl
    · simp

/-- Something happens once with one more element if it did before or does with that. -/
theorem once_concat (p : List α → α → Prop) (l : List α) (b : α) :
    Once p (l ++ [b]) ↔ Once p l ∨ p l b := by
  constructor
  · rintro ⟨before, a, after, h, hp⟩
    rcases concat_eq_append_cons.1 h with ⟨-, rfl, rfl⟩ | ⟨rest, -, hl⟩
    · exact .inr hp
    · exact .inl ⟨before, a, rest, hl, hp⟩
  · rintro (⟨before, a, after, rfl, hp⟩ | hp)
    · exact ⟨before, a, after ++ [b], by simp, hp⟩
    · exact ⟨l, b, [], rfl, hp⟩

end ChatGateway
