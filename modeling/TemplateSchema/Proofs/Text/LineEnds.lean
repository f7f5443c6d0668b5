import Mathlib
/-!
Line ends of two kinds. A text whose lines end at line feeds can have a carriage return in front of
each of them. What holds no line end, and what a class of characters cuts out that tells the two
characters not apart, is found in both spellings at the same place.
-/
set_option autoImplicit false
namespace TemplateSchema.Text

variable {cs word tail : List Char} {p : Char → Bool}

-- A carriage return in front of every line feed.
def paired : List Char → List Char
  | [] => []
  | c :: rest => if c = '\n' then '\r' :: '\n' :: paired rest else c :: paired rest

def pairedText (s : String) : String :=
  String.ofList (paired s.toList)

@[elab_as_elim]
theorem feed_induction {motive : List Char → Prop} (nil : motive [])
    (feed : ∀ rest, motive rest → motive ('\n' :: rest))
    (other : ∀ c rest, c ≠ '\n' → motive rest → motive (c :: rest)) (cs : List Char) : motive cs := by
  induction cs with
  | nil => exact nil
  | cons c rest ih =>
    by_cases isFeed : c = '\n'
    · rw [isFeed]
      exact feed rest ih
    · exact other c rest isFeed ih

@[simp] theorem pairedText_toList (s : String) : (pairedText s).toList = paired s.toList :=
  String.toList_ofList

@[simp] theorem paired_feed (rest : List Char) : paired ('\n' :: rest) = '\r' :: '\n' :: paired rest :=
  rfl

theorem paired_other {c : Char} (solid : c ≠ '\n') (rest : List Char) : paired (c :: rest) = c :: paired rest :=
  if_neg solid

theorem paired_append (xs ys : List Char) : paired (xs ++ ys) = paired xs ++ paired ys := by
  induction xs using feed_induction with
  | nil => rfl
  | feed xs ih => rw [List.cons_append,paired_feed,paired_feed,ih,List.cons_append,List.cons_append]
  | other c xs solid ih => rw [List.cons_append,paired_other solid,paired_other solid,ih,List.cons_append]

-- Neither of the two characters is in a text.
def Unbroken (cs : List Char) : Prop :=
  '\n' ∉ cs ∧ '\r' ∉ cs

instance : Decidable (Unbroken cs) :=
  inferInstanceAs (Decidable ('\n' ∉ cs ∧ '\r' ∉ cs))

theorem unbroken_cons {c : Char} : Unbroken (c :: cs) ↔ (c ≠ '\n' ∧ c ≠ '\r') ∧ Unbroken cs := by
  rw [Unbroken,Unbroken,List.mem_cons,List.mem_cons,not_or,not_or,and_and_and_comm,ne_comm,@ne_comm _ c '\r']

theorem unbroken_append {xs ys : List Char} (first : Unbroken xs) (second : Unbroken ys) : Unbroken (xs ++ ys) := by
  simp only [Unbroken,List.mem_append,not_or]
  exact ⟨⟨first.1,second.1⟩,first.2,second.2⟩

theorem paired_nil : paired cs = [] ↔ cs = [] := by
  cases cs using feed_induction with
  | nil => exact Iff.rfl
  | feed rest => simp
  | other c rest solid => simp [paired_other solid]

section Words

variable (unbroken : Unbroken word)
include unbroken

theorem paired_word (rest : List Char) : paired (word ++ rest) = word ++ paired rest := by
  induction word with
  | nil => rfl
  | cons c word ih =>
    obtain ⟨solid,others⟩ := unbroken_cons.mp unbroken
    rw [List.cons_append,paired_other solid.1,ih others]
    rfl

theorem paired_unbroken : paired word = word := by
  have whole := paired_word unbroken []
  rwa [List.append_nil,paired,List.append_nil] at whole

theorem paired_split (found : paired cs = word ++ tail) : ∃ rest, cs = word ++ rest ∧ tail = paired rest := by
  induction word generalizing cs with
  | nil => exact ⟨cs,rfl,found.symm⟩
  | cons w word ih =>
    obtain ⟨solid,others⟩ := unbroken_cons.mp unbroken
    cases cs with
    | nil => cases found
    | cons c cs =>
      by_cases feed : c = '\n'
      · subst feed
        exact absurd (List.cons.inj found).1.symm solid.2
      · rw [paired_other feed,List.cons_append] at found
        obtain ⟨rfl,later⟩ := List.cons.inj found
        obtain ⟨rest,rfl,same⟩ := ih others later
        exact ⟨rest,rfl,same⟩

theorem paired_starts : word <+: paired cs ↔ word <+: cs := by
  constructor
  · intro starts
    obtain ⟨tail,found⟩ := starts
    obtain ⟨rest,rfl,_⟩ := paired_split unbroken found.symm
    exact List.prefix_append word rest
  · intro starts
    obtain ⟨rest,rfl⟩ := starts
    rw [paired_word unbroken]
    exact List.prefix_append word _

theorem paired_drop (starts : word <+: cs) : (paired cs).drop word.length = paired (cs.drop word.length) := by
  obtain ⟨rest,rfl⟩ := starts
  rw [paired_word unbroken,List.drop_left,List.drop_left]

end Words

theorem paired_dropWhile (alike : p '\r' = p '\n') (cs : List Char) :
    (paired cs).dropWhile p = paired (cs.dropWhile p) := by
  induction cs using feed_induction with
  | nil => rfl
  | feed cs ih => cases taken : p '\n' <;> simp [alike,taken,ih]
  | other c cs solid ih => cases taken : p c <;> simp [paired_other solid,taken,ih]

theorem paired_takeWhile (alike : p '\r' = p '\n') (cs : List Char) :
    (paired cs).takeWhile p = paired (cs.takeWhile p) := by
  have parts := congrArg paired (@List.takeWhile_append_dropWhile _ p cs)
  rw [paired_append,← paired_dropWhile alike] at parts
  exact List.append_cancel_right ((@List.takeWhile_append_dropWhile _ p (paired cs)).trans parts.symm)

end TemplateSchema.Text
