import Mathlib.Data.List.TakeWhile
import TemplateSchema.Proofs.Chain.Grammar
import TemplateSchema.Proofs.Success
/-!
How text is cut into tokens. What is behind a token does not change how the token is read, unless it
goes on with it; so blanks around a text do not count, and a piece that is cut out of a text between
tokens holds the tokens that it held there.
-/
set_option autoImplicit false
namespace TemplateSchema.Chain

section Lengths

variable {xs ys : List Char} {quote : Char}

theorem digits_length (xs : List Char) : digitsLength xs ≤ xs.length :=
  (List.takeWhile_sublist _).length_le

theorem fraction_length (xs : List Char) : fractionLength xs ≤ xs.length := by
  cases xs with
  | nil => exact Nat.le_refl _
  | cons c rest =>
    have less := digits_length rest
    simp only [fractionLength,List.length_cons]
    split <;> omega

theorem exponent_length (xs : List Char) : exponentLength xs ≤ xs.length := by
  cases xs with
  | nil => exact Nat.le_refl _
  | cons e rest =>
    have less := digits_length (rest.drop (signLength rest))
    rw [List.length_drop] at less
    simp only [exponentLength,List.length_cons]
    split <;> omega

theorem number_length (xs : List Char) : numberLength xs ≤ xs.length := by
  have whole := digits_length xs
  have fraction := fraction_length (xs.drop (digitsLength xs))
  have exponent := exponent_length (xs.drop (digitsLength xs + fractionLength (xs.drop (digitsLength xs))))
  rw [List.length_drop] at fraction exponent
  unfold numberLength
  simp only
  omega

theorem quoted_length {quote : Char} : ∀ {xs : List Char} {n : Nat}, quotedLength? quote xs = some n →
    0 < n ∧ n ≤ xs.length
  | [], _, read => by cases read
  | [c], _, read => by
    unfold quotedLength? at read
    split at read
    · cases read; simp
    · cases read
  | c :: d :: rest, _, read => by
    unfold quotedLength? at read
    split at read
    · cases read; simp
    · split at read
      · split at read
        · cases read
        · obtain ⟨n,tail,rfl⟩ := Option.map_eq_some_iff.mp read
          have := quoted_length tail
          simp only [List.length_cons]
          omega
      · obtain ⟨n,tail,rfl⟩ := Option.map_eq_some_iff.mp read
        have := quoted_length tail
        simp only [List.length_cons] at this ⊢
        omega

theorem lexeme_length {c : Char} {kind : TokenKind} {n : Nat} (read : lexeme? c xs = some (kind,n)) :
    n ≤ xs.length := by
  unfold lexeme? at read
  split at read
  · obtain ⟨n,quoted,same⟩ := Option.map_eq_some_iff.mp read
    cases same
    exact (quoted_length quoted).2
  · split at read
    · cases read; exact number_length xs
    · split at read
      · split at read
        · cases read; exact number_length xs
        · cases read
      · split at read
        · cases read; exact (List.takeWhile_sublist _).length_le
        · split at read
          · cases read; exact Nat.zero_le _
          · cases read

end Lengths

section Prefixes

variable {xs ys : List Char}

theorem span_within {p : Char → Bool} (inside : ((xs ++ ys).takeWhile p).length ≤ xs.length) :
    (xs ++ ys).takeWhile p = xs.takeWhile p := by
  rw [List.takeWhile_append] at inside ⊢
  split
  · rename_i whole
    rw [if_pos whole,List.length_append] at inside
    have none_ : ys.takeWhile p = [] := List.length_eq_zero_iff.mp (by omega)
    rw [none_,List.append_nil,(List.takeWhile_sublist p).eq_of_length whole]
  · rfl

theorem quoted_within {quote : Char} : ∀ {xs : List Char} {n : Nat}, quotedLength? quote (xs ++ ys) = some n →
    n ≤ xs.length → quotedLength? quote xs = some n
  | [], n, read, inside => by
    have := (quoted_length read).1
    simp only [List.length_nil] at inside
    omega
  | [c], n, read, inside => by
    cases ys with
    | nil => exact read
    | cons d rest =>
      simp only [List.singleton_append,quotedLength?,List.length_singleton] at read inside ⊢
      split at read
      · rename_i closing
        rw [if_pos closing]
        exact read
      · split at read
        · split at read
          · cases read
          · obtain ⟨m,_,rfl⟩ := Option.map_eq_some_iff.mp read
            omega
        · obtain ⟨m,tail,rfl⟩ := Option.map_eq_some_iff.mp read
          have := (quoted_length tail).1
          omega
  | c :: d :: rest, n, read, inside => by
    simp only [List.cons_append,quotedLength?,List.length_cons] at read inside ⊢
    split at read
    · rename_i closing
      rw [if_pos closing]
      exact read
    · rename_i open_
      rw [if_neg open_]
      split at read
      · rename_i hidden
        rw [if_pos hidden]
        split at read
        · cases read
        · rename_i noFeed
          rw [if_neg noFeed]
          obtain ⟨m,tail,rfl⟩ := Option.map_eq_some_iff.mp read
          rw [quoted_within tail (by omega)]
          rfl
      · rename_i plain
        rw [if_neg plain]
        obtain ⟨m,tail,rfl⟩ := Option.map_eq_some_iff.mp read
        have same : quotedLength? quote (d :: rest) = some m :=
          quoted_within tail (by simp only [List.length_cons]; omega)
        rw [same]
        rfl

theorem digits_within (inside : digitsLength (xs ++ ys) ≤ xs.length) : digitsLength (xs ++ ys) = digitsLength xs :=
  congrArg List.length (span_within inside)

theorem digits_append (xs ys : List Char) : digitsLength xs ≤ digitsLength (xs ++ ys) := by
  unfold digitsLength
  rw [List.takeWhile_append]
  split
  · rename_i whole
    rw [whole,List.length_append]
    omega
  · exact Nat.le_refl _

theorem fraction_within (inside : fractionLength (xs ++ ys) ≤ xs.length) :
    fractionLength (xs ++ ys) = fractionLength xs := by
  cases xs with
  | nil => exact Nat.le_zero.mp inside
  | cons c rest =>
    have less := digits_append rest ys
    simp only [List.cons_append,fractionLength,List.length_cons] at inside ⊢
    split at inside
    · rename_i point
      have same : digitsLength (rest ++ ys) = digitsLength rest := digits_within (by omega)
      rw [same]
    · rename_i noFraction
      rw [if_neg noFraction,if_neg (fun fraction => noFraction ⟨fraction.1,by omega⟩)]

theorem exponent_within (inside : exponentLength (xs ++ ys) ≤ xs.length) :
    exponentLength (xs ++ ys) = exponentLength xs := by
  cases xs with
  | nil => exact Nat.le_zero.mp inside
  | cons e rest =>
    cases rest with
    | nil =>
      simp only [List.singleton_append,exponentLength,List.length_singleton] at inside ⊢
      split at inside
      · omega
      · rename_i noExponent
        rw [if_neg noExponent]
        simp [digitsLength]
    | cons s tail =>
      have room : signLength (s :: tail) ≤ (s :: tail).length := by
        simp only [signLength,List.length_cons]
        split <;> omega
      have sign : signLength (s :: tail ++ ys) = signLength (s :: tail) := rfl
      have less := digits_append ((s :: tail).drop (signLength (s :: tail))) ys
      rw [List.cons_append] at inside ⊢
      simp only [exponentLength,sign] at inside ⊢
      rw [List.length_cons] at inside
      rw [List.drop_append_of_le_length room] at inside ⊢
      split at inside
      · have same : digitsLength ((s :: tail).drop (signLength (s :: tail)) ++ ys) =
            digitsLength ((s :: tail).drop (signLength (s :: tail))) :=
          digits_within (by rw [List.length_drop]; omega)
        rw [same]
      · rename_i noExponent
        rw [if_neg noExponent,if_neg (fun exponent => noExponent ⟨exponent.1,by omega⟩)]

theorem number_within (inside : numberLength (xs ++ ys) ≤ xs.length) : numberLength (xs ++ ys) = numberLength xs := by
  unfold numberLength at inside ⊢
  simp only at inside ⊢
  have whole : digitsLength (xs ++ ys) = digitsLength xs := digits_within (by omega)
  rw [whole] at inside ⊢
  have room := digits_length xs
  rw [List.drop_append_of_le_length room] at inside ⊢
  have fraction : fractionLength (xs.drop (digitsLength xs) ++ ys) = fractionLength (xs.drop (digitsLength xs)) :=
    fraction_within (by rw [List.length_drop]; omega)
  rw [fraction] at inside ⊢
  have more := fraction_length (xs.drop (digitsLength xs))
  rw [List.length_drop] at more
  rw [List.drop_append_of_le_length (by omega)] at inside ⊢
  rw [exponent_within (by rw [List.length_drop]; omega)]

-- A token is read alike without what is behind it.
theorem lexeme_within {c : Char} {kind : TokenKind} {n : Nat} (read : lexeme? c (xs ++ ys) = some (kind,n))
    (inside : n ≤ xs.length) : lexeme? c xs = some (kind,n) := by
  unfold lexeme? at read ⊢
  split at read
  · rename_i isQuote
    obtain ⟨m,quoted,same⟩ := Option.map_eq_some_iff.mp read
    cases same
    rw [if_pos isQuote,quoted_within quoted inside]
    rfl
  · rename_i noQuote
    rw [if_neg noQuote]
    split at read
    · rename_i digit
      cases read
      rw [if_pos digit,number_within inside]
    · rename_i noDigit
      rw [if_neg noDigit]
      split at read
      · rename_i minus
        rw [if_pos minus]
        split at read
        · rename_i digits
          cases read
          have same := number_within inside
          have whole : digitsLength (xs ++ ys) = digitsLength xs :=
            digits_within (by unfold numberLength at inside; simp only at inside; omega)
          rw [if_pos (whole ▸ digits),same]
        · cases read
      · rename_i noMinus
        rw [if_neg noMinus]
        split at read
        · rename_i starts
          cases read
          rw [if_pos starts,span_within inside]
        · rename_i noName
          rw [if_neg noName]
          exact read

theorem lexeme_cut {c : Char} {rest : List Char} {kind : TokenKind} {n m : Nat} (less : n ≤ m)
    (read : lexeme? c rest = some (kind,n)) : lexeme? c (rest.take m) = some (kind,n) := by
  have inside := lexeme_length read
  rw [← List.take_append_drop m rest] at read
  exact lexeme_within read (by rw [List.length_take]; omega)

end Prefixes

section Blanks

def blankCodes : List Nat :=
  [0x09,0x0A,0x0B,0x0C,0x0D,0x1C,0x1D,0x1E,0x1F,0x20,0x85,0xA0,0x1680,0x2000,0x2001,0x2002,0x2003,0x2004,0x2005,
    0x2006,0x2007,0x2008,0x2009,0x200A,0x2028,0x2029,0x202F,0x205F,0x3000]

theorem blank_code {c : Char} (blank : Text.isBlank c = true) : c.toNat ∈ blankCodes := by
  simp only [Text.isBlank,Text.isSpace,Bool.or_eq_true,Bool.and_eq_true,decide_eq_true_eq,beq_iff_eq] at blank
  simp only [blankCodes,List.mem_cons,List.not_mem_nil,or_false]
  omega

-- A blank neither begins nor goes on with any token but a quoted one.
structure IsInert (c : Char) : Prop where
  digit : Text.isDigit c = false
  name : continuesName c = false
  special : c ∉ ['"','\'','\\','.','e','E','+','-']

theorem blank_inert {c : Char} (blank : Text.isBlank c = true) : IsInert c := by
  have all : ∀ n ∈ blankCodes, Text.isDigit (Char.ofNat n) = false ∧ continuesName (Char.ofNat n) = false ∧
      Char.ofNat n ∉ ['"','\'','\\','.','e','E','+','-'] := by decide
  obtain ⟨digit,name,special⟩ := all _ (blank_code blank)
  rw [Char.ofNat_toNat] at digit name special
  exact ⟨digit,name,special⟩

variable {blanks : List Char}

theorem span_blanks {p : Char → Bool} (xs : List Char) (stops : ∀ b ∈ blanks, p b = false) :
    (xs ++ blanks).takeWhile p = xs.takeWhile p := by
  refine span_within ?_
  rw [List.takeWhile_append]
  split
  · have none_ : blanks.takeWhile p = [] := by
      cases blanks with
      | nil => rfl
      | cons b rest => simp [stops b (by simp)]
    simp [none_]
  · exact (List.takeWhile_sublist p).length_le

theorem digits_blanks (blank : ∀ b ∈ blanks, Text.isBlank b = true) (xs : List Char) :
    digitsLength (xs ++ blanks) = digitsLength xs :=
  congrArg List.length (span_blanks xs fun b member => (blank_inert (blank b member)).digit)

theorem blank_not {b c : Char} (blank : Text.isBlank b = true)
    (special : c ∈ ['"','\'','\\','.','e','E','+','-']) : b ≠ c := by
  rintro rfl
  exact (blank_inert blank).special special

theorem quoted_blank {quote : Char} (isQuote : quote = '"' ∨ quote = '\'')
    (blank : ∀ b ∈ blanks, Text.isBlank b = true) : quotedLength? quote blanks = none := by
  induction blanks with
  | nil => rfl
  | cons b rest ih =>
    have open_ : b ≠ quote := by
      rcases isQuote with rfl | rfl <;> exact blank_not (blank b (by simp)) (by simp)
    have plain : b ≠ '\\' := blank_not (blank b (by simp)) (by simp)
    have later := ih fun c member => blank c (by simp [member])
    cases rest with
    | nil => simp [quotedLength?,open_]
    | cons c rest => simpa [quotedLength?,open_,plain] using later

theorem quoted_blanks {quote : Char} (isQuote : quote = '"' ∨ quote = '\'')
    (blank : ∀ b ∈ blanks, Text.isBlank b = true) :
    ∀ xs : List Char, quotedLength? quote (xs ++ blanks) = quotedLength? quote xs
  | [] => quoted_blank isQuote blank
  | [c] => by
    cases blanks with
    | nil => rfl
    | cons b rest =>
      have later := quoted_blank isQuote blank
      have latest_ := quoted_blank isQuote fun c member => blank c (List.mem_cons_of_mem b member)
      simp [quotedLength?,later,latest_]
  | c :: d :: rest => by
    have later := quoted_blanks isQuote blank rest
    have next := quoted_blanks isQuote blank (d :: rest)
    rw [List.cons_append] at next
    simp only [List.cons_append,quotedLength?,later,next]

theorem fraction_blanks (blank : ∀ b ∈ blanks, Text.isBlank b = true) (xs : List Char) :
    fractionLength (xs ++ blanks) = fractionLength xs := by
  cases xs with
  | nil =>
    cases blanks with
    | nil => rfl
    | cons b rest =>
      have noPoint : b ≠ '.' := blank_not (blank b (by simp)) (by simp)
      simp [fractionLength,noPoint]
  | cons c rest => simp only [List.cons_append,fractionLength,digits_blanks blank]

theorem exponent_blanks (blank : ∀ b ∈ blanks, Text.isBlank b = true) (xs : List Char) :
    exponentLength (xs ++ blanks) = exponentLength xs := by
  cases xs with
  | nil =>
    cases blanks with
    | nil => rfl
    | cons b rest =>
      have small : b ≠ 'e' := blank_not (blank b (by simp)) (by simp)
      have great : b ≠ 'E' := blank_not (blank b (by simp)) (by simp)
      simp [exponentLength,small,great]
  | cons e rest =>
    cases rest with
    | nil =>
      have none_ : digitsLength (blanks.drop (signLength blanks)) = 0 := by
        have rest : ∀ b ∈ blanks.drop (signLength blanks), Text.isBlank b = true :=
          fun b member => blank b (List.mem_of_mem_drop member)
        exact digits_blanks rest []
      have empty : digitsLength [] = 0 := rfl
      simp [exponentLength,none_,empty]
    | cons s tail =>
      have room : signLength (s :: tail) ≤ (s :: tail).length := by
        simp only [signLength,List.length_cons]
        split <;> omega
      have sign : signLength (s :: tail ++ blanks) = signLength (s :: tail) := rfl
      rw [List.cons_append]
      simp only [exponentLength,sign]
      rw [List.drop_append_of_le_length room,digits_blanks blank]

theorem number_blanks (blank : ∀ b ∈ blanks, Text.isBlank b = true) (xs : List Char) :
    numberLength (xs ++ blanks) = numberLength xs := by
  have whole := digits_length xs
  have fraction := fraction_length (xs.drop (digitsLength xs))
  rw [List.length_drop] at fraction
  unfold numberLength
  simp only [digits_blanks blank]
  rw [List.drop_append_of_le_length whole,fraction_blanks blank,List.drop_append_of_le_length (by omega),
    exponent_blanks blank]

theorem lexeme_blanks (blank : ∀ b ∈ blanks, Text.isBlank b = true) (c : Char) (xs : List Char) :
    lexeme? c (xs ++ blanks) = lexeme? c xs := by
  unfold lexeme?
  by_cases isQuote : c = '"' ∨ c = '\''
  · rw [if_pos isQuote,if_pos isQuote,quoted_blanks isQuote blank]
  · rw [if_neg isQuote,if_neg isQuote,number_blanks blank,digits_blanks blank,
      span_blanks xs fun b member => (blank_inert (blank b member)).name]

end Blanks

end TemplateSchema.Chain
