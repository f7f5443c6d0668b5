import TemplateSchema.Proofs.Json.Quoted
/-!
The strings of JSON by a grammar. A string ends at the first quote that is not escaped; half a surrogate
pair is taken on its own unless the other half stands behind it. The reader takes these and no others.
-/
set_option autoImplicit false
namespace TemplateSchema.Json

variable {cs rest : List Char} {content : List Point}

-- A unit is the first half of a pair where a second half stands behind it.
def IsLone (unit : Nat) (behind : List Char) : Prop :=
  isHighSurrogate unit = true → ∀ e f g h low tail, behind = ['\\','u',e,f,g,h] ++ tail → tail ≠ [] →
    codeUnit? e f g h = some low → isLowSurrogate low = false

-- The characters of a string up to its closing quote, with the points that they stand for.
inductive Body : List Char → List Point → List Char → Prop where
  | close (rest : List Char) : Body ('"' :: rest) [] rest
  | plain {c : Char} {cs rest : List Char} {content : List Point} (printable : 0x20 ≤ c.toNat) (quote : c ≠ '"')
      (backslash : c ≠ '\\') (more : Body cs content rest) : Body (c :: cs) (.char c :: content) rest
  | escape {c e : Char} {cs rest : List Char} {content : List Point} (simple : simpleEscape? c = some e)
      (more : Body cs content rest) : Body (['\\',c] ++ cs) (.char e :: content) rest
  | unit {a b c d : Char} {unit : Nat} {cs rest : List Char} {content : List Point}
      (read : codeUnit? a b c d = some unit) (lone : IsLone unit cs) (more : Body cs content rest) :
      Body (['\\','u',a,b,c,d] ++ cs) (.ofCode unit :: content) rest
  | pair {a b c d e f g h : Char} {high low : Nat} {cs rest : List Char} {content : List Point}
      (first : codeUnit? a b c d = some high) (second : codeUnit? e f g h = some low)
      (isHigh : isHighSurrogate high = true) (isLow : isLowSurrogate low = true) (more : Body cs content rest) :
      Body (['\\','u',a,b,c,d,'\\','u',e,f,g,h] ++ cs) (.char (charOfPair high low) :: content) rest

theorem body_some (body : Body cs content rest) : cs ≠ [] := by
  cases body <;> exact List.cons_ne_nil _ _

theorem prefixed_ok {p : Point} {read : Except Halt (List Point × List Char)}
    (found : prefixed p read = .ok (content,rest)) : ∃ more, read = .ok (more,rest) ∧ content = p :: more := by
  cases read with
  | error halt => cases found
  | ok parts =>
    cases found
    exact ⟨_,rfl,rfl⟩

theorem body_read {opening : Nat} (read : stringBody opening cs = .ok (content,rest)) : Body cs content rest := by
  fun_induction stringBody opening cs generalizing content with
  | case1 | case3 | case4 | case8 | case10 | case11 | case12 | case14 => cases read
  | case2 rest =>
    cases read
    exact .close _
  | case5 a b c d e f g h i behind high first isHigh low second isLow ih =>
    obtain ⟨more,found,rfl⟩ := prefixed_ok read
    exact .pair first second isHigh isLow (ih found)
  | case6 a b c d e f g h i behind high first isHigh low second notLow ih =>
    obtain ⟨more,found,rfl⟩ := prefixed_ok read
    refine .unit first ?_ (ih found)
    intro _ _ _ _ _ _ _ same _ other
    cases same
    rw [second] at other
    cases other
    exact Bool.eq_false_iff.mpr notLow
  | case7 a b c d e f g h i behind unit first single ih =>
    obtain ⟨more,found,rfl⟩ := prefixed_ok read
    exact .unit first (fun isHigh => absurd isHigh single) (ih found)
  | case9 a b c d e behind unpaired unit first ih =>
    obtain ⟨more,found,rfl⟩ := prefixed_ok read
    refine .unit first ?_ (ih found)
    intro _ _ _ _ _ _ tail same some_
    obtain ⟨i,tail,rfl⟩ := List.exists_cons_of_ne_nil some_
    cases same
    exact (unpaired _ _ _ _ _ _ rfl rfl).elim
  | case13 c behind _ _ _ e simple ih =>
    obtain ⟨more,found,rfl⟩ := prefixed_ok read
    exact .escape simple (ih found)
  | case15 c behind quote _ _ _ last escaped printable ih =>
    obtain ⟨more,found,rfl⟩ := prefixed_ok read
    refine .plain (Nat.le_of_not_lt printable) quote ?_ (ih found)
    intro backslash
    cases behind with
    | nil => exact last backslash rfl
    | cons d behind => exact escaped d behind backslash rfl

theorem unit_spelled {a b c d : Char} (body : Body ('\\' :: 'u' :: a :: b :: c :: d :: cs) content rest) :
    ∃ unit, codeUnit? a b c d = some unit := by
  cases body with
  | plain _ _ backslash _ => exact absurd rfl backslash
  | escape simple _ => cases simple
  | unit read _ _ => exact ⟨_,read⟩
  | pair first _ _ _ _ => exact ⟨_,first⟩

theorem body_lone {opening : Nat} {a b c d : Char} {unit : Nat} (read : codeUnit? a b c d = some unit)
    (lone : IsLone unit cs) (more : stringBody opening cs = .ok (content,rest)) :
    stringBody opening (['\\','u',a,b,c,d] ++ cs) = .ok (.ofCode unit :: content,rest) := by
  have body := body_read more
  obtain ⟨e,tail,rfl⟩ := List.exists_cons_of_ne_nil (body_some body)
  rw [stringBody.eq_def]
  split
  · rename_i same; cases same
  · rename_i same; cases same
  · rename_i same
    cases same
    obtain ⟨low,second⟩ := unit_spelled body
    simp only [read,second,more]
    cases isHigh : isHighSurrogate unit with
    | false => rfl
    | true =>
      have notLow := lone isHigh _ _ _ _ low _ rfl (List.cons_ne_nil _ _) second
      simp only [notLow]
      rfl
  · rename_i same
    cases same
    simp only [read,more]
    rfl
  · rename_i other same
    cases same
    exact (other _ _ _ _ _ _ rfl).elim
  · rename_i same; cases same
  · rename_i other same
    cases same
    exact (other rfl).elim
  · rename_i other same
    cases same
    exact (other _ _ rfl rfl).elim

-- The reader of strings takes the strings of the grammar, and tells where it starts only when it fails.
theorem body_exact {opening : Nat} : stringBody opening cs = .ok (content,rest) ↔ Body cs content rest := by
  constructor
  · exact body_read
  · intro body
    induction body with
    | close rest => rfl
    | plain printable quote backslash _ ih =>
      rw [body_plain printable quote backslash,ih]
      rfl
    | escape simple _ ih =>
      exact (body_escape simple).trans (congrArg (prefixed _) ih)
    | unit read lone _ ih => exact body_lone read lone ih
    | pair first second isHigh isLow more ih =>
      exact (body_pair opening first second isHigh isLow (body_some more)).trans (congrArg (prefixed _) ih)

theorem body_shorter (body : Body cs content rest) : rest.length < cs.length := by
  induction body <;> simp only [List.length_append,List.length_cons] at * <;> omega

theorem body_malformed {opening : Nat} {halt : Halt} (refused : stringBody opening cs = .error halt) :
    ∃ reason left, halt = .at_ reason left := by
  have within {p : Point} {read : Except Halt (List Point × List Char)} (refused : prefixed p read = .error halt) :
      read = .error halt := by
    cases read <;> cases refused
    rfl
  fun_induction stringBody opening cs with
  | case2 => cases refused
  | case1 | case3 | case4 | case8 | case10 | case11 | case12 | case14 =>
    cases refused
    exact ⟨_,_,rfl⟩
  | case5 | case6 | case7 | case9 | case13 | case15 =>
    rename_i ih
    exact ih (within refused)

end TemplateSchema.Json
