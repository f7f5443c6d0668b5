import TemplateSchema.Proofs.Chain.Tokens
/-!
The tokens of a whole text, as a relation that each character is accounted for by.
-/
set_option autoImplicit false
namespace TemplateSchema.Chain

inductive Lexed : Nat → List Char → List Token → Prop where
  | done {offset : Nat} : Lexed offset [] []
  | blank {offset : Nat} {c : Char} {rest : List Char} {ts : List Token} (isBlank : Text.isBlank c = true)
      (others : Lexed (offset + 1) rest ts) : Lexed offset (c :: rest) ts
  | token {offset : Nat} {c : Char} {rest : List Char} {kind : TokenKind} {n : Nat} {ts : List Token}
      (solid : Text.isBlank c = false) (read : lexeme? c rest = some (kind,n))
      (others : Lexed (offset + 1 + n) (rest.drop n) ts) :
      Lexed offset (c :: rest) (⟨kind,c :: rest.take n,offset,offset + 1 + n⟩ :: ts)

theorem text_stop {offset n : Nat} {c : Char} {rest : List Char} (inside : n ≤ rest.length) :
    offset + (c :: rest.take n).length = offset + 1 + n := by
  rw [List.length_cons,List.length_take]
  omega

theorem tokensFrom_nil (offset : Nat) : tokensFrom offset [] = .ok [] :=
  tokensFrom.eq_def offset []

theorem tokensFrom_cons (offset : Nat) (c : Char) (rest : List Char) :
    tokensFrom offset (c :: rest) =
      if Text.isBlank c then tokensFrom (offset + 1) rest
      else match lexeme? c rest with
        | none => .error (.character c offset)
        | some (kind,n) =>
          (tokensFrom (offset + (c :: rest.take n).length) (rest.drop n)).map
            fun ts => ⟨kind,c :: rest.take n,offset,offset + (c :: rest.take n).length⟩ :: ts :=
  tokensFrom.eq_def offset (c :: rest)

theorem tokensFrom_exact {offset : Nat} {cs : List Char} {ts : List Token} :
    tokensFrom offset cs = .ok ts ↔ Lexed offset cs ts := by
  constructor
  · intro read
    induction offset,cs using tokensFrom.induct generalizing ts with
    | case1 offset =>
      rw [tokensFrom_nil] at read
      cases read
      exact .done
    | case2 offset c rest isBlank ih =>
      rw [tokensFrom_cons,if_pos isBlank] at read
      exact .blank isBlank (ih read)
    | case3 offset c rest solid none_ =>
      rw [tokensFrom_cons,if_neg solid,none_] at read
      cases read
    | case4 offset c rest solid kind n some_ text =>
      rename_i ih
      rw [tokensFrom_cons,if_neg solid,some_] at read
      obtain ⟨us,others,rfl⟩ := Success.map_exact.mp read
      have stop : offset + text.length = offset + 1 + n := text_stop (lexeme_length some_)
      have later := ih others
      rw [stop] at later
      rw [text_stop (lexeme_length some_)]
      exact .token (by simpa using solid) some_ later
  · intro lexed
    induction lexed with
    | done => exact tokensFrom_nil _
    | blank isBlank _ ih => rw [tokensFrom_cons,if_pos isBlank,ih]
    | @token offset c rest kind n ts solid read _ ih =>
      rw [tokensFrom_cons,if_neg (by simp [solid]),read]
      simp only [text_stop (lexeme_length read),ih]
      rfl

namespace Lexed

variable {offset : Nat} {cs : List Char} {ts : List Token}

-- What is read does not depend on where in a text it stands.
theorem shift (lexed : Lexed offset cs ts) (other : Nat) :
    ∃ us, Lexed other cs us ∧ us.map Token.lexeme = ts.map Token.lexeme := by
  induction lexed generalizing other with
  | done => exact ⟨[],.done,rfl⟩
  | blank isBlank _ ih =>
    obtain ⟨us,later,same⟩ := ih (other + 1)
    exact ⟨us,.blank isBlank later,same⟩
  | @token offset c rest kind n ts solid read _ ih =>
    obtain ⟨us,later,same⟩ := ih (other + 1 + n)
    exact ⟨_,.token solid read later,by simp [Token.lexeme,same]⟩

section Trailing

variable {blanks : List Char}

theorem blanks_exact (blank : ∀ b ∈ blanks, Text.isBlank b = true) : Lexed offset blanks ts ↔ ts = [] := by
  induction blanks generalizing offset with
  | nil =>
    constructor
    · intro lexed
      cases lexed
      rfl
    · rintro rfl
      exact .done
  | cons b rest ih =>
    have isBlank := blank b (by simp)
    have others := @ih (offset + 1) fun c member => blank c (by simp [member])
    constructor
    · intro lexed
      cases lexed with
      | blank _ later => exact others.mp later
      | token solid => rw [isBlank] at solid; cases solid
    · intro nothing
      exact .blank isBlank (others.mpr nothing)

theorem before_blanks (blank : ∀ b ∈ blanks, Text.isBlank b = true) (lexed : Lexed offset cs ts) :
    Lexed offset (cs ++ blanks) ts := by
  induction lexed with
  | done => exact (blanks_exact blank).mpr rfl
  | blank isBlank _ ih => exact .blank isBlank ih
  | @token offset c rest kind n ts solid read _ ih =>
    have inside := lexeme_length read
    rw [← List.drop_append_of_le_length inside] at ih
    rw [← lexeme_blanks blank] at read
    have same : (rest ++ blanks).take n = rest.take n := List.take_append_of_le_length inside
    rw [List.cons_append,← same]
    exact .token solid read ih

-- No token begins in front of blanks and ends among them.
theorem without_blanks (blank : ∀ b ∈ blanks, Text.isBlank b = true) (lexed : Lexed offset (cs ++ blanks) ts) :
    Lexed offset cs ts := by
  generalize whole : cs ++ blanks = all at lexed
  induction lexed generalizing cs with
  | done =>
    rw [(List.append_eq_nil_iff.mp whole).1]
    exact .done
  | @blank offset c rest ts isBlank others ih =>
    cases cs with
    | nil =>
      obtain rfl : blanks = c :: rest := whole
      rw [(blanks_exact blank).mp (.blank isBlank others)]
      exact .done
    | cons c rest =>
      rw [List.cons_append] at whole
      obtain ⟨rfl,rfl⟩ := List.cons.inj whole
      exact .blank isBlank (ih rfl)
  | @token offset c rest kind n ts solid read others ih =>
    cases cs with
    | nil =>
      obtain rfl : blanks = c :: rest := whole
      cases (blanks_exact blank).mp (.token solid read others)
    | cons _ rest =>
      rw [List.cons_append] at whole
      obtain ⟨rfl,rfl⟩ := List.cons.inj whole
      rw [lexeme_blanks blank] at read
      have inside := lexeme_length read
      rw [List.take_append_of_le_length inside]
      exact .token solid read (ih (List.drop_append_of_le_length inside).symm)

end Trailing

-- The tokens behind some of a text, and the text that they are in.
theorem behind {before after : List Token} {t : Token} (lexed : Lexed offset cs (before ++ t :: after)) :
    offset ≤ t.start ∧ Lexed t.start (cs.drop (t.start - offset)) (t :: after) := by
  generalize whole : before ++ t :: after = all at lexed
  induction lexed generalizing before with
  | done => simp at whole
  | @blank offset c rest ts isBlank _ ih =>
    obtain ⟨later,lexed⟩ := ih whole
    refine ⟨by omega,?_⟩
    have step : t.start - offset = t.start - (offset + 1) + 1 := by omega
    rw [step,List.drop_succ_cons]
    exact lexed
  | @token offset c rest kind n ts solid read others ih =>
    cases before with
    | nil =>
      cases whole
      refine ⟨Nat.le_refl _,?_⟩
      rw [Nat.sub_self]
      exact .token solid read others
    | cons first before =>
      cases whole
      obtain ⟨later,lexed⟩ := ih rfl
      refine ⟨by omega,?_⟩
      have step : t.start - offset = n + (t.start - (offset + 1 + n)) + 1 := by omega
      rw [step,List.drop_succ_cons,← List.drop_drop]
      exact lexed

-- The tokens of a text up to one of them, and the text that they are in.
theorem upto {before after : List Token} {t : Token} (lexed : Lexed offset cs (before ++ t :: after)) :
    offset < t.stop ∧ Lexed offset (cs.take (t.stop - offset)) (before ++ [t]) := by
  generalize whole : before ++ t :: after = all at lexed
  induction lexed generalizing before with
  | done => simp at whole
  | @blank offset c rest ts isBlank _ ih =>
    obtain ⟨later,lexed⟩ := ih whole
    refine ⟨by omega,?_⟩
    have step : t.stop - offset = t.stop - (offset + 1) + 1 := by omega
    rw [step,List.take_succ_cons]
    exact .blank isBlank lexed
  | @token offset c rest kind n ts solid read others ih =>
    have inside := lexeme_length read
    cases before with
    | nil =>
      cases whole
      refine ⟨by simp only; omega,?_⟩
      have step : offset + 1 + n - offset = n + 1 := by omega
      simp only [step,List.take_succ_cons,List.nil_append]
      have nothing : Lexed (offset + 1 + n) ((rest.take n).drop n) [] := by
        rw [List.drop_take,Nat.sub_self,List.take_zero]
        exact .done
      have cut := Lexed.token solid (lexeme_cut (Nat.le_refl n) read) nothing
      rwa [List.take_take,Nat.min_self] at cut
    | cons first before =>
      cases whole
      obtain ⟨later,lexed⟩ := ih rfl
      refine ⟨by omega,?_⟩
      have step : t.stop - offset = n + (t.stop - (offset + 1 + n)) + 1 := by omega
      rw [step,List.take_succ_cons]
      have others_ : Lexed (offset + 1 + n) ((rest.take (n + (t.stop - (offset + 1 + n)))).drop n) (before ++ [t]) := by
        rw [List.drop_take,Nat.add_sub_cancel_left]
        exact lexed
      have cut := Lexed.token solid (lexeme_cut (Nat.le_add_right n _) read) others_
      rwa [List.take_take,Nat.min_eq_left (Nat.le_add_right n _)] at cut

-- A piece of a text from the start of one token to the end of another.
theorem slice {before used after : List Token} {first last : Token}
    (lexed : Lexed offset cs (before ++ used ++ after)) (isFirst : used.head? = some first)
    (isLast : used.getLast? = some last) :
    Lexed first.start ((cs.drop (first.start - offset)).take (last.stop - first.start)) used := by
  obtain ⟨others,rfl⟩ := List.head?_eq_some_iff.mp isFirst
  rw [List.append_assoc,List.cons_append] at lexed
  have rest := lexed.behind.2
  rw [← List.cons_append] at rest
  obtain ⟨front,same⟩ := List.getLast?_eq_some_iff.mp isLast
  rw [same,List.append_assoc] at rest
  rw [same]
  exact rest.upto.2

end Lexed

theorem lexeme_mark {c : Char} {rest : List Char} {kind : TokenKind} {n : Nat} (single : isMark c = true)
    (read : lexeme? c rest = some (kind,n)) : kind = .mark := by
  have marks : ['.','(',')','\x7b','\x7d','[',']',',',':'].all (fun m =>
      m != '"' && m != '\'' && !Text.isDigit m && m != '-' && !startsName m) = true := by decide
  have listed : c ∈ ['.','(',')','\x7b','\x7d','[',']',',',':'] := by simpa [isMark,or_assoc] using single
  have plain := List.all_eq_true.mp marks c listed
  simp only [Bool.and_eq_true,bne_iff_ne,Bool.not_eq_true',← Bool.not_eq_true] at plain
  obtain ⟨⟨⟨⟨double,apostrophe⟩,digit⟩,minus⟩,name⟩ := plain
  rw [lexeme?,if_neg (not_or.mpr ⟨double,apostrophe⟩),if_neg digit,if_neg minus,if_neg name,if_pos single] at read
  cases read
  rfl

-- Only a mark looks like one.
def Token.IsFormed (t : Token) : Prop :=
  ∀ c, Chain.isMark c = true → t.text = [c] → t.kind = .mark

theorem Lexed.formed {offset : Nat} {cs : List Char} {ts : List Token} (lexed : Lexed offset cs ts) :
    ∀ t ∈ ts, t.IsFormed := by
  induction lexed with
  | done => simp
  | blank _ _ ih => exact ih
  | @token offset c rest kind n ts solid read _ ih =>
    intro t member
    rcases List.mem_cons.mp member with rfl | later
    · intro m single text
      obtain ⟨rfl,_⟩ := List.cons.inj text
      exact lexeme_mark single read
    · exact ih t later

-- Some text, and what it is made of apart from blanks.
def Scans (cs : List Char) (ls : List Lexeme) : Prop :=
  ∃ ts, tokens cs = .ok ts ∧ ts.map Token.lexeme = ls

theorem scans_exact (offset : Nat) {cs : List Char} {ls : List Lexeme} :
    Scans cs ls ↔ ∃ ts, Lexed offset cs ts ∧ ts.map Token.lexeme = ls := by
  constructor
  · rintro ⟨ts,read,rfl⟩
    exact (tokensFrom_exact.mp read).shift offset
  · rintro ⟨ts,lexed,rfl⟩
    obtain ⟨us,again,same⟩ := lexed.shift 0
    exact ⟨us,tokensFrom_exact.mpr again,same⟩

theorem scans_leading {cs : List Char} {ls : List Lexeme} :
    Scans (cs.dropWhile Text.isBlank) ls ↔ Scans cs ls := by
  induction cs with
  | nil => rfl
  | cons c rest ih =>
    by_cases isBlank : Text.isBlank c = true
    · rw [List.dropWhile_cons_of_pos isBlank,ih,scans_exact 1,scans_exact 0]
      constructor
      · rintro ⟨ts,lexed,same⟩
        exact ⟨ts,.blank isBlank lexed,same⟩
      · rintro ⟨ts,lexed,same⟩
        cases lexed with
        | blank _ others => exact ⟨ts,others,same⟩
        | token solid => rw [isBlank] at solid; cases solid
    · rw [List.dropWhile_cons_of_neg isBlank]

theorem scans_trailing {cs blanks : List Char} {ls : List Lexeme} (blank : ∀ b ∈ blanks, Text.isBlank b = true) :
    Scans (cs ++ blanks) ls ↔ Scans cs ls := by
  rw [scans_exact 0,scans_exact 0]
  constructor
  · rintro ⟨ts,lexed,same⟩
    exact ⟨ts,lexed.without_blanks blank,same⟩
  · rintro ⟨ts,lexed,same⟩
    exact ⟨ts,lexed.before_blanks blank,same⟩

-- Blanks at the ends of a text do not count.
theorem scans_strip {cs : List Char} {ls : List Lexeme} : Scans (Text.strip Text.isBlank cs) ls ↔ Scans cs ls := by
  generalize ends : ((cs.dropWhile Text.isBlank).reverse.takeWhile Text.isBlank).reverse = blanks
  have blank : ∀ b ∈ blanks, Text.isBlank b = true := by
    intro b member
    rw [← ends,List.mem_reverse] at member
    exact List.mem_takeWhile_imp member
  have whole : Text.strip Text.isBlank cs ++ blanks = cs.dropWhile Text.isBlank := by
    rw [Text.strip,← ends,← List.reverse_append,List.takeWhile_append_dropWhile,List.reverse_reverse]
  rw [← scans_trailing blank,whole,scans_leading]

end TemplateSchema.Chain
