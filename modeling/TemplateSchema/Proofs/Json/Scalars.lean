import TemplateSchema.Json.Reader
import TemplateSchema.Json.Writer
import TemplateSchema.Proofs.Text.Decimal
/-!
Literal names and integers are read back in front of whatever ends a value: a comma, a line break or
the end of the text.
-/
set_option autoImplicit false
namespace TemplateSchema

namespace Numeral

variable {digit? : DigitValue} {cs : List Char} {ds : List Nat}

theorem moreDigits_all (read : cs.map digit? = ds.map some) : moreDigits digit? cs = (ds,[]) := by
  induction cs generalizing ds with
  | nil =>
    cases ds with
    | nil => rfl
    | cons d ds => cases read
  | cons c rest ih =>
    cases ds with
    | nil => cases read
    | cons d ds =>
      obtain ⟨first,others⟩ := List.cons.inj read
      have more := ih others
      cases rest with
      | nil =>
        cases ds with
        | nil => simp [moreDigits,first]
        | cons d' ds => cases others
      | cons c' rest => simp [moreDigits,first,more]

theorem splitSign_digit {c : Char} (digit : c.isDigit = true) : splitSign (c :: cs) = (false,c :: cs) := by
  unfold splitSign
  split
  · rename_i same; cases same; cases digit
  · rename_i same; cases same; cases digit
  · rfl

theorem unsigned_reread {base n : Nat} (spells : Text.Spells digit? base cs n) (some_ : cs ≠ []) :
    unsignedIn? digit? base cs = some n := by
  obtain ⟨ds,read,value⟩ := spells
  obtain ⟨c,rest,rfl⟩ := List.exists_cons_of_ne_nil some_
  cases ds with
  | nil => cases read
  | cons d ds =>
    obtain ⟨first,others⟩ := List.cons.inj read
    simp [unsignedIn?,digitRun,first,moreDigits_all others,value]

end Numeral

namespace Json

-- What may stand behind a value in the text of a larger one.
inductive Stops : List Char → Prop where
  | finish : Stops []
  | comma (rest : List Char) : Stops (',' :: rest)
  | feed (rest : List Char) : Stops ('\n' :: rest)

variable {rest : List Char} {n : Int}

-- Integers with no more digits than are read back.
def IsShort (n : Int) : Prop :=
  (Nat.toDigits 10 n.natAbs).length ≤ Numeral.digitLimit

theorem zero_short : IsShort 0 := by
  unfold IsShort
  decide

theorem digit_unlike {c other : Char} (digit : c.isDigit = true) (no : other.isDigit = false) : c ≠ other := by
  rintro rfl
  rw [no] at digit
  cases digit

theorem decimal_digits (n : Nat) : ∀ c ∈ Nat.toDigits 10 n, c.isDigit = true :=
  fun _ member => Nat.isDigit_of_mem_toDigits (by decide) (by decide) member

theorem signed_text (n : Int) :
    (Text.signedDecimal n).toList = (if n < 0 then ['-'] else []) ++ Nat.toDigits 10 n.natAbs := by
  unfold Text.signedDecimal Text.decimal
  split <;> simp

-- The text of an integer: a digit and more of them, behind a sign where the integer is negative.
theorem signed_head (n : Int) : ∃ c cs, Nat.toDigits 10 n.natAbs = c :: cs ∧ c.isDigit = true ∧
    (Text.signedDecimal n).toList = if n < 0 then '-' :: c :: cs else c :: cs := by
  obtain ⟨c,cs,digits⟩ := List.exists_cons_of_ne_nil (Nat.toDigits_ne_nil (b := 10) (n := n.natAbs))
  refine ⟨c,cs,digits,decimal_digits n.natAbs c (by rw [digits]; exact List.mem_cons_self),?_⟩
  rw [signed_text,digits]
  split <;> rfl

theorem span_signed (n : Int) (stops : Stops rest) :
    numberSpan ((Text.signedDecimal n).toList ++ rest) = ((Text.signedDecimal n).toList,false) := by
  rw [signed_text]
  by_cases zero : n.natAbs = 0
  · rw [zero,if_neg (by omega),Nat.toDigits_zero]
    cases stops <;> rfl
  · obtain ⟨c,cs,digits,nonzero⟩ := Text.toDigits_head 10 (by decide) (by decide) (Nat.pos_of_ne_zero zero)
    have all := decimal_digits n.natAbs
    rw [digits] at all ⊢
    have stopped : rest.takeWhile Char.isDigit = [] := by
      cases stops <;> rfl
    have run : (c :: (cs ++ rest)).takeWhile Char.isDigit = c :: cs := by
      rw [← List.cons_append,List.takeWhile_append_of_pos all,stopped,List.append_nil]
    have unsigned : c ≠ '-' := digit_unlike (all c List.mem_cons_self) rfl
    by_cases negative : n < 0
    · rw [if_pos negative]
      cases stops with
      | finish => rw [List.append_nil] at run ⊢; simp [numberSpan,nonzero,run]
      | comma rest => simp [numberSpan,nonzero,run]
      | feed rest => simp [numberSpan,nonzero,run]
    · rw [if_neg negative]
      cases stops with
      | finish => rw [List.append_nil] at run ⊢; simp [numberSpan,unsigned,nonzero,run]
      | comma rest => simp [numberSpan,unsigned,nonzero,run]
      | feed rest => simp [numberSpan,unsigned,nonzero,run]

theorem number_reread (short : IsShort n) : numberOf (Text.signedDecimal n).toList false = .ok (.int n) := by
  obtain ⟨c,cs,digits,digit,text⟩ := signed_head n
  have few : ¬Numeral.digitLimit < Numeral.digitCount (Text.signedDecimal n).toList := by
    have sign : (if n < 0 then ['-'] else []).countP (fun c => (Text.digitValue? c).isSome) = 0 := by
      split <;> rfl
    have count : Numeral.digitCount (Text.signedDecimal n).toList ≤ (Nat.toDigits 10 n.natAbs).length := by
      rw [signed_text,Numeral.digitCount,List.countP_append,sign,Nat.zero_add]
      exact List.countP_le_length
    exact Nat.not_lt.mpr (Nat.le_trans count short)
  have whole : Numeral.integerIn? Text.asciiDigit? 10 (Text.signedDecimal n).toList = some n := by
    have spells := Text.toDigits_spells 10 (by decide) Text.knows_ascii n.natAbs
    have unsigned := Numeral.unsigned_reread spells Nat.toDigits_ne_nil
    rw [digits] at unsigned
    have split_ : Numeral.splitSign (Text.signedDecimal n).toList = (decide (n < 0),c :: cs) := by
      rw [text]
      by_cases negative : n < 0
      · simp [negative,Numeral.splitSign]
      · simp [negative,Numeral.splitSign_digit digit]
    simp only [Numeral.integerIn?,split_,unsigned,Option.map_some,Option.some.injEq,Numeral.signed,
      decide_eq_true_eq]
    split <;> omega
  rw [numberOf,if_neg (by decide),if_neg few,whole]

def names : List (String × Value) :=
  [("null",.null),("true",.bool true),("false",.bool false),("NaN",.float .nan),
    ("Infinity",.float (.infinite false)),("-Infinity",.float (.infinite true))]

def named? (cs : List Char) : Option (String × Value) :=
  names.find? fun entry => entry.1.toList.isPrefixOf cs

-- A scalar's text is the scalar again, in front of whatever ends a value.
def ReadsScalar (text : String) (v : Value) : Prop :=
  ∀ rest, Stops rest → ∃ shorter, scalar (text.toList ++ rest) = .ok (v,⟨rest,shorter⟩)

theorem name_reread {name : String} {v : Value} (some_ : 0 < name.length)
    (found : ∀ rest, named? (name.toList ++ rest) = some (name,v)) : ReadsScalar name v := by
  intro rest stops
  have behind : (name.toList ++ rest).drop name.length = rest := by
    rw [← String.length_toList,List.drop_left]
  have shorter : rest.length < (name.toList ++ rest).length := by
    rw [List.length_append,String.length_toList]
    omega
  have first := found rest
  unfold named? names at first
  refine ⟨shorter,?_⟩
  unfold scalar
  simp only [first,behind]
  rw [dif_pos shorter]

theorem null_reread : ReadsScalar "null" .null :=
  name_reread (by decide) fun _ => rfl

theorem bool_reread (b : Bool) : ReadsScalar (if b then "true" else "false") (.bool b) := by
  cases b with
  | true => exact name_reread (by decide) fun _ => rfl
  | false => exact name_reread (by decide) fun _ => rfl

theorem signed_unnamed (n : Int) (rest : List Char) : named? ((Text.signedDecimal n).toList ++ rest) = none := by
  obtain ⟨c,cs,_,digit,text⟩ := signed_head n
  have other (letter : Char) (no : letter.isDigit = false) : letter ≠ c := (digit_unlike digit no).symm
  rw [text]
  by_cases negative : n < 0
  · simp [negative,named?,names,other 'I' rfl]
  · simp [negative,named?,names,other 'n' rfl,other 't' rfl,other 'f' rfl,
      other 'N' rfl,other 'I' rfl,other '-' rfl]

theorem integer_reread (short : IsShort n) : ReadsScalar (Text.signedDecimal n) (.int n) := by
  intro rest stops
  have shorter : rest.length < ((Text.signedDecimal n).toList ++ rest).length := by
    obtain ⟨c,cs,_,_,text⟩ := signed_head n
    rw [List.length_append,text]
    split <;> simp
  have unnamed := signed_unnamed n rest
  unfold named? names at unnamed
  refine ⟨shorter,?_⟩
  unfold scalar
  simp only [unnamed,span_signed n stops,List.drop_left,number_reread short]
  rw [dif_pos shorter]
  rfl

end Json

end TemplateSchema
