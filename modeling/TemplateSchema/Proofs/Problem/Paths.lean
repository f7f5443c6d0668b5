import TemplateSchema.Problem
import TemplateSchema.Proofs.Json.Scalars
/-!
The text of a place tells it from all others, if its names can be told from the marks around them.
Every step opens with a mark that is in no step, so a text falls into steps in one way only. Just the
name that a path begins with stands without its mark, and the path without steps has a text of its own.
-/
set_option autoImplicit false
namespace TemplateSchema

theorem signed_injective {n m : Int} (same : Text.signedDecimal n = Text.signedDecimal m) : n = m := by
  have absolute {a b : Nat} (digits : Nat.toDigits 10 a = Nat.toDigits 10 b) : a = b := by
    rw [← Nat.ofDigitChars_ten_toDigits (n := a),digits,Nat.ofDigitChars_ten_toDigits]
  obtain ⟨c,cs,first,cDigit,cText⟩ := Json.signed_head n
  obtain ⟨d,ds,second,dDigit,dText⟩ := Json.signed_head m
  have chars := congrArg String.toList same
  rw [cText,dText] at chars
  split at chars
  · split at chars
    · have := absolute (first.trans ((List.cons.inj chars).2.trans second.symm))
      omega
    · exact absurd (List.cons.inj chars).1.symm (Json.digit_unlike dDigit rfl)
  · split at chars
    · exact absurd (List.cons.inj chars).1 (Json.digit_unlike cDigit rfl)
    · have := absolute (first.trans (chars.trans second.symm))
      omega

namespace Segment

-- A position, or a name with none of the characters in it that open a step or the text of no step.
def IsPlain : Segment → Prop
  | .name text => text ≠ "" ∧ ∀ c ∈ text.toList, c ∉ ['.','[','<']
  | .index _ => True
  | .flag _ => True

def opening : Segment → Char
  | .name _ => '.'
  | .index _ => '['
  | .flag _ => '['

def body : Segment → List Char
  | .name text => text.toList
  | .index n => (Text.signedDecimal n).toList ++ [']']
  | .flag true => ['T','r','u','e',']']
  | .flag false => ['F','a','l','s','e',']']

def opens (c : Char) : Bool :=
  c == '.' || c == '['

theorem opening_opens (s : Segment) : opens s.opening = true := by
  cases s <;> rfl

theorem body_closed {s : Segment} (plain : s.IsPlain) : ∀ c ∈ s.body, (!opens c) = true := by
  intro c member
  cases s with
  | name text =>
    have other := plain.2 c member
    simp only [List.mem_cons,not_or] at other
    simp [opens,other]
  | index n =>
    rw [body,Json.signed_text] at member
    simp only [List.mem_append,List.mem_singleton] at member
    rcases member with (sign | digit) | rfl
    · split at sign
      · rw [List.mem_singleton.mp sign]
        rfl
      · cases sign
    · have isDigit := Json.decimal_digits _ c digit
      have noPoint : c ≠ '.' := Json.digit_unlike isDigit rfl
      have noBracket : c ≠ '[' := Json.digit_unlike isDigit rfl
      simp [opens,noPoint,noBracket]
    · rfl
  | flag b =>
    have closed : (flag b).body.all (fun c => !opens c) = true := by cases b <;> rfl
    exact List.all_eq_true.mp closed c member

theorem index_unlike (n : Int) (b : Bool) : (Segment.index n).body ≠ (Segment.flag b).body := by
  obtain ⟨c,cs,_,digit,text⟩ := Json.signed_head n
  have upper : c ≠ 'T' := Json.digit_unlike digit rfl
  have other : c ≠ 'F' := Json.digit_unlike digit rfl
  rw [body,text]
  split <;> cases b <;> simp [body,upper,other]

theorem step_injective {s t : Segment} (marks : s.opening = t.opening) (bodies : s.body = t.body) : s = t := by
  cases s with
  | name text =>
    cases t with
    | name other => rw [String.toList_inj.mp bodies]
    | index m => cases marks
    | flag b => cases marks
  | index n =>
    cases t with
    | name other => cases marks
    | index m => rw [signed_injective (String.toList_inj.mp (List.append_cancel_right bodies))]
    | flag b => exact absurd bodies (index_unlike n b)
  | flag b =>
    cases t with
    | name other => cases marks
    | index m => exact absurd bodies.symm (index_unlike m b)
    | flag c => cases b <;> cases c <;> first | rfl | cases bodies

end Segment

namespace Path

-- The text of steps behind others.
def spelled (p : Path) : List Char :=
  p.flatMap fun s => s.opening :: s.body

theorem spelled_cons (s : Segment) (rest : Path) : spelled (s :: rest) = s.opening :: (s.body ++ spelled rest) := by
  simp [spelled]

-- A step ends where the next one opens.
theorem body_cut {s : Segment} (plain : s.IsPlain) (rest : Path) :
    (s.body ++ spelled rest).takeWhile (fun c => !Segment.opens c) = s.body := by
  rw [List.takeWhile_append_of_pos (Segment.body_closed plain)]
  cases rest with
  | nil => simp [spelled]
  | cons t others => simp [spelled_cons,Segment.opening_opens]

theorem spelled_injective {p q : Path} (plain : ∀ s ∈ p, s.IsPlain) (other : ∀ s ∈ q, s.IsPlain)
    (same : spelled p = spelled q) : p = q := by
  induction p generalizing q with
  | nil =>
    cases q with
    | nil => rfl
    | cons t others => rw [spelled_cons] at same; cases same
  | cons s rest ih =>
    cases q with
    | nil => rw [spelled_cons] at same; cases same
    | cons t others =>
      rw [List.forall_mem_cons] at plain other
      rw [spelled_cons,spelled_cons] at same
      obtain ⟨marks,same⟩ := List.cons.inj same
      have bodies : s.body = t.body := by
        rw [← body_cut plain.1 rest,same,body_cut other.1 others]
      rw [bodies] at same
      rw [Segment.step_injective marks bodies,ih plain.2 other.2 (List.append_cancel_left same)]

theorem parts_some (current : String) (p : Path) : ∃ first rest, parts (some current) p = first :: rest := by
  induction p generalizing current with
  | nil => exact ⟨current,[],rfl⟩
  | cons s rest ih =>
    cases s with
    | name text => exact ⟨current,_,rfl⟩
    | index n => exact ih _
    | flag b => exact ih _

theorem parts_spelled (current : String) (p : Path) :
    (String.intercalate "." (parts (some current) p)).toList = current.toList ++ spelled p := by
  induction p generalizing current with
  | nil => simp [parts,spelled]
  | cons s rest ih =>
    rw [spelled_cons]
    cases s with
    | name text =>
      obtain ⟨first,others,same⟩ := parts_some text rest
      have later := ih text
      rw [same] at later
      rw [parts,same]
      simp [String.intercalate_cons_cons,later,Segment.opening,Segment.body]
    | index n =>
      rw [parts,ih]
      simp [Segment.opening,Segment.body]
    | flag b =>
      rw [parts,ih]
      cases b <;> simp [Segment.opening,Segment.body]

theorem text_some {p rest : Path} {current : String} (same : parts none p = parts (some current) rest) :
    p.text.toList = current.toList ++ spelled rest := by
  obtain ⟨first,others,some_⟩ := parts_some current rest
  have joined := parts_spelled current rest
  rw [some_] at same joined
  rw [text,same]
  exact joined

-- A path's text is what its steps spell, without the mark of a name in front; its first character
-- tells whether there is one.
theorem text_spelled {s : Segment} (plain : s.IsPlain) (rest : Path) :
    ∃ c cs, (text (s :: rest)).toList = c :: cs ∧ c ≠ '<' ∧
      spelled (s :: rest) = if c = '[' then c :: cs else '.' :: c :: cs := by
  cases s with
  | name name =>
    obtain ⟨some_,marks⟩ := plain
    obtain ⟨c,cs,chars⟩ := List.exists_cons_of_ne_nil (mt String.toList_eq_nil_iff.mp some_)
    have unlike := marks c (by simp [chars])
    simp only [List.mem_cons,not_or] at unlike
    refine ⟨c,cs ++ spelled rest,?_,unlike.2.2.1,?_⟩
    · have first : parts none (.name name :: rest) = parts (some name) rest := rfl
      rw [text_some first,chars]
      rfl
    · rw [if_neg unlike.2.1,spelled_cons,Segment.body,chars]
      rfl
  | index n =>
    refine ⟨'[',(Segment.index n).body ++ spelled rest,?_,by decide,by rw [if_pos rfl,spelled_cons]; rfl⟩
    have first : parts none (.index n :: rest) = parts (some ("" ++ "[" ++ Text.signedDecimal n ++ "]")) rest := rfl
    rw [text_some first]
    simp [Segment.body]
  | flag b =>
    refine ⟨'[',(Segment.flag b).body ++ spelled rest,?_,by decide,by rw [if_pos rfl,spelled_cons]; rfl⟩
    have first : parts none (.flag b :: rest) = parts (some ("" ++ (if b then "[True]" else "[False]"))) rest := rfl
    rw [text_some first]
    cases b <;> simp [Segment.body]

theorem root_unlike {s : Segment} (plain : s.IsPlain) (rest : Path) : text [] ≠ text (s :: rest) := by
  intro same
  obtain ⟨c,cs,chars,unlike,_⟩ := text_spelled plain rest
  rw [← same] at chars
  exact unlike (List.cons.inj chars).1.symm

theorem text_tells {p q : Path} (plain : ∀ s ∈ p, s.IsPlain) (other : ∀ s ∈ q, s.IsPlain) :
    p.text = q.text ↔ p = q := by
  constructor
  · intro same
    cases p with
    | nil =>
      cases q with
      | nil => rfl
      | cons t others => exact absurd same (root_unlike (other t List.mem_cons_self) others)
    | cons s rest =>
      cases q with
      | nil => exact absurd same.symm (root_unlike (plain s List.mem_cons_self) rest)
      | cons t others =>
        obtain ⟨c,cs,first,_,left⟩ := text_spelled (plain s List.mem_cons_self) rest
        obtain ⟨d,ds,second,_,right⟩ := text_spelled (other t List.mem_cons_self) others
        obtain ⟨rfl,rfl⟩ := List.cons.inj (first.symm.trans ((congrArg String.toList same).trans second))
        exact spelled_injective plain other (left.trans right.symm)
  · rintro rfl
    rfl

def cellPath : Path :=
  [.index 0,.name "rows",.index (-1),.name "1]"]

def rowPath : Path :=
  [.index 0,.name "rows",.index (-1),.index 1]

theorem cell_told : (∀ s ∈ cellPath, s.IsPlain) ∧ (∀ s ∈ rowPath, s.IsPlain) ∧ cellPath.text ≠ rowPath.text := by
  have cell : ∀ s ∈ cellPath, s.IsPlain := by simp [cellPath,Segment.IsPlain]
  have row : ∀ s ∈ rowPath, s.IsPlain := by simp [rowPath,Segment.IsPlain]
  exact ⟨cell,row,mt (text_tells cell row).mp (by decide)⟩

end Path

end TemplateSchema
