import TemplateSchema.Json.Reader
import TemplateSchema.Json.Writer
import TemplateSchema.Proofs.Text.Decimal
import TemplateSchema.Proofs.Text.Points
/-!
A quoted text is read back point by point: each point is written in one of five ways, and each way is
taken up by the reader whatever follows, but for the first half of a pair if the second half follows.
-/
set_option autoImplicit false
namespace TemplateSchema

namespace Text

-- Points of which no two in a row make a pair.
def AreApart : List Point → Prop
  | .half h :: .half k :: rest =>
    ¬ (Json.isHighSurrogate h.code = true ∧ Json.isLowSurrogate k.code = true) ∧ AreApart (.half k :: rest)
  | _ :: rest => AreApart rest
  | [] => True

def IsApart (t : Text) : Prop :=
  AreApart t.points

theorem whole_apart (s : String) : IsApart s := by
  have apart (cs : List Char) : AreApart (cs.map Point.char) := by
    induction cs with
    | nil => trivial
    | cons c cs ih => exact ih
  exact apart s.toList

end Text

namespace Json

variable {opening : Nat} {tail : List Char}

-- What the reader gives for a text that begins with one point's way of being written.
def prefixed (p : Point) (body : Except Halt (List Point × List Char)) : Except Halt (List Point × List Char) := do
  let (ps, tail) ← body
  .ok (p :: ps, tail)

-- A text that is not taken for the second half of a pair.
def IsUncompleting (tail : List Char) : Prop :=
  ∀ a b c d rest, tail = '\\' :: 'u' :: a :: b :: c :: d :: rest →
    ∃ unit, codeUnit? a b c d = some unit ∧ isLowSurrogate unit = false

-- The four digits of a code unit give the unit.
theorem unit_reread {n : Nat} (fits : n < 65536) :
    ∃ a b c d, (Text.paddedHex 4 n).toList = [a,b,c,d] ∧ codeUnit? a b c d = some n := by
  have length := Text.padded_length 16 4 (by decide) (by decide) fits
  obtain ⟨ds,read,value⟩ := Text.padded_spells 16 (by decide) Text.knows_hex 4 n
  rw [Text.paddedHex,String.toList_ofList]
  generalize Text.zeroPadded 4 (Nat.toDigits 16 n) = cs at length read
  have four : ds.length = 4 := by simpa [length] using (congrArg List.length read).symm
  match cs, length, ds, four with
  | [a,b,c,d], _, [p,q,r,s], _ =>
    simp only [List.map_cons,List.map_nil,List.cons.injEq,and_true] at read
    refine ⟨a,b,c,d,rfl,?_⟩
    simp only [codeUnit?,read,← value]
    rfl

theorem body_unit (opening : Nat) {a b c d : Char} {unit : Nat} (read : codeUnit? a b c d = some unit)
    (single : isHighSurrogate unit = true → IsUncompleting tail) (more : tail ≠ []) :
    stringBody opening ('\\' :: 'u' :: a :: b :: c :: d :: tail) =
      prefixed (.ofCode unit) (stringBody opening tail) := by
  obtain ⟨e,rest,rfl⟩ := List.exists_cons_of_ne_nil more
  rw [stringBody.eq_def]
  split
  · rename_i same; cases same
  · rename_i same; cases same
  · rename_i same
    cases same
    cases high : isHighSurrogate unit with
    | false => simp only [read,high]; rfl
    | true =>
      obtain ⟨second,known,alone⟩ := single high _ _ _ _ _ rfl
      simp only [read,high,known,alone]
      rfl
  · rename_i same
    cases same
    simp only [read]
    rfl
  · rename_i other same
    cases same
    exact absurd rfl (other _ _ _ _ _ _)
  · rename_i same; cases same
  · rename_i other same
    cases same
    exact (other rfl).elim
  · rename_i other same
    cases same
    exact (other _ _ rfl rfl).elim

theorem body_pair (opening : Nat) {a b c d e f g h : Char} {high low : Nat} (first : codeUnit? a b c d = some high)
    (second : codeUnit? e f g h = some low) (isHigh : isHighSurrogate high = true)
    (isLow : isLowSurrogate low = true) (more : tail ≠ []) :
    stringBody opening ('\\' :: 'u' :: a :: b :: c :: d :: '\\' :: 'u' :: e :: f :: g :: h :: tail) =
      prefixed (.char (charOfPair high low)) (stringBody opening tail) := by
  obtain ⟨i,rest,rfl⟩ := List.exists_cons_of_ne_nil more
  rw [stringBody]
  simp only [first,second,isHigh,isLow]
  rfl

theorem body_escape {c e : Char} (simple : simpleEscape? c = some e) :
    stringBody opening ('\\' :: c :: tail) = prefixed (.char e) (stringBody opening tail) := by
  have unit : c ≠ 'u' := by rintro rfl; cases simple
  rw [stringBody.eq_def]
  simp [unit,simple]
  rfl

theorem body_plain {c : Char} (printable : 0x20 ≤ c.toNat) (quote : c ≠ '"') (backslash : c ≠ '\\') :
    stringBody opening (c :: tail) = prefixed (.char c) (stringBody opening tail) := by
  rw [stringBody.eq_def]
  simp [backslash,Nat.not_lt.mpr printable]
  rfl

theorem escapeUnit_text (n : Nat) : (escapeUnit n).toList = '\\' :: 'u' :: (Text.paddedHex 4 n).toList := by
  simp [escapeUnit]

section Escapes

variable (c : Char)

-- A character is no half of a surrogate pair.
theorem char_code : c.toNat < 0xD800 ∨ 0xDFFF < c.toNat ∧ c.toNat < 0x110000 :=
  c.valid

theorem unit_escape (small : c.toNat < 0x10000) (more : tail ≠ []) :
    stringBody opening ((escapeUnit c.toNat).toList ++ tail) = prefixed (.char c) (stringBody opening tail) := by
  have code := char_code c
  obtain ⟨_,_,_,_,digits,read⟩ := unit_reread small
  have single : isHighSurrogate c.toNat = false := by simp [isHighSurrogate]; omega
  have same : Point.ofCode c.toNat = .char c := by rw [Point.ofCode,dif_neg (by omega),Char.ofNat_toNat]
  have whole := body_unit opening read (by simp [single]) more
  rw [same] at whole
  rw [escapeUnit_text,digits]
  exact whole

theorem pair_escape (large : 0x10000 ≤ c.toNat) (more : tail ≠ []) :
    stringBody opening ((escapeUnit (0xD800 + (c.toNat - 0x10000) / 0x400) ++
      escapeUnit (0xDC00 + (c.toNat - 0x10000) % 0x400)).toList ++ tail) =
        prefixed (.char c) (stringBody opening tail) := by
  have code := char_code c
  generalize highUnit : 0xD800 + (c.toNat - 0x10000) / 0x400 = high
  generalize lowUnit : 0xDC00 + (c.toNat - 0x10000) % 0x400 = low
  obtain ⟨_,_,_,_,highDigits,first⟩ := unit_reread (n := high) (by omega)
  obtain ⟨_,_,_,_,lowDigits,second⟩ := unit_reread (n := low) (by omega)
  have isHigh : isHighSurrogate high = true := by simp [isHighSurrogate]; omega
  have isLow : isLowSurrogate low = true := by simp [isLowSurrogate]; omega
  have same : charOfPair high low = c := by
    have sum : 0x10000 + (high - 0xD800) * 0x400 + (low - 0xDC00) = c.toNat := by omega
    rw [charOfPair,sum,Char.ofNat_toNat]
  have whole := body_pair opening first second isHigh isLow more
  rw [same] at whole
  rw [String.toList_append,escapeUnit_text,escapeUnit_text,highDigits,lowDigits]
  exact whole

theorem escaped_reread (more : tail ≠ []) :
    stringBody opening ((escaped c).toList ++ tail) = prefixed (.char c) (stringBody opening tail) := by
  unfold escaped
  split
  · rename_i quote; subst quote; exact body_escape rfl
  split
  · rename_i backslash; subst backslash; exact body_escape rfl
  rename_i quote backslash
  split
  · rename_i feed; subst feed; exact body_escape rfl
  split
  · rename_i carriage; subst carriage; exact body_escape rfl
  split
  · rename_i tab; subst tab; exact body_escape rfl
  split
  · rename_i back; subst back; exact body_escape rfl
  split
  · rename_i form; subst form; exact body_escape rfl
  split
  · rename_i printable
    rw [String.toList_singleton]
    exact body_plain printable.1 quote backslash
  split
  · rename_i small; exact unit_escape c small more
  · rename_i large; exact pair_escape c (by omega) more

end Escapes

section Points

variable {p : Point} {ps : List Point} {h : Half} {rest : List Char}

-- What stands behind the opening quote of a text.
def quotedBody (ps : List Point) (rest : List Char) : List Char :=
  (String.join (ps.map escapedPoint)).toList ++ '"' :: rest

theorem quoted_text (t : Text) (rest : List Char) :
    (quotedText t).toList ++ rest = '"' :: quotedBody t.points rest := by
  simp [quotedText,quotedBody]

theorem quotedBody_cons (p : Point) (ps : List Point) (rest : List Char) :
    quotedBody (p :: ps) rest = (escapedPoint p).toList ++ quotedBody ps rest := by
  simp [quotedBody]

theorem half_code (h : Half) : Point.ofCode h.code = .half h := by
  rw [Point.ofCode,dif_pos h.within]

-- The unit that an escape shows is the one that it was written for.
theorem unit_uncompleting {n : Nat} (fits : n < 65536) (alone : isLowSurrogate n = false) :
    IsUncompleting ((escapeUnit n).toList ++ tail) := by
  intro a b c d rest same
  obtain ⟨_,_,_,_,digits,read⟩ := unit_reread fits
  rw [escapeUnit_text,digits] at same
  cases same
  exact ⟨n,read,alone⟩

theorem escape_uncompleting {mark : Char} (other : mark ≠ 'u') : IsUncompleting ('\\' :: mark :: tail) := by
  intro a b c d rest same
  cases same
  exact absurd rfl other

theorem char_uncompleting (c : Char) : IsUncompleting ((escaped c).toList ++ tail) := by
  have code := char_code c
  unfold escaped
  split
  · exact escape_uncompleting (by decide : '"' ≠ 'u')
  split
  · exact escape_uncompleting (by decide : '\\' ≠ 'u')
  rename_i backslash
  split
  · exact escape_uncompleting (by decide : 'n' ≠ 'u')
  split
  · exact escape_uncompleting (by decide : 'r' ≠ 'u')
  split
  · exact escape_uncompleting (by decide : 't' ≠ 'u')
  split
  · exact escape_uncompleting (by decide : 'b' ≠ 'u')
  split
  · exact escape_uncompleting (by decide : 'f' ≠ 'u')
  split
  · intro a b d e rest same
    rw [String.toList_singleton] at same
    cases same
    exact absurd rfl backslash
  split
  · exact unit_uncompleting (by omega) (by simp [isLowSurrogate]; omega)
  · rw [String.toList_append,List.append_assoc]
    exact unit_uncompleting (by omega) (by simp [isLowSurrogate]; omega)

theorem quote_uncompleting : IsUncompleting (quotedBody [] rest) := by
  intro a b c d rest same
  cases same

theorem point_reread (more : tail ≠ [])
    (alone : ∀ h, p = .half h → isHighSurrogate h.code = true → IsUncompleting tail) :
    stringBody opening ((escapedPoint p).toList ++ tail) = prefixed p (stringBody opening tail) := by
  cases p with
  | char c => exact escaped_reread c more
  | half h =>
    have within := h.within
    obtain ⟨_,_,_,_,digits,read⟩ := unit_reread (n := h.code) (by omega)
    have whole := body_unit opening read (alone h rfl) more
    rw [half_code] at whole
    rw [escapedPoint,escapeUnit_text,digits]
    exact whole

-- Behind the first half of a pair comes no second half, so the reader takes it by itself.
theorem apart_uncompleting (apart : Text.AreApart (.half h :: ps)) (high : isHighSurrogate h.code = true) :
    IsUncompleting (quotedBody ps rest) := by
  cases ps with
  | nil => exact quote_uncompleting
  | cons q ps =>
    rw [quotedBody_cons]
    cases q with
    | char c => exact char_uncompleting c
    | half k =>
      have within := k.within
      have alone : isLowSurrogate k.code = false := by
        simpa [high] using apart.1
      exact unit_uncompleting (by omega) alone

theorem apart_behind (apart : Text.AreApart (p :: ps)) : Text.AreApart ps := by
  rcases p with c | h
  · exact apart
  · rcases ps with _ | ⟨_ | k,ps⟩
    · trivial
    · exact apart
    · exact apart.2

theorem body_reread (apart : Text.AreApart ps) : stringBody opening (quotedBody ps rest) = .ok (ps,rest) := by
  induction ps with
  | nil => rfl
  | cons p ps ih =>
    have more : quotedBody ps rest ≠ [] := by simp [quotedBody]
    have alone (h : Half) (own : p = .half h) (high : isHighSurrogate h.code = true) :
        IsUncompleting (quotedBody ps rest) := apart_uncompleting (own ▸ apart) high
    rw [quotedBody_cons,point_reread more alone,ih (apart_behind apart)]
    rfl

theorem string_reread (opening : Nat) {t : Text} (apart : t.IsApart) (rest : List Char) :
    ∃ shorter, string opening (quotedBody t.points rest) = .ok (t,⟨rest,shorter⟩) := by
  have shorter : rest.length < (quotedBody t.points rest).length + 1 := by
    rw [quotedBody,List.length_append,List.length_cons]
    omega
  refine ⟨shorter,?_⟩
  unfold string
  rw [body_reread apart]
  simp only
  rw [dif_pos shorter,Text.ofPoints_points]

end Points

end Json

end TemplateSchema
