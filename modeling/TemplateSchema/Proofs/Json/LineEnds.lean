import TemplateSchema.Proofs.Json.Reread
import TemplateSchema.Proofs.Json.Strings
import TemplateSchema.Proofs.Text.LineEnds
/-!
JSON with either line end. Line ends are blanks between the parts of a document, and no part may hold
one, so the reader takes the same parts out of both spellings and fails on both or on neither.
-/
set_option autoImplicit false
namespace TemplateSchema.Json

open Text (paired pairedText paired_feed paired_other paired_word paired_split paired_starts paired_unbroken
  paired_drop paired_dropWhile paired_takeWhile feed_induction Unbroken)

variable {cs ds rest tail : List Char} {content : List Point}

-- Readers agree: both give related results, both find the text malformed, or both refuse an integer
-- of the same length.
inductive Alike {α β : Type} (related : α → β → Prop) : Except Halt α → Except Halt β → Prop where
  | read {a : α} {b : β} (same : related a b) : Alike related (.ok a) (.ok b)
  | malformed (reason reason' : Reason) (left left' : Nat) :
      Alike related (.error (.at_ reason left)) (.error (.at_ reason' left'))
  | digits (count : Nat) : Alike related (.error (.digits count)) (.error (.digits count))

-- The same result with the same text behind it.
def Leaves {α : Type} (a : α × Shorter cs) (b : α × Shorter ds) : Prop :=
  a.1 = b.1 ∧ b.2.val = paired a.2.val

section Agreement

variable {α β γ δ : Type} {related : α → β → Prop} {related' : γ → δ → Prop}

theorem Alike.bind {x : Except Halt α} {y : Except Halt β} {f : α → Except Halt γ} {g : β → Except Halt δ}
    (alike : Alike related x y) (next : ∀ a b, related a b → Alike related' (f a) (g b)) :
    Alike related' (x >>= f) (y >>= g) := by
  cases alike with
  | read same => exact next _ _ same
  | malformed reason reason' left left' => exact .malformed reason reason' left left'
  | digits count => exact .digits count

theorem Alike.behind {x : Except Halt (α × Shorter cs)} {y : Except Halt (α × Shorter ds)}
    {f : α × Shorter cs → Except Halt γ} {g : α × Shorter ds → Except Halt δ} (alike : Alike Leaves x y)
    (next : ∀ a rest rest', rest'.val = paired rest.val → Alike related' (f (a,rest)) (g (a,rest'))) :
    Alike related' (x >>= f) (y >>= g) := by
  refine alike.bind ?_
  intro a b leaves
  obtain ⟨a,rest⟩ := a
  obtain ⟨b,rest'⟩ := b
  obtain ⟨same,left⟩ := leaves
  cases same
  exact next a rest rest' left

theorem Alike.refl (x : Except Halt α) : Alike Eq x x := by
  cases x with
  | ok a => exact .read rfl
  | error halt =>
    cases halt with
    | at_ reason left => exact .malformed reason reason left left
    | digits count => exact .digits count

end Agreement

section Strings

theorem hex_unbroken {c : Char} {n : Nat} (read : Text.hexDigit? c = some n) : c ≠ '\n' ∧ c ≠ '\r' := by
  constructor <;> rintro rfl <;> cases read

theorem unit_unbroken {a b c d : Char} {unit : Nat} (read : codeUnit? a b c d = some unit) :
    Unbroken ['\\','u',a,b,c,d] := by
  obtain ⟨_,first,read⟩ := Option.bind_eq_some_iff.mp read
  obtain ⟨_,second,read⟩ := Option.bind_eq_some_iff.mp read
  obtain ⟨_,third,read⟩ := Option.bind_eq_some_iff.mp read
  obtain ⟨_,fourth,_⟩ := Option.bind_eq_some_iff.mp read
  simp only [Text.unbroken_cons]
  exact ⟨by decide,by decide,hex_unbroken first,hex_unbroken second,hex_unbroken third,hex_unbroken fourth,by decide⟩

theorem pair_unbroken {a b c d e f g h : Char} {high low : Nat} (first : codeUnit? a b c d = some high)
    (second : codeUnit? e f g h = some low) : Unbroken ['\\','u',a,b,c,d,'\\','u',e,f,g,h] :=
  Text.unbroken_append (unit_unbroken first) (unit_unbroken second)

theorem escape_unbroken {c e : Char} (simple : simpleEscape? c = some e) : Unbroken ['\\',c] := by
  have solid : c ≠ '\n' ∧ c ≠ '\r' := by
    constructor <;> rintro rfl <;> cases simple
  exact Text.unbroken_cons.mpr ⟨by decide,Text.unbroken_cons.mpr ⟨solid,by decide⟩⟩

theorem plain_unbroken {c : Char} (printable : 0x20 ≤ c.toNat) : Unbroken [c] := by
  have solid : c ≠ '\n' ∧ c ≠ '\r' := by
    constructor <;> rintro rfl <;> exact absurd printable (by decide)
  exact Text.unbroken_cons.mpr ⟨solid,by decide⟩

theorem lone_paired (unit : Nat) (cs : List Char) : IsLone unit (paired cs) ↔ IsLone unit cs := by
  constructor
  · intro lone isHigh e f g h low tail same some_ second
    refine lone isHigh e f g h low (paired tail) ?_ ?_ second
    · rw [same,paired_word (unit_unbroken second)]
    · rwa [ne_eq,Text.paired_nil]
  · intro lone isHigh e f g h low tail same some_ second
    obtain ⟨rest,rfl,rfl⟩ := paired_split (unit_unbroken second) same
    refine lone isHigh e f g h low rest rfl ?_ second
    rintro rfl
    exact some_ rfl

theorem body_paired (body : Body cs content rest) : Body (paired cs) content (paired rest) := by
  induction body with
  | close rest => exact .close _
  | plain printable quote backslash _ ih =>
    have whole := paired_word (plain_unbroken printable)
    simp only [List.singleton_append] at whole
    rw [whole]
    exact .plain printable quote backslash ih
  | escape simple _ ih =>
    rw [paired_word (escape_unbroken simple)]
    exact .escape simple ih
  | unit read lone _ ih =>
    rw [paired_word (unit_unbroken read)]
    exact .unit read ((lone_paired _ _).mpr lone) ih
  | pair first second isHigh isLow _ ih =>
    rw [paired_word (pair_unbroken first second)]
    exact .pair first second isHigh isLow ih

theorem body_unpaired {ds : List Char} (body : Body ds content tail) (same : paired cs = ds) :
    ∃ rest, tail = paired rest ∧ Body cs content rest := by
  induction body generalizing cs with
  | close tail =>
    obtain ⟨rest,rfl,rfl⟩ := @paired_split _ ['"'] _ (by decide) same
    exact ⟨rest,rfl,.close rest⟩
  | plain printable quote backslash _ ih =>
    obtain ⟨more,rfl,later⟩ := paired_split (plain_unbroken printable) same
    obtain ⟨rest,rfl,body⟩ := ih later.symm
    exact ⟨rest,rfl,.plain printable quote backslash body⟩
  | escape simple _ ih =>
    obtain ⟨more,rfl,later⟩ := paired_split (escape_unbroken simple) same
    obtain ⟨rest,rfl,body⟩ := ih later.symm
    exact ⟨rest,rfl,.escape simple body⟩
  | unit read lone _ ih =>
    obtain ⟨more,rfl,later⟩ := paired_split (unit_unbroken read) same
    obtain ⟨rest,rfl,body⟩ := ih later.symm
    rw [later,lone_paired] at lone
    exact ⟨rest,rfl,.unit read lone body⟩
  | pair first second isHigh isLow _ ih =>
    obtain ⟨more,rfl,later⟩ := paired_split (pair_unbroken first second) same
    obtain ⟨rest,rfl,body⟩ := ih later.symm
    exact ⟨rest,rfl,.pair first second isHigh isLow body⟩

theorem string_alike (opening opening' : Nat) (cs : List Char) :
    Alike Leaves (string opening cs) (string opening' (paired cs)) := by
  unfold string
  cases read : stringBody opening cs with
  | ok parts =>
    have body := body_exact.mp read
    have again : stringBody opening' (paired cs) = .ok (parts.1,paired parts.2) := body_exact.mpr (body_paired body)
    have shorter := body_shorter body
    have shorter' := body_shorter (body_paired body)
    rw [again]
    simp only
    rw [dif_pos (by omega),dif_pos (by omega)]
    exact .read ⟨rfl,rfl⟩
  | error halt =>
    obtain ⟨reason,left,rfl⟩ := body_malformed read
    cases again : stringBody opening' (paired cs) with
    | ok parts =>
      obtain ⟨rest,_,body⟩ := body_unpaired (body_exact.mp again) rfl
      rw [body_exact.mpr body] at read
      cases read
    | error halt =>
      obtain ⟨reason',left',rfl⟩ := body_malformed again
      exact .malformed reason reason' left left'

end Strings

section Numbers

-- A part that a reader takes from the front of a text, from either spelling the same.
structure IsSpan (span : List Char → List Char) : Prop where
  starts : ∀ cs, span cs <+: cs
  unbroken : ∀ cs, Unbroken (span cs)
  paired : ∀ cs, span (paired cs) = span cs

theorem IsSpan.left {span : List Char → List Char} (isSpan : IsSpan span) (cs : List Char) :
    (Text.paired cs).drop (span cs).length = Text.paired (cs.drop (span cs).length) :=
  paired_drop (isSpan.unbroken cs) (isSpan.starts cs)

theorem IsSpan.behind {span next : List Char → List Char} (first : IsSpan span) (second : IsSpan next) :
    IsSpan fun cs => span cs ++ next (cs.drop (span cs).length) where
  starts cs := by
    obtain ⟨rest,whole⟩ := first.starts cs
    obtain ⟨tail,behind⟩ := second.starts (cs.drop (span cs).length)
    refine ⟨tail,?_⟩
    rw [List.append_assoc,behind,List.prefix_iff_eq_append.mp ⟨rest,whole⟩]
  unbroken cs := Text.unbroken_append (first.unbroken cs) (second.unbroken _)
  paired cs := by
    rw [first.paired,first.left,second.paired]

def digitSpan (cs : List Char) : List Char :=
  cs.takeWhile Char.isDigit

def signSpan : List Char → List Char
  | '-' :: _ => ['-']
  | _ => []

def wholeSpan (cs : List Char) : List Char :=
  match cs with
  | '0' :: _ => ['0']
  | _ => digitSpan cs

def fractionSpan : List Char → List Char
  | '.' :: rest => if (digitSpan rest).isEmpty then [] else '.' :: digitSpan rest
  | _ => []

def markSpan : List Char → List Char
  | '+' :: _ => ['+']
  | '-' :: _ => ['-']
  | _ => []

-- An exponent without the letter in front of it.
def powerSpan (cs : List Char) : List Char :=
  markSpan cs ++ digitSpan (cs.drop (markSpan cs).length)

def exponentSpan : List Char → List Char
  | e :: rest =>
    if e = 'e' ∨ e = 'E' then
      if (digitSpan (rest.drop (markSpan rest).length)).isEmpty then [] else e :: powerSpan rest
    else []
  | [] => []

-- A number without its sign, and whether it has a fraction or an exponent.
def unsignedSpan (cs : List Char) : List Char × Bool :=
  let behind := cs.drop (wholeSpan cs).length
  let last := behind.drop (fractionSpan behind).length
  (wholeSpan cs ++ (fractionSpan behind ++ exponentSpan last),
    !(fractionSpan behind).isEmpty || !(exponentSpan last).isEmpty)

theorem numberSpan_exact (cs : List Char) : numberSpan cs =
    if (wholeSpan (cs.drop (signSpan cs).length)).isEmpty then ([],false)
    else (signSpan cs ++ (unsignedSpan (cs.drop (signSpan cs).length)).1,
      (unsignedSpan (cs.drop (signSpan cs).length)).2) := by
  unfold numberSpan
  split
  rename_i sign rest signed
  have same : signSpan cs = sign ∧ cs.drop (signSpan cs).length = rest := by
    split at signed
    · cases signed
      exact ⟨rfl,rfl⟩
    · rename_i unsigned
      cases signed
      unfold signSpan
      split
      · exact absurd rfl (unsigned _)
      · exact ⟨rfl,rfl⟩
  obtain ⟨rfl,rfl⟩ := same
  simp only [List.append_assoc]
  rfl

theorem digit_isSpan : IsSpan digitSpan where
  starts cs := List.takeWhile_prefix _
  unbroken cs := by
    constructor <;> intro member <;> cases List.mem_takeWhile_imp member
  paired cs := by
    have unbroken : Unbroken (cs.takeWhile Char.isDigit) := by
      constructor <;> intro member <;> cases List.mem_takeWhile_imp member
    rw [digitSpan,paired_takeWhile rfl,paired_unbroken unbroken]
    rfl

theorem sign_isSpan : IsSpan signSpan where
  starts cs := by
    unfold signSpan
    split
    · exact List.prefix_append ['-'] _
    · exact List.nil_prefix
  unbroken cs := by
    unfold signSpan
    split <;> decide
  paired cs := by
    cases cs using feed_induction with
    | nil => rfl
    | feed rest => rfl
    | other c rest solid =>
      rw [paired_other solid]
      by_cases negative : c = '-' <;> simp [signSpan,negative]

theorem mark_isSpan : IsSpan markSpan where
  starts cs := by
    unfold markSpan
    split
    · exact List.prefix_append ['+'] _
    · exact List.prefix_append ['-'] _
    · exact List.nil_prefix
  unbroken cs := by
    unfold markSpan
    split <;> decide
  paired cs := by
    cases cs using feed_induction with
    | nil => rfl
    | feed rest => rfl
    | other c rest solid =>
      rw [paired_other solid]
      by_cases positive : c = '+'
      · simp [markSpan,positive]
      · by_cases negative : c = '-' <;> simp [markSpan,positive,negative]

theorem whole_isSpan : IsSpan wholeSpan where
  starts cs := by
    unfold wholeSpan
    split
    · exact List.prefix_append ['0'] _
    · exact digit_isSpan.starts _
  unbroken cs := by
    unfold wholeSpan
    split
    · decide
    · exact digit_isSpan.unbroken _
  paired cs := by
    cases cs using feed_induction with
    | nil => rfl
    | feed rest => rfl
    | other c rest solid =>
      have digits := digit_isSpan.paired (c :: rest)
      rw [paired_other solid] at digits ⊢
      by_cases zero : c = '0' <;> simp [wholeSpan,zero,digits]

theorem fraction_isSpan : IsSpan fractionSpan where
  starts cs := by
    unfold fractionSpan
    split
    · split
      · exact List.nil_prefix
      · exact List.cons_prefix_cons.mpr ⟨rfl,digit_isSpan.starts _⟩
    · exact List.nil_prefix
  unbroken cs := by
    unfold fractionSpan
    split
    · split
      · decide
      · exact Text.unbroken_cons.mpr ⟨by decide,digit_isSpan.unbroken _⟩
    · decide
  paired cs := by
    cases cs using feed_induction with
    | nil => rfl
    | feed rest => rfl
    | other c rest solid =>
      rw [paired_other solid]
      by_cases point : c = '.' <;> simp [fractionSpan,point,digit_isSpan.paired]

theorem power_isSpan : IsSpan powerSpan :=
  mark_isSpan.behind digit_isSpan

theorem exponent_isSpan : IsSpan exponentSpan where
  starts cs := by
    unfold exponentSpan
    split
    · split
      · split
        · exact List.nil_prefix
        · exact List.cons_prefix_cons.mpr ⟨rfl,power_isSpan.starts _⟩
      · exact List.nil_prefix
    · exact List.nil_prefix
  unbroken cs := by
    unfold exponentSpan
    split
    · split
      · rename_i letter
        split
        · decide
        · refine Text.unbroken_cons.mpr ⟨?_,power_isSpan.unbroken _⟩
          rcases letter with rfl | rfl <;> decide
      · decide
    · decide
  paired cs := by
    cases cs using feed_induction with
    | nil => rfl
    | feed rest => rfl
    | other c rest solid =>
      rw [paired_other solid,exponentSpan,exponentSpan,mark_isSpan.paired,mark_isSpan.left,digit_isSpan.paired,
        power_isSpan.paired]

theorem unsigned_isSpan : IsSpan fun cs => (unsignedSpan cs).1 :=
  whole_isSpan.behind (fraction_isSpan.behind exponent_isSpan)

theorem unsigned_paired (cs : List Char) : unsignedSpan (paired cs) = unsignedSpan cs := by
  simp only [unsignedSpan,whole_isSpan.paired,whole_isSpan.left,fraction_isSpan.paired,fraction_isSpan.left,
    exponent_isSpan.paired]

theorem numberSpan_paired (cs : List Char) : numberSpan (paired cs) = numberSpan cs := by
  rw [numberSpan_exact,numberSpan_exact,sign_isSpan.paired,sign_isSpan.left,whole_isSpan.paired,unsigned_paired]

theorem number_isSpan : IsSpan fun cs => (numberSpan cs).1 where
  starts cs := by
    simp only [numberSpan_exact]
    split
    · exact List.nil_prefix
    · exact (sign_isSpan.behind unsigned_isSpan).starts cs
  unbroken cs := by
    simp only [numberSpan_exact]
    split
    · decide
    · exact (sign_isSpan.behind unsigned_isSpan).unbroken cs
  paired cs := by
    simp only [numberSpan_paired]

end Numbers

section Values

theorem shorter_paired (cs : List Char) (n : Nat) :
    ((paired cs).drop n).length < (paired cs).length ↔ (cs.drop n).length < cs.length := by
  have some_ := not_congr (@Text.paired_nil cs)
  rw [← List.length_eq_zero_iff,← List.length_eq_zero_iff] at some_
  rw [List.length_drop,List.length_drop]
  omega

-- Names and numbers hold no line end, so the same one stands in front of both spellings.
theorem scalar_alike (cs : List Char) : Alike Leaves (scalar cs) (scalar (paired cs)) := by
  unfold scalar
  extract_lets names
  have unbroken : ∀ entry ∈ names, Unbroken entry.1.toList := by
    intro entry member
    simp only [names,List.mem_cons,List.not_mem_nil,or_false] at member
    rcases member with rfl | rfl | rfl | rfl | rfl | rfl <;> decide
  have alike : ∀ entry ∈ names, entry.1.toList.isPrefixOf (paired cs) = entry.1.toList.isPrefixOf cs := by
    intro entry member
    rw [Bool.eq_iff_iff,List.isPrefixOf_iff_prefix,List.isPrefixOf_iff_prefix,paired_starts (unbroken entry member)]
  have found : (names.find? fun entry => entry.1.toList.isPrefixOf (paired cs)) =
      names.find? fun entry => entry.1.toList.isPrefixOf cs := List.find?_congr alike
  rw [found]
  cases first : names.find? fun entry => entry.1.toList.isPrefixOf cs with
  | some entry =>
    have within := List.find?_some first
    have starts := List.isPrefixOf_iff_prefix.mp within
    have left := paired_drop (unbroken entry (List.mem_of_find?_eq_some first)) starts
    rw [String.length_toList] at left
    simp only
    by_cases shorter : (cs.drop entry.1.length).length < cs.length
    · rw [dif_pos shorter,dif_pos ((shorter_paired cs _).mpr shorter)]
      exact .read ⟨rfl,left⟩
    · rw [dif_neg shorter,dif_neg ((shorter_paired cs _).not.mpr shorter)]
      exact .malformed _ _ _ _
  | none =>
    have left := number_isSpan.left cs
    simp only [numberSpan_paired]
    by_cases shorter : (cs.drop (numberSpan cs).1.length).length < cs.length
    · rw [dif_pos shorter,dif_pos ((shorter_paired cs _).mpr shorter)]
      apply (Alike.refl _).bind
      intro v v' same
      exact .read ⟨same,left⟩
    · rw [dif_neg shorter,dif_neg ((shorter_paired cs _).not.mpr shorter)]
      exact .malformed _ _ _ _

theorem skipBlanks_paired (same : ds = paired cs) : (skipBlanks ds).val = paired (skipBlanks cs).val := by
  rw [same]
  exact paired_dropWhile rfl cs

theorem accept_none {mark : Char} (absent : ¬ [mark] <+: cs.dropWhile isBlank) : accept? mark cs = none := by
  cases next : cs.dropWhile isBlank with
  | nil =>
    unfold accept?
    split
    · rfl
    · rename_i found
      rw [found] at next
      cases next
  | cons c rest =>
    refine accept_other next ?_
    rintro rfl
    exact absent ⟨rest,next.symm⟩

-- A mark is found behind the blanks of both spellings, or of neither.
theorem accept_cases (mark : Char) (solid : mark ≠ '\n' ∧ mark ≠ '\r') (same : ds = paired cs) :
    accept? mark cs = none ∧ accept? mark ds = none ∨
      ∃ rest tail, accept? mark cs = some rest ∧ accept? mark ds = some tail ∧ tail.val = paired rest.val := by
  subst same
  have skipped := paired_dropWhile (show isBlank '\r' = isBlank '\n' from rfl) cs
  have word : Unbroken [mark] := Text.unbroken_cons.mpr ⟨solid,by decide⟩
  by_cases starts : [mark] <+: cs.dropWhile isBlank
  · obtain ⟨rest,next⟩ := starts
    rw [← next,paired_word word] at skipped
    obtain ⟨_,found⟩ := accept_found next.symm
    obtain ⟨_,again⟩ := accept_found skipped
    exact .inr ⟨_,_,found,again,rfl⟩
  · refine .inl ⟨accept_none starts,accept_none ?_⟩
    rwa [skipped,paired_starts word]

-- All readers agree on the two spellings of a shorter text.
def ReadersAlike (n : Nat) : Prop :=
  ∀ cs ds : List Char, cs.length < n → ds = paired cs →
    Alike Leaves (value cs) (value ds) ∧ Alike Leaves (items cs) (items ds) ∧ Alike Leaves (members cs) (members ds)

theorem value_scalar {c : Char} (quote : c ≠ '"') (bracket : c ≠ '[') (brace : c ≠ '\x7b') :
    value (c :: cs) = scalar (c :: cs) := by
  rw [value,if_neg quote,if_neg bracket,if_neg brace]

section Steps

variable {n : Nat} (shorter : ReadersAlike n) (within : cs.length ≤ n) (same : ds = paired cs)
include shorter within same

theorem value_alike : Alike Leaves (value cs) (value ds) := by
  subst same
  cases cs using feed_induction with
  | nil =>
    rw [Text.paired,value]
    exact .malformed _ _ _ _
  | feed rest =>
    have alike := scalar_alike ('\n' :: rest)
    rw [paired_feed] at alike ⊢
    rwa [value_scalar (by decide) (by decide) (by decide),value_scalar (by decide) (by decide) (by decide)]
  | other c rest solid =>
    rw [List.length_cons] at within
    have skipped := (skipBlanks rest).property
    have blanks : (skipBlanks (paired rest)).val = paired (skipBlanks rest).val := skipBlanks_paired rfl
    obtain ⟨_,inItems,inMembers⟩ := shorter _ _ (by omega) blanks
    rw [paired_other solid]
    by_cases quote : c = '"'
    · rw [value,value,if_pos quote,if_pos quote]
      apply (string_alike _ _ rest).behind
      intro s left left' same
      exact .read ⟨rfl,same⟩
    · by_cases bracket : c = '['
      · rw [value,value,if_neg quote,if_neg quote,if_pos bracket,if_pos bracket]
        rcases accept_cases ']' (by decide) rfl with ⟨none_,none_'⟩ | ⟨left,left',found,found',same⟩
        · rw [none_,none_']
          apply inItems.behind
          intro vs left left' same
          exact .read ⟨rfl,same⟩
        · rw [found,found']
          exact .read ⟨rfl,same⟩
      · by_cases brace : c = '\x7b'
        · rw [value,value,if_neg quote,if_neg quote,if_neg bracket,if_neg bracket,if_pos brace,if_pos brace]
          rcases accept_cases '\x7d' (by decide) rfl with ⟨none_,none_'⟩ | ⟨left,left',found,found',same⟩
          · rw [none_,none_']
            apply inMembers.behind
            intro entries left left' same
            exact .read ⟨rfl,same⟩
          · rw [found,found']
            exact .read ⟨rfl,same⟩
        · have alike := scalar_alike (c :: rest)
          rw [paired_other solid] at alike
          rwa [value_scalar quote bracket brace,value_scalar quote bracket brace]

theorem items_alike : Alike Leaves (items cs) (items ds) := by
  rw [items,items]
  apply (value_alike shorter within same).behind
  intro first rest rest' left
  simp only
  rcases accept_cases ']' (by decide) left with ⟨none_,none_'⟩ | ⟨tail,tail',found,found',behind⟩
  · rw [none_,none_']
    rcases accept_cases ',' (by decide) left with ⟨none_,none_'⟩ | ⟨tail,tail',found,found',behind⟩
    · simp only [none_,none_']
      exact .malformed _ _ _ _
    · simp only [found,found']
      have bound := rest.property
      have bound' := tail.property
      have skipped := (skipBlanks tail.val).property
      obtain ⟨_,inItems,_⟩ := shorter _ _ (by omega) (skipBlanks_paired behind)
      apply inItems.behind
      intro others last last' same
      exact .read ⟨rfl,same⟩
  · rw [found,found']
    exact .read ⟨rfl,behind⟩

theorem members_alike : Alike Leaves (members cs) (members ds) := by
  subst same
  cases cs using feed_induction with
  | nil =>
    rw [Text.paired,members]
    exact .malformed _ _ _ _
  | feed rest =>
    rw [paired_feed,members,members,if_neg (by decide),if_neg (by decide)]
    exact .malformed _ _ _ _
  | other c body solid =>
    rw [List.length_cons] at within
    rw [paired_other solid,members,members]
    by_cases quote : c = '"'
    · rw [if_pos quote,if_pos quote]
      apply (string_alike _ _ body).behind
      intro name afterName afterName' left
      simp only
      rcases accept_cases ':' (by decide) left with ⟨none_,none_'⟩ | ⟨colon,colon',found,found',behind⟩
      · rw [none_,none_']
        exact .malformed _ _ _ _
      · rw [found,found']
        have bound : afterName.val.length < body.length + 1 := afterName.property
        have bound' := colon.property
        have skipped := (skipBlanks colon.val).property
        obtain ⟨inValue,_,_⟩ := shorter _ _ (by omega) (skipBlanks_paired behind)
        apply inValue.behind
        intro item rest rest' left
        rcases accept_cases '\x7d' (by decide) left with ⟨none_,none_'⟩ | ⟨tail,tail',found,found',behind⟩
        · rw [none_,none_']
          rcases accept_cases ',' (by decide) left with ⟨none_,none_'⟩ | ⟨tail,tail',found,found',behind⟩
          · simp only [none_,none_']
            exact .malformed _ _ _ _
          · simp only [found,found']
            have short := rest.property
            have short' := tail.property
            have skipped := (skipBlanks tail.val).property
            obtain ⟨_,_,inMembers⟩ := shorter _ _ (by omega) (skipBlanks_paired behind)
            apply inMembers.behind
            intro others last last' same
            exact .read ⟨rfl,same⟩
        · rw [found,found']
          exact .read ⟨rfl,behind⟩
    · rw [if_neg quote,if_neg quote]
      exact .malformed _ _ _ _

end Steps

theorem readers_alike (n : Nat) : ReadersAlike n := by
  induction n with
  | zero =>
    intro cs ds within
    omega
  | succ n ih =>
    intro cs ds within same
    have bound := Nat.le_of_lt_succ within
    exact ⟨value_alike ih bound same,items_alike ih bound same,members_alike ih bound same⟩

theorem document_alike (cs : List Char) : Alike Eq (document cs) (document (paired cs)) := by
  have mark : (paired cs).head? = some '\uFEFF' ↔ cs.head? = some '\uFEFF' := by
    cases cs using feed_induction with
    | nil => exact Iff.rfl
    | feed rest => simp
    | other c rest solid => rw [paired_other solid,List.head?_cons,List.head?_cons]
  unfold document
  by_cases marked : cs.head? = some '\uFEFF'
  · rw [if_pos marked,if_pos (mark.mpr marked)]
    exact .malformed _ _ _ _
  · rw [if_neg marked,if_neg (mark.not.mpr marked)]
    apply (readers_alike _ _ _ (Nat.lt_succ_self _) (skipBlanks_paired rfl)).1.behind
    intro v rest rest' left
    have blanks := skipBlanks_paired left
    simp only
    generalize skipBlanks rest.val = behind at blanks ⊢
    generalize skipBlanks rest'.val = behind' at blanks ⊢
    obtain ⟨ending,_⟩ := behind
    obtain ⟨ending',_⟩ := behind'
    cases ending with
    | nil =>
      cases blanks
      exact .read rfl
    | cons c ending =>
      obtain ⟨c',more,rfl⟩ := List.exists_cons_of_ne_nil
        (fun empty => List.cons_ne_nil c ending (Text.paired_nil.mp (blanks.symm.trans empty)))
      exact .malformed _ _ _ _

-- Both spellings read as the same value, or neither is read, and for the same kind of reason.
inductive Agree : Except Fault Value → Except Fault Value → Prop where
  | value (v : Value) : Agree (.ok v) (.ok v)
  | malformed (reason reason' : Reason) (position position' line line' column column' : Nat) :
      Agree (.error (.malformed reason position line column)) (.error (.malformed reason' position' line' column'))
  | digits (count : Nat) : Agree (.error (.digits count)) (.error (.digits count))

theorem read_paired (text : String) : Agree (read text) (read (pairedText text)) := by
  unfold read
  rw [Text.pairedText_toList]
  have alike := document_alike text.toList
  generalize document text.toList = x at alike ⊢
  generalize document (paired text.toList) = y at alike ⊢
  cases alike with
  | read same =>
    cases same
    exact .value _
  | malformed reason reason' left left' => exact .malformed _ _ _ _ _ _ _ _
  | digits count => exact .digits count

end Values

end TemplateSchema.Json
