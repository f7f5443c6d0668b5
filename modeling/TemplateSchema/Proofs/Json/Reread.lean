import Mathlib.Data.List.Forall2
import TemplateSchema.Proofs.Json.Quoted
import TemplateSchema.Proofs.Json.Scalars
import TemplateSchema.Proofs.Value.Entries
/-!
The text of a value, read again: the same value, but for dates and moments, which stay the text that
they are written as. Each part is read in front of any rest that ends it, so the parts of a list or a
mapping are read one behind the other.
-/
set_option autoImplicit false
namespace TemplateSchema.Json

variable {cs rest tail : List Char} {v item : Value} {vs : List Value} {entries : Entries} {name : Text}
  {text : String}

section Readers

def Reads (cs : List Char) (v : Value) (rest : List Char) : Prop :=
  ∃ shorter, value cs = .ok (v,⟨rest,shorter⟩)

def ReadsItems (cs : List Char) (vs : List Value) (rest : List Char) : Prop :=
  ∃ shorter, items cs = .ok (vs,⟨rest,shorter⟩)

def ReadsMembers (cs : List Char) (entries : Entries) (rest : List Char) : Prop :=
  ∃ shorter, members cs = .ok (entries,⟨rest,shorter⟩)

theorem accept_found {mark : Char} (next : cs.dropWhile isBlank = mark :: rest) :
    ∃ shorter, accept? mark cs = some ⟨rest,shorter⟩ := by
  have within := length_dropWhile_le isBlank cs
  rw [next,List.length_cons] at within
  refine ⟨by omega,?_⟩
  unfold accept?
  split
  · rename_i nothing; rw [nothing] at next; cases next
  · rename_i found
    rw [found] at next
    cases next
    exact if_pos rfl

theorem accept_other {mark c : Char} (next : cs.dropWhile isBlank = c :: rest) (other : c ≠ mark) :
    accept? mark cs = none := by
  unfold accept?
  split
  · rfl
  · rename_i found
    rw [found] at next
    cases next
    exact if_neg other

theorem accept_next (mark : Char) (rest : List Char) (visible : isBlank mark = false) :
    ∃ shorter, accept? mark (mark :: rest) = some ⟨rest,shorter⟩ :=
  accept_found (List.dropWhile_cons_of_neg (by simp [visible]))

theorem comma_other (mark : Char) (rest : List Char) (other : ',' ≠ mark) : accept? mark (',' :: rest) = none :=
  accept_other (List.dropWhile_cons_of_neg (by decide)) other

theorem text_reads (apart : name.IsApart) (rest : List Char) :
    Reads ((quotedText name).toList ++ rest) (.text name) rest := by
  rw [quoted_text]
  obtain ⟨shorter,read⟩ := string_reread ((quotedBody name.points rest).length + 1) apart rest
  refine ⟨by simpa using shorter,?_⟩
  rw [value,if_pos rfl,read]
  rfl

theorem scalar_reads {c : Char} (read : ∃ shorter, scalar (c :: cs) = .ok (v,⟨rest,shorter⟩)) (quote : c ≠ '"')
    (bracket : c ≠ '[') (brace : c ≠ '\x7b') : Reads (c :: cs) v rest := by
  obtain ⟨shorter,read⟩ := read
  refine ⟨shorter,?_⟩
  rw [value,if_neg quote,if_neg bracket,if_neg brace,read]

theorem empty_list_reads (rest : List Char) : Reads ('[' :: ']' :: rest) (.list []) rest := by
  obtain ⟨shorter,read⟩ := accept_next ']' rest rfl
  refine ⟨by simp only [List.length_cons]; omega,?_⟩
  rw [value,if_neg (by decide),if_pos rfl,read]

theorem list_reads {c : Char} (next : cs.dropWhile isBlank = c :: tail) (open_ : c ≠ ']')
    (read : ReadsItems (c :: tail) vs rest) : Reads ('[' :: cs) (.list vs) rest := by
  have within := length_dropWhile_le isBlank cs
  rw [← next] at read
  obtain ⟨shorter,read⟩ := read
  change items (skipBlanks cs).val = _ at read
  refine ⟨by simp only [List.length_cons]; omega,?_⟩
  rw [value,if_neg (by decide),if_pos rfl,accept_other next open_]
  simp only [read]
  rfl

theorem empty_map_reads (rest : List Char) : Reads ('\x7b' :: '\x7d' :: rest) (.map []) rest := by
  obtain ⟨shorter,read⟩ := accept_next '\x7d' rest rfl
  refine ⟨by simp only [List.length_cons]; omega,?_⟩
  rw [value,if_neg (by decide),if_neg (by decide),if_pos rfl,read]

theorem map_reads {c : Char} (next : cs.dropWhile isBlank = c :: tail) (open_ : c ≠ '\x7d')
    (read : ReadsMembers (c :: tail) entries rest) : Reads ('\x7b' :: cs) (.map (Entries.ofList entries)) rest := by
  have within := length_dropWhile_le isBlank cs
  rw [← next] at read
  obtain ⟨shorter,read⟩ := read
  change members (skipBlanks cs).val = _ at read
  refine ⟨by simp only [List.length_cons]; omega,?_⟩
  rw [value,if_neg (by decide),if_neg (by decide),if_pos rfl,accept_other next open_]
  simp only [read]
  rfl

theorem item_reads {middle : List Char} (first : Reads cs v middle)
    (last : middle.dropWhile isBlank = ']' :: rest) : ReadsItems cs [v] rest := by
  obtain ⟨shorter,read⟩ := first
  obtain ⟨behind,closed⟩ := accept_found last
  refine ⟨by omega,?_⟩
  rw [items,read]
  simp only [bind,Except.bind,closed]

theorem items_reads {middle others : List Char} (first : Reads cs v (',' :: middle))
    (next : middle.dropWhile isBlank = others) (more : ReadsItems others vs rest) :
    ReadsItems cs (v :: vs) rest := by
  have within := length_dropWhile_le isBlank middle
  obtain ⟨shorter,read⟩ := first
  obtain ⟨behind,accepted⟩ := accept_next ',' middle rfl
  subst next
  obtain ⟨last,more⟩ := more
  change items (skipBlanks middle).val = _ at more
  refine ⟨by simp at shorter; omega,?_⟩
  rw [items,read]
  simp only [bind,Except.bind,comma_other ']' middle (by decide),accepted,more]

theorem member_reads {behind start middle : List Char} (apart : name.IsApart)
    (value_ : behind.dropWhile isBlank = start) (first : Reads start v middle)
    (last : middle.dropWhile isBlank = '\x7d' :: rest) :
    ReadsMembers ((quotedText name).toList ++ ':' :: behind) [(.text name,v)] rest := by
  have within := length_dropWhile_le isBlank behind
  subst value_
  obtain ⟨named,nameRead⟩ :=
    string_reread ((quotedBody name.points (':' :: behind)).length + 1) apart (':' :: behind)
  obtain ⟨colon,accepted⟩ := accept_next ':' behind rfl
  obtain ⟨shorter,read⟩ := first
  change value (skipBlanks behind).val = _ at read
  obtain ⟨closing,closed⟩ := accept_found last
  rw [quoted_text]
  refine ⟨by simp at named colon ⊢; omega,?_⟩
  rw [members,if_pos rfl,nameRead]
  simp only [bind,Except.bind,accepted,read,closed]

theorem members_reads {behind start middle others : List Char} (apart : name.IsApart)
    (value_ : behind.dropWhile isBlank = start) (first : Reads start v (',' :: middle))
    (next : middle.dropWhile isBlank = others) (more : ReadsMembers others entries rest) :
    ReadsMembers ((quotedText name).toList ++ ':' :: behind) ((.text name,v) :: entries) rest := by
  have within := length_dropWhile_le isBlank behind
  have inside := length_dropWhile_le isBlank middle
  subst value_ next
  obtain ⟨named,nameRead⟩ :=
    string_reread ((quotedBody name.points (':' :: behind)).length + 1) apart (':' :: behind)
  obtain ⟨colon,accepted⟩ := accept_next ':' behind rfl
  obtain ⟨shorter,read⟩ := first
  change value (skipBlanks behind).val = _ at read
  obtain ⟨comma,separated⟩ := accept_next ',' middle rfl
  obtain ⟨last,more⟩ := more
  change members (skipBlanks middle).val = _ at more
  rw [quoted_text]
  refine ⟨by simp at named colon shorter ⊢; omega,?_⟩
  rw [members,if_pos rfl,nameRead]
  simp only [bind,Except.bind,accepted,read,comma_other '\x7d' middle (by decide),separated,more]

end Readers

section Texts

-- A character that may begin a value: it is not skipped, and closes nothing.
def opensValue (c : Char) : Bool :=
  !isBlank c && c != ']' && c != '\uFEFF'

theorem opens_exact {c : Char} : opensValue c = true ↔ isBlank c = false ∧ c ≠ ']' ∧ c ≠ '\uFEFF' := by
  simp [opensValue,and_assoc]

-- A text that is read as the value in front of whatever ends one.
structure IsTextOf (text : String) (v : Value) : Prop where
  begins : ∃ c cs, text.toList = c :: cs ∧ opensValue c = true
  reads : ∀ rest, Stops rest → Reads (text.toList ++ rest) v rest

def IsMemberOf (text : String) (entry : Value × Value) : Prop :=
  ∃ (name : Text) (item : String), text = quotedText name ++ ": " ++ item ∧ entry.1 = .text name ∧ name.IsApart ∧
    IsTextOf item entry.2

variable {depth : Nat} {texts : List String}

theorem lineBreak_text (depth : Nat) : (lineBreak depth).toList = '\n' :: List.replicate (2 * depth) ' ' := by
  simp [lineBreak]

theorem lineBreak_stops (depth : Nat) (rest : List Char) : Stops ((lineBreak depth).toList ++ rest) := by
  rw [lineBreak_text]
  exact .feed _

theorem lineBreak_skipped {c : Char} (depth : Nat) (visible : isBlank c = false) (rest : List Char) :
    ((lineBreak depth).toList ++ c :: rest).dropWhile isBlank = c :: rest := by
  have blank : ∀ b ∈ (lineBreak depth).toList, isBlank b = true := by
    intro b member
    rw [lineBreak_text] at member
    rcases List.mem_cons.mp member with rfl | space
    · rfl
    · rw [(List.mem_replicate.mp space).2]; rfl
  rw [List.dropWhile_append_of_pos blank,List.dropWhile_cons_of_neg (by simp [visible])]

theorem IsTextOf.skipped (isText : IsTextOf text v) (depth : Nat) (rest : List Char) :
    ((lineBreak depth).toList ++ (text.toList ++ rest)).dropWhile isBlank = text.toList ++ rest := by
  obtain ⟨c,cs,own,opens⟩ := isText.begins
  rw [own]
  exact lineBreak_skipped depth (opens_exact.mp opens).1 _

theorem intercalate_begins (separator first : String) (texts : List String) :
    ∃ others, (String.intercalate separator (first :: texts)).toList = first.toList ++ others := by
  cases texts with
  | nil => exact ⟨[],by simp⟩
  | cons second texts => exact ⟨_,by rw [String.intercalate_cons_cons,String.append_assoc,String.toList_append]⟩

theorem intercalate_more (separator first second : String) (texts : List String) (rest : List Char) :
    (String.intercalate separator (first :: second :: texts)).toList ++ rest =
      first.toList ++ (separator.toList ++ ((String.intercalate separator (second :: texts)).toList ++ rest)) := by
  rw [String.intercalate_cons_cons]
  simp only [String.toList_append,List.append_assoc]

-- Each item stands in front of a comma and a line break, the last one in front of the closing bracket;
-- so the induction is on the texts that are still to come.
theorem items_reread (depth inner : Nat) {first : String} (each : List.Forall₂ IsTextOf (first :: texts) (v :: vs))
    (rest : List Char) : ReadsItems ((String.intercalate ("," ++ lineBreak inner) (first :: texts)).toList ++
      ((lineBreak depth).toList ++ ']' :: rest)) (v :: vs) rest := by
  induction texts generalizing first v vs with
  | nil =>
    cases each with
    | cons isText none_ =>
      cases none_
      rw [String.intercalate_singleton]
      exact item_reads (isText.reads _ (lineBreak_stops _ _)) (lineBreak_skipped depth rfl rest)
  | cons second texts ih =>
    cases each with
    | cons isText others =>
      cases others with
      | cons isNext more =>
        have behind := ih (.cons isNext more)
        obtain ⟨begun,begins⟩ := intercalate_begins ("," ++ lineBreak inner) second texts
        rw [intercalate_more,String.toList_append]
        refine items_reads (isText.reads _ (.comma _)) ?_ behind
        rw [begins,List.append_assoc]
        exact isNext.skipped inner _

theorem member_text (name : Text) (item : String) (rest : List Char) :
    (quotedText name ++ ": " ++ item).toList ++ rest =
      (quotedText name).toList ++ ':' :: ' ' :: (item.toList ++ rest) := by
  simp

theorem IsTextOf.behind_blank (isText : IsTextOf text v) (rest : List Char) :
    (' ' :: (text.toList ++ rest)).dropWhile isBlank = text.toList ++ rest := by
  obtain ⟨c,cs,own,opens⟩ := isText.begins
  have visible := (opens_exact.mp opens).1
  rw [List.dropWhile_cons_of_pos rfl,own,List.cons_append,List.dropWhile_cons_of_neg (by simp [visible])]

theorem IsMemberOf.begins {entry : Value × Value} (isMember : IsMemberOf text entry) :
    ∃ cs, text.toList = '"' :: cs := by
  obtain ⟨name,item,rfl,_⟩ := isMember
  simp [quotedText]

theorem members_reread (depth inner : Nat) {first : String} {entry : Value × Value}
    (each : List.Forall₂ IsMemberOf (first :: texts) (entry :: entries)) (rest : List Char) :
    ReadsMembers ((String.intercalate ("," ++ lineBreak inner) (first :: texts)).toList ++
      ((lineBreak depth).toList ++ '\x7d' :: rest)) (entry :: entries) rest := by
  induction texts generalizing first entry entries with
  | nil =>
    cases each with
    | cons isMember none_ =>
      cases none_
      obtain ⟨name,item,rfl,key,apart,isText⟩ := isMember
      obtain ⟨_,v⟩ := entry
      cases key
      rw [String.intercalate_singleton,member_text]
      exact member_reads apart (isText.behind_blank _) (isText.reads _ (lineBreak_stops _ _))
        (lineBreak_skipped depth rfl rest)
  | cons second texts ih =>
    cases each with
    | cons isMember others =>
      cases others with
      | cons isNext more =>
        have behind := ih (.cons isNext more)
        obtain ⟨begun,begins⟩ := intercalate_begins ("," ++ lineBreak inner) second texts
        obtain ⟨cs,quote⟩ := isNext.begins
        obtain ⟨name,item,rfl,key,apart,isText⟩ := isMember
        obtain ⟨_,v⟩ := entry
        cases key
        rw [intercalate_more,member_text,String.toList_append]
        refine members_reads apart (isText.behind_blank _) (isText.reads _ (.comma _)) ?_ behind
        rw [begins,quote]
        exact lineBreak_skipped inner rfl _

end Texts

section Written

mutual

-- Values whose text gives them back, but for dates and moments. Two halves in a row that make a pair
-- would be read as one character.
def IsKept : Value → Prop
  | .null => True
  | .bool _ => True
  | .int n => IsShort n
  | .text t => t.IsApart
  | .date _ => True
  | .moment _ => True
  | .list items => AreKept items
  | .tuple items => AreKept items
  | .map entries => Entries.AreDistinct entries ∧ EntriesAreKept entries
  | _ => False

def AreKept : List Value → Prop
  | [] => True
  | v :: rest => IsKept v ∧ AreKept rest

def EntriesAreKept : List (Value × Value) → Prop
  | [] => True
  | (key,v) :: rest => (∃ name, key = .text name ∧ name.IsApart) ∧ IsKept v ∧ EntriesAreKept rest

end

mutual

-- What the text of a value is read as.
def kept : Value → Value
  | .date d => .text d.iso
  | .moment m => .text m.iso
  | .list items => .list (allKept items)
  | .tuple items => .list (allKept items)
  | .map entries => .map (entriesKept entries)
  | v => v

def allKept : List Value → List Value
  | [] => []
  | v :: rest => kept v :: allKept rest

def entriesKept : List (Value × Value) → List (Value × Value)
  | [] => []
  | (key,v) :: rest => (key,kept v) :: entriesKept rest

end

theorem entriesAreKept_exact {entries : Entries} :
    EntriesAreKept entries ↔ ∀ entry ∈ entries, (∃ name, entry.1 = .text name ∧ name.IsApart) ∧ IsKept entry.2 := by
  induction entries with
  | nil => simp [EntriesAreKept]
  | cons entry rest ih => simp [EntriesAreKept,ih,and_assoc]

theorem entriesKept_map (entries : Entries) : entriesKept entries = entries.map fun (key,v) => (key,kept v) := by
  induction entries with
  | nil => rfl
  | cons entry rest ih => rw [entriesKept,ih]; rfl

theorem entriesKept_distinct {entries : Entries} (distinct : Entries.AreDistinct entries) :
    Entries.AreDistinct (entriesKept entries) := by
  rw [entriesKept_map]
  exact List.pairwise_map.mpr distinct

theorem quoted_isText (apart : name.IsApart) : IsTextOf (quotedText name) (.text name) :=
  ⟨⟨'"',_,by simpa using quoted_text name [],rfl⟩,fun rest _ => text_reads apart rest⟩

theorem whole_isText (s : String) : IsTextOf (quotedText s) (.text s) :=
  quoted_isText (Text.whole_apart s)

def opensScalar (c : Char) : Bool :=
  opensValue c && c != '"' && c != '[' && c != '\x7b'

theorem scalar_isText {c : Char} (own : text.toList = c :: cs) (opens : opensScalar c = true)
    (read : ReadsScalar text v) : IsTextOf text v := by
  simp only [opensScalar,Bool.and_eq_true,bne_iff_ne] at opens
  obtain ⟨⟨⟨first,quote⟩,bracket⟩,brace⟩ := opens
  refine ⟨⟨c,cs,own,first⟩,?_⟩
  intro rest stops
  have read := read rest stops
  rw [own] at read ⊢
  exact scalar_reads read quote bracket brace

theorem null_isText : IsTextOf "null" .null :=
  scalar_isText rfl rfl null_reread

theorem bool_isText (b : Bool) : IsTextOf (if b then "true" else "false") (.bool b) := by
  have read := bool_reread b
  cases b with
  | true => exact scalar_isText rfl rfl read
  | false => exact scalar_isText rfl rfl read

theorem integer_isText {n : Int} (short : IsShort n) : IsTextOf (Text.signedDecimal n) (.int n) := by
  obtain ⟨c,cs,_,digit,own⟩ := signed_head n
  split at own
  · exact scalar_isText own rfl (integer_reread short)
  · have opens : opensScalar c = true := by
      have other (mark : Char) (no : mark.isDigit = false) : c ≠ mark := digit_unlike digit no
      simp [opensScalar,opensValue,isBlank,other ' ' rfl,other '\t' rfl,other '\n' rfl,
        other '\r' rfl,other ']' rfl,other '\uFEFF' rfl,other '"' rfl,
        other '[' rfl,other '\x7b' rfl]
    exact scalar_isText own opens (integer_reread short)

theorem enclosed_none (opening closing : Char) (depth : Nat) :
    (enclosed opening closing depth []).toList = [opening,closing] := by
  simp [enclosed]

theorem enclosed_some (opening closing : Char) (depth : Nat) (first : String) (texts : List String)
    (rest : List Char) :
    (enclosed opening closing depth (first :: texts)).toList ++ rest =
      opening :: ((lineBreak (depth + 1)).toList ++
        ((String.intercalate ("," ++ lineBreak (depth + 1)) (first :: texts)).toList ++
          ((lineBreak depth).toList ++ closing :: rest))) := by
  simp [enclosed]

theorem list_isText (depth : Nat) {texts : List String} (each : List.Forall₂ IsTextOf texts vs) :
    IsTextOf (enclosed '[' ']' depth texts) (.list vs) := by
  cases each with
  | nil =>
    refine ⟨⟨_,_,enclosed_none '[' ']' depth,rfl⟩,?_⟩
    intro rest _
    rw [enclosed_none]
    exact empty_list_reads rest
  | @cons text v texts vs first more =>
    refine ⟨⟨_,_,by simpa using enclosed_some '[' ']' depth text texts [],rfl⟩,?_⟩
    intro rest _
    have read := items_reread depth (depth + 1) (.cons first more) rest
    obtain ⟨others,begins⟩ := intercalate_begins ("," ++ lineBreak (depth + 1)) text texts
    obtain ⟨c,cs,own,opens⟩ := first.begins
    obtain ⟨visible,open_,_⟩ := opens_exact.mp opens
    rw [begins,own] at read
    rw [enclosed_some,begins,own]
    exact list_reads (lineBreak_skipped (depth + 1) visible _) open_ read

theorem map_isText (depth : Nat) {texts : List String} (each : List.Forall₂ IsMemberOf texts entries)
    (distinct : Entries.AreDistinct entries) : IsTextOf (enclosed '\x7b' '\x7d' depth texts) (.map entries) := by
  cases each with
  | nil =>
    refine ⟨⟨_,_,enclosed_none '\x7b' '\x7d' depth,rfl⟩,?_⟩
    intro rest _
    rw [enclosed_none]
    exact empty_map_reads rest
  | @cons text entry texts entries first more =>
    refine ⟨⟨_,_,by simpa using enclosed_some '\x7b' '\x7d' depth text texts [],rfl⟩,?_⟩
    intro rest _
    have read := members_reread depth (depth + 1) (.cons first more) rest
    obtain ⟨others,begins⟩ := intercalate_begins ("," ++ lineBreak (depth + 1)) text texts
    obtain ⟨cs,quote⟩ := first.begins
    rw [begins,quote] at read
    rw [enclosed_some,begins,quote]
    have mapped := map_reads (lineBreak_skipped (depth + 1) rfl _) (by decide) read
    rwa [Entries.ofList_distinct distinct] at mapped

mutual

theorem written_reread : (v : Value) → IsKept v → ∀ depth,
    ∃ text, writeAt depth v = .ok text ∧ IsTextOf text (kept v)
  | .null, _, _ => ⟨_,rfl,null_isText⟩
  | .bool b, _, _ => ⟨_,rfl,bool_isText b⟩
  | .int n, short, _ => ⟨_,rfl,integer_isText short⟩
  | .text _, apart, _ => ⟨_,rfl,quoted_isText apart⟩
  | .date d, _, _ => ⟨_,rfl,whole_isText d.iso⟩
  | .moment m, _, _ => ⟨_,rfl,whole_isText m.iso⟩
  | .list items, each, depth => by
    obtain ⟨texts,written,isText⟩ := items_written items each (depth + 1)
    exact ⟨_,by rw [writeAt,written]; rfl,list_isText depth isText⟩
  | .tuple items, each, depth => by
    obtain ⟨texts,written,isText⟩ := items_written items each (depth + 1)
    exact ⟨_,by rw [writeAt,written]; rfl,list_isText depth isText⟩
  | .map entries, each, depth => by
    obtain ⟨texts,written,isText⟩ := entries_written entries each.2 (depth + 1)
    exact ⟨_,by rw [writeAt,written]; rfl,map_isText depth isText (entriesKept_distinct each.1)⟩
  | .float _, no, _ => no.elim
  | .bytes _, no, _ => no.elim
  | .set _, no, _ => no.elim
  | .chain _, no, _ => no.elim

theorem items_written : (items : List Value) → AreKept items → ∀ depth,
    ∃ texts, writeItems depth items = .ok texts ∧ List.Forall₂ IsTextOf texts (allKept items)
  | [], _, _ => ⟨[],rfl,.nil⟩
  | v :: rest, each, depth => by
    obtain ⟨text,first,isText⟩ := written_reread v each.1 depth
    obtain ⟨texts,others,areTexts⟩ := items_written rest each.2 depth
    exact ⟨_,by rw [writeItems,first,others]; rfl,.cons isText areTexts⟩

theorem entries_written : (entries : List (Value × Value)) → EntriesAreKept entries → ∀ depth,
    ∃ texts, writeEntries depth entries = .ok texts ∧ List.Forall₂ IsMemberOf texts (entriesKept entries)
  | [], _, _ => ⟨[],rfl,.nil⟩
  | (key,v) :: rest, each, depth => by
    obtain ⟨⟨name,rfl,apart⟩,value,more⟩ := each
    obtain ⟨text,first,isText⟩ := written_reread v value depth
    obtain ⟨texts,others,areMembers⟩ := entries_written rest more depth
    exact ⟨_,by rw [writeEntries,first,others]; rfl,.cons ⟨name,text,rfl,rfl,apart,isText⟩ areMembers⟩

end

theorem text_reread (v : Value) (isKept : IsKept v) :
    ∃ text, write v = .ok text ∧ read text = .ok (kept v) := by
  obtain ⟨text,written,isText⟩ := written_reread v isKept 0
  obtain ⟨c,cs,own,opens⟩ := isText.begins
  obtain ⟨visible,_,mark⟩ := opens_exact.mp opens
  have whole := isText.reads [] .finish
  have unskipped : (skipBlanks text.toList).val = text.toList ++ [] := by
    rw [List.append_nil,own]
    exact List.dropWhile_cons_of_neg (by simp [visible])
  rw [← unskipped] at whole
  obtain ⟨_,found⟩ := whole
  refine ⟨text,written,?_⟩
  unfold read document
  rw [if_neg (by simp [own,mark]),found]
  rfl

end Written

end TemplateSchema.Json
