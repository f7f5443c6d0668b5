import TemplateSchema.Proofs.Chain.Spelling
import TemplateSchema.Proofs.Template.Directive
import TemplateSchema.Template.Extraction
/-!
Directives that are left to the reader of builder chains. A directive that is no JSON is searched for
a builder's call. If its expressions declare something and one of them spells its first call in one
piece, the search finds that call, and extraction finds no schema and warns of nothing.
-/
set_option autoImplicit false
namespace TemplateSchema.Directive

open Chain (Member Opening Spans declarationOf membersOf)

section Calls

variable {name blanks cs : List Char}

theorem blank_uncalled {b : Char} (blank : Text.isBlank b = true) : isCallName b = false := by
  have name := (Chain.blank_inert blank).name
  simp only [Chain.continuesName,Chain.startsName,Bool.or_eq_false_iff] at name
  simp [isCallName,name]

theorem blanks_skipped (blank : ∀ b ∈ blanks, Text.isBlank b = true) (cs : List Char) :
    skipBlanks (blanks ++ cs) = skipBlanks cs :=
  List.dropWhile_append_of_pos blank

theorem name_ends (blank : ∀ b ∈ blanks, Text.isBlank b = true) (cs : List Char) :
    (blanks ++ '(' :: cs).takeWhile isCallName = [] ∧
      (blanks ++ '(' :: cs).dropWhile isCallName = blanks ++ '(' :: cs := by
  cases blanks with
  | nil => exact ⟨rfl,rfl⟩
  | cons b rest =>
    have stops := blank_uncalled (blank b List.mem_cons_self)
    simp [stops]

theorem starts_call (some_ : name ≠ []) (letters : ∀ c ∈ name, c.isAlpha = true)
    (blank : ∀ b ∈ blanks, Text.isBlank b = true) (cs : List Char) :
    startsCall ('z' :: '.' :: (name ++ (blanks ++ '(' :: cs))) = true := by
  have named : ∀ c ∈ name, isCallName c = true := fun c member => by simp [isCallName,letters c member]
  have found : literally? ['z','.'] ('z' :: '.' :: (name ++ (blanks ++ '(' :: cs))) =
      some (name ++ (blanks ++ '(' :: cs)) := by
    simp [literally?]
  obtain ⟨taken,left⟩ := name_ends blank cs
  have paren : skipBlanks ('(' :: cs) = '(' :: cs := List.dropWhile_cons_of_neg (by decide)
  rw [startsCall,found]
  simp only
  rw [List.takeWhile_append_of_pos named,List.dropWhile_append_of_pos named,taken,left,blanks_skipped blank,paren]
  simp [some_]

-- A call is found where it starts, if nothing in front of it makes its first letter part of a word.
theorem hasCall_starts (calls : startsCall cs = true) : hasCall false cs = true := by
  cases cs with
  | nil => cases calls
  | cons c rest => simp [hasCall,calls]

theorem hasCall_behind (found : ∀ afterWord, hasCall afterWord cs = true) (before : List Char) {afterWord : Bool} :
    hasCall afterWord (before ++ cs) = true := by
  induction before generalizing afterWord with
  | nil => exact found afterWord
  | cons c rest ih => rw [List.cons_append,hasCall,ih,Bool.or_true]

theorem hasCall_free (calls : startsCall cs = true) (free : ∀ b ∈ blanks, Text.isWord b = false) :
    hasCall false (blanks ++ cs) = true := by
  induction blanks with
  | nil => exact hasCall_starts calls
  | cons b rest ih =>
    obtain ⟨here,others⟩ := List.forall_mem_cons.mp free
    rw [List.cons_append,hasCall,here,ih others,Bool.or_true]

theorem hasCall_found {stop : Char} (calls : startsCall cs = true) (border : Text.isWord stop = false)
    (free : ∀ b ∈ blanks, Text.isWord b = false) (before : List Char) :
    hasCall false (before ++ stop :: (blanks ++ cs)) = true := by
  refine hasCall_behind ?_ before
  intro afterWord
  rw [hasCall,border,hasCall_free calls free,Bool.or_true]

end Calls

section Words

theorem blank_free {b : Char} (blank : Text.isBlank b = true) : Text.isWord b = false := by
  have code := Chain.blank_code blank
  have ascii : ∀ n ∈ Chain.blankCodes, n < 128 → Text.isAsciiWord (Char.ofNat n) = false := by decide
  have beyond : (Chain.blankCodes.all fun n => n < 128 ||
      !Text.wordRanges.any fun range => range.1.ble n && n.ble range.2) = true := by decide +kernel
  have outside := List.all_eq_true.mp beyond _ code
  rw [Text.isWord]
  by_cases small : b.toNat < 128
  · have free := ascii _ code small
    rw [Char.ofNat_toNat] at free
    rw [if_pos small,free]
  · simpa [small,← Nat.ble_eq] using outside

theorem mark_free {c : Char} (single : Chain.isMark c = true) : Text.isWord c = false := by
  simp only [Chain.isMark,Bool.or_eq_true,beq_iff_eq,or_assoc] at single
  rcases single with rfl | rfl | rfl | rfl | rfl | rfl | rfl | rfl | rfl <;> rfl

theorem quote_free {c : Char} (isQuote : c = '"' ∨ c = '\'') : Text.isWord c = false := by
  rcases isQuote with rfl | rfl <;> rfl

end Words

-- A builder and the name of its first call in one piece, nothing in them escaped.
def IsPlain (cs : List Char) : Prop :=
  '\\' ∉ cs.takeWhile (· ≠ '(') ∧ ∃ c rest, skipBlanks cs = 'z' :: '.' :: c :: rest ∧ Text.isBlank c = false

-- An expression as the directive spells it: a quoted one between its quotation marks.
def spelling (source : List Char) (m : Member) : List Char :=
  match m.value with
  | .text _ => ((slice source m).drop 1).dropLast
  | _ => slice source m

section Openings

variable {front rest cs : List Char}

theorem blank_absent {c d : Char} {blanks xs ys : List Char} (blank : ∀ b ∈ blanks, Text.isBlank b = true)
    (solid : Text.isBlank d = false) (same : blanks ++ c :: xs = d :: ys) : blanks = [] ∧ c = d ∧ xs = ys := by
  cases blanks with
  | nil => exact ⟨rfl,(List.cons.inj same).1,(List.cons.inj same).2⟩
  | cons b others =>
    obtain ⟨rfl,_⟩ := List.cons.inj same
    rw [blank b List.mem_cons_self] at solid
    cases solid

-- A plain opening is blanks and then a call.
theorem opening_starts (opening : Opening front)
    (plain : ∃ c more, skipBlanks (front ++ '(' :: rest) = 'z' :: '.' :: c :: more ∧ Text.isBlank c = false) :
    ∃ blanks call, front ++ '(' :: rest = blanks ++ call ∧ (∀ b ∈ blanks, Text.isBlank b = true) ∧
      ∀ after, startsCall (call ++ after) = true := by
  obtain ⟨c,more,skipped,solid⟩ := plain
  obtain @⟨before,inner,outer,name,behind,blank,some_,letters⟩ := opening
  simp only [List.mem_append,or_imp,forall_and] at blank
  obtain ⟨⟨⟨before_,inner_⟩,outer_⟩,behind_⟩ := blank
  obtain ⟨first,others,rfl⟩ := List.exists_cons_of_ne_nil some_
  have whole : before ++ 'z' :: (inner ++ '.' :: (outer ++ (first :: others ++ behind))) ++ '(' :: rest =
      before ++ 'z' :: (inner ++ '.' :: (outer ++ first :: (others ++ (behind ++ '(' :: rest)))) := by
    simp
  have builder (cs : List Char) : skipBlanks ('z' :: cs) = 'z' :: cs := List.dropWhile_cons_of_neg (by decide)
  rw [whole,blanks_skipped before_,builder] at skipped
  obtain ⟨rfl,_,skipped⟩ := blank_absent inner_ (by decide) (List.cons.inj skipped).2
  obtain ⟨rfl,_,_⟩ := blank_absent outer_ solid skipped
  refine ⟨before,'z' :: '.' :: (first :: others ++ (behind ++ '(' :: rest)),by simp,before_,?_⟩
  intro after
  simpa using starts_call some_ letters behind_ (rest ++ after)

-- What is not escaped up to a parenthesis is read as it stands.
theorem unescaped_front : ∀ {cs front rest : List Char}, Chain.unescaped cs = front ++ '(' :: rest → '(' ∉ front →
    '\\' ∉ cs.takeWhile (· ≠ '(') → ∃ more, cs = front ++ '(' :: more
  | [], front, _, read, _, _ => by simp [Chain.unescaped] at read
  | [c], front, rest, read, _, _ => ⟨rest,read⟩
  | c :: d :: tail, front, rest, read, open_, plain => by
    by_cases hidden : c = '\\'
    · subst hidden
      simp at plain
    · rw [Chain.unescaped,if_neg hidden] at read
      cases front with
      | nil => exact ⟨d :: tail,by rw [(List.cons.inj read).1]; rfl⟩
      | cons f others =>
        rw [List.cons_append] at read
        obtain ⟨rfl,later⟩ := List.cons.inj read
        rw [List.mem_cons,not_or] at open_
        rw [List.takeWhile_cons_of_pos (by simpa using Ne.symm open_.1),List.mem_cons,not_or] at plain
        obtain ⟨more,same⟩ := unescaped_front later open_.2 plain.2
        exact ⟨more,by rw [same]; rfl⟩

theorem opening_open (opening : Opening front) : '(' ∉ front := by
  obtain @⟨before,inner,outer,name,behind,blank,_,letters⟩ := opening
  have letter : '(' ∉ name := fun member => absurd (letters _ member) (by decide)
  have gap : '(' ∉ before ++ inner ++ outer ++ behind := fun member => absurd (blank _ member) (by decide)
  simp only [List.mem_append,List.mem_cons,not_or] at gap ⊢
  simp [letter,gap]

end Openings

section Members

variable {source : List Char} {ts : List Chain.Token} {m : Member} {s : Text} {d : Entries}

-- A quoted expression stands in the directive between its quotation marks.
theorem text_spelled (read : Chain.tokens source = .ok ts) (spans : Spans ts m) (isText : m.value = .text s) :
    ∃ own, s = .whole own ∧ ∃ before quote close after,
      source = before ++ quote :: (spelling source m ++ close :: after) ∧
        (quote = '"' ∨ quote = '\'') ∧ own.toList = Chain.unescaped (spelling source m) := by
  obtain ⟨before,used,after,term,rfl,lexemes,meant,starts,stops⟩ := spans
  rw [isText] at meant
  obtain ⟨quoted,rfl,rfl⟩ := Chain.text_meaning meant
  obtain ⟨t,rfl,same⟩ := List.map_eq_singleton_iff.mp lexemes
  obtain ⟨kind,rfl⟩ := Prod.mk.inj same
  have lexed := (Chain.tokensFrom_exact.mp read)
  rw [List.append_assoc,List.singleton_append] at lexed
  obtain ⟨_,here⟩ := lexed.behind
  obtain ⟨blanks,rest,found,_,start,stop,_⟩ := here.first
  obtain ⟨quote,body,close,text,isQuote⟩ := here.quoted_text kind
  have behind : source.drop t.start = t.text ++ rest := by
    rw [List.length_eq_zero_iff.mp (Nat.left_eq_add.mp start)] at found
    exact found
  have cut : slice source m = t.text := by
    have starts : m.start = t.start := starts
    have stops : m.stop = t.stop := stops
    rw [slice,starts,stops,stop,behind,Nat.add_sub_cancel_left,List.take_left']
    rfl
  have body_ : spelling source m = body := by
    rw [spelling,isText]
    simp [cut,text]
  refine ⟨_,rfl,source.take t.start,quote,close,rest,?_,isQuote,?_⟩
  · conv_lhs => rw [← List.take_append_drop t.start source,behind,text]
    simp [body_]
  · rw [body_,Chain.unquoted,String.toList_ofList,text]
    simp

-- An inline expression stands behind a mark, or blanks behind one.
theorem chain_spelled {pairs : Chain.Pairs} (read : Chain.tokens source = .ok ts)
    (lexemes : ts.map Chain.Token.lexeme = Chain.mark '\x7b' :: (pairs.lexemes ++ [Chain.mark '\x7d']))
    (spans : Spans ts m) (isChain : m.value = .chain d) :
    ∃ before mark blanks after, source = before ++ mark :: (blanks ++ (spelling source m ++ after)) ∧
      Chain.isMark mark = true ∧ ∀ b ∈ blanks, Text.isBlank b = true := by
  have borders : (ts.map Chain.Token.lexeme).IsChain Chain.Borders := by
    rw [lexemes]
    exact Chain.borders_joined .nil (Chain.borders_joined (Chain.pairs_borders pairs) .nil)
  obtain ⟨before,used,after,term,rfl,own,meant,starts,_⟩ := spans
  rw [isChain] at meant
  obtain ⟨⟨call,more⟩,rfl,_⟩ := Chain.chain_meaning meant
  obtain ⟨z,others,rfl,isZ,_⟩ := List.map_eq_cons_iff.mp own
  cases before using List.reverseRecOn with
  | nil =>
    rw [List.nil_append,List.cons_append,List.map_cons,isZ] at lexemes
    cases (List.cons.inj lexemes).1
  | append_singleton front u =>
    have whole : front ++ [u] ++ z :: others ++ after = front ++ u :: z :: (others ++ after) := by simp
    rw [whole] at read borders
    have lexed := Chain.tokensFrom_exact.mp read
    obtain ⟨before,blanks,rest,found,blank,start⟩ := lexed.between
    rw [List.map_append,List.map_cons,List.map_cons] at borders
    have border := (List.isChain_cons_cons.mp (List.isChain_append.mp borders).2.1).1
    rw [isZ] at border
    obtain ⟨mark,text,single⟩ := lexed.behind.2.mark_text (border.resolve_right nofun)
    have place : m.start = (before ++ (u.text ++ blanks)).length := by
      rw [← Nat.zero_add (List.length _),← start]
      exact starts
    have behind : source.drop m.start = z.text ++ rest := by
      have front : source = before ++ (u.text ++ blanks) ++ (z.text ++ rest) := by simp [found]
      rw [place,front,List.drop_left]
    have own : spelling source m = (z.text ++ rest).take (m.stop - m.start) := by
      rw [spelling,isChain,slice,behind]
    refine ⟨before,mark,blanks,(z.text ++ rest).drop (m.stop - m.start),?_,single,blank⟩
    rw [own,List.take_append_drop,found,text]
    rfl

end Members

-- An expression that is accepted and plain is found to call a builder.
theorem plain_calls {source : List Char} {members : List Member} {m : Member} {s : Text}
    (read : (membersOf source).outcome = .ok members) (member : m ∈ members)
    (kept : m.value = .text s ∨ (∃ d, m.value = .chain d) ∧ s = String.ofList (slice source m))
    (declared : ∀ own, s = .whole own → ∃ d, (declarationOf own).outcome = .ok d)
    (plain : IsPlain (spelling source m)) : hasCall false source = true := by
  obtain ⟨ts,pairs,tokens_,lexemes,spans⟩ := membersOf_object read
  rcases kept with isText | ⟨⟨e,isChain⟩,rfl⟩
  · obtain ⟨text,rfl,before,quote,close,after,whole,isQuote,own⟩ := text_spelled tokens_ (spans m member) isText
    obtain ⟨d,accepted⟩ := declared text rfl
    obtain ⟨front,rest,opened,opening⟩ := Chain.declared_opening accepted
    obtain ⟨more,spelled⟩ := unescaped_front (own.symm.trans opened) (opening_open opening) plain.1
    have starts := plain.2
    rw [spelled] at starts whole
    obtain ⟨blanks,call,same,blank,calls⟩ := opening_starts opening starts
    rw [same,List.append_assoc] at whole
    rw [whole]
    exact hasCall_found (calls _) (quote_free isQuote) (fun b member => blank_free (blank b member)) before
  · obtain ⟨before,mark,gap,after,whole,single,free⟩ := chain_spelled tokens_ lexemes (spans m member) isChain
    obtain ⟨d,accepted⟩ := declared _ rfl
    obtain ⟨front,rest,opened,opening⟩ := Chain.declared_opening accepted
    have own : spelling source m = front ++ '(' :: rest := by
      rw [spelling,isChain,← opened,String.toList_ofList]
    have starts := plain.2
    rw [own] at starts whole
    obtain ⟨blanks,call,same,blank,calls⟩ := opening_starts opening starts
    have together : ∀ b ∈ gap ++ blanks, Text.isWord b = false := by
      intro b member
      rcases List.mem_append.mp member with outside | inside
      · exact blank_free (free b outside)
      · exact blank_free (blank b inside)
    rw [same,List.append_assoc,← List.append_assoc gap] at whole
    rw [whole]
    exact hasCall_found (calls _) (mark_free single) together before

-- Every expression declares something by itself.
def AreDeclared (entries : Entries) : Prop :=
  ∀ name (s : String), (name,.text s) ∈ entries → ∃ d, (declarationOf s).outcome = .ok d

-- Some expression of the text's directive is plain.
def HasPlain (text : String) : Prop :=
  ∃ source members, literalChars? text.toList = some source ∧ (membersOf source).outcome = .ok members ∧
    ∃ m ∈ lastOfEach members, IsPlain (spelling source m)

theorem directive_calls {text literal : String} {entries : Entries}
    (extracted : (chains text).outcome = .ok (some entries)) (declared : AreDeclared entries) (plain : HasPlain text)
    (found : literal? text = some literal) : callsBuilder literal = true := by
  obtain ⟨source,members,chars,read,m,member,plain⟩ := plain
  rw [literal?,chars] at found
  obtain rfl := Option.some.inj found
  rw [chains,chars] at extracted
  simp only [read] at extracted
  obtain ⟨_,_,kept⟩ := Traced.bind_outcome.mp extracted
  obtain ⟨entry,isEntry,s,rfl,keeps⟩ := Success.row_made (chainsOf_kept kept) member
  have accepted (own : String) (same : s = .whole own) : ∃ d, (declarationOf own).outcome = .ok d :=
    declared _ own (same ▸ isEntry)
  rw [callsBuilder,String.toList_ofList]
  exact plain_calls read (lastOfEach_subset members member) keeps accepted plain

end TemplateSchema.Directive

namespace TemplateSchema.Template

open Directive (chains chains_of AreDeclared HasPlain visitText visitSource visitEntries visit_literal visit_members visit_extracted)

-- The directive of a text is no JSON.
def IsForeign (text : String) : Prop :=
  ∃ literal reason position line column, Directive.literal? text = some literal ∧
    Json.read literal = .error (.malformed reason position line column)

-- Nothing is recorded that is meant for the author of a template.
def IsQuiet (records : List LogRecord) : Prop :=
  ∀ r ∈ records, r.severity.rank < Severity.warning.rank

theorem extract_quiet {text : String} {entries : Entries} (bare : (FrontMatter.split text).1 = none)
    (foreign : IsForeign text) (extracted : (chains text).outcome = .ok (some entries))
    (declared : AreDeclared entries) (plain : HasPlain text) :
    (extract text).outcome = .ok none ∧ IsQuiet (extract text).records := by
  obtain ⟨literal,reason,position,line,column,found,refused⟩ := foreign
  have calls := Directive.directive_calls extracted declared plain found
  have absent : inFrontMatter text = ⟨.ok .absent,[]⟩ := by
    rw [inFrontMatter,bare]
    rfl
  have handed : inDirective text =
      ⟨.ok (.declared .null),[⟨.debug,.templates,"Schema directive is not JSON; it holds zod expressions"⟩]⟩ := by
    simp only [inDirective,found,refused,calls,if_true]
    rfl
  have whole : extract text =
      ⟨.ok none,[⟨.debug,.templates,"Schema directive is not JSON; it holds zod expressions"⟩]⟩ := by
    simp only [extract,absent,handed,bind,Traced.andThen]
    rfl
  rw [whole]
  refine ⟨rfl,?_⟩
  intro r member
  rw [List.mem_singleton.mp member]
  decide

section Examples

theorem days_declared : (Chain.declarationOf "z.array( z.date(), )").outcome =
    .ok [(.text "type",.text "array"),(.text "items",.map [(.text "type",.text "date")])] := by
  let date : Chain.Sentence := .of (.of "date".toList .done) .done
  let dates : Chain.Sentence := .of (.of "array".toList (.more (.chain date) .done)) .done
  refine Chain.declarationOf_complete (Chain.scans_map.mpr ?_) (by cbv : dates.meaning = _)
  decide +kernel

theorem string_declared : (Chain.declarationOf "z.string()").outcome = .ok [(.text "type",.text "string")] := by
  let string : Chain.Sentence := .of (.of "string".toList .done) .done
  refine Chain.declarationOf_complete (Chain.scans_map.mpr ?_) (rfl : string.meaning = _)
  decide +kernel

theorem visit_foreign : IsForeign visitText := by
  refine ⟨String.ofList visitSource,.propertyName,1,1,2,?_,by cbv⟩
  rw [Directive.literal?,visit_literal]
  rfl

theorem visit_declared : AreDeclared visitEntries := by
  intro name s member
  simp only [visitEntries,List.mem_cons,Prod.mk.injEq,Value.text.injEq,Text.whole.injEq,List.not_mem_nil,
    or_false] at member
  rcases member with ⟨_,rfl⟩ | ⟨_,rfl⟩
  · exact ⟨_,days_declared⟩
  · exact ⟨_,string_declared⟩

theorem visit_plain : HasPlain visitText := by
  refine ⟨visitSource,_,visit_literal,visit_members,_,List.mem_cons_self,by decide,'a',"rray( z.date(), )".toList,?_,
    by decide⟩
  cbv

theorem visit_quiet : (extract visitText).outcome = .ok none ∧ IsQuiet (extract visitText).records :=
  extract_quiet (by cbv) visit_foreign visit_extracted visit_declared visit_plain

theorem single_declared (name : String) : AreDeclared [(.text name,.text "z.string()")] := by
  intro name s member
  obtain ⟨_,same⟩ := Prod.mk.inj (List.mem_singleton.mp member)
  rw [Text.whole.inj (Value.text.inj same)]
  exact ⟨_,string_declared⟩

-- JSON, and no schema.
def quotedText : String :=
  "\x7b% set schema = \x7b\"note\": \"z.string()\"\x7d %\x7d"

def quotedSource : List Char :=
  "\x7b\"note\": \"z.string()\"\x7d".toList

theorem quoted_literal : Directive.literalChars? quotedText.toList = some quotedSource := by
  cbv

theorem quoted_tokens : Chain.tokens quotedSource = .ok [⟨.mark,['\x7b'],0,1⟩,⟨.string,"\"note\"".toList,1,7⟩,
    ⟨.mark,[':'],7,8⟩,⟨.string,"\"z.string()\"".toList,9,21⟩,⟨.mark,['\x7d'],21,22⟩] := by
  decide +kernel

theorem quoted_members : (Chain.membersOf quotedSource).outcome = .ok [⟨"note",.text "z.string()",9,21⟩] := by
  rw [Chain.membersOf,Chain.readTokens,quoted_tokens]
  simp [bind,pure,Except.mapError,Traced.ofExcept,Traced.andThen,Traced.done,Chain.expectEnd,
    Chain.members,Chain.value,Chain.expect,Chain.accept?,Chain.Token.isMark,Chain.lastStop,Chain.unquoted,
    Chain.unescaped]

-- JSON again, with a key that is `fields` there and another name for the reader of chains.
def escapedText : String :=
  "\x7b% set schema = \x7b\"\\u0066ields\": \x7b\"note\": \x7b\x7d\x7d, \"u0066ields\": \"z.string()\"\x7d %\x7d"

def escapedSource : List Char :=
  "\x7b\"\\u0066ields\": \x7b\"note\": \x7b\x7d\x7d, \"u0066ields\": \"z.string()\"\x7d".toList

theorem escaped_literal : Directive.literalChars? escapedText.toList = some escapedSource := by
  cbv

theorem escaped_tokens : Chain.tokens escapedSource = .ok [⟨.mark,['\x7b'],0,1⟩,
    ⟨.string,"\"\\u0066ields\"".toList,1,14⟩,⟨.mark,[':'],14,15⟩,⟨.mark,['\x7b'],16,17⟩,
    ⟨.string,"\"note\"".toList,17,23⟩,⟨.mark,[':'],23,24⟩,⟨.mark,['\x7b'],25,26⟩,⟨.mark,['\x7d'],26,27⟩,
    ⟨.mark,['\x7d'],27,28⟩,⟨.mark,[','],28,29⟩,⟨.string,"\"u0066ields\"".toList,30,42⟩,⟨.mark,[':'],42,43⟩,
    ⟨.string,"\"z.string()\"".toList,44,56⟩,⟨.mark,['\x7d'],56,57⟩] := by
  decide +kernel

theorem escaped_members : (Chain.membersOf escapedSource).outcome = .ok [
    ⟨"u0066ields",.map [(.text "note",.map [])],16,28⟩,⟨"u0066ields",.text "z.string()",44,56⟩] := by
  rw [Chain.membersOf,Chain.readTokens,escaped_tokens]
  simp [bind,pure,Except.mapError,Traced.ofExcept,Traced.andThen,Traced.done,Chain.expectEnd,
    Chain.members,Chain.value,Chain.expect,Chain.accept?,Chain.Token.isMark,Chain.lastStop,Chain.unquoted,
    Chain.unescaped,Chain.objectOf,Entries.ofList,Entries.insert,Chain.escapedValue]

-- Two directives whose chains are understood: the author is told that the first one is no schema, and
-- the second one is a schema.
theorem json_directives_reported :
    ((FrontMatter.split quotedText).1 = none ∧
      (chains quotedText).outcome = .ok (some [(.text "note",.text "z.string()")]) ∧
      AreDeclared [(.text "note",.text "z.string()")] ∧ ¬ IsQuiet (extract quotedText).records) ∧
    (FrontMatter.split escapedText).1 = none ∧
      (chains escapedText).outcome = .ok (some [(.text "u0066ields",.text "z.string()")]) ∧
      AreDeclared [(.text "u0066ields",.text "z.string()")] ∧ (extract escapedText).outcome ≠ .ok none := by
  have reported : (extract quotedText).records =
      [⟨.warning,.templates,"Ignoring schema: 'fields' must be a mapping of field declarations"⟩] := by
    cbv
  have found : (extract escapedText).outcome = .ok (some (.map [
      (.text "fields",.map [(.text "note",.map [])]),(.text "u0066ields",.text "z.string()")])) := by
    cbv
  refine ⟨⟨by cbv,chains_of quoted_literal quoted_members (by cbv),single_declared "note",?_⟩,
    by cbv,chains_of escaped_literal escaped_members (by cbv),single_declared "u0066ields",?_⟩
  · rw [reported]
    intro quiet
    exact absurd (quiet _ (List.mem_singleton_self _)) (by decide)
  · rw [found]
    intro none_
    cases none_

end Examples

end TemplateSchema.Template
