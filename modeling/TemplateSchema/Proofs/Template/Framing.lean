import Mathlib
import TemplateSchema.Template.FrontMatter
/-!
Front matter by lines. A text that opens with a line of three dashes has front matter up to the next
such line, and its body begins behind that one; every other text has none. So what is put between two
such lines is found again.
-/
set_option autoImplicit false
namespace TemplateSchema.FrontMatter

variable {cs line rest inner front body : List Char} {ls : List (List Char)}

-- The lines of a text, each with the line feed that ends it; the last one may lack it.
def lines : List Char → List (List Char)
  | [] => []
  | c :: rest =>
    if c = '\n' then ['\n'] :: lines rest
    else match lines rest with
      | [] => [[c]]
      | line :: others => (c :: line) :: others

-- Three dashes, and nothing but blanks behind them.
def IsRule (line : List Char) : Prop :=
  ∃ blanks, line = '-' :: '-' :: '-' :: blanks ∧ ∀ c ∈ blanks, c = ' ' ∨ c = '\t'

-- A carriage return in front of the line feed belongs to the line break.
def IsOpening (line : List Char) : Prop :=
  ∃ rule, IsRule rule ∧ (line = rule ++ ['\n'] ∨ line = rule ++ ['\r','\n'])

-- Only the last line of a text is without a line feed.
def IsClosing (line : List Char) : Prop :=
  IsOpening line ∨ IsRule line

-- Lines are cut at the first closing line, which is in neither part.
def IsCut (ls : List (List Char)) (front body : List Char) : Prop :=
  ∃ inner closing after, ls = inner ++ closing :: after ∧ (∀ line ∈ inner, ¬ IsClosing line) ∧
    IsClosing closing ∧ front = inner.flatten ∧ body = after.flatten

-- A text and the same without the line break at its end; where there is no line, there is none.
inductive IsTrimmed : List Char → List Char → Prop where
  | empty : IsTrimmed [] []
  | feed {front : List Char} (single : front.getLast? ≠ some '\r') : IsTrimmed (front ++ ['\n']) front
  | both {front : List Char} : IsTrimmed (front ++ ['\r','\n']) front

-- A text opens with an opening line, and closes with a later line.
def HasFrame (cs : List Char) : Prop :=
  ∃ opening rest, lines cs = opening :: rest ∧ IsOpening opening ∧ ∃ line ∈ rest, IsClosing line

def IsFramed (cs front body : List Char) : Prop :=
  ∃ opening rest inner, lines cs = opening :: rest ∧ IsOpening opening ∧ IsCut rest inner body ∧
    IsTrimmed inner front

section Lines

theorem lines_flatten (cs : List Char) : (lines cs).flatten = cs := by
  induction cs with
  | nil => rfl
  | cons c rest ih =>
    rw [lines]
    split
    · rename_i feed
      rw [List.flatten_cons,ih,feed]
      rfl
    · cases found : lines rest with
      | nil =>
        rw [found] at ih
        rw [← ih]
        rfl
      | cons line others =>
        rw [found] at ih
        rw [← ih]
        rfl

theorem lines_line (solid : '\n' ∉ line) (rest : List Char) :
    lines (line ++ '\n' :: rest) = (line ++ ['\n']) :: lines rest := by
  induction line with
  | nil => rfl
  | cons c line ih =>
    rw [List.mem_cons,not_or] at solid
    rw [List.cons_append,lines,if_neg (Ne.symm solid.1),ih solid.2]
    rfl

theorem lines_last (some_ : line ≠ []) (solid : '\n' ∉ line) : lines line = [line] := by
  induction line with
  | nil => exact absurd rfl some_
  | cons c line ih =>
    rw [List.mem_cons,not_or] at solid
    rw [lines,if_neg (Ne.symm solid.1)]
    cases line with
    | nil => rfl
    | cons d line => rw [ih (List.cons_ne_nil _ _) solid.2]

-- A text is empty, one line without a line feed, or a line and its line feed in front of a text.
@[elab_as_elim]
theorem line_induction {P : List Char → Prop} (empty : P []) (last : ∀ line, line ≠ [] → '\n' ∉ line → P line)
    (step : ∀ line rest, '\n' ∉ line → P rest → P (line ++ '\n' :: rest)) (cs : List Char) : P cs := by
  by_cases broken : '\n' ∈ cs
  · obtain ⟨line,rest,whole,solid⟩ := List.eq_append_cons_of_mem broken
    have shorter : rest.length < cs.length := by
      rw [whole,List.length_append,List.length_cons]
      omega
    rw [whole]
    exact step line rest solid (line_induction empty last step rest)
  · by_cases some_ : cs = []
    · rw [some_]
      exact empty
    · exact last cs some_ broken
termination_by cs.length

theorem lines_joined (front rest : List Char) : lines (front ++ '\n' :: rest) = lines (front ++ ['\n']) ++ lines rest := by
  induction front using line_induction with
  | empty => rfl
  | last line _ solid =>
    rw [lines_line solid,lines_line solid]
    rfl
  | step line front solid ih =>
    rw [List.append_assoc,List.append_assoc,List.cons_append,List.cons_append,lines_line solid,lines_line solid,ih]
    rfl

end Lines

section Rules

theorem rule_solid (rule : IsRule line) : '\n' ∉ line := by
  obtain ⟨blanks,rfl,blank⟩ := rule
  have inside : '\n' ∉ blanks := fun member => absurd (blank _ member) (by decide)
  simp [inside]

-- Whether a line closes is settled by what stands in front of its line feed.
theorem closing_line (solid : '\n' ∉ line) :
    IsClosing (line ++ ['\n']) ↔ IsRule line ∨ ∃ rule, IsRule rule ∧ line = rule ++ ['\r'] := by
  constructor
  · rintro (⟨rule,isRule,feed | both⟩ | isRule)
    · rw [List.append_cancel_right feed]
      exact .inl isRule
    · have cut : line ++ ['\n'] = (rule ++ ['\r']) ++ ['\n'] := by rw [both]; simp
      exact .inr ⟨rule,isRule,List.append_cancel_right cut⟩
    · exact absurd (by simp) (rule_solid isRule)
  · rintro (isRule | ⟨rule,isRule,rfl⟩)
    · exact .inl ⟨line,isRule,.inl rfl⟩
    · exact .inl ⟨rule,isRule,.inr (by simp)⟩

theorem margin_exact (c : Char) : Text.isLineBlank c = true ↔ c = ' ' ∨ c = '\t' := by
  simp [Text.isLineBlank]

theorem afterDashes_exact : afterDashes? cs = some rest ↔
    ∃ rule, IsRule rule ∧ cs = rule ++ rest ∧ ∀ c, rest.head? = some c → Text.isLineBlank c = false := by
  constructor
  · intro found
    unfold afterDashes? at found
    split at found
    · rename_i behind
      cases found
      refine ⟨'-' :: '-' :: '-' :: behind.takeWhile Text.isLineBlank,⟨_,rfl,?_⟩,?_,?_⟩
      · intro c member
        exact (margin_exact c).mp (List.mem_takeWhile_imp member)
      · simp
      · intro c first
        have := List.head?_dropWhile_not Text.isLineBlank behind
        rw [first] at this
        simpa using this
    · cases found
  · rintro ⟨_,⟨blanks,rfl,blank⟩,rfl,stops⟩
    have skipped : (blanks ++ rest).dropWhile Text.isLineBlank = rest.dropWhile Text.isLineBlank :=
      List.dropWhile_append_of_pos fun c member => (margin_exact c).mpr (blank c member)
    change some ((blanks ++ rest).dropWhile Text.isLineBlank) = some rest
    rw [skipped]
    cases rest with
    | nil => rfl
    | cons c rest => rw [List.dropWhile_cons_of_neg (by simp [stops c rfl])]

theorem afterDashes_bare (bare : ¬ ['-','-','-'] <+: cs) : afterDashes? cs = none := by
  unfold afterDashes?
  split
  · rename_i behind
    exact absurd ⟨behind,rfl⟩ bare
  · rfl

theorem afterLineEnd_exact : afterLineEnd? cs = some rest ↔ cs = '\n' :: rest ∨ cs = '\r' :: '\n' :: rest := by
  constructor
  · intro found
    unfold afterLineEnd? at found
    split at found
    · cases found; exact .inl rfl
    · cases found; exact .inr rfl
    · cases found
  · rintro (rfl | rfl) <;> rfl

theorem opened_exact : opened? cs = some rest ↔ ∃ line, IsOpening line ∧ cs = line ++ rest := by
  unfold opened?
  rw [Option.bind_eq_some_iff]
  constructor
  · rintro ⟨behind,dashes,ended⟩
    obtain ⟨rule,isRule,rfl,_⟩ := afterDashes_exact.mp dashes
    rcases afterLineEnd_exact.mp ended with rfl | rfl
    · exact ⟨rule ++ ['\n'],⟨rule,isRule,.inl rfl⟩,by simp⟩
    · exact ⟨rule ++ ['\r','\n'],⟨rule,isRule,.inr rfl⟩,by simp⟩
  · rintro ⟨_,⟨rule,isRule,rfl | rfl⟩,rfl⟩
    · refine ⟨'\n' :: rest,afterDashes_exact.mpr ⟨rule,isRule,by simp,?_⟩,rfl⟩
      intro c first
      cases first
      rfl
    · refine ⟨'\r' :: '\n' :: rest,afterDashes_exact.mpr ⟨rule,isRule,by simp,?_⟩,rfl⟩
      intro c first
      cases first
      rfl

theorem rule_exact : IsRule cs ↔ afterDashes? cs = some [] := by
  rw [afterDashes_exact]
  constructor
  · intro rule
    exact ⟨cs,rule,(List.append_nil cs).symm,by simp⟩
  · rintro ⟨rule,isRule,rfl,_⟩
    rwa [List.append_nil]

theorem closed_exact : closed? cs = some body ↔
    (∃ line, IsOpening line ∧ cs = line ++ body) ∨ IsRule cs ∧ body = [] := by
  rw [← opened_exact,rule_exact]
  unfold closed? opened?
  cases afterDashes? cs with
  | none => simp
  | some behind =>
    cases behind with
    | nil => simp [afterLineEnd?,eq_comm]
    | cons c behind => simp

theorem lines_opening (opening : IsOpening line) (rest : List Char) : lines (line ++ rest) = line :: lines rest := by
  obtain ⟨rule,isRule,ended⟩ := opening
  have solid := rule_solid isRule
  rcases ended with rfl | rfl
  · rw [List.append_assoc]
    exact lines_line solid rest
  · have inside : '\n' ∉ rule ++ ['\r'] := by simpa using solid
    have split : rule ++ ['\r','\n'] = (rule ++ ['\r']) ++ ['\n'] := by simp
    rw [split,List.append_assoc]
    exact lines_line inside rest

theorem lines_behind (found : lines cs = line :: ls) (opening : IsOpening line) : lines ls.flatten = ls := by
  have whole := lines_flatten cs
  rw [found,List.flatten_cons] at whole
  rw [← whole,lines_opening opening] at found
  exact (List.cons.inj found).2

theorem lines_unended {others : List (List Char)} (found : lines cs = line :: others) (solid : '\n' ∉ line) :
    others = [] := by
  cases cs using line_induction with
  | empty => cases found
  | last own some_ inside =>
    rw [lines_last some_ inside] at found
    exact (List.cons.inj found).2.symm
  | step own rest inside _ =>
    rw [lines_line inside] at found
    rw [← (List.cons.inj found).1] at solid
    simp at solid

theorem opened_lines : opened? cs = some rest ↔
    ∃ opening others, lines cs = opening :: others ∧ IsOpening opening ∧ rest = others.flatten := by
  rw [opened_exact]
  constructor
  · rintro ⟨line,opening,rfl⟩
    exact ⟨line,lines rest,lines_opening opening rest,opening,(lines_flatten rest).symm⟩
  · rintro ⟨line,others,found,opening,rfl⟩
    refine ⟨line,opening,?_⟩
    rw [← lines_flatten cs,found]
    rfl

theorem closed_lines : closed? cs = some body ↔
    ∃ closing others, lines cs = closing :: others ∧ IsClosing closing ∧ body = others.flatten := by
  rw [closed_exact,← opened_exact,opened_lines]
  constructor
  · rintro (⟨line,others,found,opening,rfl⟩ | ⟨rule,rfl⟩)
    · exact ⟨line,others,found,.inl opening,rfl⟩
    · obtain ⟨blanks,rfl,_⟩ := id rule
      exact ⟨_,[],lines_last (List.cons_ne_nil _ _) (rule_solid rule),.inr rule,rfl⟩
  · rintro ⟨line,others,found,opening | rule,rfl⟩
    · exact .inl ⟨line,others,found,opening,rfl⟩
    · have none_ := lines_unended found (rule_solid rule)
      have whole := lines_flatten cs
      rw [found,none_] at whole
      rw [none_]
      refine .inr ⟨?_,rfl⟩
      rw [← whole]
      simpa using rule

end Rules

section Cuts

theorem cut_nil : ¬ IsCut [] front body := by
  rintro ⟨inner,closing,after,found,_⟩
  simp at found

theorem cut_closing (closing : IsClosing line) : IsCut (line :: ls) front body ↔ front = [] ∧ body = ls.flatten := by
  constructor
  · rintro ⟨inner,other,after,found,open_,_,rfl,rfl⟩
    cases inner with
    | nil =>
      cases found
      exact ⟨rfl,rfl⟩
    | cons first inner =>
      cases found
      exact absurd closing (open_ _ List.mem_cons_self)
  · rintro ⟨rfl,rfl⟩
    exact ⟨[],line,ls,rfl,by simp,closing,rfl,rfl⟩

theorem cut_open (open_ : ¬ IsClosing line) :
    IsCut (line :: ls) front body ↔ ∃ more, IsCut ls more body ∧ front = line ++ more := by
  constructor
  · rintro ⟨inner,other,after,found,others,closing,rfl,rfl⟩
    cases inner with
    | nil =>
      cases found
      exact absurd closing open_
    | cons first inner =>
      cases found
      exact ⟨_,⟨inner,other,after,rfl,fun l member => others l (List.mem_cons_of_mem _ member),closing,rfl,rfl⟩,rfl⟩
  · rintro ⟨_,⟨inner,other,after,rfl,others,closing,rfl,rfl⟩,rfl⟩
    exact ⟨line :: inner,other,after,rfl,List.forall_mem_cons.mpr ⟨open_,others⟩,closing,rfl,rfl⟩

theorem cut_exists (closes : ∃ line ∈ ls, IsClosing line) : ∃ front body, IsCut ls front body := by
  induction ls with
  | nil => simp at closes
  | cons line ls ih =>
    by_cases closing : IsClosing line
    · exact ⟨_,_,(cut_closing closing).mpr ⟨rfl,rfl⟩⟩
    · have later : ∃ line ∈ ls, IsClosing line := by simpa [closing] using closes
      obtain ⟨more,body,cut⟩ := ih later
      exact ⟨_,_,(cut_open closing).mpr ⟨more,cut,rfl⟩⟩

theorem until_inside (solid : '\n' ∉ line) (rest : List Char) :
    untilClosed false (line ++ '\n' :: rest) =
      (untilClosed true rest).map fun found => (line ++ '\n' :: found.1,found.2) := by
  induction line with
  | nil => rfl
  | cons c line ih =>
    rw [List.mem_cons,not_or] at solid
    have inside : (c == '\n') = false := by simpa using Ne.symm solid.1
    simp only [List.cons_append,untilClosed,inside,Bool.false_eq_true,if_false,ih solid.2,Option.map_map]
    rfl

theorem until_unended (solid : '\n' ∉ line) : untilClosed false line = none := by
  induction line with
  | nil => rfl
  | cons c line ih =>
    rw [List.mem_cons,not_or] at solid
    have inside : (c == '\n') = false := by simpa using Ne.symm solid.1
    simp [untilClosed,inside,ih solid.2]

theorem until_closing (found : lines cs = line :: ls) (closing : IsClosing line) :
    untilClosed true cs = some ([],ls.flatten) := by
  have closes := closed_lines.mpr ⟨line,ls,found,closing,rfl⟩
  cases cs with
  | nil => cases found
  | cons c rest => simp [untilClosed,closes]

theorem until_open (found : lines cs = line :: ls) (open_ : ¬ IsClosing line) :
    untilClosed true cs = untilClosed false cs := by
  have none_ : closed? cs = none := by
    rw [Option.eq_none_iff_forall_ne_some]
    intro body closes
    obtain ⟨other,_,again,closing,_⟩ := closed_lines.mp closes
    rw [found] at again
    rw [(List.cons.inj again).1] at open_
    exact open_ closing
  cases cs with
  | nil => rfl
  | cons c rest => simp [untilClosed,none_]

-- A text is cut where its lines are: nothing closes it but a whole line.
theorem until_exact : untilClosed true cs = some (front,body) ↔ IsCut (lines cs) front body := by
  induction cs using line_induction generalizing front with
  | empty => exact iff_of_false (by simp [untilClosed]) cut_nil
  | last line some_ solid =>
    have found := lines_last some_ solid
    by_cases closing : IsClosing line
    · rw [until_closing found closing,found,cut_closing closing]
      simp [eq_comm]
    · rw [until_open found closing,until_unended solid,found,cut_open closing]
      simp [cut_nil]
  | step line rest solid ih =>
    have found := lines_line solid rest
    by_cases closing : IsClosing (line ++ ['\n'])
    · rw [until_closing found closing,found,cut_closing closing]
      simp [eq_comm]
    · rw [until_open found closing,until_inside solid,found,cut_open closing,Option.map_eq_some_iff]
      constructor
      · rintro ⟨⟨more,_⟩,cut,same⟩
        cases same
        exact ⟨more,ih.mp cut,by simp⟩
      · rintro ⟨more,cut,rfl⟩
        exact ⟨(more,body),ih.mpr cut,by simp⟩

end Cuts

section Trimming

-- What stands in front of a closing line ends with a line break, if there is anything.
theorem until_ended {start : Bool} (found : untilClosed start cs = some (front,body)) :
    front = [] ∧ start = true ∨ front.getLast? = some '\n' := by
  induction cs generalizing start front with
  | nil => cases found
  | cons c rest ih =>
    rw [untilClosed] at found
    split at found
    · rename_i closes
      cases found
      cases start with
      | true => exact .inl ⟨rfl,rfl⟩
      | false => simp at closes
    · obtain ⟨⟨more,_⟩,later,same⟩ := Option.map_eq_some_iff.mp found
      cases same
      right
      rcases ih later with ⟨rfl,feed⟩ | ended
      · rw [eq_of_beq feed]
        rfl
      · cases more with
        | nil => cases ended
        | cons d more => rwa [List.getLast?_cons_cons]

theorem trimmed_ended (ended : front.getLast? = some '\n') : IsTrimmed front (withoutFinalBreak front) := by
  obtain ⟨before,rfl⟩ := List.getLast?_eq_some_iff.mp ended
  cases before using List.reverseRecOn with
  | nil => exact .feed (by simp)
  | append_singleton before c =>
    by_cases pair : c = '\r'
    · subst pair
      have cut : withoutFinalBreak (before ++ ['\r'] ++ ['\n']) = before := by simp [withoutFinalBreak]
      rw [cut,List.append_assoc]
      exact .both
    · have cut : withoutFinalBreak (before ++ [c] ++ ['\n']) = before ++ [c] := by
        simp [withoutFinalBreak,pair]
      rw [cut]
      exact .feed (by simpa using pair)

theorem trim_feed (single : front.getLast? ≠ some '\r') : withoutFinalBreak (front ++ ['\n']) = front := by
  cases front using List.reverseRecOn with
  | nil => rfl
  | append_singleton before c =>
    have other : c ≠ '\r' := by simpa using single
    simp [withoutFinalBreak,other]

end Trimming

section Framing

theorem frame_split (framed : HasFrame cs) :
    ∃ front body, splitChars cs = some (front,body) ∧ IsFramed cs front body := by
  obtain ⟨opening,rest,found,opens,closes⟩ := framed
  obtain ⟨inner,body,cut⟩ := cut_exists closes
  have opened := opened_lines.mpr ⟨opening,rest,found,opens,rfl⟩
  have until_ : untilClosed true rest.flatten = some (inner,body) := by
    rwa [until_exact,lines_behind found opens]
  have trimmed : IsTrimmed inner (withoutFinalBreak inner) := by
    rcases until_ended until_ with ⟨rfl,_⟩ | ended
    · exact .empty
    · exact trimmed_ended ended
  exact ⟨withoutFinalBreak inner,body,by simp [splitChars,opened,until_],opening,rest,inner,found,opens,cut,trimmed⟩

theorem split_frame (found : splitChars cs = some (front,body)) : HasFrame cs := by
  unfold splitChars at found
  obtain ⟨behind,opened,found⟩ := Option.bind_eq_some_iff.mp found
  obtain ⟨⟨inner,_⟩,until_,_⟩ := Option.bind_eq_some_iff.mp found
  obtain ⟨opening,rest,rows,opens,rfl⟩ := opened_lines.mp opened
  obtain ⟨before,closing,after,whole,_,closes,_⟩ := until_exact.mp until_
  rw [lines_behind rows opens] at whole
  exact ⟨opening,rest,rows,opens,closing,by simp [whole],closes⟩

theorem joined_open (open_ : ∀ line ∈ lines front, ¬ IsClosing line) (single : front.getLast? ≠ some '\r') :
    ∀ line ∈ lines (front ++ ['\n']), ¬ IsClosing line := by
  induction front using line_induction with
  | empty =>
    intro line member closing
    rw [List.mem_singleton.mp member] at closing
    have blank := (@closing_line [] List.not_mem_nil).mp closing
    simp [IsRule] at blank
  | last line some_ solid =>
    rw [lines_last some_ solid] at open_
    intro other member closing
    have joined : lines (line ++ ['\n']) = [line ++ ['\n']] := lines_line solid []
    rw [joined] at member
    rw [List.mem_singleton.mp member,closing_line solid] at closing
    rcases closing with rule | ⟨rule,_,rfl⟩
    · exact open_ line (List.mem_singleton_self line) (.inr rule)
    · simp at single
  | step line rest solid ih =>
    rw [lines_line solid,List.forall_mem_cons] at open_
    have ended : rest.getLast? ≠ some '\r' := by
      intro returned
      apply single
      cases rest with
      | nil => cases returned
      | cons c rest => simpa [List.getLast?_append] using returned
    rw [List.append_assoc,List.cons_append,lines_line solid]
    exact List.forall_mem_cons.mpr ⟨open_.1,ih open_.2 ended⟩

def dashes : List Char :=
  ['-','-','-','\n']

theorem dashes_opening : IsOpening dashes :=
  ⟨['-','-','-'],⟨[],rfl,by simp⟩,.inl rfl⟩

theorem joined_split (open_ : ∀ line ∈ lines front, ¬ IsClosing line) (single : front.getLast? ≠ some '\r')
    (body : List Char) : splitChars (dashes ++ front ++ '\n' :: dashes ++ body) = some (front,body) := by
  have whole : dashes ++ front ++ '\n' :: dashes ++ body = dashes ++ (front ++ '\n' :: (dashes ++ body)) := by simp
  have opened : opened? (dashes ++ (front ++ '\n' :: (dashes ++ body))) = some (front ++ '\n' :: (dashes ++ body)) :=
    opened_exact.mpr ⟨dashes,dashes_opening,rfl⟩
  have until_ : untilClosed true (front ++ '\n' :: (dashes ++ body)) = some (front ++ ['\n'],body) := by
    rw [until_exact,lines_joined,lines_opening dashes_opening]
    exact ⟨_,dashes,lines body,rfl,joined_open open_ single,.inl dashes_opening,(lines_flatten _).symm,
      (lines_flatten _).symm⟩
  rw [whole]
  simp [splitChars,opened,until_,trim_feed single]

-- A text that opens and closes front matter is split around it, any other one is left whole, and
-- what is put between two lines of dashes is found again.
theorem split_exact :
    (∀ text : String, HasFrame text.toList →
      ∃ front body, split text = (some front,body) ∧ IsFramed text.toList front.toList body.toList) ∧
    (∀ text : String, ¬ HasFrame text.toList → split text = (none,text)) ∧
    ∀ front body : String, (∀ line ∈ lines front.toList, ¬ IsClosing line) → front.toList.getLast? ≠ some '\r' →
      split ("---\n" ++ front ++ "\n---\n" ++ body) = (some front,body) := by
  refine ⟨?_,?_,?_⟩
  · intro text framed
    obtain ⟨front,body,found,isFramed⟩ := frame_split framed
    refine ⟨String.ofList front,String.ofList body,?_,?_⟩
    · rw [split,found]
    · rwa [String.toList_ofList,String.toList_ofList]
  · intro text bare
    rw [split]
    cases found : splitChars text.toList with
    | none => rfl
    | some parts => exact absurd (split_frame found) bare
  · intro front body open_ single
    have found := joined_split open_ single body.toList
    have spelled : ("---\n" ++ front ++ "\n---\n" ++ body).toList =
        dashes ++ front.toList ++ '\n' :: dashes ++ body.toList := by
      simp only [String.toList_append]
      rfl
    rw [split,spelled,found]
    simp

-- A blank line and a longer row of dashes belong to the front matter, as does all but its last break.
example : split "---\r\n\r\n----\r\n--- \t\r\nbody" = (some "\r\n----","body") := by
  decide +kernel

end Framing

end TemplateSchema.FrontMatter
