import TemplateSchema.Proofs.Number.Exact
import TemplateSchema.Proofs.Success
import TemplateSchema.Proofs.Text.Points
import TemplateSchema.Shape.Check
import TemplateSchema.Shape.Compile
/-!
When a check succeeds, one constructor of shapes at a time, whatever text the formats take. A check
that does not succeed has a problem to show, so no lines at all mean success.
-/
set_option autoImplicit false
namespace TemplateSchema.Shape

variable {α β : Type} {isMatch : Format → Text → Bool}

def Succeeds (x : Checked α) : Prop :=
  ∃ a, x = .ok a

def Accepts (isMatch : Format → Text → Bool) (s : Shape) (v : Value) : Prop :=
  Succeeds (checkWith isMatch s v)

theorem succeeds_ok (a : α) : Succeeds (.ok a : Checked α) :=
  ⟨a,rfl⟩

theorem flaw_fails {f : Flaw} : ¬ Succeeds (flaw f : Checked α) := by
  rintro ⟨a,equal⟩
  cases equal

theorem succeeds_map {x : Checked α} {f : α → β} : Succeeds (x.map f) ↔ Succeeds x := by
  cases x <;> simp [Succeeds,Except.map]

theorem succeeds_under {segment : Segment} {x : Checked α} : Succeeds (under segment x) ↔ Succeeds x := by
  simp only [Succeeds,under,Success.mapError_exact]

theorem succeeds_both {x : Checked α} {y : Checked β} : Succeeds (both x y) ↔ Succeeds x ∧ Succeeds y := by
  cases x <;> cases y <;> simp [Succeeds,both]

theorem firstFlaw_none {flaws : List (Bool × Flaw)} : firstFlaw flaws = none ↔ ∀ f ∈ flaws, f.1 = false := by
  simp [firstFlaw]

theorem succeeds_unlessFlawed {flaws : List (Bool × Flaw)} {a : α} :
    Succeeds (unlessFlawed flaws a) ↔ ∀ f ∈ flaws, f.1 = false := by
  rw [← firstFlaw_none]
  unfold unlessFlawed
  cases firstFlaw flaws with
  | none => simp [succeeds_ok]
  | some f => simp [flaw_fails]

theorem flawIf_sound {bound : Option β} {fails : β → Bool} {f : β → Flaw} :
    (∀ x ∈ flawIf bound fails f, x.1 = false) ↔ ∀ b, bound = some b → fails b = false := by
  cases bound <;> simp [flawIf]

theorem accepts_text {lo hi : Option Nat} {format : Option Format} {v : Value} :
    Accepts isMatch (.text lo hi format) v ↔ ∃ s, v = .text s ∧ (lo.isSome ∨ hi.isSome → s.isWhole) ∧
      (∀ n, lo = some n → n ≤ s.length) ∧ (∀ n, hi = some n → s.length ≤ n) ∧
      (∀ f, format = some f → isMatch f s = true) := by
  change Succeeds (checkText isMatch lo hi format v) ↔ _
  cases v with
  | text s =>
    simp only [checkText,succeeds_unlessFlawed,List.cons_append,List.forall_mem_cons,List.forall_mem_append,
      flawIf_sound,Value.text.injEq,exists_eq_left']
    simp [and_assoc]
  | _ => simp [checkText,flaw_fails]

theorem accepts_number {lo hi : Option Binary64} {isPositive isNumber isInteger : Bool} {v : Value} :
    Accepts isMatch (.number lo hi isPositive isNumber isInteger) v ↔ ∃ x, float? v = some x ∧
      (∀ b, hi = some b → x.le b = true) ∧ (∀ b, lo = some b → b.le x = true) ∧
      (isPositive = true → (Binary64.zero false).lt x = true) ∧ (isNumber = true → x.isNaN = false) ∧
      (isInteger = true → x.isIntegral = true) := by
  change Succeeds (checkNumber lo hi isPositive isNumber isInteger v) ↔ _
  unfold checkNumber
  cases float? v with
  | none => simp [flaw_fails]
  | some x =>
    simp only [succeeds_unlessFlawed,List.forall_mem_append,flawIf_sound,Option.some.injEq,exists_eq_left']
    simp [and_assoc]

theorem accepts_truth {v : Value} : Accepts isMatch .truth v ↔ ∃ b, v = .bool b := by
  change Succeeds (if isTruth v then Except.ok (Parsed.value v) else flaw .truth) ↔ _
  cases v <;> simp [isTruth,flaw_fails,succeeds_ok]

theorem accepts_moment {lo hi : Option Moment} {v : Value} :
    Accepts isMatch (.moment lo hi) v ↔ ∃ m, v = .moment m ∧
      (∀ b, lo = some b → b.instant ≤ m.instant) ∧ (∀ b, hi = some b → m.instant ≤ b.instant) := by
  change Succeeds (checkMoment lo hi v) ↔ _
  cases v with
  | moment m =>
    simp only [checkMoment,succeeds_unlessFlawed,List.forall_mem_append,flawIf_sound,
      Value.moment.injEq,exists_eq_left']
    simp
  | _ => simp [checkMoment,flaw_fails]

theorem accepts_choice {options : List Value} {v : Value} :
    Accepts isMatch (.choice options) v ↔
      (v.isTorn = true → options.any Value.isText = false) ∧ ∃ o, option? options v = some o := by
  change Succeeds (checkChoice options v) ↔ _
  unfold checkChoice
  cases torn : v.isTorn && options.any Value.isText with
  | true =>
    rw [Bool.and_eq_true] at torn
    simp [torn.1,torn.2,flaw_fails]
  | false =>
    rw [Bool.and_eq_false_imp] at torn
    rw [if_neg Bool.false_ne_true]
    cases option? options v with
    | some o => exact ⟨fun _ => ⟨torn,o,rfl⟩,fun _ => succeeds_ok _⟩
    | none => simp [flaw_fails]

theorem succeeds_items {check : Value → Checked Parsed} {items : List Value} (position : Nat) :
    Succeeds (checkItems check position items) ↔ ∀ v ∈ items, Succeeds (check v) := by
  induction items generalizing position with
  | nil => simp [checkItems,succeeds_ok]
  | cons v rest ih => simp [checkItems,succeeds_map,succeeds_both,succeeds_under,ih]

theorem succeeds_list {lo hi : Option Nat} {items : List Value} {checked : Checked (List Parsed)} :
    Succeeds (checkList lo hi items checked) ↔
      (∀ n, lo = some n → n ≤ items.length) ∧ (∀ n, hi = some n → items.length ≤ n) ∧ Succeeds checked := by
  have short : firstFlaw (flawIf hi (· < items.length) (.longList · items.length)) = none ↔
      ∀ n, hi = some n → items.length ≤ n := by
    rw [firstFlaw_none,flawIf_sound]
    simp
  unfold checkList
  cases long : firstFlaw (flawIf hi (· < items.length) (.longList · items.length)) with
  | some f =>
    have exceeds : ¬ ∀ n, hi = some n → items.length ≤ n := by rw [← short,long]; simp
    simp [flaw_fails,exceeds]
  | none =>
    have within := short.mp long
    cases checked with
    | error problems => simp [Succeeds,bind,Except.bind]
    | ok parsed =>
      change Succeeds (unlessFlawed _ _) ↔ _
      simp only [succeeds_unlessFlawed,flawIf_sound,succeeds_ok,decide_eq_false_iff_not,Nat.not_lt,and_true]
      exact ⟨fun enough => ⟨enough,within⟩,And.left⟩

theorem accepts_list {lo hi : Option Nat} {item : Shape} {v : Value} :
    Accepts isMatch (.list lo hi item) v ↔ ∃ items, v = .list items ∧
      (∀ n, lo = some n → n ≤ items.length) ∧ (∀ n, hi = some n → items.length ≤ n) ∧
      ∀ x ∈ items, Accepts isMatch item x := by
  cases v with
  | list items =>
    simp only [Accepts,checkWith,succeeds_list,succeeds_items,Value.list.injEq,exists_eq_left']
  | _ => simp [Accepts,checkWith,flaw_fails]

def IsTextKey (key : Value) : Prop :=
  ∃ s, key = .text s

-- A key that is text, or that text can be read from.
def SpellsText (key : Value) : Prop :=
  IsTextKey key ∨ ∃ bytes s, key = .bytes bytes ∧ Utf8.decode bytes = .ok s

theorem key_exact {key known : Value} : checkKey key = .ok known ↔
    IsTextKey key ∧ known = key ∨ ∃ bytes s, key = .bytes bytes ∧ Utf8.decode bytes = .ok s ∧ known = .text s := by
  cases key with
  | text s => simp [checkKey,IsTextKey,eq_comm]
  | bytes bytes =>
    cases decoded : Utf8.decode bytes with
    | ok s => simp [checkKey,IsTextKey,decoded,eq_comm]
    | error fault => simp [checkKey,IsTextKey,decoded,under,flaw,Except.mapError]
  | _ => simp [checkKey,IsTextKey,under,flaw,Except.mapError]

theorem succeeds_key {key : Value} : Succeeds (checkKey key) ↔ SpellsText key := by
  simp only [Succeeds,key_exact,SpellsText]
  constructor
  · rintro ⟨known,⟨text,_⟩ | ⟨bytes,s,same,decoded,_⟩⟩
    · exact .inl text
    · exact .inr ⟨bytes,s,same,decoded⟩
  · rintro (text | ⟨bytes,s,same,decoded⟩)
    · exact ⟨key,.inl ⟨text,rfl⟩⟩
    · exact ⟨.text s,.inr ⟨bytes,s,same,decoded,rfl⟩⟩

theorem succeeds_entries {check : Value → Checked Parsed} {entries : Entries} :
    Succeeds (checkEntries check entries) ↔ ∀ entry ∈ entries, SpellsText entry.1 ∧ Succeeds (check entry.2) := by
  induction entries with
  | nil => simp [checkEntries,succeeds_ok]
  | cons entry rest ih =>
    obtain ⟨key,v⟩ := entry
    simp [checkEntries,succeeds_map,succeeds_both,succeeds_under,succeeds_key,ih]

theorem accepts_record {inner : Shape} {v : Value} :
    Accepts isMatch (.record inner) v ↔ ∃ entries, v = .map entries ∧
      ∀ entry ∈ entries, SpellsText entry.1 ∧ Accepts isMatch inner entry.2 := by
  cases v with
  | map entries =>
    simp only [Accepts,checkWith,succeeds_map,succeeds_entries,Value.map.injEq,exists_eq_left']
  | _ => simp [Accepts,checkWith,flaw_fails]

-- What a member of a model takes: an acceptable value under its key, or none if a default stands in.
def AcceptsMember (isMatch : Format → Text → Bool) (entries : Entries) (member : Slot × Shape) : Prop :=
  (∃ v, Entries.field? entries member.1.key = some v ∧ Accepts isMatch member.2 v) ∨
    (Entries.field? entries member.1.key = none ∧ member.1.default?.isSome = true)

theorem succeeds_members {entries : Entries} {members : List (Slot × Shape)} :
    Succeeds (checkMembers isMatch entries members) ↔
      ∀ member ∈ members, AcceptsMember isMatch entries member := by
  induction members with
  | nil => simp [checkMembers,succeeds_ok]
  | cons member rest ih =>
    obtain ⟨⟨key,default?⟩,shape⟩ := member
    simp only [checkMembers,succeeds_map,succeeds_both,succeeds_under,ih,List.forall_mem_cons,AcceptsMember]
    cases Entries.field? entries key with
    | some v => simp [Accepts]
    | none => cases default? <;> simp [succeeds_ok,flaw_fails]

theorem accepts_model {name : String} {members : List (Slot × Shape)} {v : Value} :
    Accepts isMatch (.model name members) v ↔ ∃ entries, v = .map entries ∧
      ∀ member ∈ members, AcceptsMember isMatch entries member := by
  cases v with
  | map entries =>
    simp only [Accepts,checkWith,succeeds_map,succeeds_members,Value.map.injEq,exists_eq_left']
  | _ => simp [Accepts,checkWith,flaw_fails]

theorem accepts_orNull {inner : Shape} {v : Value} :
    Accepts isMatch (.orNull inner) v ↔ v = .null ∨ Accepts isMatch inner v := by
  cases v <;> simp [Accepts,checkWith,succeeds_ok]

theorem accepts_orBlank {inner : Shape} {v : Value} :
    Accepts isMatch (.orBlank inner) v ↔ v = .null ∨ v = .text "" ∨ Accepts isMatch inner v := by
  cases v with
  | text s =>
    by_cases empty : s = ""
    · subst empty
      simp [Accepts,checkWith,Text.isEmpty,succeeds_ok]
    · have given : s.isEmpty = false := Bool.eq_false_iff.mpr fun none_ => empty ((Text.isEmpty_exact s).mp none_)
      simp [Accepts,checkWith,empty,given]
  | _ => simp [Accepts,checkWith,succeeds_ok]

-- A whole number is a number, so the check that is left out would not refuse anything more.
theorem accepts_withoutNumberCheck {s : Shape} {v : Value} :
    Accepts isMatch (withoutNumberCheck s) v ↔ Accepts isMatch s v := by
  cases s with
  | number lo hi isPositive isNumber isInteger =>
    cases isInteger with
    | false => simp [withoutNumberCheck]
    | true =>
      simp only [withoutNumberCheck,accepts_number]
      constructor
      · rintro ⟨x,number,above,below,positive,_,integral⟩
        exact ⟨x,number,above,below,positive,fun _ => Binary64.integral_not_nan (integral trivial),integral⟩
      · rintro ⟨x,number,above,below,positive,_,integral⟩
        exact ⟨x,number,above,below,positive,by simp,integral⟩
  | _ => rfl

-- A check that fails says why.
def Explained (x : Checked α) : Prop :=
  x ≠ .error []

theorem explained_ok (a : α) : Explained (.ok a : Checked α) := by
  simp [Explained]

theorem explained_flaw (f : Flaw) : Explained (flaw f : Checked α) := by
  simp [Explained,flaw]

theorem explained_map {x : Checked α} {f : α → β} (explained : Explained x) : Explained (x.map f) := by
  cases x <;> simp_all [Explained,Except.map]

theorem explained_under {segment : Segment} {x : Checked α} (explained : Explained x) :
    Explained (under segment x) := by
  intro nothing
  obtain ⟨problems,failed,same⟩ := Success.mapError_fails.mp nothing
  rw [List.map_eq_nil_iff.mp same] at failed
  exact explained failed

theorem explained_both {x : Checked α} {y : Checked β} (left : Explained x) (right : Explained y) :
    Explained (both x y) := by
  cases x <;> cases y <;> simp_all [Explained,both]

theorem explained_unlessFlawed (flaws : List (Bool × Flaw)) (a : α) : Explained (unlessFlawed flaws a) := by
  unfold unlessFlawed
  split
  · exact explained_flaw _
  · exact explained_ok _

theorem explained_items {check : Value → Checked Parsed} (each : ∀ v, Explained (check v)) (position : Nat)
    (items : List Value) : Explained (checkItems check position items) := by
  induction items generalizing position with
  | nil => exact explained_ok _
  | cons v rest ih => exact explained_map (explained_both (explained_under (each v)) (ih _))

theorem explained_list {lo hi : Option Nat} {items : List Value} {checked : Checked (List Parsed)}
    (explained : Explained checked) : Explained (checkList lo hi items checked) := by
  unfold checkList
  split
  · exact explained_flaw _
  · cases checked with
    | ok parsed => exact explained_unlessFlawed _ _
    | error problems => simpa [Explained,bind,Except.bind] using explained

theorem explained_entries {check : Value → Checked Parsed} (each : ∀ v, Explained (check v))
    (entries : Entries) : Explained (checkEntries check entries) := by
  induction entries with
  | nil => exact explained_ok _
  | cons entry rest ih =>
    obtain ⟨key,v⟩ := entry
    have keyExplained : Explained (checkKey key) := by
      unfold checkKey
      split
      · exact explained_ok _
      · split
        · exact explained_ok _
        · exact explained_under (explained_flaw _)
      · exact explained_under (explained_flaw _)
    exact explained_map (explained_both (explained_under (explained_both keyExplained (each v))) ih)

mutual

theorem explained_check (isMatch : Format → Text → Bool) :
    (s : Shape) → (v : Value) → Explained (checkWith isMatch s v)
  | .text .., v => by
    cases v with
    | text s => exact explained_unlessFlawed _ _
    | _ => exact explained_flaw _
  | .number .., v => by
    simp only [checkWith,checkNumber]
    split
    · exact explained_flaw _
    · exact explained_unlessFlawed _ _
  | .truth, v => by
    simp only [checkWith]
    split
    · exact explained_ok _
    · exact explained_flaw _
  | .moment .., v => by
    cases v with
    | moment m => exact explained_unlessFlawed _ _
    | _ => exact explained_flaw _
  | .choice options, v => by
    simp only [checkWith,checkChoice]
    split
    · exact explained_flaw _
    split
    · exact explained_ok _
    · exact explained_flaw _
  | .list _ _ item, v => by
    cases v with
    | list items =>
      exact explained_list (explained_items (fun x => explained_check isMatch item x) 0 items)
    | _ => exact explained_flaw _
  | .record inner, v => by
    cases v with
    | map entries =>
      exact explained_map (explained_entries (fun x => explained_check isMatch inner x) entries)
    | _ => exact explained_flaw _
  | .model _ members, v => by
    cases v with
    | map entries => exact explained_map (explained_members isMatch entries members)
    | _ => exact explained_flaw _
  | .orNull inner, v => by
    cases v with
    | null => exact explained_ok _
    | _ => exact explained_check isMatch inner _
  | .orBlank inner, v => by
    cases v with
    | null => exact explained_ok _
    | text s =>
      simp only [checkWith]
      split
      · exact explained_ok _
      · exact explained_check isMatch inner _
    | _ => exact explained_check isMatch inner _

theorem explained_members (isMatch : Format → Text → Bool) (entries : Entries) :
    (members : List (Slot × Shape)) → Explained (checkMembers isMatch entries members)
  | [] => explained_ok _
  | (slot,shape) :: rest => by
    refine explained_map (explained_both (explained_under ?_) (explained_members isMatch entries rest))
    split
    · exact explained_check isMatch shape _
    · split
      · exact explained_ok _
      · exact explained_flaw _

end

theorem report_nil {s : Shape} {v : Value} : report isMatch s v = [] ↔ Accepts isMatch s v := by
  have explained := explained_check isMatch s v
  unfold report Accepts Succeeds
  cases checked : checkWith isMatch s v with
  | ok parsed => simp
  | error problems =>
    rw [checked] at explained
    simpa [lines,Explained] using explained

end TemplateSchema.Shape
