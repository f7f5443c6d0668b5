import Mathlib.Data.List.Induction
import TemplateSchema.Value.Mapping
/-!
What is found in a mapping under a name, and mappings that are put together from entries with
different keys.
-/
set_option autoImplicit false
namespace TemplateSchema

theorem Value.same_text (s t : Text) : Value.same (.text s) (.text t) = (s == t) := by
  simp [same,sameScalar,count?]

theorem Value.same_name {v : Value} {s : Text} : Value.same v (.text s) = true ↔ v = .text s := by
  cases v <;> simp [same,sameScalar,count?]

namespace Entries

variable {entries others : Entries} {name : Text} {key v : Value}

theorem field_found (found : field? entries name = some v) : field entries name = v := by
  rw [field?] at found
  rw [field,getOrNull,found]
  rfl

theorem field_missing (missing : field? entries name = none) : field entries name = .null := by
  rw [field?] at missing
  rw [field,getOrNull,missing]
  rfl

theorem found_entry (found : field? entries name = some v) : (.text name,v) ∈ entries := by
  rw [field?,get?,Option.map_eq_some_iff] at found
  obtain ⟨⟨key,_⟩,found,rfl⟩ := found
  have same : key = .text name := Value.same_name.mp (by simpa using List.find?_some found)
  rw [← same]
  exact List.mem_of_find?_eq_some found

theorem found_member (found : field? entries name = some v) : ∃ key, (key,v) ∈ entries :=
  ⟨.text name,found_entry found⟩

theorem field_nil : field? [] name = none :=
  rfl

theorem field_cons (own : Text) :
    field? ((.text own,v) :: entries) name = if own = name then some v else field? entries name := by
  by_cases same : own = name <;> simp [field?,get?,Value.same_text,same]

theorem field_append : field? (entries ++ others) name = (field? entries name).or (field? others name) := by
  simp only [field?,get?,List.find?_append,Option.map_or]

theorem field_absent (absent : ∀ entry ∈ entries, Value.same entry.1 (.text name) = false) :
    field? entries name = none := by
  rw [field?,get?,Option.map_eq_none_iff,List.find?_eq_none]
  intro entry member
  simp [absent entry member]

section Rows

variable {α : Type} {rows more : List (Value × α)} {a : α}

-- No two keys of the entries are the same.
def AreDistinct (rows : List (Value × α)) : Prop :=
  rows.Pairwise fun row other => Value.same row.1 other.1 = false

theorem insert_fresh (fresh : ∀ row ∈ rows, Value.same row.1 key = false) :
    insert rows key a = rows ++ [(key,a)] := by
  induction rows with
  | nil => rfl
  | cons entry rest ih =>
    obtain ⟨other,w⟩ := entry
    rw [List.forall_mem_cons] at fresh
    rw [insert,fresh.1,ih fresh.2]
    rfl

-- Entries with keys of their own are put behind the others, one by one.
theorem insert_all (distinct : AreDistinct (rows ++ more)) :
    more.foldl (fun all row => insert all row.1 row.2) rows = rows ++ more := by
  induction more generalizing rows with
  | nil => simp
  | cons row rest ih =>
    have fresh : ∀ r ∈ rows, Value.same r.1 row.1 = false := fun r member =>
      (List.pairwise_append.mp distinct).2.2 r member row List.mem_cons_self
    rw [List.foldl_cons,insert_fresh fresh,ih (by simpa using distinct)]
    simp

theorem ofList_distinct (distinct : AreDistinct rows) : ofList rows = rows :=
  insert_all (by simpa using distinct)

theorem insert_member {row : Value × α} (distinct : AreDistinct rows) (member : row ∈ insert rows (.text name) a) :
    row = (.text name,a) ∨ row ∈ rows ∧ row.1 ≠ .text name := by
  induction rows with
  | nil => exact .inl (List.mem_singleton.mp member)
  | cons first rest ih =>
    obtain ⟨own,w⟩ := first
    obtain ⟨fresh,distinct⟩ := List.pairwise_cons.mp distinct
    rw [insert] at member
    split at member
    · rename_i same
      obtain rfl := Value.same_name.mp same
      rcases List.mem_cons.mp member with here | behind
      · exact .inl here
      · refine .inr ⟨List.mem_cons_of_mem _ behind,?_⟩
        intro again
        have different := fresh row behind
        rw [again,same] at different
        cases different
    · rename_i other
      rcases List.mem_cons.mp member with rfl | behind
      · exact .inr ⟨List.mem_cons_self,fun same => other (Value.same_name.mpr same)⟩
      · rcases ih distinct behind with new | ⟨old,different⟩
        · exact .inl new
        · exact .inr ⟨List.mem_cons_of_mem _ old,different⟩

theorem insert_distinct (distinct : AreDistinct rows) : AreDistinct (insert rows (.text name) a) := by
  induction rows with
  | nil => exact List.pairwise_singleton _ _
  | cons first rest ih =>
    obtain ⟨own,w⟩ := first
    obtain ⟨fresh,distinct⟩ := List.pairwise_cons.mp distinct
    rw [insert]
    split
    · exact List.pairwise_cons.mpr ⟨fresh,distinct⟩
    · rename_i other
      refine List.pairwise_cons.mpr ⟨?_,ih distinct⟩
      intro row member
      rcases insert_member distinct member with rfl | ⟨old,_⟩
      · simpa using other
      · exact fresh row old

-- The key of a row may be that of an earlier one, and what stands under it that of a later one.
theorem insert_made {row : Value × α} (member : row ∈ insert rows key a) :
    (row.1 = key ∨ ∃ first ∈ rows, row.1 = first.1) ∧ (row.2 = a ∨ ∃ last ∈ rows, row.2 = last.2) := by
  induction rows with
  | nil =>
    obtain rfl := List.mem_singleton.mp member
    exact ⟨.inl rfl,.inl rfl⟩
  | cons first rest ih =>
    obtain ⟨own,b⟩ := first
    rw [insert] at member
    split at member
    · rcases List.mem_cons.mp member with rfl | behind
      · exact ⟨.inr ⟨_,List.mem_cons_self,rfl⟩,.inl rfl⟩
      · have old := List.mem_cons_of_mem (own,b) behind
        exact ⟨.inr ⟨row,old,rfl⟩,.inr ⟨row,old,rfl⟩⟩
    · rcases List.mem_cons.mp member with rfl | behind
      · exact ⟨.inr ⟨_,List.mem_cons_self,rfl⟩,.inr ⟨_,List.mem_cons_self,rfl⟩⟩
      · obtain ⟨known,made⟩ := ih behind
        exact ⟨known.imp id fun ⟨r,old,same⟩ => ⟨r,List.mem_cons_of_mem _ old,same⟩,
          made.imp id fun ⟨r,old,same⟩ => ⟨r,List.mem_cons_of_mem _ old,same⟩⟩

theorem ofList_made {row : Value × α} (member : row ∈ ofList rows) :
    (∃ first ∈ rows, row.1 = first.1) ∧ ∃ last ∈ rows, row.2 = last.2 := by
  induction rows using List.reverseRecOn generalizing row with
  | nil => cases member
  | append_singleton front last ih =>
    rw [ofList,List.foldl_append] at member
    obtain ⟨known,made⟩ := insert_made member
    constructor
    · rcases known with same | ⟨r,old,same⟩
      · exact ⟨last,by simp,same⟩
      · obtain ⟨⟨first,member,key⟩,_⟩ := ih old
        exact ⟨first,List.mem_append_left _ member,same.trans key⟩
    · rcases made with same | ⟨r,old,same⟩
      · exact ⟨last,by simp,same⟩
      · obtain ⟨_,last,member,value⟩ := ih old
        exact ⟨last,List.mem_append_left _ member,same.trans value⟩

theorem ofList_apart (named : ∀ row ∈ rows, ∃ name, row.1 = .text name) : AreDistinct (ofList rows) := by
  induction rows using List.reverseRecOn with
  | nil => exact .nil
  | append_singleton front last ih =>
    obtain ⟨name,named_⟩ := named last (by simp)
    rw [ofList,List.foldl_append,List.foldl_cons,List.foldl_nil,named_]
    exact insert_distinct (ih fun row member => named row (List.mem_append_left _ member))

end Rows

theorem field_insert (entries : Entries) (name other : Text) (v : Value) :
    field? (insert entries (.text name) v) other = if name = other then some v else field? entries other := by
  induction entries with
  | nil => exact field_cons name
  | cons first rest ih =>
    obtain ⟨own,w⟩ := first
    rw [insert]
    split
    · rename_i same
      obtain rfl := Value.same_name.mp same
      rw [field_cons,field_cons]
      split <;> rfl
    · rename_i different
      unfold field? get? at ih ⊢
      rw [List.find?_cons,List.find?_cons]
      split
      · rename_i found
        have apart : name ≠ other := by
          rintro rfl
          exact different found
        rw [if_neg apart]
      · exact ih

theorem field_erase (entries : Entries) (name other : Text) :
    field? (erase entries (.text name)) other = if name = other then none else field? entries other := by
  rw [field?,get?,erase,List.find?_filter]
  split
  · rename_i same
    subst same
    simp
  · rename_i different
    have alone : (fun entry : Value × Value =>
        (!Value.same entry.1 (.text name)) && Value.same entry.1 (.text other)) =
        fun entry => Value.same entry.1 (.text other) := by
      funext ⟨key,v⟩
      cases found : Value.same key (.text other) with
      | false => rw [Bool.and_false]
      | true =>
        obtain rfl := Value.same_name.mp found
        simp [Value.same_text,Ne.symm different]
    simp only [Bool.decide_and,Bool.decide_eq_true]
    rw [alone]
    rfl

-- In rows without repetition, what stands under a name is what is found there.
theorem find_row {α : Type} {rows : List (Value × α)} {a : α}
    (distinct : rows.Pairwise fun row other => Value.same row.1 other.1 = false) (member : (.text name,a) ∈ rows) :
    rows.find? (fun row => Value.same row.1 (.text name)) = some (.text name,a) := by
  induction rows with
  | nil => cases member
  | cons first rest ih =>
    obtain ⟨fresh,distinct⟩ := List.pairwise_cons.mp distinct
    rcases List.mem_cons.mp member with rfl | behind
    · rw [List.find?_cons_of_pos (by rw [Value.same_text,beq_self_eq_true])]
    · rw [List.find?_cons_of_neg (by rw [fresh _ behind]; exact Bool.false_ne_true)]
      exact ih distinct behind

theorem entry_found (distinct : AreDistinct entries) (member : (.text name,v) ∈ entries) :
    field? entries name = some v := by
  rw [field?,get?,find_row distinct member]
  rfl

-- Entries under names, each name once.
structure IsDictionary (entries : Entries) : Prop where
  named : ∀ entry ∈ entries, ∃ name, entry.1 = .text name
  distinct : AreDistinct entries

theorem IsDictionary.insert (dictionary : IsDictionary entries) :
    IsDictionary (Entries.insert entries (.text name) v) := by
  refine ⟨?_,insert_distinct dictionary.distinct⟩
  intro entry member
  rcases insert_member dictionary.distinct member with rfl | ⟨old,_⟩
  · exact ⟨name,rfl⟩
  · exact dictionary.named entry old

theorem IsDictionary.nodup (dictionary : IsDictionary entries) : entries.Nodup := by
  refine dictionary.distinct.imp_of_mem ?_
  rintro entry _ member _ different rfl
  obtain ⟨name,named⟩ := dictionary.named entry member
  rw [named,Value.same_text,beq_self_eq_true] at different
  cases different

theorem IsDictionary.member (dictionary : IsDictionary entries) :
    (key,v) ∈ entries ↔ ∃ name, key = .text name ∧ field? entries name = some v := by
  constructor
  · intro member
    obtain ⟨name,named⟩ := dictionary.named _ member
    obtain rfl : key = .text name := named
    exact ⟨name,rfl,entry_found dictionary.distinct member⟩
  · rintro ⟨name,rfl,found⟩
    exact found_entry found

-- What is found under each name is all that tells dictionaries apart, but for their order.
theorem IsDictionary.perm (left : IsDictionary entries) (right : IsDictionary others)
    (same : ∀ name, field? entries name = field? others name) : entries.Perm others := by
  refine (List.perm_ext_iff_of_nodup left.nodup right.nodup).mpr ?_
  rintro ⟨key,v⟩
  simp only [left.member,right.member,same]

-- A value is found under a key where a row with that key is, whatever the rows hold.
theorem get_rows {α : Type} (rows : List (Value × α)) (value : Value × α → Value) (key : Value) :
    get? (rows.map fun row => (row.1,value row)) key =
      (rows.find? fun row => Value.same row.1 key).map value := by
  simp only [get?,List.find?_map,Option.map_map]
  rfl

end Entries

end TemplateSchema
