import TemplateSchema.Json.Reader
import TemplateSchema.Proofs.Success
import TemplateSchema.Proofs.Value.Proper
/-!
What reading JSON gives: data that JSON can spell out, with each name once in every mapping, however
often the text repeats it.
-/
set_option autoImplicit false
namespace TemplateSchema

open Value (IsJson AreJson EntriesAreJson)

variable {entries found : Entries} {name : Text} {v : Value}

namespace Entries

theorem insert_json (json : (Value.map entries).IsJson) (own : v.IsJson) :
    (Value.map (insert entries (.text name) v)).IsJson := by
  refine ⟨insert_distinct json.1,Value.entriesAreJson_exact.mpr fun entry member => ?_⟩
  rcases insert_member json.1 member with rfl | ⟨old,_⟩
  · exact ⟨⟨name,rfl⟩,own⟩
  · exact Value.entriesAreJson_exact.mp json.2 entry old

theorem ofList_json (json : EntriesAreJson found) : (Value.map (ofList found)).IsJson := by
  have start : (Value.map []).IsJson := ⟨.nil,trivial⟩
  unfold ofList
  generalize ([] : Entries) = entries at start ⊢
  induction found generalizing entries with
  | nil => exact start
  | cons entry rest ih =>
    obtain ⟨key,v⟩ := entry
    obtain ⟨⟨name,rfl⟩,own,behind⟩ := json
    exact ih behind _ (insert_json start own)

end Entries

namespace Json

variable {cs : List Char} {n : Nat}

theorem number_json {span : List Char} {isFraction : Bool} (read : numberOf span isFraction = .ok v) : v.IsJson := by
  unfold numberOf at read
  split at read
  · split at read
    · cases read; trivial
    · cases read
  · split at read
    · cases read
    · split at read
      · cases read; trivial
      · cases read

theorem scalar_json {rest : Shorter cs} (read : scalar cs = .ok (v,rest)) : v.IsJson := by
  unfold scalar at read
  extract_lets names at read
  split at read
  · rename_i name value first
    have member := List.mem_of_find?_eq_some first
    have plain : ∀ entry ∈ names, entry.2.IsJson := by simp [names,IsJson]
    split at read
    · cases read
      exact plain _ member
    · cases read
  · split at read
    split at read
    · obtain ⟨number,made,read⟩ := Success.bind_exact.mp read
      cases read
      exact number_json made
    · cases read

-- All that the readers give from shorter texts is JSON data.
def ReadersGiveJson (n : Nat) : Prop :=
  ∀ cs : List Char, cs.length < n →
    (∀ v rest, value cs = .ok (v,rest) → v.IsJson) ∧
    (∀ vs rest, items cs = .ok (vs,rest) → AreJson vs) ∧
    ∀ entries rest, members cs = .ok (entries,rest) → EntriesAreJson entries

section Steps

variable (shorter : ReadersGiveJson n) (within : cs.length ≤ n)
include shorter within

theorem value_json {rest : Shorter cs} (read : value cs = .ok (v,rest)) : v.IsJson := by
  cases cs with
  | nil => rw [value] at read; cases read
  | cons c body =>
    have skipped := (skipBlanks body).property
    rw [List.length_cons] at within
    obtain ⟨_,inItems,inMembers⟩ := shorter (skipBlanks body).val (by omega)
    rw [value] at read
    split at read
    · obtain ⟨⟨s,tail⟩,_,read⟩ := Success.bind_exact.mp read
      cases read
      trivial
    · split at read
      · split at read
        · cases read; trivial
        · obtain ⟨⟨vs,tail⟩,inside,read⟩ := Success.bind_exact.mp read
          cases read
          exact inItems vs tail inside
      · split at read
        · split at read
          · cases read; exact ⟨.nil,trivial⟩
          · obtain ⟨⟨found,tail⟩,inside,read⟩ := Success.bind_exact.mp read
            cases read
            exact Entries.ofList_json (inMembers found tail inside)
        · exact scalar_json read

theorem items_json {vs : List Value} {rest : Shorter cs} (read : items cs = .ok (vs,rest)) : AreJson vs := by
  rw [items] at read
  obtain ⟨⟨first,left⟩,one,read⟩ := Success.bind_exact.mp read
  have own := value_json shorter within one
  simp only at read
  split at read
  · cases read
    exact ⟨own,trivial⟩
  · split at read
    · rename_i tail _
      obtain ⟨⟨others,last⟩,more,read⟩ := Success.bind_exact.mp read
      cases read
      have skipped := (skipBlanks tail.val).property
      have bound := left.property
      have bound' := tail.property
      exact ⟨own,(shorter _ (by omega)).2.1 others last more⟩
    · cases read

theorem members_json {found : Entries} {rest : Shorter cs} (read : members cs = .ok (found,rest)) :
    EntriesAreJson found := by
  cases cs with
  | nil => rw [members] at read; cases read
  | cons c body =>
    rw [List.length_cons] at within
    rw [members] at read
    split at read
    · obtain ⟨⟨name,afterName⟩,_,read⟩ := Success.bind_exact.mp read
      simp only at read
      split at read
      · cases read
      · rename_i afterColon _
        obtain ⟨⟨item,left⟩,one,read⟩ := Success.bind_exact.mp read
        have bound : afterName.val.length < body.length + 1 := afterName.property
        have bound' := afterColon.property
        have skipped := (skipBlanks afterColon.val).property
        have own := (shorter _ (by omega)).1 item left one
        simp only at read
        split at read
        · cases read
          exact ⟨⟨name,rfl⟩,own,trivial⟩
        · split at read
          · rename_i tail _
            obtain ⟨⟨others,last⟩,more,read⟩ := Success.bind_exact.mp read
            cases read
            have short := left.property
            have short' := tail.property
            have skipped' := (skipBlanks tail.val).property
            exact ⟨⟨name,rfl⟩,own,(shorter _ (by omega)).2.2 others last more⟩
          · cases read
    · cases read

end Steps

theorem readers_json (n : Nat) : ReadersGiveJson n := by
  induction n with
  | zero =>
    intro cs within
    omega
  | succ n ih =>
    intro cs within
    have bound := Nat.le_of_lt_succ within
    exact ⟨fun _ _ => value_json ih bound,fun _ _ => items_json ih bound,fun _ _ => members_json ih bound⟩

theorem document_json (read : document cs = .ok v) : v.IsJson := by
  unfold document at read
  split at read
  · cases read
  · obtain ⟨⟨w,rest,_⟩,one,read⟩ := Success.bind_exact.mp read
    have own := (readers_json _ _ (Nat.lt_succ_self _)).1 w _ one
    simp only at read
    split at read
    · cases read; exact own
    · cases read

theorem read_json {text : String} (read : Json.read text = .ok v) : v.IsJson :=
  document_json (Success.mapError_exact.mp read)

end Json

end TemplateSchema
