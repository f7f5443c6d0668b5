import TemplateSchema.Proofs.Value.Entries
import TemplateSchema.Value.Members
/-!
Values down to a depth. What compares a value with one that is not so deep, or looks at it down to
that depth only, cannot tell it from what is left of it there.
-/
set_option autoImplicit false
namespace TemplateSchema

namespace Value

-- A value with null in the place of all that stands at a depth. Keys are not gone into.
def cut : Nat → Value → Value
  | 0, _ => .null
  | depth + 1, .list items => .list (items.map (cut depth))
  | depth + 1, .tuple items => .tuple (items.map (cut depth))
  | depth + 1, .map entries => .map (entries.map fun entry => (entry.1,cut depth entry.2))
  | _ + 1, v => v

variable {depth less : Nat}

theorem cut_null (depth : Nat) : cut depth .null = .null := by
  cases depth <;> rfl

-- By induction on the lesser depth: of what is cut off deeper down, nothing is left further up.
theorem cut_cut (lesser : less ≤ depth) (v : Value) : (v.cut depth).cut less = v.cut less := by
  induction less generalizing depth v with
  | zero => rfl
  | succ less ih =>
    cases depth with
    | zero => omega
    | succ depth =>
      have deeper (v : Value) : (v.cut depth).cut less = v.cut less := ih (by omega) v
      cases v with
      | list items => simp [cut,deeper]
      | tuple items => simp [cut,deeper]
      | map entries => simp [cut,deeper]
      | _ => rfl

-- Values that agree down to a depth agree further up.
theorem cut_less {v w : Value} (lesser : less ≤ depth) (same : v.cut depth = w.cut depth) :
    v.cut less = w.cut less := by
  rw [← cut_cut lesser v,← cut_cut lesser w,same]

theorem cut_kindName (v : Value) : (v.cut (depth + 1)).kindName = v.kindName := by
  cases v <;> rfl

section Comparing

theorem sameScalar_cut (v w : Value) : sameScalar v (w.cut (depth + 1)) = sameScalar v w := by
  cases w <;> cases v <;> rfl

mutual

-- A value is compared with another no deeper than that one is high.
theorem same_cut : (v : Value) → ∀ {depth : Nat} {w : Value}, v.height < depth → same v (w.cut depth) = same v w
  | .list xs, depth + 1, w, higher => by
    have items (ys : List Value) : sameItems xs (ys.map (cut depth)) = sameItems xs ys :=
      sameItems_cut xs (by simp only [height] at higher; omega)
    cases w with
    | list ys => simp only [cut,same,items ys]
    | _ => simp only [cut,same]
  | .tuple xs, depth + 1, w, higher => by
    have items (ys : List Value) : sameItems xs (ys.map (cut depth)) = sameItems xs ys :=
      sameItems_cut xs (by simp only [height] at higher; omega)
    cases w with
    | tuple ys => simp only [cut,same,items ys]
    | _ => simp only [cut,same]
  | .map xs, depth + 1, w, higher => by
    have entries (ys : Entries) : entriesIn xs (ys.map fun entry => (entry.1,cut depth entry.2)) = entriesIn xs ys :=
      entriesIn_cut xs (by simp only [height] at higher; omega)
    cases w with
    | map ys => simp only [cut,same,List.length_map,entries ys]
    | _ => simp only [cut,same]
  | .set _, _ + 1, w, _ => by cases w <;> simp only [cut,same]
  | .chain _, _ + 1, w, _ => by cases w <;> simp only [cut,same]
  | .null, _ + 1, w, _ => by simp only [same,sameScalar_cut]
  | .bool _, _ + 1, w, _ => by simp only [same,sameScalar_cut]
  | .int _, _ + 1, w, _ => by simp only [same,sameScalar_cut]
  | .float _, _ + 1, w, _ => by simp only [same,sameScalar_cut]
  | .text _, _ + 1, w, _ => by simp only [same,sameScalar_cut]
  | .bytes _, _ + 1, w, _ => by simp only [same,sameScalar_cut]
  | .date _, _ + 1, w, _ => by simp only [same,sameScalar_cut]
  | .moment _, _ + 1, w, _ => by simp only [same,sameScalar_cut]

theorem sameItems_cut : (xs : List Value) → ∀ {depth : Nat} {ys : List Value}, heightOfItems xs < depth →
    sameItems xs (ys.map (cut depth)) = sameItems xs ys
  | [], _, ys, _ => by cases ys <;> simp only [List.map_nil,List.map_cons,sameItems]
  | x :: xs, depth, ys, higher => by
    simp only [heightOfItems] at higher
    cases ys with
    | nil => rfl
    | cons y ys =>
      have first : same x (y.cut depth) = same x y := same_cut x (by omega)
      have rest : sameItems xs (ys.map (cut depth)) = sameItems xs ys := sameItems_cut xs (by omega)
      simp only [List.map_cons,sameItems,first,rest]

theorem entriesIn_cut : (xs : List (Value × Value)) → ∀ {depth : Nat} {ys : Entries}, heightOfEntries xs < depth →
    entriesIn xs (ys.map fun entry => (entry.1,cut depth entry.2)) = entriesIn xs ys
  | [], _, _, _ => by simp only [entriesIn]
  | (k,v) :: xs, depth, ys, higher => by
    simp only [heightOfEntries] at higher
    have under (w : Value) : same v (w.cut depth) = same v w := same_cut v (by omega)
    have rest : entriesIn xs (ys.map fun entry => (entry.1,cut depth entry.2)) = entriesIn xs ys :=
      entriesIn_cut xs (by omega)
    simp only [entriesIn,List.any_map,rest,Function.comp_def,under]

end

end Comparing

end Value

namespace Entries

variable {entries : Entries}

-- The entries of a mapping, each down to a depth.
def cut (depth : Nat) (entries : Entries) : Entries :=
  entries.map fun entry => (entry.1,entry.2.cut depth)

theorem get_cut (depth : Nat) (key : Value) :
    get? (cut depth entries) key = (get? entries key).map (Value.cut depth) := by
  rw [cut,get_rows,get?,Option.map_map]
  rfl

theorem getOrNull_cut (depth : Nat) (key : Value) :
    getOrNull (cut depth entries) key = (getOrNull entries key).cut depth := by
  rw [getOrNull,getOrNull,get_cut]
  cases get? entries key with
  | none => exact (Value.cut_null depth).symm
  | some v => rfl

end Entries

end TemplateSchema
