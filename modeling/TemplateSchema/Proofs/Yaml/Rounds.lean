import TemplateSchema.Proofs.Value.Cut
import TemplateSchema.Yaml.Document
/-!
Going round in a document that holds itself. However often it is gone round, the value is the same
down to a depth of that many rounds.
-/
set_option autoImplicit false
namespace TemplateSchema.Yaml

variable {value other : Nat → Value} {contents : Array (Option Content)} {depth rounds more : Nat}

-- What is made of a node is known a level further down than what is in it.
theorem valued_cut (content : Content) (same : ∀ number, (value number).cut depth = (other number).cut depth) :
    (content.valued value).cut (depth + 1) = (content.valued other).cut (depth + 1) := by
  cases content with
  | scalar v => rfl
  | set members => rfl
  | list items => simp [Content.valued,Value.cut,same]
  | map entries => simp [Content.valued,Value.cut,same]
  | pairs items =>
    cases depth with
    | zero => simp [Content.valued,Value.cut]
    | succ depth =>
      have above (number : Nat) : (value number).cut depth = (other number).cut depth :=
        Value.cut_less (Nat.le_succ depth) (same number)
      simp [Content.valued,Value.cut,above]

-- A number may be gone into as deep as there are rounds left, and a level deeper if it does not stand inside
-- of itself.
def Reaches (depth rounds : Nat) (around : List Nat) (number : Nat) : Prop :=
  depth ≤ rounds ∨ around.contains number = false ∧ depth ≤ rounds + 1

-- One level of a value: what is in it is gone into with the rounds that are left.
theorem unfold_step (contents : Array (Option Content)) (fuel : Nat) {around : List Nat} {number : Nat}
    (reaches : Reaches (depth + 1) rounds around number) :
    ∃ left within, depth ≤ left ∧ Content.unfold contents (fuel + 1) rounds around number =
      match contents.getD number none with
      | none => .null
      | some content => content.valued (Content.unfold contents fuel left within) := by
  cases inside : around.contains number with
  | false =>
    refine ⟨rounds,number :: around,?_,?_⟩
    · rcases reaches with enough | ⟨_,enough⟩ <;> omega
    · simp only [Content.unfold,inside]
      rfl
  | true =>
    rcases reaches with enough | ⟨outside,_⟩
    · cases rounds with
      | zero => omega
      | succ left =>
        refine ⟨left,[number],by omega,?_⟩
        simp only [Content.unfold,inside]
        rfl
    · cases inside.symm.trans outside

-- By induction on the depth: down to it, rounds that reach that far make no difference.
theorem unfold_cut {fuel others : Nat} {around within : List Nat} (number : Nat) (fueled : depth ≤ fuel)
    (refueled : depth ≤ others) (reaches : Reaches depth rounds around number)
    (further : Reaches depth more within number) :
    (Content.unfold contents fuel rounds around number).cut depth =
      (Content.unfold contents others more within number).cut depth := by
  induction depth generalizing fuel others rounds more around within number with
  | zero => rfl
  | succ depth ih =>
    obtain ⟨fuel,rfl⟩ : ∃ less, fuel = less + 1 := ⟨fuel - 1,by omega⟩
    obtain ⟨others,rfl⟩ : ∃ less, others = less + 1 := ⟨others - 1,by omega⟩
    obtain ⟨left,_,enough,first⟩ := unfold_step contents fuel reaches
    obtain ⟨right,_,plenty,second⟩ := unfold_step contents others further
    rw [first,second]
    cases contents.getD number none with
    | none => rfl
    | some content =>
      apply valued_cut
      intro inner
      exact ih inner (by omega) (by omega) (.inl enough) (.inl plenty)

-- The same text fails in the same way, or has values that agree.
theorem loadTo_cut (text : String) (deeper : rounds ≤ more) :
    (loadTo more text).map (Value.cut (rounds + 1)) = (loadTo rounds text).map (Value.cut (rounds + 1)) := by
  unfold loadTo
  simp only
  split
  · rfl
  · split
    · rfl
    · rfl
    · rename_i nodes root _
      split
      · rfl
      · rename_i built _
        have reaches {many : Nat} (enough : rounds ≤ many) : Reaches (rounds + 1) many [] root :=
          .inr ⟨rfl,by omega⟩
        have fueled {many : Nat} (enough : rounds ≤ many) : rounds + 1 ≤ (many + 1) * (nodes.size + 1) :=
          Nat.le_trans (Nat.succ_le_succ enough) (Nat.le_mul_of_pos_right _ (Nat.succ_pos _))
        have itself : rounds ≤ rounds := Nat.le_refl rounds
        apply congrArg Except.ok
        exact unfold_cut root (fueled deeper) (fueled itself) (reaches deeper) (reaches itself)

end TemplateSchema.Yaml
