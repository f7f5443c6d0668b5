import TemplateSchema.Proofs.Chain.Locality
/-!
What each of the five routines comes to from any position in any tokens. It ends, having entered no more
routines than the tokens that are left allow for; if it succeeds, it does so further on. What it comes to
hangs on nothing but these tokens and the text that they stand in.
-/
set_option autoImplicit false
namespace TemplateSchema.Chain

-- What a routine comes to if it may go as deep as the tokens that are left need, or deeper.
def Ends (source : List Char) (all : List Token) (r : Routine) (p : Nat) (trip : Trip r.Result) : Prop :=
  ∀ depth, 3 * (all.length - p) + 2 ≤ depth → walk source all depth (.enter r) p = some trip

def SameTexts (source source' : List Char) (ts : List Token) : Prop :=
  ∀ (i j : Nat) (t u : Token), i ≤ j → ts[i]? = some t → ts[j]? = some u →
    piece source' t.start u.stop = piece source t.start u.stop

variable {source source' : List Char} {all all' : List Token} {p p' : Nat}

theorem alike_left (sees : Nat → Prop) (left : all'.drop p' = all.drop p)
    (texts : SameTexts source source' (all.drop p)) : Alike source source' all all' sees p p' := by
  refine ⟨?_,?_⟩
  · intro i _
    rw [← List.getElem?_drop,left,List.getElem?_drop]
  · intro i j t u order _ first last
    rw [← List.getElem?_drop] at first last
    exact texts i j t u order first last

theorem alike_taken {sees : Nat → Prop} {n : Nat} (upTo : ∀ k, sees k → k ≤ p + n)
    (taken : (all'.drop p').take (n + 1) = (all.drop p).take (n + 1))
    (texts : SameTexts source source' ((all.drop p).take n)) : Alike source source' all all' sees p p' := by
  refine ⟨?_,?_⟩
  · intro i seen
    have near := upTo _ seen
    have same := congrArg (·[i]?) taken
    simpa only [List.getElem?_take_of_lt (show i < n + 1 by omega),List.getElem?_drop] using same
  · intro i j t u order seen first last
    have near := upTo _ seen
    refine texts i j t u order ?_ ?_
    · rw [List.getElem?_take_of_lt (by omega),List.getElem?_drop,first]
    · rw [List.getElem?_take_of_lt (by omega),List.getElem?_drop,last]

theorem reserve_few (r : Routine) : (Task.enter r).reserve ≤ 2 := by
  cases r <;> decide

theorem ends_walk {depth : Nat} {r : Routine} {trip : Trip r.Result}
    (walked : walk source all depth (.enter r) p = some trip) : Ends source all r p trip := by
  intro enough room
  have few := reserve_few r
  obtain ⟨other,there,_⟩ := reaches source all enough (.enter r) p _ rfl (by rw [List.length_drop]; omega)
  -- Both are the walk that may go as deep as either of them.
  have one := walk_deeper there (Nat.le_max_left enough depth)
  have two := walk_deeper walked (Nat.le_max_right enough depth)
  rw [there,← one,two]

theorem ends_alike {r : Routine} {trip : Trip r.Result} (ends : Ends source all r p trip)
    (alike : Alike source source' all all' trip.Sees p p') : Ends source' all' r p' (trip.moved p p') :=
  ends_walk ((steady_walk (Nat.le_refl _) (.enter r) p trip (ends _ (Nat.le_refl _))).2 p' alike)

theorem agrees_fails {α : Type} {spare : Nat} {trip : Trip α} {y : Traced (α × List Token)} {f : Failure}
    (agrees : Agrees all spare id p (all.drop p) trip y) (failed : y.outcome = .error f) :
    trip.outcome = .error f ∧ Blames (all.drop p) f ∧ trip.entered ≤ 2 * (all.length - p) + 2 := by
  obtain ⟨outcome,blames,bound⟩ := agrees.fails f failed
  rw [List.length_drop] at bound
  exact ⟨outcome,blames,by omega⟩

-- A trip that counts a routine ends behind the place where it began.
theorem agrees_reads {α : Type} {spare : Nat} {trip : Trip α} {y : Traced (α × List Token)} {c : α × List Token}
    (agrees : Agrees all spare id p (all.drop p) trip y) (counted : 1 ≤ trip.entered) (read : y.outcome = .ok c) :
    trip.outcome = .ok (c.1,all.length - c.2.length) ∧ p < all.length - c.2.length ∧
      trip.entered ≤ 2 * (all.length - c.2.length - p) := by
  obtain ⟨q,outcome,_,length,bound⟩ := agrees.reads c read
  rw [List.length_drop,id] at length
  have place : q = all.length - c.2.length := by omega
  rw [← place]
  exact ⟨outcome,by omega,by omega⟩

theorem routine_progress (source : List Char) (all : List Token) (r : Routine) (p : Nat) :
    ∃ trip : Trip r.Result, Ends source all r p trip ∧
      1 ≤ trip.entered ∧ trip.entered ≤ 2 * (all.length - p) + 2 ∧
      trip.records = (reading source (.enter r) (all.drop p)).records ∧
      trip.outcome = (reading source (.enter r) (all.drop p)).outcome.map
        (fun found => (found.1,all.length - found.2.length)) ∧
      (∀ f, trip.outcome = .error f → Blames (all.drop p) f) ∧
      (∀ a q, trip.outcome = .ok (a,q) → p < q ∧ q ≤ all.length ∧ trip.entered ≤ 2 * (q - p)) ∧
      (∀ source' all' p', all'.drop p' = all.drop p → SameTexts source source' (all.drop p) →
        Ends source' all' r p' (trip.moved p p')) ∧
      ∀ a q, trip.outcome = .ok (a,q) → ∀ source' all' p',
        (all'.drop p').take (q - p + 1) = (all.drop p).take (q - p + 1) →
        SameTexts source source' ((all.drop p).take (q - p)) → Ends source' all' r p' (trip.moved p p') := by
  have few := reserve_few r
  obtain ⟨trip,walked,agrees⟩ := reaches source all (3 * (all.length - p) + 2) (.enter r) p _ rfl
    (by rw [List.length_drop]; omega)
  have counted := routine_counted walked
  have ends := ends_walk walked
  refine ⟨trip,ends,counted,?_⟩
  have everywhere : ∀ source' all' p', all'.drop p' = all.drop p → SameTexts source source' (all.drop p) →
      Ends source' all' r p' (trip.moved p p') :=
    fun _ _ _ left texts => ends_alike ends (alike_left trip.Sees left texts)
  cases outcome : (reading source (.enter r) (all.drop p)).outcome with
  | error f =>
    obtain ⟨failed,blames,bound⟩ := agrees_fails agrees outcome
    rw [failed]
    refine ⟨bound,agrees.records,rfl,?_,nofun,everywhere,nofun⟩
    rintro _ ⟨⟩
    exact blames
  | ok found =>
    obtain ⟨read,further,bound⟩ := agrees_reads agrees counted outcome
    rw [read]
    refine ⟨by omega,agrees.records,rfl,nofun,?_,everywhere,?_⟩
    · rintro _ _ ⟨⟩
      exact ⟨further,Nat.sub_le _ _,bound⟩
    · rintro _ _ ⟨⟩ source' all' p' taken texts
      refine ends_alike ends (alike_taken ?_ taken texts)
      intro k seen
      have less := seen _ _ read
      omega

-- Routines that fail at the end are counted as well.
example : (walk [] [⟨.mark,['['],0,1⟩,⟨.mark,['['],1,2⟩,⟨.mark,['['],2,3⟩] 11 (.enter .value) 0).map Trip.entered =
    some 7 := by
  decide

section Ones

def ones (n : Nat) : Token :=
  ⟨.number,List.replicate n '1',0,n⟩

theorem ones_lexeme (n : Nat) : lexeme? '1' (List.replicate n '1') = some (.number,n) := by
  have digits : digitsLength (List.replicate n '1') = n := by
    rw [digitsLength,List.takeWhile_replicate,if_pos (by decide),List.length_replicate]
  have length : numberLength (List.replicate n '1') = n := by
    simp only [numberLength,digits,List.drop_replicate,Nat.sub_self,List.replicate_zero,fractionLength,Nat.add_zero,
      exponentLength]
  rw [lexeme?,if_neg (by decide),if_pos (by decide),length]

theorem ones_read (n : Nat) : tokens (List.replicate (n + 1) '1') = .ok [ones (n + 1)] := by
  have nothing : (List.replicate n '1').drop n = [] := List.drop_of_length_le (by rw [List.length_replicate])
  have whole : (List.replicate n '1').take n = List.replicate n '1' :=
    List.take_of_length_le (by rw [List.length_replicate])
  have lexed : Lexed 0 ('1' :: List.replicate n '1') _ :=
    .token (by decide) (ones_lexeme n) (by rw [nothing]; exact .done)
  rw [whole,Nat.zero_add,Nat.add_comm] at lexed
  exact tokensFrom_exact.mpr lexed

theorem ones_value {n : Nat} (many : Numeral.digitLimit < n) : numberValue (ones n).text = .error (.digits n) := by
  have whole : ((ones n).text.any fun c => c == '.' || c == 'e' || c == 'E') = false := by
    simp [ones]
  have count : Numeral.digitCount (ones n).text = n := by
    rw [Numeral.digitCount,ones,List.countP_replicate,if_pos (by decide)]
  rw [numberValue,whole,count,if_neg Bool.false_ne_true,if_pos many]

theorem ones_walked {n : Nat} (many : Numeral.digitLimit < n) (source : List Char) :
    walk source [ones n] 1 (.enter .value) 0 = some ⟨1,.error (.digits n),[]⟩ := by
  rw [walk,Walk.enter,Walk.bind_at (peek_at rfl)]
  change (Walk.still (Traced.ofExcept (numberValue (ones n).text)) 1).map _ = _
  rw [ones_value many]
  rfl

theorem overlong_escapes : tokens (List.replicate 4301 '1') = .ok [ones 4301] ∧
    ∃ trip, Ends (List.replicate 4301 '1') [ones 4301] .value 0 trip ∧ trip.outcome = .error (.digits 4301) ∧
      ¬ ((∃ fault, trip.outcome = .error (.chain fault)) ∨ ∃ a q, trip.outcome = .ok (a,q)) := by
  refine ⟨ones_read 4300,⟨1,.error (.digits 4301),[]⟩,ends_walk (ones_walked (by decide) _),rfl,?_⟩
  rintro (⟨_,⟨⟩⟩ | ⟨_,_,⟨⟩⟩)

end Ones

end TemplateSchema.Chain
