import TemplateSchema.Proofs.Chain.Progress
/-!
Walks in two places. A walk looks at the tokens from where it starts on and at the text between them. One
that succeeds looks no further than to the token behind those that it went over. Where all of this is the
same, a walk elsewhere goes the same way, and so does one that may go deeper.
-/
set_option autoImplicit false
namespace TemplateSchema.Chain

section Places

variable {α β : Type}

def Trip.moved (p p' : Nat) (trip : Trip α) : Trip α :=
  { trip with outcome := trip.outcome.map fun (a,q) => (a,p' + (q - p)) }

-- A failure may come from any token, a success from none behind the one where it ends.
def Trip.Sees (trip : Trip α) (k : Nat) : Prop :=
  ∀ a q, trip.outcome = .ok (a,q) → k ≤ q

variable (source source' : List Char) (all all' : List Token)

-- The tokens that are seen from one position are those from another one. So is the text from any of them to
-- the end of a later one that was gone over: what stands behind that one is seen then.
structure Alike (sees : Nat → Prop) (p p' : Nat) : Prop where
  tokens : ∀ i, sees (p + i) → all'[p' + i]? = all[p + i]?
  texts : ∀ (i j : Nat) (t u : Token), i ≤ j → sees (p + j + 1) → all[p + i]? = some t → all[p + j]? = some u →
    piece source' t.start u.stop = piece source t.start u.stop

def Steady (x x' : Walk α) : Prop :=
  ∀ p trip, x p = some trip → (∀ a q, trip.outcome = .ok (a,q) → p ≤ q) ∧
    ∀ p', Alike source source' all all' trip.Sees p p' → x' p' = some (trip.moved p p')

variable {source source' all all'} {p p' : Nat}

theorem Alike.fewer {sees less : Nat → Prop} (alike : Alike source source' all all' sees p p')
    (fewer : ∀ k, less k → sees k) : Alike source source' all all' less p p' :=
  ⟨fun i seen => alike.tokens i (fewer _ seen),fun i j t u order seen => alike.texts i j t u order (fewer _ seen)⟩

theorem Alike.ahead {sees : Nat → Prop} (alike : Alike source source' all all' sees p p') (k : Nat) :
    Alike source source' all all' sees (p + k) (p' + k) := by
  refine ⟨?_,?_⟩
  · intro i seen
    rw [Nat.add_assoc] at seen ⊢
    rw [Nat.add_assoc]
    exact alike.tokens (k + i) seen
  · intro i j t u order seen first last
    rw [Nat.add_assoc p] at seen first last
    exact alike.texts (k + i) (k + j) t u (by omega) seen first last

theorem steady_still (y : Traced α) : Steady source source' all all' (Walk.still y) (Walk.still y) := by
  intro p trip walked
  cases walked
  refine ⟨?_,?_⟩
  · intro a q read
    obtain ⟨_,_,same⟩ := Success.map_exact.mp read
    cases same
    exact Nat.le_refl _
  · intro p' _
    cases outcome : y.outcome <;> simp [Walk.still,Trip.moved,outcome,Except.map]

theorem steady_pure (a : α) : Steady source source' all all' (pure a : Walk α) (pure a) :=
  steady_still (Traced.done a)

theorem steady_failing (fault : Fault) :
    Steady source source' all all' (Walk.failing fault : Walk α) (Walk.failing fault) :=
  steady_still (fail fault)

theorem steady_skip : Steady source source' all all' Walk.skip Walk.skip := by
  intro p trip walked
  cases walked
  refine ⟨?_,?_⟩
  · rintro _ _ ⟨⟩
    exact Nat.le_succ p
  · intro p' _
    simp [Walk.skip,Trip.moved,Except.map]

theorem steady_peek : Steady source source' all all' (Walk.peek all) (Walk.peek all') := by
  intro p trip walked
  cases walked
  refine ⟨?_,?_⟩
  · rintro _ _ ⟨⟩
    exact Nat.le_refl p
  · intro p' alike
    have here := alike.tokens 0 (by rintro _ _ ⟨⟩; exact Nat.le_refl p)
    simp only [Nat.add_zero] at here
    simp [Walk.peek,Trip.moved,Except.map,here]

theorem steady_enter {x x' : Walk α} (steady : Steady source source' all all' x x') :
    Steady source source' all all' (Walk.enter x) (Walk.enter x') := by
  intro p trip walked
  obtain ⟨inner,read,rfl⟩ := Option.map_eq_some_iff.mp walked
  obtain ⟨grows,same⟩ := steady p inner read
  refine ⟨grows,?_⟩
  intro p' alike
  rw [Walk.enter,same p' alike]
  rfl

theorem steady_bind {x x' : Walk α} {next next' : α → Walk β} (front : Steady source source' all all' x x')
    (later : ∀ a, Steady source source' all all' (next a) (next' a)) :
    Steady source source' all all' (x >>= next) (x' >>= next') := by
  intro p trip walked
  change Walk.andThen x next p = some trip at walked
  unfold Walk.andThen at walked
  cases read : x p with
  | none =>
    rw [read] at walked
    cases walked
  | some first =>
    obtain ⟨grows,same⟩ := front p first read
    rw [read] at walked
    cases outcome : first.outcome with
    | error f =>
      simp only [outcome] at walked
      cases walked
      refine ⟨nofun,?_⟩
      intro p' alike
      have again := same p' (alike.fewer fun _ _ => nofun)
      change Walk.andThen x' next' p' = _
      simp only [Walk.andThen,again,Trip.moved,outcome,Except.map]
    | ok reached =>
      obtain ⟨a,q⟩ := reached
      have order := grows a q outcome
      simp only [outcome] at walked
      obtain ⟨second,further,rfl⟩ := Option.map_eq_some_iff.mp walked
      obtain ⟨growsThere,sameThere⟩ := later a q second further
      refine ⟨fun b r ends => order.trans (growsThere b r ends),?_⟩
      intro p' alike
      -- The whole sees what its first part sees: if it succeeds, it ends no sooner.
      have again := same p' (alike.fewer fun k seen b r ends => (seen a q outcome).trans (growsThere b r ends))
      have there : p + (q - p) = q := by omega
      have beyond := alike.ahead (q - p)
      rw [there] at beyond
      have onward := sameThere (p' + (q - p)) beyond
      change Walk.andThen x' next' p' = _
      simp only [Walk.andThen,again,Trip.moved,outcome,Except.map,onward,Option.map_some]
      cases ending : second.outcome with
      | error f => rfl
      | ok end_ =>
        have later_ := growsThere _ _ ending
        simp only
        congr 4
        omega

theorem steady_ite {c : Prop} [Decidable c] {x x' y y' : Walk α} (yes : Steady source source' all all' x x')
    (no : Steady source source' all all' y y') :
    Steady source source' all all' (if c then x else y) (if c then x' else y') := by
  by_cases holds : c
  · rw [if_pos holds,if_pos holds]
    exact yes
  · rw [if_neg holds,if_neg holds]
    exact no

theorem steady_next : Steady source source' all all' (Walk.next all) (Walk.next all') := by
  refine steady_bind steady_peek ?_
  intro seen
  cases seen with
  | none => exact steady_failing _
  | some t => exact steady_bind steady_skip fun _ => steady_pure t

theorem steady_accept (m : Char) : Steady source source' all all' (Walk.accept all m) (Walk.accept all' m) := by
  refine steady_bind steady_peek ?_
  intro seen
  cases seen with
  | none => exact steady_pure false
  | some t => exact steady_ite (steady_bind steady_skip fun _ => steady_pure true) (steady_pure false)

theorem steady_require (m : Char) : Steady source source' all all' (Walk.require all m) (Walk.require all' m) :=
  steady_bind steady_next fun _ => steady_ite (steady_pure ()) (steady_failing _)

theorem Alike.taken {sees : Nat → Prop} {n : Nat} (alike : Alike source source' all all' sees p p')
    (seen : ∀ k, k ≤ p + n → sees k) : (all'.drop p').take n = (all.drop p).take n := by
  refine List.ext_getElem? ?_
  intro i
  rw [List.getElem?_take,List.getElem?_take]
  split
  · rw [List.getElem?_drop,List.getElem?_drop]
    exact alike.tokens i (seen _ (by omega))
  · rfl

theorem Alike.text {sees : Nat → Prop} {n : Nat} (alike : Alike source source' all all' sees p p')
    (seen : ∀ k, k ≤ p + n → sees k) :
    Walk.textOf source' ((all'.drop p').take n) = Walk.textOf source ((all.drop p).take n) := by
  rw [alike.taken seen]
  generalize taken : (all.drop p).take n = used
  have within : used.length ≤ n := by rw [← taken]; exact List.length_take_le _ _
  have found : ∀ (i : Nat) (t : Token), used[i]? = some t → all[p + i]? = some t := by
    intro i t there
    obtain ⟨less,_⟩ := List.getElem?_eq_some_iff.mp there
    rwa [← taken,List.getElem?_take_of_lt (by omega),List.getElem?_drop] at there
  cases used with
  | nil => rfl
  | cons t left =>
    obtain ⟨u,last⟩ : ∃ u, (t :: left).getLast? = some u :=
      ⟨_,List.getLast?_eq_some_getLast (List.cons_ne_nil t left)⟩
    have place : (t :: left)[left.length]? = some u := by rw [← last,List.getLast?_eq_getElem?]; rfl
    rw [List.length_cons] at within
    rw [Walk.textOf,Walk.textOf,last]
    exact alike.texts 0 left.length t u (Nat.zero_le _) (seen _ (by omega)) (found 0 t rfl) (found _ u place)

theorem steady_quoting {x x' : Walk α} (steady : Steady source source' all all' x x') :
    Steady source source' all all' (Walk.quoting all source x) (Walk.quoting all' source' x') := by
  intro p trip walked
  obtain ⟨inner,read,rfl⟩ := Option.map_eq_some_iff.mp walked
  obtain ⟨grows,same⟩ := steady p inner read
  refine ⟨?_,?_⟩
  · intro b q ends
    obtain ⟨⟨a,r⟩,outcome,same⟩ := Success.map_exact.mp ends
    cases same
    exact grows a q outcome
  · intro p' alike
    have closer : Alike source source' all all' inner.Sees p p' := by
      refine alike.fewer ?_
      intro k seen b q ends
      obtain ⟨⟨a,r⟩,outcome,same⟩ := Success.map_exact.mp ends
      cases same
      exact seen a q outcome
    rw [Walk.quoting,same p' closer]
    cases outcome : inner.outcome with
    | error f => simp only [Trip.moved,outcome,Except.map,Option.map_some]
    | ok reached =>
      obtain ⟨a,q⟩ := reached
      have order := grows a q outcome
      have text := closer.text (n := q - p) (by
        intro k less b r ends
        rw [outcome] at ends
        cases ends
        omega)
      simp only [Trip.moved,outcome,Except.map,Option.map_some,Nat.add_sub_cancel_left,text]

-- A task stays what it is elsewhere, and where it may go deeper.
theorem steady_walk {depth deeper : Nat} (less : depth ≤ deeper) (task : Task) :
    Steady source source' all all' (walk source all depth task) (walk source' all' deeper task) := by
  induction depth generalizing deeper task with
  | zero =>
    intro p trip walked
    cases walked
  | succ depth ih =>
    obtain ⟨deeper,rfl⟩ := Nat.exists_eq_add_of_le' less
    replace ih : ∀ task : Task, Steady source source' all all' (walk source all depth task)
        (walk source' all' (deeper + depth) task) := fun task => ih (Nat.le_add_left _ _) task
    cases task with
    | enter routine =>
      cases routine with
      | value =>
        refine steady_enter (steady_bind steady_peek ?_)
        intro seen
        cases seen with
        | none => exact steady_failing _
        | some t =>
          simp only
          cases t.kind with
          | string => exact steady_bind steady_skip fun _ => steady_pure _
          | number => exact steady_bind steady_skip fun _ => steady_still _
          | mark =>
            refine steady_ite (steady_bind (ih _) fun _ => steady_pure _) ?_
            exact steady_ite (steady_bind (ih _) fun _ => steady_pure _) (steady_failing _)
          | name =>
            refine steady_ite (steady_bind steady_skip fun _ => steady_pure _) ?_
            refine steady_ite (steady_bind steady_skip fun _ => steady_pure _) ?_
            refine steady_ite (steady_bind steady_skip fun _ => steady_pure _) ?_
            exact steady_ite (steady_bind (ih _) fun _ => steady_pure _) (steady_failing _)
      | object => exact steady_enter (steady_bind (steady_require _) fun _ => ih _)
      | array => exact steady_enter (steady_bind (steady_require _) fun _ => ih _)
      | call =>
        refine steady_enter (steady_bind steady_next fun t => steady_ite ?_ (steady_failing _))
        exact steady_bind (steady_require _) fun _ => steady_bind (ih _) fun _ => steady_pure _
      | chain =>
        refine steady_enter (steady_bind (steady_require _) fun _ => steady_bind (steady_require _) fun _ => ?_)
        exact steady_bind (ih _) fun _ => steady_bind (steady_still _) fun _ => ih _
    | items closing =>
      refine steady_bind (steady_accept _) fun _ => steady_ite (steady_pure _) ?_
      refine steady_bind (ih _) fun _ => steady_bind (steady_accept _) fun _ => ?_
      refine steady_ite (steady_bind (ih _) fun _ => steady_pure _) ?_
      exact steady_bind (steady_require _) fun _ => steady_pure _
    | entries =>
      refine steady_bind (steady_accept _) fun _ => steady_ite (steady_pure _) ?_
      refine steady_bind steady_next fun t => steady_ite ?_ (steady_failing _)
      refine steady_bind (steady_require _) fun _ => steady_bind (steady_quoting (ih _)) fun _ => ?_
      refine steady_bind (steady_accept _) fun _ => ?_
      refine steady_ite (steady_bind (ih _) fun _ => steady_pure _) ?_
      exact steady_bind (steady_require _) fun _ => steady_pure _
    | modifiers declaration =>
      refine steady_bind (steady_accept _) fun _ => steady_ite ?_ (steady_pure _)
      exact steady_bind (ih _) fun _ => steady_bind (steady_still _) fun _ => ih _

theorem alike_self (sees : Nat → Prop) : Alike source source all all sees p p :=
  ⟨fun _ _ => rfl,fun _ _ _ _ _ _ _ _ => rfl⟩

theorem moved_self {trip : Trip α} (grows : ∀ a q, trip.outcome = .ok (a,q) → p ≤ q) : trip.moved p p = trip := by
  obtain ⟨entered,outcome,records⟩ := trip
  cases outcome with
  | error f => rfl
  | ok reached =>
    have order := grows _ _ rfl
    simp only [Trip.moved,Except.map,Nat.add_sub_cancel' order]

theorem walk_deeper {depth deeper : Nat} {task : Task} {trip : Trip task.Result}
    (walked : walk source all depth task p = some trip) (less : depth ≤ deeper) :
    walk source all deeper task p = some trip := by
  have steady : Steady source source all all (walk source all depth task) (walk source all deeper task) :=
    steady_walk less task
  obtain ⟨grows,same⟩ := steady p trip walked
  rw [same p (alike_self _),moved_self grows]

end Places

end TemplateSchema.Chain
