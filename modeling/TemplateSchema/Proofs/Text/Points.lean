import TemplateSchema.Text.Basic
/-!
A text is known by its points, and the points of two texts in a row are theirs in a row.
-/
set_option autoImplicit false
namespace TemplateSchema.Text

variable {s t : Text}

theorem cut_chars (cs : List Char) : cut (cs.map Point.char) = (cs,none) := by
  induction cs with
  | nil => rfl
  | cons c cs ih => rw [List.map_cons,cut,ih]

theorem cut_half (cs : List Char) (h : Half) (back : List Point) :
    cut (cs.map Point.char ++ .half h :: back) = (cs,some (h,back)) := by
  induction cs with
  | nil => rfl
  | cons c cs ih => rw [List.map_cons,List.cons_append,cut,ih]

theorem ofPoints_points (t : Text) : ofPoints t.points = t := by
  cases t with
  | whole s => rw [points,ofPoints,cut_chars]; simp only [String.ofList_toList]
  | torn front h back => rw [points,ofPoints,cut_half]; simp only [String.ofList_toList]

theorem points_ofPoints (ps : List Point) : (ofPoints ps).points = ps := by
  have taken : (cut ps).1.map Point.char ++ ((cut ps).2.map fun (h,back) => Point.half h :: back).getD [] = ps := by
    induction ps with
    | nil => rfl
    | cons p ps ih =>
      cases p with
      | char c => rw [cut,List.map_cons,List.cons_append,ih]
      | half h => rfl
  unfold ofPoints
  rcases parts : cut ps with ⟨front,_ | ⟨h,back⟩⟩ <;> rw [parts] at taken <;> simpa [points] using taken

theorem points_same (same : s.points = t.points) : s = t := by
  rw [←ofPoints_points s,←ofPoints_points t,same]

@[simp] theorem whole_append (front back : String) : whole front ++ whole back = whole (front ++ back) :=
  rfl

theorem append_points (s t : Text) : (s ++ t).points = s.points ++ t.points := by
  change (append s t).points = s.points ++ t.points
  rcases s with s | ⟨front,h,back⟩
  · rcases t with t | ⟨front,h,back⟩ <;> simp [append,points]
  · simp [append,points]

theorem holds_exact (c : Char) (t : Text) : t.holds c = true ↔ .char c ∈ t.points := by
  rcases t with s | ⟨front,h,back⟩ <;> simp [holds,points]

theorem isEmpty_exact (t : Text) : t.isEmpty = true ↔ t = "" := by
  rcases t with s | ⟨front,h,back⟩ <;> simp [isEmpty]

theorem points_empty : t.points = [] ↔ t = "" :=
  ⟨fun none_ => points_same (none_.trans rfl),fun same => same ▸ rfl⟩

theorem append_empty : s ++ t = "" ↔ s = "" ∧ t = "" := by
  rw [←points_empty,append_points,List.append_eq_nil_iff,points_empty,points_empty]

theorem intercalate_cons {separator : Text} {rest : List Text} (more : rest ≠ []) :
    intercalate separator (t :: rest) = t ++ separator ++ intercalate separator rest := by
  obtain ⟨_,_,rfl⟩ := List.exists_cons_of_ne_nil more
  rfl

end TemplateSchema.Text
