import SourceMatch.CommandLine.World

/-!
What holds behind a part of a command, whether it came to its end or failed. A sequence is followed
step by step: what holds behind the first step is what the second one begins with.
-/
namespace SourceMatch.CommandLine.Action

variable {α β ε : Type} {x : Action α} {f : α → Action β} {w : World} {r : Except ε α}
  {wrap : ε → CommandError} {mid : Except CommandError α → World → Prop}
  {post : Except CommandError β → World → Prop}

/-- Begun in the world `w`, the action comes to a result and a world for which `post` holds. -/
def Meets (x : Action α) (w : World) (post : Except CommandError α → World → Prop) : Prop :=
  post (x.run.run w).1 (x.run.run w).2

theorem run_bind (x : Action α) (f : α → Action β) (w : World) :
    (x >>= f).run.run w =
      match x.run.run w with
      | (.ok a, w') => (f a).run.run w'
      | (.error e, w') => (.error e, w') := by
  simp only [ExceptT.run_bind, StateT.run_bind]
  cases x.run.run w with
  | mk r w' => cases r <;> rfl

theorem meets_lift (ok : ∀ a, r = .ok a → mid (.ok a) w)
    (error : ∀ e, r = .error e → mid (.error (wrap e)) w) : (lift wrap r).Meets w mid := by
  cases r with
  | ok a => exact ok a rfl
  | error e => exact error e rfl

namespace Meets

theorem imp {weaker : Except CommandError α → World → Prop} (h : x.Meets w mid)
    (implies : ∀ r w', mid r w' → weaker r w') : x.Meets w weaker :=
  implies _ _ h

theorem and {other : Except CommandError α → World → Prop} (h : x.Meets w mid)
    (h' : x.Meets w other) : x.Meets w fun r w' => mid r w' ∧ other r w' :=
  ⟨h, h'⟩

theorem bind
    (h : x.Meets w fun r w' =>
      match r with
      | .ok a => (f a).Meets w' post
      | .error e => post (.error e) w') : (x >>= f).Meets w post := by
  rw [Meets] at h
  rw [Meets, run_bind]
  cases hx : x.run.run w with
  | mk r w' =>
    rw [hx] at h
    cases r with
    | ok a => exact h
    | error e => exact h

theorem followed (h : x.Meets w mid) (ok : ∀ a w', mid (.ok a) w' → (f a).Meets w' post)
    (error : ∀ e w', mid (.error e) w' → post (.error e) w') : (x >>= f).Meets w post := by
  refine bind ?_
  rw [Meets] at h ⊢
  generalize (x.run.run w).1 = r at h ⊢
  cases r with
  | ok a => exact ok a _ h
  | error e => exact error e _ h

theorem bind_get {f : World → Action β} (h : (f w).Meets w post) :
    ((get : Action World) >>= f).Meets w post := h

theorem bind_modify {change : World → World} {f : Unit → Action β}
    (h : (f ()).Meets (change w) post) : ((modify change : Action Unit) >>= f).Meets w post := h

theorem bind_lift (ok : ∀ a, r = .ok a → (f a).Meets w post)
    (error : ∀ e, r = .error e → post (.error (wrap e)) w) :
    (lift wrap r >>= f).Meets w post := by
  cases r with
  | ok a => exact ok a rfl
  | error e => exact error e rfl

end Meets

/-- The action changes nothing, and its result depends on the disk alone. -/
def Looks (x : Action α) : Prop :=
  ∀ w w' : World, w'.disk = w.disk → x.run.run w' = ((x.run.run w).1, w')

namespace Looks

theorem pure (a : α) : Looks (pure a : Action α) := fun _ _ _ => rfl

theorem throw (e : CommandError) : Looks (throw e : Action α) := fun _ _ _ => rfl

theorem lift : Looks (lift wrap r) := by
  cases r with
  | ok a => exact .pure a
  | error e => exact .throw (wrap e)

theorem bind (h : x.Looks) (onward : ∀ a, (f a).Looks) : (x >>= f).Looks := by
  intro w w' same
  have stays := h w w rfl
  rw [run_bind, run_bind, h w w' same]
  generalize x.run.run w = result at stays ⊢
  obtain ⟨r, w''⟩ := result
  cases stays
  cases r with
  | ok a => exact onward a w w' same
  | error e => rfl

theorem bind_get {f : World → Action β} (h : ∀ w, (f w).Looks)
    (alike : ∀ w w', w'.disk = w.disk → f w' = f w) : ((get : Action World) >>= f).Looks := by
  intro w w' same
  change (f w').run.run w' = (((f w).run.run w).1, w')
  rw [alike w w' same]
  exact h w w w' same

theorem mapM (h : ∀ a, (f a).Looks) (as : List α) : (as.mapM f).Looks := by
  induction as with
  | nil => exact .pure []
  | cons a as ih =>
    rw [List.mapM_cons]
    exact (h a).bind fun b => ih.bind fun bs => .pure (b :: bs)

theorem loadTree (root : String) : (loadTree root).Looks :=
  .bind_get (fun _ => .lift) fun w w' same => by rw [same]

theorem readFile (path : String) : (readFile path).Looks :=
  .bind_get (fun _ => .lift) fun w w' same => by rw [same]

theorem meets {w' : World} {a : α} (h : x.Looks) (gives : x.Meets w fun r _ => r = .ok a)
    (same : w'.disk = w.disk) : x.Meets w' fun r w'' => r = .ok a ∧ w'' = w' := by
  rw [Meets, h w w' same]
  exact ⟨gives, rfl⟩

end Looks

def Prints (x : Action α) : Prop :=
  ∀ w : World, ∃ a lines, x.run.run w = (.ok a, { w with printed := w.printed ++ lines })

namespace Prints

theorem pure (a : α) : Prints (pure a : Action α) := fun _ => ⟨a, [], by rw [List.append_nil]; rfl⟩

theorem print (line : String) : (print line).Prints := fun _ => ⟨(), [line], rfl⟩

theorem bind (h : x.Prints) (onward : ∀ a, (f a).Prints) : (x >>= f).Prints := by
  intro w
  obtain ⟨a, lines, run⟩ := h w
  obtain ⟨b, more, run'⟩ := onward a { w with printed := w.printed ++ lines }
  refine ⟨b, lines ++ more, ?_⟩
  rw [run_bind, run, ← List.append_assoc]
  exact run'

theorem forM {f : α → Action PUnit} (h : ∀ a, (f a).Prints) (as : List α) :
    (as.forM f).Prints := by
  induction as with
  | nil => exact .pure ()
  | cons a as ih => exact (h a).bind fun _ => ih

theorem forM_option {f : α → Action PUnit} (h : ∀ a, (f a).Prints) (a? : Option α) :
    (a?.forM f).Prints := by
  cases a? with
  | none => exact .pure ()
  | some a => exact h a

theorem meets (h : x.Prints) (w : World) :
    x.Meets w fun r w' => (∃ a, r = .ok a) ∧ w'.disk = w.disk ∧ w'.network = w.network := by
  obtain ⟨a, lines, run⟩ := h w
  rw [Meets, run]
  exact ⟨⟨a, rfl⟩, rfl, rfl⟩

end Prints

end SourceMatch.CommandLine.Action
