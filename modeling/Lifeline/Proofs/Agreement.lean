import Lifeline.Fault

namespace Lifeline

variable {σ α β : Type}

def Ends (fault : Fault → Prop) (ok : α → Prop) : Except Fault α → Prop
  | .ok x => ok x
  | .error f => fault f

namespace Ends

variable {fault : Fault → Prop}

theorem of_error {ok : α → Prop} {x : Except Fault α} {f : Fault} (h : Ends fault ok x)
    (hf : x = .error f) : fault f := by
  subst hf
  exact h

theorem bind {x : Except Fault α} {k : α → Except Fault β} (hx : Ends fault (fun _ => True) x)
    (hk : ∀ a, Ends fault (fun _ => True) (k a)) : Ends fault (fun _ => True) (x >>= k) := by
  cases x with
  | ok a => exact hk a
  | error f => exact hx

theorem mapM {g : α → Except Fault β} (h : ∀ a, Ends fault (fun _ => True) (g a)) (l : List α) :
    Ends fault (fun _ => True) (l.mapM g) := by
  induction l with
  | nil => trivial
  | cons a rest ih =>
    rw [List.mapM_cons]
    exact (h a).bind fun _ => ih.bind fun _ => trivial

theorem filterM {test : α → Except Fault Bool} (h : ∀ a, Ends fault (fun _ => True) (test a))
    (l : List α) : Ends fault (fun _ => True) (l.filterM test) := by
  have haux (acc : List α) : Ends fault (fun _ => True) (l.filterAuxM test acc) := by
    induction l generalizing acc with
    | nil => trivial
    | cons a rest ih => exact (h a).bind fun _ => ih _
  exact (haux []).bind fun _ => trivial

end Ends

/-- From this state both actions do the same, and what they do is as stated. -/
def Agree (v w : ExceptT Fault (StateM σ) α) (s : σ) (post : Except Fault α → σ → Prop) : Prop :=
  v s = w s ∧ post (v s).1 (v s).2

namespace Agree

variable {v w : ExceptT Fault (StateM σ) α} {k l : α → ExceptT Fault (StateM σ) β} {s : σ}
variable {post weaker : Except Fault α → σ → Prop} {after : Except Fault β → σ → Prop}

theorem eq (h : Agree v w s post) : v s = w s := h.1

theorem result (h : Agree v w s post) : post (v s).1 (v s).2 := h.2

theorem mono (h : Agree v w s post) (imp : ∀ r s', post r s' → weaker r s') : Agree v w s weaker :=
  ⟨h.1, imp _ _ h.2⟩

theorem of_eq (same : v s = w s) (h : Agree v v s post) : Agree v w s post :=
  ⟨same, h.2⟩

theorem pure {x : α} (h : post (.ok x) s) : Agree (Pure.pure x) (Pure.pure x) s post :=
  ⟨rfl, h⟩

theorem throw {f : Fault} (h : post (.error f) s) :
    Agree (MonadExcept.throw f) (MonadExcept.throw f : ExceptT Fault (StateM σ) α) s post :=
  ⟨rfl, h⟩

theorem run_bind (v : ExceptT Fault (StateM σ) α) (k : α → ExceptT Fault (StateM σ) β) (s : σ) :
    (v >>= k) s = match v s with
      | (.ok x, s') => k x s'
      | (.error f, s') => (.error f, s') := by
  show (match v s with | (r, s') => ExceptT.bindCont k r s') = _
  rcases v s with ⟨_ | _, _⟩ <;> rfl

theorem run_lift_ok (a : α) (k : α → ExceptT Fault (StateM σ) β) (s : σ) :
    ((liftM (.ok a : Except Fault α) : ExceptT Fault (StateM σ) α) >>= k) s = k a s := rfl

theorem run_lift_error (f : Fault) (k : α → ExceptT Fault (StateM σ) β) (s : σ) :
    ((liftM (.error f : Except Fault α) : ExceptT Fault (StateM σ) α) >>= k) s = (.error f, s) :=
      rfl

theorem bind (h : Agree v w s post) (ok : ∀ x s', post (.ok x) s' → Agree (k x) (l x) s' after)
    (fail : ∀ f s', post (.error f) s' → after (.error f) s') :
    Agree (v >>= k) (w >>= l) s after := by
  obtain ⟨same, hpost⟩ := h
  unfold Agree
  rw [run_bind, run_bind, ← same]
  rcases hv : v s with ⟨f | x, s'⟩
  · rw [hv] at hpost
    exact ⟨rfl, fail f s' hpost⟩
  · rw [hv] at hpost
    exact ok x s' hpost

theorem both_then {x : α} {s' : σ} (hv : v s = (.ok x, s')) (hw : w s = (.ok x, s'))
    (h : Agree (k x) (l x) s' after) : Agree (v >>= k) (w >>= l) s after := by
  unfold Agree
  rw [run_bind, run_bind, hv, hw]
  exact h

theorem run_then {x : α} {s' : σ} (hv : v s = (.ok x, s')) (h : Agree (k x) (l x) s' after) :
    Agree (v >>= k) (v >>= l) s after :=
  both_then hv hv h

theorem both_fail {f : Fault} {s' : σ} (hv : v s = (.error f, s')) (hw : w s = (.error f, s'))
    (h : after (.error f) s') : Agree (v >>= k) (w >>= l) s after := by
  unfold Agree
  rw [run_bind, run_bind, hv, hw]
  exact ⟨rfl, h⟩

theorem ite {p : Prop} [Decidable p] {v' w' : ExceptT Fault (StateM σ) α}
    (yes : p → Agree v w s post) (no : ¬p → Agree v' w' s post) :
    Agree (if p then v else v') (if p then w else w') s post := by
  by_cases h : p
  · rw [if_pos h, if_pos h]
    exact yes h
  · rw [if_neg h, if_neg h]
    exact no h

theorem get_bind {k l : σ → ExceptT Fault (StateM σ) β} (h : Agree (k s) (l s) s after) :
    Agree (get >>= k) (get >>= l) s after := h

theorem modify_bind {u : σ → σ} {k l : PUnit → ExceptT Fault (StateM σ) β}
    (h : Agree (k ⟨⟩) (l ⟨⟩) (u s) after) : Agree (modify u >>= k) (modify u >>= l) s after := h

theorem lift_bind {x : Except Fault α} (ok : ∀ a, x = .ok a → Agree (k a) (l a) s after)
    (fail : ∀ f, x = .error f → after (.error f) s) :
    Agree ((liftM x : ExceptT Fault (StateM σ) α) >>= k)
      ((liftM x : ExceptT Fault (StateM σ) α) >>= l) s after := by
  cases x with
  | ok a => exact ok a rfl
  | error f => exact ⟨rfl, fail f rfl⟩

end Agree

end Lifeline
